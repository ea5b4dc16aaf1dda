import SuiteEngine.Calendar
import SuiteEngine.Schema.Finding
import SuiteEngine.Schema.Format.Address
import SuiteEngine.Text.Case
import SuiteEngine.Text.Numeral

/-!
# Formats

A format is a named condition on texts. A name that is not known puts no condition on anything, and a
value that is no text meets every condition.
-/

namespace SuiteEngine.Schema.Format

/-! ## The formats of dates, times and durations -/

/-- The number that some of the characters of a text write. -/
def numberAt (cs : List Char) (start length : Nat) : Nat :=
  Text.ofDigits (((cs.drop start).take length).map fun c => c.toNat - 48)

/-- Whether the text is a day, written as year, month and day with dashes. -/
def isDate (s : String) : Bool :=
  let cs := s.toList
  matchesPattern "\\A[0-9]\x7b4\x7d-[0-9]\x7b2\x7d-[0-9]\x7b2\x7d\\Z" s
    && Calendar.isDay (numberAt cs 0 4) (numberAt cs 5 2) (numberAt cs 8 2)

/-- Whether the text is a day and a time of day with its offset. -/
def isDateTime (s : String) : Bool :=
  let cs := s.toList
  matchesPattern ("^[0-9]\x7b4\x7d-(?:0[1-9]|1[0-2])-[0-9]\x7b2\x7d[Tt](?:[01][0-9]|2[0123]):[0-5][0-9]"
    ++ ":[0-5][0-9](?:\\.[0-9]+)?(?:[Zz]|[+-](?:[01][0-9]|2[0123]):[0-5][0-9])$") s
    && Calendar.isDay (numberAt cs 0 4) (numberAt cs 5 2) (numberAt cs 8 2)

/-- Whether the text is a time of day: hours, minutes and seconds, without an offset. -/
def isTime (s : String) : Bool :=
  matchesPattern "\\A(?:2[0-3]|[0-1]\\d|\\d):(?:[0-5]\\d|\\d):(?:[0-5]\\d|\\d)\\Z" s

/-- Whether the text is a duration: weeks, or years to days followed by hours to seconds. -/
def isDuration (s : String) : Bool :=
  let amount := "[0-9]+(?:[.,][0-9]+)?"
  let part (unit : String) := optional (amount ++ unit)
  let date := part "Y" ++ part "M" ++ part "D"
  let time := "T(?=[0-9])" ++ part "H" ++ part "M" ++ part "S"
  matchesPattern (whole ("[+-]?P" ++ choice [amount ++ "W", "(?=[0-9T])" ++ date ++ optional time])) s

/-!
## The format of colors

A color has one of the usual names, in any letter case, or is three or six hexadecimal digits.
-/

/-- The names of colors. -/
def colorNames : List String := [
  "aliceblue", "antiquewhite", "aqua", "aquamarine", "azure", "beige", "bisque", "black",
  "blanchedalmond", "blue", "blueviolet", "brown", "burlywood", "cadetblue", "chartreuse",
  "chocolate", "coral", "cornflowerblue", "cornsilk", "crimson", "cyan", "darkblue", "darkcyan",
  "darkgoldenrod", "darkgray", "darkgrey", "darkgreen", "darkkhaki", "darkmagenta",
  "darkolivegreen", "darkorange", "darkorchid", "darkred", "darksalmon", "darkseagreen",
  "darkslateblue", "darkslategray", "darkslategrey", "darkturquoise", "darkviolet", "deeppink",
  "deepskyblue", "dimgray", "dimgrey", "dodgerblue", "firebrick", "floralwhite", "forestgreen",
  "fuchsia", "gainsboro", "ghostwhite", "gold", "goldenrod", "gray", "grey", "green",
  "greenyellow", "honeydew", "hotpink", "indianred", "indigo", "ivory", "khaki", "lavender",
  "lavenderblush", "lawngreen", "lemonchiffon", "lightblue", "lightcoral", "lightcyan",
  "lightgoldenrodyellow", "lightgray", "lightgrey", "lightgreen", "lightpink", "lightsalmon",
  "lightseagreen", "lightskyblue", "lightslategray", "lightslategrey", "lightsteelblue",
  "lightyellow", "lime", "limegreen", "linen", "magenta", "maroon", "mediumaquamarine",
  "mediumblue", "mediumorchid", "mediumpurple", "mediumseagreen", "mediumslateblue",
  "mediumspringgreen", "mediumturquoise", "mediumvioletred", "midnightblue", "mintcream",
  "mistyrose", "moccasin", "navajowhite", "navy", "oldlace", "olive", "olivedrab", "orange",
  "orangered", "orchid", "palegoldenrod", "palegreen", "paleturquoise", "palevioletred",
  "papayawhip", "peachpuff", "peru", "pink", "plum", "powderblue", "purple", "red", "rosybrown",
  "royalblue", "saddlebrown", "salmon", "sandybrown", "seagreen", "seashell", "sienna", "silver",
  "skyblue", "slateblue", "slategray", "slategrey", "snow", "springgreen", "steelblue", "tan",
  "teal", "thistle", "tomato", "turquoise", "violet", "wheat", "white", "whitesmoke", "yellow",
  "yellowgreen"]

/-- Whether the text is a color. -/
def isColor (s : String) : Bool :=
  colorNames.contains (Text.lower s)
    || matchesPattern "^#([a-fA-F0-9]\x7b3\x7d|[a-fA-F0-9]\x7b6\x7d)$" s

/-! ## The formats of pointers, templates and identifiers -/

/-- Whether every escape of the text is one of the two that pointers have. -/
def hasPointerEscapes : List Char → Bool
  | '~' :: '0' :: rest => hasPointerEscapes rest
  | '~' :: '1' :: rest => hasPointerEscapes rest
  | '~' :: _ => false
  | _ :: rest => hasPointerEscapes rest
  | [] => true

/-- Whether the characters are a pointer: nothing, or segments that each follow a slash. -/
def isPointerList (cs : List Char) : Bool :=
  hasPointerEscapes cs && (cs.isEmpty || cs.head? == some '/')

/-- Whether the text is a pointer. -/
def isPointer (s : String) : Bool := isPointerList s.toList

/-- Whether no digit follows a zero. -/
def noDigitAfterZero : List Char → Bool
  | a :: b :: rest => (Text.digitValue? a != some 0) && noDigitAfterZero (b :: rest)
  | _ => true

/-- Whether the text is a number of steps outwards followed by a pointer or a key mark. -/
def isRelativePointer (s : String) : Bool :=
  let digits := s.toList.takeWhile fun c => (Text.digitValue? c).isSome
  let rest := s.toList.drop digits.length
  !digits.isEmpty && noDigitAfterZero digits && (rest == ['#'] || isPointerList rest)

/-- Whether the text is an address template: literal text and expressions in braces. -/
def isTemplate (s : String) : Bool :=
  let letter := "(?:[A-Za-z0-9_]|%[0-9A-Fa-f]\x7b2\x7d)"
  let name := letter ++ "(?:\\.?" ++ letter ++ ")*(?:\\[\\])?"
  let variableSpec := name ++ "(?:\\*|:[1-9][0-9]\x7b0,3\x7d)?"
  let expression := "\\\x7b[+#./;?&]?" ++ variableSpec ++ "(?:," ++ variableSpec ++ ")*\\\x7d"
  matchesPattern (whole (repeated (choice ["[^\x7b\x7d]", expression]))) s

/-- The text without any of the given stretches. -/
def dropStretch (stretch : List Char) : (skip : Nat) → List Char → List Char
  | _, [] => []
  | skip + 1, _ :: cs => dropStretch stretch skip cs
  | 0, c :: cs =>
    if stretch.isPrefixOf (c :: cs) then dropStretch stretch (stretch.length - 1) cs
    else c :: dropStretch stretch 0 cs

/-- Whether the text is a universally unique identifier: 32 hexadecimal digits, dashes at the four
usual places. -/
def isUniqueId (s : String) : Bool :=
  let cs := dropStretch "uuid:".toList 0 (dropStretch "urn:".toList 0 s.toList)
  let cs := Text.trimList (fun c => c == '\x7b' || c == '\x7d') cs
  let digits := cs.filter (· != '-')
  let isHex (c : Char) := c.isDigit || ('a' ≤ c && c ≤ 'f') || ('A' ≤ c && c ≤ 'F')
  digits.length == 32 && digits.all isHex
    && [8, 13, 18, 23].all fun i => s.toList[i]? == some '-'

/-! ## Formats by their names -/

/-- Whether a text can be read as a pattern; limits of what can be built are a fault. -/
def isPattern (s : String) : Except Fault Bool :=
  match Pattern.parse s with
  | .ok _ => .ok true
  | .error e => if e.isSyntax then .ok false else .error (.pattern e s)

/-- Whether the text has the named format. -/
def admits (name s : String) : Except Fault Bool :=
  match name with
  | "email" => .ok (s.contains '@')
  | "idn-email" => .ok (s.contains '@')
  | "ipv4" => .ok (isDottedHost s)
  | "ipv6" => .ok (isGroupedHost s)
  | "hostname" => .ok (isHostName s)
  | "idn-hostname" => .ok (isInternationalHostName s)
  | "uri" => .ok (isAddress s)
  | "uri-reference" => .ok (isReference s)
  | "iri" => .ok (isInternationalAddress s)
  | "iri-reference" => .ok (isInternationalReference s)
  | "date-time" => .ok (isDateTime s)
  | "date" => .ok (isDate s)
  | "time" => .ok (isTime s)
  | "duration" => .ok (isDuration s)
  | "regex" => isPattern s
  | "color" => .ok (isColor s)
  | "json-pointer" => .ok (isPointer s)
  | "relative-json-pointer" => .ok (isRelativePointer s)
  | "uri-template" => .ok (isTemplate s)
  | "uuid" => .ok (isUniqueId s)
  | _ => .ok true

end SuiteEngine.Schema.Format
