import SuiteEngine.Document.Path
import SuiteEngine.Pattern.Match
import SuiteEngine.Text.Case
import SuiteEngine.Text.Word

/-!
# The formats of hosts and addresses

Many formats are told by one pattern. `repeated` and the other builders write such patterns from the
parts a grammar names. Hosts are numeric hosts of both kinds, host names, and host names with letters of
every script.

An address is a scheme, an authority with a path, a query and a fragment, as the standard for addresses
lays down; the international form allows letters of every script. `addressPattern` writes the grammar
for a set of further characters, `referencePattern` also allows what is relative.
-/

namespace SuiteEngine.Schema.Format

/-! ## Formats given by patterns -/

/-- Whether the text matches the pattern somewhere; a pattern that cannot be read matches nothing. -/
def matchesPattern (pattern text : String) : Bool :=
  match Pattern.parse pattern with
  | .ok p => p.search text
  | .error _ => false

/-- The pattern as one piece. -/
def piece (p : String) : String := "(?:" ++ p ++ ")"

/-- One of the patterns. -/
def choice (ps : List String) : String := piece ("|".intercalate ps)

/-- The pattern or nothing. -/
def optional (p : String) : String := piece p ++ "?"

/-- Any number of the pattern. -/
def repeated (p : String) : String := piece p ++ "*"

/-- Between `least` and `most` of the pattern. -/
def times (least most : Nat) (p : String) : String :=
  piece p ++ "\x7b" ++ toString least ++ "," ++ toString most ++ "\x7d"

/-- The pattern from the start of the text to its end. -/
def whole (p : String) : String := "\\A" ++ piece p ++ "\\Z"

/-! ## Hosts -/

/-- Whether the text is a decimal number of one to three digits up to 255 without a leading zero. -/
def isDecimalByte (cs : List Char) : Bool :=
  cs.all Char.isDigit && 1 ≤ cs.length && cs.length ≤ 3
    && (cs.length == 1 || cs.head? != some '0')
    && decide (Text.ofDigits (cs.map fun c => c.toNat - 48) ≤ 255)

/-- Whether the text is four decimal bytes with points between them. -/
def isDottedHost (s : String) : Bool :=
  let pieces := Text.splitList '.' s.toList
  pieces.length == 4 && pieces.all isDecimalByte

/-- Whether the text is one to four hexadecimal digits. -/
def isHexGroup (cs : List Char) : Bool :=
  1 ≤ cs.length && cs.length ≤ 4
    && cs.all fun c => c.isDigit || ('a' ≤ c && c ≤ 'f') || ('A' ≤ c && c ≤ 'F')

/-- Whether the groups are eight, or fewer around one gap, which stands for at least one group. -/
def areGroups (groups : List (List Char)) : Bool :=
  let inner := groups.drop 1 |>.dropLast
  let gaps := (inner.filter List.isEmpty).length
  let first := groups.head?.getD []
  let last := groups.getLast?.getD []
  if gaps == 0 then groups.length == 8 && groups.all isHexGroup
  else if gaps == 1 then
    let before := groups.takeWhile (!·.isEmpty)
    let firstOk := !first.isEmpty || (groups.drop 1).head? == some []
    let lastOk := !last.isEmpty || (groups.dropLast).getLast? == some []
    let shown := (groups.filter (!·.isEmpty)).length
    before.length ≤ 8 && firstOk && lastOk && shown ≤ 7
      && groups.all fun g => g.isEmpty || isHexGroup g
  else false

/-- Whether the text is eight hexadecimal groups, the last two of which may be four decimal bytes. -/
def isGroupedHost (s : String) : Bool :=
  let groups := Text.splitList ':' s.toList
  if groups.length < 3 || 9 < groups.length then false
  else
    match groups.getLast? with
    | some last =>
      if last.contains '.' then
        isDottedHost (String.ofList last) && areGroups (groups.dropLast ++ [['0'], ['0']])
      else areGroups groups
    | none => false

/-- Whether the text is a host name: labels of letters, digits and inner dashes, 253 characters at
most without a last point. -/
def isHostName (s : String) : Bool :=
  let name := Text.lower s
  let length := name.length - (if name.endsWith "." then 1 else 0)
  decide (length ≤ 253) && matchesPattern
    "(?i)^((?![-])[-A-Z\\d]\x7b1,63\x7d(?<!-)[.])*(?!-)[-A-Z\\d]\x7b1,63\x7d(?<!-)[.]?$" name

/-- Whether a character may stand in a label of an international host name. -/
def isLabelChar (c : Char) : Bool :=
  c == '-' || (c != '_' && Text.isWord c && Text.lower (String.ofList [c]) == String.ofList [c])

/-- Whether a label of an international host name is well formed. -/
def isInternationalLabel (cs : List Char) : Bool :=
  let ascii := cs.all fun c => decide (c.toNat < 128)
  let cs := if ascii then cs.map Char.toLower else cs
  !cs.isEmpty && decide (cs.length ≤ 63) && cs.head? != some '-' && cs.getLast? != some '-'
    && cs.all isLabelChar
    && (if cs.take 4 == ['x', 'n', '-', '-'] then !(cs.drop 4).isEmpty
        else (cs.drop 2).take 2 != ['-', '-'])

/-- Whether the text is a host name with letters of any script. -/
def isInternationalHostName (s : String) : Bool :=
  let isPoint (c : Char) := c == '.' || c == '\u3002' || c == '\uff0e' || c == '\uff61'
  let labels := Text.splitList '.' (s.toList.map fun c => if isPoint c then '.' else c)
  let labels := if labels.getLast? == some [] && 1 < labels.length then labels.dropLast else labels
  labels.all isInternationalLabel && decide (s.length ≤ 254)

/-! ## Addresses -/

/-- The characters that an international address adds to the plain ones. -/
def internationalChars : String :=
  "\\u00A0-\\uD7FF\\uF900-\\uFDCF\\uFDF0-\\uFFEF\\U00010000-\\U0001FFFD\\U00020000-\\U0002FFFD" ++
  "\\U00030000-\\U0003FFFD\\U00040000-\\U0004FFFD\\U00050000-\\U0005FFFD\\U00060000-\\U0006FFFD" ++
  "\\U00070000-\\U0007FFFD\\U00080000-\\U0008FFFD\\U00090000-\\U0009FFFD\\U000A0000-\\U000AFFFD" ++
  "\\U000B0000-\\U000BFFFD\\U000C0000-\\U000CFFFD\\U000D0000-\\U000DFFFD\\U000E1000-\\U000EFFFD"

/-- The characters that only the query of an international address adds. -/
def privateChars : String :=
  "\\uE000-\\uF8FF\\U000F0000-\\U000FFFFD\\U00100000-\\U0010FFFD"

/-- A run of characters from a set, escaped bytes included. -/
def run (set : String) : String := repeated ("[" ++ set ++ "]|%[0-9A-Fa-f]\x7b2\x7d")

/-- The characters that need no escape, with the further ones. -/
def unreserved (further : String) : String := "A-Za-z0-9._~\\-" ++ further

/-- The characters with a meaning that each part may give them. -/
def delimiters : String := "!$&'()*+,;="

/-- A decimal byte. -/
def decimalByte : String := "(?:25[0-5]|2[0-4][0-9]|1[0-9][0-9]|[1-9][0-9]|[0-9])"

/-- Four decimal bytes. -/
def dottedBytes : String :=
  decimalByte ++ "\\." ++ decimalByte ++ "\\." ++ decimalByte ++ "\\." ++ decimalByte

/-- Up to four hexadecimal digits. -/
def hexGroup : String := "[0-9A-Fa-f]\x7b1,4\x7d"

/-- An address of eight groups, one run of which may be left out. -/
def groupedAddress : String :=
  let group := hexGroup ++ ":"
  let last := choice [hexGroup ++ ":" ++ hexGroup, dottedBytes]
  choice [
    times 6 6 group ++ last,
    "::" ++ times 5 5 group ++ last,
    optional hexGroup ++ "::" ++ times 4 4 group ++ last,
    optional (times 0 1 group ++ hexGroup) ++ "::" ++ times 3 3 group ++ last,
    optional (times 0 2 group ++ hexGroup) ++ "::" ++ times 2 2 group ++ last,
    optional (times 0 3 group ++ hexGroup) ++ "::" ++ group ++ last,
    optional (times 0 4 group ++ hexGroup) ++ "::" ++ last,
    optional (times 0 5 group ++ hexGroup) ++ "::" ++ hexGroup,
    optional (times 0 6 group ++ hexGroup) ++ "::"]

/-- A host in brackets. -/
def bracketedHost : String :=
  "\\[" ++ choice [groupedAddress, "v[0-9A-Fa-f]+\\.[" ++ unreserved "" ++ delimiters ++ ":]+"] ++ "\\]"

/-- The authority of an address: a user, a host and a port. -/
def authorityPattern (further : String) : String :=
  optional (run (unreserved further ++ delimiters ++ ":") ++ "@")
    ++ choice [bracketedHost, run (unreserved further ++ delimiters)]
    ++ optional ":[0-9]*"

/-- The query and the fragment of an address. -/
def tailPattern (further more : String) : String :=
  let set := unreserved further ++ delimiters ++ ":@/?"
  optional ("\\?" ++ run (set ++ more)) ++ optional ("#" ++ run set)

/-- A segment's characters. -/
def segmentSet (further : String) : String := unreserved further ++ delimiters ++ ":@"

/-- At least one character of a segment. -/
def someOf (set : String) : String := piece ("[" ++ set ++ "]|%[0-9A-Fa-f]\x7b2\x7d") ++ "+"

/-- An authority with its path, a path from the root, a path that starts with `first`, or nothing. -/
def hierarchy (further first : String) : String :=
  let segments := repeated ("/" ++ run (segmentSet further))
  choice [
    "//" ++ authorityPattern further ++ segments,
    "/" ++ optional (someOf (segmentSet further) ++ segments),
    first ++ segments,
    ""]

/-- An address with a scheme. -/
def addressPattern (further more : String) : String :=
  "[A-Za-z][A-Za-z0-9+.\\-]*:" ++ hierarchy further (someOf (segmentSet further))
    ++ tailPattern further more

/-- An address that may be relative. -/
def referencePattern (further more : String) : String :=
  choice [addressPattern further more,
    hierarchy further (someOf (unreserved further ++ delimiters ++ "@")) ++ tailPattern further more]

/-- Whether the text is a plain address. -/
def isAddress (s : String) : Bool := matchesPattern (whole (addressPattern "" "")) s

/-- Whether the text is a plain address or a relative one. -/
def isReference (s : String) : Bool := matchesPattern (whole (referencePattern "" "")) s

/-- Whether the text is an international address. -/
def isInternationalAddress (s : String) : Bool :=
  matchesPattern (whole (addressPattern internationalChars privateChars)) s

/-- Whether the text is an international address or a relative one. -/
def isInternationalReference (s : String) : Bool :=
  matchesPattern (whole (referencePattern internationalChars privateChars)) s

end SuiteEngine.Schema.Format
