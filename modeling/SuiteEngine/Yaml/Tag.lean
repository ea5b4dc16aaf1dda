/-!
# The kinds of YAML nodes

Every node has a tag. A plain scalar without one gets it from its text: the forms of truth values,
floats, integers, merge keys, nulls and timestamps are tried in this order, and any other text is a
string.
-/

namespace SuiteEngine.Yaml

/-- The kind of a node. -/
inductive Tag where
  | null
  | bool
  | int
  | float
  | binary
  | timestamp
  | omap
  | pairs
  | set
  | str
  | seq
  | map
  | merge
  | value
  | other
deriving DecidableEq, Repr

/-- What the addresses of the known tags begin with. -/
def Tag.home : String := "tag:yaml.org,2002:"

/-- The tag with this address. -/
def Tag.ofAddress (address : String) : Tag :=
  if !address.startsWith Tag.home then .other
  else match (address.drop Tag.home.length).toString with
    | "null" => .null
    | "bool" => .bool
    | "int" => .int
    | "float" => .float
    | "binary" => .binary
    | "timestamp" => .timestamp
    | "omap" => .omap
    | "pairs" => .pairs
    | "set" => .set
    | "str" => .str
    | "seq" => .seq
    | "map" => .map
    | "merge" => .merge
    | "value" => .value
    | _ => .other

namespace Plain

/-! ## The forms of plain scalars -/

/-- The text without its sign, if it has one. -/
def unsigned : List Char → List Char
  | '-' :: rest => rest
  | '+' :: rest => rest
  | cs => cs

/-- Whether the character is a digit or an underscore. -/
def isDigitPlus (c : Char) : Bool := c.isDigit || c == '_'

/-- Whether these are digits and at least one of them. -/
def isDigits (cs : List Char) : Bool := !cs.isEmpty && cs.all Char.isDigit

/-- Whether the text is a digit and then digits and underscores. -/
def isDigitRun : List Char → Bool
  | c :: rest => c.isDigit && rest.all isDigitPlus
  | [] => false

/-- Whether the text is an exponent: a mark, a sign and digits; or nothing. -/
def isExponentOrNone : List Char → Bool
  | [] => true
  | e :: sign :: digits => (e == 'e' || e == 'E') && (sign == '-' || sign == '+') && isDigits digits
  | _ => false

/-- Whether the text is digits and underscores and then perhaps an exponent. -/
def isFractionTail (cs : List Char) : Bool := isExponentOrNone (cs.dropWhile isDigitPlus)

/-- Whether the text is a number below 60 with one or two digits. -/
def isSixtieth (s : String) : Bool :=
  match s.toList with
  | [a] => a.isDigit
  | [a, b] => '0' ≤ a && a ≤ '5' && b.isDigit
  | _ => false

/-- Whether the text is digits and underscores and then groups of sixty with colons between them; how
many groups is for `p` to say. -/
def isInSixties (p : Nat → Bool) (cs : List Char) : Bool :=
  match (String.ofList cs).splitOn ":" with
  | whole :: groups => isDigitRun whole.toList && groups.all isSixtieth && p groups.length
  | [] => false

/-- Whether the text is the form of a truth value. -/
def isBool (s : String) : Bool :=
  ["yes", "Yes", "YES", "no", "No", "NO", "true", "True", "TRUE", "false", "False", "FALSE",
    "on", "On", "ON", "off", "Off", "OFF"].contains s

/-- Whether the text is the form of a float: it has a point, or names an infinity or no number. -/
def isFloat (s : String) : Bool :=
  let cs := s.toList
  let us := unsigned cs
  let (whole, tail) := (us.takeWhile (· != '.'), us.dropWhile (· != '.'))
  let positional := !tail.isEmpty && isDigitRun whole && isFractionTail (tail.drop 1)
  let pointFirst := match cs with
    | '.' :: d :: tail => d.isDigit && isFractionTail tail
    | _ => false
  let inSixties := !tail.isEmpty && isInSixties (· != 0) whole && (tail.drop 1).all isDigitPlus
  let word := String.ofList us
  positional || pointFirst || inSixties || [".inf", ".Inf", ".INF"].contains word ||
    [".nan", ".NaN", ".NAN"].contains s

/-- Whether the text is the form of an integer, in base 2, 8, 10, 16 or 60. -/
def isInt (s : String) : Bool :=
  match unsigned s.toList with
  | [] => false
  | ['0'] => true
  | '0' :: 'b' :: ds => !ds.isEmpty && ds.all fun c => c == '0' || c == '1' || c == '_'
  | '0' :: 'x' :: ds => !ds.isEmpty && ds.all fun c =>
      c.isDigit || ('a' ≤ c && c ≤ 'f') || ('A' ≤ c && c ≤ 'F') || c == '_'
  | '0' :: ds => ds.all fun c => ('0' ≤ c && c ≤ '7') || c == '_'
  | cs => isInSixties (fun _ => true) cs

/-- Whether the text is the form of a null. -/
def isNull (s : String) : Bool := ["", "~", "null", "Null", "NULL"].contains s

/-- The kind of a plain scalar with this text. -/
def tag (isTimestamp : String → Bool) (text : String) : Tag :=
  if isBool text then .bool
  else if isFloat text then .float
  else if isInt text then .int
  else if text == "<<" then .merge
  else if isNull text then .null
  else if isTimestamp text then .timestamp
  else if text == "=" then .value
  else .str

end Plain

end SuiteEngine.Yaml
