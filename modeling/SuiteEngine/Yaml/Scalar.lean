import SuiteEngine.Yaml.Cursor

/-!
# The scalars of a YAML text

A scalar is written plain, between single or double quotes, or as a block. In the first three a line
break between words is folded: a single one reads as a space, and of several all but the first stay.
A block keeps its breaks (`|`) or folds those between lines that start with no blank (`>`).
-/

namespace SuiteEngine.Yaml

/-- What a break and the empty lines after it read as between two words. -/
def foldBreaks (first : Char) (more : List Char) : List Char :=
  if first != '\n' then first :: more else if more.isEmpty then [' '] else more

namespace Reader

/-! ## Plain scalars -/

/-- How many characters a plain scalar has on its line, inside a flow collection or outside. -/
def plainLength (flow : Bool) : List Char → Nat
  | [] => 0
  | c :: rest =>
    let inFlow (d : Char) : Bool := d == ',' || d == '[' || d == ']' || d == '\x7b' || d == '\x7d'
    let colonEnds := isWordEnd rest.head? || (flow && rest.head?.any inFlow)
    if isGap c || isBreak c || (c == ':' && colonEnds) || (flow && (c == '?' || inFlow c)) then 0
    else plainLength flow rest + 1

/-- The part of a plain scalar up to a blank, the end of the line or the end of the scalar. -/
def plainWord (flow : Bool) : Reader (List Char) := do
  let rest := (← get).rest
  let n := plainLength flow rest
  skip n
  return rest.take n

/-- The gap after a word of a plain scalar, as it reads when another word follows, and whether it
goes over the end of a line. It is empty where no word can follow. -/
def plainGap : Reader (List Char × Bool) := do
  let blanks ← takeWhile (· == ' ')
  match ← lineBreak with
  | none => return (blanks, false)
  | some first =>
    let more ← many do
      if (← get).atDocumentMarker then return none
      skipSpaces
      lineBreak
    if (← get).atDocumentMarker then return ([], true)
    return (foldBreaks first more, true)

/-- Reads on in a plain scalar after `text`, at a word. -/
def plainFrom (flow : Bool) (indent : Int) (text : List Char) : Nat → Reader (List Char × Bool)
  | 0 => return (text, false)
  | n + 1 => do
    let text := text ++ (← plainWord flow)
    let (gap, lineEnded) ← plainGap
    let cur ← get
    if gap.isEmpty || cur.rest.head? == some '#' || (!flow && cur.column < indent)
        || plainLength flow cur.rest == 0 then
      return (text, lineEnded)
    else plainFrom flow indent (text ++ gap) n

/-- A plain scalar, whose later lines are indented by at least `indent` outside flow collections, and
whether the end of a line was passed after it. -/
def plain (flow : Bool) (indent : Int) : Reader (String × Bool) := do
  let (text, lineEnded) ← plainFrom flow indent [] ((← get).rest.length + 1)
  return (String.ofList text, lineEnded)

/-! ## Quoted scalars -/

/-- The character that a letter after a backslash stands for. -/
def escaped? : Char → Option Char
  | '0' => some '\x00'
  | 'a' => some '\x07'
  | 'b' => some '\x08'
  | 't' => some '\t'
  | '\t' => some '\t'
  | 'n' => some '\n'
  | 'v' => some '\x0b'
  | 'f' => some '\x0c'
  | 'r' => some '\r'
  | 'e' => some '\x1b'
  | ' ' => some ' '
  | '"' => some '"'
  | '\\' => some '\\'
  | '/' => some '/'
  | 'N' => some '\x85'
  | '_' => some '\xa0'
  | 'L' => some '\u2028'
  | 'P' => some '\u2029'
  | _ => none

/-- How many hexadecimal digits follow a letter after a backslash. -/
def escapeWidth? : Char → Option Nat
  | 'x' => some 2
  | 'u' => some 4
  | 'U' => some 8
  | _ => none

/-- The value of a hexadecimal digit. -/
def hexDigit? (c : Char) : Option Nat :=
  if c.isDigit then some (c.toNat - 48)
  else if 'a' ≤ c && c ≤ 'f' then some (c.toNat - 87)
  else if 'A' ≤ c && c ≤ 'F' then some (c.toNat - 55)
  else none

/-- The number that exactly these hexadecimal digits denote. -/
def hexNumber? (cs : List Char) : Option Nat := do
  let ds ← cs.mapM hexDigit?
  return ds.foldl (fun n d => n * 16 + d) 0

/-- The number of `width` hexadecimal digits, which have to be here. -/
def hexCode (width : Nat) : Reader Nat := do
  let digits := (← get).rest.take width
  match (if digits.length == width then hexNumber? digits else none) with
  | some n => skip width; return n
  | none => malformed

/-- The second half of a character that is written as two escapes. -/
def lowSurrogate? (cs : List Char) : Option Nat :=
  match cs with
  | '\\' :: 'u' :: rest => do
    let n ← hexNumber? (rest.take 4)
    guard (rest.length ≥ 4 && 0xDC00 ≤ n && n ≤ 0xDFFF)
    return n
  | _ => none

/-- The character with this code; two escapes that are the halves of one character make one. -/
def coded (n : Nat) : Reader (List Char) := do
  if 0xD800 ≤ n && n ≤ 0xDBFF then
    match lowSurrogate? (← get).rest with
    | some low =>
      skip 6
      return [Char.ofNat (0x10000 + (n - 0xD800) * 0x400 + (low - 0xDC00))]
    | none => return ['\uFFFD']
  else if 0xDC00 ≤ n && n ≤ 0xDFFF then return ['\uFFFD']
  else if n ≤ 0x10FFFF then return [Char.ofNat n]
  else if n < Nat.pow 2 31 then
    throw (.ofKind .value "chr() arg not in range(0x110000)")
  else throw (.ofKind .overflow "Python int too large to convert to C int")

/-- The empty lines inside a quoted scalar, after the end of a line. -/
def quotedBreaks : Reader (List Char) :=
  many do
    if (← get).atDocumentMarker then malformed
    let _ ← takeWhile isGap
    lineBreak

/-- What stands after a backslash, as it reads. -/
def escape : Reader (List Char) := do
  match ← peek with
  | none => malformed
  | some c =>
    match escaped? c, escapeWidth? c with
    | some d, _ => skip 1; return [d]
    | none, some width => skip 1; coded (← hexCode width)
    | none, none =>
      match ← lineBreak with
      | some _ => quotedBreaks
      | none => malformed

/-- The next part of a quoted scalar that is no gap; nothing at a gap or at the closing quote. -/
def quotedPiece (double : Bool) : Reader (Option (List Char)) := do
  let run ← takeWhile fun c =>
    !(c == '\'' || c == '"' || c == '\\' || isGap c || isBreak c)
  if !run.isEmpty then return some run
  match (← get).rest with
  | [] => return none
  | c :: rest =>
    if !double && c == '\'' && rest.head? == some '\'' then
      skip 2
      return some ['\'']
    else if (double && c == '\'') || (!double && (c == '"' || c == '\\')) then
      skip 1
      return some [c]
    else if double && c == '\\' then
      skip 1
      return some (← escape)
    else return none

/-- A gap inside a quoted scalar, as it reads. -/
def quotedGap : Reader (List Char) := do
  let blanks ← takeWhile isGap
  match ← lineBreak with
  | some first => return foldBreaks first (← quotedBreaks)
  | none => if (← peek).isNone then malformed else return blanks

/-- A scalar between quotes. -/
def quoted (double : Bool) : Reader String := do
  skip 1
  let first ← many (quotedPiece double)
  let more ← many do
    if (← peek) == some (if double then '"' else '\'') then return none
    let gap ← quotedGap
    return some (gap ++ (← many (quotedPiece double)).flatten)
  skip 1
  return String.ofList (first.flatten ++ more.flatten)

/-! ## Block scalars -/

/-- What becomes of the breaks at the end of a block: one stays, all stay, or none does. -/
inductive Chomping where
  | clip
  | keep
  | strip

/-- The mark for the breaks at the end, if it stands here. -/
def chomping? : Reader (Option Chomping) := do
  match ← peek with
  | some '+' => skip 1; return some .keep
  | some '-' => skip 1; return some .strip
  | _ => return none

/-- The indentation that the head of a block states, if it does. -/
def statedIndent? : Reader (Option Nat) := do
  match ← peek with
  | some c =>
    if c == '0' then malformed
    else if c.isDigit then
      skip 1
      return some (c.toNat - 48)
    else return none
  | none => return none

/-- The head of a block after its first mark: the two indicators, in either order. -/
def blockHead : Reader (Chomping × Option Nat) := do
  let before ← chomping?
  let indent ← statedIndent?
  let after ← if before.isNone && indent.isSome then chomping? else pure none
  if !isFieldEnd (← peek) then malformed
  restOfLine
  return (((before.or after).getD .clip), indent)

/-- Moves over spaces up to the column `indent`. -/
def skipIndent (indent : Nat) : Reader Unit := do
  let cur ← get
  let spaces := (cur.rest.takeWhile (· == ' ')).length
  skip (min spaces (indent - cur.column))

/-- The empty lines of a block, up to the indentation of the next line. -/
def blockBreaks (indent : Nat) : Reader (List Char) := do
  skipIndent indent
  many do
    match ← lineBreak with
    | some c => skipIndent indent; return some c
    | none => return none

/-- The spaces here, and the column after them when there are any. -/
def spacesColumn : Reader Nat := do
  let spaces ← takeWhile (· == ' ')
  if spaces.isEmpty then return 0 else column

/-- The empty lines at the start of a block, and the column of the widest line among them and of the
first line that is not empty. -/
def leadingBreaks : Reader (List Char × Nat) := do
  let lines ← many do
    let width ← spacesColumn
    match ← lineBreak with
    | some c => return some (some c, width)
    | none => if width == 0 then return none else return some (none, width)
  return (lines.filterMap Prod.fst, lines.foldl (fun m l => max m l.2) 0)

/-- Whether a line of the block starts here. -/
def atBlockLine (indent : Nat) : Reader Bool := do
  let cur ← get
  return cur.column == indent && !cur.rest.isEmpty

/-- Whether the line here starts with no blank. -/
def startsUnindented : Reader Bool := do
  return !((← peek).any isGap)

/-- Reads on in a block after `text` and the empty lines `breaks`, at a line of it; also gives the
last break and the empty lines at the end. -/
def blockFrom (folded : Bool) (indent : Nat) (breaks text : List Char) :
    Nat → Reader (List Char × Option Char × List Char)
  | 0 => return (text, none, breaks)
  | n + 1 => do
    let unindented ← startsUnindented
    let line ← takeWhile fun c => !isBreak c
    let ended ← lineBreak
    let more ← blockBreaks indent
    let text := text ++ breaks ++ line
    if ← atBlockLine indent then
      let joint :=
        if folded && ended == some '\n' && unindented && (← startsUnindented) then
          (if more.isEmpty then [' '] else [])
        else ended.toList
      blockFrom folded indent more (text ++ joint) n
    else return (text, ended, more)

/-- A block scalar inside a collection that is indented by `parent` (-1 for none). -/
def block (folded : Bool) (parent : Int) : Reader String := do
  skip 1
  let (chomping, stated) ← blockHead
  let least := max 1 (parent + 1).toNat
  let (breaks, indent) ← match stated with
    | some n => do
      let indent := least + n - 1
      pure (← blockBreaks indent, indent)
    | none => do
      let (breaks, widest) ← leadingBreaks
      pure (breaks, max least widest)
  let (text, ended, more) ←
    if ← atBlockLine indent then blockFrom folded indent breaks [] ((← get).rest.length + 1)
    else pure ([], none, breaks)
  return String.ofList <| match chomping with
    | .strip => text
    | .clip => text ++ ended.toList
    | .keep => text ++ ended.toList ++ more

end Reader

end SuiteEngine.Yaml
