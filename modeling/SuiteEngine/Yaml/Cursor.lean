import SuiteEngine.Text.Utf8
import SuiteEngine.Yaml.Fault

/-!
# Reading the characters of a YAML text

A `Cursor` is a place in a text. A `Reader` moves it forward and may find the text malformed. The
character classes are those of YAML: a line break is any of five characters, and only the space
indents.
-/

namespace SuiteEngine.Yaml

/-- A place in a text: what is left to read, and how many characters, lines and columns were read. -/
structure Cursor where
  rest : List Char
  index : Nat
  line : Nat
  column : Nat

/-- The start of a text. -/
def Cursor.start (text : List Char) : Cursor := ⟨text, 0, 0, 0⟩

/-- Whether the character ends a line. -/
def isBreak (c : Char) : Bool :=
  c == '\n' || c == '\r' || c == '\x85' || c == '\u2028' || c == '\u2029'

/-- Whether the character is a space or a tab. -/
def isGap (c : Char) : Bool := c == ' ' || c == '\t'

/-- Whether the text, a line or a word ends here. -/
def isWordEnd : Option Char → Bool
  | none => true
  | some c => isGap c || isBreak c

/-- Whether the text, a line or a word that a tab cannot end, ends here. -/
def isFieldEnd : Option Char → Bool
  | none => true
  | some c => c == ' ' || isBreak c

/-- Whether the text or a line ends here. -/
def isLineEnd : Option Char → Bool
  | none => true
  | some c => isBreak c

/-- Whether the character may stand in the name of an anchor, a handle or a directive. -/
def isNameChar (c : Char) : Bool := c.isAlphanum || c == '-' || c == '_'

/-- Whether the character may stand in a YAML text at all. -/
def isPrintable (c : Char) : Bool :=
  let n := c.toNat
  n == 9 || n == 10 || n == 13 || (0x20 ≤ n && n ≤ 0x7E) || n == 0x85 ||
    (0xA0 ≤ n && n ≤ 0xD7FF) || (0xE000 ≤ n && n ≤ 0xFFFD) || 0x10000 ≤ n

namespace Cursor

/-- One character further; a byte order mark takes no column. -/
def advance (cur : Cursor) : Cursor :=
  match cur.rest with
  | [] => cur
  | c :: rest =>
    if isBreak c && !(c == '\r' && rest.head? == some '\n') then
      ⟨rest, cur.index + 1, cur.line + 1, 0⟩
    else ⟨rest, cur.index + 1, cur.line, if c == '\uFEFF' then cur.column else cur.column + 1⟩

/-- Some characters further. -/
def advanceBy : Nat → Cursor → Cursor
  | 0, cur => cur
  | n + 1, cur => advanceBy n cur.advance

/-- Whether these characters and then the end of a word stand at the start of the line. -/
def atMarker (marker : List Char) (cur : Cursor) : Bool :=
  cur.column == 0 && marker.isPrefixOf cur.rest && isWordEnd (cur.rest[marker.length]?)

/-- Whether the line begins with the mark for the start or the end of a document. -/
def atDocumentMarker (cur : Cursor) : Bool :=
  cur.atMarker ['-', '-', '-'] || cur.atMarker ['.', '.', '.']

end Cursor

/-- A computation that reads on from a place. -/
abbrev Reader := StateT Cursor (Except Fault)

namespace Reader

/-- Gives up: the text is no YAML. -/
def malformed {α : Type} : Reader α := throw .malformed

/-- The next character, which is not consumed. -/
def peek : Reader (Option Char) := return (← get).rest.head?

/-- The character `n` places ahead. -/
def peekAt (n : Nat) : Reader (Option Char) := return (← get).rest[n]?

/-- The column of the next character. -/
def column : Reader Nat := return (← get).column

/-- Moves over some characters. -/
def skip (n : Nat) : Reader Unit := modify (Cursor.advanceBy n)

/-- The longest stretch of characters that satisfy `p`. -/
def takeWhile (p : Char → Bool) : Reader (List Char) := do
  let taken := (← get).rest.takeWhile p
  skip taken.length
  return taken

/-- Moves over spaces. -/
def skipSpaces : Reader Unit := do
  let _ ← takeWhile (· == ' ')

/-- Consumes the line break that stands here, if one does, and gives it as one character: a line feed
for the three kinds that say no more than that. -/
def lineBreak : Reader (Option Char) := do
  match (← get).rest with
  | '\r' :: '\n' :: _ => skip 2; return some '\n'
  | c :: _ =>
    if isBreak c then
      skip 1
      return some (if c == '\u2028' || c == '\u2029' then c else '\n')
    else return none
  | [] => return none

/-- Repeats a step until it gives nothing, at most `n` times. -/
def repeatUpTo {α : Type} (step : Reader (Option α)) : Nat → Reader (List α)
  | 0 => return []
  | n + 1 => do
    match ← step with
    | none => return []
    | some a => return a :: (← repeatUpTo step n)

/-- Repeats a step that consumes something until it gives nothing. -/
def many {α : Type} (step : Reader (Option α)) : Reader (List α) := do
  repeatUpTo step ((← get).rest.length + 1)

/-- Consumes the character, which has to be here. -/
def expect (c : Char) : Reader Unit := do
  if (← peek) == some c then skip 1 else malformed

/-- Moves over spaces, a comment and the end of the line, which has to be here. -/
def restOfLine : Reader Unit := do
  skipSpaces
  if (← peek) == some '#' then
    let _ ← takeWhile fun c => !isBreak c
  if isLineEnd (← peek) then
    let _ ← lineBreak
  else malformed

end Reader

end SuiteEngine.Yaml
