import SuiteEngine.Text.Numeral
import SuiteEngine.Yaml.Scalar

/-!
# The tokens of a YAML text

`Token.scan` cuts a text into tokens. Indentation becomes tokens of its own: a block collection opens
where a line is indented further than the one around it, and closes where a line is indented less. A
key without a mark is found only when its colon is read, so a place where a key may have begun is kept
as a `KeyStart` until the colon comes or can come no more; the marks are then put in at that place.
-/

namespace SuiteEngine.Yaml

/-- The name of a tag as it is written: a handle, if any, and what follows it. -/
structure TagName where
  handle : Option String
  suffix : String

/-- A line that instructs the reader of a document. -/
inductive Directive where
  | version (major : Nat)
  | handle (name value : String)
  | other

/-- A token. -/
inductive Token where
  | directive (d : Directive)
  | documentStart
  | documentEnd
  | blockSequence
  | blockMapping
  | blockEnd
  | flowSequence
  | flowSequenceEnd
  | flowMapping
  | flowMappingEnd
  | entry
  | comma
  | key
  | value
  | alias (name : String)
  | anchor (name : String)
  | tag (name : TagName)
  | scalar (text : String) (plain : Bool)

/-- A place where a key without a mark may have begun. It is `needed` where nothing but a key can
stand, and it counts only up to the end of its line and over at most 1024 characters. -/
structure KeyStart where
  token : Nat
  needed : Bool
  index : Nat
  line : Nat
  column : Nat

/-- Whether a key that began there can still end here. -/
def KeyStart.reaches (k : KeyStart) (cur : Cursor) : Bool :=
  k.line == cur.line && cur.index - k.index ≤ 1024

/-- How far the text is scanned. -/
structure Scanner where
  cursor : Cursor
  tokens : Array Token
  /-- How many flow collections are open. -/
  flow : Nat
  /-- The column of the innermost block collection, -1 outside all of them. -/
  indent : Int
  /-- The columns of the block collections around it, nearest first. -/
  outer : List Int
  /-- Whether a key may begin here. -/
  keyAllowed : Bool
  /-- The places where a key may have begun, by the number of flow collections around them. -/
  keyStarts : List (Nat × KeyStart)

/-- A computation that scans on. -/
abbrev Scan := StateT Scanner (Except Fault)

namespace Scan

/-! ## Reading words -/

/-- Runs a reader at the place that the scan has reached. -/
def read {α : Type} (r : Reader α) : Scan α := fun s => do
  let (a, cursor) ← r.run s.cursor
  return (a, { s with cursor })

/-- The name of an anchor or an alias, after its mark. -/
def anchorName : Reader String := do
  Reader.skip 1
  let name ← Reader.takeWhile isNameChar
  let next ← Reader.peek
  if name.isEmpty || !(isWordEnd next || next.any fun c => "?:,]\x7d%@\x60".toList.contains c) then
    Reader.malformed
  return String.ofList name

/-- Whether the character may stand in the address that a tag is. -/
def isAddressChar (c : Char) : Bool :=
  c.isAlphanum || "-;/?:@&=+$,_.!~*'()[]".toList.contains c

/-- A byte written as a percent sign and two digits. -/
def escapedByte? : Reader (Option UInt8) := do
  if (← Reader.peek) == some '%' then
    Reader.skip 1
    return some (UInt8.ofNat (← Reader.hexCode 2))
  else return none

/-- The next part of an address: characters as they are, or those that some escaped bytes encode. -/
def addressPart : Reader (Option (List Char)) := do
  let run ← Reader.takeWhile isAddressChar
  if !run.isEmpty then return some run
  let bytes ← Reader.many escapedByte?
  if bytes.isEmpty then return none
  match Text.decode bytes with
  | .ok s => return some s.toList
  | .error _ => Reader.malformed

/-- The address that a tag or the value of a handle is. -/
def address : Reader String := do
  let parts ← Reader.many addressPart
  if parts.isEmpty then Reader.malformed
  return String.ofList parts.flatten

/-- A handle: an exclamation mark alone, or two with a name between them. -/
def handle : Reader String := do
  Reader.expect '!'
  if (← Reader.peek) == some ' ' then return "!"
  let name ← Reader.takeWhile isNameChar
  if name.isEmpty && (← Reader.peek) != some '!' then Reader.malformed
  Reader.expect '!'
  return "!" ++ String.ofList name ++ "!"

/-- Whether the tag that starts here names a handle: a second exclamation mark is in its word. -/
def namesHandle (cs : List Char) : Bool :=
  (cs.drop 1).takeWhile (fun c => !isFieldEnd (some c)) |>.contains '!'

/-- The name of a tag. -/
def tagName : Reader TagName := do
  let cs := (← get).rest
  let name ←
    if cs[1]? == some '<' then do
      Reader.skip 2
      let suffix ← address
      Reader.expect '>'
      pure (TagName.mk none suffix)
    else if isWordEnd cs[1]? then do
      Reader.skip 1
      pure (TagName.mk none "!")
    else if namesHandle cs then do
      let h ← handle
      pure (TagName.mk (some h) (← address))
    else do
      Reader.skip 1
      pure (TagName.mk (some "!") (← address))
  if !isFieldEnd (← Reader.peek) then Reader.malformed
  return name

/-- A number in a directive. -/
def directiveNumber : Reader Nat := do
  let digits ← Reader.takeWhile Char.isDigit
  if digits.isEmpty then Reader.malformed
  if digits.length > Text.digitLimit then
    throw (.ofKind .value (Text.tooManyDigits digits.length))
  return digits.foldl (fun n c => n * 10 + (c.toNat - 48)) 0

/-- The version that a directive states. -/
def versionDirective : Reader Directive := do
  Reader.skipSpaces
  let major ← directiveNumber
  Reader.expect '.'
  let _ ← directiveNumber
  if !isFieldEnd (← Reader.peek) then Reader.malformed
  return .version major

/-- The handle that a directive gives a value. -/
def handleDirective : Reader Directive := do
  Reader.skipSpaces
  let name ← handle
  if (← Reader.peek) != some ' ' then Reader.malformed
  Reader.skipSpaces
  let value ← address
  if !isFieldEnd (← Reader.peek) then Reader.malformed
  return .handle name value

/-- A directive with its line. -/
def directive : Reader Directive := do
  Reader.skip 1
  let name ← Reader.takeWhile isNameChar
  if name.isEmpty || !isFieldEnd (← Reader.peek) then Reader.malformed
  let d ← match String.ofList name with
    | "YAML" => versionDirective
    | "TAG" => handleDirective
    | _ => do
      let _ ← Reader.takeWhile fun c => !isBreak c
      pure .other
  Reader.restOfLine
  return d

/-! ## Keys and indentation -/

/-- Adds a token. -/
def push (t : Token) : Scan Unit := modify fun s => { s with tokens := s.tokens.push t }

/-- Forgets the place where a key may have begun in this collection; the text is malformed when a key
was needed there. -/
def dropKeyStart : Scan Unit := do
  let s ← get
  if (s.keyStarts.lookup s.flow).any KeyStart.needed then throw .malformed
  set { s with keyStarts := s.keyStarts.filter fun p => p.1 != s.flow }

/-- Notes that a key may begin here. -/
def noteKeyStart : Scan Unit := do
  if (← get).keyAllowed then
    dropKeyStart
    modify fun s =>
      { s with keyStarts := (s.flow,
          { token := s.tokens.size, needed := s.flow == 0 && s.indent == s.cursor.column
            index := s.cursor.index, line := s.cursor.line, column := s.cursor.column }) ::
          s.keyStarts }

/-- Forgets the places from which no key can reach this far. -/
def dropStaleKeyStarts : Scan Unit := do
  let s ← get
  let (live, stale) := s.keyStarts.partition fun p => p.2.reaches s.cursor
  if stale.any fun p => p.2.needed then throw .malformed
  set { s with keyStarts := live }

/-- Says whether a key may begin here. -/
def allowKey (allowed : Bool) : Scan Unit := modify fun s => { s with keyAllowed := allowed }

/-- Closes block collections until one is left that is indented by no more than `column`. -/
def closeBlocks (column : Int) : (outer : List Int) → Scan Unit
  | [] => return ()
  | indent :: outer => do
    if (← get).indent > column then
      modify fun s => { s with indent, outer, tokens := s.tokens.push .blockEnd }
      closeBlocks column outer

/-- Closes the block collections that a line indented by `column` ends. -/
def unwind (column : Int) : Scan Unit := do
  let s ← get
  if s.flow == 0 then closeBlocks column s.outer

/-- Opens a block collection at `column`, its token being put at `place`, unless the innermost
one is indented that far already. -/
def openBlock (t : Token) (column place : Nat) : Scan Unit :=
  modify fun s =>
    if s.indent < (column : Int) then
      { s with outer := s.indent :: s.outer, indent := (column : Int)
               tokens := s.tokens.insertIdxIfInBounds place t }
    else s

/-! ## One token after another -/

/-- Moves over spaces, comments and line ends to the next token. -/
def skipToToken : Scan Unit := do
  if (← get).cursor.index == 0 && (← get).cursor.rest.head? == some '\uFEFF' then
    read (Reader.skip 1)
  let ends ← read <| Reader.many do
    Reader.skipSpaces
    if (← Reader.peek) == some '#' then
      let _ ← Reader.takeWhile fun c => !isBreak c
    Reader.lineBreak
  if !ends.isEmpty && (← get).flow == 0 then allowKey true

/-- Ends all block collections for a mark that stands outside them. -/
def leaveBlocks : Scan Unit := do
  unwind (-1)
  dropKeyStart
  allowKey false

/-- Scans the mark that opens a flow collection. -/
def openFlow (t : Token) : Scan Unit := do
  noteKeyStart
  modify fun s => { s with flow := s.flow + 1 }
  allowKey true
  read (Reader.skip 1)
  push t

/-- Scans the mark that closes a flow collection; one has to be open. -/
def closeFlow (t : Token) : Scan Unit := do
  dropKeyStart
  if (← get).flow == 0 then throw .malformed
  modify fun s => { s with flow := s.flow - 1 }
  allowKey false
  read (Reader.skip 1)
  push t

/-- Opens a block collection for a mark that stands here, where one may begin. -/
def openBlockHere (t : Token) : Scan Unit := do
  let s ← get
  if s.flow == 0 then
    if !s.keyAllowed then throw .malformed
    openBlock t s.cursor.column s.tokens.size

/-- Scans the mark of an entry of a block sequence. -/
def scanEntry : Scan Unit := do
  openBlockHere .blockSequence
  allowKey true
  dropKeyStart
  read (Reader.skip 1)
  push .entry

/-- Scans the mark of a key. -/
def scanKey : Scan Unit := do
  openBlockHere .blockMapping
  allowKey ((← get).flow == 0)
  dropKeyStart
  read (Reader.skip 1)
  push .key

/-- Scans the mark of a value; a key without a mark may have stood before it. -/
def scanValue : Scan Unit := do
  let s ← get
  match s.keyStarts.lookup s.flow with
  | some k =>
    set { s with keyStarts := s.keyStarts.filter (fun p => p.1 != s.flow), keyAllowed := false
                 tokens := s.tokens.insertIdxIfInBounds k.token .key }
    if s.flow == 0 then openBlock .blockMapping k.column k.token
  | none =>
    openBlockHere .blockMapping
    allowKey (s.flow == 0)
    dropKeyStart
  read (Reader.skip 1)
  push .value

/-- Scans a token that may be a key or the beginning of one. -/
def scanWord (r : Reader Token) : Scan Unit := do
  noteKeyStart
  allowKey false
  push (← read r)

/-- Scans a plain scalar. -/
def scanPlain : Scan Unit := do
  noteKeyStart
  let s ← get
  let (text, lineEnded) ← read (Reader.plain (s.flow != 0) (s.indent + 1))
  allowKey lineEnded
  push (.scalar text true)

/-- Scans a block scalar. -/
def scanBlock (folded : Bool) : Scan Unit := do
  allowKey true
  dropKeyStart
  let s ← get
  push (.scalar (← read (Reader.block folded s.indent)) false)

/-- Whether a plain scalar can start with these characters. -/
def startsPlain (flow : Bool) (c : Char) (next : Option Char) : Bool :=
  if isWordEnd (some c) || "-?:,[]\x7b\x7d#&*!|>'\"%@\x60".toList.contains c then
    !isWordEnd next && (c == '-' || (!flow && (c == '?' || c == ':')))
  else true

/-- Scans the token that starts with `c`. -/
def scanToken (c : Char) : Scan Unit := do
  let s ← get
  let cur := s.cursor
  let next := cur.rest[1]?
  let flow := s.flow != 0
  if c == '%' && cur.column == 0 then
    leaveBlocks
    push (.directive (← read directive))
  else if cur.atDocumentMarker then
    leaveBlocks
    read (Reader.skip 3)
    push (if c == '-' then .documentStart else .documentEnd)
  else if c == '[' then openFlow .flowSequence
  else if c == '\x7b' then openFlow .flowMapping
  else if c == ']' then closeFlow .flowSequenceEnd
  else if c == '\x7d' then closeFlow .flowMappingEnd
  else if c == ',' then
    allowKey true
    dropKeyStart
    read (Reader.skip 1)
    push .comma
  else if c == '-' && isWordEnd next then scanEntry
  else if c == '?' && (flow || isWordEnd next) then scanKey
  else if c == ':' && (flow || isWordEnd next) then scanValue
  else if c == '*' then scanWord (Token.alias <$> anchorName)
  else if c == '&' then scanWord (Token.anchor <$> anchorName)
  else if c == '!' then scanWord (Token.tag <$> tagName)
  else if c == '|' && !flow then scanBlock false
  else if c == '>' && !flow then scanBlock true
  else if c == '\'' || c == '"' then
    scanWord ((fun text => Token.scalar text false) <$> Reader.quoted (c == '"'))
  else if startsPlain flow c next then scanPlain
  else throw .malformed

/-- Scans to the end of the text, in at most `n` steps. -/
def scanAll : Nat → Scan Unit
  | 0 => return ()
  | n + 1 => do
    skipToToken
    dropStaleKeyStarts
    unwind (← get).cursor.column
    match (← get).cursor.rest.head? with
    | none => leaveBlocks
    | some c =>
      scanToken c
      scanAll n

end Scan

/-- The tokens of a text. -/
def Token.scan (text : List Char) : Except Fault (List Token) := do
  if !text.all isPrintable then throw .malformed
  let start : Scanner :=
    { cursor := Cursor.start text, tokens := #[], flow := 0, indent := -1, outer := []
      keyAllowed := true, keyStarts := [] }
  let ((), s) ← (Scan.scanAll (text.length + 1)).run start
  return s.tokens.toList

end SuiteEngine.Yaml
