import SuiteEngine.Pattern.Syntax
import SuiteEngine.Text.Numeral
import SuiteEngine.Text.Word

/-!
# Reading a pattern

`Pattern.parse` reads the text of a pattern into nodes, or says what is wrong with it and where. The
text is read token by token, a token being one character or a backslash and the character behind it;
a backslash at the very end is an error as soon as the token before it is taken.
-/

namespace SuiteEngine.Pattern

/-- The least and the greatest number of characters a piece can match. -/
structure Width where
  least : Nat
  most : Nat
deriving DecidableEq, Repr

/-- Widths are not told apart from here on. -/
def widthLimit : Nat := Nat.pow 2 64

/-- The number of a repetition must stay below this. -/
def repetitionLimit : Nat := 4294967295

/-- The width of a repetition of a piece. -/
def Width.repeated (w : Width) (least : Nat) (most : Option Nat) : Width :=
  ⟨w.least * least, match most with
    | none => if w.most == 0 then 0 else widthLimit
    | some n => w.most * n⟩

/-- The width of one piece after another. -/
def Width.add (a b : Width) : Width := ⟨a.least + b.least, a.most + b.most⟩

/-- The width of one piece or the other. -/
def Width.either (a b : Width) : Width := ⟨min a.least b.least, max a.most b.most⟩

/-- Both numbers cut off at the limit. -/
def Width.cap (w : Width) : Width := ⟨min w.least widthLimit, min w.most widthLimit⟩

mutual
/-- The width of a node, given the widths of the groups. -/
def Node.width (groups : List Width) : Node → Width
  | .char _ | .notChar _ | .any | .set _ _ => ⟨1, 1⟩
  | .anchor _ | .look _ _ _ => ⟨0, 0⟩
  | .group _ _ _ body => sequenceWidth groups body
  | .atomic body => sequenceWidth groups body
  | .repetition _ least most body => (sequenceWidth groups body).repeated least most
  | .backref n => groups.getD n ⟨0, 0⟩
  | .conditional _ yes no =>
    match no with
    | some no => (sequenceWidth groups yes).either (sequenceWidth groups no)
    | none => ⟨0, (sequenceWidth groups yes).most⟩
  | .branch alternatives => branchWidth groups alternatives
/-- The width of nodes one after another. -/
def sequenceWidth (groups : List Width) : List Node → Width
  | [] => ⟨0, 0⟩
  | n :: ns => ((n.width groups).add (sequenceWidth groups ns)).cap
/-- The width of the alternatives together. -/
def branchWidth (groups : List Width) : List (List Node) → Width
  | [] => ⟨0, 0⟩
  | [a] => sequenceWidth groups a
  | a :: as => (sequenceWidth groups a).either (branchWidth groups as)
end

/-- What is known while a pattern is read. -/
structure Reader where
  /-- The text from the next token on. -/
  rest : List Char
  /-- The number of characters before the next token. -/
  position : Nat
  /-- The width of every closed group; none for an open one. The whole pattern is group zero. -/
  groups : List (Option Width)
  names : List (String × Nat)
  /-- The number of groups when the outermost look-behind around this place began. -/
  lookbehind : Option Nat
  /-- Groups that conditions refer to by number, with the place of the first reference. -/
  references : List (Nat × Nat)
  flags : Flags

/-- Reading, with the state of the reader. -/
abbrev Read := StateT Reader (Except Error)

/-- A token: one character, or a backslash and a character. -/
abbrev Token := List Char

/-- The token at the front of a text. -/
def tokenAt : List Char → Option Token
  | [] => none
  | '\\' :: c :: _ => some ['\\', c]
  | c :: _ => some [c]

/-- An error so many characters before the next token. -/
def failBack {α : Type} (fault : Fault) (back : Nat) : Read α := fun r =>
  .error ⟨fault, some (r.position - back)⟩

/-- An error at a place of its own. -/
def failAt {α : Type} (fault : Fault) (position : Nat) : Read α := fun _ =>
  .error ⟨fault, some position⟩

/-- The next token, which stays. -/
def peek : Read (Option Token) := fun r => .ok (tokenAt r.rest, r)

/-- Moves on to the text `rest` at `position`; a lone backslash there is an error. -/
def moveTo (rest : List Char) (position : Nat) : Read Unit := fun r =>
  match rest with
  | ['\\'] => .error ⟨.endEscape, some position⟩
  | _ => .ok ((), { r with rest, position })

/-- Takes the next token. -/
def take : Read (Option Token) := do
  let r ← get
  match tokenAt r.rest with
  | none => return none
  | some t =>
    moveTo (r.rest.drop t.length) (r.position + t.length)
    return some t

/-- Takes the next token if it is this character. -/
def accept (c : Char) : Read Bool := do
  match ← peek with
  | some [d] => if c == d then do let _ ← take; return true else return false
  | _ => return false

/-- Takes up to `n` characters that satisfy `p`. -/
def takeSome (p : Char → Bool) : (n : Nat) → Read (List Char)
  | 0 => return []
  | n + 1 => do
    match ← peek with
    | some [c] =>
      if p c then
        let _ ← take
        return c :: (← takeSome p n)
      else return []
    | _ => return []

/-- Takes everything up to the terminator, which is taken too. -/
def takeName (terminator : Char) (what : String) : (fuel : Nat) → (seen : List Char) → Read String
  | 0, _ => failBack .unexpectedEnd 0
  | fuel + 1, seen => do
    match ← take with
    | none =>
      if seen.isEmpty then failBack (.missingName what) 0
      else failBack (.unterminatedName (String.ofList [terminator])) seen.length
    | some t =>
      if t == [terminator] then
        if seen.isEmpty then failBack (.missingName what) 1
        else return String.ofList seen
      else takeName terminator what fuel (seen ++ t)

/-- A name up to the terminator. -/
def name (terminator : Char) (what : String) : Read String := do
  takeName terminator what ((← get).rest.length + 1) []

/-- Whether a text can name a group: word characters, the first of them no digit. -/
def isIdentifier (s : String) : Bool :=
  match s.toList with
  | [] => false
  | c :: cs => Text.isWord c && (Text.digitValue? c).isNone && cs.all Text.isWord

/-- Whether the character is a letter of the Latin alphabet without marks. -/
def isAsciiLetter (c : Char) : Bool := c.isAlpha

/-- Whether the character is an octal digit. -/
def isOctal (c : Char) : Bool := '0' ≤ c && c ≤ '7'

/-- Whether the character is a hexadecimal digit. -/
def isHex (c : Char) : Bool := c.isDigit || ('a' ≤ c && c ≤ 'f') || ('A' ≤ c && c ≤ 'F')

/-- The number these digits stand for in a base. -/
def digitsIn (base : Nat) (cs : List Char) : Nat :=
  cs.foldl (fun n c =>
    n * base + (if c.isDigit then c.toNat - 48 else c.toLower.toNat - 87)) 0

/-- The control character that a letter behind a backslash stands for. -/
def controlEscape? (c : Char) : Option Nat :=
  match c with
  | 'a' => some 7
  | 'f' => some 12
  | 'n' => some 10
  | 'r' => some 13
  | 't' => some 9
  | 'v' => some 11
  | '\\' => some 92
  | _ => none

/-- The class that a letter behind a backslash stands for. -/
def category? (c : Char) : Option SetItem :=
  match c with
  | 'd' => some (.category false .digit)
  | 'D' => some (.category true .digit)
  | 's' => some (.category false .space)
  | 'S' => some (.category true .space)
  | 'w' => some (.category false .word)
  | 'W' => some (.category true .word)
  | _ => none

/-- A character given by exactly so many hexadecimal digits behind a backslash and `c`. -/
def hexEscape (c : Char) (count : Nat) : Read Nat := do
  let ds ← takeSome isHex count
  let escape := String.ofList ('\\' :: c :: ds)
  if ds.length != count then failBack (.incompleteEscape escape) (ds.length + 2)
  else
    let n := digitsIn 16 ds
    if n > 0x10FFFF then failBack (.badEscape escape) (ds.length + 2) else return n

/-- A character given by its name; no name is known. -/
def namedEscape : Read Nat := do
  if !(← accept '\x7b') then failBack .missingBrace 0
  else
    let n ← name '\x7d' "character name"
    failBack (.undefinedCharacter n) (n.length + 4)

/-- The escapes that are the same inside and outside of sets. -/
def commonEscape (c : Char) : Read Nat := do
  if c == 'x' then hexEscape c 2
  else if c == 'u' then hexEscape c 4
  else if c == 'U' then hexEscape c 8
  else if c == 'N' then namedEscape
  else if isAsciiLetter c || c.isDigit then failBack (.badEscape (String.ofList ['\\', c])) 2
  else return c.toNat

/-- A character in octal; more than one byte is an error. -/
def octalEscape (ds : List Char) : Read Nat :=
  let n := digitsIn 8 ds
  if n > 255 then failBack (.octalRange (String.ofList ('\\' :: ds))) (ds.length + 1) else return n

/-- What a backslash and `c` stand for inside a set. -/
def setEscape (c : Char) : Read SetItem := do
  if c == 'b' then return .char 8
  match controlEscape? c, category? c with
  | some n, _ => return .char n
  | none, some item => return item
  | none, none =>
    if isOctal c then
      let more ← takeSome isOctal 2
      return .char (← octalEscape (c :: more))
    else return .char (← commonEscape c)

/-- Whether the group is closed. -/
def isClosed (group : Nat) : Read Bool := return ((← get).groups.getD group none).isSome

/-- A group may be referred to inside a look-behind only if it was closed before that began. -/
def checkLookbehind (group : Nat) : Read Unit := do
  match (← get).lookbehind with
  | none => return ()
  | some before =>
    if !(← isClosed group) then failBack .openGroup 0
    else if group ≥ before then failBack .groupInLookbehind 0
    else return ()

/-- A reference to a group by its number, written with `length` characters. -/
def groupReference (group length : Nat) : Read Node := do
  if group < (← get).groups.length then
    if !(← isClosed group) then failBack .openGroup length
    else
      checkLookbehind group
      return .backref group
  else failBack (.invalidGroup group) (length - 1)

/-- A digit other than zero behind a backslash: three octal digits, or the number of a group. -/
def digitEscape (c : Char) : Read Node := do
  let second ← takeSome Char.isDigit 1
  let isTriple ← (do
    match second, ← peek with
    | [d], some [e] => return isOctal c && isOctal d && isOctal e
    | _, _ => return false : Read Bool)
  if isTriple then
    let third ← takeSome isOctal 1
    return .char (← octalEscape (c :: second ++ third))
  else
    let ds := c :: second
    groupReference (digitsIn 10 ds) (ds.length + 1)

/-- What a backslash and `c` stand for outside of sets. -/
def nodeEscape (c : Char) : Read Node := do
  match c with
  | 'A' => return .anchor .textStart
  | 'b' => return .anchor .boundary
  | 'B' => return .anchor .noBoundary
  | 'Z' => return .anchor .textEnd
  | _ =>
    match category? c, controlEscape? c with
    | some item, _ => return .set false [item]
    | none, some n => return .char n
    | none, none =>
      if c == '0' then
        let more ← takeSome isOctal 2
        return .char (digitsIn 8 (c :: more))
      else if c.isDigit then digitEscape c
      else return .char (← commonEscape c)

/-- The text of a token. -/
def tokenText (t : Token) : String := String.ofList t

/-- One end of a range, or one member of a set. -/
def setMember (t : Token) : Read SetItem :=
  match t with
  | ['\\', c] => setEscape c
  | c :: _ => return .char c.toNat
  | [] => return .char 0

/-- The members of a set that began at `start`, those before being `seen`, last first. -/
def setMembers (start : Nat) : (fuel : Nat) → (seen : List SetItem) → Read (List SetItem)
  | 0, _ => failBack .unexpectedEnd 0
  | fuel + 1, seen => do
    match ← take with
    | none => failAt .unterminatedSet start
    | some t =>
      if t == [']'] && !seen.isEmpty then return seen.reverse
      else
        let first ← setMember t
        if ← accept '-' then
          match ← take with
          | none => failAt .unterminatedSet start
          | some [']'] => return (.char 45 :: first :: seen).reverse
          | some u =>
            let last ← setMember u
            let bad : Read (List SetItem) :=
              failBack (.badRange (tokenText t) (tokenText u)) (t.length + 1 + u.length)
            match first, last with
            | .char a, .char b =>
              if b < a then bad else setMembers start fuel (.range a b :: seen)
            | _, _ => bad
        else setMembers start fuel (first :: seen)

/-- A set whose opening bracket was taken. -/
def set : Read Node := do
  let start := (← get).position - 1
  let negated ← accept '^'
  let items ← setMembers start ((← get).rest.length + 1) []
  match items with
  | [.char n] => return if negated then .notChar n else .char n
  | _ => return .set negated items

/-- The bounds between braces behind a piece; none when the braces are plain characters. -/
def bounds (here : Nat) : Read (Option (Nat × Option Nat)) := do
  let saved ← get
  let limit := saved.rest.length
  let low ← takeSome Char.isDigit limit
  let comma ← accept ','
  let high ← if comma then takeSome Char.isDigit limit else pure low
  if !(← accept '\x7d') then
    moveTo saved.rest saved.position
    return none
  else
    let least := digitsIn 10 low
    let most := if high.isEmpty then none else some (digitsIn 10 high)
    if least ≥ repetitionLimit || most.any (· ≥ repetitionLimit) then
      fun _ => .error ⟨.repetitionTooLarge, none⟩
    else if most.any (· < least) then
      failBack .minAboveMax ((← get).position - here)
    else return some (least, most)

/-- Whether a piece is itself a repetition. -/
def Node.isRepetition : Node → Bool
  | .repetition _ _ _ _ => true
  | _ => false

/-- Whether a piece is a place in the text. -/
def Node.isAnchor : Node → Bool
  | .anchor _ => true
  | _ => false

/-- Puts a repetition around the piece read last; `here` is where the quantifier's sign ends. -/
def quantify (here : Nat) (least : Nat) (most : Option Nat) (seen : List Node) : Read (List Node) := do
  let back := (← get).position - here + 1
  match seen with
  | [] => failBack .nothingToRepeat back
  | last :: before =>
    if last.isAnchor then failBack .nothingToRepeat back
    else if last.isRepetition then failBack .multipleRepeat back
    else
      if ← accept '?' then return .repetition .lazy least most [last] :: before
      else if ← accept '+' then return .repetition .possessive least most [last] :: before
      else return .repetition .greedy least most [last] :: before

/-- The flag that a letter stands for; the template flag changes nothing. -/
def flagOf? (c : Char) : Option (Flags → Flags) :=
  match c with
  | 'i' => some fun f => { f with ignoreCase := true }
  | 'm' => some fun f => { f with multiline := true }
  | 's' => some fun f => { f with dotAll := true }
  | 'x' => some fun f => { f with verbose := true }
  | 'a' => some fun f => { f with ascii := true }
  | 'u' => some fun f => { f with unicode := true }
  | 't' => some id
  | _ => none

/-- All flags of both. -/
def Flags.union (a b : Flags) : Flags :=
  { ignoreCase := a.ignoreCase || b.ignoreCase
    multiline := a.multiline || b.multiline
    dotAll := a.dotAll || b.dotAll
    verbose := a.verbose || b.verbose
    ascii := a.ascii || b.ascii
    unicode := a.unicode || b.unicode }

/-- Whether some flag is in both. -/
def Flags.meets (a b : Flags) : Bool :=
  (a.ignoreCase && b.ignoreCase) || (a.multiline && b.multiline) || (a.dotAll && b.dotAll)
    || (a.verbose && b.verbose)

/-- The flags with those of a group turned on and off; a mode of its own replaces the mode. -/
def Flags.within (f on off : Flags) : Flags :=
  let modal := on.ascii || on.unicode
  { ignoreCase := (f.ignoreCase || on.ignoreCase) && !off.ignoreCase
    multiline := (f.multiline || on.multiline) && !off.multiline
    dotAll := (f.dotAll || on.dotAll) && !off.dotAll
    verbose := (f.verbose || on.verbose) && !off.verbose
    ascii := if modal then on.ascii else f.ascii
    unicode := if modal then on.unicode else f.unicode }

/-- Whether the character is a letter of any script. -/
def isLetter (c : Char) : Bool := Text.isWord c && (Text.digitValue? c).isNone && c != '_'

/-- Reads flags to turn on, the first of them `c`; gives them with what ended them. -/
def flagsOn : (fuel : Nat) → Flags → (template : Bool) → Char → Read (Flags × Bool × Char)
  | 0, _, _, _ => failBack .unexpectedEnd 0
  | fuel + 1, on, template, c => do
    if c == 'L' then failBack .localeFlag 0
    else
      let on := match flagOf? c with
        | some f => f on
        | none => on
      let template := template || c == 't'
      if on.ascii && on.unicode then failBack .clashingFlags 0
      else
        match ← take with
        | none => failBack .missingFlagEnd 0
        | some [d] =>
          if d == ')' || d == '-' || d == ':' then return (on, template, d)
          else if (flagOf? d).isSome || d == 'L' then flagsOn fuel on template d
          else failBack (if isLetter d then .unknownFlag else .missingFlagEnd) 1
        | some t => failBack .missingFlagEnd t.length

/-- Reads flags to turn off, the first of them `c`, up to the colon. -/
def flagsOff : (fuel : Nat) → Flags → (template : Bool) → Char → Read (Flags × Bool)
  | 0, _, _, _ => failBack .unexpectedEnd 0
  | fuel + 1, off, template, c => do
    if c == 'a' || c == 'u' || c == 'L' then failBack .typeFlagOff 0
    else
      let off := match flagOf? c with
        | some f => f off
        | none => off
      let template := template || c == 't'
      match ← take with
      | none => failBack .missingColon 0
      | some [':'] => return (off, template)
      | some [d] =>
        if (flagOf? d).isSome || d == 'L' then flagsOff fuel off template d
        else failBack (if isLetter d then .unknownFlag else .missingColon) 1
      | some t => failBack .missingColon t.length

/-- Reads inline flags from `c` on: none for flags of the whole pattern, else those of a group. -/
def inlineFlags (c : Char) : Read (Option (Flags × Flags)) := do
  let fuel := (← get).rest.length + 1
  let (on, template, ended) ←
    if c == '-' then pure (Flags.none, false, '-') else flagsOn fuel .none false c
  if ended == ')' then
    modify fun r => { r with flags := r.flags.union on }
    return none
  else if template then failBack .globalFlagOn 1
  else if ended == '-' then
    match ← take with
    | none => failBack .missingFlag 0
    | some [d] =>
      if (flagOf? d).isSome || d == 'L' then
        let (off, template) ← flagsOff fuel .none false d
        if template then failBack .globalFlagOff 1
        else if on.meets off then failBack .flagOnAndOff 1 else return some (on, off)
      else failBack (if isLetter d then .unknownFlag else .missingFlag) 1
    | some t => failBack .missingFlag t.length
  else return some (on, .none)

/-- Opens a group, with a name if it has one. -/
def openGroup (name : Option String) : Read Nat := do
  let r ← get
  let index := r.groups.length
  match name with
  | none => set { r with groups := r.groups ++ [none] }
  | some n =>
    match r.names.lookup n with
    | some earlier => failBack (.redefinedGroup n index earlier) (n.length + 1)
    | none => MonadState.set { r with groups := r.groups ++ [none], names := (n, index) :: r.names }
  return index
where
  set (r : Reader) : Read Unit := MonadState.set r

/-- Closes a group, which from now on can be referred to. -/
def closeGroup (index : Nat) (body : List Node) : Read Unit :=
  modify fun r =>
    let known := r.groups.map fun w => w.getD ⟨0, 0⟩
    { r with groups := r.groups.set index (some (sequenceWidth known body)) }

/-- The closing bracket of a group that began at `start`. -/
def expectClose (start : Nat) : Read Unit := do
  if !(← accept ')') then
    failAt .unterminatedGroup start

/-- The group that a condition names or numbers. -/
def conditionGroup (what : String) : Read Nat := do
  let r ← get
  if isIdentifier what then
    match r.names.lookup what with
    | some g => return g
    | none => failBack (.unknownGroup what) (what.length + 1)
  else
    match Text.parseInt? what with
    | some (Int.ofNat 0) => failBack .badGroupNumber (what.length + 1)
    | some (Int.ofNat g) =>
      if g ≥ 1073741823 then failBack (.invalidGroup g) (what.length + 1)
      else
        if r.references.all (·.1 != g) then
          modify fun r =>
            { r with references := r.references ++ [(g, r.position - what.length - 1)] }
        return g
    | _ => failBack (.badGroupName what) (what.length + 1)

/-- Skips a comment group that began at `start`. -/
def skipComment (start : Nat) : (fuel : Nat) → Read Unit
  | 0 => failBack .unexpectedEnd 0
  | fuel + 1 => do
    match ← peek with
    | none => failAt .unterminatedComment start
    | some _ =>
      match ← take with
      | some [')'] => return ()
      | _ => skipComment start fuel

/-- Skips the rest of a line. -/
def skipLine : (fuel : Nat) → Read Unit
  | 0 => return ()
  | fuel + 1 => do
    match ← take with
    | none => return ()
    | some ['\n'] => return ()
    | some _ => skipLine fuel

/-- A reference to a group by its name. -/
def namedReference : Read Node := do
  let n ← name ')' "group name"
  if !isIdentifier n then failBack (.badGroupName n) (n.length + 1)
  else
    match (← get).names.lookup n with
    | none => failBack (.unknownGroup n) (n.length + 1)
    | some g =>
      if !(← isClosed g) then failBack .openGroup (n.length + 1)
      else
        checkLookbehind g
        return .backref g

/-- What an opening bracket begins. -/
inductive Opening where
  | capture (name : Option String)
  | plain (on off : Flags)
  | atomic
  | look (behind negated : Bool)
  | condition (group : Nat)
  | reference (node : Node)
  | comment
  | globalFlags

/-- Reads what stands between an opening bracket at `start` and the body of its group. -/
def opening (start : Nat) : Read Opening := do
  if !(← accept '?') then return .capture none
  else
    match ← take with
    | none => failBack .unexpectedEnd 0
    | some ['P'] =>
      if ← accept '<' then
        let n ← name '>' "group name"
        if isIdentifier n then return .capture (some n)
        else failBack (.badGroupName n) (n.length + 1)
      else if ← accept '=' then return .reference (← namedReference)
      else
        match ← take with
        | none => failBack .unexpectedEnd 0
        | some t => failBack (.unknownExtension ("?P" ++ tokenText t)) (t.length + 2)
    | some [':'] => return .plain .none .none
    | some ['#'] => do
      skipComment start ((← get).rest.length + 1)
      return .comment
    | some ['='] => return .look false false
    | some ['!'] => return .look false true
    | some ['<'] =>
      match ← take with
      | none => failBack .unexpectedEnd 0
      | some ['='] => return .look true false
      | some ['!'] => return .look true true
      | some t => failBack (.unknownExtension ("?<" ++ tokenText t)) (t.length + 2)
    | some ['('] => do
      let what ← name ')' "group name"
      let group ← conditionGroup what
      checkLookbehind group
      return .condition group
    | some ['>'] => return .atomic
    | some [c] =>
      if (flagOf? c).isSome || c == 'L' || c == '-' then
        match ← inlineFlags c with
        | none => return .globalFlags
        | some (on, off) => return .plain on off
      else failBack (.unknownExtension ("?" ++ tokenText [c])) 2
    | some t => failBack (.unknownExtension ("?" ++ tokenText t)) (t.length + 1)

/-- Blanks that are skipped in a verbose pattern. -/
def isPatternBlank (c : Char) : Bool :=
  c == ' ' || c == '\t' || c == '\n' || c == '\r' || c == '\x0b' || c == '\x0c'

mutual
/-- Alternatives from here on. At the outermost level a flag of the whole pattern may make what
follows verbose. -/
def alternation : (fuel : Nat) → (verbose outermost : Bool) → (seen : List (List Node)) →
    Read (List Node)
  | 0, _, _, _ => failBack .unexpectedEnd 0
  | fuel + 1, verbose, outermost, seen => do
    let nodes ← sequence fuel verbose (outermost && seen.isEmpty) []
    if ← accept '|' then
      let r ← get
      alternation fuel (if outermost then r.flags.verbose else verbose) outermost (nodes :: seen)
    else if seen.isEmpty then return nodes
    else return [.branch (nodes :: seen).reverse]
/-- Nodes from here on up to a bar, a closing bracket or the end. -/
def sequence : (fuel : Nat) → (verbose first : Bool) → (seen : List Node) → Read (List Node)
  | 0, _, _, _ => failBack .unexpectedEnd 0
  | fuel + 1, verbose, first, seen => do
    match ← peek with
    | none => return seen.reverse
    | some ['|'] => return seen.reverse
    | some [')'] => return seen.reverse
    | some t =>
      let _ ← take
      match t with
      | ['\\', c] =>
        let node ← nodeEscape c
        sequence fuel verbose first (node :: seen)
      | [c] =>
        if verbose && isPatternBlank c then sequence fuel verbose first seen
        else if verbose && c == '#' then
          skipLine ((← get).rest.length + 1)
          sequence fuel verbose first seen
        else if c == '[' then
          let node ← set
          sequence fuel verbose first (node :: seen)
        else if c == '.' then sequence fuel verbose first (.any :: seen)
        else if c == '^' then sequence fuel verbose first (.anchor .lineStart :: seen)
        else if c == '$' then sequence fuel verbose first (.anchor .lineEnd :: seen)
        else if c == '?' || c == '*' || c == '+' then
          let here := (← get).position
          let least := if c == '+' then 1 else 0
          let most := if c == '?' then some 1 else none
          sequence fuel verbose first (← quantify here least most seen)
        else if c == '\x7b' then
          let here := (← get).position
          match ← peek with
          | some ['\x7d'] => sequence fuel verbose first (.char c.toNat :: seen)
          | _ =>
            match ← bounds here with
            | none => sequence fuel verbose first (.char c.toNat :: seen)
            | some (least, most) =>
              sequence fuel verbose first (← quantify here least most seen)
        else if c == '(' then
          let start := (← get).position - 1
          match ← opening start with
          | .comment => sequence fuel verbose first seen
          | .reference node => sequence fuel verbose first (node :: seen)
          | .globalFlags =>
            if !first || !seen.isEmpty then
              failAt .lateFlags start
            else
              let r ← get
              sequence fuel r.flags.verbose first seen
          | .look behind negated =>
            let outer := (← get).lookbehind
            if behind && outer.isNone then
              modify fun r => { r with lookbehind := some r.groups.length }
            let body ← alternation fuel verbose false []
            if behind && outer.isNone then modify fun r => { r with lookbehind := none }
            expectClose start
            sequence fuel verbose first (.look behind negated body :: seen)
          | .condition group =>
            let yes ← sequence fuel verbose false []
            if ← accept '|' then
              let no ← sequence fuel verbose false []
              match ← peek with
              | some ['|'] => failBack .tooManyBranches 0
              | _ =>
                expectClose start
                sequence fuel verbose first (.conditional group yes (some no) :: seen)
            else
              expectClose start
              sequence fuel verbose first (.conditional group yes none :: seen)
          | .atomic =>
            let body ← alternation fuel verbose false []
            expectClose start
            sequence fuel verbose first (.atomic body :: seen)
          | .plain on off =>
            let body ← alternation fuel ((verbose || on.verbose) && !off.verbose) false []
            expectClose start
            sequence fuel verbose first (.group none on off body :: seen)
          | .capture name =>
            let index ← openGroup name
            let body ← alternation fuel verbose false []
            expectClose start
            closeGroup index body
            sequence fuel verbose first (.group (some index) .none .none body :: seen)
        else sequence fuel verbose first (.char c.toNat :: seen)
      | _ => failBack .unexpectedEnd 0
end

mutual
/-- Whether every look-behind of the node has one width only. -/
def Node.lookbehindsFixed (groups : List Width) : Node → Bool
  | .look behind _ body =>
    (!behind || (let w := sequenceWidth groups body; w.least == w.most))
      && sequenceLookbehindsFixed groups body
  | .group _ _ _ body => sequenceLookbehindsFixed groups body
  | .atomic body => sequenceLookbehindsFixed groups body
  | .repetition _ _ _ body => sequenceLookbehindsFixed groups body
  | .conditional _ yes no =>
    sequenceLookbehindsFixed groups yes &&
      (match no with
        | some no => sequenceLookbehindsFixed groups no
        | none => true)
  | .branch alternatives => branchLookbehindsFixed groups alternatives
  | _ => true
/-- `lookbehindsFixed` for every node. -/
def sequenceLookbehindsFixed (groups : List Width) : List Node → Bool
  | [] => true
  | n :: ns => n.lookbehindsFixed groups && sequenceLookbehindsFixed groups ns
/-- `lookbehindsFixed` for every alternative. -/
def branchLookbehindsFixed (groups : List Width) : List (List Node) → Bool
  | [] => true
  | a :: as => sequenceLookbehindsFixed groups a && branchLookbehindsFixed groups as
end

end SuiteEngine.Pattern

namespace SuiteEngine

/-- A pattern that can be searched for. -/
structure Pattern where
  nodes : List Pattern.Node
  flags : Pattern.Flags
  /-- The widths of its groups, the whole pattern counting as the first. -/
  widths : List Pattern.Width

namespace Pattern

/-- Reads the whole text of a pattern. -/
def parse (text : String) : Except Error Pattern := do
  let cs := text.toList
  let start : Reader :=
    { rest := cs, position := 0, groups := [none], names := [], lookbehind := none,
      references := [], flags := .none }
  let read : Read (List Node) := do
    moveTo cs 0
    alternation (3 * cs.length + 3) false true []
  let (nodes, r) ← read.run start
  if r.flags.ascii && r.flags.unicode then .error ⟨.incompatibleModes, none⟩
  else if !r.rest.isEmpty then .error ⟨.unbalanced, some r.position⟩
  else
    match r.references.find? (·.1 ≥ r.groups.length) with
    | some (g, position) => .error ⟨.invalidGroup g, some position⟩
    | none =>
      let widths := r.groups.map fun w => w.getD ⟨0, 0⟩
      if sequenceLookbehindsFixed widths nodes then .ok ⟨nodes, r.flags, widths⟩
      else .error ⟨.variableLookbehind, none⟩

end Pattern

end SuiteEngine
