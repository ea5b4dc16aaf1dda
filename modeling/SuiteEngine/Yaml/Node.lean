import SuiteEngine.Yaml.Tag
import SuiteEngine.Yaml.Timestamp
import SuiteEngine.Yaml.Token

/-!
# The nodes of a YAML document

`Node.ofTokens` puts tokens together to the one document of a text. An alias stands for the node with
its anchor; inside that very node it is a `loop`. Every node gets the tag that is written at it or,
without one, the tag of its form.
-/

namespace SuiteEngine.Yaml

/-- A node with its kind. -/
inductive Node where
  | scalar (tag : Tag) (text : String)
  | seq (tag : Tag) (items : List Node)
  | map (tag : Tag) (entries : List (Node × Node))
  | loop (ofMap : Bool)

instance : Inhabited Node := ⟨.scalar .null ""⟩

/-- The node that an anchor names: finished, or one that is still being read. -/
inductive Anchored where
  | node (n : Node)
  | unfinished (isMap : Bool)

/-- What is left of the tokens, and what the document has named so far. -/
structure Composition where
  tokens : List Token
  handles : List (String × String)
  anchors : List (String × Anchored)

/-- A computation that puts nodes together. -/
abbrev Compose := StateT Composition (Except Fault)

namespace Compose

/-- The next token, which is not consumed. -/
def peek : Compose (Option Token) := return (← get).tokens.head?

/-- Consumes a token. -/
def skip : Compose Unit := modify fun s => { s with tokens := s.tokens.drop 1 }

/-- Whether the token, which is consumed if so, satisfies `p`. -/
def skipIf (p : Token → Bool) : Compose Bool := do
  if (← peek).any p then
    skip
    return true
  else return false

/-- Consumes a token that has to satisfy `p`. -/
def expect (p : Token → Bool) : Compose Unit := do
  if !(← skipIf p) then throw .malformed

/-- The node that a value left out is. -/
def absent : Node := .scalar .null ""

/-! ## Kinds of tokens -/

/-- Whether the token is the mark of an entry. -/
def isEntry : Token → Bool
  | .entry => true
  | _ => false

/-- Whether the token is the mark of a key. -/
def isKey : Token → Bool
  | .key => true
  | _ => false

/-- Whether the token is the mark of a value. -/
def isValue : Token → Bool
  | .value => true
  | _ => false

/-- Whether the token closes a block collection. -/
def isBlockEnd : Token → Bool
  | .blockEnd => true
  | _ => false

/-- Whether the token is a comma. -/
def isComma : Token → Bool
  | .comma => true
  | _ => false

/-- Whether the token closes a flow sequence. -/
def isSequenceEnd : Token → Bool
  | .flowSequenceEnd => true
  | _ => false

/-- Whether the token closes a flow mapping. -/
def isMappingEnd : Token → Bool
  | .flowMappingEnd => true
  | _ => false

/-- Whether the token opens a mapping. -/
def opensMapping : Token → Bool
  | .blockMapping => true
  | .flowMapping => true
  | _ => false

/-- Whether a block node is left out where this token stands. -/
def endsBlockNode (t : Token) : Bool := isEntry t || isKey t || isValue t || isBlockEnd t

/-- Whether a key or value in a block mapping is left out where this token stands. -/
def endsBlockItem (t : Token) : Bool := isKey t || isValue t || isBlockEnd t

/-! ## Properties -/

/-- The anchor and the tag before a node, in either order. -/
def properties : Compose (Option String × Option TagName) := do
  match (← get).tokens with
  | .anchor a :: .tag t :: _ => skip; skip; return (some a, some t)
  | .tag t :: .anchor a :: _ => skip; skip; return (some a, some t)
  | .anchor a :: _ => skip; return (some a, none)
  | .tag t :: _ => skip; return (none, some t)
  | _ => return (none, none)

/-- The address of a tag; its handle has to be known. -/
def addressOf (t : TagName) : Compose String := do
  match t.handle with
  | none => return t.suffix
  | some h =>
    match (← get).handles.lookup h with
    | some start => return start ++ t.suffix
    | none => throw .malformed

/-- The tag of a scalar: the one written at it; else that of its form when it is plain or marked as
if it were, and a string when it is not. -/
def scalarTag (address : Option String) (plain : Bool) (text : String) : Tag :=
  let ofForm := Plain.tag (fun s => (Timestamp.read? false s).isSome) text
  match address with
  | none => if plain then ofForm else .str
  | some "!" => ofForm
  | some a => Tag.ofAddress a

/-- The tag of a collection: the one written at it, else that of its form. -/
def collectionTag (address : Option String) (form : Tag) : Tag :=
  match address with
  | none => form
  | some "!" => form
  | some a => Tag.ofAddress a

/-- The node that an alias stands for. -/
def aliased (name : String) : Compose Node := do
  match (← get).anchors.lookup name with
  | some (.node n) => return n
  | some (.unfinished isMap) => return .loop isMap
  | none => throw .malformed

/-- Notes that the node with this anchor is being read; an anchor names one node only. -/
def openAnchor (name : Option String) : Compose Unit := do
  match name with
  | none => return ()
  | some a =>
    if ((← get).anchors.lookup a).isSome then throw .malformed
    let isMap := (← peek).any opensMapping
    modify fun s => { s with anchors := (a, .unfinished isMap) :: s.anchors }

/-- Notes the node that the anchor names. -/
def closeAnchor (name : Option String) (n : Node) : Compose Unit :=
  match name with
  | none => return ()
  | some a => modify fun s => { s with anchors := (a, .node n) :: s.anchors }

/-! ## Nodes

The number bounds how often these functions call each other. -/

mutual

/-- The node here; block collections may be refused, and a sequence may stand at the indentation of the
mapping around it. -/
def node (block indentless : Bool) : Nat → Compose Node
  | 0 => throw .malformed
  | fuel + 1 => do
    match (← get).tokens with
    | .alias name :: _ => skip; aliased name
    | _ =>
      let (anchor, tag) ← properties
      let address ← tag.mapM addressOf
      openAnchor anchor
      let n ← content block indentless (anchor.isSome || tag.isSome) address fuel
      closeAnchor anchor n
      return n

/-- The node after its properties. -/
def content (block indentless named : Bool) (address : Option String) : Nat → Compose Node
  | 0 => throw .malformed
  | fuel + 1 => do
    match ← peek with
    | some .entry =>
      if indentless then return .seq (collectionTag address .seq) (← looseEntries fuel)
      else if named then return .scalar (scalarTag address true "") ""
      else throw .malformed
    | some (.scalar text plain) => skip; return .scalar (scalarTag address plain text) text
    | some .flowSequence =>
      skip
      return .seq (collectionTag address .seq) (← flowItems true fuel)
    | some .flowMapping =>
      skip
      return .map (collectionTag address .map) (← flowPairs true fuel)
    | other =>
      match other, block with
      | some .blockSequence, true =>
        skip
        return .seq (collectionTag address .seq) (← entries fuel)
      | some .blockMapping, true =>
        skip
        return .map (collectionTag address .map) (← pairs fuel)
      | _, _ => if named then return .scalar (scalarTag address true "") "" else throw .malformed

/-- The node here, unless the next token says that it is left out. -/
def nodeUnless (leftOut : Token → Bool) (block indentless : Bool) : Nat → Compose Node
  | 0 => throw .malformed
  | fuel + 1 => do
    if (← peek).any leftOut then return absent else node block indentless fuel

/-- The entries of a block sequence up to its end. -/
def entries : Nat → Compose (List Node)
  | 0 => throw .malformed
  | fuel + 1 => do
    if ← skipIf isEntry then
      let n ← nodeUnless (fun t => isEntry t || isBlockEnd t) true false fuel
      return n :: (← entries fuel)
    else
      expect isBlockEnd
      return []

/-- The entries of a sequence that is not indented further than the mapping around it. -/
def looseEntries : Nat → Compose (List Node)
  | 0 => throw .malformed
  | fuel + 1 => do
    if ← skipIf isEntry then
      let n ← nodeUnless endsBlockNode true false fuel
      return n :: (← looseEntries fuel)
    else return []

/-- The entries of a block mapping up to its end. -/
def pairs : Nat → Compose (List (Node × Node))
  | 0 => throw .malformed
  | fuel + 1 => do
    if ← skipIf isKey then
      let k ← nodeUnless endsBlockItem true true fuel
      let v ← if ← skipIf isValue then nodeUnless endsBlockItem true true fuel else pure absent
      return (k, v) :: (← pairs fuel)
    else
      expect isBlockEnd
      return []

/-- The value after a key in a flow collection, where `ends` closes the collection. -/
def flowValue (ends : Token → Bool) : Nat → Compose Node
  | 0 => throw .malformed
  | fuel + 1 => do
    if ← skipIf isValue then
      nodeUnless (fun t => isComma t || ends t) false false fuel
    else return absent

/-- The items of a flow sequence up to its end; an item may be a mapping of one entry without braces. -/
def flowItems (first : Bool) : Nat → Compose (List Node)
  | 0 => throw .malformed
  | fuel + 1 => do
    if ← skipIf isSequenceEnd then return []
    if !first then expect isComma
    if ← skipIf isKey then
      let k ← nodeUnless (fun t => isValue t || isComma t || isSequenceEnd t) false false fuel
      let v ← flowValue isSequenceEnd fuel
      return .map .map [(k, v)] :: (← flowItems false fuel)
    else if ← skipIf isSequenceEnd then return []
    else
      let n ← node false false fuel
      return n :: (← flowItems false fuel)

/-- The entries of a flow mapping up to its end; one without a value maps to null. -/
def flowPairs (first : Bool) : Nat → Compose (List (Node × Node))
  | 0 => throw .malformed
  | fuel + 1 => do
    if ← skipIf isMappingEnd then return []
    if !first then expect isComma
    if ← skipIf isKey then
      let k ← nodeUnless (fun t => isValue t || isComma t || isMappingEnd t) false false fuel
      let v ← flowValue isMappingEnd fuel
      return (k, v) :: (← flowPairs false fuel)
    else if ← skipIf isMappingEnd then return []
    else
      let k ← node false false fuel
      return (k, absent) :: (← flowPairs false fuel)

end

/-! ## Documents -/

/-- What the handles are that every document knows. -/
def commonHandles : List (String × String) := [("!", "!"), ("!!", Tag.home)]

/-- The directives before a document, the version not being stated yet unless `versioned`. -/
def directives (versioned : Bool) : List Token → Compose Unit
  | .directive d :: rest => do
    skip
    match d with
    | .version major =>
      if versioned || major != 1 then throw .malformed
      directives true rest
    | .handle name value =>
      if ((← get).handles.lookup name).isSome then throw .malformed
      modify fun s => { s with handles := (name, value) :: s.handles }
      directives versioned rest
    | .other => directives versioned rest
  | _ => return ()

/-- Whether the token stands between documents. -/
def isBoundary : Token → Bool
  | .directive _ => true
  | .documentStart => true
  | .documentEnd => true
  | _ => false

/-- Whether the token starts a document. -/
def isDocumentStart : Token → Bool
  | .documentStart => true
  | _ => false

/-- Whether the token ends a document. -/
def isDocumentEnd : Token → Bool
  | .documentEnd => true
  | _ => false

/-- Moves over the marks for the end of the document. -/
def skipEnds : Compose Unit :=
  modify fun s => { s with tokens := s.tokens.dropWhile isDocumentEnd }

/-- The one document of a text; nothing when there is none. -/
def document (fuel : Nat) : Compose (Option Node) := do
  let tokens := (← get).tokens
  match tokens.head? with
  | none => return none
  | some first =>
    let explicit := match first with
      | .directive _ => true
      | .documentStart => true
      | _ => false
    if explicit then
      directives false tokens
      modify fun s => { s with handles := s.handles ++ commonHandles }
      expect isDocumentStart
    else modify fun s => { s with handles := commonHandles }
    let next ← peek
    let n ←
      if explicit && (next.isNone || next.any isBoundary) then pure absent
      else node true false fuel
    skipEnds
    if (← peek).isSome then throw .malformed
    return some n

end Compose

/-- The one document that these tokens make up. -/
def Node.ofTokens (tokens : List Token) : Except Fault (Option Node) :=
  (Compose.document (8 * tokens.length + 8)).run' { tokens, handles := [], anchors := [] }

end SuiteEngine.Yaml
