import SuiteEngine.Text.Blank

/-!
# Files of variables

A file of variables has a line for each: a name, an equals sign and a value, plain or between quotes.
A value may refer to variables before it as `${NAME}`, with a text to stand for one that is not set.
A statement that is not understood is passed over up to the end of its line.
-/

namespace SuiteEngine.Config.Dotenv

/-- A statement: a name, with its value if it has an equals sign. -/
structure Binding where
  name : String
  value : Option String

/-- Whether the character ends a line. -/
def isLineEnd (c : Char) : Bool := c == '\n' || c == '\r'

/-- Whether the character is blank and ends no line. -/
def isInlineBlank (c : Char) : Bool := Text.isBlank c && !isLineEnd c

/-- The text after blanks that end no line. -/
def afterBlanks (cs : List Char) : List Char := cs.dropWhile isInlineBlank

/-- The text after one end of a line. -/
def afterLineEnd : List Char → List Char
  | '\r' :: '\n' :: rest => rest
  | '\n' :: rest => rest
  | '\r' :: rest => rest
  | cs => cs

/-- The text after the rest of the line. -/
def afterLine (cs : List Char) : List Char :=
  afterLineEnd (cs.dropWhile fun c => !isLineEnd c)

/-- Splits a text that follows an opening quote at the quote that closes it: the first one without a
backslash before it, or else the last one. -/
def splitAtQuote? (quote : Char) : List Char → Option (List Char × List Char)
  | [] => none
  | c :: d :: rest =>
    if c == quote then some ([], d :: rest)
    else if c == '\\' && d == quote then
      match splitAtQuote? quote rest with
      | some (inside, after) => some (c :: d :: inside, after)
      | none => some ([c], rest)
    else (splitAtQuote? quote (d :: rest)).map fun p => (c :: p.1, p.2)
  | [c] => if c == quote then some ([], []) else none

/-- The character that a letter after a backslash stands for between double quotes. -/
def escaped? : Char → Option Char
  | '\\' => some '\\'
  | '\'' => some '\''
  | '"' => some '"'
  | 'a' => some '\x07'
  | 'b' => some '\x08'
  | 'f' => some '\x0c'
  | 'n' => some '\n'
  | 'r' => some '\r'
  | 't' => some '\t'
  | 'v' => some '\x0b'
  | _ => none

/-- The text with escapes of the given kind replaced. -/
def unescape (escape? : Char → Option Char) : List Char → List Char
  | '\\' :: c :: rest =>
    match escape? c with
    | some d => d :: unescape escape? rest
    | none => '\\' :: unescape escape? (c :: rest)
  | c :: rest => c :: unescape escape? rest
  | [] => []

/-- A plain value without the comment after it: a number sign after a blank starts one. -/
def withoutComment : List Char → List Char
  | [] => []
  | c :: rest =>
    if Text.isBlank c && ((c :: rest).dropWhile Text.isBlank).head? == some '#' then []
    else c :: withoutComment rest

/-- Reads a value, and gives what follows it. -/
def value? (cs : List Char) : Option (List Char × List Char) :=
  match cs with
  | '\'' :: rest => (splitAtQuote? '\'' rest).map fun p =>
      (unescape (fun c => if c == '\'' || c == '\\' then some c else none) p.1, p.2)
  | '"' :: rest => (splitAtQuote? '"' rest).map fun p => (unescape escaped? p.1, p.2)
  | _ =>
    let line := cs.takeWhile fun c => !isLineEnd c
    let kept := ((withoutComment line).reverse.dropWhile Text.isBlank).reverse
    some (kept, cs.drop line.length)

/-- Reads a name, between single quotes or plain, and gives what follows it. -/
def name? (cs : List Char) : Option (List Char × List Char) :=
  match cs with
  | '\'' :: rest =>
    let name := rest.takeWhile (· != '\'')
    match rest.drop name.length with
    | _ :: after => if name.isEmpty then none else some (name, after)
    | [] => none
  | _ =>
    let name := cs.takeWhile fun c => !(c == '=' || c == '#' || Text.isBlank c)
    if name.isEmpty then none else some (name, cs.drop name.length)

/-- The text after the word that may stand before a name. -/
def afterExport (cs : List Char) : List Char :=
  let word := "export".toList
  let rest := cs.drop word.length
  if word.isPrefixOf cs && rest.head?.any isInlineBlank then afterBlanks rest else cs

/-- The text after a comment and the end of the line; `none` when something else stands there. -/
def afterStatement? (cs : List Char) : Option (List Char) :=
  let blank := afterBlanks cs
  let rest := if blank.head? == some '#' then blank.dropWhile fun c => !isLineEnd c else blank
  match rest with
  | [] => some []
  | c :: _ => if isLineEnd c then some (afterLineEnd rest) else none

/-- Reads a statement that does not start with a blank: the binding, if it is one that is understood,
and what follows the statement. -/
def statement (cs : List Char) : Option Binding × List Char :=
  let start := afterExport cs
  if start.head? == some '#' then
    (none, (afterStatement? start).getD (afterLine start))
  else match name? start with
    | none => (none, afterLine start)
    | some (name, afterName) =>
      let next := afterBlanks afterName
      let bound (value : Option String) (rest : List Char) : Option Binding × List Char :=
        match afterStatement? rest with
        | some after => (some { name := String.ofList name, value }, after)
        | none => (none, afterLine rest)
      match next with
      | '=' :: afterSign =>
        let written := afterBlanks afterSign
        match value? written with
        | some (value, rest) => bound (some (String.ofList value)) rest
        | none => (none, afterLine written)
      | rest => bound none rest

/-- The statements of a text, at most `n` of them. -/
def statements : (n : Nat) → List Char → List Binding
  | 0, _ => []
  | n + 1, cs =>
    match cs.dropWhile Text.isBlank with
    | [] => []
    | start =>
      let (binding, rest) := statement start
      binding.toList ++ statements n rest

/-- Binds a name: in place when it is there already, else at the end. -/
def bind (name : String) (value : Option String) :
    List (String × Option String) → List (String × Option String)
  | [] => [(name, value)]
  | (k, v) :: rest => if k == name then (k, value) :: rest else (k, v) :: bind name value rest

/-- A reference to a variable at the start of a text after its first brace: the name, the text for one
that is not set, and what follows. -/
def reference? (cs : List Char) : Option (List Char × List Char × List Char) :=
  let name := cs.takeWhile fun c => !(c == '\x7d' || c == ':')
  match cs.drop name.length with
  | '\x7d' :: rest => some (name, [], rest)
  | ':' :: '-' :: more =>
    let default := more.takeWhile (· != '\x7d')
    match more.drop default.length with
    | _ :: rest => some (name, default, rest)
    | [] => none
  | _ => none

/-- A value with its references replaced. The number says how many characters of the text belong to a
reference that is replaced already. -/
def expand (vars : List (String × Option String)) : (skip : Nat) → List Char → List Char
  | _, [] => []
  | skip + 1, _ :: rest => expand vars skip rest
  | 0, c :: rest =>
    let found := match c, rest with
      | '$', '\x7b' :: inside => reference? inside
      | _, _ => none
    match found with
    | some (name, default, after) =>
      let text := match vars.lookup (String.ofList name) with
        | some value => (value.getD "").toList
        | none => default
      text ++ expand vars (rest.length - after.length) rest
    | none => c :: expand vars 0 rest

/-- The variables that some statements set, references being replaced in order; the last statement for
a name counts. -/
def resolve (environ : List (String × String)) (bindings : List Binding) :
    List (String × Option String) :=
  bindings.foldl (fun vars b =>
    let known := vars ++ environ.map fun v => (v.1, some v.2)
    bind b.name (b.value.map fun v => String.ofList (expand known 0 v.toList)) vars) []

/-- The variables that a text sets; a name without a value sets none. -/
def parse (environ : List (String × String)) (text : String) : List (String × String) :=
  (resolve environ (statements (text.length + 1) text.toList)).filterMap fun v =>
    v.2.map fun value => (v.1, value)

end SuiteEngine.Config.Dotenv
