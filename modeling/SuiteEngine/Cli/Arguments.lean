import SuiteEngine.Cli.Spec
import SuiteEngine.Text.Quoted

/-!
# Arguments

Options come with two dashes, or in clusters of letters after one; a value follows its option or an
equals sign. After two dashes alone there are no options any more.

* `readOptions`: the options among the arguments.
* `UsageFault.text`: what is wrong with a call, as the program reports it.
-/

namespace SuiteEngine.Cli

/-!
## Similar words

Two words are compared by the characters that they have in common: those of the longest common piece,
and those found in the same way to its left and to its right. `closeMatches` gives the words that have
enough in common with one that was not found.
-/

section

variable {α : Type} [BEq α]

/-- How many items two lists begin with in common. -/
def commonStart : List α → List α → Nat
  | a :: as, b :: bs => if a == b then commonStart as bs + 1 else 0
  | _, _ => 0

/-- The longest piece that two lists have in common: where it begins in each, and its length. Of equally
long ones it is the first in the first list, then in the second. -/
def longestCommon (as bs : List α) : Nat × Nat × Nat :=
  let starts := (List.range as.length).flatMap fun i =>
    (List.range bs.length).map fun j => (i, j, commonStart (as.drop i) (bs.drop j))
  starts.foldl (fun best s => if best.2.2 < s.2.2 then s else best) (0, 0, 0)

/-- How many items two lists have in common, with `fuel` for the number of pieces. -/
def commonCount : (fuel : Nat) → List α → List α → Nat
  | 0, _, _ => 0
  | fuel + 1, as, bs =>
    let (i, j, n) := longestCommon as bs
    if n = 0 then 0
    else n + commonCount fuel (as.take i) (bs.take j) +
      commonCount fuel (as.drop (i + n)) (bs.drop (j + n))

/-- Twice the characters that two words have in common, and the characters of both. -/
def similarity (a b : String) : Nat × Nat :=
  (2 * commonCount a.length a.toList b.toList, a.length + b.length)

/-- The words that have at least three fifths in common with another one, the three most similar ones at
most. -/
def closeMatches (word : String) (words : List String) : List String :=
  let scored := words.filterMap fun w =>
    let (common, all) := similarity w word
    if 3 * all ≤ 5 * common then some (common, all, w) else none
  ((scored.mergeSort fun a b => b.1 * a.2.1 ≤ a.1 * b.2.1).take 3).map (·.2.2)

end

/-! ## Options -/

/-- What is wrong with a call. -/
inductive UsageFault where
  | noSuchOption (name : String) (similar : List String)
  | noArgument (option : String)
  | unwantedValue (option : String)
  | missingOption (name : String)
  | extraArguments (arguments : List String)
  | noSuchCommand (name : String)
  | missingCommand
deriving DecidableEq, Repr

namespace UsageFault

/-- The words that may have been meant. -/
def suggestion : List String → String
  | [] => ""
  | [name] => " Did you mean " ++ name ++ "?"
  | names =>
    " (Possible options: " ++ ", ".intercalate (names.mergeSort fun a b => decide (a ≤ b)) ++ ")"

/-- The wording of a fault. -/
def message : UsageFault → String
  | noSuchOption name similar => "No such option: " ++ name ++ suggestion similar
  | noArgument option => "Option '" ++ option ++ "' requires an argument."
  | unwantedValue option => "Option '" ++ option ++ "' does not take a value."
  | missingOption name => "Missing option '" ++ name ++ "'."
  | extraArguments [a] => "Got unexpected extra argument (" ++ a ++ ")"
  | extraArguments as => "Got unexpected extra arguments (" ++ " ".intercalate as ++ ")"
  | noSuchCommand name => "No such command " ++ Text.quoted name ++ "."
  | missingCommand => "Missing command."

/-- Whether the report tells how the program is called. -/
def showsUsage : UsageFault → Bool
  | noArgument _ => false
  | unwantedValue _ => false
  | _ => true

/-- The report on a fault in a call of `path`, whose usage is given. -/
def text (f : UsageFault) (usage path : String) : String :=
  (if f.showsUsage then usage ++ "\nTry '" ++ path ++ " --help' for help.\n\n" else "") ++
    "Error: " ++ f.message ++ "\n"

end UsageFault

/-- The options and arguments of a call, in order. -/
structure Given where
  values : List (String × String)
  switches : List String
  rest : List String
deriving DecidableEq, Repr

namespace Given

/-- Nothing is given. -/
def nothing : Given := { values := [], switches := [], rest := [] }

/-- The values of an option. -/
def all (g : Given) (name : String) : List String :=
  g.values.filterMap fun (k, v) => if k == name then some v else none

/-- The last value of an option. -/
def last? (g : Given) (name : String) : Option String := (g.all name).getLast?

/-- Whether a switch is given. -/
def has (g : Given) (name : String) : Bool := g.switches.contains name

end Given

/-- What one argument gives. -/
inductive OptionUse where
  | switches (names : List String)
  /-- An option with its value, unless that is the next argument. -/
  | value (name : String) (value : Option String)

/-- The option with a spelling. -/
def findOption? (options : List OptionSpec) (name : String) : Option OptionSpec :=
  options.find? fun o => o.names.contains name

/-- Whether a spelling is a dash and one letter. -/
def isShort (name : String) : Bool := name.length == 2

/-- The spellings of options that are not a dash and one letter. -/
def longNames (options : List OptionSpec) : List String :=
  (options.flatMap OptionSpec.names).filter (!isShort ·)

/-- The option with a spelling that is not a dash and one letter. -/
def findLong? (options : List OptionSpec) (name : String) : Option OptionSpec :=
  if isShort name then none else findOption? options name

/-- An option's name and what follows the first equals sign. -/
def splitValue (argument : String) : String × Option String :=
  match argument.toList.span (· != '=') with
  | (name, _ :: value) => (String.ofList name, some (String.ofList value))
  | (_, []) => (argument, none)

/-- Reads a cluster of letters after a dash. -/
def readCluster (options : List OptionSpec) : List Char → Except UsageFault (List String)
  | [] => .ok []
  | c :: rest =>
    let name := String.ofList ['-', c]
    match findOption? options name with
    | some o => do return o.name :: (← readCluster options rest)
    | none => .error (.noSuchOption name [])

/-- Reads an argument that begins with a dash. -/
def readOption (options : List OptionSpec) (argument : String) : Except UsageFault OptionUse :=
  let (name, value) := splitValue argument
  match findLong? options name with
  | some o =>
    if o.valueName.isSome then .ok (.value o.name value)
    else if value.isSome then .error (.unwantedValue name)
    else .ok (.switches [o.name])
  | none =>
    if argument.startsWith "--" then
      .error (.noSuchOption name (closeMatches name (longNames options)))
    else (readCluster options (argument.toList.drop 1)).map .switches

/-- Whether an argument is an option. -/
def looksLikeOption (argument : String) : Bool := argument.startsWith "-" && 1 < argument.length

/-- Reads options from the arguments; where `mixed`, also those behind other arguments. -/
def readOptions (options : List OptionSpec) (mixed : Bool) (g : Given) :
    List String → Except UsageFault Given
  | [] => .ok g
  | argument :: rest =>
    if argument == "--" then .ok { g with rest := g.rest ++ rest }
    else if looksLikeOption argument then
      match readOption options argument with
      | .error f => .error f
      | .ok (.switches names) =>
        readOptions options mixed { g with switches := g.switches ++ names } rest
      | .ok (.value name (some v)) =>
        readOptions options mixed { g with values := g.values ++ [(name, v)] } rest
      | .ok (.value name none) =>
        match rest with
        | [] => .error (.noArgument name)
        | v :: rest => readOptions options mixed { g with values := g.values ++ [(name, v)] } rest
    else if mixed then readOptions options mixed { g with rest := g.rest ++ [argument] } rest
    else .ok { g with rest := g.rest ++ argument :: rest }

/-- Refuses a call without an option that it needs, or with arguments that no option wants. -/
def checkGiven (options : List OptionSpec) (g : Given) : Except UsageFault Unit :=
  match options.find? fun o => o.required && (g.last? o.name).isNone with
  | some o => .error (.missingOption o.name)
  | none => if g.rest.isEmpty then .ok () else .error (.extraArguments g.rest)

end SuiteEngine.Cli
