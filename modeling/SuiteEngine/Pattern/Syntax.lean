import SuiteEngine.Text.Quoted

/-!
# Patterns

The syntax of a search pattern, and what can be wrong with the text of one. A sequence of nodes matches
a stretch of text piece by piece; flags are set for the whole pattern or for one group.
-/

namespace SuiteEngine.Pattern

/-- What changes how the nodes of a pattern match. -/
structure Flags where
  ignoreCase : Bool
  multiline : Bool
  dotAll : Bool
  verbose : Bool
  ascii : Bool
  unicode : Bool
deriving DecidableEq, Repr

/-- No flag. -/
def Flags.none : Flags := ⟨false, false, false, false, false, false⟩

/-- A place in the text. -/
inductive Anchor where
  | lineStart
  | lineEnd
  | textStart
  | textEnd
  | boundary
  | noBoundary
deriving DecidableEq, Repr

/-- A named class of characters. -/
inductive Category where
  | digit
  | space
  | word
deriving DecidableEq, Repr

/-- One member of a character set. -/
inductive SetItem where
  | char (code : Nat)
  | range (first last : Nat)
  | category (negated : Bool) (c : Category)
deriving DecidableEq, Repr

/-- How a repetition gives up what it has taken. -/
inductive Greed where
  | greedy
  | lazy
  | possessive
deriving DecidableEq, Repr

/-- A piece of a pattern. -/
inductive Node where
  | char (code : Nat)
  | notChar (code : Nat)
  | any
  | set (negated : Bool) (items : List SetItem)
  | anchor (a : Anchor)
  | group (index : Option Nat) (on off : Flags) (body : List Node)
  | branch (alternatives : List (List Node))
  | repetition (greed : Greed) (least : Nat) (most : Option Nat) (body : List Node)
  | look (behind negated : Bool) (body : List Node)
  | backref (group : Nat)
  | conditional (group : Nat) (yes : List Node) (no : Option (List Node))
  | atomic (body : List Node)

/-- What is wrong with the text of a pattern. -/
inductive Fault where
  | endEscape
  | badEscape (escape : String)
  | incompleteEscape (escape : String)
  | missingBrace
  | undefinedCharacter (name : String)
  | octalRange (escape : String)
  | openGroup
  | groupInLookbehind
  | invalidGroup (group : Nat)
  | unterminatedSet
  | badRange (first last : String)
  | minAboveMax
  | nothingToRepeat
  | multipleRepeat
  | unexpectedEnd
  | missingName (what : String)
  | unterminatedName (terminator : String)
  | badGroupName (name : String)
  | unknownGroup (name : String)
  | redefinedGroup (name : String) (group earlier : Nat)
  | unknownExtension (text : String)
  | unterminatedComment
  | unterminatedGroup
  | badGroupNumber
  | tooManyBranches
  | lateFlags
  | localeFlag
  | clashingFlags
  | unknownFlag
  | missingFlagEnd
  | missingFlag
  | missingColon
  | typeFlagOff
  | globalFlagOn
  | globalFlagOff
  | flagOnAndOff
  | unbalanced
  | variableLookbehind
  | repetitionTooLarge
  | incompatibleModes
deriving DecidableEq, Repr

/-- The wording of a fault. -/
def Fault.message : Fault → String
  | .endEscape => "bad escape (end of pattern)"
  | .badEscape e => "bad escape " ++ e
  | .incompleteEscape e => "incomplete escape " ++ e
  | .missingBrace => "missing \x7b"
  | .undefinedCharacter name => "undefined character name " ++ Text.quoted name
  | .octalRange e => "octal escape value " ++ e ++ " outside of range 0-0o377"
  | .openGroup => "cannot refer to an open group"
  | .groupInLookbehind => "cannot refer to group defined in the same lookbehind subpattern"
  | .invalidGroup n => "invalid group reference " ++ toString n
  | .unterminatedSet => "unterminated character set"
  | .badRange a b => "bad character range " ++ a ++ "-" ++ b
  | .minAboveMax => "min repeat greater than max repeat"
  | .nothingToRepeat => "nothing to repeat"
  | .multipleRepeat => "multiple repeat"
  | .unexpectedEnd => "unexpected end of pattern"
  | .missingName what => "missing " ++ what
  | .unterminatedName t => "missing " ++ t ++ ", unterminated name"
  | .badGroupName name => "bad character in group name " ++ Text.quoted name
  | .unknownGroup name => "unknown group name " ++ Text.quoted name
  | .redefinedGroup name group earlier =>
    "redefinition of group name " ++ Text.quoted name ++ " as group " ++ toString group
      ++ "; was group " ++ toString earlier
  | .unknownExtension t => "unknown extension " ++ t
  | .unterminatedComment => "missing ), unterminated comment"
  | .unterminatedGroup => "missing ), unterminated subpattern"
  | .badGroupNumber => "bad group number"
  | .tooManyBranches => "conditional backref with more than two branches"
  | .lateFlags => "global flags not at the start of the expression"
  | .localeFlag => "bad inline flags: cannot use 'L' flag with a str pattern"
  | .clashingFlags => "bad inline flags: flags 'a', 'u' and 'L' are incompatible"
  | .unknownFlag => "unknown flag"
  | .missingFlagEnd => "missing -, : or )"
  | .missingFlag => "missing flag"
  | .missingColon => "missing :"
  | .typeFlagOff => "bad inline flags: cannot turn off flags 'a', 'u' and 'L'"
  | .globalFlagOn => "bad inline flags: cannot turn on global flag"
  | .globalFlagOff => "bad inline flags: cannot turn off global flag"
  | .flagOnAndOff => "bad inline flags: flag turned on and off"
  | .unbalanced => "unbalanced parenthesis"
  | .variableLookbehind => "look-behind requires fixed-width pattern"
  | .repetitionTooLarge => "the repetition number is too large"
  | .incompatibleModes => "ASCII and UNICODE flags are incompatible"

/-- A fault and the number of characters before it, where it has a place. -/
structure Error where
  fault : Fault
  position : Option Nat
deriving DecidableEq, Repr

/-- Whether the fault is one of syntax; the other two are limits of what can be built. -/
def Error.isSyntax (e : Error) : Bool :=
  match e.fault with
  | .repetitionTooLarge => false
  | .incompatibleModes => false
  | _ => true

/-- The fault with its place in the text of the pattern. -/
def Error.message (e : Error) (pattern : String) : String :=
  match e.position with
  | none => e.fault.message
  | some p =>
    let before := pattern.toList.take p
    let line := (before.filter (· == '\n')).length + 1
    let column := (before.reverse.takeWhile (· != '\n')).length + 1
    e.fault.message ++ " at position " ++ toString p ++
      (if pattern.toList.contains '\n' then
        " (line " ++ toString line ++ ", column " ++ toString column ++ ")" else "")

end SuiteEngine.Pattern
