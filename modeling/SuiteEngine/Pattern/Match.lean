import SuiteEngine.Pattern.Parse
import SuiteEngine.Text.Case

/-!
# Searching for a pattern

`Pattern.search` asks whether a pattern matches somewhere in a text. Alternatives are tried in order,
and a piece gives up what it took when what follows cannot match. A repetition ends at a round that
took nothing, so the rounds are bounded by the least number asked for and the length of the text, and
`fuelOf` adds these bounds up.
-/

/-!
## Matching without regard to case

Two characters are the same without regard to case when they have one lower case, or when their lower
cases are variants of one letter. `inRange` asks whether some character of a range is the same.
-/

namespace SuiteEngine.Pattern

/-- Lower-case letters that are variants of one letter. -/
def variantClasses : List (List Nat) :=
  [[105, 305], [115, 383], [181, 956], [837, 953, 8126], [912, 8147], [944, 8163], [946, 976],
   [949, 1013], [952, 977], [954, 1008], [960, 982], [961, 1009], [962, 963], [966, 981],
   [1074, 7296], [1076, 7297], [1086, 7298], [1089, 7299], [1090, 7300, 7301], [1098, 7302],
   [1123, 7303], [7304, 42571], [7777, 7835], [64261, 64262]]

/-- The lower case of a character on its own; without `wide` only of the letters of ASCII. -/
def foldCode (wide : Bool) (n : Nat) : Nat :=
  let c := Char.ofNat n
  if n == 0x130 && wide then 105
  else if wide then (Text.lowerChar c).toNat
  else c.toLower.toNat

/-- The variants of a lower-case letter, itself among them. -/
def variants (wide : Bool) (n : Nat) : List Nat :=
  if wide then (variantClasses.find? (·.contains n)).getD [n] else [n]

/-- Whether two characters are the same without regard to case. -/
def sameFolded (wide : Bool) (a b : Nat) : Bool :=
  (variants wide (foldCode wide a)).contains (foldCode wide b)

/-- The characters whose lower case is `n`, itself among them when it is its own. -/
def unfold (wide : Bool) (n : Nat) : List Nat :=
  let own := if foldCode wide n == n then [n] else []
  if wide then
    let capitals := Text.lowerRuns.toList.filterMap fun (a, b, step, delta) =>
      let m := (n : Int) - delta
      if (a : Int) ≤ m && m ≤ (b : Int) && (m.toNat - a) % step == 0 then some m.toNat else none
    own ++ capitals ++ (if n == 105 then [0x130] else [])
  else
    let c := Char.ofNat n
    own ++ (if c.isLower then [n - 32] else [])

/-- Whether some character from `first` to `last` is the same as `n` without regard to case. -/
def inFoldedRange (wide : Bool) (first last n : Nat) : Bool :=
  ((variants wide (foldCode wide n)).flatMap (unfold wide)).any fun m => first ≤ m && m ≤ last

/-! ## Progress of a match -/

/-- How far a match has come, and where the groups matched so far. -/
structure Progress where
  position : Nat
  groups : List (Nat × Nat × Nat)

/-- Where a group matched last. -/
def Progress.group? (p : Progress) (n : Nat) : Option (Nat × Nat) :=
  (p.groups.find? (·.1 == n)).map (·.2)

/-- Records where a group matched. -/
def Progress.record (p : Progress) (n start stop : Nat) : Progress :=
  { p with groups := (n, start, stop) :: p.groups.filter (·.1 != n) }

/-- Whether classes and letters are those of every script. -/
def Flags.wide (f : Flags) : Bool := !f.ascii

/-- Whether a character belongs to a named class. -/
def Category.holds (wide : Bool) (c : Char) : Category → Bool
  | .digit => if wide then (Text.digitValue? c).isSome else c.isDigit
  | .space => if wide then Text.isBlank c else c == ' ' || ('\t' ≤ c && c ≤ '\r')
  | .word => if wide then Text.isWord c else c.isAlphanum || c == '_'

/-- Whether a character is a member of a set. -/
def SetItem.holds (f : Flags) (c : Char) : SetItem → Bool
  | .char n => if f.ignoreCase then sameFolded f.wide n c.toNat else n == c.toNat
  | .range a b =>
    if f.ignoreCase then inFoldedRange f.wide a b c.toNat else a ≤ c.toNat && c.toNat ≤ b
  | .category negated named =>
    let c := if f.ignoreCase then Char.ofNat (foldCode f.wide c.toNat) else c
    negated != named.holds f.wide c

/-- Whether a node that takes one character takes this one. -/
def Node.takes (f : Flags) (c : Char) : Node → Bool
  | .char n => (SetItem.char n).holds f c
  | .notChar n => !(SetItem.char n).holds f c
  | .any => f.dotAll || c != '\n'
  | .set negated items => negated != items.any (·.holds f c)
  | _ => false

/-- Whether a word character stands at this place. -/
def wordAt (f : Flags) (text : Array Char) (i : Nat) : Bool :=
  match text[i]? with
  | some c => Category.holds f.wide c .word
  | none => false

/-- Whether a place in the text is as the anchor asks. -/
def Anchor.holds (f : Flags) (text : Array Char) (i : Nat) : Anchor → Bool
  | .textStart => i == 0
  | .textEnd => i == text.size
  | .lineStart => i == 0 || (f.multiline && text[i - 1]? == some '\n')
  | .lineEnd =>
    i == text.size || (text[i]? == some '\n' && (f.multiline || i + 1 == text.size))
  | .boundary =>
    !text.isEmpty && ((i != 0 && wordAt f text (i - 1)) != wordAt f text i)
  | .noBoundary =>
    !text.isEmpty && ((i != 0 && wordAt f text (i - 1)) == wordAt f text i)

/-- Whether the text from `i` on repeats the `length` characters from `start` on. -/
def repeats (f : Flags) (text : Array Char) (start i : Nat) : (length : Nat) → Bool
  | 0 => true
  | length + 1 =>
    match text[start]?, text[i]? with
    | some a, some b =>
      (if f.ignoreCase then foldCode f.wide a.toNat == foldCode f.wide b.toNat else a == b)
        && repeats f text (start + 1) (i + 1) length
    | _, _ => false

/-- What is still to be matched after a piece. -/
abbrev Rest := Progress → Option Progress

mutual
/-- Matches a node at `p` and then the rest. -/
def matchNode (text : Array Char) (widths : List Width) :
    (fuel : Nat) → Flags → Node → Progress → Rest → Option Progress
  | 0, _, _, _, _ => none
  | fuel + 1, f, node, p, rest =>
    match node with
    | .anchor a => if a.holds f text p.position then rest p else none
    | .group index on off body =>
      let start := p.position
      matchNodes text widths fuel (f.within on off) body p fun q =>
        rest (match index with
          | some n => q.record n start q.position
          | none => q)
    | .branch alternatives => matchBranch text widths fuel f alternatives p rest
    | .repetition .greedy least most body =>
      matchGreedy text widths fuel f body least most 0 none p rest
    | .repetition .lazy least most body =>
      matchLazy text widths fuel f body least most 0 none p rest
    | .repetition .possessive least most body =>
      match matchPossessive text widths fuel f body least most 0 none p with
      | some q => rest q
      | none => none
    | .look behind negated body =>
      let back := if behind then (sequenceWidth widths body).least else 0
      let found :=
        if back ≤ p.position then
          (matchNodes text widths fuel f body { p with position := p.position - back } some)
        else none
      match found with
      | some q => if negated then none else rest { q with position := p.position }
      | none => if negated then rest p else none
    | .backref n =>
      match p.group? n with
      | some (start, stop) =>
        if repeats f text start p.position (stop - start) then
          rest { p with position := p.position + (stop - start) }
        else none
      | none => none
    | .conditional n yes no =>
      if (p.group? n).isSome then matchNodes text widths fuel f yes p rest
      else match no with
        | some no => matchNodes text widths fuel f no p rest
        | none => rest p
    | .atomic body =>
      match matchNodes text widths fuel f body p some with
      | some q => rest q
      | none => none
    | node =>
      match text[p.position]? with
      | some c => if node.takes f c then rest { p with position := p.position + 1 } else none
      | none => none
/-- Matches nodes one after another and then the rest. -/
def matchNodes (text : Array Char) (widths : List Width) :
    (fuel : Nat) → Flags → List Node → Progress → Rest → Option Progress
  | 0, _, _, _, _ => none
  | _ + 1, _, [], p, rest => rest p
  | fuel + 1, f, n :: ns, p, rest =>
    matchNode text widths fuel f n p fun q => matchNodes text widths fuel f ns q rest
/-- Matches the first alternative that lets the rest match. -/
def matchBranch (text : Array Char) (widths : List Width) :
    (fuel : Nat) → Flags → List (List Node) → Progress → Rest → Option Progress
  | 0, _, _, _, _ => none
  | _ + 1, _, [], _, _ => none
  | fuel + 1, f, a :: as, p, rest =>
    match matchNodes text widths fuel f a p rest with
    | some q => some q
    | none => matchBranch text widths fuel f as p rest
/-- Matches as many rounds as possible, `count` being done; `last` is where the last optional round
began. -/
def matchGreedy (text : Array Char) (widths : List Width) :
    (fuel : Nat) → Flags → List Node → (least : Nat) → (most : Option Nat) → (count : Nat) →
      (last : Option Nat) → Progress → Rest → Option Progress
  | 0, _, _, _, _, _, _, _, _ => none
  | fuel + 1, f, body, least, most, count, last, p, rest =>
    if count < least then
      matchNodes text widths fuel f body p fun q =>
        matchGreedy text widths fuel f body least most (count + 1) last q rest
    else if most.all (count < ·) && last != some p.position then
      let more := matchNodes text widths fuel f body p fun q =>
        matchGreedy text widths fuel f body least most (count + 1) (some p.position) q rest
      match more with
      | some q => some q
      | none => rest p
    else rest p
/-- Matches as few rounds as possible, `count` being done. -/
def matchLazy (text : Array Char) (widths : List Width) :
    (fuel : Nat) → Flags → List Node → (least : Nat) → (most : Option Nat) → (count : Nat) →
      (last : Option Nat) → Progress → Rest → Option Progress
  | 0, _, _, _, _, _, _, _, _ => none
  | fuel + 1, f, body, least, most, count, last, p, rest =>
    if count < least then
      matchNodes text widths fuel f body p fun q =>
        matchLazy text widths fuel f body least most (count + 1) last q rest
    else
      match rest p with
      | some q => some q
      | none =>
        if most.all (count < ·) && last != some p.position then
          matchNodes text widths fuel f body p fun q =>
            matchLazy text widths fuel f body least most (count + 1) (some p.position) q rest
        else none
/-- Matches as many rounds as possible and gives none of them up again. -/
def matchPossessive (text : Array Char) (widths : List Width) :
    (fuel : Nat) → Flags → List Node → (least : Nat) → (most : Option Nat) → (count : Nat) →
      (last : Option Nat) → Progress → Option Progress
  | 0, _, _, _, _, _, _, _ => none
  | fuel + 1, f, body, least, most, count, last, p =>
    if count < least then
      match matchNodes text widths fuel f body p some with
      | some q => matchPossessive text widths fuel f body least most (count + 1) last q
      | none => none
    else if most.all (count < ·) && last != some p.position then
      match matchNodes text widths fuel f body p some with
      | some q => matchPossessive text widths fuel f body least most (count + 1) (some p.position) q
      | none => some p
    else some p
end

mutual
/-- The rounds and pieces that a match of the node can go through in a text of this length. -/
def Node.fuelOf (length : Nat) : Node → Nat
  | .group _ _ _ body => 2 + sequenceFuel length body
  | .branch alternatives => 2 + branchFuel length alternatives
  | .repetition _ least _ body => least + length + 4 + sequenceFuel length body
  | .look _ _ body => 2 + sequenceFuel length body
  | .conditional _ yes no =>
    2 + sequenceFuel length yes +
      (match no with
        | some no => sequenceFuel length no
        | none => 0)
  | .atomic body => 2 + sequenceFuel length body
  | _ => 2
/-- `fuelOf` for all nodes together. -/
def sequenceFuel (length : Nat) : List Node → Nat
  | [] => 1
  | n :: ns => 1 + n.fuelOf length + sequenceFuel length ns
/-- `fuelOf` for all alternatives together. -/
def branchFuel (length : Nat) : List (List Node) → Nat
  | [] => 1
  | a :: as => 1 + sequenceFuel length a + branchFuel length as
end

/-- Tries the places from `position` on. -/
def searchFrom (nodes : List Node) (f : Flags) (widths : List Width) (text : Array Char)
    (fuel : Nat) : (places position : Nat) → Bool
  | 0, _ => false
  | places + 1, position =>
    (matchNodes text widths fuel f nodes ⟨position, []⟩ some).isSome
      || searchFrom nodes f widths text fuel places (position + 1)

end SuiteEngine.Pattern

namespace SuiteEngine

/-- Whether the pattern matches somewhere in the text. -/
def Pattern.search (p : Pattern) (s : String) : Bool :=
  let text := s.toList.toArray
  Pattern.searchFrom p.nodes p.flags p.widths text (Pattern.sequenceFuel text.size p.nodes)
    (text.size + 1) 0

end SuiteEngine
