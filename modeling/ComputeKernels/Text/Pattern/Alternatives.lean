import ComputeKernels.Text.Pattern.Basic

/-!
# Alternatives

If all alternatives begin with the same patterns, these are taken out in front of the choice.  It is
then made after them: of the ways in which what is common can be found, the preferred one is tried
with each alternative before the next one is tried with any.
-/

namespace ComputeKernels.Text

/-! ## Common beginnings -/

/-- The longest list that two lists begin with. -/
def commonPart {α : Type} [DecidableEq α] : List α → List α → List α
  | a :: as, b :: bs => if a = b then a :: commonPart as bs else []
  | _, _ => []

/-- The longest list that some lists begin with. -/
def commonFront {α : Type} [DecidableEq α] : List (List α) → List α
  | [] => []
  | [as] => as
  | as :: rest => commonPart as (commonFront rest)

namespace Pattern

/-! ## Parts and branches -/

/-- The patterns that follow each other in a pattern. -/
def parts : Pattern → List Pattern
  | empty => []
  | sequence a b => parts a ++ parts b
  | p => [p]

/-- The patterns between which a pattern chooses. -/
def branches : Pattern → List Pattern
  | either a b => branches a ++ branches b
  | p => [p]

/-- Patterns that follow each other. -/
def ofParts : List Pattern → Pattern
  | [] => empty
  | [p] => p
  | p :: rest => sequence p (ofParts rest)

/-- Patterns of which an earlier one is preferred. -/
def ofBranches : List Pattern → Pattern
  | [] => empty
  | [p] => p
  | p :: rest => either p (ofBranches rest)

/-- Number of patterns of which a pattern is made. -/
def size : Pattern → Nat
  | sequence a b | either a b => size a + size b + 1
  | repeated _ a | further _ a | group _ a => size a + 1
  | empty | one _ | place _ => 1

/-! ## Choices -/

/-- Alternatives after what they have in common, which is taken out as often as a budget allows. -/
def anyOfWithin : Nat → List Pattern → Pattern
  | 0, alternatives => ofBranches alternatives
  | budget + 1, alternatives =>
    let ways := (alternatives.flatMap branches).map parts
    let front := commonFront ways
    if front.isEmpty || ways.length < 2 || ways.any (·.length < 2) then
      ofBranches (ways.map ofParts)
    else
      ofParts (front ++ [anyOfWithin budget (ways.map fun way => ofParts (way.drop front.length))])

/-- Alternatives after what they have in common. -/
def anyOf (alternatives : List Pattern) : Pattern :=
  anyOfWithin (alternatives.foldl (fun n p => n + p.size) 0) alternatives

end Pattern

end ComputeKernels.Text
