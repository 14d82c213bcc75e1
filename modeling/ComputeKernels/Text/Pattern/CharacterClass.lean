import ComputeKernels.Text.Blank
import ComputeKernels.Text.Category
import ComputeKernels.Text.Folding

/-!
# Classes of characters

A class is given by ranges or by a kind of characters, or is made of other classes: by operations on
sets, as the complement of a class, or by adding all variants of its characters.

Main results:

- Theorem `holds_caseless`: adding variants removes no character.
-/

namespace ComputeKernels.Text

/-- Kinds of characters that have a name. -/
inductive Kind
  | digit
  | blank
  /-- Characters of words. -/
  | word
  | category (c : Category)
deriving DecidableEq

/-- Whether a character is of a kind. -/
def Kind.holds : Kind → Char → Bool
  | digit, c => isDecimalDigit c
  | blank, c => isBlank c
  | word, c => isWordChar c
  | category k, c => k.holds c

/-- Operations on two sets. -/
inductive SetOperation
  | union
  | intersection
  | difference
  | symmetricDifference
deriving DecidableEq

/-- Whether the result of an operation holds what two sets hold or do not hold. -/
def SetOperation.holds : SetOperation → Bool → Bool → Bool
  | union, a, b => a || b
  | intersection, a, b => a && b
  | difference, a, b => a && !b
  | symmetricDifference, a, b => a != b

/-- A description of a set of characters. -/
inductive CharacterClass
  | ranges (rs : List (Char × Char))
  | kind (k : Kind)
  | complement (a : CharacterClass)
  | combine (op : SetOperation) (a b : CharacterClass)
  /-- The characters that have a variant in a class. -/
  | caseless (f : Folding) (a : CharacterClass)
deriving DecidableEq

namespace CharacterClass

/-- Whether a character belongs to a class. -/
def holds : CharacterClass → Char → Bool
  | ranges rs, c => rs.any fun (first, last) => first ≤ c && c ≤ last
  | kind k, c => k.holds c
  | complement a, c => !a.holds c
  | combine op a b, c => op.holds (a.holds c) (b.holds c)
  | caseless f a, c => (f.variants c).any a.holds

/-- Adding variants removes no character. -/
theorem holds_caseless {a : CharacterClass} {c : Char} (f : Folding) (h : a.holds c = true) :
    (caseless f a).holds c = true :=
  List.any_eq_true.mpr ⟨c, f.mem_variants c, h⟩

/-- The class of no character. -/
def nothing : CharacterClass := ranges []

/-- The class of all characters. -/
def everything : CharacterClass := complement nothing

/-- The class of a single character. -/
def single (c : Char) : CharacterClass := ranges [(c, c)]

/-- The class of the characters of two classes. -/
def union (a b : CharacterClass) : CharacterClass := combine .union a b

end CharacterClass

end ComputeKernels.Text
