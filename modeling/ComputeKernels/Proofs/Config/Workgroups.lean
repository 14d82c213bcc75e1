import ComputeKernels.Config.Overrides
import ComputeKernels.Proofs.Text.Naturals
import Mathlib.Data.List.Forall2

/-!
# Texts of workgroups

A workgroup is written as one to three extents between commas.  An extent is a positive number of
32 bits in decimal notation, and there may be blanks around it.

Main definitions:

- `IsExtent`: a text of an extent.
- `Leads`: the first extents of a grid whose other extents are one.
- `IsWorkgroup`: a text of a workgroup.

Main results:

- Theorem `parseExtent?_eq_some_iff`: the texts of extents are read, and no other ones.
- Theorem `parseWorkgroup?_eq_some_iff`: the texts of workgroups are read, and no other ones.
- Theorem `isWorkgroup_intercalate`: the printed first extents of a grid are a text of it.
- Theorem `workgroups_follow_their_grammar`: the grammar, the range of what is read, and the reading
  of what is printed.
-/

namespace ComputeKernels.Config

open Text

/-! ## Extents -/

/-- Positive numbers of 32 bits. -/
def IsPositiveWord (n : Nat) : Prop := 0 < n ∧ n < word32

/-- A text of an extent: a text that denotes a positive number of 32 bits, with blanks around it. -/
def IsExtent (cs : List Char) (n : Nat) : Prop :=
  IsPositiveWord n ∧ ∃ numeral, IsNatural numeral n ∧ Padded numeral cs

/-- The texts of extents are read, and no other ones. -/
theorem parseExtent?_eq_some_iff {cs : List Char} {n : Nat} :
    parseExtent? cs = some n ↔ IsExtent cs n := by
  rw [parseExtent?, Option.filter_eq_some_iff, numeral?_eq_some_iff, bne_iff_ne,
    ← Nat.pos_iff_ne_zero]
  constructor
  · rintro ⟨⟨hnumeral, hlimit⟩, hpos⟩
    exact ⟨⟨hpos, hlimit⟩, dropBlankEnds cs, hnumeral, padded_dropBlankEnds cs⟩
  · rintro ⟨⟨hpos, hlimit⟩, numeral, hnumeral, hpadded⟩
    rw [(dropBlankEnds_eq_iff_padded fun _ => hnumeral.isBlank_eq_false).mpr hpadded]
    exact ⟨⟨hnumeral, hlimit⟩, hpos⟩

/-- There is no comma in the text of an extent. -/
theorem IsExtent.comma_not_mem {cs : List Char} {n : Nat} (h : IsExtent cs n) : ',' ∉ cs := by
  obtain ⟨-, numeral, hnumeral, before, after, hbefore, hafter, rfl⟩ := h
  simp only [List.mem_append, not_or]
  refine ⟨fun hmem => ?_, fun hmem => ?_, fun hmem => ?_⟩
  · exact absurd (hbefore _ hmem) (by decide)
  · exact absurd (hnumeral.isDigit_or_plus hmem) (by decide)
  · exact absurd (hafter _ hmem) (by decide)

/-! ## Workgroups -/

/-- The first extents of a grid, at least one and at most three, where every other extent of the
grid is one. -/
inductive Leads : List Nat → Grid → Prop
  | line (x : Nat) : Leads [x] ⟨x, 1, 1⟩
  | plane (x y : Nat) : Leads [x, y] ⟨x, y, 1⟩
  | space (x y z : Nat) : Leads [x, y, z] ⟨x, y, z⟩

namespace Leads

variable {extents : List Nat} {g : Grid}

private theorem ne_nil (h : Leads extents g) : extents ≠ [] := by
  cases h <;> exact List.cons_ne_nil _ _

/-- The extents stand in order, and the missing ones are one. -/
theorem toList_eq (h : Leads extents g) :
    g.toList = extents ++ List.replicate (3 - extents.length) 1 := by
  cases h <;> rfl

private theorem mem_toList_of_mem {n : Nat} (h : Leads extents g) (hn : n ∈ extents) :
    n ∈ g.toList := by
  rw [h.toList_eq]
  exact List.mem_append_left _ hn

/-- An extent of the grid is among the first ones, or one. -/
theorem mem_or_eq_one {n : Nat} (h : Leads extents g) (hn : n ∈ g.toList) :
    n ∈ extents ∨ n = 1 := by
  rw [h.toList_eq, List.mem_append] at hn
  exact hn.imp_right List.eq_of_mem_replicate

end Leads

/-- A text of a workgroup: between its commas stand the texts of the first extents. -/
def IsWorkgroup (cs : List Char) (g : Grid) : Prop :=
  ∃ extents, List.Forall₂ IsExtent (cs.splitOn ',') extents ∧ Leads extents g

/-- The texts of workgroups are read, and no other ones. -/
theorem parseWorkgroup?_eq_some_iff {raw : String} {g : Grid} :
    parseWorkgroup? raw = some g ↔ IsWorkgroup raw.toList g := by
  rw [parseWorkgroup?, IsWorkgroup, ← parts_eq_splitOn]
  constructor
  · intro h
    -- Four parts or more have no result, so three cases remain.
    split at h <;>
      simp only [Option.bind_eq_bind, Option.bind_eq_some_iff, Option.pure_def, Option.some.injEq,
        parseExtent?_eq_some_iff, reduceCtorEq] at h
    next hparts =>
      obtain ⟨x, hx, rfl⟩ := h
      exact ⟨[x], hparts ▸ .cons hx .nil, .line x⟩
    next hparts =>
      obtain ⟨x, hx, y, hy, rfl⟩ := h
      exact ⟨[x, y], hparts ▸ .cons hx (.cons hy .nil), .plane x y⟩
    next hparts =>
      obtain ⟨x, hx, y, hy, z, hz, rfl⟩ := h
      exact ⟨[x, y, z], hparts ▸ .cons hx (.cons hy (.cons hz .nil)), .space x y z⟩
  · rintro ⟨extents, hparts, hleads⟩
    generalize parts ',' raw.toList = fields at hparts ⊢
    cases hleads with
    | line x =>
      rcases hparts with _ | ⟨hx, _ | _⟩
      simp [parseExtent?_eq_some_iff.mpr hx]
    | plane x y =>
      rcases hparts with _ | ⟨hx, _ | ⟨hy, _ | _⟩⟩
      simp [parseExtent?_eq_some_iff.mpr hx, parseExtent?_eq_some_iff.mpr hy]
    | space x y z =>
      rcases hparts with _ | ⟨hx, _ | ⟨hy, _ | ⟨hz, _ | _⟩⟩⟩
      simp [parseExtent?_eq_some_iff.mpr hx, parseExtent?_eq_some_iff.mpr hy,
        parseExtent?_eq_some_iff.mpr hz]

example : parseWorkgroup? "1,2,3,4" = none ∧ parseWorkgroup? "4294967296" = none := by decide

/-- What is read has positive extents of 32 bits. -/
theorem isPositiveWord_of_parseWorkgroup? {raw : String} {g : Grid}
    (h : parseWorkgroup? raw = some g) : ∀ n ∈ g.toList, IsPositiveWord n := by
  obtain ⟨extents, hparts, hleads⟩ := parseWorkgroup?_eq_some_iff.mp h
  intro n hn
  rcases hleads.mem_or_eq_one hn with hmem | rfl
  · exact ((List.forall₂_and_left _ _).mp hparts.flip).1 n hmem
  · exact ⟨by decide, by decide⟩

/-! ## Printed workgroups -/

/-- An extent as it is printed, with blanks around it. -/
def IsPrinted (cs : List Char) (n : Nat) : Prop := Padded (toString n).toList cs

private theorem IsPrinted.isExtent {cs : List Char} {n : Nat} (h : IsPrinted cs n)
    (hn : IsPositiveWord n) : IsExtent cs n :=
  ⟨hn, (toString n).toList, isNatural_toString n, h⟩

/-- The printed first extents of a grid are a text of it. -/
theorem isWorkgroup_intercalate {g : Grid} {extents : List Nat} {fields : List (List Char)}
    (hg : ∀ n ∈ g.toList, IsPositiveWord n) (hleads : Leads extents g)
    (hprinted : List.Forall₂ IsPrinted fields extents) :
    IsWorkgroup ([','].intercalate fields) g := by
  have hwords : List.Forall₂ (fun n cs => IsPositiveWord n ∧ IsPrinted cs n) extents fields :=
    (List.forall₂_and_left _ _).mpr ⟨fun n hn => hg n (hleads.mem_toList_of_mem hn), hprinted.flip⟩
  have hfields : List.Forall₂ (fun cs n => ',' ∉ cs ∧ IsExtent cs n) fields extents :=
    hwords.flip.imp fun _ _ h => ⟨(h.2.isExtent h.1).comma_not_mem, h.2.isExtent h.1⟩
  obtain ⟨hcommas, hextents⟩ := (List.forall₂_and_left _ _).mp hfields
  have hne : fields ≠ [] := by
    rintro rfl
    exact hleads.ne_nil (List.forall₂_nil_left_iff.mp hprinted)
  exact ⟨extents, by rwa [List.splitOn_intercalate ',' hcommas hne], hleads⟩

/-- A text is read as a grid exactly if it is one to three extents between commas, which are the
first extents of the grid while its other extents are one.  All extents of what is read are positive
numbers of 32 bits.  Every such grid is read from its printed extents, from the first two if the
third is one, and from the first if the other ones are one, whatever blanks stand around them. -/
theorem workgroups_follow_their_grammar (raw : String) (g : Grid) :
    (parseWorkgroup? raw = some g ↔ IsWorkgroup raw.toList g) ∧
      (parseWorkgroup? raw = some g → ∀ n ∈ g.toList, IsPositiveWord n) ∧
      ((∀ n ∈ g.toList, IsPositiveWord n) → ∀ extents fields, Leads extents g →
        List.Forall₂ IsPrinted fields extents →
          parseWorkgroup? (String.ofList ([','].intercalate fields)) = some g) := by
  refine ⟨parseWorkgroup?_eq_some_iff, isPositiveWord_of_parseWorkgroup?,
    fun hg extents fields hleads hprinted => ?_⟩
  rw [parseWorkgroup?_eq_some_iff, String.toList_ofList]
  exact isWorkgroup_intercalate hg hleads hprinted

/-- A plane of eight by four, with a plus sign, a leading zero and blanks, and as it is printed. -/
theorem eight_by_four_is_read :
    IsWorkgroup " +08,\t4 ".toList ⟨8, 4, 1⟩ ∧ parseWorkgroup? "8, 4" = some ⟨8, 4, 1⟩ := by
  obtain ⟨hgrammar, hrange, hprint⟩ := workgroups_follow_their_grammar " +08,\t4 " ⟨8, 4, 1⟩
  have hread : parseWorkgroup? " +08,\t4 " = some ⟨8, 4, 1⟩ := by decide
  have hprinted : List.Forall₂ IsPrinted [['8'], [' ', '4']] [8, 4] :=
    .cons ⟨[], [], by simp, by simp, by decide⟩
      (.cons ⟨[' '], [], List.forall_mem_singleton.mpr rfl, by simp, by decide⟩ .nil)
  exact ⟨hgrammar.mp hread, hprint (hrange hread) [8, 4] _ (.plane 8 4) hprinted⟩

end ComputeKernels.Config
