import ComputeKernels.Table
import Mathlib.Data.List.Dedup

/-!
# Entries of keyed tables

A table that was built by its own updates never has two entries of one key.  For such tables the
entry of a key can be taken out of the list of entries, and an update is known up to order: the new
entry stands beside the entries of the other keys.

Main results:

- Theorem `Keyed.get?_eq_some_iff`: look-ups find exactly the entries.
- Theorem `Keyed.entries_perm`: the entry of a key and the others make up the table.
- Theorem `Keyed.entries_set_perm`: so do the new entry and the others after an update.
-/

namespace ComputeKernels.Table

variable {κ α : Type} {t : Table κ α}

/-! ## Keys -/

/-- Keys of the entries. -/
def keys (t : Table κ α) : List κ := t.entries.map Prod.fst

/-- No two entries have one key. -/
def Keyed (t : Table κ α) : Prop := t.keys.Nodup

/-- The keys of an empty table differ. -/
theorem keyed_empty : (empty : Table κ α).Keyed := List.nodup_nil

/-- The keys of a table are those of its entries. -/
theorem mem_keys_iff {k : κ} : k ∈ t.keys ↔ ∃ a, (k, a) ∈ t.entries := by
  simp [keys]

/-! ## Entries of other keys -/

variable [DecidableEq κ]

/-- Erasing a key drops an entry that has it. -/
theorem eraseFrom_cons_self (k : κ) (a : α) (rest : List (κ × α)) :
    eraseFrom k ((k, a) :: rest) = eraseFrom k rest := by
  simp [eraseFrom]

/-- Erasing a key keeps an entry that has another one. -/
theorem eraseFrom_cons_of_ne {k k' : κ} (h : k' ≠ k) (a : α) (rest : List (κ × α)) :
    eraseFrom k ((k', a) :: rest) = (k', a) :: eraseFrom k rest := by
  simp [eraseFrom, h]

/-- Without entries of a key there is nothing to erase. -/
theorem eraseFrom_eq_self {k : κ} {entries : List (κ × α)} (h : k ∉ entries.map Prod.fst) :
    eraseFrom k entries = entries := by
  apply List.filter_eq_self.mpr
  intro e he
  exact decide_eq_true fun hk => h (List.mem_map.mpr ⟨e, he, hk⟩)

/-- Erasing a key keeps the entries that have another one. -/
theorem mem_eraseFrom_iff {k : κ} {entries : List (κ × α)} {e : κ × α} :
    e ∈ eraseFrom k entries ↔ e ∈ entries ∧ e.1 ≠ k := by
  simp [eraseFrom]

/-! ## Look-ups -/

/-- What is looked up is an entry. -/
theorem mem_of_lookup {k : κ} {a : α} {entries : List (κ × α)} (h : lookup k entries = some a) :
    (k, a) ∈ entries := by
  induction entries with
  | nil => simp [lookup] at h
  | cons e rest ih =>
    rcases e with ⟨k', a'⟩
    by_cases hk : k' = k
    · simp only [lookup, hk, if_true, Option.some.injEq] at h
      rw [hk, h]
      exact List.mem_cons_self
    · simp only [lookup, hk, if_false] at h
      exact List.mem_cons_of_mem _ (ih h)

private theorem lookup_eq_none_iff {k : κ} {entries : List (κ × α)} :
    lookup k entries = none ↔ k ∉ entries.map Prod.fst := by
  induction entries with
  | nil => simp [lookup]
  | cons e rest ih =>
    rcases e with ⟨k', a'⟩
    by_cases hk : k' = k
    · simp [lookup, hk]
    · simp only [lookup, hk, if_false, ih, List.map_cons, List.mem_cons, not_or]
      exact ⟨fun h => ⟨fun hkk => hk hkk.symm, h⟩, fun h => h.2⟩

/-- Nothing is found under a key exactly if no entry has it. -/
theorem get?_eq_none_iff {k : κ} : t.get? k = none ↔ k ∉ t.keys := lookup_eq_none_iff

private theorem lookup_perm {k : κ} {a : α} {entries : List (κ × α)}
    (hkeys : (entries.map Prod.fst).Nodup)
    (h : lookup k entries = some a) : entries.Perm ((k, a) :: eraseFrom k entries) := by
  induction entries with
  | nil => simp [lookup] at h
  | cons e rest ih =>
    rcases e with ⟨k', a'⟩
    rcases List.nodup_cons.mp hkeys with ⟨hfirst, hrest⟩
    by_cases hk : k' = k
    · subst hk
      simp only [lookup, if_true, Option.some.injEq] at h
      rw [h, eraseFrom_cons_self, eraseFrom_eq_self hfirst]
    · simp only [lookup, hk, if_false] at h
      rw [eraseFrom_cons_of_ne hk]
      exact (List.Perm.cons _ (ih hrest h)).trans (List.Perm.swap _ _ _)

namespace Keyed

/-- The entry of a key and the entries of the others make up the table. -/
theorem entries_perm (ht : t.Keyed) {k : κ} {a : α} (h : t.get? k = some a) :
    t.entries.Perm ((k, a) :: (t.erase k).entries) :=
  lookup_perm ht h

/-- Look-ups find exactly the entries. -/
theorem get?_eq_some_iff (ht : t.Keyed) {k : κ} {a : α} :
    t.get? k = some a ↔ (k, a) ∈ t.entries := by
  constructor
  · exact mem_of_lookup
  · intro hmem
    cases hget : t.get? k with
    | none => exact absurd (mem_keys_iff.mpr ⟨a, hmem⟩) (get?_eq_none_iff.mp hget)
    | some a' =>
      rcases List.mem_cons.mp ((ht.entries_perm hget).mem_iff.mp hmem) with heq | herased
      · exact congrArg some (Prod.mk.inj heq).2.symm
      · exact absurd rfl (mem_eraseFrom_iff.mp herased).2

end Keyed

/-! ## Updates -/

/-- Erasing a key that no entry has changes nothing. -/
theorem entries_erase_of_get?_eq_none {k : κ} (h : t.get? k = none) :
    (t.erase k).entries = t.entries :=
  eraseFrom_eq_self (get?_eq_none_iff.mp h)

private theorem insertInto_perm {k : κ} {a : α} {entries : List (κ × α)}
    (hkeys : (entries.map Prod.fst).Nodup) :
    (insertInto k a entries).Perm ((k, a) :: eraseFrom k entries) := by
  induction entries with
  | nil => exact List.Perm.refl _
  | cons e rest ih =>
    rcases e with ⟨k', a'⟩
    rcases List.nodup_cons.mp hkeys with ⟨hfirst, hrest⟩
    by_cases hk : k' = k
    · subst hk
      simp only [insertInto, if_true]
      rw [eraseFrom_cons_self, eraseFrom_eq_self hfirst]
    · simp only [insertInto, hk, if_false]
      rw [eraseFrom_cons_of_ne hk]
      exact (List.Perm.cons _ (ih hrest)).trans (List.Perm.swap _ _ _)

/-- The new entry and those of the other keys make up the table after an update. -/
theorem Keyed.entries_set_perm (ht : t.Keyed) (k : κ) (a : α) :
    (t.set k a).entries.Perm ((k, a) :: (t.erase k).entries) :=
  insertInto_perm ht

/-- Erasing keeps the keys different. -/
theorem Keyed.erase (ht : t.Keyed) (k : κ) : (t.erase k).Keyed :=
  List.Nodup.sublist (List.filter_sublist.map Prod.fst) ht

/-- Setting keeps the keys different. -/
theorem Keyed.set (ht : t.Keyed) (k : κ) (a : α) : (t.set k a).Keyed := by
  have hperm : (t.set k a).keys.Perm (k :: (t.erase k).keys) :=
    (ht.entries_set_perm k a).map Prod.fst
  refine hperm.nodup_iff.mpr (List.nodup_cons.mpr ⟨fun hk => ?_, ht.erase k⟩)
  rcases mem_keys_iff.mp hk with ⟨a', ha'⟩
  exact (mem_eraseFrom_iff.mp ha').2 rfl

end ComputeKernels.Table
