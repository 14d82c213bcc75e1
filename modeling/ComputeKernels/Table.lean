/-!
# Keyed tables

A table keeps one entry per key in a list.  Looking up, replacing and erasing entries depend only on
the keys; the order of entries is that of their first insertion.

Main results:

- Theorems `get?_set` and `get?_erase`: what the two updates do to every look-up.
-/

namespace ComputeKernels

/-- Entries by key. -/
structure Table (κ α : Type) where
  entries : List (κ × α) := []

namespace Table

variable {κ α : Type} [DecidableEq κ]

/-- The table without entries. -/
def empty : Table κ α := ⟨[]⟩

/-- Number of entries. -/
def size (t : Table κ α) : Nat := t.entries.length

/-- Looks up a key in a list of entries. -/
def lookup (k : κ) : List (κ × α) → Option α
  | [] => none
  | (k', a) :: rest => if k' = k then some a else lookup k rest

/-- Puts an entry in place of the one with its key, or after all others. -/
def insertInto (k : κ) (a : α) : List (κ × α) → List (κ × α)
  | [] => [(k, a)]
  | (k', a') :: rest => if k' = k then (k, a) :: rest else (k', a') :: insertInto k a rest

/-- Removes the entries of a key. -/
def eraseFrom (k : κ) (entries : List (κ × α)) : List (κ × α) :=
  entries.filter fun e => decide (e.1 ≠ k)

/-- Entry of a key. -/
def get? (t : Table κ α) (k : κ) : Option α := lookup k t.entries

/-- Whether a key has an entry. -/
def contains (t : Table κ α) (k : κ) : Bool := (t.get? k).isSome

/-- Sets the entry of a key. -/
def set (t : Table κ α) (k : κ) (a : α) : Table κ α := ⟨insertInto k a t.entries⟩

/-- Removes the entry of a key. -/
def erase (t : Table κ α) (k : κ) : Table κ α := ⟨eraseFrom k t.entries⟩

/-! ## Look-ups after updates -/

private theorem lookup_insertInto (k k' : κ) (a : α) (entries : List (κ × α)) :
    lookup k' (insertInto k a entries) = if k' = k then some a else lookup k' entries := by
  induction entries with
  | nil => grind [insertInto, lookup]
  | cons e rest ih =>
    by_cases he : e.1 = k <;> by_cases h : k' = k <;>
      grind [insertInto, lookup]

private theorem lookup_eraseFrom (k k' : κ) (entries : List (κ × α)) :
    lookup k' (eraseFrom k entries) = if k' = k then none else lookup k' entries := by
  induction entries with
  | nil => simp [eraseFrom, lookup]
  | cons e rest ih => grind [eraseFrom, lookup]

/-- Setting an entry changes the look-up of its key alone. -/
theorem get?_set (t : Table κ α) (k k' : κ) (a : α) :
    (t.set k a).get? k' = if k' = k then some a else t.get? k' :=
  lookup_insertInto k k' a t.entries

/-- Erasing an entry changes the look-up of its key alone. -/
theorem get?_erase (t : Table κ α) (k k' : κ) :
    (t.erase k).get? k' = if k' = k then none else t.get? k' :=
  lookup_eraseFrom k k' t.entries

private theorem length_eraseFrom_lt {k : κ} {entries : List (κ × α)}
    (h : (lookup k entries).isSome = true) : (eraseFrom k entries).length < entries.length := by
  induction entries with
  | nil => simp [lookup] at h
  | cons e rest ih =>
    have hrest : (eraseFrom k rest).length ≤ rest.length := List.length_filter_le _ _
    by_cases he : e.1 = k
    · have : eraseFrom k (e :: rest) = eraseFrom k rest := by simp [eraseFrom, he]
      rw [this, List.length_cons]
      omega
    · have : eraseFrom k (e :: rest) = e :: eraseFrom k rest := by simp [eraseFrom, he]
      rw [this, List.length_cons, List.length_cons]
      have := ih (by simpa [lookup, he] using h)
      omega

private theorem length_insertInto_of_isSome {k : κ} {entries : List (κ × α)}
    (h : (lookup k entries).isSome = true) (a : α) :
    (insertInto k a entries).length = entries.length := by
  induction entries with
  | nil => simp [lookup] at h
  | cons e rest ih => grind [insertInto, lookup]

/-- Replacing an entry keeps the number of entries. -/
theorem size_set_of_contains {t : Table κ α} {k : κ} (h : t.contains k = true) (a : α) :
    (t.set k a).size = t.size :=
  length_insertInto_of_isSome h a

/-- Erasing a key that has an entry makes the table smaller. -/
theorem size_erase_lt {t : Table κ α} {k : κ} (h : t.contains k = true) :
    (t.erase k).size < t.size :=
  length_eraseFrom_lt h

end Table

end ComputeKernels
