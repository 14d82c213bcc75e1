/-!
# Nested texts

A text that was put together with separators is cut into its parts again at the separators, if these are
told from the like characters within a part.  Either the character is not in the parts at all, or it
stands in brackets there: outside of matching brackets a nested text has certain characters only.

Main definitions:

- `Brackets`: opening and closing characters.
- `Nested`: texts whose brackets match and whose other characters, outside of brackets, are free ones.

Main results:

- Theorem `Nested.cut`: a nested text ends where the next character may not stand in it.
- Theorem `Nested.cut_group`: a bracketed group at the end of a text is found from the right.
- Theorem `Nested.intercalate_inj`: separated nested texts are found in the whole.
-/

namespace ComputeKernels.Text

/-! ## Cutting at a character -/

section Cutting

variable {α : Type} {xs ys us vs : List α} {c : α}

/-- Two equal texts are cut alike at the first place of a character. -/
theorem append_cons_inj_left (hx : c ∉ xs) (hy : c ∉ ys) (h : xs ++ c :: us = ys ++ c :: vs) :
    xs = ys ∧ us = vs := by
  rcases List.append_eq_append_iff.mp h with ⟨as, rfl, has⟩ | ⟨as, rfl, has⟩
  · cases as with
    | nil => simpa using has
    | cons a as => exact absurd (List.cons.inj has).1 (by rintro rfl; simp at hy)
  · cases as with
    | nil => simpa using has.symm
    | cons a as => exact absurd (List.cons.inj has).1 (by rintro rfl; simp at hx)

/-- Two equal texts are cut alike at the last place of a character. -/
theorem append_cons_inj_right (hu : c ∉ us) (hv : c ∉ vs) (h : xs ++ c :: us = ys ++ c :: vs) :
    xs = ys ∧ us = vs := by
  have hreverse : us.reverse ++ c :: xs.reverse = vs.reverse ++ c :: ys.reverse := by
    simpa using congrArg List.reverse h
  obtain ⟨huv, hxy⟩ := append_cons_inj_left (by simpa using hu) (by simpa using hv) hreverse
  exact ⟨List.reverse_inj.mp hxy, List.reverse_inj.mp huv⟩

end Cutting

/-! ## Brackets -/

/-- Opening and closing characters. -/
structure Brackets where
  opens : Char → Prop
  closes : Char → Prop
  disjoint : ∀ c, opens c → ¬ closes c

/-- The brackets of a text that is read backward. -/
def Brackets.flip (b : Brackets) : Brackets where
  opens := b.closes
  closes := b.opens
  disjoint c hcloses hopens := b.disjoint c hopens hcloses

variable {b : Brackets}

/-- Texts whose brackets match and whose characters outside of brackets are free ones. -/
inductive Nested (b : Brackets) : (Char → Prop) → List Char → Prop
  | nil {free : Char → Prop} : Nested b free []
  | char {free : Char → Prop} {c : Char} {cs : List Char} (opens : ¬ b.opens c)
    (closes : ¬ b.closes c) (plain : free c) (rest : Nested b free cs) : Nested b free (c :: cs)
  | group {free : Char → Prop} {first last : Char} {inner cs : List Char} (opens : b.opens first)
    (closes : b.closes last) (inside : Nested b (fun _ => True) inner) (rest : Nested b free cs) :
    Nested b free (first :: (inner ++ last :: cs))

/-- A text at whose start a nested text ends: its first character opens no group and is a closing or no
free one. -/
def Stops (b : Brackets) (free : Char → Prop) (cs : List Char) : Prop :=
  ∀ c ∈ cs.head?, ¬ b.opens c ∧ (free c → b.closes c)

namespace Nested

variable {free free' : Char → Prop} {xs ys us vs : List Char}

/-- A text without brackets is nested. -/
theorem of_forall (h : ∀ c ∈ xs, ¬ b.opens c ∧ ¬ b.closes c ∧ free c) : Nested b free xs := by
  induction xs with
  | nil => exact nil
  | cons c cs ih =>
    obtain ⟨⟨hopens, hcloses, hfree⟩, hrest⟩ := List.forall_mem_cons.mp h
    exact char hopens hcloses hfree (ih hrest)

/-- Nested texts may follow each other. -/
theorem append (hx : Nested b free xs) (hy : Nested b free ys) : Nested b free (xs ++ ys) := by
  induction hx with
  | nil => exact hy
  | char hopens hcloses hfree _ ih => exact char hopens hcloses hfree (ih hy)
  | group hopens hcloses hinside _ _ ih =>
    rw [List.cons_append, List.append_assoc, List.cons_append]
    exact group hopens hcloses hinside (ih hy)

/-- What is nested for one condition is nested for a weaker one. -/
theorem mono (hx : Nested b free xs) (h : ∀ c, free c → free' c) : Nested b free' xs := by
  induction hx with
  | nil => exact nil
  | char hopens hcloses hfree _ ih => exact char hopens hcloses (h _ hfree) (ih h)
  | group hopens hcloses hinside _ _ ih => exact group hopens hcloses hinside (ih h)

private theorem reverse (hx : Nested b free xs) : Nested b.flip free xs.reverse := by
  induction hx with
  | nil => exact nil
  | char hopens hcloses hfree _ ih =>
    rw [List.reverse_cons]
    exact ih.append (char hcloses hopens hfree nil)
  | group hopens hcloses _ _ ihinside ihrest =>
    simp only [List.reverse_cons, List.reverse_append, List.append_assoc, List.cons_append,
      List.nil_append]
    exact ihrest.append (group hcloses hopens ihinside nil)

/-! ## Where a nested text ends -/

/-- No nested text goes on where another one ends. -/
theorem eq_nil_of_stops (hx : Nested b free xs) (h : Stops b free (xs ++ us)) : xs = [] := by
  cases hx with
  | nil => rfl
  | char _ hcloses hfree _ => exact absurd ((h _ rfl).2 hfree) hcloses
  | group hopens _ _ _ => exact absurd hopens (h _ rfl).1

/-- A closing character ends what is inside of brackets. -/
theorem stops_of_closes {c : Char} {cs : List Char} (hc : b.closes c) :
    Stops b (fun _ => True) (c :: cs) := by
  rintro _ ⟨⟩
  exact ⟨fun ho => b.disjoint c ho hc, fun _ => hc⟩

/-- Nested texts in front of texts at which they end are found in the whole. -/
theorem cut (hx : Nested b free xs) (hy : Nested b free ys) (hu : Stops b free us)
    (hv : Stops b free vs) (h : xs ++ us = ys ++ vs) : xs = ys ∧ us = vs := by
  induction hx generalizing ys us vs with
  | nil =>
    obtain rfl : us = ys ++ vs := h
    obtain rfl := hy.eq_nil_of_stops hu
    exact ⟨rfl, rfl⟩
  | char hopens hcloses hfree hrest ih =>
    cases hy with
    | nil =>
      obtain rfl : _ = vs := h
      exact absurd ((char hopens hcloses hfree hrest).eq_nil_of_stops hv) (List.cons_ne_nil _ _)
    | char _ _ _ hrest' =>
      obtain ⟨rfl, htail⟩ := List.cons.inj h
      obtain ⟨rfl, rfl⟩ := ih hrest' hu hv htail
      exact ⟨rfl, rfl⟩
    | group hopens' _ _ _ => exact absurd ((List.cons.inj h).1 ▸ hopens') hopens
  | group hopens hcloses hinside hrest ihinside ihrest =>
    cases hy with
    | nil =>
      obtain rfl : _ = vs := h
      exact absurd ((group hopens hcloses hinside hrest).eq_nil_of_stops hv) (List.cons_ne_nil _ _)
    | char hopens' _ _ _ => exact absurd ((List.cons.inj h).1 ▸ hopens) hopens'
    | group _ hcloses' hinside' hrest' =>
      obtain ⟨rfl, htail⟩ := List.cons.inj h
      simp only [List.append_eq, List.append_assoc, List.cons_append] at htail
      obtain ⟨rfl, hlast⟩ :=
        ihinside hinside' (stops_of_closes hcloses) (stops_of_closes hcloses') htail
      obtain ⟨rfl, hafter⟩ := List.cons.inj hlast
      obtain ⟨rfl, rfl⟩ := ihrest hrest' hu hv hafter
      exact ⟨rfl, rfl⟩

/-- A group at the end of a text is found from the right, with all that stands in front of it. -/
theorem cut_group {a a' c c' : Char} (hx : Nested b (fun _ => True) us)
    (hy : Nested b (fun _ => True) vs) (ha : b.opens a) (ha' : b.opens a')
    (h : xs ++ a :: (us ++ [c]) = ys ++ a' :: (vs ++ [c'])) : xs = ys ∧ us = vs := by
  have hreverse : c :: (us.reverse ++ a :: xs.reverse) = c' :: (vs.reverse ++ a' :: ys.reverse) := by
    simpa using congrArg List.reverse h
  obtain ⟨huv, hxy⟩ :=
    hx.reverse.cut hy.reverse (stops_of_closes ha) (stops_of_closes ha') (List.cons.inj hreverse).2
  exact ⟨List.reverse_inj.mp (List.cons.inj hxy).2, List.reverse_inj.mp huv⟩

/-! ## Separated texts -/

/-- Nested texts may be joined by nested separators. -/
theorem intercalate {separator : List Char} {texts : List (List Char)} (hsep : Nested b free separator)
    (h : ∀ cs ∈ texts, Nested b free cs) : Nested b free (separator.intercalate texts) := by
  induction texts with
  | nil => exact nil
  | cons cs rest ih =>
    obtain ⟨hcs, hrest⟩ := List.forall_mem_cons.mp h
    cases rest with
    | nil => simpa using hcs
    | cons next rest =>
      rw [List.intercalate_cons_cons]
      exact (hcs.append hsep).append (ih hrest)

/-- Separated texts start with the first of them, and the rest is empty or starts with a separator. -/
theorem intercalate_cons (c : Char) (blank cs : List Char) (rest : List (List Char)) :
    (c :: blank).intercalate (cs :: rest) =
      cs ++ if rest = [] then [] else c :: (blank ++ (c :: blank).intercalate rest) := by
  cases rest with
  | nil => simp
  | cons next rest => simp [List.intercalate_cons_cons]

/-- Nested texts without the start of the separator outside of brackets, none of them empty, are found
where they are separated. -/
theorem intercalate_inj {c : Char} {blank : List Char} {texts texts' : List (List Char)}
    (hopens : ¬ b.opens c) (hfree : ¬ free c) (h : ∀ cs ∈ texts, cs ≠ [] ∧ Nested b free cs)
    (h' : ∀ cs ∈ texts', cs ≠ [] ∧ Nested b free cs)
    (heq : (c :: blank).intercalate texts = (c :: blank).intercalate texts') : texts = texts' := by
  have hstops (rest : List (List Char)) : Stops b free
      (if rest = [] then [] else c :: (blank ++ (c :: blank).intercalate rest)) := by
    split
    · simp [Stops]
    · rintro _ ⟨⟩
      exact ⟨hopens, fun hc => absurd hc hfree⟩
  induction texts generalizing texts' with
  | nil =>
    cases texts' with
    | nil => rfl
    | cons cs rest =>
      rw [intercalate_cons, List.intercalate_nil] at heq
      exact absurd (List.append_eq_nil_iff.mp heq.symm).1 (h' cs (by simp)).1
  | cons cs rest ih =>
    rw [List.forall_mem_cons] at h
    rw [intercalate_cons] at heq
    cases texts' with
    | nil =>
      rw [List.intercalate_nil] at heq
      exact absurd (List.append_eq_nil_iff.mp heq).1 h.1.1
    | cons cs' rest' =>
      rw [List.forall_mem_cons] at h'
      rw [intercalate_cons] at heq
      obtain ⟨rfl, htail⟩ := h.1.2.cut h'.1.2 (hstops rest) (hstops rest') heq
      congr 1
      split at htail <;> split at htail
      · simp_all
      · exact absurd htail (by simp)
      · exact absurd htail (by simp)
      · exact ih h.2 h'.2 (List.append_cancel_left (List.cons.inj htail).2)

end Nested

end ComputeKernels.Text
