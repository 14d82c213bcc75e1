import ComputeKernels.Proofs.Shape.Positions

/-!
# Common shapes

To broadcast is an order on shapes: every axis stays as long as it is or stretches from one, and outer
axes may be added.  Two shapes are joined axis by axis from the innermost one outward, and what comes out
is the least shape, in this order, that both of them broadcast to.

Main results:

- Theorem `join?_eq_some_iff`: the common shape is the one that broadcasts exactly to the shapes that
  both operands broadcast to.
- Theorem `join?_eq_right_iff`: a shape broadcasts to another exactly if the two are joined to the other.
- Theorem `broadcasts_of_join?`: both shapes broadcast to the one that they are joined to.
- Theorem `joins_are_least_common_shapes`: joining is the least upper bound of this order.
-/

namespace ComputeKernels.Shape

variable {a b c out t : Shape}

/-! ## Broadcasting from the inside out -/

/-- A shape broadcasts to another, both given innermost axis first. -/
def BroadcastsReversed : Shape → Shape → Prop
  | [], _ => True
  | _ :: _, [] => False
  | a :: as, t :: ts => (a = 1 ∨ a = t) ∧ BroadcastsReversed as ts

@[simp]
theorem broadcastsReversed_nil (ts : Shape) : BroadcastsReversed [] ts := by
  simp [BroadcastsReversed]

@[simp]
theorem not_broadcastsReversed_nil (a : Nat) (as : Shape) : ¬ BroadcastsReversed (a :: as) [] := by
  simp [BroadcastsReversed]

@[simp]
theorem broadcastsReversed_cons {a t : Nat} {as ts : Shape} :
    BroadcastsReversed (a :: as) (t :: ts) ↔ (a = 1 ∨ a = t) ∧ BroadcastsReversed as ts := by
  simp [BroadcastsReversed]

/-- The axes that are compared are the innermost ones of the longer shape. -/
theorem broadcastsReversed_iff {as ts : Shape} :
    BroadcastsReversed as ts ↔
      as.length ≤ ts.length ∧ List.Forall₂ (fun a t => a = 1 ∨ a = t) as (ts.take as.length) := by
  induction as generalizing ts with
  | nil => simp
  | cons a as ih =>
    cases ts with
    | nil => simp
    | cons t ts => simp [ih, and_left_comm]

/-- Alignment from the innermost axis is alignment of the reversed shapes. -/
theorem broadcasts_iff_reversed : Broadcasts a t ↔ BroadcastsReversed a.reverse t.reverse := by
  rw [broadcastsReversed_iff, List.length_reverse, List.length_reverse, List.take_reverse,
    List.forall₂_reverse_iff]
  constructor
  · intro h
    exact ⟨h.length_le, h.extents⟩
  · intro h
    exact ⟨h.1, h.2⟩

/-! ## The order on shapes -/

private theorem BroadcastsReversed.refl (as : Shape) : BroadcastsReversed as as := by
  induction as with
  | nil => simp
  | cons a as ih => simp [ih]

private theorem BroadcastsReversed.trans {as bs ts : Shape} (h : BroadcastsReversed as bs)
    (h' : BroadcastsReversed bs ts) : BroadcastsReversed as ts := by
  induction as generalizing bs ts with
  | nil => simp
  | cons a as ih =>
    cases bs with
    | nil => simp at h
    | cons b bs =>
      cases ts with
      | nil => simp at h'
      | cons t ts =>
        rw [broadcastsReversed_cons] at h h' ⊢
        exact ⟨by omega, ih h.2 h'.2⟩

private theorem BroadcastsReversed.antisymm {as bs : Shape} (h : BroadcastsReversed as bs)
    (h' : BroadcastsReversed bs as) : as = bs := by
  induction as generalizing bs with
  | nil =>
    cases bs with
    | nil => rfl
    | cons b bs => simp at h'
  | cons a as ih =>
    cases bs with
    | nil => simp at h
    | cons b bs =>
      rw [broadcastsReversed_cons] at h h'
      have hextent : a = b := by omega
      rw [hextent, ih h.2 h'.2]

private theorem Broadcasts.refl (s : Shape) : Broadcasts s s :=
  broadcasts_iff_reversed.mpr (.refl s.reverse)

private theorem Broadcasts.trans (h : Broadcasts a b) (h' : Broadcasts b t) : Broadcasts a t := by
  rw [broadcasts_iff_reversed] at h h' ⊢
  exact h.trans h'

private theorem Broadcasts.antisymm (h : Broadcasts a b) (h' : Broadcasts b a) : a = b := by
  rw [broadcasts_iff_reversed] at h h'
  exact List.reverse_injective (h.antisymm h')

/-- A single number broadcasts to every shape. -/
theorem broadcasts_nil (s : Shape) : Broadcasts [] s := by
  simp [broadcasts_iff_reversed]

/-! ## Joining from the inside out -/

/-- The common extent stretches to whatever both extents stretch to. -/
theorem stretches_iff_of_joinExtent? {a b e : Nat} (h : joinExtent? a b = some e) (t : Nat) :
    (e = 1 ∨ e = t) ↔ (a = 1 ∨ a = t) ∧ (b = 1 ∨ b = t) := by
  unfold joinExtent? at h
  split at h
  · simp_all
  · split at h
    · simp_all
    · split at h <;> simp_all

/-- Extents that stretch to the same one have a common extent. -/
theorem exists_joinExtent? {a b t : Nat} (ha : a = 1 ∨ a = t) (hb : b = 1 ∨ b = t) :
    ∃ e, joinExtent? a b = some e := by
  unfold joinExtent?
  split
  · exact ⟨a, rfl⟩
  · split
    · exact ⟨b, rfl⟩
    · split
      · exact ⟨a, rfl⟩
      · omega

/-- The common shape broadcasts to whatever both shapes broadcast to. -/
theorem broadcastsReversed_iff_of_joinReversed? {as bs os : Shape}
    (h : joinReversed? as bs = some os) (ts : Shape) :
    BroadcastsReversed os ts ↔ BroadcastsReversed as ts ∧ BroadcastsReversed bs ts := by
  fun_induction joinReversed? as bs generalizing os ts with
  | case1 bs => simp_all
  | case2 as => simp_all
  | case3 a as b bs ih =>
    simp only [Option.bind_eq_bind, Option.bind_eq_some_iff, Option.pure_def,
      Option.some.injEq] at h
    rcases h with ⟨e, he, outer, houter, rfl⟩
    cases ts with
    | nil => simp
    | cons t ts =>
      simp only [broadcastsReversed_cons, stretches_iff_of_joinExtent? he, ih houter]
      exact and_and_and_comm

/-- Shapes that broadcast to the same one have a common shape. -/
theorem exists_joinReversed? {as bs ts : Shape} (ha : BroadcastsReversed as ts)
    (hb : BroadcastsReversed bs ts) : ∃ os, joinReversed? as bs = some os := by
  fun_induction joinReversed? as bs generalizing ts with
  | case1 bs => exact ⟨bs, rfl⟩
  | case2 as => exact ⟨as, rfl⟩
  | case3 a as b bs ih =>
    cases ts with
    | nil => simp at ha
    | cons t ts =>
      rw [broadcastsReversed_cons] at ha hb
      rcases exists_joinExtent? ha.1 hb.1 with ⟨e, he⟩
      rcases ih ha.2 hb.2 with ⟨outer, houter⟩
      simp [he, houter]

/-! ## Least common shapes -/

/-- The common shape broadcasts exactly to the shapes that both operands broadcast to. -/
theorem broadcasts_iff_of_join? (h : join? a b = some out) (t : Shape) :
    Broadcasts out t ↔ Broadcasts a t ∧ Broadcasts b t := by
  rcases Option.map_eq_some_iff.mp h with ⟨reversed, hreversed, rfl⟩
  simp only [broadcasts_iff_reversed, List.reverse_reverse]
  exact broadcastsReversed_iff_of_joinReversed? hreversed t.reverse

/-- Shapes that broadcast to the same one can be joined. -/
theorem exists_join? (ha : Broadcasts a t) (hb : Broadcasts b t) : ∃ out, join? a b = some out := by
  rw [broadcasts_iff_reversed] at ha hb
  rcases exists_joinReversed? ha hb with ⟨reversed, hreversed⟩
  exact ⟨reversed.reverse, by simp [join?, hreversed]⟩

/-- Both shapes broadcast to the one that they are joined to. -/
theorem broadcasts_of_join? (h : join? a b = some out) : Broadcasts a out ∧ Broadcasts b out :=
  (broadcasts_iff_of_join? h out).mp (.refl out)

/-- The common shape of two operands is the one that broadcasts exactly to the shapes that both of them
broadcast to. -/
theorem join?_eq_some_iff :
    join? a b = some out ↔ ∀ t, Broadcasts out t ↔ Broadcasts a t ∧ Broadcasts b t := by
  constructor
  · intro h t
    exact broadcasts_iff_of_join? h t
  · intro h
    rcases (h out).mp (.refl out) with ⟨ha, hb⟩
    rcases exists_join? ha hb with ⟨least, hleast⟩
    have hout : Broadcasts out least := (h least).mpr (broadcasts_of_join? hleast)
    have hback : Broadcasts least out := (broadcasts_iff_of_join? hleast out).mpr ⟨ha, hb⟩
    rw [hleast, hback.antisymm hout]

/-- A shape broadcasts to another exactly if the two are joined to the other. -/
theorem join?_eq_right_iff : join? a t = some t ↔ Broadcasts a t := by
  rw [join?_eq_some_iff]
  constructor
  · intro h
    exact ((h t).mp (.refl t)).1
  · intro h u
    constructor
    · intro hu
      exact ⟨h.trans hu, hu⟩
    · intro hu
      exact hu.2

private theorem join?_comm (a b : Shape) : join? a b = join? b a := by
  ext out
  rw [join?_eq_some_iff, join?_eq_some_iff]
  simp only [and_comm]

/-- What is joined in two steps broadcasts exactly to the shapes that all three operands broadcast
to. -/
theorem bind_join?_eq_some_iff :
    (join? a b).bind (join? · c) = some out ↔
      ∀ t, Broadcasts out t ↔ (Broadcasts a t ∧ Broadcasts b t) ∧ Broadcasts c t := by
  rw [Option.bind_eq_some_iff]
  constructor
  · rintro ⟨inner, hinner, hout⟩ t
    rw [broadcasts_iff_of_join? hout, broadcasts_iff_of_join? hinner]
  · intro h
    rcases (h out).mp (.refl out) with ⟨⟨ha, hb⟩, -⟩
    rcases exists_join? ha hb with ⟨inner, hinner⟩
    refine ⟨inner, hinner, join?_eq_some_iff.mpr fun t => ?_⟩
    rw [h t, broadcasts_iff_of_join? hinner]

private theorem join?_assoc (a b c : Shape) :
    (join? a b).bind (join? · c) = (join? b c).bind (join? a ·) := by
  ext out
  simp only [join?_comm a]
  rw [bind_join?_eq_some_iff, bind_join?_eq_some_iff]
  simp only [and_assoc, and_comm]

/-- Joining is the least upper bound of the order in which shapes broadcast.  Here a shape broadcasts to
another if the two are joined to the other, which is the right-aligned comparison of their extents.
Joining is idempotent, has the shape of a single number as identity, is commutative, and is associative
down to the failures; the common shape is one that both broadcast to, and broadcasts to all others of
these; and there is none only where there are no others either. -/
theorem joins_are_least_common_shapes (a b c : Shape) :
    (∀ t, join? a t = some t ↔ Broadcasts a t) ∧
      join? a a = some a ∧ join? [] a = some a ∧ join? a [] = some a ∧
      join? a b = join? b a ∧
      (join? a b).bind (join? · c) = (join? b c).bind (join? a ·) ∧
      (∀ out, join? a b = some out → join? a out = some out ∧ join? b out = some out ∧
        ∀ t, join? a t = some t → join? b t = some t → join? out t = some t) ∧
      (join? a b = none ↔ ¬ ∃ t, join? a t = some t ∧ join? b t = some t) := by
  have hnil : join? [] a = some a := join?_eq_right_iff.mpr (broadcasts_nil a)
  refine ⟨fun t => join?_eq_right_iff, join?_eq_right_iff.mpr (.refl a), hnil,
    (join?_comm a []).trans hnil, join?_comm a b, join?_assoc a b c, fun out hout => ?_, ?_⟩
  · simp only [join?_eq_right_iff]
    rcases broadcasts_of_join? hout with ⟨ha, hb⟩
    refine ⟨ha, hb, fun t hat hbt => ?_⟩
    exact (broadcasts_iff_of_join? hout t).mpr ⟨hat, hbt⟩
  · simp only [join?_eq_right_iff]
    constructor
    · rintro hnone ⟨t, hat, hbt⟩
      rcases exists_join? hat hbt with ⟨out, hout⟩
      rw [hnone] at hout
      cases hout
    · intro hnever
      rw [Option.eq_none_iff_forall_ne_some]
      intro out hout
      exact hnever ⟨out, broadcasts_of_join? hout⟩

/-- A column and a block of rows are joined to a block that fits into a longer batch of them. -/
theorem batch_holds_the_common_block :
    join? [3, 1] [2, 1, 5] = some [2, 3, 5] ∧ join? [3, 1] [4, 2, 3, 5] = some [4, 2, 3, 5] ∧
      join? [2, 1, 5] [4, 2, 3, 5] = some [4, 2, 3, 5] ∧
      join? [2, 3, 5] [4, 2, 3, 5] = some [4, 2, 3, 5] := by
  have hjoin : join? [3, 1] [2, 1, 5] = some [2, 3, 5] := by decide
  have hcolumn : join? [3, 1] [4, 2, 3, 5] = some [4, 2, 3, 5] := by decide
  have hrows : join? [2, 1, 5] [4, 2, 3, 5] = some [4, 2, 3, 5] := by decide
  rcases joins_are_least_common_shapes [3, 1] [2, 1, 5] [] with ⟨-, -, -, -, -, -, hleast, -⟩
  rcases hleast [2, 3, 5] hjoin with ⟨-, -, hbatch⟩
  exact ⟨hjoin, hcolumn, hrows, hbatch [4, 2, 3, 5] hcolumn hrows⟩

end ComputeKernels.Shape
