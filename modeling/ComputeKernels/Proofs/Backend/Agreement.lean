import ComputeKernels.Proofs.Backend.Upkeep

/-!
# Agreement of two backends

Two backends that are seen alike may have submitted different passes and may have put off different
removals.  Two actions on them agree if they fail in the same way or succeed with corresponding
answers, and leave the backends alike.

Main results:

- Theorem `Agree.bind`: sequences of actions agree if their steps do.
- Theorem `Alike.exists_counterparts`: a tensor that is referred to has a record on both sides.
-/

namespace ComputeKernels.Backend

open Tensor Buffer Device

/-! ## How views evolve -/

/-- A view may change so that tensors that were made keep their parts, do not come back after they
went, and are not computed by passes that came later. -/
structure View.Evolves (v v' : View) : Prop where
  next_le : v.next ≤ v'.next
  parts : ∀ id t', id.number < v.next → v'.tensors id = some t' →
    ∃ t, v.tensors id = some t ∧ t'.parts = t.parts
  outputs : ∀ id, id.number < v.next → id ∈ v'.outputs → id ∈ v.outputs

namespace View

variable {v v' v'' : View} {id : TensorId}

/-- A view evolves into itself. -/
theorem Evolves.refl (v : View) : Evolves v v :=
  ⟨Nat.le_refl _, fun _ t' _ ht' => ⟨t', ht', rfl⟩, fun _ _ h => h⟩

/-- Views evolve step by step. -/
theorem Evolves.trans (h : Evolves v v') (h' : Evolves v' v'') : Evolves v v'' where
  next_le := Nat.le_trans h.next_le h'.next_le
  parts := by
    intro id t'' hlt ht''
    rcases h'.parts id t'' (Nat.lt_of_lt_of_le hlt h.next_le) ht'' with ⟨t', ht', hparts'⟩
    rcases h.parts id t' hlt ht' with ⟨t, ht, hparts⟩
    exact ⟨t, ht, hparts'.trans hparts⟩
  outputs := by
    intro id hlt hmem
    exact h.outputs id hlt (h'.outputs id (Nat.lt_of_lt_of_le hlt h.next_le) hmem)

/-- A new tensor leaves the others as they are. -/
theorem evolves_insert (v : View) (t : Sight) : Evolves v (v.insert t) where
  next_le := Nat.le_succ _
  parts := by
    intro id t' hlt ht'
    have hold : id ≠ ⟨v.next⟩ := by
      rintro rfl
      exact Nat.lt_irrefl _ hlt
    have htensors : (v.insert t).tensors id = v.tensors id := if_neg hold
    exact ⟨t', htensors.symm.trans ht', rfl⟩
  outputs := fun _ _ h => h

private theorem evolves_set {t : Sight} {t' : Option Sight} (h : v.tensors id = some t)
    (hparts : ∀ s, t' = some s → s.parts = t.parts) : Evolves v (v.set id t') where
  next_le := Nat.le_refl _
  parts := by
    intro i s hlt hs
    by_cases hi : i = id
    · have htensors : (v.set id t').tensors i = t' := if_pos hi
      rw [hi]
      exact ⟨t, h, hparts s (htensors.symm.trans hs)⟩
    · have htensors : (v.set id t').tensors i = v.tensors i := if_neg hi
      exact ⟨s, htensors.symm.trans hs, rfl⟩
  outputs := fun _ _ h => h

/-- A view evolves when a tensor goes. -/
theorem evolves_drop (v : View) (id : TensorId) : Evolves v (v.drop id) := by
  unfold drop
  cases h : v.tensors id with
  | none => exact .refl v
  | some t =>
    apply evolves_set h
    intro s hs
    split at hs
    · cases hs
    · obtain rfl := Option.some.inj hs
      rfl

/-- A new pass computes a new tensor. -/
theorem evolves_dispatch {t : Sight} {p : Pass} (h : p.output = ⟨v.next⟩) :
    Evolves v ((v.insert t).dispatch p) where
  next_le := Nat.le_succ _
  parts := (evolves_insert v t).parts
  outputs := by
    intro id hlt hmem
    have houtputs : ((v.insert t).dispatch p).outputs = v.outputs ++ [p.output] :=
      List.map_append
    rw [houtputs, h] at hmem
    rcases List.mem_append.mp hmem with hold | hnew
    · exact hold
    · rw [List.mem_singleton.mp hnew] at hlt
      exact absurd hlt (Nat.lt_irrefl _)

/-! ### Views that stand still -/

/-- Two views have the same tensors with the same parts, and the same passes. -/
structure Steady (v v' : View) : Prop where
  next : v'.next = v.next
  passes : v'.passes = v.passes
  parts : ∀ id, (v'.tensors id).map Sight.parts = (v.tensors id).map Sight.parts

/-- A tensor in view has no parts. -/
def Plain (v : View) (id : TensorId) : Prop := (v.tensors id).map Sight.parts = some none

/-- A tensor is still referred to if it was ever made. -/
def Retains (v : View) (id : TensorId) : Prop := id.number < v.next → v.tensors id ≠ none

/-- A view is steady in itself. -/
theorem Steady.refl (v : View) : Steady v v := ⟨rfl, rfl, fun _ => rfl⟩

/-- Views stay steady step by step. -/
theorem Steady.trans (h : Steady v v') (h' : Steady v' v'') : Steady v v'' :=
  ⟨h'.next.trans h.next, h'.passes.trans h.passes, fun id => (h'.parts id).trans (h.parts id)⟩

/-- A view that stays steady evolves. -/
theorem Steady.evolves (h : Steady v v') : Evolves v v' where
  next_le := Nat.le_of_eq h.next.symm
  parts := by
    intro id t' _ ht'
    have hparts := h.parts id
    rw [ht', Option.map_some] at hparts
    rcases Option.map_eq_some_iff.mp hparts.symm with ⟨t, ht, heq⟩
    exact ⟨t, ht, heq.symm⟩
  outputs := by
    intro id _ hmem
    rwa [outputs, h.passes] at hmem

/-- The outputs of passes stay the same in a steady view. -/
theorem Steady.outputs_eq (h : Steady v v') : v'.outputs = v.outputs := by
  rw [outputs, h.passes]
  rfl

/-- A tensor that is referred to stays so in a steady view. -/
theorem Steady.retains (h : Steady v v') (hid : v.Retains id) : v'.Retains id := by
  intro hlt hnone
  rw [h.next] at hlt
  have hparts := h.parts id
  rw [hnone, Option.map_none] at hparts
  exact hid hlt (Option.map_eq_none_iff.mp hparts.symm)

/-- A tensor without parts stays so in a steady view. -/
theorem Steady.plain (h : Steady v v') (hid : v.Plain id) : v'.Plain id := (h.parts id).trans hid

/-- A tensor may change in view as long as it keeps its parts. -/
theorem steady_set {t t' : Sight} (h : v.tensors id = some t) (hparts : t'.parts = t.parts) :
    Steady v (v.set id (some t')) where
  next := rfl
  passes := rfl
  parts := by
    intro i
    by_cases hi : i = id
    · have htensors : (v.set id (some t')).tensors i = some t' := if_pos hi
      rw [htensors, hi, h, Option.map_some, Option.map_some, hparts]
    · have htensors : (v.set id (some t')).tensors i = v.tensors i := if_neg hi
      rw [htensors]

/-! ### Tensors of the host -/

/-- A tensor was made, and no pass computes it. -/
def Given (v : View) (id : TensorId) : Prop := id.number < v.next ∧ id ∉ v.outputs

/-- A tensor was made with its parts, and no pass computes it or them. -/
structure Hosted (v : View) (id : TensorId) : Prop where
  given : v.Given id
  parts : ∀ t p, v.tensors id = some t → t.parts = some p → v.Given p.1 ∧ v.Given p.2

/-- A tensor that was made and that no pass computes stays so. -/
theorem Given.evolve (h : v.Given id) (hv : Evolves v v') : v'.Given id :=
  ⟨Nat.lt_of_lt_of_le h.1 hv.next_le, fun hmem => h.2 (hv.outputs id h.1 hmem)⟩

/-- A tensor of the host stays one. -/
theorem Hosted.evolve (h : v.Hosted id) (hv : Evolves v v') : v'.Hosted id where
  given := h.given.evolve hv
  parts := by
    intro t' p ht' hp
    rcases hv.parts id t' h.given.1 ht' with ⟨t, ht, hparts⟩
    rcases h.parts t p ht (hparts.symm.trans hp) with ⟨hreal, himag⟩
    exact ⟨hreal.evolve hv, himag.evolve hv⟩

end View

/-! ## Backends that are seen alike -/

variable {α β : Type} {start : Nat} {b₁ b₂ b₁' b₂' : Backend} {id : TensorId} {r₁ r₂ : Record}

/-- Two backends in use have the same view. -/
structure Alike (start : Nat) (b₁ b₂ : Backend) : Prop where
  left : Tidy start b₁
  right : Tidy start b₂
  view_eq : view start b₁ = view start b₂

/-- The records of a tensor in two backends in which it is referred to. -/
structure Counterparts (start : Nat) (b₁ b₂ : Backend) (id : TensorId) (r₁ r₂ : Record) :
    Prop where
  get_left : b₁.tensors.get id = .ok r₁
  get_right : b₂.tensors.get id = .ok r₂
  referenced_left : r₁.references ≠ 0
  referenced_right : r₂.references ≠ 0
  sight_eq : r₁.sight (decide (id ∈ outputs start b₁)) = r₂.sight (decide (id ∈ outputs start b₁))

private theorem Alike.next_eq (h : Alike start b₁ b₂) : b₁.tensors.next = b₂.tensors.next :=
  congrArg View.next h.view_eq

/-- Backends that are alike have the same outputs of passes. -/
theorem Alike.outputs_eq (h : Alike start b₁ b₂) : outputs start b₁ = outputs start b₂ := by
  rw [← outputs_view, ← outputs_view, h.view_eq]

/-- Changes that are not seen keep two backends alike. -/
theorem Alike.still (h : Alike start b₁ b₂) (h₁ : Still b₁ b₁') (h₂ : Still b₂ b₂') :
    Alike start b₁' b₂' :=
  ⟨h₁.tidy h.left, h₂.tidy h.right, h₁.view.trans (h.view_eq.trans h₂.view.symm)⟩

namespace Counterparts

variable (h : Counterparts start b₁ b₂ id r₁ r₂)

include h

/-- Counterparts have one element type. -/
theorem element_eq : r₁.element = r₂.element := congrArg Sight.element h.sight_eq

/-- Counterparts have one shape. -/
theorem shape_eq : r₁.shape = r₂.shape := congrArg Sight.shape h.sight_eq

/-- Counterparts are referred to as often. -/
theorem references_eq : r₁.references = r₂.references := congrArg Sight.references h.sight_eq

/-- Counterparts have the same parts. -/
theorem parts_eq : r₁.parts = r₂.parts := congrArg Sight.parts h.sight_eq

/-- Counterparts are both on the device or both not. -/
theorem isSome_resource : r₁.resource.isSome = r₂.resource.isSome :=
  congrArg Sight.onDevice h.sight_eq

/-- Counterparts have as many values on the host. -/
theorem map_count_values : r₁.values.map Values.count = r₂.values.map Values.count :=
  congrArg Sight.hostCount h.sight_eq

/-- Counterparts both have values on the host or both not. -/
theorem isSome_values : r₁.values.isSome = r₂.values.isSome := by
  have hcounts := congrArg Option.isSome h.map_count_values
  rwa [Option.isSome_map, Option.isSome_map] at hcounts

/-- Values that no pass computed are the same. -/
theorem values_eq (hid : id ∉ outputs start b₁) : r₁.values = r₂.values := by
  have hvalues := congrArg Sight.values h.sight_eq
  simpa [Record.sight, hid] using hvalues

/-- What is seen of a tensor that has a counterpart. -/
theorem sight_left :
    (view start b₁).tensors id = some (r₁.sight (decide (id ∈ outputs start b₁))) :=
  sight_of_get h.get_left h.referenced_left

end Counterparts

/-- The record of a tensor that is in view. -/
theorem exists_get_of_sight {b : Backend} {t : Sight} (h : (view start b).tensors id = some t) :
    ∃ r, b.tensors.get id = .ok r ∧ r.references ≠ 0 ∧
      t = r.sight (decide (id ∈ outputs start b)) := by
  change sight start b id = some t at h
  cases hget : b.tensors.get id with
  | error e =>
    rw [sight_of_absent hget] at h
    cases h
  | ok r =>
    by_cases hreferences : r.references = 0
    · rw [sight_of_unreferenced hget hreferences] at h
      cases h
    · rw [sight_of_get hget hreferences] at h
      exact ⟨r, rfl, hreferences, (Option.some.inj h).symm⟩

/-- A tensor that is in view has a record on both sides. -/
theorem Alike.counterparts_of_sight (h : Alike start b₁ b₂) {t : Sight}
    (ht : (view start b₁).tensors id = some t) :
    ∃ r₁ r₂, Counterparts start b₁ b₂ id r₁ r₂ := by
  rcases exists_get_of_sight ht with ⟨r₁, hget₁, hreferenced₁, hsight₁⟩
  rw [h.view_eq] at ht
  rcases exists_get_of_sight ht with ⟨r₂, hget₂, hreferenced₂, hsight₂⟩
  rw [← h.outputs_eq] at hsight₂
  exact ⟨r₁, r₂, hget₁, hget₂, hreferenced₁, hreferenced₂, hsight₁.symm.trans hsight₂⟩

/-- A tensor that was never made is unknown. -/
theorem Tidy.get_of_le {b : Backend} (hb : Tidy start b) (hid : ¬ id.number < b.tensors.next) :
    b.tensors.get id = .error (.unknownTensor id) := by
  cases hfound : b.tensors.records.get? id with
  | none => simp [Registry.get, hfound]
  | some r => exact absurd (hb.lt_next (Registry.get_eq_ok_iff.mpr hfound)) hid

/-- A tensor that is still referred to if it was ever made is unknown on both sides or has a record
on both sides. -/
theorem Alike.exists_counterparts (h : Alike start b₁ b₂) (hid : (view start b₁).Retains id) :
    (b₁.tensors.get id = .error (.unknownTensor id) ∧
      b₂.tensors.get id = .error (.unknownTensor id)) ∨
    ∃ r₁ r₂, Counterparts start b₁ b₂ id r₁ r₂ := by
  by_cases hlt : id.number < b₁.tensors.next
  · rcases Option.ne_none_iff_exists'.mp (hid hlt) with ⟨t, ht⟩
    exact .inr (h.counterparts_of_sight ht)
  · refine .inl ⟨h.left.get_of_le hlt, h.right.get_of_le ?_⟩
    rwa [← h.next_eq]

/-! ## Agreement -/

/-- The pool refused a buffer that was given back. -/
def Refused (r : Except KernelError α) : Prop := ∃ e, r = .error e ∧ e.isUntracked = true

/-- Both results are the same failure, or a condition holds of their values. -/
inductive Matching (post : α → α → Prop) : Except KernelError α → Except KernelError α → Prop
  | ok {a₁ a₂ : α} (h : post a₁ a₂) : Matching post (.ok a₁) (.ok a₂)
  | error (e : KernelError) : Matching post (.error e) (.error e)

/-- A computation matches itself. -/
theorem Matching.same {post : α → α → Prop} {s : Except KernelError α}
    (h : ∀ a, s = .ok a → post a a) : Matching post s s := by
  cases s with
  | ok a => exact .ok (h a rfl)
  | error e => exact .error e

/-- Matching computations may be told what they came to. -/
theorem Matching.and_eq {post : α → α → Prop} {s₁ s₂ : Except KernelError α}
    (h : Matching post s₁ s₂) :
    Matching (fun a₁ a₂ => post a₁ a₂ ∧ s₁ = .ok a₁ ∧ s₂ = .ok a₂) s₁ s₂ := by
  cases h with
  | ok h => exact .ok ⟨h, rfl, rfl⟩
  | error e => exact .error e

/-- What matches for one condition matches for a weaker one. -/
theorem Matching.mono {post post' : α → α → Prop} {s₁ s₂ : Except KernelError α}
    (h : Matching post s₁ s₂) (hpost : ∀ a₁ a₂, post a₁ a₂ → post' a₁ a₂) :
    Matching post' s₁ s₂ := by
  cases h with
  | ok h => exact .ok (hpost _ _ h)
  | error e => exact .error e

/-- Matching computations fail alike. -/
theorem Matching.error_iff {post : α → α → Prop} {s₁ s₂ : Except KernelError α}
    (h : Matching post s₁ s₂) {e : KernelError} : s₁ = .error e ↔ s₂ = .error e := by
  cases h with
  | ok => simp
  | error => exact Iff.rfl

/-- Matching computations answer alike where the condition ties their answers. -/
theorem Matching.ok_iff {post : α → α → Prop} {s₁ s₂ : Except KernelError α}
    (h : Matching post s₁ s₂) {a : α} (hpost : ∀ a₁ a₂, post a₁ a₂ → (a₁ = a ↔ a₂ = a)) :
    s₁ = .ok a ↔ s₂ = .ok a := by
  cases h with
  | ok h => rw [Except.ok.injEq, Except.ok.injEq, hpost _ _ h]
  | error => simp

/-- Unless the pool refused a buffer to one of them, two actions leave the backends alike, in a view
that has evolved, and a condition holds of their answers and this view. -/
def Agree (start : Nat) (v : View) (post : α → α → View → Prop)
    (x₁ x₂ : Except KernelError α × Backend) : Prop :=
  Refused x₁.1 ∨ Refused x₂.1 ∨
    (Alike start x₁.2 x₂.2 ∧ v.Evolves (view start x₁.2) ∧
      Matching (fun a₁ a₂ => post a₁ a₂ (view start x₁.2)) x₁.1 x₂.1)

namespace Agree

variable {v v' : View} {post mid : α → α → View → Prop} {post' : β → β → View → Prop} {a₁ a₂ : α}
  {x₁ x₂ : Except KernelError α × Backend} {x y : Action α} {f g : α → Action β}

/-- Answers that satisfy a condition are given alike. -/
theorem ok (h : Alike start b₁ b₂) (hpost : post a₁ a₂ (view start b₁)) :
    Agree start (view start b₁) post (.ok a₁, b₁) (.ok a₂, b₂) :=
  .inr (.inr ⟨h, .refl _, .ok hpost⟩)

/-- Backends that are alike fail alike. -/
theorem error (h : Alike start b₁ b₂) (e : KernelError) :
    Agree start (view start b₁) post (.error e, b₁) (.error e, b₂) :=
  .inr (.inr ⟨h, .refl _, .error e⟩)

/-- The view may have evolved before. -/
theorem since (hv : v.Evolves v') (h : Agree start v' post x₁ x₂) : Agree start v post x₁ x₂ := by
  rcases h with hrefused | hrefused | ⟨halike, hv', hmatching⟩
  · exact .inl hrefused
  · exact .inr (.inl hrefused)
  · exact .inr (.inr ⟨halike, hv.trans hv', hmatching⟩)

/-- Two actions agree if each ends in the same view with a result that matches the other. -/
theorem of_ends {q₁ q₂ : Except KernelError α → Prop}
    (h₁ : Ends x₁ fun r b => q₁ r ∧ Tidy start b ∧ view start b = v')
    (h₂ : Ends x₂ fun r b => q₂ r ∧ Tidy start b ∧ view start b = v') (hv : v.Evolves v')
    (hpost : ∀ r₁ r₂, q₁ r₁ → q₂ r₂ → Matching (fun a₁ a₂ => post a₁ a₂ v') r₁ r₂) :
    Agree start v post x₁ x₂ := by
  rcases h₁ with hrefused | ⟨hq₁, htidy₁, hview₁⟩
  · exact .inl hrefused
  rcases h₂ with hrefused | ⟨hq₂, htidy₂, hview₂⟩
  · exact .inr (.inl hrefused)
  refine .inr (.inr ⟨⟨htidy₁, htidy₂, hview₁.trans hview₂.symm⟩, ?_, ?_⟩)
  · rw [hview₁]
    exact hv
  · rw [hview₁]
    exact hpost _ _ hq₁ hq₂

/-- Sequences of actions agree if their steps do. -/
theorem bind (hx : Agree start v mid (x b₁) (y b₂))
    (hf : ∀ a₁ a₂ b₁' b₂', Alike start b₁' b₂' → mid a₁ a₂ (view start b₁') →
      Agree start (view start b₁') post' (f a₁ b₁') (g a₂ b₂')) :
    Agree start v post' ((x >>= f) b₁) ((y >>= g) b₂) := by
  cases hleft : x b₁ with
  | mk r₁ b₁' =>
  cases hright : y b₂ with
  | mk r₂ b₂' =>
  rw [hleft, hright] at hx
  rcases hx with ⟨e, rfl, huntracked⟩ | ⟨e, rfl, huntracked⟩ | ⟨halike, hv, hmatching⟩
  · rw [Action.bind_apply_error hleft]
    exact .inl ⟨e, rfl, huntracked⟩
  · rw [Action.bind_apply_error hright]
    exact .inr (.inl ⟨e, rfl, huntracked⟩)
  · cases hmatching with
    | error e =>
      rw [Action.bind_apply_error hleft, Action.bind_apply_error hright]
      exact .since hv (.error halike e)
    | @ok a₁ a₂ hmid =>
      rw [Action.bind_apply_ok hleft, Action.bind_apply_ok hright]
      exact .since hv (hf a₁ a₂ b₁' b₂' halike hmid)

/-- First steps that are known to succeed. -/
theorem bind_to (hx : x b₁ = (.ok a₁, b₁')) (hy : y b₂ = (.ok a₂, b₂'))
    (hf : Agree start v post' (f a₁ b₁') (g a₂ b₂')) :
    Agree start v post' ((x >>= f) b₁) ((y >>= g) b₂) := by
  rw [Action.bind_apply_ok hx, Action.bind_apply_ok hy]
  exact hf

/-- First steps that are taken from the same computation without a state. -/
theorem bind_of (h : Alike start b₁ b₂) {r : Except KernelError α}
    (hf : ∀ a, r = .ok a → Agree start (view start b₁) post' (f a b₁) (g a b₂)) :
    Agree start (view start b₁) post' ((Action.of r >>= f) b₁) ((Action.of r >>= g) b₂) := by
  cases r with
  | error e => exact .error h e
  | ok a => exact hf a rfl

/-- First steps that make sure that the backends are not disposed of. -/
theorem bind_live {f g : Unit → Action β} (h : Alike start b₁ b₂)
    (hf : Agree start v post' (f () b₁) (g () b₂)) :
    Agree start v post' ((Action.live >>= f) b₁) ((Action.live >>= g) b₂) := by
  have hlive {b : Backend} (hb : Tidy start b) : Action.live b = (.ok (), b) :=
    Action.live_apply hb.live
  exact .bind_to (hlive h.left) (hlive h.right) hf

/-- First steps that look up a tensor that is still referred to. -/
theorem bind_record {f g : Record → Action β} (h : Alike start b₁ b₂)
    (hid : (view start b₁).Retains id)
    (hf : ∀ r₁ r₂, Counterparts start b₁ b₂ id r₁ r₂ →
      Agree start (view start b₁) post' (f r₁ b₁) (g r₂ b₂)) :
    Agree start (view start b₁) post' ((Action.record id >>= f) b₁)
      ((Action.record id >>= g) b₂) := by
  rcases h.exists_counterparts hid with ⟨hget₁, hget₂⟩ | ⟨r₁, r₂, hc⟩
  · have hleft : Action.record id b₁ = (.error (.unknownTensor id), b₁) := congrArg (·, b₁) hget₁
    have hright : Action.record id b₂ = (.error (.unknownTensor id), b₂) := congrArg (·, b₂) hget₂
    rw [Action.bind_apply_error hleft, Action.bind_apply_error hright]
    exact .error h _
  · exact .bind_to (congrArg (·, b₁) hc.get_left) (congrArg (·, b₂) hc.get_right) (hf r₁ r₂ hc)

/-- What agrees for one condition agrees for a weaker one. -/
theorem mono {post' : α → α → View → Prop} (h : Agree start v post x₁ x₂)
    (hpost : ∀ a₁ a₂ v', post a₁ a₂ v' → post' a₁ a₂ v') : Agree start v post' x₁ x₂ := by
  rcases h with hrefused | hrefused | ⟨halike, hv, hmatching⟩
  · exact .inl hrefused
  · exact .inr (.inl hrefused)
  · exact .inr (.inr ⟨halike, hv, hmatching.mono fun _ _ => hpost _ _ _⟩)

/-- The answers may be changed afterwards. -/
theorem map {p : α → β} {post' : β → β → View → Prop} (hx : Agree start v mid (x b₁) (y b₂))
    (hpost : ∀ a₁ a₂ v', mid a₁ a₂ v' → post' (p a₁) (p a₂) v') :
    Agree start v post' ((p <$> x) b₁) ((p <$> y) b₂) :=
  bind hx fun _ _ _ _ h hmid => .ok h (hpost _ _ _ hmid)

end Agree

end ComputeKernels.Backend
