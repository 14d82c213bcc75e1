import ComputeKernels.Proofs.Backend.Agreement

/-!
# Operations on backends that are seen alike

Making, keeping and giving up tensors depends on the view alone, except for what is said about a
tensor that waits for its removal.

Main results:

- Theorems `agree_write`, `agree_make` and `agree_complex`: tensors are made alike.
- Theorem `agree_drop`: they are given up alike.
- Theorem `agree_submit`: a submission is not seen.
-/

namespace ComputeKernels.Backend

open Tensor Buffer Device

variable {α β : Type} {start : Nat} {b₁ b₂ : Backend} {id : TensorId}

/-! ## Making tensors -/

/-- Passes compute tensors that were made. -/
theorem Tidy.lt_next_of_mem_outputs {b : Backend} (hb : Tidy start b) (id : TensorId)
    (hid : id ∈ (view start b).outputs) : id.number < (view start b).next := by
  rw [outputs_view] at hid
  exact hb.outputs_lt id hid

/-- No pass computes a tensor that is only now made. -/
theorem View.given_insert {v : View} (t : Sight) (hv : ∀ id ∈ v.outputs, id.number < v.next) :
    (v.insert t).Given ⟨v.next⟩ :=
  ⟨Nat.lt_succ_self _, fun hmem => Nat.lt_irrefl _ (hv _ hmem)⟩

private theorem View.hosted_insert {v : View} {t : Sight}
    (hv : ∀ id ∈ v.outputs, id.number < v.next)
    (hparts : ∀ p, t.parts = some p → v.Given p.1 ∧ v.Given p.2) :
    (v.insert t).Hosted ⟨v.next⟩ where
  given := given_insert t hv
  parts := by
    intro t' p ht' hp
    have hnew : (v.insert t).tensors ⟨v.next⟩ = some t := if_pos rfl
    obtain rfl := Option.some.inj (hnew.symm.trans ht')
    rcases hparts p hp with ⟨hreal, himag⟩
    exact ⟨hreal.evolve (evolves_insert v t), himag.evolve (evolves_insert v t)⟩

/-- A record is fit for a tensor that is only now made. -/
structure New (r : Record) : Prop where
  references : r.references ≠ 0
  pairs : r.parts ≠ none → r.element = .complex64
  filled : ∀ v, r.values = some v → v.element = r.element
  resource : r.resource = none

/-- A tensor is added under the same number. -/
theorem agree_insert (h : Alike start b₁ b₂) {r : Record} (hr : New r) :
    Agree start (view start b₁) (fun id₁ id₂ v => id₁ = ⟨(view start b₁).next⟩ ∧ id₂ = id₁ ∧
      v = (view start b₁).insert (r.sight false)) (Action.insert r b₁) (Action.insert r b₂) := by
  have hadded {b : Backend} (hb : Tidy start b) (hview : view start b = view start b₁) :
      Ends (Action.insert r b) fun result b' => result = .ok ⟨(view start b₁).next⟩ ∧
        Tidy start b' ∧ view start b' = (view start b₁).insert (r.sight false) := by
    rw [← hview]
    exact .inr ⟨rfl, TidyBut.insert hb hr.references hr.pairs hr.filled hr.resource,
      view_insert hb hr.references⟩
  refine .of_ends (hadded h.left rfl) (hadded h.right h.view_eq.symm) (View.evolves_insert _ _) ?_
  rintro - - rfl rfl
  exact .ok ⟨rfl, rfl, rfl⟩

/-- A record with values of its element is fit. -/
theorem new_of_values {values : Values} {element : ElementType} {shape : Shape}
    (helement : values.element = element) :
    New { element, shape, values := some values } where
  references := Nat.one_ne_zero
  pairs := fun h => absurd rfl h
  filled := by
    intro v hv
    obtain rfl := Option.some.inj hv
    exact helement
  resource := rfl

/-- So is one without values. -/
theorem new_of_parts {element : ElementType} {shape : Shape} {parts : Option (TensorId × TensorId)}
    (hpairs : parts ≠ none → element = .complex64) : New { element, shape, parts } where
  references := Nat.one_ne_zero
  pairs := hpairs
  filled := fun _ hv => nomatch hv
  resource := rfl

/-- Handles are the same, and no pass computes the tensor or its parts. -/
def SameHosted (h₁ h₂ : Handle) (v : View) : Prop := h₁ = h₂ ∧ v.Hosted h₁.id

/-- A tensor that is made with values is made alike. -/
theorem agree_insert_values (h : Alike start b₁ b₂) {values : Values} {shape : Shape} :
    Agree start (view start b₁) SameHosted
      ((do
        let id ← Action.insert { element := values.element, shape, values := some values }
        return ⟨id, shape, values.element⟩ : Action Handle) b₁)
      ((do
        let id ← Action.insert { element := values.element, shape, values := some values }
        return ⟨id, shape, values.element⟩ : Action Handle) b₂) := by
  refine (agree_insert h (new_of_values rfl)).bind ?_
  rintro _ _ b₁' b₂' h' ⟨rfl, rfl, hview⟩
  refine .ok h' ⟨rfl, ?_⟩
  rw [hview]
  exact View.hosted_insert h.left.lt_next_of_mem_outputs fun p hp => nomatch hp

/-- Values are written alike. -/
theorem agree_write (h : Alike start b₁ b₂) (values : Values) (shape : Shape) :
    Agree start (view start b₁) SameHosted (write values shape b₁) (write values shape b₂) := by
  unfold write
  refine .bind_live h (.bind_of h fun _ _ => ?_)
  cases values with
  | float32 bits => exact agree_insert_values h
  | int32 ints => exact agree_insert_values h
  | bool flags => exact agree_insert_values h
  | complex64 bits =>
    apply Agree.bind_of h
    rintro ⟨re, im⟩ -
    have hfloats (bits : List UInt32) : (Values.float32 bits).element = .float32 := rfl
    refine (agree_insert h (new_of_values (hfloats re))).bind ?_
    rintro _ _ c₁ c₂ hc ⟨rfl, rfl, hrealView⟩
    refine (agree_insert hc (new_of_values (hfloats im))).bind ?_
    rintro _ _ d₁ d₂ hd ⟨rfl, rfl, himagView⟩
    have hreal : (view start d₁).Given ⟨(view start b₁).next⟩ := by
      rw [himagView, hrealView]
      exact (View.given_insert _ h.left.lt_next_of_mem_outputs).evolve (View.evolves_insert _ _)
    have himag : (view start d₁).Given ⟨(view start c₁).next⟩ := by
      rw [himagView]
      exact View.given_insert _ hc.left.lt_next_of_mem_outputs
    refine (agree_insert hd (new_of_parts fun _ => rfl)).bind ?_
    rintro _ _ e₁ e₂ he ⟨rfl, rfl, hpairView⟩
    refine .ok he ⟨rfl, ?_⟩
    rw [hpairView]
    apply View.hosted_insert hd.left.lt_next_of_mem_outputs
    intro p hp
    obtain rfl := Option.some.inj hp
    exact ⟨hreal, himag⟩

/-- A tensor is made alike. -/
theorem agree_make (h : Alike start b₁ b₂) (shape : Shape) (element : ElementType)
    (values : Option Values) :
    Agree start (view start b₁) (fun h₁ h₂ v => h₁ = h₂ ∧ (values ≠ none → v.Hosted h₁.id))
      (make shape element values b₁) (make shape element values b₂) := by
  unfold make
  apply Agree.bind_live h
  cases values with
  | none =>
    refine (agree_insert h (new_of_parts fun hp => absurd rfl hp)).bind ?_
    rintro _ _ b₁' b₂' h' ⟨rfl, rfl, -⟩
    exact .ok h' ⟨rfl, fun hnone => absurd rfl hnone⟩
  | some v =>
    by_cases helement : v.element = element
    · simp only [helement, if_true]
      exact (agree_write h v shape).mono fun _ _ _ hsame => ⟨hsame.1, fun _ => hsame.2⟩
    · simp only [helement, if_false]
      exact .error h _

/-! ### Complex tensors -/

/-- The records of a tensor may change alike on both sides. -/
theorem Counterparts.put {r₁ r₂ r₁' r₂' : Record} (hc : Counterparts start b₁ b₂ id r₁ r₂)
    (h : Alike start b₁ b₂) (h₁ : Amends start b₁ id r₁ r₁') (h₂ : Amends start b₂ id r₂ r₂')
    (hsight : r₁'.sight (decide (id ∈ outputs start b₁)) =
      r₂'.sight (decide (id ∈ outputs start b₁))) :
    Alike start { b₁ with tensors := b₁.tensors.put id r₁' }
      { b₂ with tensors := b₂.tensors.put id r₂' } where
  left := TidyBut.put h.left hc.get_left hc.referenced_left h₁
  right := TidyBut.put h.right hc.get_right hc.referenced_right h₂
  view_eq := by
    rw [view_put h₁.references, view_put h₂.references, h.view_eq, ← h.outputs_eq, hsight]

/-- After such a change the same tensors are in view. -/
theorem agree_put {r₁ r₂ r₁' r₂' : Record} {post : α → α → View → Prop} {a₁ a₂ : α}
    (h : Alike start b₁ b₂) (hc : Counterparts start b₁ b₂ id r₁ r₂)
    (h₁ : Amends start b₁ id r₁ r₁') (h₂ : Amends start b₂ id r₂ r₂')
    (hsight : r₁'.sight (decide (id ∈ outputs start b₁)) =
      r₂'.sight (decide (id ∈ outputs start b₁)))
    (hpost : ∀ v, (view start b₁).Steady v → post a₁ a₂ v) :
    Agree start (view start b₁) post (.ok a₁, { b₁ with tensors := b₁.tensors.put id r₁' })
      (.ok a₂, { b₂ with tensors := b₂.tensors.put id r₂' }) := by
  have hsteady : (view start b₁).Steady
      (view start { b₁ with tensors := b₁.tensors.put id r₁' }) := by
    rw [view_put h₁.references]
    exact View.steady_set hc.sight_left h₁.parts
  exact .since hsteady.evolves (.ok (hc.put h h₁ h₂ hsight) (hpost _ hsteady))

/-- One more reference is counted alike. -/
theorem agree_actionRetain (h : Alike start b₁ b₂) (hid : (view start b₁).Retains id) :
    Agree start (view start b₁)
      (fun n₁ n₂ v => n₁ = n₂ ∧ (view start b₁).Steady v) (Action.retain id b₁)
      (Action.retain id b₂) := by
  rcases h.exists_counterparts hid with ⟨hget₁, hget₂⟩ | ⟨r₁, r₂, hc⟩
  · simp only [Action.retain, Registry.retain, hget₁, hget₂]
    exact .error h _
  · have hamends {b : Backend} {r : Record} (hb : Tidy start b) (hget : b.tensors.get id = .ok r) :
        Amends start b id r { r with references := r.references + 1 } := by
      have hfine := hb.fine id r hget
      exact ⟨Nat.succ_ne_zero _, rfl, rfl, hfine.filled, hfine.computed, hfine.source⟩
    have hretained {b : Backend} {r : Record} (hget : b.tensors.get id = .ok r) :
        Action.retain id b = (.ok (r.references + 1), { b with
          tensors := b.tensors.put id { r with references := r.references + 1 } }) := by
      simp only [Action.retain, Registry.retain, hget]
      rfl
    have hsight : ({ r₁ with references := r₁.references + 1 } : Record).sight
        (decide (id ∈ outputs start b₁)) =
        ({ r₂ with references := r₂.references + 1 } : Record).sight
          (decide (id ∈ outputs start b₁)) := by
      have hcounted := congrArg (fun t : Sight => { t with references := t.references + 1 })
        hc.sight_eq
      exact hcounted
    rw [hretained hc.get_left, hretained hc.get_right]
    exact agree_put h hc (hamends h.left hc.get_left) (hamends h.right hc.get_right) hsight
      fun v hv => ⟨congrArg (· + 1) hc.references_eq, hv⟩

/-- A reference is added alike. -/
theorem agree_retain (h : Alike start b₁ b₂) (hid : (view start b₁).Retains id) :
    Agree start (view start b₁) (fun n₁ n₂ _ => n₁ = n₂) (retain id b₁) (retain id b₂) := by
  unfold retain
  apply Agree.bind_live h
  exact (agree_actionRetain h hid).mono fun _ _ _ hcount => hcount.1

private theorem agree_checkPart (h : Alike start b₁ b₂) {part : Handle}
    (hid : (view start b₁).Retains part.id) :
    Agree start (view start b₁) (fun _ _ v => v = view start b₁) (checkPart part b₁)
      (checkPart part b₂) := by
  unfold checkPart
  apply Agree.bind_record h hid
  intro r₁ r₂ hc
  rw [← hc.element_eq]
  by_cases helement : r₁.element = .float32
  · simp only [helement, if_true]
    exact .ok h rfl
  · simp only [helement, if_false]
    exact .error h _

/-- Two tensors are paired alike. -/
theorem agree_complex (h : Alike start b₁ b₂) {real imag : Handle}
    (hreal : (view start b₁).Retains real.id) (himag : (view start b₁).Retains imag.id) :
    Agree start (view start b₁) (fun h₁ h₂ _ => h₁ = h₂) (complex real imag b₁)
      (complex real imag b₂) := by
  unfold complex
  refine .bind_live h ((agree_checkPart h hreal).bind fun _ _ b₁' b₂' h' hview' => ?_)
  rw [← hview'] at hreal himag
  refine (agree_checkPart h' himag).bind fun _ _ b₁'' b₂'' h'' hview'' => ?_
  rw [← hview''] at hreal himag
  by_cases hshape : real.shape = imag.shape
  · simp only [hshape, if_true]
    have hdiscard {b b' : Backend} (hb : Alike start b b') {i : TensorId}
        (hi : (view start b).Retains i) :
        Agree start (view start b) (fun _ _ v => (view start b).Steady v)
          ((Functor.discard (Action.retain i) : Action PUnit) b)
          ((Functor.discard (Action.retain i) : Action PUnit) b') :=
      (agree_actionRetain hb hi).map fun _ _ _ hcount => hcount.2
    refine (hdiscard h'' hreal).bind fun _ _ c₁ c₂ hc hkept => ?_
    refine (hdiscard hc (hkept.retains himag)).bind fun _ _ d₁ d₂ hd _ => ?_
    refine (agree_insert hd (new_of_parts fun _ => rfl)).bind ?_
    rintro _ _ e₁ e₂ he ⟨rfl, rfl, -⟩
    exact .ok he rfl
  · simp only [hshape, if_false]
    exact .error h'' _

/-! ## Giving up tensors -/

private theorem agree_dropOne (h : Alike start b₁ b₂) (id : TensorId) :
    Agree start (view start b₁) (fun fate₁ fate₂ _ => fate₁.parts = fate₂.parts)
      (dropOne id false b₁) (dropOne id false b₂) := by
  have hdropped {b : Backend} (hb : Tidy start b) (hview : view start b = view start b₁) :
      Ends (dropOne id false b) fun result b' =>
        (∃ fate, result = .ok fate ∧ fate.parts = (view start b₁).freed id) ∧
          Tidy start b' ∧ view start b' = (view start b₁).drop id := by
    rw [← hview]
    rcases ends_dropOne hb id with hrefused | ⟨fate, hfate, htidy, hdrop, hparts⟩
    · exact .inl hrefused
    · exact .inr ⟨⟨fate, hfate, hparts⟩, htidy, hdrop⟩
  refine .of_ends (hdropped h.left rfl) (hdropped h.right h.view_eq.symm)
    (View.evolves_drop _ _) ?_
  rintro - - ⟨fate₁, rfl, hparts₁⟩ ⟨fate₂, rfl, hparts₂⟩
  exact .ok (hparts₁.trans hparts₂.symm)

private theorem agree_dropEach (h : Alike start b₁ b₂) (ids : List TensorId) :
    Agree start (view start b₁) (fun _ _ _ => True) (dropEach ids b₁) (dropEach ids b₂) := by
  induction ids, b₁ using dropEach.induct generalizing b₂ with
  | case1 b =>
    rw [dropEach, dropEach]
    exact .ok h trivial
  | case2 id rest b fate b' hdrop ih =>
    have hone := agree_dropOne h id
    rw [dropEach, hdrop]
    rw [hdrop] at hone
    cases hright : dropOne id false b₂ with
    | mk result b₂' =>
      rw [dropEach, hright]
      rw [hright] at hone
      rcases hone with ⟨e, he, -⟩ | ⟨e, rfl, huntracked⟩ | ⟨h', hv, hmatching⟩
      · cases he
      · exact .inr (.inl ⟨e, rfl, huntracked⟩)
      · cases hmatching with
        | @ok _ fate₂ hparts =>
          change Agree _ _ _ (dropEach (fate.parts ++ rest) b') (dropEach (fate₂.parts ++ rest) b₂')
          rw [← hparts]
          exact .since hv (ih h')
  | case3 id rest b e b' hdrop =>
    have hone := agree_dropOne h id
    rw [dropEach, hdrop]
    rw [hdrop] at hone
    cases hright : dropOne id false b₂ with
    | mk result b₂' =>
      rw [dropEach, hright]
      rw [hright] at hone
      rcases hone with ⟨e', he', huntracked⟩ | ⟨e', rfl, huntracked⟩ | ⟨h', hv, hmatching⟩
      · obtain rfl := Except.error.inj he'
        exact .inl ⟨e, rfl, huntracked⟩
      · exact .inr (.inl ⟨e', rfl, huntracked⟩)
      · cases hmatching with
        | error => exact .since hv (.error h' e)

/-- The parts of a tensor are dropped in any case; what differs is the answer. -/
theorem drop_eq (id : TensorId) (force : Bool) :
    drop id force = (do
      Action.live
      let fate ← dropOne id force
      dropEach fate.parts
      return decide (fate ≠ .kept) : Action Bool) := by
  have hnothing (b : Backend) (answer : Bool) :
      (do
        dropEach []
        return answer : Action Bool) b = (.ok answer, b) := by
    have hnone : dropEach [] b = (.ok (), b) := by rw [dropEach]
    exact Action.bind_apply_ok hnone
  unfold drop
  congr 1
  funext _
  congr 1
  funext fate b
  cases fate with
  | absent => exact (hnothing b true).symm
  | kept => exact (hnothing b false).symm
  | removed parts => rfl

/-- A tensor is given up alike, though it may be gone from one backend and not from the other. -/
theorem agree_drop (h : Alike start b₁ b₂) (id : TensorId) :
    Agree start (view start b₁) (fun _ _ _ => True) (drop id false b₁) (drop id false b₂) := by
  rw [drop_eq]
  refine .bind_live h ((agree_dropOne h id).bind fun fate₁ fate₂ b₁' b₂' h' hparts => ?_)
  rw [← hparts]
  exact (agree_dropEach h' fate₁.parts).bind fun _ _ b₁'' b₂'' h'' _ => .ok h'' trivial

/-! ## Submitting -/

/-- An action succeeds and is not seen. -/
def Unseen (start : Nat) (x : Action Unit) : Prop :=
  ∀ b, Tidy start b → Ends (x b) fun result b' =>
    result = .ok () ∧ Tidy start b' ∧ view start b' = view start b

/-- Submitting is not seen. -/
theorem unseen_submit : Unseen start submit := fun _ hb => ends_submit_unseen hb

/-- Doing nothing is not seen. -/
theorem unseen_pure : Unseen start (pure ()) := fun _ hb => .inr ⟨rfl, hb, rfl⟩

/-- Two actions that are not seen agree. -/
theorem Unseen.agree {x y : Action Unit} (hx : Unseen start x) (hy : Unseen start y)
    (h : Alike start b₁ b₂) :
    Agree start (view start b₁) (fun _ _ v => v = view start b₁) (x b₁) (y b₂) := by
  have hright := hy b₂ h.right
  rw [← h.view_eq] at hright
  refine .of_ends (hx b₁ h.left) hright (.refl _) ?_
  rintro - - rfl rfl
  exact .ok rfl

/-- Submissions on both sides are not seen. -/
theorem agree_submit (h : Alike start b₁ b₂) :
    Agree start (view start b₁) (fun _ _ v => v = view start b₁) (submit b₁) (submit b₂) :=
  unseen_submit.agree unseen_submit h

end ComputeKernels.Backend
