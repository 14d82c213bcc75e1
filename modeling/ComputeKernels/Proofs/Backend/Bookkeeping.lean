import ComputeKernels.Proofs.Backend.Batching
import ComputeKernels.Proofs.Tensor.References

/-!
# Bookkeeping of references

Every operation that forces nothing is a chain of bookings.  A booking changes one count of references
by one, adds or removes one tensor, or leaves all of them alone.  A reference that was taken from its
holder and is not counted anywhere else yet is loose.  An operation begins with the references that
its caller gives up and ends with those that the caller gets, so what a chain does to the counts can
be read off its two ends.

Main results:

- Theorem `booked_dropEach`: dropping references, and those of the tensors that go, in bookings.
- Theorem `booked_drop`: giving up a tensor in bookings, with an answer that says whether it is gone.
- Theorem `booked_submit`: a submission in bookings.
-/

namespace ComputeKernels.Backend

open Tensor Buffer Device

/-! ## Bookings -/

/-- What a backend knows of references, and what its encoder refers to. -/
structure Tally where
  outlines : List (TensorId × Outline)
  next : Nat
  deferred : List TensorId
  touched : List TensorId
  submissions : Nat
  encoder : Option (List Pass)

/-- The tally of a backend. -/
def tally (b : Backend) : Tally where
  outlines := b.tensors.outlines
  next := b.tensors.next
  deferred := b.batch.deferred
  touched := b.batch.touched
  submissions := b.batch.submissions
  encoder := b.encoder

/-- A backend in the course of an operation, with references that are on their way. -/
structure Books where
  backend : Backend
  /-- References that belong neither to a caller nor to a complex tensor. -/
  loose : List TensorId := []
  /-- Tensors that a submission is about to remove. -/
  leaving : List TensorId := []

/-- Whether an operation adds references to tensors that it names. -/
def Operation.retains : Operation → Bool
  | .complex _ _ => true
  | .retain _ => true
  | _ => false

/-- Changes of the books in an operation. -/
inductive Booking (op : Operation) : Books → Books → Prop
  /-- Nothing that concerns references. -/
  | quiet {b b' : Backend} {loose loose' leaving : List TensorId} (h : tally b' = tally b)
      (hloose : loose.Perm loose') : Booking op ⟨b, loose, leaving⟩ ⟨b', loose', leaving⟩
  /-- A tensor is added with one reference.  Its parts get references that were loose. -/
  | add {b : Backend} {r : Record} {loose leaving : List TensorId} (hreferences : r.references = 1)
      (hparts : ∀ id ∈ r.partList, b.tensors.IsFloat id) :
      Booking op ⟨b, r.partList ++ loose, leaving⟩
        ⟨{ b with tensors := (b.tensors.insert r).2 }, ⟨b.tensors.next⟩ :: loose, leaving⟩
  | retain {b : Backend} {id : TensorId} {r : Record} {loose leaving : List TensorId}
      (hop : op.retains = true) (hnamed : id ∈ op.named) (hget : b.tensors.get id = .ok r) :
      Booking op ⟨b, loose, leaving⟩
        ⟨{ b with tensors := b.tensors.put id { r with references := r.references + 1 } },
          id :: loose, leaving⟩
  /-- A reference is given up to a tensor that is not there or waits for its removal. -/
  | waive {b : Backend} {id : TensorId} {loose leaving : List TensorId}
      (h : b.tensors.contains id = false ∨ id ∈ b.batch.deferred) :
      Booking op ⟨b, id :: loose, leaving⟩ ⟨b, loose, leaving⟩
  /-- One of several references is given up. -/
  | lower {b : Backend} {id : TensorId} {r : Record} {loose leaving : List TensorId}
      (hget : b.tensors.get id = .ok r) (hdeferred : id ∉ b.batch.deferred)
      (hmany : 1 < r.references) :
      Booking op ⟨b, id :: loose, leaving⟩
        ⟨{ b with tensors := b.tensors.put id { r with references := r.references - 1 } },
          loose, leaving⟩
  /-- The last reference is given up to a tensor that the open encoder refers to. -/
  | park {b : Backend} {id : TensorId} {r : Record} {loose leaving : List TensorId}
      (hop : op.retains = false) (hget : b.tensors.get id = .ok r)
      (hdeferred : id ∉ b.batch.deferred) (hlast : r.references ≤ 1)
      (htouched : id ∈ b.batch.touched) :
      Booking op ⟨b, id :: loose, leaving⟩
        ⟨{ b with
            tensors := b.tensors.put id { r with references := r.references - 1 }
            batch := b.batch.defer id },
          loose, leaving⟩
  /-- The last reference is given up to another tensor, which is removed. -/
  | last {b : Backend} {id : TensorId} {r : Record} {loose leaving : List TensorId}
      (hget : b.tensors.get id = .ok r) (hdeferred : id ∉ b.batch.deferred)
      (hlast : r.references ≤ 1) :
      Booking op ⟨b, id :: loose, leaving⟩
        ⟨{ b with tensors := (b.tensors.remove id).2 }, r.partList ++ loose, leaving⟩
  /-- A tensor that waited is removed after the submission. -/
  | forget {b : Backend} {id : TensorId} {r : Record} {loose leaving : List TensorId}
      (hget : b.tensors.get id = .ok r) :
      Booking op ⟨b, loose, id :: leaving⟩
        ⟨{ b with tensors := (b.tensors.remove id).2 }, r.partList ++ loose, leaving⟩
  /-- A tensor that waited is there no more. -/
  | miss {b : Backend} {id : TensorId} {loose leaving : List TensorId}
      (h : b.tensors.contains id = false) :
      Booking op ⟨b, loose, id :: leaving⟩ ⟨b, loose, leaving⟩
  /-- A pass is recorded, while no submission is under way. -/
  | record {b b' : Backend} {pass : Pass} {loose : List TensorId}
      (h : tally b' = { tally b with
        touched := b.batch.touched ++ (pass.inputs ++ [pass.output])
        encoder := some (b.encoder.getD [] ++ [pass]) }) :
      Booking op ⟨b, loose, []⟩ ⟨b', loose, []⟩
  /-- The open encoder is submitted, and the tensors that waited for it are to be removed. -/
  | submit {b : Backend} {passes : List Pass} {loose : List TensorId} (hop : op.retains = false) :
      Booking op ⟨b, loose, []⟩ ⟨(handOver passes b).2, loose, b.batch.deferred⟩

/-- Some bookings in a row. -/
abbrev Booked (op : Operation) : Books → Books → Prop := Relation.ReflTransGen (Booking op)

variable {op : Operation} {b b' : Backend} {id : TensorId} {loose leaving : List TensorId}

/-- Steps that do not show in the tally leave the books as they are. -/
theorem Booked.of_tally (h : tally b' = tally b) :
    Booked op ⟨b, loose, leaving⟩ ⟨b', loose, leaving⟩ :=
  .single (.quiet h (.refl _))

/-! ## Actions that leave the tally alone -/

variable {α β : Type}

private theorem tally_of_still (h : Still b b') (hbatch : b'.batch = b.batch) :
    tally b' = tally b := by
  unfold tally
  rw [h.tensors, hbatch, h.encoder]

/-- An action that leaves two parts alone leaves their pair alone. -/
theorem Frames.prod {γ δ : Type} {part : Backend → γ} {part' : Backend → δ} {x : Action α}
    (h : Frames part x) (h' : Frames part' x) : Frames (fun b => (part b, part' b)) x :=
  fun b => Prod.ext (h b) (h' b)

/-- A computation leaves the tally alone. -/
theorem tallied_of (r : Except KernelError α) : Frames tally (Action.of r) := fun _ => rfl

/-- Counting an event leaves the tally alone. -/
theorem tallied_count (e : Metrics.Event) : Frames tally (Action.count e) := fun _ => rfl

private theorem tallied_command (f : Device → Device) :
    Frames tally (Action.command f) := fun _ => rfl

private theorem tallied_acquire (key : PoolKey) : Frames tally (Action.acquire key) := fun _ => rfl

private theorem tallied_release (x : Allocation) : Frames tally (Action.release x) := by
  intro b
  unfold Action.release
  split <;> rfl

/-- Taking the buffers of a pass leaves the tally alone. -/
theorem tallied_acquireBoth (uniform output : PoolKey) :
    Frames tally (acquireBoth uniform output) := by
  intro b
  unfold acquireBoth
  split <;> rfl

/-- Values and buffers are no part of the tally. -/
theorem tallied_modify (id : TensorId) {f : Record → Record} (hf : ∀ r, (f r).outline = r.outline) :
    Frames tally (Action.modify id f) := by
  intro b
  unfold Action.modify Registry.modify
  cases hget : b.tensors.get id with
  | error e => rfl
  | ok r =>
    have houtlines : (b.tensors.put id (f r)).outlines = b.tensors.outlines :=
      Registry.outlines_put hget (hf r)
    unfold tally
    simp only [← houtlines]
    rfl

/-- Making a layout leaves the tally alone. -/
theorem tallied_prepareLayout (operands : Nat) : Frames tally (prepareLayout operands) :=
  fun _ => rfl

/-- Compiling a kernel leaves the tally alone. -/
theorem tallied_pipeline (k : Kernel) (objection : Option String) :
    Frames tally (pipeline k objection) := by
  intro b
  unfold pipeline
  dsimp only
  split <;> rfl

/-- Bringing a tensor to the device leaves the tally alone. -/
theorem tallied_upload (id : TensorId) : Frames tally (upload id) :=
  .upload tallied_acquire (fun _ _ => tallied_command _) (fun _ => tallied_count _)
    fun _ => tallied_modify id fun _ => rfl

/-- Copying a buffer back leaves the tally alone. -/
theorem tallied_fetch (x : Allocation) (byteCount : Nat) (fault : Option MapFault) :
    Frames tally (fetch x byteCount fault) :=
  (tallied_acquire _).bind fun _ => (tallied_command _).bind fun _ =>
    Frames.bind (fun _ => rfl) fun _ => (tallied_release _).bind fun _ => tallied_of _

/-! ## Giving up references -/

/-- Two ends of one action hold together. -/
theorem Ends.and {result : Except KernelError α × Backend}
    {post post' : Except KernelError α → Backend → Prop} (h : Ends result post)
    (h' : Ends result post') : Ends result fun r b' => post r b' ∧ post' r b' := by
  rcases h with hrefused | hpost
  · exact .inl hrefused
  rcases h' with hrefused | hpost'
  · exact .inl hrefused
  · exact .inr ⟨hpost, hpost'⟩

/-- What an action that leaves a part of the state alone comes to. -/
theorem Ends.and_frame {γ : Type} {part : Backend → γ} {x : Action α}
    {post : Except KernelError α → Backend → Prop} (h : Ends (x b) post) (hx : Frames part x) :
    Ends (x b) fun r b' => post r b' ∧ part b' = part b :=
  h.and (.inr (hx b))

/-- The pool stays in use while the account does not change. -/
theorem poolLive_of_account (hpool : b.pool.disposed = false) (h : account b' = account b) :
    b'.pool.disposed = false :=
  (congrArg Account.poolDisposed h).trans hpool

private theorem map_removed (id : TensorId) (b : Backend) :
    (match removeOne id b with
      | (.ok parts, b') => (.ok (.removed parts), b')
      | (.error e, b') => (.error e, b')) = (Fate.removed <$> removeOne id) b := by
  rcases hresult : removeOne id b with ⟨e | parts, b'⟩
  · exact (Action.bind_apply_error hresult).symm
  · have hmap : (Fate.removed <$> removeOne id) b = (.ok (.removed parts), b') :=
      Action.bind_apply_ok hresult
    exact hmap.symm

/-- The last reference is given up to a tensor that the open encoder does not refer to. -/
theorem booked_removeOne {r : Record} (hpool : b.pool.disposed = false)
    (hget : b.tensors.get id = .ok r) (hdeferred : id ∉ b.batch.deferred)
    (hlast : r.references ≤ 1) (loose leaving : List TensorId) :
    let b₁ : Backend :=
      { b with tensors := b.tensors.put id { r with references := r.references - 1 } }
    Ends ((Fate.removed <$> removeOne id) b₁) fun result b' => ∃ fate, result = .ok fate ∧
      Booked op ⟨b, id :: loose, leaving⟩ ⟨b', fate.parts ++ loose, leaving⟩ ∧
      (fate = .kept ↔ b'.tensors.contains id = true) := by
  intro b₁
  have hremoved : Ends (removeOne id b₁) fun result b' => result = .ok r.partList ∧
      Still { b with tensors := (b.tensors.remove id).2 } b' ∧ b'.batch = b.batch := by
    have hend := ends_removeOne (b := b₁) hpool Registry.get_put_self
    rw [Registry.remove_put] at hend
    exact hend
  refine hremoved.bind_ok fun b' h => ?_
  rcases h with ⟨hstill, hbatch⟩
  have hgone : b'.tensors.contains id = false := by
    rw [hstill.tensors]
    exact Registry.contains_eq_false_of_get Registry.get_remove_self
  have hkept : Fate.removed r.partList = .kept ↔ b'.tensors.contains id = true := by simp [hgone]
  have hbooked : Booked op ⟨b, id :: loose, leaving⟩ ⟨b', r.partList ++ loose, leaving⟩ :=
    .tail (.single (.last hget hdeferred hlast)) (.quiet (tally_of_still hstill hbatch) (.refl _))
  exact .inr ⟨_, rfl, hbooked, hkept⟩

/-- Dropping one reference is one booking. -/
theorem booked_dropOne (hop : op.retains = false) (hpool : b.pool.disposed = false)
    (id : TensorId) (loose leaving : List TensorId) :
    Ends (dropOne id false b) fun result b' => ∃ fate, result = .ok fate ∧
      Booked op ⟨b, id :: loose, leaving⟩ ⟨b', fate.parts ++ loose, leaving⟩ ∧
      (fate = .kept ↔ b'.tensors.contains id = true) := by
  unfold dropOne
  by_cases hlive : b.tensors.contains id = true
  case neg =>
    have hgone : b.tensors.contains id = false := Bool.eq_false_iff.mpr hlive
    simp only [hgone, Bool.not_false, if_true]
    exact .inr ⟨.absent, rfl, .single (.waive (.inl hgone)), by simp [hgone]⟩
  simp only [hlive, Bool.not_true, Bool.false_eq_true, if_false]
  by_cases hdefers : b.batch.defers id = true
  · have hdeferred : id ∈ b.batch.deferred := by simpa [Submission.Batch.defers] using hdefers
    simp only [hdefers, if_true]
    exact .inr ⟨.kept, rfl, .single (.waive (.inr hdeferred)), by simp [hlive]⟩
  have hdeferred : id ∉ b.batch.deferred := by simpa [Submission.Batch.defers] using hdefers
  rcases Registry.contains_iff_get.mp hlive with ⟨r, hget⟩
  have hput : (b.tensors.put id { r with references := r.references - 1 }).contains id = true := by
    rw [Registry.contains_put hget, hlive]
  simp only [hdefers, Bool.false_eq_true, if_false, Registry.release_of_get hget, Bool.not_false,
    Bool.and_true, decide_eq_true_eq]
  by_cases hmany : 0 < r.references - 1
  · simp only [hmany, if_true]
    exact .inr ⟨.kept, rfl, .single (.lower hget hdeferred (by omega)), by simp [hput]⟩
  have hlast : r.references ≤ 1 := by omega
  simp only [hmany, if_false]
  by_cases htouches : b.batch.touches id = true
  · have htouched : id ∈ b.batch.touched := by simpa [Submission.Batch.touches] using htouches
    simp only [htouches, if_true]
    exact .inr ⟨.kept, rfl, .single (.park hop hget hdeferred hlast htouched), by simp [hput]⟩
  simp only [htouches, Bool.false_eq_true, if_false]
  have hremoved := @booked_removeOne op b id r hpool hget hdeferred hlast loose leaving
  dsimp only at hremoved
  rw [← map_removed] at hremoved
  exact hremoved

/-- Only a live tensor is removed. -/
theorem live_of_removed {parts : List TensorId} (h : dropOne id false b = (.ok (.removed parts), b')) :
    b.tensors.contains id = true := by
  by_contra hlive
  have hgone : b.tensors.contains id = false := Bool.eq_false_iff.mpr hlive
  simp only [dropOne, hgone, Bool.not_false, if_true] at h
  cases h

/-- Dropping references, and then those of the tensors that go. -/
theorem booked_dropEach (hop : op.retains = false) (hpool : b.pool.disposed = false)
    (ids loose leaving : List TensorId) :
    Ends (dropEach ids b) fun result b' => result = .ok () ∧
      Booked op ⟨b, ids ++ loose, leaving⟩ ⟨b', loose, leaving⟩ := by
  induction ids, b using dropEach.induct with
  | case1 b =>
    rw [dropEach]
    exact .inr ⟨rfl, .refl⟩
  | case2 id rest b fate b₁ hdrop ih =>
    have hone := (booked_dropOne hop hpool id (rest ++ loose) leaving).and_frame
      (frames_dropOne id false)
    rw [hdrop] at hone
    rw [dropEach, hdrop]
    rcases hone with ⟨e, he, -⟩ | ⟨⟨_, hfate, hbooked, -⟩, haccount⟩
    · cases he
    obtain rfl := Except.ok.inj hfate
    rcases ih (poolLive_of_account hpool haccount) with hrefused | ⟨hok, hrest⟩
    · exact .inl hrefused
    · rw [List.append_assoc] at hrest
      exact .inr ⟨hok, hbooked.trans hrest⟩
  | case3 id rest b e b₁ hdrop =>
    have hone := booked_dropOne hop hpool id (rest ++ loose) leaving
    rw [hdrop] at hone
    rw [dropEach, hdrop]
    rcases hone with ⟨e', he, huntracked⟩ | ⟨_, hfate, -⟩
    · obtain rfl := Except.error.inj he
      exact .inl ⟨_, rfl, huntracked⟩
    · cases hfate

/-! ## Submitting -/

/-- Removing a tensor that waited for a submission. -/
theorem booked_remove (hop : op.retains = false) (hpool : b.pool.disposed = false)
    (id : TensorId) (loose leaving : List TensorId) :
    Ends (remove id b) fun result b' => result = .ok () ∧
      Booked op ⟨b, loose, id :: leaving⟩ ⟨b', loose, leaving⟩ := by
  cases hget : b.tensors.get id with
  | error e =>
    have hnothing : removeOne id b = (.ok [], b) := by
      simp only [removeOne, Registry.remove, Registry.get?_eq_none_of_get hget]
    have hgone : b.tensors.contains id = false := Registry.contains_eq_false_of_get hget
    refine .bind_to hnothing ?_
    rw [dropEach]
    exact .inr ⟨rfl, .single (.miss hgone)⟩
  | ok r =>
    refine (ends_removeOne hpool hget).bind_ok fun b₁ h₁ => ?_
    rcases h₁ with ⟨hstill, hbatch⟩
    have hfirst : Booked op ⟨b, loose, id :: leaving⟩ ⟨b₁, r.partList ++ loose, leaving⟩ :=
      .tail (.single (.forget hget)) (.quiet (tally_of_still hstill hbatch) (.refl _))
    have hpool₁ : b₁.pool.disposed = false := hstill.poolDisposed.trans hpool
    rcases booked_dropEach hop hpool₁ r.partList loose leaving with hrefused | ⟨hok, hrest⟩
    · exact .inl hrefused
    · exact .inr ⟨hok, hfirst.trans hrest⟩

private theorem booked_removeEach (hop : op.retains = false) (hpool : b.pool.disposed = false)
    (ids loose : List TensorId) :
    Ends (ids.forM remove b) fun result b' => result = .ok () ∧
      Booked op ⟨b, loose, ids⟩ ⟨b', loose, []⟩ := by
  induction ids generalizing b with
  | nil => exact .inr ⟨rfl, .refl⟩
  | cons id rest ih =>
    have hfirst : Ends (remove id b) fun result b' => result = .ok () ∧
        Booked op ⟨b, loose, id :: rest⟩ ⟨b', loose, rest⟩ ∧ account b' = account b := by
      rcases booked_remove hop hpool id loose rest with hrefused | ⟨hok, hbooked⟩
      · exact .inl hrefused
      · exact .inr ⟨hok, hbooked, frames_remove id b⟩
    refine Ends.bind_ok (x := remove id) hfirst fun b₁ h₁ => ?_
    rcases ih (poolLive_of_account hpool h₁.2) with hrefused | ⟨hok, hrest⟩
    · exact .inl hrefused
    · exact .inr ⟨hok, h₁.1.trans hrest⟩

/-- A submission removes the tensors that waited for it. -/
theorem booked_submit (hlive : b.disposed = false) (hpool : b.pool.disposed = false)
    (hop : op.retains = false) (loose : List TensorId) :
    Ends (submit b) fun result b' => result = .ok () ∧
      Booked op ⟨b, loose, []⟩ ⟨b', loose, []⟩ := by
  have hfirst : Action.live b = (.ok (), b) := Action.live_apply hlive
  unfold submit
  refine .bind_to hfirst (.bind_to (a := b.encoder) rfl ?_)
  cases hencoder : b.encoder with
  | none => exact .inr ⟨rfl, .refl⟩
  | some passes =>
    refine .bind_to (a := b.batch.held) rfl ?_
    let b₁ := (handOver passes b).2
    refine (ends_releaseEach (b := b₁) hpool _).bind_ok fun b₂ h₂ => ?_
    rcases h₂ with ⟨hstill, hbatch⟩
    have hclosed : Booked op ⟨b, loose, []⟩ ⟨b₂, loose, b.batch.deferred⟩ :=
      .tail (.single (.submit hop)) (.quiet (tally_of_still hstill hbatch) (.refl _))
    have hpool₂ : b₂.pool.disposed = false := hstill.poolDisposed.trans hpool
    refine (booked_removeEach hop hpool₂ b.batch.deferred loose).bind_ok fun b₃ h₃ => ?_
    have hfinished : tally { b₃ with batch := b₃.batch.finishSubmit } = tally b₃ := rfl
    exact .inr ⟨rfl, hclosed.trans (h₃.trans (Booked.of_tally hfinished))⟩

/-! ## Live tensors -/

/-- Numbers of tensors only grow. -/
theorem Booking.next_le {x y : Books} (h : Booking op x y) :
    x.backend.tensors.next ≤ y.backend.tensors.next := by
  cases h with
  | quiet h => exact Nat.le_of_eq (congrArg Tally.next h).symm
  | add _ _ => exact Nat.le_succ _
  | retain _ _ _ => exact Nat.le_refl _
  | waive _ => exact Nat.le_refl _
  | lower _ _ _ => exact Nat.le_refl _
  | park _ _ _ _ _ => exact Nat.le_refl _
  | last _ _ _ => exact Nat.le_refl _
  | forget _ => exact Nat.le_refl _
  | miss _ => exact Nat.le_refl _
  | record h => exact Nat.le_of_eq (congrArg Tally.next h).symm
  | submit _ => exact Nat.le_refl _

/-- No booking brings a tensor back. -/
theorem Booking.live_before {x y : Books} (h : Booking op x y)
    (hold : id.number < x.backend.tensors.next)
    (hlive : y.backend.tensors.contains id = true) : x.backend.tensors.contains id = true := by
  cases h with
  | quiet h => rwa [Registry.contains_of_outlines (congrArg Tally.outlines h)] at hlive
  | add _ _ =>
    rcases Registry.contains_insert.mp hlive with rfl | hbefore
    · exact absurd hold (Nat.lt_irrefl _)
    · exact hbefore
  | retain _ _ hget => exact (Registry.contains_put hget).symm.trans hlive
  | waive _ => exact hlive
  | lower hget _ _ => exact (Registry.contains_put hget).symm.trans hlive
  | park _ hget _ _ _ => exact (Registry.contains_put hget).symm.trans hlive
  | last _ _ _ => exact (Registry.contains_remove.mp hlive).2
  | forget _ => exact (Registry.contains_remove.mp hlive).2
  | miss _ => exact hlive
  | record h => rwa [Registry.contains_of_outlines (congrArg Tally.outlines h)] at hlive
  | submit _ => exact hlive

private theorem Booked.next_le {x y : Books} (h : Booked op x y) :
    x.backend.tensors.next ≤ y.backend.tensors.next := by
  induction h with
  | refl => exact Nat.le_refl _
  | tail _ hstep ih => exact Nat.le_trans ih hstep.next_le

private theorem Booked.live_before {x y : Books} (h : Booked op x y)
    (hold : id.number < x.backend.tensors.next)
    (hlive : y.backend.tensors.contains id = true) : x.backend.tensors.contains id = true := by
  induction h with
  | refl => exact hlive
  | tail hbefore hstep ih =>
    exact ih (hstep.live_before (Nat.lt_of_lt_of_le hold (Booked.next_le hbefore)) hlive)

/-- Giving up a tensor in bookings.  The answer says whether the tensor is gone. -/
theorem booked_drop (hop : op.retains = false) (hlive : b.disposed = false)
    (hpool : b.pool.disposed = false) (hr : b.tensors.Sound) (id : TensorId) :
    Ends (drop id false b) fun result b' => ∃ flag, result = .ok flag ∧
      Booked op ⟨b, [id], []⟩ ⟨b', [], []⟩ ∧
      (flag = true ↔ b'.tensors.contains id = false) := by
  have hfirst : Action.live b = (.ok (), b) := Action.live_apply hlive
  unfold drop
  refine .bind_to hfirst ?_
  have hone := (booked_dropOne hop hpool id [] []).and_frame (frames_dropOne id false)
  cases hdrop : dropOne id false b with
  | mk result b₁ =>
    rw [hdrop] at hone
    rcases hone with ⟨e, he, huntracked⟩ | ⟨⟨fate, hfate, hbooked, hkept⟩, haccount⟩
    · obtain rfl : result = .error e := he
      rw [Action.bind_apply_error hdrop]
      exact .inl ⟨e, rfl, huntracked⟩
    obtain rfl : result = .ok fate := hfate
    refine .bind_to hdrop ?_
    rw [List.append_nil] at hbooked
    cases fate with
    | absent =>
      have hgone : b₁.tensors.contains id = false := by simpa using hkept
      have hanswer : true = true ↔ b₁.tensors.contains id = false := by simpa using hgone
      exact .inr ⟨true, rfl, hbooked, hanswer⟩
    | kept =>
      have hstays : b₁.tensors.contains id = true := by simpa using hkept
      have hanswer : false = true ↔ b₁.tensors.contains id = false := by simpa using hstays
      exact .inr ⟨false, rfl, hbooked, hanswer⟩
    | removed parts =>
      have hgone : b₁.tensors.contains id = false := by simpa using hkept
      have hold : id.number < b₁.tensors.next := by
        rcases Registry.contains_iff_get.mp (live_of_removed hdrop) with ⟨r, hget⟩
        exact Nat.lt_of_lt_of_le (hr.lt_next_of_get hget) (Booked.next_le hbooked)
      refine (booked_dropEach hop (poolLive_of_account hpool haccount) parts [] []).bind_ok
        fun b₂ h₂ => ?_
      rw [List.append_nil] at h₂
      have hstays : ¬ b₂.tensors.contains id = true := by
        intro hback
        simpa [hgone] using Booked.live_before h₂ hold hback
      have hanswer : true = true ↔ b₂.tensors.contains id = false := by simpa using hstays
      exact .inr ⟨true, rfl, hbooked.trans h₂, hanswer⟩

end ComputeKernels.Backend
