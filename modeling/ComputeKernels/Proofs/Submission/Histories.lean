import ComputeKernels.Submission.Batch
import Mathlib.Data.List.DropRight

/-!
# Histories of a batch

A batch is drained when its encoder is handed over or dropped.  What it holds back at any time was
recorded or put off since it was last drained, so over a whole history nothing is lost and nothing is
handed out twice.  This is so for calls in any order, also if a batch is drained twice in a row or
without an open encoder.

Main results:

- Theorem `Settled.step`: one call keeps the account of the history.
- Theorem `settled_run`: every history of a new batch is accounted for.
- Theorem `batches_conserve_what_they_hold`: what is answered and what is held back, read off the
  calls.
-/

namespace ComputeKernels.Submission

variable {υ : Type}

/-! ## Calls -/

/-- A call of a batch. -/
inductive Call (υ : Type)
  | beginPass
  | record (tensors : List TensorId) (uniform : υ)
  | defer (id : TensorId)
  | beginSubmit
  | finishSubmit
  | abandon

namespace Call

/-- Whether a call drains the batch. -/
def drains : Call υ → Bool
  | beginSubmit => true
  | abandon => true
  | _ => false

/-- Whether a call hands over the encoder. -/
def submits : Call υ → Bool
  | beginSubmit => true
  | _ => false

/-- Whether a call records a pass. -/
def records : Call υ → Bool
  | record _ _ => true
  | _ => false

/-- Uniform data of the pass that a call records. -/
def uniform? : Call υ → Option υ
  | record _ u => some u
  | _ => none

/-- Tensors that the pass of a call refers to. -/
def tensors : Call υ → List TensorId
  | record ids _ => ids
  | _ => []

/-- The tensor whose disposal a call puts off. -/
def deferral? : Call υ → Option TensorId
  | defer id => some id
  | _ => none

end Call

/-- Answer to a call. -/
inductive Answer (υ : Type)
  | flag (value : Bool)
  | drained (held : Drained υ)
  | done

/-- Uniform data that an answer hands out. -/
def Answer.uniforms : Answer υ → List υ
  | drained held => held.uniforms
  | _ => []

/-- Answer to a call and the batch after it. -/
def Batch.step (b : Batch υ) : Call υ → Answer υ × Batch υ
  | .beginPass => (.flag b.beginPass.1, b.beginPass.2)
  | .record tensors uniform => (.flag (b.record tensors uniform).1, (b.record tensors uniform).2)
  | .defer id => (.done, b.defer id)
  | .beginSubmit => (.drained b.beginSubmit.1, b.beginSubmit.2)
  | .finishSubmit => (.done, b.finishSubmit)
  | .abandon => (.drained b.abandon.1, b.abandon.2)

/-- Answers to a history of calls, in order, and the batch after it. -/
def Batch.run (b : Batch υ) (calls : List (Call υ)) : List (Answer υ) × Batch υ :=
  calls.foldl (fun (answers, b) call => (answers ++ [(b.step call).1], (b.step call).2)) ([], b)

private theorem Batch.run_concat (b : Batch υ) (calls : List (Call υ)) (call : Call υ) :
    b.run (calls ++ [call]) =
      ((b.run calls).1 ++ [((b.run calls).2.step call).1], ((b.run calls).2.step call).2) := by
  simp [run]

/-! ## Histories -/

/-- The calls since the batch was last drained. -/
def sinceDrain (calls : List (Call υ)) : List (Call υ) := calls.rtakeWhile fun call => !call.drains

@[simp]
theorem sinceDrain_nil : sinceDrain ([] : List (Call υ)) = [] :=
  List.rtakeWhile_nil _

@[simp]
theorem sinceDrain_concat (calls : List (Call υ)) (call : Call υ) :
    sinceDrain (calls ++ [call]) = if call.drains then [] else sinceDrain calls ++ [call] := by
  cases h : call.drains <;> simp [sinceDrain, h]

/-- One more element of a list without repetitions is put last if it is new. -/
theorem eraseDups_concat (ids : List TensorId) (id : TensorId) :
    (ids ++ [id]).eraseDups = if id ∈ ids then ids.eraseDups else ids.eraseDups ++ [id] := by
  rw [List.eraseDups_append]
  by_cases h : id ∈ ids <;> simp [List.removeAll, List.eraseDups_cons, h]

/-- The account of a history that a batch of some size was put through: what was handed out, and what
the batch holds back of the calls since it was last drained. -/
structure Settled (size : Nat) (calls : List (Call υ)) (answers : List (Answer υ)) (b : Batch υ) :
    Prop where
  capacity : b.capacity = max size 1
  recorded : answers.flatMap Answer.uniforms ++ b.uniforms = calls.filterMap Call.uniform?
  uniforms : b.uniforms = (sinceDrain calls).filterMap Call.uniform?
  deferred : b.deferred = ((sinceDrain calls).filterMap Call.deferral?).eraseDups
  touched : b.touched = (sinceDrain calls).flatMap Call.tensors
  passes : b.passes = (sinceDrain calls).countP Call.records
  submissions : b.submissions = calls.countP Call.submits

private theorem settled_ofCapacity (size : Nat) :
    Settled size [] [] (Batch.ofCapacity size : Batch υ) := by
  constructor <;> simp [Batch.ofCapacity]

namespace Settled

variable {size : Nat} {calls : List (Call υ)} {answers : List (Answer υ)} {b : Batch υ}

/-- Disposal waits for a tensor exactly if it was put off since the batch was last drained. -/
theorem defers_iff (h : Settled size calls answers b) (id : TensorId) :
    b.defers id = true ↔ .defer id ∈ sinceDrain calls := by
  have hdeferral : ∀ call : Call υ, call.deferral? = some id ↔ call = .defer id := by
    intro call
    cases call <;> simp [Call.deferral?]
  simp [Batch.defers, h.deferred, List.mem_filterMap, hdeferral]

/-- The open encoder refers to a tensor exactly if a pass since the batch was last drained does. -/
theorem touches_iff (h : Settled size calls answers b) (id : TensorId) :
    b.touches id = true ↔ ∃ tensors u, .record tensors u ∈ sinceDrain calls ∧ id ∈ tensors := by
  rw [Batch.touches, decide_eq_true_iff, h.touched, List.mem_flatMap]
  constructor
  · rintro ⟨call, hcall, hid⟩
    cases call with
    | record tensors u => exact ⟨tensors, u, hcall, hid⟩
    | _ => simp [Call.tensors] at hid
  · rintro ⟨tensors, u, hcall, hid⟩
    exact ⟨.record tensors u, hcall, hid⟩

/-- A call that changes no more than the stage keeps the account. -/
theorem pause (h : Settled size calls answers b) {call : Call υ} (hdrains : call.drains = false)
    (hrecords : call.records = false) (hdeferral : call.deferral? = none) (stage : Stage)
    {answer : Answer υ} (hanswer : answer.uniforms = []) :
    Settled size (calls ++ [call]) (answers ++ [answer]) { b with stage := stage } := by
  have huniform : call.uniform? = none := by
    cases call <;> simp_all [Call.records, Call.uniform?]
  have htensors : call.tensors = [] := by cases call <;> simp_all [Call.records, Call.tensors]
  have hsubmits : call.submits = false := by cases call <;> simp_all [Call.drains, Call.submits]
  constructor
  · exact h.capacity
  · simp [hanswer, huniform, h.recorded]
  · simp [hdrains, huniform, h.uniforms]
  · simp [hdrains, hdeferral, h.deferred]
  · simp [hdrains, htensors, h.touched]
  · simp [hdrains, hrecords, h.passes]
  · simp [hsubmits, h.submissions]

/-- Recording a pass adds its tensors and its uniform data to what is held back. -/
theorem record (h : Settled size calls answers b) (tensors : List TensorId) (u : υ) (full : Bool) :
    Settled size (calls ++ [.record tensors u]) (answers ++ [.flag full])
      (b.record tensors u).2 := by
  constructor
  · exact h.capacity
  · simp [Batch.record, Answer.uniforms, Call.uniform?, ← h.recorded]
  · simp [Batch.record, Call.drains, Call.uniform?, h.uniforms]
  · simp [Batch.record, Call.drains, Call.deferral?, List.filterMap_cons, h.deferred]
  · simp [Batch.record, Call.drains, Call.tensors, h.touched]
  · simp [Batch.record, Call.drains, Call.records, h.passes]
  · simp [Batch.record, Call.submits, h.submissions]

/-- Putting off a disposal adds the tensor to those that wait, if it is not yet one of them. -/
theorem defer (h : Settled size calls answers b) (id : TensorId) :
    Settled size (calls ++ [.defer id]) (answers ++ [.done]) (b.defer id) := by
  have hwaits : b.defers id = true ↔ id ∈ (sinceDrain calls).filterMap Call.deferral? := by
    simp [Batch.defers, h.deferred]
  have hdeferred : (b.defer id).deferred =
      ((sinceDrain calls).filterMap Call.deferral? ++ [id]).eraseDups := by
    rw [eraseDups_concat, ← h.deferred]
    by_cases hid : b.defers id = true
    · simp [Batch.defer, hid, hwaits.mp hid]
    · simp [Batch.defer, hid, mt hwaits.mpr hid]
  have hrest : b.defer id = { b with deferred := (b.defer id).deferred } := by
    unfold Batch.defer
    split <;> rfl
  rw [hrest]
  constructor
  · exact h.capacity
  · simp [Answer.uniforms, Call.uniform?, List.filterMap_cons, h.recorded]
  · simp [Call.drains, Call.uniform?, List.filterMap_cons, h.uniforms]
  · simp [Call.drains, Call.deferral?, hdeferred]
  · simp [Call.drains, Call.tensors, h.touched]
  · simp [Call.drains, Call.records, h.passes]
  · simp [Call.submits, h.submissions]

/-- Draining hands out all that is held back. -/
theorem drain (h : Settled size calls answers b) {call : Call υ} (hdrains : call.drains = true)
    (stage : Stage) :
    Settled size (calls ++ [call]) (answers ++ [.drained b.held])
      { b.emptied stage with submissions := b.submissions + if call.submits then 1 else 0 } := by
  have huniform : call.uniform? = none := by
    cases call <;> simp_all [Call.drains, Call.uniform?]
  constructor
  · exact h.capacity
  · simp [Batch.emptied, Batch.held, Answer.uniforms, huniform, h.recorded]
  · simp [Batch.emptied, hdrains]
  · simp [Batch.emptied, hdrains]
  · simp [Batch.emptied, hdrains]
  · simp [Batch.emptied, hdrains]
  · simp [h.submissions, List.countP_cons]

/-- One call keeps the account of the history. -/
theorem step (h : Settled size calls answers b) (call : Call υ) :
    Settled size (calls ++ [call]) (answers ++ [(b.step call).1]) (b.step call).2 := by
  cases call with
  | beginPass =>
    have hstage : b.beginPass.2 = { b with stage := .recording } := by
      rcases b with ⟨stage⟩
      cases stage <;> rfl
    simp only [Batch.step, hstage]
    exact h.pause rfl rfl rfl .recording rfl
  | record tensors u => exact h.record tensors u _
  | defer id => exact h.defer id
  | beginSubmit => exact h.drain rfl .submitted
  | finishSubmit => exact h.pause rfl rfl rfl .idle rfl
  | abandon => exact h.drain rfl .idle

end Settled

/-- Every history of a new batch is accounted for. -/
theorem settled_run (size : Nat) (calls : List (Call υ)) :
    Settled size calls ((Batch.ofCapacity size).run calls).1
      ((Batch.ofCapacity size).run calls).2 := by
  induction calls using List.reverseRecOn with
  | nil => exact settled_ofCapacity size
  | append_singleton calls call ih =>
    rw [Batch.run_concat]
    exact ih.step call

/-- After any history the uniform data handed out so far and those held back are all that were
recorded, in order.  A drain hands out the data that were recorded and the disposals that were put off
since the one before it, each disposal once, in order of first request.  A tensor waits or is referred
to exactly if it was put off or recorded since then, the passes are those recorded since then, the next
one fills the batch exactly if it reaches the size, and the submissions are the encoders handed
over. -/
theorem batches_conserve_what_they_hold (size : Nat) (calls : List (Call υ)) :
    let answers := ((Batch.ofCapacity size).run calls).1
    let b := ((Batch.ofCapacity size).run calls).2
    let recent := sinceDrain calls
    answers.flatMap Answer.uniforms ++ b.uniforms = calls.filterMap Call.uniform? ∧
      (∀ call : Call υ, call.drains = true → (b.step call).1 = .drained
        ⟨recent.filterMap Call.uniform?, (recent.filterMap Call.deferral?).eraseDups⟩) ∧
      (∀ id, b.defers id = true ↔ .defer id ∈ recent) ∧
      (∀ id, b.touches id = true ↔ ∃ tensors u, .record tensors u ∈ recent ∧ id ∈ tensors) ∧
      b.passes = recent.countP Call.records ∧
      (∀ tensors u, (b.step (.record tensors u)).1 =
        .flag (decide (max size 1 ≤ recent.countP Call.records + 1))) ∧
      b.submissions = calls.countP Call.submits := by
  intro answers b recent
  have h : Settled size calls answers b := settled_run size calls
  refine ⟨h.recorded, fun call hdrains => ?_, h.defers_iff, h.touches_iff, h.passes,
    fun tensors u => ?_, h.submissions⟩
  · have hheld : (b.step call).1 = .drained b.held := by
      cases call <;> simp_all [Call.drains, Batch.step, Batch.beginSubmit, Batch.abandon]
    rw [hheld, Batch.held, h.uniforms, h.deferred]
  · simp [Batch.step, Batch.record, h.capacity, h.passes, recent]

end ComputeKernels.Submission
