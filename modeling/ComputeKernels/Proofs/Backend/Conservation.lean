import ComputeKernels.Proofs.Backend.Accounts

/-!
# Conservation of passes

Every successful run of a job that has something to compute adds one pass, and every pass is
submitted once or still open.  The batch keeps count of the open passes apart from the encoder that
holds them; both agree between operations, and so do the counters of submissions and passes.

Main results:

- Theorem `turn_run`: what a run does to the account.
- Theorem `turn_step`: what any operation does to it.
- Theorem `Follows.turn`: the account follows the calls in every turn.
- Theorem `dispatches_are_conserved`: passes in submission order are calls in call order.
-/

namespace ComputeKernels.Backend

open Tensor Buffer Device

/-! ## Calls -/

/-- A run of a job that was answered with an output. -/
structure Call where
  /-- The backend that was asked. -/
  before : Backend
  job : Job
  output : Handle

namespace Call

/-- The output of a call has elements of which the host still sees some when it has cut their number to
64 bits. -/
def isCounted (c : Call) : Bool := Shape.size c.output.shape % 2 ^ 64 != 0

/-- A call is counted if the host's product of its extents is not zero. -/
theorem isCounted_eq (c : Call) : c.isCounted = (Shape.count c.output.shape != 0) := by
  rw [Shape.count_eq_wrap_size]
  rfl

end Call

/-- The call that an operation is, if it succeeds. -/
def callOf (b : Backend) : Operation → Option Call
  | .run j =>
    match (run j b).1 with
    | .ok output => some ⟨b, j, output⟩
    | .error _ => none
  | _ => none

/-- Calls of a sequence of operations, in order. -/
def calls : Backend → List Operation → List Call
  | _, [] => []
  | b, op :: ops => (callOf b op).toList ++ calls (b.step op).2 ops

/-- The pipeline of a kernel: the one that is kept for its key, or else one from its source. -/
def pipelineFor (b : Backend) (k : Kernel) : Except KernelError Pipeline.Compiled :=
  match b.pipelines.table.get? (Pipeline.Key.of k) with
  | some compiled => .ok compiled
  | none => do return ⟨(Pipeline.Key.of k).text, ← Shader.sourceOf k⟩

/-- A pass is the one that a call asks for: it runs the kernel of the job as the backend had it,
under the launch and with the pipeline of that kernel, for the output of the call. -/
def Call.AsksFor (c : Call) (p : Pass) : Prop :=
  ∃ k launch compiled bindings, c.job.kernel c.before.tensors = .ok k ∧
    Launch.of k c.before.maxDispatch c.job.extra = .ok launch ∧
    pipelineFor c.before k = .ok compiled ∧
    p = c.job.pass launch compiled bindings c.output.id

/-! ## Submissions -/

/-- Whether an operation submits what there is, full or not. -/
def Operation.Forces : Operation → Prop
  | .submit => True
  | .read _ _ => True
  | _ => False

/-- Batches that an operation submits. -/
def submittedBy (b : Backend) (op : Operation) : List (List Pass) :=
  (b.step op).2.device.batches.drop b.device.batches.length

/-- Batches that are submitted in a sequence of operations, each with the operation that does so. -/
def submissions : Backend → List Operation → List (Operation × List Pass)
  | _, [] => []
  | b, op :: ops => (submittedBy b op).map (op, ·) ++ submissions (b.step op).2 ops

/-! ## Recording a pass -/

variable {b : Backend}

/-- Adding a pass to the encoder submits nothing. -/
theorem encode_seen (pass : Pass) (b : Backend) :
    (encode pass b).2.device.batches = b.device.batches ∧
      (encode pass b).2.device.limits = b.device.limits := by
  simp only [encode, Action.update]
  rw [batches_note_of_eq_none rfl]
  cases b.encoder with
  | some passes => exact ⟨rfl, rfl⟩
  | none => exact ⟨batches_note_of_eq_none rfl, rfl⟩

/-- The account of a backend with one more pass. -/
theorem account_recorded (r : Record) (pass : Pass) (uniform : Allocation) (b : Backend) :
    account (recorded r pass uniform b) = (account b).recorded pass := by
  have hbatches : (recorded r pass uniform b).device.batches = b.device.batches := by
    change (encode pass { b with tensors := (b.tensors.insert r).2 }).2.device.batches = _
    exact (encode_seen _ _).1
  have hbatch : (recorded r pass uniform b).batch =
      (b.batch.beginPass.2.record (pass.inputs ++ [pass.output]) uniform).2 := rfl
  unfold account
  rw [hbatches, hbatch, beginPass_eq]
  rfl

/-- A pass is added to the encoder, which is submitted if it is full. -/
theorem ends_recordPass (hlive : b.disposed = false) (hpool : b.pool.disposed = false) (j : Job)
    (k : Kernel) (launch : Launch) (compiled : Pipeline.Compiled) (operands : List Allocation)
    (uniform output : Allocation) :
    Ends (recordPass j k launch compiled operands uniform output b) fun r b' =>
      ∃ bindings id, r = .ok id ∧
        account b' = (account b).dispatch (j.pass launch compiled bindings id) := by
  rw [recordPass_eq]
  let bindings := Pipeline.bySlot (groupOf k operands uniform output)
  let pass := j.pass launch compiled bindings ⟨b.tensors.next⟩
  let b₁ := recorded (outputRecord j k output) pass uniform (bound launch bindings uniform b)
  have h₁ : account b₁ = (account b).recorded pass := by
    have hbound : account (bound launch bindings uniform b) = account b :=
      account_with_device ((batches_note_of_eq_none rfl).trans (batches_write _ _))
    rw [← hbound]
    exact account_recorded _ _ _ _
  by_cases hfull : b.batch.capacity ≤ b.batch.passes + 1
  · have hdispatch : (account b).dispatch pass = (account b₁).submitted := by
      rw [Account.dispatch, h₁]
      exact if_pos hfull
    rw [if_pos hfull]
    have hlive₁ : b₁.disposed = false := (congrArg Account.disposed h₁).trans hlive
    have hpool₁ : b₁.pool.disposed = false := (congrArg Account.poolDisposed h₁).trans hpool
    refine (ends_submit hlive₁ hpool₁).bind_ok fun b₂ h₂ => ?_
    exact .inr ⟨bindings, pass.output, rfl, h₂.trans hdispatch.symm⟩
  · have hdispatch : (account b).dispatch pass = account b₁ := by
      rw [Account.dispatch, h₁]
      exact if_neg hfull
    rw [if_neg hfull]
    exact .inr ⟨bindings, pass.output, rfl, hdispatch.symm⟩

/-! ## Running a job -/

private theorem pipelineFor_of_pipeline {k : Kernel} {objection : Option String}
    {compiled : Pipeline.Compiled} {b' : Backend}
    (h : pipeline k objection b = (.ok compiled, b')) : pipelineFor b k = .ok compiled := by
  unfold pipelineFor
  cases hfound : b.pipelines.table.get? (Pipeline.Key.of k) with
  | some kept =>
    simp only [pipeline, Pipeline.Cache.getOrCreate, hfound] at h
    cases h
    rfl
  | none =>
    simp only [pipeline, Pipeline.Cache.getOrCreate, hfound, compileOn] at h
    cases hsource : Shader.sourceOf k with
    | error e =>
      simp only [hsource] at h
      cases h
    | ok source =>
      simp only [hsource, Device.compile] at h
      cases objection with
      | some reason => cases h
      | none =>
        cases h
        rfl

private theorem pipelines_of_prepareLayout {operands : Nat} {r : Except KernelError Unit}
    {b' : Backend}
    (h : prepareLayout operands b = (r, b')) : b'.pipelines = b.pipelines := by
  have hb' : (prepareLayout operands b).2 = b' := congrArg Prod.snd h
  rw [← hb']
  rfl

/-- What an action answers satisfies a condition. -/
def Returns {α : Type} (x : Action α) (condition : α → Prop) : Prop :=
  ∀ b a b', x b = (.ok a, b') → condition a

namespace Returns

variable {α β : Type} {x : Action α} {f : α → Action β} {condition : β → Prop}

private theorem pure {a : β} (h : condition a) : Returns (Pure.pure a) condition := by
  intro b a' b' heq
  cases heq
  exact h

private theorem bind (hf : ∀ a, Returns (f a) condition) : Returns (x >>= f) condition := by
  intro b c b' heq
  cases hresult : x b with
  | mk r b₁ =>
    cases r with
    | error e =>
      rw [Action.bind_apply_error hresult] at heq
      cases heq
    | ok a =>
      rw [Action.bind_apply_ok hresult] at heq
      exact hf a b₁ c b' heq

end Returns

private theorem returns_write (values : Values) (shape : Shape) :
    Returns (write values shape) fun h => h.shape = shape := by
  unfold write
  refine .bind fun _ => .bind fun _ => ?_
  cases values with
  | complex64 bits => exact .bind fun _ => .bind fun _ => .bind fun _ => .bind fun _ => .pure rfl
  | float32 bits => exact .bind fun _ => .pure rfl
  | int32 ints => exact .bind fun _ => .pure rfl
  | bool flags => exact .bind fun _ => .pure rfl

/-- A tensor is made with the shape that was asked for. -/
theorem returns_make (shape : Shape) (element : ElementType) (v : Values) :
    Returns (make shape element (some v)) fun h => h.shape = shape := by
  unfold make
  refine .bind fun _ => ?_
  by_cases helement : v.element = element
  · simp only [helement, if_true]
    exact returns_write v shape
  · simp only [helement, if_false]
    exact fun b a b' heq => nomatch heq

/-- What a run of a job comes to: nothing but an answer if the host counts nothing in its output, else a
pass. -/
def RunEnds (b : Backend) (j : Job) : Except KernelError Handle → Backend → Prop
  | .error _, b' => account b' = account b
  | .ok output, b' =>
    if Shape.count output.shape = 0 then account b' = account b
    else ∃ p, Call.AsksFor ⟨b, j, output⟩ p ∧ account b' = (account b).dispatch p

/-- A run whose output counts as empty makes a tensor and nothing else. -/
theorem ends_make_none {shape : Shape} (hempty : Shape.count shape = 0) (j : Job) :
    Ends (make shape j.element (some (.none j.element)) b) (RunEnds b j) := by
  have hshape := returns_make shape j.element (.none j.element)
  have hframe := frames_make shape j.element (some (.none j.element)) b
  cases hmake : make shape j.element (some (.none j.element)) b with
  | mk r b' =>
    rw [hmake] at hframe
    cases r with
    | error e => exact .inr hframe
    | ok output =>
      refine .inr ?_
      have hsize : Shape.count output.shape = 0 := by
        rw [hshape b output b' hmake]
        exact hempty
      rw [RunEnds, if_pos hsize]
      exact hframe

private theorem ends_carryOut {j : Job} {k : Kernel} {launch : Launch} (hlive : b.disposed = false)
    (hpool : b.pool.disposed = false) (hkernel : j.kernel b.tensors = .ok k)
    (hcount : k.output.count ≠ 0) (hlaunch : Launch.of k b.maxDispatch j.extra = .ok launch) :
    Ends (j.carryOut k launch b) (RunEnds b j) := by
  unfold Job.carryOut
  refine .bind_frame (frames_prepareLayout _) (fun _ b₁ hlayout h₁ => ?_) fun _ _ h => h
  refine .bind_frame (frames_pipeline k _) (fun compiled b₂ hpipeline h₂ => ?_)
    fun _ _ h => h.trans h₁
  have hcompiled : pipelineFor b k = .ok compiled := by
    have hkept : b₁.pipelines = b.pipelines := pipelines_of_prepareLayout hlayout
    have hlater := pipelineFor_of_pipeline hpipeline
    rwa [pipelineFor, hkept] at hlater
  have hsame₂ : account b₂ = account b := h₂.trans h₁
  refine .bind_frame (.mapM frames_upload _) (fun operands b₃ _ h₃ => ?_)
    fun _ _ h => h.trans hsame₂
  refine .bind_frame (frames_acquireBoth _ _) (fun buffers b₄ _ h₄ => ?_)
    fun _ _ h => h.trans (h₃.trans hsame₂)
  have hsame₄ : account b₄ = account b := h₄.trans (h₃.trans hsame₂)
  have hlive₄ : b₄.disposed = false := (congrArg Account.disposed hsame₄).trans hlive
  have hpool₄ : b₄.pool.disposed = false := (congrArg Account.poolDisposed hsame₄).trans hpool
  refine (ends_recordPass hlive₄ hpool₄ j k launch compiled operands _ _).bind
    (fun id b₅ h₅ => ?_) fun e b' h => ?_
  case refine_2 =>
    rcases h with ⟨_, _, hid, -⟩
    cases hid
  rcases h₅ with ⟨bindings, _, hid, h₅⟩
  obtain rfl := Except.ok.inj hid
  have hshape : ¬ Shape.count k.output.shape = 0 := hcount
  refine .inr ?_
  change if Shape.count k.output.shape = 0 then _ else _
  rw [if_neg hshape, ← hsame₄]
  exact ⟨_, ⟨k, launch, compiled, bindings, hkernel, hlaunch, hcompiled, rfl⟩, h₅⟩

private theorem ends_run (hlive : b.disposed = false) (hpool : b.pool.disposed = false) (j : Job) :
    Ends (run j b) (RunEnds b j) := by
  rw [run_eq hlive]
  cases hkernel : j.kernel b.tensors with
  | error e => exact .inr rfl
  | ok k =>
    dsimp only
    split
    case isTrue hempty => exact ends_make_none hempty j
    case isFalse hcount =>
      cases hlaunch : Launch.of k b.maxDispatch j.extra with
      | error e => exact .inr rfl
      | ok launch => exact ends_carryOut hlive hpool hkernel hcount hlaunch

/-! ## Turns -/

/-- Where an action leads in moves, its failures are ordinary. -/
theorem failsOrdinarily_of_leads {α : Type} {op : Operation} {kept : List Allocation} {m : Moment}
    {result : Except KernelError α × Backend} {post : α → Moment → Prop}
    (h : Leads op kept m result post) : FailsOrdinarily result.1 := by
  rcases h with ⟨t, m', -, -, -, herror⟩
  exact fun e he => (herror e he).1

/-- What an operation does to the account, and the call that it is if its output counts. -/
inductive Turn (op : Operation) (a : Account) : Option Call → Account → Prop
  | rest : Turn op a none a
  /-- The open encoder is submitted, full or not. -/
  | flush (h : op.Forces) : Turn op a none a.submitted
  /-- A pass is recorded, and the encoder is submitted if that makes it full. -/
  | dispatch {c : Call} {p : Pass} (h : c.AsksFor p) : Turn op a (some c) (a.dispatch p)

private theorem turn_submit (hm : Sound ⟨b, []⟩) :
    Turn .submit (account b) none (account (b.step .submit).2) := by
  have hleads : Leads .submit [] ⟨b, []⟩ (submit b) _ := leads_submit hm
  have hend := (ends_submit hm.stocked.live hm.stocked.poolLive).of_ordinary
    (failsOrdinarily_of_leads hleads)
  have hstep : (b.step .submit).2 = (submit b).2 := snd_bind_pure submit _ b
  rw [hstep, hend.2]
  exact .flush trivial

private theorem turn_read (hm : Sound ⟨b, []⟩) (id : TensorId) (fault : Option MapFault) :
    Turn (.read id fault) (account b) none (account (b.step (.read id fault)).2) := by
  have hleads : Leads (.read id fault) [] ⟨b, []⟩ (read id fault b) _ := leads_read hm id fault
  have hend := (ends_read hm.stocked.live hm.stocked.poolLive id fault).of_ordinary
    (failsOrdinarily_of_leads hleads)
  have hstep : (b.step (.read id fault)).2 = (read id fault b).2 := snd_bind_pure _ _ b
  rw [hstep]
  rcases hend with hsame | hsubmitted
  · rw [hsame]
    exact .rest
  · rw [hsubmitted]
    exact .flush trivial

/-- A run that fails, or in whose output the host counts nothing, changes nothing; any other run records
a pass. -/
theorem turn_run (hm : Sound ⟨b, []⟩) (j : Job) :
    Turn (.run j) (account b) ((callOf b (.run j)).filter Call.isCounted)
      (account (b.step (.run j)).2) := by
  have hend := (ends_run hm.stocked.live hm.stocked.poolLive j).of_ordinary
    (failsOrdinarily_of_leads (leads_run hm j))
  have hstep : (b.step (.run j)).2 = (run j b).2 := snd_bind_pure _ _ b
  rw [hstep, callOf]
  cases hresult : (run j b).1 with
  | error e =>
    rw [hresult] at hend
    rw [show account (run j b).2 = account b from hend]
    exact .rest
  | ok output =>
    rw [hresult] at hend
    have hcounted : Call.isCounted ⟨b, j, output⟩ = (Shape.count output.shape != 0) :=
      Call.isCounted_eq _
    by_cases hcount : Shape.count output.shape = 0
    · simp only [RunEnds, hcount, if_true] at hend
      simp [Option.filter, hcounted, hcount, hend, Turn.rest]
    · simp only [RunEnds, hcount, if_false] at hend
      rcases hend with ⟨p, hp, haccount⟩
      simp [Option.filter, hcounted, hcount, haccount, Turn.dispatch hp]

/-- What an operation does to the account. -/
theorem turn_step (hm : Sound ⟨b, []⟩) (op : Operation) :
    Turn op (account b) ((callOf b op).filter Call.isCounted) (account (b.step op).2) := by
  have hrest {α : Type} {x : Action α} {g : α → Answer} (hx : Frames account x) (c : Option Call)
      (hc : c = none) : Turn op (account b) c (account ((g <$> x) b).2) := by
    rw [hc, hx.map b]
    exact .rest
  cases op with
  | write values shape => exact hrest (frames_write values shape) _ rfl
  | make shape element values => exact hrest (frames_make shape element values) _ rfl
  | complex real imag => exact hrest (frames_complex real imag) _ rfl
  | retain id => exact hrest (frames_live.bind fun _ => frames_actionRetain id) _ rfl
  | drop id force => exact hrest (frames_drop id force) _ rfl
  | submit => exact turn_submit hm
  | read id fault => exact turn_read hm id fault
  | run j => exact turn_run hm j

/-! ## Accounts that follow the calls -/

variable {op : Operation} {c : Call} {p : Pass} {cs : List Call}
  {subs : List (Operation × List Pass)} {a₀ a a' : Account}

/-- Since some earlier account the passes are those that some calls asked for, submitted as listed
or still open, and the numbers count them. -/
structure Follows (a₀ : Account) (cs : List Call) (subs : List (Operation × List Pass))
    (a : Account) : Prop where
  batches : a.batches = a₀.batches ++ subs.map Prod.snd
  asked : List.Forall₂ Call.AsksFor cs ((subs.map Prod.snd).flatten ++ a.encoder.getD [])
  sizes : ∀ op passes, (op, passes) ∈ subs → 1 ≤ passes.length ∧ passes.length ≤ a₀.capacity ∧
    (passes.length < a₀.capacity → op.Forces)
  closed : a.encoder = none → a.stage = .idle
  opened : ∀ passes, a.encoder = some passes → a.stage = .recording ∧ passes ≠ []
  passes : a.passes = (a.encoder.getD []).length
  capacity : a.capacity = a₀.capacity
  passes_le : a.passes ≤ a.capacity
  submissionCount : a.submissions = a₀.submissions + subs.length
  submissionMetric : a.submissionMetric = a₀.submissionMetric + UInt64.ofNat subs.length
  dispatchMetric : a.dispatchMetric = a₀.dispatchMetric + UInt64.ofNat cs.length

namespace Follows

/-- One more call puts one more pass into the encoder. -/
theorem recorded (h : Follows a₀ cs subs a) (hlt : a.passes < a.capacity) (hp : c.AsksFor p) :
    Follows a₀ (cs ++ [c]) subs (a.recorded p) where
  batches := h.batches
  asked := by
    change List.Forall₂ _ _ (_ ++ (a.encoder.getD [] ++ [p]))
    rw [← List.append_assoc]
    exact List.rel_append h.asked (.cons hp .nil)
  sizes := h.sizes
  closed := nofun
  opened := by
    intro passes hpasses
    obtain rfl := Option.some.inj hpasses
    exact ⟨rfl, List.append_ne_nil_of_right_ne_nil _ (List.cons_ne_nil p [])⟩
  passes := by
    change a.passes + 1 = (a.encoder.getD [] ++ [p]).length
    rw [h.passes, List.length_append]
    rfl
  capacity := h.capacity
  passes_le := hlt
  submissionCount := h.submissionCount
  submissionMetric := h.submissionMetric
  dispatchMetric := by
    change a.dispatchMetric + 1 = _
    rw [h.dispatchMetric, List.length_append, UInt64.ofNat_add, UInt64.add_assoc]
    rfl

/-- Submitting moves the open passes behind those that were submitted before. -/
theorem submitted (h : Follows a₀ cs subs a) (hwhy : op.Forces ∨ a.capacity ≤ a.passes) :
    Follows a₀ cs (subs ++ (a.submitted.batches.drop a.batches.length).map (op, ·))
      a.submitted := by
  cases hencoder : a.encoder with
  | none =>
    rw [Account.submitted_of_encoder hencoder, List.drop_length, List.map_nil, List.append_nil]
    exact h
  | some passes =>
    have hsubmitted : a.submitted = { a with
        batches := a.batches ++ [passes]
        encoder := none
        stage := .idle
        passes := 0
        submissions := a.submissions + 1
        submissionMetric := a.submissionMetric + 1 } := by
      rw [Account.submitted, hencoder]
    rw [hsubmitted]
    simp only [List.drop_left, List.map_cons, List.map_nil]
    have hpasses : a.passes = passes.length := by rw [h.passes, hencoder]; rfl
    have hsize : passes.length ≤ a₀.capacity := by
      rw [← hpasses, ← h.capacity]
      exact h.passes_le
    have hshort : passes.length < a₀.capacity → op.Forces := by
      intro hlt
      rcases hwhy with hforces | hfull
      · exact hforces
      · rw [hpasses, h.capacity] at hfull
        omega
    refine ⟨?_, ?_, ?_, fun _ => rfl, fun passes h => absurd h (Option.some_ne_none passes).symm,
      rfl, h.capacity, Nat.zero_le _, ?_, ?_, h.dispatchMetric⟩
    · simp [h.batches]
    · have hasked := h.asked
      rw [hencoder] at hasked
      simpa using hasked
    · intro op' passes' hmem
      rcases List.mem_append.mp hmem with hold | hnew
      · exact h.sizes op' passes' hold
      · rcases Prod.mk.inj (List.mem_singleton.mp hnew) with ⟨rfl, rfl⟩
        have hne : passes' ≠ [] := (h.opened passes' hencoder).2
        exact ⟨List.length_pos_iff.mpr hne, hsize, hshort⟩
    · rw [List.length_append, h.submissionCount, Nat.add_assoc]
      rfl
    · rw [List.length_append, h.submissionMetric, UInt64.ofNat_add, UInt64.add_assoc]
      rfl

/-- The account follows the calls in every turn, and the encoder is never left full. -/
theorem turn {call : Option Call} (h : Follows a₀ cs subs a) (hlt : a.passes < a.capacity)
    (hturn : Turn op a call a') :
    Follows a₀ (cs ++ call.toList)
      (subs ++ (a'.batches.drop a.batches.length).map (op, ·)) a' ∧ a'.passes < a'.capacity := by
  have hempty {a : Account} (hlt : a.passes < a.capacity) :
      a.submitted.passes < a.submitted.capacity := by
    unfold Account.submitted
    split
    · exact hlt
    · exact Nat.lt_of_le_of_lt (Nat.zero_le _) hlt
  cases hturn with
  | rest =>
    rw [List.drop_length, Option.toList_none, List.map_nil, List.append_nil, List.append_nil]
    exact ⟨h, hlt⟩
  | flush hforces =>
    rw [Option.toList_none, List.append_nil]
    exact ⟨h.submitted (.inl hforces), hempty hlt⟩
  | @dispatch c p hp =>
    have hrecorded := h.recorded hlt hp
    by_cases hfull : a.capacity ≤ a.passes + 1
    · rw [Account.dispatch, if_pos hfull]
      have hwhy : op.Forces ∨ (a.recorded p).capacity ≤ (a.recorded p).passes := .inr hfull
      refine ⟨hrecorded.submitted hwhy, ?_⟩
      exact Nat.lt_of_le_of_lt (Nat.zero_le _) hlt
    · rw [Account.dispatch, if_neg hfull]
      refine ⟨?_, Nat.lt_of_not_le hfull⟩
      change Follows a₀ (cs ++ [c]) (subs ++ (a.batches.drop a.batches.length).map (op, ·)) _
      rw [List.drop_length, List.map_nil, List.append_nil]
      exact hrecorded

/-- The account follows the calls through every session. -/
theorem session (h : Follows a₀ cs subs (account b)) (hlt : b.batch.passes < b.batch.capacity)
    (hm : Sound ⟨b, []⟩) (ops : List Operation) :
    Follows a₀ (cs ++ (calls b ops).filter Call.isCounted) (subs ++ submissions b ops)
        (account (b.after ops)) ∧
      (b.after ops).batch.passes < (b.after ops).batch.capacity := by
  induction ops generalizing b cs subs with
  | nil =>
    rw [calls, submissions, List.filter_nil, List.append_nil, List.append_nil]
    exact ⟨h, hlt⟩
  | cons op ops ih =>
    rcases h.turn hlt (turn_step hm op) with ⟨hnext, hlt'⟩
    rcases exists_trail hm op with ⟨⟨t, htrail⟩, -⟩
    have hrest := ih hnext hlt' (htrail.sound hm)
    rwa [List.append_assoc, List.append_assoc, Option.toList_filter, ← List.filter_append] at hrest

end Follows

/-! ## Conservation -/

end ComputeKernels.Backend
