import ComputeKernels.Proofs.Backend.Bookkeeping

/-!
# Operations in bookings

An operation is a chain of bookings from the references that its caller gives up to those that the
caller gets with the answer.  A tensor that it answers with has never been in the registry before.

Main results:

- Theorem `delivers_complex`: pairing two tensors takes one reference to each of them.
- Theorem `delivers_run`: running a job in bookings.
- Theorem `settles_step`: every operation that forces nothing in bookings.
- Theorem `drop_answers`: the answer to giving up a tensor says whether the tensor is gone.
-/

namespace ComputeKernels.Backend

open Tensor Buffer Device

variable {op : Operation} {b b' : Backend} {id : TensorId} {loose leaving : List TensorId}

/-! ## Making tensors -/

/-- An action that answers with a tensor gives its caller one reference to it, and the tensor is new.
If it fails, its caller gets nothing. -/
def Delivers (op : Operation) (b : Backend) : Except KernelError Handle → Backend → Prop
  | .error _, b' => Booked op ⟨b, [], []⟩ ⟨b', [], []⟩
  | .ok handle, b' =>
    Booked op ⟨b, [], []⟩ ⟨b', [handle.id], []⟩ ∧ b.tensors.next ≤ handle.id.number

/-- A tensor without parts is added. -/
theorem booked_insert {r : Record} (hreferences : r.references = 1) (hparts : r.parts = none) :
    Booked op ⟨b, loose, leaving⟩
      ⟨{ b with tensors := (b.tensors.insert r).2 }, ⟨b.tensors.next⟩ :: loose, leaving⟩ := by
  have hnone : r.partList = [] := by rw [Record.partList, hparts]
  have hadd : Booking op ⟨b, r.partList ++ loose, leaving⟩ _ := .add hreferences (by simp [hnone])
  rw [hnone] at hadd
  exact .single hadd

private theorem delivers_write (hlive : b.disposed = false) (hr : b.tensors.Sound) (values : Values)
    (shape : Shape) : Ends (write values shape b) (Delivers op b) := by
  have hfirst : Action.live b = (.ok (), b) := Action.live_apply hlive
  unfold write
  refine .bind_to hfirst ?_
  cases hshape : values.checkShape shape with
  | error e => exact .inr .refl
  | ok _ =>
    refine .bind_to (a := ()) rfl ?_
    cases values with
    | float32 bits => exact .inr ⟨booked_insert rfl rfl, Nat.le_refl _⟩
    | int32 ints => exact .inr ⟨booked_insert rfl rfl, Nat.le_refl _⟩
    | bool flags => exact .inr ⟨booked_insert rfl rfl, Nat.le_refl _⟩
    | complex64 bits =>
      dsimp only
      cases hsplit : Values.parts bits with
      | error e => exact .inr .refl
      | ok parts =>
        rcases parts with ⟨re, im⟩
        let real : Record := { element := .float32, shape, values := some (.float32 re) }
        let imag : Record := { element := .float32, shape, values := some (.float32 im) }
        let b₁ : Backend := { b with tensors := (b.tensors.insert real).2 }
        let b₂ : Backend := { b₁ with tensors := (b₁.tensors.insert imag).2 }
        let pair : Record :=
          { element := .complex64, shape, parts := some (⟨b.tensors.next⟩, ⟨b₁.tensors.next⟩) }
        have hreal : b₁.tensors.IsFloat ⟨b.tensors.next⟩ :=
          ⟨real, by rw [Registry.get_insert, if_pos rfl], rfl⟩
        have himag : b₂.tensors.IsFloat ⟨b₁.tensors.next⟩ :=
          ⟨imag, by rw [Registry.get_insert, if_pos rfl], rfl⟩
        have hparts : ∀ id ∈ pair.partList, b₂.tensors.IsFloat id := by
          simpa [pair, Record.partList] using ⟨(hr.insert real).isFloat_insert hreal imag, himag⟩
        have hboth : Booked op ⟨b, [], []⟩
            ⟨b₂, [⟨b₁.tensors.next⟩, ⟨b.tensors.next⟩], []⟩ :=
          (booked_insert (b := b) (r := real) rfl rfl).trans (booked_insert rfl rfl)
        have hordered : Booked op ⟨b, [], []⟩ ⟨b₂, pair.partList ++ [], []⟩ :=
          hboth.tail (.quiet rfl (List.Perm.swap _ _ []))
        refine .bind_to (a := (re, im)) rfl (.bind_to (a := ⟨b.tensors.next⟩) rfl ?_)
        refine .bind_to (a := ⟨b₁.tensors.next⟩) rfl (.bind_to (a := ⟨b₂.tensors.next⟩) rfl ?_)
        refine .inr ⟨hordered.tail (.add rfl hparts), ?_⟩
        change b.tensors.next ≤ b.tensors.next + 1 + 1
        omega

private theorem delivers_make (hlive : b.disposed = false) (hr : b.tensors.Sound) (shape : Shape)
    (element : ElementType) (values : Option Values) :
    Ends (make shape element values b) (Delivers op b) := by
  have hfirst : Action.live b = (.ok (), b) := Action.live_apply hlive
  unfold make
  refine .bind_to hfirst ?_
  cases values with
  | none => exact .inr ⟨booked_insert rfl rfl, Nat.le_refl _⟩
  | some v =>
    by_cases helement : v.element = element
    · simp only [helement, if_true]
      exact delivers_write hlive hr v shape
    · simp only [helement, if_false]
      exact .inr .refl

/-- A part is accepted if it is a float. -/
theorem checkPart_eq (part : Handle) (b : Backend) :
    (∃ e, checkPart part b = (.error e, b)) ∨
      checkPart part b = (.ok (), b) ∧ b.tensors.IsFloat part.id := by
  unfold checkPart
  cases hget : b.tensors.get part.id with
  | error e => exact .inl ⟨e, Action.bind_apply_error (congrArg (·, b) hget)⟩
  | ok r =>
    have hrecord : Action.record part.id b = (.ok r, b) := congrArg (·, b) hget
    rw [Action.bind_apply_ok hrecord]
    by_cases helement : r.element = .float32
    · simp only [helement, if_true]
      exact .inr ⟨rfl, r, hget, helement⟩
    · simp only [helement, if_false]
      exact .inl ⟨_, rfl⟩

/-- Adding a reference to a live tensor answers with their number. -/
theorem retain_apply {r : Record} (hget : b.tensors.get id = .ok r) :
    Action.retain id b = (.ok (r.references + 1),
      { b with tensors := b.tensors.put id { r with references := r.references + 1 } }) := by
  have hretain : b.tensors.retain id = .ok (r.references + 1,
      b.tensors.put id { r with references := r.references + 1 }) := by
    rw [Registry.retain, hget]
    rfl
  simp only [Action.retain, hretain]

/-- Pairing two tensors delivers a tensor that refers to both. -/
theorem delivers_complex (hlive : b.disposed = false) (real imag : Handle) :
    Ends (complex real imag b) (Delivers (.complex real imag) b) := by
  have hfirst : Action.live b = (.ok (), b) := Action.live_apply hlive
  have hdiscard {id : TensorId} {b b' : Backend} {n : Nat}
      (h : Action.retain id b = (.ok n, b')) :
      (discard (Action.retain id) : Action PUnit) b = (.ok (), b') := Action.bind_apply_ok h
  unfold complex
  refine .bind_to hfirst ?_
  rcases checkPart_eq real b with ⟨e, he⟩ | ⟨hreal, hfloat⟩
  · rw [Action.bind_apply_error he]
    exact .inr .refl
  refine .bind_to hreal ?_
  rcases checkPart_eq imag b with ⟨e, he⟩ | ⟨himag, hfloat'⟩
  · rw [Action.bind_apply_error he]
    exact .inr .refl
  refine .bind_to himag ?_
  by_cases hshape : real.shape = imag.shape
  case neg =>
    simp only [hshape, if_false]
    exact .inr .refl
  simp only [hshape, if_true]
  obtain ⟨r, hget, -⟩ := id hfloat
  let b₁ : Backend :=
    { b with tensors := b.tensors.put real.id { r with references := r.references + 1 } }
  have hfloat₁ : b₁.tensors.IsFloat imag.id := Registry.isFloat_put hget rfl hfloat'
  obtain ⟨r', hget', -⟩ := id hfloat₁
  let b₂ : Backend :=
    { b₁ with tensors := b₁.tensors.put imag.id { r' with references := r'.references + 1 } }
  let pair : Record :=
    { element := .complex64, shape := imag.shape, parts := some (real.id, imag.id) }
  have hparts : ∀ id ∈ pair.partList, b₂.tensors.IsFloat id := by
    have hfloat₂ : b₂.tensors.IsFloat real.id :=
      Registry.isFloat_put hget' rfl (Registry.isFloat_put hget rfl hfloat)
    simpa [pair, Record.partList] using ⟨hfloat₂, Registry.isFloat_put hget' rfl hfloat₁⟩
  have hboth : Booked (.complex real imag) ⟨b, [], []⟩ ⟨b₂, [imag.id, real.id], []⟩ :=
    .tail (.single (.retain rfl (by simp [Operation.named]) hget))
      (.retain rfl (by simp [Operation.named]) hget')
  have hordered : Booked (.complex real imag) ⟨b, [], []⟩ ⟨b₂, pair.partList ++ [], []⟩ :=
    hboth.tail (.quiet rfl (List.Perm.swap _ _ []))
  refine .bind_to (hdiscard (retain_apply hget)) (.bind_to (hdiscard (retain_apply hget')) ?_)
  refine .bind_to (a := ⟨b₂.tensors.next⟩) rfl ?_
  exact .inr ⟨hordered.tail (.add rfl hparts), Nat.le_refl _⟩

/-! ## Running jobs -/

private theorem tally_recorded (r : Record) (pass : Pass) (uniform : Allocation) (b : Backend) :
    tally (recorded r pass uniform b) =
      { tally { b with tensors := (b.tensors.insert r).2 } with
        touched := b.batch.touched ++ (pass.inputs ++ [pass.output])
        encoder := some (b.encoder.getD [] ++ [pass]) } := by
  have hbatch := recorded_batch r pass uniform b
  unfold tally
  rw [recorded_tensors, recorded_touched, recorded_encoder, hbatch]
  rfl

/-- Recording a pass adds its output, and a full batch is submitted. -/
theorem booked_recordPass (hlive : b.disposed = false) (hpool : b.pool.disposed = false)
    (hop : op.retains = false) (j : Job) (k : Kernel) (launch : Launch)
    (compiled : Pipeline.Compiled) (operands : List Allocation) (uniform output : Allocation) :
    Ends (recordPass j k launch compiled operands uniform output b) fun result b' =>
      result = .ok ⟨b.tensors.next⟩ ∧ Booked op ⟨b, [], []⟩ ⟨b', [⟨b.tensors.next⟩], []⟩ := by
  rw [recordPass_eq]
  let bindings := Pipeline.bySlot (groupOf k operands uniform output)
  let pass := j.pass launch compiled bindings ⟨b.tensors.next⟩
  let b₁ := bound launch bindings uniform b
  let b₂ := recorded (outputRecord j k output) pass uniform b₁
  have hbound : Booked op ⟨b, [], []⟩ ⟨b₁, [], []⟩ := .of_tally rfl
  have hadded : Booked op ⟨b, [], []⟩
      ⟨{ b₁ with tensors := (b₁.tensors.insert (outputRecord j k output)).2 },
        [⟨b.tensors.next⟩], []⟩ :=
    hbound.trans (booked_insert rfl rfl)
  have hrecorded : Booked op ⟨b, [], []⟩ ⟨b₂, [⟨b.tensors.next⟩], []⟩ :=
    hadded.tail (.record (tally_recorded _ pass uniform b₁))
  have haccount : account b₂ = (account b₁).recorded pass := account_recorded _ _ _ _
  by_cases hfull : b.batch.capacity ≤ b.batch.passes + 1
  · rw [if_pos hfull]
    have hlive₂ : b₂.disposed = false := (congrArg Account.disposed haccount).trans hlive
    have hpool₂ : b₂.pool.disposed = false := (congrArg Account.poolDisposed haccount).trans hpool
    refine (booked_submit hlive₂ hpool₂ hop [⟨b.tensors.next⟩]).bind_ok fun b₃ h₃ => ?_
    exact .inr ⟨rfl, hrecorded.trans h₃⟩
  · rw [if_neg hfull]
    exact .inr ⟨rfl, hrecorded⟩

private theorem delivers_carryOut (hlive : b.disposed = false) (hpool : b.pool.disposed = false)
    (j : Job) (k : Kernel) (launch : Launch) :
    Ends (j.carryOut k launch b) (Delivers (.run j) b) := by
  have hfailed {e : KernelError} {b' : Backend}
      (h : (tally b', account b') = (tally b, account b)) : Delivers (.run j) b (.error e) b' :=
    Booked.of_tally (congrArg Prod.fst h)
  unfold Job.carryOut
  -- Everything before the pass leaves the tally and the account alone.
  refine .bind_frame ((tallied_prepareLayout _).prod (frames_prepareLayout _))
    (fun _ b₁ _ h₁ => ?_) fun _ _ h => hfailed h
  refine .bind_frame ((tallied_pipeline k _).prod (frames_pipeline k _))
    (fun compiled b₂ _ h₂ => ?_) fun _ _ h => hfailed (h.trans h₁)
  refine .bind_frame (.mapM (fun id => (tallied_upload id).prod (frames_upload id)) _)
    (fun operands b₃ _ h₃ => ?_) fun _ _ h => hfailed (h.trans (h₂.trans h₁))
  refine .bind_frame ((tallied_acquireBoth _ _).prod (frames_acquireBoth _ _))
    (fun buffers b₄ _ h₄ => ?_) fun _ _ h => hfailed (h.trans (h₃.trans (h₂.trans h₁)))
  rcases Prod.mk.inj (h₄.trans (h₃.trans (h₂.trans h₁))) with ⟨htally, haccount⟩
  have hlive₄ : b₄.disposed = false := (congrArg Account.disposed haccount).trans hlive
  have hpool₄ : b₄.pool.disposed = false := poolLive_of_account hpool haccount
  have hnext : b₄.tensors.next = b.tensors.next := congrArg Tally.next htally
  have hop : (Operation.run j).retains = false := rfl
  refine (booked_recordPass hlive₄ hpool₄ hop j k launch compiled operands _ _).bind_ok
    fun b₅ h₅ => ?_
  refine .inr ⟨(Booked.of_tally htally).trans h₅, ?_⟩
  exact Nat.le_of_eq hnext.symm

/-- A run delivers its output. -/
theorem delivers_run (hlive : b.disposed = false) (hpool : b.pool.disposed = false)
    (hr : b.tensors.Sound) (j : Job) : Ends (run j b) (Delivers (.run j) b) := by
  rw [run_eq hlive]
  cases j.kernel b.tensors with
  | error e => exact .inr .refl
  | ok k =>
    dsimp only
    split
    · exact delivers_make hlive hr _ _ _
    · cases Launch.of k b.maxDispatch j.extra with
      | error e => exact .inr .refl
      | ok launch => exact delivers_carryOut hlive hpool j k launch

/-! ## Reading -/

private theorem booked_readPlain (hlive : b.disposed = false) (hpool : b.pool.disposed = false)
    (hop : op.retains = false) (id : TensorId) (fault : Option MapFault) :
    Ends (readPlain id fault b) fun _ b' => Booked op ⟨b, [], []⟩ ⟨b', [], []⟩ := by
  unfold readPlain
  cases hget : b.tensors.get id with
  | error e =>
    have hrecord : Action.record id b = (.error e, b) := congrArg (·, b) hget
    rw [Action.bind_apply_error hrecord]
    exact .inr .refl
  | ok r =>
    have hrecord : Action.record id b = (.ok r, b) := congrArg (·, b) hget
    refine .bind_to hrecord ?_
    cases hvalues : r.values with
    | some values => exact .inr .refl
    | none =>
      cases hresource : r.resource with
      | none => exact .inr .refl
      | some x =>
        have hsubmitted : Ends (submitBefore id b) fun result b' => result = .ok () ∧
            Booked op ⟨b, [], []⟩ ⟨b', [], []⟩ := by
          unfold submitBefore
          apply Ends.bind_to (a := b.batch.touches id || b.encoder.isSome) rfl
          split
          · exact booked_submit hlive hpool hop []
          · exact .inr ⟨rfl, .refl⟩
        refine hsubmitted.bind_ok fun b₁ h₁ => ?_
        have hkeep (values : Values) : Frames tally (do
            Action.modify id ({ · with values := some values })
            return values : Action Values) := by
          have hmodify : Frames tally (Action.modify id ({ · with values := some values })) :=
            tallied_modify id fun _ => rfl
          exact hmodify.bind fun _ => .pure _
        have hrest : Frames tally (do
            let bytes ← fetch x (Word.wrap (r.count * r.element.byteWidth)) fault
            Action.count (.download (Word.wrap (r.count * r.element.byteWidth)))
            let values ← Action.of (Values.ofDeviceBytes r.element bytes r.count Word.wrap)
            Action.modify id ({ · with values := some values })
            return values : Action Values) :=
          (tallied_fetch _ _ _).bind fun _ => (tallied_count _).bind fun _ =>
            (tallied_of _).bind hkeep
        exact .inr (h₁.trans (Booked.of_tally (hrest b₁)))

private theorem booked_read (hlive : b.disposed = false) (hpool : b.pool.disposed = false)
    (hop : op.retains = false) (id : TensorId) (fault : Option MapFault) :
    Ends (read id fault b) fun _ b' => Booked op ⟨b, [], []⟩ ⟨b', [], []⟩ := by
  have hfirst : Action.live b = (.ok (), b) := Action.live_apply hlive
  unfold read
  refine .bind_to hfirst ?_
  cases hget : b.tensors.get id with
  | error e =>
    have hrecord : Action.record id b = (.error e, b) := congrArg (·, b) hget
    rw [Action.bind_apply_error hrecord]
    exact .inr .refl
  | ok r =>
    have hrecord : Action.record id b = (.ok r, b) := congrArg (·, b) hget
    refine .bind_to hrecord ?_
    cases hparts : r.parts with
    | none => exact booked_readPlain hlive hpool hop id fault
    | some parts =>
      rcases parts with ⟨real, imag⟩
      have hreal := (booked_readPlain hlive hpool hop real fault).and
        (ends_readPlain hlive hpool real fault)
      refine hreal.bind (fun re b₁ h₁ => ?_) fun _ _ h => h.1
      rcases h₁.2.standing with ⟨hdisposed, hpoolDisposed⟩
      exact (booked_readPlain (hdisposed.trans hlive) (hpoolDisposed.trans hpool) hop imag
        fault).bind (fun im b₂ h₂ => .inr (h₁.1.trans h₂)) fun _ _ h => h₁.1.trans h

/-! ## Operations -/

/-- References that an operation takes from its caller. -/
def Operation.returned : Operation → List TensorId
  | .drop id _ => [id]
  | _ => []

/-- References that an operation gives to its caller with its answer. -/
def Operation.granted : Operation → Except KernelError Answer → List TensorId
  | .retain id, .ok _ => [id]
  | _, .ok (.tensor handle) => [handle.id]
  | _, _ => []

/-- What an operation comes to: its bookings, and a new tensor if it answers with one. -/
def Settles (op : Operation) (b : Backend) (answer : Except KernelError Answer) (b' : Backend) :
    Prop :=
  Booked op ⟨b, op.returned, []⟩ ⟨b', op.granted answer, []⟩ ∧
    ∀ handle, answer = .ok (.tensor handle) → b.tensors.next ≤ handle.id.number

private theorem settles_of_failed {e : KernelError}
    (h : Booked op ⟨b, op.returned, []⟩ ⟨b', op.granted (.error e), []⟩) :
    Settles op b (.error e) b' := by
  refine ⟨h, ?_⟩
  rintro handle ⟨⟩

/-- Bookings settle an operation that answers with no tensor. -/
theorem settles_of_booked {answer : Answer}
    (h : Booked op ⟨b, op.returned, []⟩ ⟨b', op.granted (.ok answer), []⟩)
    (hanswer : ∀ handle, answer ≠ .tensor handle) : Settles op b (.ok answer) b' :=
  ⟨h, fun handle hok => absurd (Except.ok.inj hok) (hanswer handle)⟩

/-- An action that delivers a tensor settles the operation that answers with it. -/
theorem settles_of_delivers {x : Action Handle} (hreturned : op.returned = [])
    (hgranted : ∀ handle, op.granted (.ok (.tensor handle)) = [handle.id])
    (hfailed : ∀ e, op.granted (.error e) = []) (hx : Ends (x b) (Delivers op b)) :
    Ends ((Answer.tensor <$> x) b) (Settles op b) := by
  refine hx.bind (fun handle b' h => .inr ⟨?_, ?_⟩) fun e b' h => settles_of_failed ?_
  · rw [hreturned]
    change Booked op _ ⟨b', op.granted (.ok (.tensor handle)), []⟩
    rw [hgranted]
    exact h.1
  · intro _ hanswer
    obtain rfl := Answer.tensor.inj (Except.ok.inj hanswer)
    exact h.2
  · rw [hreturned, hfailed]
    exact h

/-- A tensor that is there gets one reference more. -/
theorem settles_retain (hlive : b.disposed = false) (id : TensorId) :
    Settles (.retain id) b (b.step (.retain id)).1 (b.step (.retain id)).2 := by
  have hfirst : Action.live b = (.ok (), b) := Action.live_apply hlive
  cases hget : b.tensors.get id with
  | error e =>
    have hretain : Action.retain id b = (.error e, b) := by
      simp only [Action.retain, Registry.retain, hget]
      rfl
    have hrefused : retain id b = (.error e, b) := (Action.bind_apply_ok hfirst).trans hretain
    have hstep : b.step (.retain id) = (.error e, b) := Action.bind_apply_error hrefused
    rw [hstep]
    exact settles_of_failed .refl
  | ok r =>
    have hretain : retain id b = _ := (Action.bind_apply_ok hfirst).trans (retain_apply hget)
    have hstep : b.step (.retain id) = _ := Action.bind_apply_ok hretain
    rw [hstep]
    refine settles_of_booked (.single (.retain rfl ?_ hget)) (by simp)
    simp [Operation.named]

/-- An operation in bookings. -/
theorem settles_step (hm : Sound ⟨b, []⟩) (hforced : op.isForced = false) :
    Settles op b (b.step op).1 (b.step op).2 := by
  have hlive : b.disposed = false := hm.stocked.live
  have hpool : b.pool.disposed = false := hm.stocked.poolLive
  have hr : b.tensors.Sound := hm.registered.sound
  suffices hend : Ends (b.step op) (Settles op b) from hend.of_ordinary (exists_trail hm op).2
  cases op with
  | write values shape =>
    exact settles_of_delivers rfl (fun _ => rfl) (fun _ => rfl) (delivers_write hlive hr _ _)
  | make shape element values =>
    exact settles_of_delivers rfl (fun _ => rfl) (fun _ => rfl) (delivers_make hlive hr _ _ _)
  | complex real imag =>
    exact settles_of_delivers rfl (fun _ => rfl) (fun _ => rfl) (delivers_complex hlive _ _)
  | run job =>
    exact settles_of_delivers rfl (fun _ => rfl) (fun _ => rfl) (delivers_run hlive hpool hr _)
  | retain id => exact .inr (settles_retain hlive id)
  | drop id force =>
    obtain rfl : force = false := hforced
    have hdrop := @booked_drop (.drop id false) b rfl hlive hpool hr id
    refine hdrop.bind (fun flag b' h => .inr ?_) fun e b' h => ?_
    · rcases h with ⟨_, -, hbooked, -⟩
      exact settles_of_booked hbooked (by simp)
    · rcases h with ⟨_, hflag, -⟩
      cases hflag
  | submit =>
    have hsubmit := @booked_submit .submit b hlive hpool rfl []
    exact hsubmit.bind_ok fun b' hbooked => .inr (settles_of_booked hbooked (by simp))
  | read id fault =>
    have hread := @booked_read (.read id fault) b hlive hpool rfl id fault
    refine hread.bind (fun values b' hbooked => .inr ?_) fun e b' hbooked => ?_
    · exact settles_of_booked hbooked (by simp)
    · exact settles_of_failed hbooked

/-- Giving up a tensor succeeds, and the answer says whether the tensor is gone. -/
theorem drop_answers (hm : Sound ⟨b, []⟩) (id : TensorId) :
    ∃ flag, (b.step (.drop id false)).1 = .ok (.gone flag) ∧
      (flag = true ↔ (b.step (.drop id false)).2.tensors.contains id = false) := by
  have hend := @booked_drop (.drop id false) b rfl hm.stocked.live hm.stocked.poolLive
    hm.registered.sound id
  have hleads : Leads (.drop id false) [] ⟨b, []⟩ (drop id false b) _ := leads_drop hm id false
  rcases hend.of_ordinary (failsOrdinarily_of_leads hleads) with ⟨flag, hflag, -, hgone⟩
  have hdrop : drop id false b = (.ok flag, (drop id false b).2) := Prod.ext hflag rfl
  have hstep : b.step (.drop id false) = (.ok (.gone flag), (drop id false b).2) :=
    Action.bind_apply_ok hdrop
  rw [hstep]
  exact ⟨flag, rfl, hgone⟩

end ComputeKernels.Backend
