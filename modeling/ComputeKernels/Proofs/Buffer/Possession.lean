import ComputeKernels.Proofs.Buffer.Exchanges

/-!
# Possession of buffers

Who holds a buffer is settled by what happened to it last: it is held if it was handed out and has
not been given back since.  A handle that is kept after its buffer was given back is thus good
again once the buffer is handed out anew, and a handle under another key never is.

Main results:

- Theorem `Traced.unreturned_iff`: the buffers in use are those that were handed out and not given
  back.
- Theorem `Traced.not_unreturned`: no buffer that is held is handed out.
- Theorem `possession_is_exclusive`: which buffers are handed out, and which are taken back.
-/

namespace ComputeKernels.Buffer

/-! ## Handed out and not given back -/

/-- A buffer was handed out and has not been given back since. -/
def Unreturned (events : List Exchange) (buffer : BufferId) : Prop :=
  ∃ before x after, events = before ++ .out x :: after ∧ x.buffer = buffer ∧
    ∀ y, .back y ∈ after → y.buffer ≠ buffer

private theorem not_unreturned_nil (buffer : BufferId) : ¬ Unreturned [] buffer := by
  simp [Unreturned]

/-- The last exchange hands the buffer out, or leaves it where it was. -/
theorem unreturned_concat {events : List Exchange} {e : Exchange} {buffer : BufferId} :
    Unreturned (events ++ [e]) buffer ↔
      (∃ x, e = .out x ∧ x.buffer = buffer) ∨
        Unreturned events buffer ∧ ∀ y, e = .back y → y.buffer ≠ buffer := by
  constructor
  · rintro ⟨before, x, after, heq, hx, hafter⟩
    rcases List.eq_nil_or_concat after with rfl | ⟨after, last, rfl⟩
    · exact .inl ⟨x, by simpa using (List.append_inj' heq rfl).2, hx⟩
    · rw [List.concat_eq_append, ← List.cons_append, ← List.append_assoc] at heq
      rcases List.append_inj' heq rfl with ⟨rfl, hlast⟩
      obtain rfl : e = last := by simpa using hlast
      exact .inr ⟨⟨before, x, after, rfl, hx, fun y hy => hafter y (by simp [hy])⟩,
        fun y hy => hafter y (by simp [hy])⟩
  · rintro (⟨x, rfl, hx⟩ | ⟨⟨before, x, after, rfl, hx, hafter⟩, hlast⟩)
    · exact ⟨events, x, [], rfl, hx, by simp⟩
    · refine ⟨before, x, after ++ [e], by simp, hx, fun y hy => ?_⟩
      rcases List.mem_append.mp hy with hold | hnew
      · exact hafter y hold
      · exact hlast y (List.mem_singleton.mp hnew).symm

namespace Traced

variable {past : List Moment} {p : Pool} {made : List Allocation}

/-- The buffers in use are those that were handed out and not given back. -/
theorem unreturned_iff (h : Traced past p made) (buffer : BufferId) :
    Unreturned (past.map Moment.exchange) buffer ↔ buffer ∈ p.inUse.map Allocation.buffer := by
  induction h with
  | new => simp [not_unreturned_nil, Pool.inUse, Pool.listed, Table.empty]
  | @next past p p' made made' e before step ih =>
    have hkeyed := before.sound.keyed
    rw [List.map_append, List.map_singleton, unreturned_concat, ih]
    cases e with
    | out x =>
      have hin := (step.inUse_out hkeyed).map Allocation.buffer
      simp [hin.mem_iff, eq_comm]
    | back x =>
      have hout := (step.inUse_back hkeyed).map Allocation.buffer
      -- The buffer that is given back is in use once only.
      have hgone : x.buffer ∉ p'.inUse.map Allocation.buffer :=
        (List.nodup_cons.mp (hout.nodup_iff.mp before.sound.nodup_inUse)).1
      rw [hout.mem_iff, List.map_cons, List.mem_cons]
      by_cases hbuffer : buffer = x.buffer
      · simp [hbuffer, hgone]
      · simp [hbuffer, Ne.symm hbuffer]

/-- A buffer that was handed out stays in the pool under its key. -/
theorem mem_all_of_out (h : Traced past p made) {x : Allocation}
    (hx : .out x ∈ past.map Moment.exchange) : x ∈ p.all := by
  induction h with
  | new => simp at hx
  | next before step ih =>
    have hkeyed := before.sound.keyed
    rw [List.map_append, List.mem_append] at hx
    rcases hx with hold | hnew
    · exact step.mem_all hkeyed (ih hold)
    · obtain rfl : Exchange.out x = _ := by simpa using hnew
      exact List.mem_append_right _ ((step.inUse_out hkeyed).mem_iff.mpr List.mem_cons_self)

/-- The buffers in use were handed out under the keys that they are in use under. -/
theorem mem_inUse_iff (h : Traced past p made) (x : Allocation) :
    x ∈ p.inUse ↔
      .out x ∈ past.map Moment.exchange ∧ Unreturned (past.map Moment.exchange) x.buffer := by
  -- Two allocations of one buffer are equal, for they both stand in the pool.
  have hsame : ∀ {y}, .out y ∈ past.map Moment.exchange → ∀ {z}, z ∈ p.inUse →
      y.buffer = z.buffer → y = z := fun hy _ hz hbuffer =>
    h.sound.eq_of_buffer_eq (h.mem_all_of_out hy) (List.mem_append_right _ hz) hbuffer
  constructor
  · intro hx
    have hheld := (h.unreturned_iff x.buffer).mpr (List.mem_map_of_mem hx)
    refine ⟨?_, hheld⟩
    rcases hheld with ⟨before, y, after, heq, hbuffer, -⟩
    have hy : .out y ∈ past.map Moment.exchange := by simp [heq]
    rwa [← hsame hy hx hbuffer]
  · rintro ⟨hout, hheld⟩
    rcases List.mem_map.mp ((h.unreturned_iff x.buffer).mp hheld) with ⟨z, hz, hbuffer⟩
    rwa [hsame hout hz hbuffer.symm]

/-- No buffer that is held is handed out. -/
theorem not_unreturned (h : Traced past p made) {before after : List Exchange} {x : Allocation}
    (heq : past.map Moment.exchange = before ++ .out x :: after) :
    ¬ Unreturned before x.buffer := by
  rcases List.map_eq_append_iff.mp heq with ⟨earlier, rest, rfl, rfl, hrest⟩
  rcases List.map_eq_cons_iff.mp hrest with ⟨now, later, rfl, hnow, -⟩
  rw [List.append_cons] at h
  rcases h.of_append with ⟨made', hupto⟩
  rcases hupto.of_concat with ⟨p', made'', hearlier, step⟩
  rw [hnow] at step
  have hin := (step.inUse_out hearlier.sound.keyed).map Allocation.buffer
  have hdistinct := hin.nodup_iff.mp hupto.sound.nodup_inUse
  rw [hearlier.unreturned_iff]
  exact (List.nodup_cons.mp hdistinct).1

end Traced

/-! ## Giving back -/

variable {σ : Type}

/-- A release that is refused is refused as one of an untracked buffer. -/
theorem Pool.release_eq_error {p : Pool} {x : Allocation} {e : KernelError}
    (hlive : p.disposed = false) (h : p.release x = .error e) :
    e = .untrackedBuffer x.key.size x.key.usage := by
  unfold release at h
  rw [hlive, if_neg Bool.false_ne_true] at h
  split at h <;> cases h
  rfl

/-- While a manager answers requests short of disposal, no buffer is handed out that was handed
out before and not given back.  A release succeeds exactly if its buffer was handed out under its
key and has not been given back since it was handed out last.  Any other release is refused as one
of an untracked buffer of its size and usage, and changes nothing. -/
theorem possession_is_exclusive (a : Allocator σ) (s : σ) (ha : a.Fresh s) (rs : List Request)
    (hrs : .dispose ∉ rs) :
    let new : Manager σ := { source := s }
    let m := new.after a rs
    let events := (new.trace a rs).map Moment.exchange
    (∀ before x after, events = before ++ .out x :: after → ¬ Unreturned before x.buffer) ∧
      ∀ x, ((∃ p', m.pool.release x = .ok p') ↔ .out x ∈ events ∧ Unreturned events x.buffer) ∧
        ∀ e, m.pool.release x = .error e →
          e = .untrackedBuffer x.key.size x.key.usage ∧ m.step a (.release x) = m := by
  intro new m events
  have htraced : Traced (new.trace a rs) m.pool (Manager.made a s rs) := traced_run ha hrs
  refine ⟨fun before x after heq => htraced.not_unreturned heq, fun x => ⟨?_, fun e he => ⟨?_, ?_⟩⟩⟩
  · rw [Pool.exists_release_iff htraced.sound.keyed, ← htraced.mem_inUse_iff]
    simp [htraced.live]
  · exact Pool.release_eq_error htraced.live he
  · simp [Manager.step, he]

/-- A handle is good again once its buffer was handed out anew, and the handle of a buffer that a
refused request took is not. -/
theorem stale_handle_is_good_again :
    let a := Allocator.numbered (some 8)
    let small : PoolKey := ⟨4, .storage⟩
    let large : PoolKey := ⟨8, .uniform⟩
    let rs : List Request := [.acquire small, .release ⟨0, small⟩, .release ⟨0, small⟩,
      .acquire small, .acquireAll [large, ⟨12, .storage⟩]]
    let m : Manager Nat := Manager.after a { source := 0 } rs
    a.Fresh 0 ∧ .dispose ∉ rs ∧ (∃ p, m.pool.release ⟨0, small⟩ = .ok p) ∧
      m.pool.release ⟨1, large⟩ = .error (.untrackedBuffer 8 .uniform) ∧
      m.step a (.release ⟨1, large⟩) = m := by
  intro a small large rs m
  have hfresh : a.Fresh 0 := Allocator.fresh_numbered (some 8) 0
  have hrs : .dispose ∉ rs := by decide
  have hevents : (Manager.trace a { source := 0 } rs).map Moment.exchange =
      [.out ⟨0, small⟩, .back ⟨0, small⟩, .out ⟨0, small⟩, .out ⟨1, large⟩, .back ⟨1, large⟩] := by
    decide
  have hreleases := (possession_is_exclusive a 0 hfresh rs hrs).2
  rw [hevents] at hreleases
  have hreturned : ¬ Unreturned ([.out ⟨0, small⟩, .back ⟨0, small⟩, .out ⟨0, small⟩,
      .out ⟨1, large⟩] ++ [.back ⟨1, large⟩]) 1 := by
    rw [unreturned_concat]
    simp
  refine ⟨hfresh, hrs, (hreleases ⟨0, small⟩).1.mpr ⟨by simp, ?_⟩, ?_⟩
  · exact ⟨[.out ⟨0, small⟩, .back ⟨0, small⟩], ⟨0, small⟩, [.out ⟨1, large⟩, .back ⟨1, large⟩],
      rfl, rfl, by simp⟩
  · cases hp : m.pool.release ⟨1, large⟩ with
    | ok p => exact absurd ((hreleases ⟨1, large⟩).1.mp ⟨p, hp⟩).2 hreturned
    | error e =>
      rcases (hreleases ⟨1, large⟩).2 e hp with ⟨rfl, hsame⟩
      exact ⟨rfl, hsame⟩

end ComputeKernels.Buffer
