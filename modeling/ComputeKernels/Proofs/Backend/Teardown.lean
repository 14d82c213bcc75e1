import ComputeKernels.Proofs.Backend.Journal
import ComputeKernels.Proofs.Buffer.Requests

/-!
# Teardown

Operations, the loss of the device and disposal may come in any order.  Until the first disposal a
backend destroys no buffer, and its pool holds all buffers that it ever made.  So disposing destroys
each of them once, and as nothing is left after that, nothing can follow.

Main results:

- Theorem `reachable_iff`: reachable backends and what occurred to them.
- Theorem `standing_occurrences`: what holds of a backend before and after its disposal.
- Theorem `teardown_is_complete_and_final`: what disposing does to the device, what is left, and
  that it is the end.
-/

namespace ComputeKernels

namespace Device

variable {d : Device} {buffers : List Buffer.BufferId}

/-! ## Destroying buffers -/

private theorem journal_foldl_destroyBuffer (buffers : List Buffer.BufferId) (d : Device) :
    (buffers.foldl destroyBuffer d).journal = d.journal ++ buffers.map .destroyBuffer := by
  induction buffers generalizing d with
  | nil => simp
  | cons buffer buffers ih => simp [ih, destroyBuffer, note]

@[simp]
theorem createdIn_destroyed : createdIn (buffers.map .destroyBuffer) = [] := by
  simp [createdIn, Command.created?]

@[simp]
theorem destroyedIn_destroyed : destroyedIn (buffers.map .destroyBuffer) = buffers := by
  induction buffers with
  | nil => rfl
  | cons buffer buffers ih => simpa [destroyedIn, Command.destroyed?] using ih

end Device

namespace Backend

open Tensor Buffer Device

/-! ## Occurrences -/

/-- What can occur to a backend. -/
inductive Occurrence
  | operation (op : Operation)
  | disposal
  | loss (reason : String)

/-- The backend after one occurrence. -/
def occur (b : Backend) : Occurrence → Backend
  | .operation op => (b.step op).2
  | .disposal => b.dispose
  | .loss reason => (b.lose reason).1

/-- The backend after some occurrences. -/
def occurrences (b : Backend) (os : List Occurrence) : Backend := os.foldl occur b

variable {start : Device} {b : Backend}

/-- Reachable backends and what occurred to them. -/
theorem reachable_iff : Reachable b ↔ ∃ d s os, b = (onDevice d s).occurrences os := by
  constructor
  · intro h
    have hmore {b : Backend} (o : Occurrence) (h : ∃ d s os, b = (onDevice d s).occurrences os) :
        ∃ d s os, b.occur o = (onDevice d s).occurrences os := by
      rcases h with ⟨d, s, os, rfl⟩
      exact ⟨d, s, os ++ [o], by simp [occurrences]⟩
    induction h with
    | new d s => exact ⟨d, s, [], rfl⟩
    | step _ op ih => exact hmore (.operation op) ih
    | dispose _ ih => exact hmore .disposal ih
    | lose _ reason ih => exact hmore (.loss reason) ih
  · rintro ⟨d, s, os, rfl⟩
    have hrun (b : Backend) (h : Reachable b) : Reachable (b.occurrences os) := by
      induction os generalizing b with
      | nil => exact h
      | cons o os ih =>
        refine ih _ ?_
        cases o with
        | operation op => exact .step h op
        | disposal => exact .dispose h
        | loss reason => exact .lose h reason
    exact hrun _ (.new d s)

/-! ## Before and after disposal -/

/-- A backend has given up everything. -/
structure Bare (b : Backend) : Prop where
  encoder : b.encoder = none
  tensors : b.tensors.records = .empty
  pipelines : b.pipelines.size = 0
  layouts : b.layouts = .empty
  buffers : b.pool.all = []
  stats : b.pool.stats = {}

/-- A backend is disposed, and its device was told to destroy every buffer that it had made. -/
structure TornDown (start : Device) (b : Backend) : Prop where
  disposed : b.disposed = true
  bare : Bare b
  journal : ∃ commands, b.device.journal = start.journal ++ commands ∧
    ((createdIn commands).map Allocation.buffer).Nodup ∧
    (destroyedIn commands).Perm ((createdIn commands).map Allocation.buffer) ∧ Timely commands

/-- Either a backend works as in a session, or it is torn down. -/
inductive Standing (start : Device) (b : Backend) : Prop
  | live (sound : Sound ⟨b, []⟩) (coherent : Coherent b) (logged : LoggedSince start b)
  | disposed (h : TornDown start b)

/-- Disposing of a backend twice is disposing of it once. -/
theorem dispose_of_disposed (hb : b.disposed = true) : b.dispose = b := by
  simp [dispose, hb]

/-- Disposing tells the device to destroy the buffers of the pool, and nothing else. -/
theorem journal_dispose (hb : b.disposed = false) (hpool : b.pool.disposed = false) :
    ∃ buffers : List BufferId,
      b.dispose.device.journal = b.device.journal ++ buffers.map .destroyBuffer ∧
      buffers.Perm (b.pool.all.map Allocation.buffer) := by
  refine ⟨b.pool.buffers.mergeSort (decide <| · ≤ ·), ?_, ?_⟩
  · simp only [dispose, hb, Pool.dispose, hpool]
    exact journal_foldl_destroyBuffer _ _
  · exact (List.mergeSort_perm _ _).trans (Pool.buffers_perm b.pool)

/-- A backend that is disposed of gives up everything. -/
theorem bare_dispose (hb : b.disposed = false) (hpool : b.pool.disposed = false) :
    Bare b.dispose := by
  simp only [dispose, hb, Pool.dispose, hpool]
  exact ⟨rfl, rfl, rfl, rfl, rfl, rfl⟩

private theorem disposed_dispose (b : Backend) : b.dispose.disposed = true := by
  unfold dispose
  split
  · next hdisposed => exact hdisposed
  · rfl

/-- Disposing of a backend that works. -/
theorem tornDown_dispose (hm : Sound ⟨b, []⟩) (h : LoggedSince start b) :
    TornDown start b.dispose := by
  rcases h with ⟨commands, hjournal, hlog⟩
  rcases journal_dispose hm.stocked.live hm.stocked.poolLive with ⟨buffers, hdispose, hbuffers⟩
  have hcreated := hlog.created.map Allocation.buffer
  refine ⟨disposed_dispose b, bare_dispose hm.stocked.live hm.stocked.poolLive,
    commands ++ buffers.map .destroyBuffer, ?_, ?_, ?_, ?_⟩
  · rw [hdispose, hjournal, List.append_assoc]
  · rw [createdIn_append, createdIn_destroyed, List.append_nil]
    exact hcreated.nodup_iff.mpr hm.stocked.pool.distinct
  · rw [createdIn_append, createdIn_destroyed, List.append_nil, destroyedIn_append,
      destroyedIn_destroyed, hlog.destroyed, List.nil_append]
    exact hbuffers.trans hcreated.symm
  · refine hlog.timely.append fun c hc work hwork => ?_
    rcases List.mem_map.mp hc with ⟨buffer, -, rfl⟩
    cases hwork

/-- A quiet change of a backend that is torn down gives its device no command that matters. -/
theorem TornDown.lose (h : TornDown start b) (reason : String) :
    TornDown start (b.lose reason).1 := by
  unfold Backend.lose
  split
  · exact h
  · exact ⟨h.disposed, ⟨h.bare.encoder, h.bare.tensors, h.bare.pipelines, h.bare.layouts,
      h.bare.buffers, h.bare.stats⟩, h.journal⟩

/-- Whatever occurs, a backend works as in a session or is torn down. -/
theorem Standing.occur (h : Standing start b) (o : Occurrence) : Standing start (b.occur o) := by
  cases h with
  | live hm hb hlog =>
    cases o with
    | operation op =>
      rcases exists_trail hm op with ⟨⟨t, htrail⟩, -⟩
      exact .live (htrail.sound hm) (coherent_step hm hb op)
        (kept_step (fun _ _ hchange h => hchange.logged h) hm hb hlog)
    | disposal => exact .disposed (tornDown_dispose hm hlog)
    | loss reason =>
      have hquiet := quiet_lose b reason
      have hchange : Change .submit b (b.lose reason).1 := .quiet hquiet
      exact .live (hm.quiet hquiet) (hchange.coherent hb) (hchange.logged hlog)
  | disposed h =>
    cases o with
    | operation op =>
      refine .disposed ?_
      change TornDown start (b.step op).2
      rwa [step_of_disposed h.disposed op]
    | disposal =>
      refine .disposed ?_
      change TornDown start b.dispose
      rwa [dispose_of_disposed h.disposed]
    | loss reason => exact .disposed (h.lose reason)

/-- What holds of a backend before and after its disposal. -/
theorem standing_occurrences (d : Device) (s : Config.Settings) (os : List Occurrence) :
    Standing d ((onDevice d s).occurrences os) := by
  have hrun (b : Backend) (h : Standing d b) : Standing d (b.occurrences os) := by
    induction os generalizing b with
    | nil => exact h
    | cons o os ih => exact ih _ (h.occur o)
  exact hrun _ (.live (sound_onDevice d s) (.onDevice d s) (logged_after d s []))

/-! ## The end -/

/-- Nothing that occurs to a disposed backend reaches its device. -/
theorem journal_of_disposed (hb : b.disposed = true) (os : List Occurrence) :
    (b.occurrences os).device.journal = b.device.journal := by
  induction os generalizing b with
  | nil => rfl
  | cons o os ih =>
    have hone : (b.occur o).disposed = true ∧ (b.occur o).device.journal = b.device.journal := by
      cases o with
      | operation op =>
        change (b.step op).2.disposed = true ∧ (b.step op).2.device.journal = _
        rw [step_of_disposed hb op]
        exact ⟨hb, rfl⟩
      | disposal =>
        change b.dispose.disposed = true ∧ b.dispose.device.journal = _
        rw [dispose_of_disposed hb]
        exact ⟨hb, rfl⟩
      | loss reason =>
        change (b.lose reason).1.disposed = true ∧ (b.lose reason).1.device.journal = _
        unfold lose
        split
        · exact ⟨hb, rfl⟩
        · exact ⟨hb, rfl⟩
    exact (ih hone.1).trans hone.2

/-- Whatever occurred to a backend, no buffer was destroyed before it is disposed of.  Disposing
gives its device no command but to destroy buffers; altogether each buffer that was ever created is
destroyed exactly once.  No encoder, no tensor, no pipeline, no layout and no buffer are left, and
the totals are zero.  After that every operation is refused and changes nothing, whatever occurs
gives the device no command, and disposing again neither does nor reports anything. -/
theorem teardown_is_complete_and_final (d : Device) (s : Config.Settings) (os : List Occurrence) :
    let b := (onDevice d s).occurrences os
    ∃ (commands : List Command) (destroyed : List BufferId),
      b.device.journal = d.journal ++ commands ∧
      (b.disposed = false → destroyedIn commands = []) ∧
      b.dispose.device.journal = b.device.journal ++ destroyed.map .destroyBuffer ∧
      ((createdIn commands).map Allocation.buffer).Nodup ∧
      (destroyedIn commands ++ destroyed).Perm ((createdIn commands).map Allocation.buffer) ∧
      Bare b.dispose ∧
      (∀ op, b.dispose.step op = (.error .disposed, b.dispose)) ∧
      (∀ later, (b.dispose.occurrences later).device.journal = b.dispose.device.journal) ∧
      b.dispose.dispose = b.dispose ∧ b.dispose.disposalAlerts = [] := by
  intro b
  have hdisposed : b.dispose.disposed = true := disposed_dispose b
  have hend : (∀ op, b.dispose.step op = (.error .disposed, b.dispose)) ∧
      (∀ later, (b.dispose.occurrences later).device.journal = b.dispose.device.journal) ∧
      b.dispose.dispose = b.dispose ∧ b.dispose.disposalAlerts = [] :=
    ⟨step_of_disposed hdisposed, journal_of_disposed hdisposed, dispose_of_disposed hdisposed,
      by simp [disposalAlerts, hdisposed]⟩
  cases standing_occurrences d s os with
  | live hm hb hlog =>
    rcases hlog with ⟨commands, hjournal, hlog⟩
    rcases journal_dispose hm.stocked.live hm.stocked.poolLive with ⟨buffers, hdispose, hbuffers⟩
    have hcreated := hlog.created.map Allocation.buffer
    refine ⟨commands, buffers, hjournal, fun _ => hlog.destroyed, hdispose, ?_, ?_,
      bare_dispose hm.stocked.live hm.stocked.poolLive, hend⟩
    · exact hcreated.nodup_iff.mpr hm.stocked.pool.distinct
    · rw [hlog.destroyed, List.nil_append]
      exact hbuffers.trans hcreated.symm
  | disposed h =>
    rcases h.journal with ⟨commands, hjournal, hnodup, hperm, -⟩
    have hsame : b.dispose = b := dispose_of_disposed h.disposed
    refine ⟨commands, [], hjournal, fun hlive => ?_, ?_, hnodup, ?_, ?_, hend⟩
    · rw [h.disposed] at hlive
      cases hlive
    · rw [hsame, List.map_nil, List.append_nil]
    · rwa [List.append_nil]
    · rw [hsame]
      exact h.bare

end Backend

end ComputeKernels
