import ComputeKernels.Proofs.Backend.Changes

/-!
# What the journal of a device tells

From the commands that a device was given one can read which buffers were created and destroyed, and
which passes were recorded and submitted.  In a session on a new backend they agree at any time with
what the backend keeps: its pool holds exactly the buffers that were created, and its open encoder
the passes that were recorded and not submitted.

Main results:

- Theorem `Timely.copy`: what comes before a copy.
- Theorem `Log.concat`: what one more command does to a log.
- Theorem `Change.logged`: every change of a backend keeps its log.
- Theorem `logged_after`: the log of a session.
-/

namespace ComputeKernels

namespace Device

/-! ## Reading commands -/

/-- The buffer that a command creates. -/
def Command.created? : Command → Option Buffer.Allocation
  | .createBuffer buffer key => some ⟨buffer, key⟩
  | _ => none

/-- The buffer that a command destroys. -/
def Command.destroyed? : Command → Option Buffer.BufferId
  | .destroyBuffer buffer => some buffer
  | _ => none

/-- The pass that a command records. -/
def Command.recorded? : Command → Option Pass
  | .record work => work.pass?
  | _ => none

/-- Passes that a command submits. -/
def Command.submitted : Command → List Pass
  | .submit work => work.filterMap Work.pass?
  | _ => []

/-- Buffers that some commands create. -/
def createdIn (commands : List Command) : List Buffer.Allocation :=
  commands.filterMap Command.created?

/-- Buffers that some commands destroy. -/
def destroyedIn (commands : List Command) : List Buffer.BufferId :=
  commands.filterMap Command.destroyed?

/-- Passes that some commands record. -/
def recordedIn (commands : List Command) : List Pass := commands.filterMap Command.recorded?

/-- Passes that some commands submit. -/
def submittedIn (commands : List Command) : List Pass := commands.flatMap Command.submitted

variable {commands commands' : List Command} {c : Command}

@[simp]
theorem createdIn_append : createdIn (commands ++ commands') =
    createdIn commands ++ createdIn commands' :=
  List.filterMap_append

@[simp]
theorem destroyedIn_append : destroyedIn (commands ++ commands') =
    destroyedIn commands ++ destroyedIn commands' :=
  List.filterMap_append

@[simp]
theorem recordedIn_append : recordedIn (commands ++ commands') =
    recordedIn commands ++ recordedIn commands' :=
  List.filterMap_append

@[simp]
theorem submittedIn_append : submittedIn (commands ++ commands') =
    submittedIn commands ++ submittedIn commands' :=
  List.flatMap_append

private theorem filterMap_singleton {α β : Type} (f : α → Option β) (a : α) :
    [a].filterMap f = (f a).toList := by
  cases h : f a <;> simp [h]

private theorem filterMap_pass?_compute (passes : List Pass) :
    (passes.map Work.compute).filterMap Work.pass? = passes := by
  induction passes with
  | nil => rfl
  | cons p passes ih => simp [Work.pass?, ih]

/-! ## Due submissions -/

/-- What may be submitted after some commands: all passes that were recorded and not submitted yet,
or, if there are none, a copy from the start of one buffer to that of another, if it fits both. -/
inductive Due (past : List Command) : List Work → Prop
  | passes (passes : List Pass) (h : recordedIn past = submittedIn past ++ passes) :
      Due past (passes.map .compute)
  | copy {source target : Buffer.Allocation} {size : Nat}
      (hpasses : recordedIn past = submittedIn past) (hsource : source ∈ createdIn past)
      (htarget : target ∈ createdIn past)
      (hsourceSize : size ≤ source.key.size) (htargetSize : size ≤ target.key.size) :
      Due past [.copy source.buffer target.buffer size]

/-- All submissions among some commands were due. -/
def Timely (commands : List Command) : Prop :=
  ∀ past work, past ++ [.submit work] <+: commands → Due past work

private theorem timely_nil : Timely [] := by
  intro past work hinitial
  simp at hinitial

/-- Commands stay timely if one more submits only what is due. -/
theorem Timely.concat (h : Timely commands) (hc : ∀ work, c = .submit work → Due commands work) :
    Timely (commands ++ [c]) := by
  intro past work hinitial
  rcases List.prefix_concat_iff.mp hinitial with hlast | hbefore
  · rcases List.append_inj' hlast rfl with ⟨rfl, hcommand⟩
    exact hc work (List.singleton_inj.mp hcommand).symm
  · exact h past work hbefore

/-- Commands that submit nothing may follow. -/
theorem Timely.append (h : Timely commands) (hnew : ∀ c ∈ commands', ∀ work, c ≠ .submit work) :
    Timely (commands ++ commands') := by
  induction commands' generalizing commands with
  | nil => rwa [List.append_nil]
  | cons c commands' ih =>
    rcases List.forall_mem_cons.mp hnew with ⟨hc, hrest⟩
    rw [List.append_cons]
    exact ih (h.concat fun work hwork => absurd hwork (hc work)) hrest

/-- When a copy is submitted, every pass that was recorded has been submitted, and the range that is
copied fits both buffers. -/
theorem Timely.copy (h : Timely commands) {past : List Command} {work : List Work}
    {source target : Buffer.BufferId} {size : Nat} (hinitial : past ++ [.submit work] <+: commands)
    (hcopy : .copy source target size ∈ work) :
    recordedIn past = submittedIn past ∧ ∃ x ∈ createdIn past, ∃ y ∈ createdIn past,
      x.buffer = source ∧ y.buffer = target ∧ size ≤ x.key.size ∧ size ≤ y.key.size := by
  cases h past work hinitial with
  | passes passes _ => simp at hcopy
  | copy hpasses hsource htarget hsourceSize htargetSize =>
    rcases Work.copy.inj (List.mem_singleton.mp hcopy) with ⟨rfl, rfl, rfl⟩
    exact ⟨hpasses, _, hsource, _, htarget, rfl, rfl, hsourceSize, htargetSize⟩

/-- A buffer that the device makes is the last thing in its journal. -/
theorem journal_of_allocate {key : Buffer.PoolKey} {buffer : Buffer.BufferId} {d d' : Device}
    (h : allocator.allocate key d = (.ok buffer, d')) :
    d'.journal = d.journal ++ [.createBuffer buffer key] := by
  simp only [allocator, createBuffer] at h
  split at h
  · cases h
  · cases h
    rfl

end Device

namespace Backend

open Tensor Buffer Device

/-! ## Logs -/

/-- Some commands agree with the pool of a backend and the passes of its open encoder, and destroy
nothing. -/
structure Log (commands : List Command) (pool : Pool) (passes : List Pass) : Prop where
  keyed : pool.shelves.Keyed
  created : (createdIn commands).Perm pool.all
  destroyed : destroyedIn commands = []
  passes : recordedIn commands = submittedIn commands ++ passes
  timely : Timely commands

/-- The commands that a device was given since some moment agree with what a backend keeps. -/
def LoggedSince (start : Device) (b : Backend) : Prop :=
  ∃ commands, b.device.journal = start.journal ++ commands ∧
    Log commands b.pool (b.encoder.getD [])

variable {commands : List Command} {pool pool' : Pool} {passes passes' : List Pass} {c : Command}

namespace Log

/-- What one more command does to a log. -/
theorem concat (h : Log commands pool passes) (hkeyed : pool'.shelves.Keyed)
    (hcreated : pool'.all.Perm (c.created?.toList ++ pool.all)) (hdestroyed : c.destroyed? = none)
    (hpasses : passes ++ c.recorded?.toList = c.submitted ++ passes')
    (hdue : ∀ work, c = .submit work → Due commands work) :
    Log (commands ++ [c]) pool' passes' where
  keyed := hkeyed
  created := by
    rw [createdIn_append, createdIn, createdIn, filterMap_singleton]
    exact (List.perm_append_comm.trans (h.created.append_left _)).trans hcreated.symm
  destroyed := by
    rw [destroyedIn_append, h.destroyed, destroyedIn, filterMap_singleton, hdestroyed]
    rfl
  passes := by
    have hsubmitted : submittedIn [c] = c.submitted := List.flatMap_singleton _ _
    rw [recordedIn_append, submittedIn_append, h.passes, recordedIn, filterMap_singleton,
      hsubmitted, List.append_assoc, List.append_assoc, hpasses]
  timely := h.timely.concat hdue

/-- A command that neither concerns buffers nor submits anything. -/
theorem concat_same (h : Log commands pool passes) (hcreated : c.created? = none)
    (hdestroyed : c.destroyed? = none) (hrecorded : c.recorded? = none)
    (hsubmit : ∀ work, c ≠ .submit work) : Log (commands ++ [c]) pool passes := by
  have hsubmitted : c.submitted = [] := by
    cases c with
    | submit work => exact absurd rfl (hsubmit work)
    | _ => rfl
  refine h.concat h.keyed ?_ hdestroyed ?_ fun work hc => absurd hc (hsubmit work)
  · rw [hcreated]
    exact .refl _
  · rw [hrecorded, hsubmitted, Option.toList_none, List.append_nil]
    rfl

private theorem harmless (h : Log commands pool passes) {new : List Command}
    (hnew : ∀ c ∈ new, c.isHarmless = true) : Log (commands ++ new) pool passes := by
  induction new generalizing commands with
  | nil => rwa [List.append_nil]
  | cons c new ih =>
    rcases List.forall_mem_cons.mp hnew with ⟨hc, hrest⟩
    rw [List.append_cons]
    refine ih (h.concat_same ?_ ?_ ?_ ?_) hrest <;> cases c <;> cases hc <;> first | rfl | nofun

private theorem with_pool (h : Log commands pool passes) (hkeyed : pool'.shelves.Keyed)
    (hall : pool'.all.Perm pool.all) : Log commands pool' passes :=
  ⟨hkeyed, h.created.trans hall.symm, h.destroyed, h.passes, h.timely⟩

end Log

/-! ## Changes -/

variable {start : Device} {op : Operation} {b b' : Backend}

/-- The command that opens an encoder for a pass, if none is open. -/
def openedFor (b : Backend) : List Command :=
  if b.encoder.isSome then [] else [.openEncoder .batch]

/-- Recording a pass opens an encoder if need be and then adds the pass to it. -/
theorem journal_recorded (r : Record) (pass : Pass) (uniform : Allocation) (b : Backend) :
    (recorded r pass uniform b).device.journal =
      b.device.journal ++ (openedFor b ++ [.record (.compute pass)]) := by
  have hdevice : (Backend.recorded r pass uniform b).device = (encode pass b).2.device := rfl
  rw [hdevice]
  unfold openedFor
  cases hencoder : b.encoder with
  | some passes =>
    simp only [encode, Action.update, hencoder]
    rfl
  | none =>
    simp only [encode, Action.update, hencoder]
    exact List.append_assoc _ _ _

namespace LoggedSince

private theorem of_eq (h : LoggedSince start b) (hjournal : b'.device.journal = b.device.journal)
    (hpool : b'.pool = b.pool) (hencoder : b'.encoder = b.encoder) : LoggedSince start b' := by
  unfold LoggedSince
  rw [hjournal, hpool, hencoder]
  exact h

/-- Commands that come after the others. -/
theorem append {new : List Command} (h : LoggedSince start b)
    (hjournal : b'.device.journal = b.device.journal ++ new)
    (hlog : ∀ commands, Log commands b.pool (b.encoder.getD []) →
      Log (commands ++ new) b'.pool (b'.encoder.getD [])) : LoggedSince start b' := by
  rcases h with ⟨commands, hbefore, h⟩
  refine ⟨commands ++ new, ?_, hlog commands h⟩
  rw [hjournal, hbefore, List.append_assoc]

private theorem handOut {key : PoolKey} {x : Allocation} {device : Device} (h : LoggedSince start b)
    (hacquire : b.pool.acquire Device.allocator b.device key = (.ok x, pool, device)) :
    LoggedSince start { b with pool, device } := by
  rcases Pool.acquire_eq_ok hacquire with ⟨-, rfl, ⟨free', hfree, rfl, rfl⟩ | ⟨-, hnew, rfl⟩⟩
  · rcases h with ⟨commands, hjournal, h⟩
    refine ⟨commands, hjournal, h.with_pool (h.keyed.set _ _) ?_⟩
    exact Pool.perm_append_of_moved (Pool.free_reuse h.keyed hfree) (Pool.inUse_reuse h.keyed)
  · refine h.append (journal_of_allocate hnew) fun commands h =>
      h.concat (h.keyed.set _ _) ?_ rfl ?_ nofun
    · exact ((Pool.free_adopt h.keyed).append (Pool.inUse_adopt h.keyed)).trans List.perm_middle
    · exact List.append_nil _

private theorem takeBack {x : Allocation} (h : LoggedSince start b)
    (hrelease : b.pool.release x = .ok pool) : LoggedSince start { b with pool } := by
  rcases h with ⟨commands, hjournal, h⟩
  have hall := Pool.all_release h.keyed hrelease
  rcases Pool.release_eq_ok hrelease with ⟨-, _, -, rfl⟩
  exact ⟨commands, hjournal, h.with_pool (h.keyed.set _ _) hall⟩

/-- A copy is due if both buffers belong to the pool and no encoder is open. -/
theorem copy {x y : Allocation} {size : Nat} (h : LoggedSince start b) (hencoder : b.encoder = none)
    (hx : x ∈ b.pool.all) (hy : y ∈ b.pool.all) (hxsize : size ≤ x.key.size)
    (hysize : size ≤ y.key.size) :
    LoggedSince start { b with device := b.device.copyOut x.buffer y.buffer size } := by
  let work := Work.copy x.buffer y.buffer size
  have hdevice : (b.device.copyOut x.buffer y.buffer size).journal =
      b.device.journal ++ [.openEncoder .readback, .record work, .submit [work]] := by
    simp [Device.copyOut, Device.submit, Device.note, work]
  refine h.append hdevice fun commands h => ?_
  rw [hencoder] at h
  have hopened : Log (commands ++ [.openEncoder .readback]) b.pool [] :=
    h.concat_same rfl rfl rfl (by simp)
  have hrecorded : Log ((commands ++ [.openEncoder .readback]) ++ [.record work]) b.pool [] :=
    hopened.concat_same rfl rfl rfl (by simp)
  have hpasses := hrecorded.passes
  rw [List.append_nil] at hpasses
  have hsubmitted : Log (((commands ++ [.openEncoder .readback]) ++ [.record work]) ++
      [.submit [work]]) b.pool [] :=
    hrecorded.concat h.keyed (.refl _) rfl rfl fun w hw => by
      obtain rfl := Command.submit.inj hw
      exact .copy hpasses (hrecorded.created.mem_iff.mpr hx) (hrecorded.created.mem_iff.mpr hy)
        hxsize hysize
  rw [hencoder]
  simpa using hsubmitted

/-- A pass comes into the encoder, which is opened if need be. -/
theorem recorded {r : Record} {pass : Pass} {uniform : Allocation} (h : LoggedSince start b) :
    LoggedSince start (recorded r pass uniform b) := by
  have hpass {commands : List Command} (h : Log commands b.pool (b.encoder.getD [])) :
      Log (commands ++ [.record (.compute pass)]) b.pool (b.encoder.getD [] ++ [pass]) :=
    h.concat h.keyed (.refl _) rfl rfl (by simp)
  have hopened {commands : List Command} (h : Log commands b.pool (b.encoder.getD [])) :
      Log (commands ++ openedFor b) b.pool (b.encoder.getD []) := by
    unfold openedFor
    split
    · rwa [List.append_nil]
    · exact h.concat_same rfl rfl rfl (by simp)
  refine h.append (journal_recorded r pass uniform b) fun commands h => ?_
  rw [← List.append_assoc]
  exact hpass (hopened h)

/-- Submitting is due. -/
theorem submit {passes : List Pass} (h : LoggedSince start b) (hencoder : b.encoder = some passes) :
    LoggedSince start (handOver passes b).2 := by
  have hjournal : (handOver passes b).2.device.journal =
      b.device.journal ++ [.submit (passes.map .compute)] := rfl
  refine h.append hjournal fun commands h => ?_
  rw [hencoder] at h
  refine h.concat h.keyed (.refl _) rfl ?_ fun work hwork => ?_
  · change passes ++ [] = (passes.map Work.compute).filterMap Work.pass? ++ []
    rw [filterMap_pass?_compute]
  · obtain rfl := Command.submit.inj hwork
    exact .passes passes h.passes

end LoggedSince

/-- Every change of a backend keeps its log. -/
theorem Change.logged (h : Change op b b') (hb : LoggedSince start b) : LoggedSince start b' := by
  cases h with
  | quiet h =>
    rcases h.journal with ⟨new, hjournal, hharmless⟩
    refine hb.append hjournal fun commands hlog => ?_
    rw [h.pool, h.encoder]
    exact hlog.harmless hharmless
  | add _ _ _ => exact hb.of_eq rfl rfl rfl
  | pair _ _ _ => exact hb.of_eq rfl rfl rfl
  | recount _ _ => exact hb.of_eq rfl rfl rfl
  | attach _ _ _ _ => exact hb.of_eq rfl rfl rfl
  | keep _ _ => exact hb.of_eq rfl rfl rfl
  | forget _ => exact hb.of_eq rfl rfl rfl
  | park _ => exact hb.of_eq rfl rfl rfl
  | finish => exact hb.of_eq rfl rfl rfl
  | handOut hacquire => exact hb.handOut hacquire
  | takeBack hrelease => exact hb.takeBack hrelease
  | fill buffer bytes =>
    have hjournal : (b.device.write buffer bytes).journal =
        b.device.journal ++ [.write buffer bytes] := rfl
    exact hb.append hjournal fun commands hlog => hlog.concat_same rfl rfl rfl nofun
  | copy hencoder hx hy hxsize hysize => exact hb.copy hencoder hx hy hxsize hysize
  | record _ _ _ => exact hb.recorded
  | submit hencoder => exact hb.submit hencoder

/-- The log of a session. -/
theorem logged_after (d : Device) (s : Config.Settings) (ops : List Operation) :
    LoggedSince d ((onDevice d s).after ops) := by
  refine kept_after (fun _ _ _ hchange h => hchange.logged h) ops (sound_onDevice d s)
    (.onDevice d s) ⟨[], (List.append_nil _).symm, ?_⟩
  exact ⟨Table.keyed_empty, .refl _, rfl, rfl, timely_nil⟩

end Backend

end ComputeKernels
