import ComputeKernels.Proofs.Backend.Ownership
import ComputeKernels.Proofs.Failures

/-!
# Where actions lead

An action leads from a moment to a condition if it is carried out in moves and the condition holds of
its value and of the moment after the last move.  An action that fails holds at the end what it is
said to keep, and its failure is not that of giving back a buffer that is not handed out.

Main results:

- Theorem `Leads.bind`: actions lead on from where the actions before them lead.
- Theorem `Leads.lasting`: where an action leads, tensors that are still there still hold a buffer if
  they did before.
-/

namespace ComputeKernels.Backend

open Tensor Buffer

/-! ## Actions in sequence -/

section Sequence

variable {α β : Type} {x : Action α} {f : α → Action β} {b b' : Backend}

/-- An action goes on with the answer of its first step. -/
theorem Action.bind_apply_ok {a : α} (h : x b = (.ok a, b')) : (x >>= f) b = f a b' := by
  simp only [bind, ExceptT.bind, ExceptT.mk, StateT.bind, h, ExceptT.bindCont]

/-- An action fails if its first step does. -/
theorem Action.bind_apply_error {e : KernelError} (h : x b = (.error e, b')) :
    (x >>= f) b = (.error e, b') := by
  simp only [bind, ExceptT.bind, ExceptT.mk, StateT.bind, h, ExceptT.bindCont]
  rfl

/-- Choosing another answer in the end changes nothing else. -/
theorem snd_bind_pure (x : Action α) (g : α → β) (b : Backend) :
    ((x >>= fun a => (pure (g a) : Action β)) b).2 = (x b).2 := by
  cases hresult : x b with
  | mk r b' =>
    cases r with
    | error e => rw [Action.bind_apply_error hresult]
    | ok a =>
      rw [Action.bind_apply_ok hresult]
      rfl

end Sequence

/-- A backend that is not disposed is live. -/
theorem Action.live_apply {b : Backend} (h : b.disposed = false) : Action.live b = (.ok (), b) := by
  simp [Action.live, h]

/-- Changing the record of a live tensor puts the new record in its place. -/
theorem Action.modify_apply {b : Backend} {id : TensorId} {r : Record} {f : Record → Record}
    (hget : b.tensors.get id = .ok r) :
    Action.modify id f b = (.ok (), { b with tensors := b.tensors.put id (f r) }) := by
  have hmodify : b.tensors.modify id f = .ok (b.tensors.put id (f r)) := by
    rw [Registry.modify, hget]
    rfl
  simp only [Action.modify, hmodify]

/-- A pool that refuses a buffer of the device stays as it was, and so does the device. -/
theorem acquire_refused {p p' : Pool} {d d' : Device} {key : PoolKey} {e : KernelError}
    (h : p.acquire Device.allocator d key = (.error e, p', d')) :
    e.isUntracked = false ∧ p' = p ∧ d' = d := by
  rcases Pool.acquire_eq_error h with ⟨rfl, ⟨rfl, -, rfl⟩ | hrefused⟩
  · exact ⟨rfl, rfl, rfl⟩
  · rcases Device.allocate_eq_error hrefused with ⟨rfl, rfl⟩
    exact ⟨rfl, rfl, rfl⟩

/-! ## Leading to a condition -/

variable {α β : Type} {op : Operation} {kept held : List Allocation} {b b' : Backend}
  {m m' : Moment} {post mid : α → Moment → Prop} {post' : β → Moment → Prop}

/-- The result of an action is reached in moves.  If it is a value, the condition holds of it and of
the last moment; if it is a failure, it is ordinary, and the operation holds what it should keep. -/
def Leads (op : Operation) (kept : List Allocation) (m : Moment)
    (result : Except KernelError α × Backend) (post : α → Moment → Prop) : Prop :=
  ∃ t m', Trail op m t m' ∧ m'.backend = result.2 ∧
    (∀ a, result.1 = .ok a → post a m') ∧
    (∀ e, result.1 = .error e → e.isUntracked = false ∧ m'.held = kept)

namespace Leads

/-- An answer is reached without a move. -/
theorem pure {a : α} (h : post a m) : Leads op kept m (.ok a, m.backend) post := by
  refine ⟨[], m, .nil m, rfl, fun a' ha' => ?_, fun e he => nomatch he⟩
  obtain rfl := Except.ok.inj ha'
  exact h

/-- An ordinary failure is reached without a move if the operation holds what it should. -/
theorem fail {e : KernelError} (he : e.isUntracked = false) (hheld : m.held = kept) :
    Leads op kept m (.error e, m.backend) post := by
  refine ⟨[], m, .nil m, rfl, fun a ha => (nomatch ha), fun e' he' => ?_⟩
  obtain rfl := Except.error.inj he'
  exact ⟨he, hheld⟩

/-- An answer is reached by one move. -/
theorem of_move {e : Event} {a : α} {held' : List Allocation} (hmove : Move op m e ⟨b', held'⟩)
    (hpost : post a ⟨b', held'⟩) : Leads op kept m (.ok a, b') post := by
  refine ⟨[(m, e)], _, .cons hmove (.nil _), rfl, fun a' ha' => ?_, fun e he => nomatch he⟩
  obtain rfl := Except.ok.inj ha'
  exact hpost

/-- A computation is reached without a move. -/
theorem of_computation {r : Except KernelError α} (hr : FailsOrdinarily r) (hpost : m.held = kept) :
    Leads op kept m (r, m.backend) fun _ m' => m'.held = kept := by
  cases r with
  | ok a => exact pure hpost
  | error e => exact fail (hr e rfl) hpost

/-- A quiet step is one move. -/
theorem of_quiet {result : Except KernelError α} (hquiet : Quiet b b')
    (hresult : FailsOrdinarily result) :
    Leads op held ⟨b, held⟩ (result, b') fun _ m' => m'.held = held ∧ Quiet b m'.backend := by
  refine ⟨[(⟨b, held⟩, .other)], ⟨b', held⟩, .cons (.quiet hquiet) (.nil _), rfl, ?_, ?_⟩
  · exact fun _ _ => ⟨rfl, hquiet⟩
  · exact fun e he => ⟨hresult e he, rfl⟩

/-- A move before an action. -/
theorem after_move {e : Event} {result : Except KernelError α × Backend} (hmove : Move op m e m')
    (h : Leads op kept m' result post) : Leads op kept m result post := by
  rcases h with ⟨t, m'', htrail, hbackend, hok, herror⟩
  exact ⟨_, m'', .cons hmove htrail, hbackend, hok, herror⟩

/-- Several moves before an action. -/
theorem after_trail {t : List (Moment × Event)} {result : Except KernelError α × Backend}
    (htrail : Trail op m t m') (h : Leads op kept m' result post) : Leads op kept m result post := by
  induction htrail with
  | nil m => exact h
  | cons hmove _ ih => exact .after_move hmove (ih h)

/-- What leads to one condition leads to a weaker one. -/
theorem mono {result : Except KernelError α × Backend} (h : Leads op kept m result mid)
    (hpost : ∀ a m', mid a m' → post a m') : Leads op kept m result post := by
  rcases h with ⟨t, m', htrail, hbackend, hok, herror⟩
  exact ⟨t, m', htrail, hbackend, fun a ha => hpost a m' (hok a ha), herror⟩

/-- A failure leads nowhere else. -/
theorem of_error {e : KernelError} (h : Leads op kept m (.error e, b') mid) :
    Leads op kept m (.error e, b') post' := by
  rcases h with ⟨t, m', htrail, hbackend, -, herror⟩
  refine ⟨t, m', htrail, hbackend, fun a ha => (nomatch ha), fun e' he' => ?_⟩
  obtain rfl := Except.error.inj he'
  exact herror e rfl

/-- From a value the moves go on. -/
theorem of_ok {a : α} {result : Except KernelError β × Backend} (hm : Sound m)
    (h : Leads op kept m (.ok a, b') mid)
    (hnext : ∀ held', Sound ⟨b', held'⟩ → mid a ⟨b', held'⟩ →
      Leads op kept ⟨b', held'⟩ result post') : Leads op kept m result post' := by
  rcases h with ⟨t, ⟨_, held'⟩, htrail, rfl, hok, -⟩
  obtain ⟨t', m'', htrail', hbackend', hok', herror'⟩ :=
    hnext held' (htrail.sound hm) (hok a rfl)
  exact ⟨t ++ t', m'', htrail.append htrail', hbackend', hok', herror'⟩

/-- Actions lead on from where the actions before them lead. -/
theorem bind {x : Action α} {f : α → Action β} (hm : Sound m)
    (hx : Leads op kept m (x m.backend) mid)
    (hf : ∀ a b' held', Sound ⟨b', held'⟩ → mid a ⟨b', held'⟩ →
      Leads op kept ⟨b', held'⟩ (f a b') post') :
    Leads op kept m ((x >>= f) m.backend) post' := by
  cases hresult : x m.backend with
  | mk r b' =>
    rw [hresult] at hx
    cases r with
    | error e =>
      rw [Action.bind_apply_error hresult]
      exact hx.of_error
    | ok a =>
      rw [Action.bind_apply_ok hresult]
      exact hx.of_ok hm (hf a b')

/-- The value of an action may be changed afterwards. -/
theorem map {x : Action α} {g : α → β} {goal : Moment → Prop} (hm : Sound m)
    (hx : Leads op kept m (x m.backend) fun _ m' => goal m') :
    Leads op kept m ((g <$> x) m.backend) fun _ m' => goal m' :=
  bind hm hx fun _ b' held' _ hgoal => pure (m := ⟨b', held'⟩) hgoal

/-- Or it may be dropped. -/
theorem discard {x : Action α} {goal : Moment → Prop} (hm : Sound m)
    (hx : Leads op kept m (x m.backend) fun _ m' => goal m') :
    Leads op kept m ((Functor.discard x : Action PUnit) m.backend) fun _ m' => goal m' :=
  map hm hx

/-! ## First steps of an action -/

variable {f : α → Action β} {a : α}

/-- A first step whose effect is part of a later move. -/
theorem bind_to {x : Action α} (hx : x b = (.ok a, b')) (hf : Leads op kept m (f a b') post') :
    Leads op kept m ((x >>= f) b) post' := by
  rw [Action.bind_apply_ok hx]
  exact hf

/-- A first step that changes nothing. -/
theorem bind_ok {x : Action α} (hx : x b = (.ok a, b))
    (hf : Leads op kept ⟨b, held⟩ (f a b) post') : Leads op kept ⟨b, held⟩ ((x >>= f) b) post' :=
  bind_to hx hf

/-- A first step that fails and changes nothing. -/
theorem bind_error {x : Action α} {e : KernelError} (hx : x b = (.error e, b))
    (he : e.isUntracked = false) (hheld : held = kept) :
    Leads op kept ⟨b, held⟩ ((x >>= f) b) post' := by
  rw [Action.bind_apply_error hx]
  exact fail (m := ⟨b, held⟩) he hheld

/-- A first step that is one move. -/
theorem bind_move {x : Action α} {e : Event} {held' : List Allocation} (hx : x b = (.ok a, b'))
    (hmove : Move op ⟨b, held⟩ e ⟨b', held'⟩) (hf : Leads op kept ⟨b', held'⟩ (f a b') post') :
    Leads op kept ⟨b, held⟩ ((x >>= f) b) post' :=
  bind_to hx (after_move hmove hf)

/-- A first step that is taken from a computation without a state. -/
theorem bind_of {r : Except KernelError α} (hr : FailsOrdinarily r) (hheld : held = kept)
    (hf : ∀ a, r = .ok a → Leads op kept ⟨b, held⟩ (f a b) post') :
    Leads op kept ⟨b, held⟩ ((Action.of r >>= f) b) post' := by
  cases r with
  | error e => exact bind_error rfl (hr e rfl) hheld
  | ok a => exact bind_ok rfl (hf a rfl)

/-- A first step that looks up a tensor. -/
theorem bind_record {f : Record → Action β} {id : TensorId} (hheld : held = kept)
    (hf : ∀ r, b.tensors.get id = .ok r → Leads op kept ⟨b, held⟩ (f r b) post') :
    Leads op kept ⟨b, held⟩ ((Action.record id >>= f) b) post' := by
  cases hget : b.tensors.get id with
  | error e =>
    refine bind_error ?_ (failsOrdinarily_get _ _ e hget) hheld
    exact congrArg (·, b) hget
  | ok r => exact bind_ok (congrArg (·, b) hget) (hf r hget)

/-- A first step that counts an event. -/
theorem bind_count {f : Unit → Action β} {e : Metrics.Event}
    (hf : ∀ b', Quiet b b' → Leads op kept ⟨b', held⟩ (f () b') post') :
    Leads op kept ⟨b, held⟩ ((Action.count e >>= f) b) post' := by
  have hquiet : Quiet b { b with metrics := b.metrics.count e } :=
    .of_commands [] (List.forall_mem_nil _) ⟨_, _, _, rfl⟩
  exact bind_move rfl (.quiet hquiet) (hf _ hquiet)

/-- A first step that takes a buffer from the pool. -/
theorem bind_acquire {f : Allocation → Action β} {key : PoolKey} (hheld : held = kept)
    (hf : ∀ x pool device, b.pool.acquire Device.allocator b.device key = (.ok x, pool, device) →
      Leads op kept ⟨{ b with pool, device }, x :: held⟩ (f x { b with pool, device }) post') :
    Leads op kept ⟨b, held⟩ ((Action.acquire key >>= f) b) post' := by
  obtain ⟨r, pool, device, hacquire⟩ : ∃ r pool device,
      b.pool.acquire Device.allocator b.device key = (r, pool, device) := ⟨_, _, _, rfl⟩
  have hx : Action.acquire key b = (r, { b with pool, device }) := by
    simp only [Action.acquire, hacquire]
  cases r with
  | ok x => exact .bind_move hx (.handOut hacquire) (hf x pool device hacquire)
  | error e =>
    rcases acquire_refused hacquire with ⟨hordinary, rfl, rfl⟩
    exact .bind_error hx hordinary hheld

/-- A first step that makes sure that the backend is not disposed of. -/
theorem bind_live {f : Unit → Action β} (hm : Sound ⟨b, held⟩)
    (hf : Leads op kept ⟨b, held⟩ (f () b) post') :
    Leads op kept ⟨b, held⟩ ((Action.live >>= f) b) post' :=
  bind_ok (Action.live_apply hm.stocked.live) hf

end Leads

/-! ## Lasting buffers -/

/-- Tensors that are still there hold a buffer if they did before. -/
structure Lasting (b b' : Backend) : Prop where
  next_le : b.tensors.next ≤ b'.tensors.next
  resource : ∀ id r', b'.tensors.get id = .ok r' → id.number < b.tensors.next →
    ∃ r, b.tensors.get id = .ok r ∧ (r'.resource = none → r.resource = none)

namespace Lasting

variable {b'' : Backend} {id : TensorId} {r r' : Record}

/-- Tensors last where the registry stays the same. -/
theorem of_eq (h : b'.tensors = b.tensors) : Lasting b b' where
  next_le := Nat.le_of_eq (congrArg Registry.next h).symm
  resource := by
    intro id r' hget _
    rw [h] at hget
    exact ⟨r', hget, fun hnone => hnone⟩

/-- Tensors last step by step. -/
theorem trans (h : Lasting b b') (h' : Lasting b' b'') : Lasting b b'' where
  next_le := Nat.le_trans h.next_le h'.next_le
  resource := by
    intro id r'' hget hlt
    rcases h'.resource id r'' hget (Nat.lt_of_lt_of_le hlt h.next_le) with ⟨r', hget', hresource'⟩
    rcases h.resource id r' hget' hlt with ⟨r, hget, hresource⟩
    exact ⟨r, hget, fun hnone => hresource (hresource' hnone)⟩

private theorem insert (h : b'.tensors = (b.tensors.insert r).2) : Lasting b b' where
  next_le := by rw [h]; exact Nat.le_succ _
  resource := by
    intro id r' hget hlt
    have hold : id ≠ ⟨b.tensors.next⟩ := by
      rintro rfl
      exact Nat.lt_irrefl _ hlt
    rw [h, Registry.get_insert, if_neg hold] at hget
    exact ⟨r', hget, fun hnone => hnone⟩

private theorem put (hget : b.tensors.get id = .ok r)
    (hresource : r'.resource = none → r.resource = none)
    (h : b'.tensors = b.tensors.put id r') : Lasting b b' where
  next_le := Nat.le_of_eq (congrArg Registry.next h).symm
  resource := by
    intro id' found hfound _
    rw [h, Registry.get_put] at hfound
    split at hfound
    · next hsame =>
      obtain rfl := Except.ok.inj hfound
      exact ⟨r, hsame ▸ hget, hresource⟩
    · exact ⟨found, hfound, fun hnone => hnone⟩

private theorem remove (id : TensorId) (h : b'.tensors = (b.tensors.remove id).2) :
    Lasting b b' where
  next_le := Nat.le_of_eq (congrArg Registry.next h).symm
  resource := by
    intro id' found hfound _
    rw [h, Registry.get_remove] at hfound
    split at hfound
    · cases hfound
    · exact ⟨found, hfound, fun hnone => hnone⟩

end Lasting

/-- Tensors last through every move. -/
theorem Move.lasting {e : Event} (h : Move op m e m') : Lasting m.backend m'.backend := by
  cases h with
  | quiet h => exact .of_eq h.tensors
  | add _ _ => exact .insert rfl
  | amend hget _ _ hresource _ => exact .put hget (fun hnone => hresource ▸ hnone) rfl
  | forget _ _ => exact .remove _ rfl
  | defer id => exact .of_eq rfl
  | finish => exact .of_eq rfl
  | handOut _ => exact .of_eq rfl
  | takeBack _ => exact .of_eq rfl
  | fill _ _ => exact .of_eq rfl
  | copy _ _ _ => exact .of_eq rfl
  | upload hget _ _ _ _ _ => exact .put hget (fun hnone => by cases hnone) rfl
  | record _ _ _ _ _ _ _ _ _ => exact .insert recorded_tensors
  | submit _ => exact .of_eq rfl

/-- Tensors last through every trail. -/
theorem Trail.lasting {t : List (Moment × Event)} (h : Trail op m t m') :
    Lasting m.backend m'.backend := by
  induction h with
  | nil m => exact .of_eq rfl
  | cons hmove _ ih => exact hmove.lasting.trans ih

/-- Where an action leads, tensors that are still there still hold a buffer if they did before. -/
theorem Leads.lasting {result : Except KernelError α × Backend} (h : Leads op kept m result post) :
    Leads op kept m result fun a m' => post a m' ∧ Lasting m.backend m'.backend := by
  rcases h with ⟨t, m', htrail, hbackend, hok, herror⟩
  exact ⟨t, m', htrail, hbackend, fun a ha => ⟨hok a ha, htrail.lasting⟩, herror⟩

end ComputeKernels.Backend
