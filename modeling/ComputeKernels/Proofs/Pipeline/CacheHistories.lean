import ComputeKernels.Pipeline.Cache
import ComputeKernels.Proofs.Table.Entries
import Mathlib.Data.List.DropRight

/-!
# Histories of a cache

What a cache holds is settled by the answers that it gave since it was last cleared: it holds the
object of every key for which a request succeeded, and nothing else.  A request is answered from them
if it can be, and otherwise runs its creation once.

Creations are numbered here by their runs, and so is what they make.  Objects that are equal were then
made by one run, and are the same object.

Main results:

- Theorem `Recorded.get`: one request keeps the cache in step with its history.
- Theorem `recorded_history`: every history of a new cache is recorded.
- Theorem `history_plain`: a plain cache is a counting one whose creations cannot fail.
- Theorem `caches_answer_from_their_history`: how each request is answered, and what is counted.
-/

namespace ComputeKernels.Pipeline

variable {κ α ε σ : Type}

/-! ## Numbered creations -/

/-- A created value with the number of the run that made it. -/
structure Object (α : Type) where
  value : α
  run : Nat
deriving DecidableEq

/-- A creation that keeps count of its runs and marks what it makes with their numbers. -/
def numbered (create : σ → Except ε α × σ) (s : σ × Nat) : Except ε (Object α) × σ × Nat :=
  ((create s.1).1.map (⟨·, s.2⟩), (create s.1).2, s.2 + 1)

/-- The same for a creation that cannot fail. -/
def numberedTotal (create : σ → α × σ) (s : σ × Nat) : Object α × σ × Nat :=
  (⟨(create s.1).1, s.2⟩, (create s.1).2, s.2 + 1)

/-- A creation that cannot fail, as one that could. -/
def total (create : σ → α × σ) (s : σ) : Except ε α × σ := (.ok (create s).1, (create s).2)

private theorem numbered_total (create : σ → α × σ) :
    numbered (ε := ε) (total create) = total (numberedTotal create) :=
  rfl

/-! ## Histories -/

/-- A use of a cache. -/
inductive Use (κ γ : Type)
  /-- Requests the object of a key, which some creation makes. -/
  | get (key : κ) (create : γ)
  | clear

/-- Whether a use is a request. -/
def Use.isGet {γ : Type} : Use κ γ → Bool
  | get _ _ => true
  | clear => false

/-- The same use with another creation. -/
def Use.map {γ δ : Type} (f : γ → δ) : Use κ γ → Use κ δ
  | get key create => get key (f create)
  | clear => clear

/-- What came of a use. -/
inductive Event (κ α : Type)
  | answered (key : κ) (object : Object α)
  | failed (key : κ)
  | cleared

namespace Event

/-- Whether the cache was cleared. -/
def clears : Event κ α → Bool
  | cleared => true
  | _ => false

/-- The key and the object of a request that succeeded. -/
def entry? : Event κ α → Option (κ × Object α)
  | answered key object => some (key, object)
  | _ => none

/-- What came of a request. -/
def ofAnswer (key : κ) : Except ε (Object α × Bool) → Event κ α
  | .ok (object, _) => answered key object
  | .error _ => failed key

private theorem ofAnswer_eq_answered_iff {key : κ} {answer : Except ε (Object α × Bool)}
    {object : Object α} :
    ofAnswer key answer = .answered key object ↔ answer.map Prod.fst = .ok object := by
  cases answer <;> simp [ofAnswer, Except.map]

end Event

/-- Keys and objects of the requests that succeeded since the cache was last cleared. -/
def known (events : List (Event κ α)) : List (κ × Object α) :=
  (events.rtakeWhile fun e => !e.clears).filterMap Event.entry?

@[simp]
theorem known_nil : known ([] : List (Event κ α)) = [] := by
  simp [known]

private theorem known_concat (events : List (Event κ α)) (e : Event κ α) :
    known (events ++ [e]) = if e.clears then [] else known events ++ e.entry?.toList := by
  cases h : e.clears <;> cases hentry : e.entry? <;> simp [known, h, hentry]

/-- A cache after some uses, with the state of its creations, the number of their runs and what came
of the uses. -/
structure History (χ κ α σ : Type) where
  cache : χ
  state : σ
  runs : Nat := 0
  events : List (Event κ α) := []

variable [DecidableEq κ]

/-- One more use of a counting cache. -/
def History.use (h : History (Cache κ (Object α)) κ α σ) :
    Use κ (σ → Except ε α × σ) → History (Cache κ (Object α)) κ α σ
  | .get key create =>
    let next := h.cache.getOrCreate key (numbered create) (h.state, h.runs)
    ⟨next.2.1, next.2.2.1, next.2.2.2, h.events ++ [.ofAnswer key next.1]⟩
  | .clear => { h with cache := h.cache.clear, events := h.events ++ [.cleared] }

/-- Uses of a new counting cache. -/
def history (s : σ) (uses : List (Use κ (σ → Except ε α × σ))) :
    History (Cache κ (Object α)) κ α σ :=
  uses.foldl History.use { cache := {}, state := s }

private theorem history_concat (s : σ) (uses : List (Use κ (σ → Except ε α × σ)))
    (use : Use κ (σ → Except ε α × σ)) : history s (uses ++ [use]) = (history s uses).use use := by
  simp [history]

/-- One more use of a plain cache. -/
def History.usePlain (h : History (Table κ (Object α)) κ α σ) :
    Use κ (σ → α × σ) → History (Table κ (Object α)) κ α σ
  | .get key create =>
    let next := getOrInsert h.cache key (numberedTotal create) (h.state, h.runs)
    ⟨next.2.1, next.2.2.1, next.2.2.2, h.events ++ [.answered key next.1]⟩
  | .clear => { h with cache := .empty, events := h.events ++ [.cleared] }

/-- Uses of a new plain cache. -/
def plainHistory (s : σ) (uses : List (Use κ (σ → α × σ))) :
    History (Table κ (Object α)) κ α σ :=
  uses.foldl History.usePlain { cache := .empty, state := s }

private theorem plainHistory_concat (s : σ) (uses : List (Use κ (σ → α × σ)))
    (use : Use κ (σ → α × σ)) :
    plainHistory s (uses ++ [use]) = (plainHistory s uses).usePlain use := by
  simp [plainHistory]

/-! ## Counting caches -/

/-- A cache is in step with its history: it holds what is known, and counts the requests and the runs
of creations. -/
structure Recorded (requests : Nat) (h : History (Cache κ (Object α)) κ α σ) : Prop where
  requests : h.cache.hits + h.cache.misses = requests
  runs : h.cache.misses = h.runs
  keyed : h.cache.table.Keyed
  found : ∀ key object, h.cache.table.get? key = some object ↔ (key, object) ∈ known h.events

namespace Recorded

variable {requests : Nat} {h : History (Cache κ (Object α)) κ α σ}

private theorem get?_eq_none (hr : Recorded requests h) {key : κ}
    (hnew : ∀ object, (key, object) ∉ known h.events) : h.cache.table.get? key = none := by
  cases hget : h.cache.table.get? key with
  | none => rfl
  | some object => exact absurd ((hr.found key object).mp hget) (hnew object)

/-- A cache holds one object for every known key. -/
theorem size_eq (hr : Recorded requests h) :
    h.cache.size = ((known h.events).map Prod.fst).dedup.length := by
  have hkeys : h.cache.table.keys.Perm ((known h.events).map Prod.fst).dedup := by
    rw [List.perm_ext_iff_of_nodup hr.keyed (List.nodup_dedup _)]
    intro key
    simp only [List.mem_dedup, List.mem_map, Prod.exists, exists_and_right, exists_eq_right]
    rw [Table.mem_keys_iff]
    exact exists_congr fun object => (hr.keyed.get?_eq_some_iff.symm).trans (hr.found key object)
  have hlength := hkeys.length_eq
  rwa [Table.keys, List.length_map] at hlength

/-- A request for a known key is answered with its object, and no creation runs. -/
theorem getOrCreate_of_known (hr : Recorded requests h) {key : κ} {object : Object α}
    (hknown : (key, object) ∈ known h.events) (create : σ → Except ε α × σ) :
    h.cache.getOrCreate key (numbered create) (h.state, h.runs) =
      (.ok (object, false), { h.cache with hits := h.cache.hits + 1 }, h.state, h.runs) := by
  simp [Cache.getOrCreate, (hr.found key object).mpr hknown]

/-- A request for a new key runs its creation once; what it makes is kept, and a failure leaves
nothing but the count. -/
theorem getOrCreate_of_new (hr : Recorded requests h) {key : κ}
    (hnew : ∀ object, (key, object) ∉ known h.events) (create : σ → Except ε α × σ) :
    h.cache.getOrCreate key (numbered create) (h.state, h.runs) =
      ((create h.state).1.map fun a => (⟨a, h.runs⟩, true),
        { h.cache with
          table := match (create h.state).1 with
            | .ok a => h.cache.table.set key ⟨a, h.runs⟩
            | .error _ => h.cache.table
          misses := h.cache.misses + 1 },
        (create h.state).2, h.runs + 1) := by
  have hget := hr.get?_eq_none hnew
  cases hcreate : (create h.state).1 <;>
    simp [Cache.getOrCreate, numbered, hget, hcreate, Except.map]

/-- One request keeps the cache in step with its history. -/
theorem get (hr : Recorded requests h) (key : κ) (create : σ → Except ε α × σ) :
    Recorded (requests + 1) (h.use (.get key create)) := by
  by_cases hknown : ∃ object, (key, object) ∈ known h.events
  · rcases hknown with ⟨object, hknown⟩
    simp only [History.use, hr.getOrCreate_of_known hknown]
    constructor
    · have hrequests := hr.requests
      simp only
      omega
    · exact hr.runs
    · exact hr.keyed
    · intro k o
      have hsame : k = key ∧ o = object → (k, o) ∈ known h.events := by
        rintro ⟨rfl, rfl⟩
        exact hknown
      simpa [known_concat, Event.ofAnswer, Event.clears, Event.entry?, hr.found] using hsame
  · have hnew : ∀ object, (key, object) ∉ known h.events := fun object hmem =>
      hknown ⟨object, hmem⟩
    have hrequests := hr.requests
    have hruns := hr.runs
    simp only [History.use, hr.getOrCreate_of_new hnew]
    cases hcreate : (create h.state).1 with
    | ok a =>
      constructor
      · simp only
        omega
      · simp only
        omega
      · exact hr.keyed.set key _
      · intro k o
        simp only [Table.get?_set]
        by_cases hk : k = key
        · subst hk
          simp [known_concat, Event.ofAnswer, Event.clears, Event.entry?, Except.map, hnew, eq_comm]
        · simp [known_concat, Event.ofAnswer, Event.clears, Event.entry?, Except.map, hk, hr.found]
    | error e =>
      constructor
      · simp only
        omega
      · simp only
        omega
      · exact hr.keyed
      · intro k o
        simp [known_concat, Event.ofAnswer, Event.clears, Event.entry?, Except.map, hr.found]

/-- Nothing is known of a cache that was just cleared. -/
theorem clear (hr : Recorded requests h) :
    Recorded requests (h.use (ε := ε) .clear) := by
  constructor
  · exact hr.requests
  · exact hr.runs
  · exact Table.keyed_empty
  · intro key object
    simp [History.use, Cache.clear, known_concat, Event.clears, Table.empty, Table.get?,
      Table.lookup]

end Recorded

/-- Every history of a new cache is recorded. -/
theorem recorded_history (s : σ) (uses : List (Use κ (σ → Except ε α × σ))) :
    Recorded (uses.countP Use.isGet) (history s uses) := by
  induction uses using List.reverseRecOn with
  | nil =>
    constructor
    · rfl
    · rfl
    · exact Table.keyed_empty
    · intro key object
      simp [history, Table.empty, Table.get?, Table.lookup]
  | append_singleton uses use ih =>
    rw [history_concat, List.countP_append]
    cases use with
    | get key create => exact ih.get key create
    | clear => exact ih.clear (ε := ε)

/-! ## Plain caches -/

/-- A plain cache answers like a counting one whose creation cannot fail. -/
theorem getOrCreate_total (c : Cache κ α) (key : κ) (create : σ → α × σ) (s : σ) :
    let plain := getOrInsert c.table key create s
    let counting := c.getOrCreate (ε := ε) key (total create) s
    counting.1.map Prod.fst = .ok plain.1 ∧ counting.2.1.table = plain.2.1 ∧
      counting.2.2 = plain.2.2 := by
  cases hget : c.table.get? key <;> simp [getOrInsert, Cache.getOrCreate, total, hget, Except.map]

/-- The history of a counting cache without the counts. -/
def History.plain (h : History (Cache κ (Object α)) κ α σ) : History (Table κ (Object α)) κ α σ :=
  { h with cache := h.cache.table }

/-- One more use of a plain cache is one of a counting cache with the counts left out. -/
theorem plain_use (h : History (Cache κ (Object α)) κ α σ) (use : Use κ (σ → α × σ)) :
    (h.use (use.map (total (ε := ε)))).plain = h.plain.usePlain use := by
  cases use with
  | get key create =>
    have htotal := getOrCreate_total (ε := ε) h.cache key (numberedTotal create) (h.state, h.runs)
    rcases htotal with ⟨hanswer, htable, hstate⟩
    have hevent : Event.ofAnswer key
        (h.cache.getOrCreate (ε := ε) key (total (numberedTotal create)) (h.state, h.runs)).1 =
          .answered key
            (getOrInsert h.cache.table key (numberedTotal create) (h.state, h.runs)).1 := by
      rw [Event.ofAnswer_eq_answered_iff, hanswer]
    simp only [History.use, Use.map, History.plain, History.usePlain, numbered_total, htable, hstate,
      hevent]
  | clear => rfl

/-- A plain cache is a counting one whose creations cannot fail. -/
theorem history_plain (s : σ) (uses : List (Use κ (σ → α × σ))) :
    plainHistory s uses = (history (ε := ε) s (uses.map (Use.map total))).plain := by
  induction uses using List.reverseRecOn with
  | nil => rfl
  | append_singleton uses use ih =>
    rw [plainHistory_concat, List.map_append, List.map_singleton, history_concat, ih, plain_use]

/-! ## Answers from the history -/

/-- After any uses of a new counting cache, a request for a known key is a hit that answers with the
known object and runs nothing.  Any other request runs its creation once: its error is answered and
nothing is kept, and what it makes is answered and kept under the key.  Hits and misses are the
requests, misses the runs of creations, and the cache holds as many objects as keys are known.  A
plain cache does the same without counts and failures. -/
theorem caches_answer_from_their_history (s : σ) (uses : List (Use κ (σ → Except ε α × σ)))
    (plainUses : List (Use κ (σ → α × σ))) :
    let h := history s uses
    let p := plainHistory s plainUses
    (h.cache.hits + h.cache.misses = uses.countP Use.isGet ∧ h.cache.misses = h.runs ∧
      h.cache.size = ((known h.events).map Prod.fst).dedup.length ∧
      ∀ (key : κ) (create : σ → Except ε α × σ),
        let next := h.cache.getOrCreate key (numbered create) (h.state, h.runs)
        (∀ object, (key, object) ∈ known h.events → next =
          (.ok (object, false), { h.cache with hits := h.cache.hits + 1 }, h.state, h.runs)) ∧
        ((∀ object, (key, object) ∉ known h.events) → next =
          ((create h.state).1.map fun a => (⟨a, h.runs⟩, true),
            { h.cache with
              table := match (create h.state).1 with
                | .ok a => h.cache.table.set key ⟨a, h.runs⟩
                | .error _ => h.cache.table
              misses := h.cache.misses + 1 },
            (create h.state).2, h.runs + 1))) ∧
    (p.cache.size = ((known p.events).map Prod.fst).dedup.length ∧
      ∀ (key : κ) (create : σ → α × σ),
        let next := getOrInsert p.cache key (numberedTotal create) (p.state, p.runs)
        (∀ object, (key, object) ∈ known p.events →
          next = (object, p.cache, p.state, p.runs)) ∧
        ((∀ object, (key, object) ∉ known p.events) → next =
          (⟨(create p.state).1, p.runs⟩, p.cache.set key ⟨(create p.state).1, p.runs⟩,
            (create p.state).2, p.runs + 1))) := by
  intro h p
  have hr : Recorded (uses.countP Use.isGet) h := recorded_history s uses
  refine ⟨⟨hr.requests, hr.runs, hr.size_eq, fun key create => ⟨fun object hknown =>
    hr.getOrCreate_of_known hknown create, fun hnew => hr.getOrCreate_of_new hnew create⟩⟩, ?_⟩
  have hp : Recorded _ (history (ε := ε) s (plainUses.map (Use.map total))) :=
    recorded_history s _
  have hplain : p = (history (ε := ε) s (plainUses.map (Use.map total))).plain :=
    history_plain s plainUses
  rw [hplain]
  refine ⟨hp.size_eq, fun key create => ⟨fun object hknown => ?_, fun hnew => ?_⟩⟩
  · have hget := (hp.found key object).mpr hknown
    simp [getOrInsert, History.plain, hget]
  · have hget := hp.get?_eq_none hnew
    simp [getOrInsert, History.plain, numberedTotal, hget]

end ComputeKernels.Pipeline
