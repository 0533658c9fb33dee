import ModelFleet.Cycle.Run
import ModelFleet.Simulation.World

/-!
# Running a job to its end

A job says what it asks for and what it does with the reply.  This file says where the replies come
from: an `Outside` tells, for the `n`-th request, whether the store serves it, what others have
written meanwhile and what time it is, and it tells how the nodes answer.  `Outside.step` is one
step of a job, a request with its reply, and `Leads` joins steps.  A job that has ended stays as it
is, so its end is unique (`Leads.over_unique`).

`answer_eq_effect` says that a request which the store serves is replied to exactly as in a
simulation.
-/

namespace ModelFleet

/-- What becomes of a request to the store: it is served, or it fails and stores nothing, or it is a
read that misses what is there. -/
inductive Fate
  | served
  | failed (error : StoreError)
  | stale
  deriving DecidableEq

namespace Fate

/-- What a request does to the store, unless it fails. -/
def guard {α : Type} (fate : Fate) (act : MemoryStore → MemoryStore × Except StoreError α)
    (store : MemoryStore) : MemoryStore × Except StoreError α :=
  match fate with
  | failed e => (store, .error e)
  | _ => act store

theorem guard_cases {α : Type} (fate : Fate)
    (act : MemoryStore → MemoryStore × Except StoreError α) (store : MemoryStore) :
    (∃ e, fate = .failed e ∧ fate.guard act store = (store, .error e)) ∨
      fate.guard act store = act store := by
  cases fate with
  | served => exact .inr rfl
  | failed e => exact .inl ⟨e, rfl, rfl⟩
  | stale => exact .inr rfl

/-- What a read finds. -/
def fetch (fate : Fate) (collection id : String) (store : MemoryStore) :
    Except StoreError (Option Json) :=
  match fate with
  | served => .ok (store.get? collection id)
  | failed e => .error e
  | stale => .ok none

theorem get?_of_fetch {fate : Fate} {collection id : String} {store : MemoryStore} {source : Json}
    (h : fate.fetch collection id store = .ok (some source)) :
    store.get? collection id = some source := by
  cases fate with
  | served => exact Except.ok.inj h
  | failed e => cases h
  | stale => cases h

end Fate

/-- Whether a request is a bulk update. -/
def Request.isUpdate : Request → Bool
  | .update .. => true
  | _ => false

/-- What is outside a job: the nodes, what becomes of its requests, what others write, the time. -/
structure Outside (γ : Type) where
  /-- The nodes that take part. -/
  members : γ → Except ClusterError (List NodeId)
  /-- What a message does to the nodes, and how the node to which it is sent answers. -/
  ask : SyncRequest → γ → NodeId → γ × Except ClusterError SyncResponse
  /-- What becomes of the request with this number. -/
  fate : Nat → Request → Fate
  /-- What others have written before the request with this number. -/
  meanwhile : Nat → MemoryStore → MemoryStore
  /-- When the reply to the request with this number comes. -/
  time : Nat → Instant

namespace Outside

/-- The store, the nodes, and what was asked so far. -/
structure State (γ : Type) where
  store : MemoryStore
  cluster : γ
  asked : List Request

variable {γ : Type} (out : Outside γ)

/-- How the nodes answer a message that is sent to each of them. -/
def askAll (message : SyncRequest) : List NodeId → γ → γ × List Answer
  | [], cluster => (cluster, [])
  | node :: rest, cluster =>
    let (cluster, result) := out.ask message cluster node
    let (cluster, answers) := askAll message rest cluster
    (cluster, (node, result) :: answers)

/-- Each node that is asked answers once, in the order of asking. -/
theorem map_fst_askAll (message : SyncRequest) (nodes : List NodeId) (cluster : γ) :
    (out.askAll message nodes cluster).2.map (·.1) = nodes := by
  induction nodes generalizing cluster with
  | nil => rfl
  | cons node rest ih => exact congrArg (node :: ·) (ih _)

/-- Nodes on which nothing changes answer independently of each other. -/
theorem askAll_unit (out : Outside Unit) (message : SyncRequest) (nodes : List NodeId) :
    out.askAll message nodes () =
      ((), nodes.map fun node => (node, (out.ask message () node).2)) := by
  induction nodes with
  | nil => rfl
  | cons node rest ih =>
    rw [askAll]
    show ((out.askAll message rest ()).1, _ :: (out.askAll message rest ()).2) = _
    rw [ih]
    rfl

/-- The reply to a request, and what the request leaves behind. -/
def answer (q : Request) (s : State γ) : State γ × q.Reply :=
  let n := s.asked.length
  let fate := out.fate n q
  let store := out.meanwhile n s.store
  let s := { s with store, asked := s.asked ++ [q] }
  match q with
  | .turn | .file => (s, ())
  | .fetch collection id => (s, fate.fetch collection id store)
  | .create collection id source =>
    let (store, reply) := fate.guard (·.create collection id source) store
    ({ s with store }, reply)
  | .probe collection => (s, (fate.guard (fun m => (m, .ok (m.hasCollection collection))) store).2)
  | .search collection query page =>
    (s, (fate.guard (fun m => (m, m.search collection query page)) store).2)
  | .update collection items =>
    let (store, reply) := fate.guard (·.bulkUpdate collection items) store
    ({ s with store }, reply)
  | .members => (s, out.members s.cluster)
  | .broadcast nodes message =>
    let (cluster, answers) := out.askAll message nodes s.cluster
    ({ s with cluster }, answers)

/-- A request that the store serves does to it, and is replied to, as in a simulation. -/
theorem answer_eq_effect {q : Request} {e : Simulation.Effect q.Reply} (s : State γ)
    (he : Simulation.effect q = some e) (hf : out.fate s.asked.length q = .served) :
    out.answer q s =
      ({ s with
          store := (e.act (out.meanwhile s.asked.length s.store)).1
          asked := s.asked ++ [q] },
        (e.act (out.meanwhile s.asked.length s.store)).2) := by
  cases q <;> cases he <;> simp [answer, Fate.guard, Fate.fetch, hf]

/-- A document is created, or the request fails and stores nothing. -/
theorem answer_create_cases (collection id : String) (source : Json) (s : State γ) :
    ((out.meanwhile s.asked.length s.store).get? collection id = none ∧
      (out.answer (.create collection id source) s).2 = .ok () ∧
      (out.answer (.create collection id source) s).1.store =
        (out.meanwhile s.asked.length s.store).put collection id source) ∨
    ∃ e, (out.answer (.create collection id source) s).2 = .error e ∧
      (out.answer (.create collection id source) s).1.store =
        out.meanwhile s.asked.length s.store := by
  let act (m : MemoryStore) := m.create collection id source
  let store := out.meanwhile s.asked.length s.store
  let fate := out.fate s.asked.length (.create collection id source)
  show (store.get? collection id = none ∧ (fate.guard act store).2 = .ok () ∧
    (fate.guard act store).1 = store.put collection id source) ∨
    ∃ e, (fate.guard act store).2 = .error e ∧ (fate.guard act store).1 = store
  rcases fate.guard_cases act store with ⟨e, -, hg⟩ | hg
  · rw [hg]
    exact .inr ⟨e, rfl, rfl⟩
  · rw [hg]
    cases hs : store.get? collection id with
    | none => exact .inl ⟨rfl, by simp [act, MemoryStore.create, hs]⟩
    | some found => exact .inr ⟨.duplicate collection id, by simp [act, MemoryStore.create, hs]⟩

/-! ### When nothing goes wrong -/

/-- Nobody else writes, and the store serves everything, bulk updates perhaps excepted. -/
structure Quiet : Prop where
  served : ∀ n q, q.isUpdate = false → out.fate n q = .served
  alone : ∀ n store, out.meanwhile n store = store

/-- Nobody else writes the document under an identifier. -/
def Undisturbed (collection id : String) : Prop :=
  ∀ n store, (out.meanwhile n store).get? collection id = store.get? collection id

/-- The state after a request that changes nothing. -/
def State.note (s : State γ) (q : Request) : State γ := { s with asked := s.asked ++ [q] }

/-- The state after a message was sent to nodes. -/
def tell (nodes : List NodeId) (message : SyncRequest) (s : State γ) : State γ :=
  { s.note (.broadcast nodes message) with cluster := (out.askAll message nodes s.cluster).1 }

variable {out}

theorem answer_turn (h : out.Quiet) (s : State γ) : out.answer .turn s = (s.note .turn, ()) := by
  simp [answer, h.alone, State.note]

theorem answer_file (h : out.Quiet) (s : State γ) : out.answer .file s = (s.note .file, ()) := by
  simp [answer, h.alone, State.note]

theorem answer_fetch (h : out.Quiet) (collection id : String) (s : State γ) :
    out.answer (.fetch collection id) s =
      (s.note (.fetch collection id), .ok (s.store.get? collection id)) := by
  simp [answer, Fate.fetch, h.alone, h.served _ (.fetch collection id) rfl, State.note]

theorem answer_create (h : out.Quiet) (collection id : String) (source : Json) (s : State γ) :
    out.answer (.create collection id source) s =
      ({ s.note (.create collection id source) with
          store := (s.store.create collection id source).1 },
        (s.store.create collection id source).2) := by
  simp [answer, Fate.guard, h.alone, h.served _ (.create collection id source) rfl, State.note]

theorem answer_probe (h : out.Quiet) (collection : String) (s : State γ) :
    out.answer (.probe collection) s =
      (s.note (.probe collection), .ok (s.store.hasCollection collection)) := by
  simp [answer, Fate.guard, h.alone, h.served _ (.probe collection) rfl, State.note]

theorem answer_search (h : out.Quiet) (collection : String) (query : Query) (page : PageRequest)
    (s : State γ) :
    out.answer (.search collection query page) s =
      (s.note (.search collection query page), s.store.search collection query page) := by
  simp [answer, Fate.guard, h.alone, h.served _ (.search collection query page) rfl, State.note]

theorem answer_update (h : out.Quiet) (collection : String) (items : List BulkItem) (s : State γ) :
    out.answer (.update collection items) s =
      ({ s.note (.update collection items) with
          store := ((out.fate s.asked.length (.update collection items)).guard
            (·.bulkUpdate collection items) s.store).1 },
        ((out.fate s.asked.length (.update collection items)).guard
          (·.bulkUpdate collection items) s.store).2) := by
  simp [answer, h.alone, State.note]

theorem answer_members (h : out.Quiet) (s : State γ) :
    out.answer .members s = (s.note .members, out.members s.cluster) := by
  simp [answer, h.alone, State.note]

theorem answer_broadcast (h : out.Quiet) (nodes : List NodeId) (message : SyncRequest)
    (s : State γ) :
    out.answer (.broadcast nodes message) s =
      (out.tell nodes message s, (out.askAll message nodes s.cluster).2) := by
  simp [answer, h.alone, tell, State.note]

variable (out)

/-! ### Steps -/

/-- Where a job stands: what it does next, what is outside, and the daemon whose job it is. -/
structure Moment (σ α γ : Type) where
  next : Next σ α
  outside : State γ
  daemon : Daemon

variable {σ α : Type} (job : Job σ α)

/-- One step of a job, if it is not over: its request is replied to, and it acts on the reply. -/
def step (m : Moment σ α γ) : Moment σ α γ :=
  match m.next with
  | .over _ => m
  | .wait state =>
    let (outside, reply) := out.answer (job.request state) m.outside
    let (next, daemon) :=
      (job.resume state reply).run { m.daemon with clock := out.time m.outside.asked.length }
    ⟨next, outside, daemon⟩

/-- What comes of some steps of a job. -/
inductive Leads : Moment σ α γ → Moment σ α γ → Prop
  | refl (m : Moment σ α γ) : Leads m m
  | step {m m' : Moment σ α γ} (h : Leads (out.step job m) m') : Leads m m'

/-- A moment at which a job has ended. -/
abbrev Moment.ended (result : α) (outside : State γ) (daemon : Daemon) : Moment σ α γ :=
  ⟨.over result, outside, daemon⟩

/-- The moment after a step of a job. -/
abbrev Moment.after (p : Next σ α × Daemon) (outside : State γ) : Moment σ α γ :=
  ⟨p.1, outside, p.2⟩

variable {out job}

namespace Leads

/-- A step, given by its reply and by what the job does with it. -/
theorem next {state : σ} {s s' : State γ} {reply : (job.request state).Reply} {d d' : Daemon}
    {next : Next σ α} {m : Moment σ α γ} (ha : out.answer (job.request state) s = (s', reply))
    (hr : (job.resume state reply).run { d with clock := out.time s.asked.length } = (next, d'))
    (h : Leads out job ⟨next, s', d'⟩ m) : Leads out job ⟨.wait state, s, d⟩ m := by
  refine .step ?_
  simpa only [Outside.step, ha, hr] using h

theorem trans {a b c : Moment σ α γ} (h : Leads out job a b) (g : Leads out job b c) :
    Leads out job a c := by
  induction h with
  | refl => exact g
  | step _ ih => exact .step (ih g)

/-- What every step of a job keeps holds at the end of a run if it holds at the beginning. -/
theorem keeps {P : Moment σ α γ → Prop} {a b : Moment σ α γ} (h : Leads out job a b)
    (hstep : ∀ m, P m → P (out.step job m)) (ha : P a) : P b := by
  induction h with
  | refl => exact ha
  | step _ ih => exact ih (hstep _ ha)

theorem eq_of_over {result : α} {outside : State γ} {daemon : Daemon} {m : Moment σ α γ}
    (h : Leads out job (.ended result outside daemon) m) : m = .ended result outside daemon := by
  generalize hm : Moment.ended result outside daemon = start at h
  induction h with
  | refl => rfl
  | step _ ih => subst hm; exact ih rfl

/-- A job ends in one way only. -/
theorem over_unique {m : Moment σ α γ} {a b : α} {s t : State γ} {d e : Daemon}
    (h : Leads out job m (.ended a s d)) (g : Leads out job m (.ended b t e)) :
    a = b ∧ s = t ∧ d = e := by
  generalize hm : Moment.ended a s d = last at h
  induction h with
  | refl =>
    subst hm
    have := g.eq_of_over
    simp_all
  | step h ih =>
    subst hm
    cases g with
    | refl =>
      have := h.eq_of_over
      simp_all
    | step g => exact ih g rfl

end Leads

end Outside

end ModelFleet
