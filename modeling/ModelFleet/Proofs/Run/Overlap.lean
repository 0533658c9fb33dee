import Mathlib.Logic.Function.Basic
import ModelFleet.Proofs.Run.Trail

/-!
# Cycles that overlap

Any number of cycles of one daemon run at the same time.  An `Overlap` is where all of them stand,
with the store, the nodes and the daemon that they share, and a `Move` lets one of them go on: it
begins, its request is served, one of its messages reaches a node or is answered or takes too long,
it acts on a reply, or it is dropped.  In between, others may write to the store and the nodes may
change.  `Overlap.run` makes moves one after the other, in any order.

`Overlap.Moved` lists everything that a move can do, so that what every move keeps is a case
analysis on it, and by `keeps_run` it is kept by any moves.  `Overlap.Legal` says that each cycle
has asked for what it may ask for, and `legal_run` that this is so after any moves.
-/

namespace ModelFleet

open Outside

/-! ### Messages -/

/-- What has become of a message to one node: it is under way, or it has arrived and the node waits
before it serves it, or it is answered. -/
inductive Call
  | sent
  | waiting
  | answered (result : Except ClusterError SyncResponse)

/-- Nodes that are reached by one message at a time. -/
structure Peers (γ : Type) where
  /-- The nodes that take part. -/
  members : γ → Except ClusterError (List NodeId)
  /-- What a message does that arrives at a node. -/
  arrive : NodeId → γ → γ × Call
  /-- What a message does that a node serves after the wait, and how the node answers. -/
  serve : SyncRequest → NodeId → γ → γ × Except ClusterError SyncResponse
  /-- The failure of a node that takes too long. -/
  late : NodeId → ClusterError

/-- The messages of a request to several nodes. -/
def Request.calls : Request → List (NodeId × Call)
  | .broadcast nodes _ => nodes.map fun node => (node, .sent)
  | _ => []

/-- The answer of a node, once it is there. -/
def Call.answer? (call : NodeId × Call) : Option Answer :=
  match call.2 with
  | .answered result => some (call.1, result)
  | _ => none

/-- The answers of nodes, once all of them are there. -/
def Call.answers? (calls : List (NodeId × Call)) : Option (List Answer) := calls.mapM Call.answer?

/-- What is outside when a request meets with this fate and nobody else writes. -/
def Peers.outside {γ : Type} (peers : Peers γ) (fate : Fate) : Outside γ where
  members := peers.members
  ask message cluster node := peers.serve message node cluster
  fate _ _ := fate
  meanwhile _ store := store
  time _ := .ofMillis 0

/-! ### Cycles side by side -/

/-- Where a cycle stands: it has not begun, it waits for what it has asked for, it has been replied
to, it has ended, or it was dropped.  The trail holds its requests so far with their replies. -/
inductive Phase (settings : SyncSettings)
  | idle
  | asking (cycle : Cycle) (calls : List (NodeId × Call)) (trail : List Exchange)
  | told (cycle : Cycle) (reply : (cycle.request settings).Reply) (trail : List Exchange)
  | ended (report : CycleReport) (trail : List Exchange)
  | dropped (trail : List Exchange)

/-- The cycle that is under way in a phase, with its requests so far. -/
def Phase.underWay? {settings : SyncSettings} : Phase settings → Option (Cycle × List Exchange)
  | .asking cycle _ trail | .told cycle _ trail => some (cycle, trail)
  | _ => none

/-- The cycles of a daemon, and what they share. -/
structure Overlap (settings : SyncSettings) (κ γ : Type) where
  store : MemoryStore
  cluster : γ
  daemon : Daemon
  phases : κ → Phase settings

/-- What may happen next. -/
inductive Move (κ γ : Type)
  /-- A cycle begins at this time. -/
  | start (call : κ) (now : Instant)
  /-- The request of a cycle is served, if it can be. -/
  | serve (call : κ) (fate : Fate)
  /-- A message of a cycle arrives at the node in this place of its list. -/
  | arrive (call : κ) (place : Nat)
  /-- A node serves a message of a cycle. -/
  | deliver (call : κ) (place : Nat)
  /-- A node takes too long. -/
  | expire (call : κ) (place : Nat)
  /-- A cycle acts on its reply at this time. -/
  | resume (call : κ) (now : Instant)
  /-- A cycle is dropped. -/
  | cancel (call : κ)
  /-- Others write to the store. -/
  | write (act : MemoryStore → MemoryStore)
  /-- The nodes change. -/
  | change (act : γ → γ)

namespace Overlap

variable {settings : SyncSettings} {κ γ : Type}

/-- No cycle has begun. -/
def fresh (settings : SyncSettings) (store : MemoryStore) (cluster : γ) (daemon : Daemon) :
    Overlap settings κ γ :=
  ⟨store, cluster, daemon, fun _ => .idle⟩

/-- Whether a cycle waits for its turn to look for the master key. -/
def blocks (w : Overlap settings κ γ) (cycle : Cycle) : Bool :=
  match cycle.stage with
  | .bootstrapping .queueing => w.daemon.keySought
  | _ => false

/-- What a request that is served does to the store, and the reply. -/
def serve? (peers : Peers γ) (fate : Fate) (w : Overlap settings κ γ)
    (calls : List (NodeId × Call)) : (q : Request) → Option (MemoryStore × q.Reply)
  | .broadcast .. => (Call.answers? calls).map fun answers => (w.store, answers)
  | q =>
    let (s, reply) := (peers.outside fate).answer q ⟨w.store, w.cluster, []⟩
    some (s.store, reply)

/-- What a node makes of a message. -/
def deliver? (peers : Peers γ) (w : Overlap settings κ γ) (node : NodeId) :
    Request → Option (γ × Call)
  | .broadcast _ message =>
    let (cluster, result) := peers.serve message node w.cluster
    some (cluster, .answered result)
  | _ => none

/-- What is served is a message to nodes that have all answered, or a request like any other. -/
theorem serve?_cases {peers : Peers γ} {fate : Fate} {w : Overlap settings κ γ}
    {calls : List (NodeId × Call)} {q : Request} {store : MemoryStore} {reply : q.Reply}
    (h : w.serve? peers fate calls q = some (store, reply)) :
    ((∃ nodes message, q = .broadcast nodes message) ∧ store = w.store) ∨
      store = ((peers.outside fate).answer q ⟨w.store, w.cluster, []⟩).1.store ∧
        reply = ((peers.outside fate).answer q ⟨w.store, w.cluster, []⟩).2 := by
  cases q with
  | broadcast nodes message =>
    obtain ⟨answers, -, ha⟩ := Option.map_eq_some_iff.1 h
    exact .inl ⟨⟨nodes, message, rfl⟩, (Prod.mk.inj ha).1.symm⟩
  | _ =>
    obtain ⟨hs, hr⟩ := Prod.mk.inj (Option.some.inj h)
    exact .inr ⟨hs.symm, hr.symm⟩

variable [DecidableEq κ]

/-- Lets a cycle stand somewhere else. -/
def put (w : Overlap settings κ γ) (call : κ) (phase : Phase settings) : Overlap settings κ γ :=
  { w with phases := Function.update w.phases call phase }

/-- Lets a cycle go on after a step. -/
def proceed (w : Overlap settings κ γ) (call : κ) (trail : List Exchange)
    (p : Next Cycle CycleReport × Daemon) : Overlap settings κ γ :=
  { w with daemon := p.2 }.put call
    (match p.1 with
    | .wait cycle => .asking cycle (cycle.request settings).calls trail
    | .over report => .ended report trail)

/-- Lets something become of the message in one place of a cycle's list. -/
def reach (w : Overlap settings κ γ) (call : κ) (place : Nat)
    (act : Request → NodeId → Call → Option (γ × Call)) : Overlap settings κ γ :=
  match w.phases call with
  | .asking cycle calls trail =>
    match calls[place]? with
    | none => w
    | some (node, state) =>
      match act (cycle.request settings) node state with
      | none => w
      | some (cluster, state) =>
        { w with cluster }.put call (.asking cycle (calls.set place (node, state)) trail)
  | _ => w

/-- **Makes a move**, if it is possible. -/
def move (peers : Peers γ) (w : Overlap settings κ γ) : Move κ γ → Overlap settings κ γ
  | .start call now =>
    match w.phases call with
    | .idle => w.proceed call [] (Cycle.start.run { w.daemon with clock := now })
    | _ => w
  | .serve call fate =>
    match w.phases call with
    | .asking cycle calls trail =>
      match w.serve? peers fate calls (cycle.request settings) with
      | none => w
      | some (store, reply) => { w with store }.put call (.told cycle reply trail)
    | _ => w
  | .arrive call place =>
    w.reach call place fun _ node state =>
      match state with
      | .sent => some (peers.arrive node w.cluster)
      | _ => none
  | .deliver call place =>
    w.reach call place fun q node state =>
      match state with
      | .waiting => w.deliver? peers node q
      | _ => none
  | .expire call place =>
    w.reach call place fun _ node state =>
      match state with
      | .waiting => some (w.cluster, .answered (.error (peers.late node)))
      | _ => none
  | .resume call now =>
    match w.phases call with
    | .told cycle reply trail =>
      if w.blocks cycle then w
      else
        w.proceed call (trail ++ [⟨_, reply⟩])
          ((cycle.resume settings reply).run { w.daemon with clock := now })
    | _ => w
  | .cancel call =>
    match w.phases call with
    | .asking cycle _ trail | .told cycle _ trail =>
      { w with daemon := (cycle.cancel.run w.daemon).2 }.put call (.dropped trail)
    | _ => w
  | .write act => { w with store := act w.store }
  | .change act => { w with cluster := act w.cluster }

/-- Makes moves one after the other. -/
def run (peers : Peers γ) (w : Overlap settings κ γ) (moves : List (Move κ γ)) :
    Overlap settings κ γ :=
  moves.foldl (move peers) w

theorem run_cons (peers : Peers γ) (w : Overlap settings κ γ) (m : Move κ γ)
    (rest : List (Move κ γ)) : w.run peers (m :: rest) = (w.move peers m).run peers rest := rfl

theorem run_append (peers : Peers γ) (w : Overlap settings κ γ) (earlier later : List (Move κ γ)) :
    w.run peers (earlier ++ later) = (w.run peers earlier).run peers later := List.foldl_append

/-! ### What a move does -/

/-- **Everything that a move can do.** -/
inductive Moved (peers : Peers γ) (w : Overlap settings κ γ) :
    Move κ γ → Overlap settings κ γ → Prop
  | still (m : Move κ γ) : Moved peers w m w
  | starts {call : κ} (now : Instant) (h : w.phases call = .idle) :
      Moved peers w (.start call now)
        (w.proceed call [] (Cycle.start.run { w.daemon with clock := now }))
  | serves {call : κ} {cycle : Cycle} {calls : List (NodeId × Call)} {trail : List Exchange}
      {fate : Fate} {store : MemoryStore} {reply : (cycle.request settings).Reply}
      (h : w.phases call = .asking cycle calls trail)
      (hr : w.serve? peers fate calls (cycle.request settings) = some (store, reply)) :
      Moved peers w (.serve call fate) ({ w with store }.put call (.told cycle reply trail))
  | arrives {call : κ} {cycle : Cycle} {calls : List (NodeId × Call)} {trail : List Exchange}
      {place : Nat} {node : NodeId} (h : w.phases call = .asking cycle calls trail)
      (hp : calls[place]? = some (node, .sent)) :
      Moved peers w (.arrive call place)
        ({ w with cluster := (peers.arrive node w.cluster).1 }.put call
          (.asking cycle (calls.set place (node, (peers.arrive node w.cluster).2)) trail))
  | delivers {call : κ} {cycle : Cycle} {calls : List (NodeId × Call)} {trail : List Exchange}
      {place : Nat} {node : NodeId} {nodes : List NodeId} {message : SyncRequest}
      (h : w.phases call = .asking cycle calls trail)
      (hp : calls[place]? = some (node, .waiting))
      (hq : cycle.request settings = .broadcast nodes message) :
      Moved peers w (.deliver call place)
        ({ w with cluster := (peers.serve message node w.cluster).1 }.put call
          (.asking cycle
            (calls.set place (node, .answered (peers.serve message node w.cluster).2)) trail))
  | expires {call : κ} {cycle : Cycle} {calls : List (NodeId × Call)} {trail : List Exchange}
      {place : Nat} {node : NodeId} (h : w.phases call = .asking cycle calls trail)
      (hp : calls[place]? = some (node, .waiting)) :
      Moved peers w (.expire call place)
        (w.put call
          (.asking cycle (calls.set place (node, .answered (.error (peers.late node)))) trail))
  | resumes {call : κ} {cycle : Cycle} {reply : (cycle.request settings).Reply}
      {trail : List Exchange} (now : Instant) (h : w.phases call = .told cycle reply trail) :
      Moved peers w (.resume call now)
        (w.proceed call (trail ++ [⟨_, reply⟩])
          ((cycle.resume settings reply).run { w.daemon with clock := now }))
  | cancels {call : κ} {cycle : Cycle} {trail : List Exchange}
      (h : (w.phases call).underWay? = some (cycle, trail)) :
      Moved peers w (.cancel call)
        ({ w with daemon := (cycle.cancel.run w.daemon).2 }.put call (.dropped trail))
  | writes (act : MemoryStore → MemoryStore) :
      Moved peers w (.write act) { w with store := act w.store }
  | changes (act : γ → γ) : Moved peers w (.change act) { w with cluster := act w.cluster }

variable {peers : Peers γ} {w : Overlap settings κ γ}

theorem reach_cases (w : Overlap settings κ γ) (call : κ) (place : Nat)
    (act : Request → NodeId → Call → Option (γ × Call)) :
    w.reach call place act = w ∨ ∃ cycle calls trail node state cluster state',
      w.phases call = .asking cycle calls trail ∧ calls[place]? = some (node, state) ∧
        act (cycle.request settings) node state = some (cluster, state') ∧
        w.reach call place act =
          { w with cluster }.put call (.asking cycle (calls.set place (node, state')) trail) := by
  unfold reach
  split
  · next cycle calls trail h =>
    split
    · exact .inl rfl
    · next node state hp =>
      split
      · exact .inl rfl
      · next cluster state' ha =>
        exact .inr ⟨cycle, calls, trail, node, state, cluster, state', h, hp, ha, rfl⟩
  · exact .inl rfl

theorem moved_arrive (peers : Peers γ) (w : Overlap settings κ γ) (call : κ) (place : Nat) :
    Moved peers w (.arrive call place) (w.move peers (.arrive call place)) := by
  simp only [move]
  rcases reach_cases w call place _ with
    hw | ⟨cycle, calls, trail, node, state, _, _, h, hp, ha, hw⟩
  · rw [hw]
    exact .still _
  · rw [hw]
    cases state with
    | sent =>
      obtain ⟨rfl, rfl⟩ := Prod.ext_iff.1 (Option.some.inj ha)
      exact .arrives h hp
    | waiting | answered => cases ha

theorem moved_deliver (peers : Peers γ) (w : Overlap settings κ γ) (call : κ) (place : Nat) :
    Moved peers w (.deliver call place) (w.move peers (.deliver call place)) := by
  simp only [move]
  rcases reach_cases w call place _ with
    hw | ⟨cycle, calls, trail, node, state, _, _, h, hp, ha, hw⟩
  · rw [hw]
    exact .still _
  · rw [hw]
    cases state with
    | waiting =>
      generalize hq : cycle.request settings = q at ha
      cases q with
      | broadcast nodes message =>
        cases ha
        exact .delivers h hp hq
      | _ => cases ha
    | sent | answered => cases ha

theorem moved_expire (peers : Peers γ) (w : Overlap settings κ γ) (call : κ) (place : Nat) :
    Moved peers w (.expire call place) (w.move peers (.expire call place)) := by
  simp only [move]
  rcases reach_cases w call place _ with
    hw | ⟨cycle, calls, trail, node, state, _, _, h, hp, ha, hw⟩
  · rw [hw]
    exact .still _
  · rw [hw]
    cases state with
    | waiting =>
      cases ha
      exact .expires h hp
    | sent | answered => cases ha

/-- **There is nothing else that a move can do.** -/
theorem moved (peers : Peers γ) (w : Overlap settings κ γ) (m : Move κ γ) :
    Moved peers w m (w.move peers m) := by
  cases m with
  | arrive call place => exact moved_arrive peers w call place
  | deliver call place => exact moved_deliver peers w call place
  | expire call place => exact moved_expire peers w call place
  | start call now =>
    simp only [move]
    split
    · next h => exact .starts _ h
    · exact .still _
  | serve call fate =>
    simp only [move]
    split
    · next h =>
      split
      · exact .still _
      · next hr => exact .serves h hr
    · exact .still _
  | resume call now =>
    simp only [move]
    split
    · next h =>
      split
      · exact .still _
      · exact .resumes _ h
    · exact .still _
  | cancel call =>
    simp only [move]
    split
    · next h => exact .cancels (by rw [h]; rfl)
    · next h => exact .cancels (by rw [h]; rfl)
    · exact .still _
  | write act => exact .writes act
  | change act => exact .changes act

/-- **What each move keeps, a run of them keeps.** The moves may be of a kind, which `hstep` is
told. -/
theorem keeps_run {P : Overlap settings κ γ → Prop} {moves : List (Move κ γ)}
    (hstep : ∀ m ∈ moves, ∀ w w', Moved peers w m w' → P w → P w') (hw : P w) :
    P (w.run peers moves) := by
  induction moves generalizing w with
  | nil => exact hw
  | cons m rest ih =>
    have hnext : P (w.move peers m) := hstep m (List.mem_cons_self ..) _ _ (moved peers w m) hw
    exact ih (fun m hm => hstep m (List.mem_cons_of_mem _ hm)) hnext

theorem phases_put_self (w : Overlap settings κ γ) (call : κ) (phase : Phase settings) :
    (w.put call phase).phases call = phase := Function.update_self ..

theorem phases_put_of_ne (w : Overlap settings κ γ) {call other : κ} (h : other ≠ call)
    (phase : Phase settings) : (w.put call phase).phases other = w.phases other :=
  Function.update_of_ne h ..

/-- What holds of the phase of a cycle holds after some cycle has come to stand somewhere else. -/
theorem of_put {P : Phase settings → Prop} {call other : κ} {phase : Phase settings}
    (hw : P (w.phases call)) (hp : other = call → P phase) :
    P ((w.put other phase).phases call) := by
  by_cases h : call = other
  · subst h
    rw [phases_put_self]
    exact hp rfl
  · rw [phases_put_of_ne w h]
    exact hw

theorem forall_put {P : κ → Phase settings → Prop} {call : κ} {phase : Phase settings}
    (hw : ∀ other, P other (w.phases other)) (hp : P call phase) (other : κ) :
    P other ((w.put call phase).phases other) :=
  of_put (hw other) fun h => h ▸ hp

end Overlap

/-! ### What the cycles have asked for -/

/-- A cycle has asked for what it may ask for. -/
def Phase.Legal {settings : SyncSettings} : Phase settings → Prop
  | .asking cycle _ trail | .told cycle _ trail =>
    ∃ id now, Cycle.Stands settings id now trail cycle
  | .ended report trail => ∃ id now, Cycle.Went settings id now trail (.over report)
  | _ => True

namespace Overlap

variable {settings : SyncSettings} {κ γ : Type} {w : Overlap settings κ γ}

/-- Each cycle has asked for what it may ask for. -/
def Legal (w : Overlap settings κ γ) : Prop := ∀ call, (w.phases call).Legal

theorem legal_fresh (store : MemoryStore) (cluster : γ) (daemon : Daemon) :
    Legal (fresh settings store cluster daemon : Overlap settings κ γ) := fun _ => trivial

theorem Legal.of_eq (hw : w.Legal) {call : κ} {phase : Phase settings}
    (h : w.phases call = phase) : phase.Legal := h ▸ hw call

variable [DecidableEq κ] {peers : Peers γ}

theorem legal_proceed (hw : w.Legal) (call : κ) {id : CycleId} {now : Instant}
    {trail : List Exchange} {p : Next Cycle CycleReport × Daemon}
    (hp : Cycle.Went settings id now trail p.1) : (w.proceed call trail p).Legal := by
  refine forall_put (P := fun _ phase => phase.Legal) hw ?_
  obtain ⟨cycle | report, d⟩ := p
  · exact ⟨id, now, hp⟩
  · exact ⟨id, now, hp⟩

theorem Moved.legal {m : Move κ γ} {w' : Overlap settings κ γ} (h : Moved peers w m w')
    (hw : w.Legal) : w'.Legal := by
  cases h with
  | still => exact hw
  | starts now => exact legal_proceed hw _ (Cycle.Stands.bootstrapping .start)
  | serves h | arrives h | delivers h | expires h =>
    have hcall := hw.of_eq h
    exact forall_put (P := fun _ phase => phase.Legal) hw hcall
  | resumes now h =>
    obtain ⟨id, begun, hs⟩ := hw.of_eq h
    exact legal_proceed hw _ (hs.advance (Cycle.advance _ _ _))
  | cancels => exact forall_put (P := fun _ phase => phase.Legal) hw trivial
  | writes | changes => exact hw

/-- **After any moves each cycle has asked for what it may ask for.** -/
theorem legal_run (hw : w.Legal) (moves : List (Move κ γ)) : (w.run peers moves).Legal :=
  keeps_run (fun _ _ _ _ h => h.legal) hw

end Overlap

end ModelFleet
