import ModelFleet.Proofs.Run.Course

/-!
# What a job sends

The feed drops its oldest events, so what a step has sent cannot be read off a feed that many steps
have used.  `Daemon.said` lets a step run on a feed that is empty and keeps everything.
`Daemon.Sends` says that the same goes to any other feed, and that nothing else of the step depends
on the feed; it is put together along the program like a rule for sequences.

A `Job.Chronicle` is a course of a job together with what the job has sent so far.
-/

namespace ModelFleet

/-- An event with the cycle that it belongs to, if there is one. -/
structure Notice where
  cycle : Option CycleId
  event : SyncEvent
  deriving DecidableEq

namespace Notice

/-- The event of a notice that belongs to a cycle. -/
def ownEvent? (id : CycleId) (n : Notice) : Option SyncEvent :=
  if n.cycle = some id then some n.event else none

/-- The events that belong to a cycle. -/
def ownEvents (id : CycleId) (news : List Notice) : List SyncEvent := news.filterMap (ownEvent? id)

/-- Whether notices belong to a cycle or to none. -/
def Confined (id : CycleId) (news : List Notice) : Prop :=
  ∀ n ∈ news, n.cycle = none ∨ n.cycle = some id

/-- The notices of a cycle. -/
def ofCycle (id : CycleId) (events : List SyncEvent) : List Notice := events.map (⟨some id, ·⟩)

variable {id : CycleId}

theorem ownEvents_append (a b : List Notice) :
    ownEvents id (a ++ b) = ownEvents id a ++ ownEvents id b := List.filterMap_append

theorem ownEvents_ofCycle (events : List SyncEvent) :
    ownEvents id (ofCycle id events) = events := by
  simp [ownEvents, ofCycle, List.filterMap_map, Function.comp_def, ownEvent?]

theorem ownEvents_of_none {news : List Notice} (h : ∀ n ∈ news, n.cycle = none) :
    ownEvents id news = [] := by
  rw [ownEvents, List.filterMap_eq_nil_iff]
  intro n hn
  simp [ownEvent?, h n hn]

theorem confined_ofCycle (events : List SyncEvent) : Confined id (ofCycle id events) := by
  intro n hn
  obtain ⟨event, -, rfl⟩ := List.mem_map.1 hn
  exact .inr rfl

theorem Confined.append {a b : List Notice} (ha : Confined id a) (hb : Confined id b) :
    Confined id (a ++ b) := by
  intro n hn
  rcases List.mem_append.1 hn with hn | hn
  · exact ha n hn
  · exact hb n hn

end Notice

namespace Feed

/-- Sends notices one after the other. -/
def sendAll (time : Instant) (feed : Feed) (news : List Notice) : Feed :=
  news.foldl (fun feed n => feed.emit time n.cycle n.event) feed

/-- The notices in a history. -/
def notices (feed : Feed) : List Notice := feed.history.map fun e => ⟨e.cycle, e.event⟩

theorem sendAll_append (time : Instant) (feed : Feed) (a b : List Notice) :
    feed.sendAll time (a ++ b) = (feed.sendAll time a).sendAll time b := List.foldl_append

theorem slide_zero {α : Type} (l : List α) (a : α) : slide 0 l a = l ++ [a] := by
  cases l <;> rfl

/-- A history that keeps everything has all that was sent. -/
theorem notices_sendAll (time : Instant) {feed : Feed} (h : feed.room = 0) (news : List Notice) :
    (feed.sendAll time news).notices = feed.notices ++ news := by
  induction news generalizing feed with
  | nil => exact (List.append_nil _).symm
  | cons n rest ih =>
    have hn : (feed.emit time n.cycle n.event).notices = feed.notices ++ [n] := by
      simp [notices, emit, h, slide_zero, Envelope.ofEvent]
    show (sendAll time (feed.emit time n.cycle n.event) rest).notices = _
    rw [@ih (feed.emit time n.cycle n.event) h, hn, List.append_assoc, List.singleton_append]

end Feed

namespace Daemon

variable {α β : Type}

/-- What a step sends: the history of a feed that was empty and keeps everything. -/
def said (act : StateM Daemon α) (d : Daemon) : List Notice :=
  (act.run { d with feed := .empty 0 0 }).2.feed.notices

/-- **What a step does whatever was sent before**: it gives a result, leaves the daemon in a state,
and sends these notices. -/
structure Sends (act : StateM Daemon α) (d : Daemon) (news : List Notice) (a : α) (after : Daemon) :
    Prop where
  clock : after.clock = d.clock
  run : ∀ feed, act.run { d with feed } = (a, { after with feed := feed.sendAll d.clock news })

namespace Sends

variable {act : StateM Daemon α} {d after : Daemon} {news : List Notice} {a : α}

theorem said_eq (h : Sends act d news a after) : said act d = news := by
  rw [said, h.run, Feed.notices_sendAll _ rfl]
  rfl

theorem result_eq (h : Sends act d news a after) : (act.run d).1 = a := by
  rw [show act.run d = act.run { d with feed := d.feed } from rfl, h.run]

/-- What a step sends goes to the feed of its daemon. -/
theorem feed_eq (h : Sends act d news a after) :
    (act.run d).2.feed = d.feed.sendAll d.clock (said act d) := by
  rw [h.said_eq, show act.run d = act.run { d with feed := d.feed } from rfl, h.run]

protected theorem pure (a : α) (d : Daemon) : Sends (pure a) d [] a d := ⟨rfl, fun _ => rfl⟩

/-- One step after another. -/
protected theorem bind {d' : Daemon} {goOn : α → StateM Daemon β} {news' : List Notice} {b : β}
    (h : Sends act d news a after) (g : Sends (goOn a) after news' b d') :
    Sends (act >>= goOn) d (news ++ news') b d' := by
  refine ⟨g.clock.trans h.clock, fun feed => ?_⟩
  rw [StateT.run_bind, h.run feed]
  refine (g.run (feed.sendAll d.clock news)).trans ?_
  rw [h.clock, Feed.sendAll_append]

end Sends

theorem sends_emitAll (cycle : CycleId) (events : List SyncEvent) (d : Daemon) :
    Sends (emitAll cycle events) d (Notice.ofCycle cycle events) () d := by
  refine ⟨rfl, fun feed => ?_⟩
  rw [emitAll_run, Feed.sendAll, Notice.ofCycle, List.foldl_map]

end Daemon

/-- What may come of a job and what it has sent, whatever it is replied and whatever daemon it finds
at each step.  `before` was sent when the job began. -/
inductive Job.Chronicle {σ α : Type} (job : Job σ α) (start : Next σ α) (before : List Notice) :
    List Exchange → List Notice → Next σ α → Prop
  | start : Chronicle job start before [] before start
  | step {trail : List Exchange} {notes : List Notice} {state : σ}
      (h : Chronicle job start before trail notes (.wait state))
      (reply : (job.request state).Reply) (d : Daemon) :
      Chronicle job start before (trail ++ [⟨job.request state, reply⟩])
        (notes ++ Daemon.said (job.resume state reply) d) ((job.resume state reply).run d).1

theorem Job.Chronicle.course {σ α : Type} {job : Job σ α} {start next : Next σ α}
    {before notes : List Notice} {trail : List Exchange}
    (h : Chronicle job start before trail notes next) : Course job start trail next := by
  induction h with
  | start => exact .start
  | step _ reply d ih => exact .step ih reply d

end ModelFleet
