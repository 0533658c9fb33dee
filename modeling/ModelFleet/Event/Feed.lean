import ModelFleet.Event.Envelope

/-!
# The event feed

Events go two ways: into a history that keeps the newest ones for readers who come later, and onto a
channel that keeps the newest ones for each subscriber, who reads them in order and is told how many
it has missed.  A history whose room is zero never finds itself full and keeps everything.
-/

namespace ModelFleet

/-- The place of a subscriber: how many events had been sent before the next one it reads. -/
structure Subscription where
  next : Nat
  deriving DecidableEq, Inhabited

/-- What a subscriber finds. -/
inductive Received
  | envelope (e : Envelope)
  | lagged (missed : Nat)
  | nothing
  deriving DecidableEq

/-- The history and the channel. -/
structure Feed where
  /-- The size at which the history drops its oldest event. -/
  room : Nat
  /-- The events of the history, the oldest first. -/
  history : List Envelope
  /-- How many events the channel keeps. -/
  window : Nat
  /-- The events on the channel, the oldest first. -/
  channel : List Envelope
  /-- How many events were ever sent. -/
  sent : Nat
  deriving DecidableEq

namespace Feed

def empty (room window : Nat) : Feed := ⟨room, [], window, [], 0⟩

/-- How many events the history of a daemon has room for. -/
def defaultRoom : Nat := 256

instance : Inhabited Feed := ⟨empty defaultRoom 1⟩

/-- Adds an event to a list that drops its oldest one when it has exactly `room` of them. -/
def slide {α : Type} (room : Nat) (l : List α) (a : α) : List α :=
  (if l.length = room then l.drop 1 else l) ++ [a]

def emit (feed : Feed) (time : Instant) (cycle : Option CycleId) (event : SyncEvent) : Feed :=
  let e := Envelope.ofEvent (.ofNat feed.sent) time cycle event
  { feed with
    history := slide feed.room feed.history e
    channel := slide feed.window feed.channel e
    sent := feed.sent + 1 }

/-- The newest events of the history, the oldest first. -/
def recent (feed : Feed) (limit : Nat) : List Envelope :=
  feed.history.drop (feed.history.length - limit)

/-- A new subscription, which reads what is sent from now on. -/
def subscribe (feed : Feed) : Subscription := ⟨feed.sent⟩

def receive (feed : Feed) (s : Subscription) : Received × Subscription :=
  let first := feed.sent - feed.channel.length
  if s.next < first then (.lagged (first - s.next), ⟨first⟩)
  else
    match feed.channel[s.next - first]? with
    | some e => (.envelope e, ⟨s.next + 1⟩)
    | none => (.nothing, s)

/-- Reads everything that waits for a subscription, in at most `fuel` reads. -/
def drain (feed : Feed) : Nat → Subscription → List Received × Subscription
  | 0, s => ([], s)
  | fuel + 1, s =>
    match feed.receive s with
    | (.nothing, s) => ([], s)
    | (received, s) =>
      let (rest, s) := drain feed fuel s
      (received :: rest, s)

def receiveAll (feed : Feed) (s : Subscription) : List Received × Subscription :=
  drain feed (feed.channel.length + 2) s

end Feed

end ModelFleet
