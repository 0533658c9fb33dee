import Mathlib.Data.List.DropRight
import Mathlib.Data.List.Induction
import ModelFleet.Event.Feed

/-!
# The history of a feed

A feed is handed events one after the other, at any times and from any cycles.  Those who come later
read their envelopes in the history.

* `history_emitAll` says which envelopes the history holds: the newest ones.
* `isWindow_emitAll`: a history that has room is a window of that size, which slides over the
  envelopes.  It never holds more than it has room for, and drops none before it is full.
* A history without room never finds itself full and holds everything.  It is no window of its size
  (`not_isWindow_of_no_room`), but one that grows with each event.
-/

namespace ModelFleet

/-- An event that is handed to a feed. -/
structure Emission where
  time : Instant
  cycle : Option CycleId
  event : SyncEvent

namespace Feed

/-- Sends events one after the other. -/
def emitAll (feed : Feed) (emissions : List Emission) : Feed :=
  emissions.foldl (fun feed e => feed.emit e.time e.cycle e.event) feed

/-- The envelopes of events, numbered from the first one. -/
def envelopes (emissions : List Emission) : List Envelope :=
  emissions.mapIdx fun number e => Envelope.ofEvent (.ofNat number) e.time e.cycle e.event

/-- How many of `count` envelopes a history holds. -/
def held (room count : Nat) : Nat := if room = 0 then count else min room count

/-! ## Windows -/

section Window

variable {α : Type}

theorem length_rtake (l : List α) (n : Nat) : (l.rtake n).length = min n l.length := by
  rw [List.rtake, List.length_drop]
  omega

theorem rtake_of_length_le {l : List α} {n : Nat} (h : l.length ≤ n) : l.rtake n = l := by
  rw [List.rtake, Nat.sub_eq_zero_of_le h, List.drop_zero]

theorem rtake_rtake (l : List α) (m n : Nat) : (l.rtake m).rtake n = l.rtake (min n m) := by
  simp only [List.rtake_eq_reverse_take_reverse, List.reverse_reverse, List.take_take]

/-- **A window that takes in one more envelope is the window of the longer list.** -/
theorem slide_rtake (room : Nat) (l : List α) (a : α) :
    slide room (l.rtake (held room l.length)) a =
      (l ++ [a]).rtake (held room (l ++ [a]).length) := by
  have hlength : (l ++ [a]).length = l.length + 1 := List.length_append
  rw [slide, length_rtake, held, held, List.rtake, List.rtake, hlength]
  by_cases h0 : room = 0
  · subst h0
    cases l <;> simp
  · rw [if_neg h0, if_neg h0]
    by_cases hfull : room ≤ l.length
    · -- the oldest envelope makes place for the new one
      rw [if_pos (by omega), List.drop_drop, List.drop_append_of_le_length (by omega)]
      congr 2
      omega
    · rw [if_neg (by omega), List.drop_append_of_le_length (by omega)]
      congr 2
      omega

end Window

/-! ## What the history holds -/

theorem emitAll_concat (feed : Feed) (past : List Emission) (last : Emission) :
    feed.emitAll (past ++ [last]) = (feed.emitAll past).emit last.time last.cycle last.event :=
  List.foldl_concat ..

theorem envelopes_concat (past : List Emission) (last : Emission) :
    envelopes (past ++ [last]) =
      envelopes past ++ [.ofEvent (.ofNat past.length) last.time last.cycle last.event] :=
  List.mapIdx_concat

theorem length_envelopes (emissions : List Emission) :
    (envelopes emissions).length = emissions.length := List.length_mapIdx

theorem room_emitAll (feed : Feed) (emissions : List Emission) :
    (feed.emitAll emissions).room = feed.room := by
  induction emissions using List.reverseRecOn with
  | nil => rfl
  | append_singleton past last ih => rw [emitAll_concat, emit, ih]

theorem sent_emitAll (feed : Feed) (emissions : List Emission) :
    (feed.emitAll emissions).sent = feed.sent + emissions.length := by
  induction emissions using List.reverseRecOn with
  | nil => rfl
  | append_singleton past last ih =>
    rw [emitAll_concat, emit, ih, List.length_append]
    rfl

/-- **The history holds the newest envelopes.** -/
theorem history_emitAll (room window : Nat) (emissions : List Emission) :
    ((empty room window).emitAll emissions).history =
      (envelopes emissions).rtake (held room emissions.length) := by
  induction emissions using List.reverseRecOn with
  | nil => exact (List.rtake_nil _).symm
  | append_singleton past last ih =>
    have hnumber : ((empty room window).emitAll past).sent = past.length := by
      rw [sent_emitAll]
      exact Nat.zero_add _
    have hslide := slide_rtake room (envelopes past)
      (.ofEvent (.ofNat past.length) last.time last.cycle last.event)
    rw [← envelopes_concat, length_envelopes, length_envelopes] at hslide
    rw [emitAll_concat, emit, ih, room_emitAll, hnumber]
    exact hslide

/-! ## What is read of it -/

/-- Whether a history is a window of some size on what was sent. -/
structure IsWindow (size : Nat) (feed : Feed) (sent : List Envelope) : Prop where
  /-- The newest envelopes are read, in the order in which they were sent. -/
  recent_eq : ∀ limit, feed.recent limit = sent.rtake (min limit (min size sent.length))
  bounded : feed.history.length ≤ size
  /-- None is dropped while there is room. -/
  complete : sent.length ≤ size → feed.history = sent

theorem IsWindow.of_history {size : Nat} {feed : Feed} {sent : List Envelope}
    (h : feed.history = sent.rtake (min size sent.length)) : feed.IsWindow size sent := by
  refine ⟨fun limit => ?_, ?_, fun hle => ?_⟩
  · show feed.history.rtake limit = _
    rw [h, rtake_rtake]
  · rw [h, length_rtake]
    omega
  · rw [h, rtake_of_length_le (by omega)]

/-- **A history that has room is a window of that size**; one that has no room holds everything. -/
theorem isWindow_emitAll (room window : Nat) (emissions : List Emission) :
    let feed := (empty room window).emitAll emissions
    (0 < room → feed.IsWindow room (envelopes emissions)) ∧
      (room = 0 → feed.IsWindow emissions.length (envelopes emissions)) := by
  intro feed
  have hhistory := history_emitAll room window emissions
  refine ⟨fun hroom => ?_, fun hroom => ?_⟩
  · rw [held, if_neg (by omega), ← length_envelopes emissions] at hhistory
    exact .of_history hhistory
  · rw [held, if_pos hroom] at hhistory
    apply IsWindow.of_history
    rw [hhistory, length_envelopes, Nat.min_self]

/-- A history without room still keeps what is sent. -/
theorem not_isWindow_of_no_room :
    ¬ ∀ room window emissions,
      ((empty room window).emitAll emissions).IsWindow room (envelopes emissions) := by
  intro h
  exact absurd (h 0 1 [⟨.ofMillis 0, none, .cycleStarted⟩]).bounded (by decide)

end Feed

end ModelFleet
