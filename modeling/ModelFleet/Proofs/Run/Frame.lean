import ModelFleet.Proofs.Run.Outside

/-!
# What a job leaves alone

Most requests change nothing but the list of what was asked, and a document that is created changes
no collection but its own.  `Untouched` says that of a collection and of the bulk updates, so that
the stages of a cycle can be followed without looking at what they do elsewhere.
-/

namespace ModelFleet

namespace Outside

variable {γ : Type}

/-- The bulk updates that were asked for so far. -/
def State.updates (s : State γ) : List Request := s.asked.filter Request.isUpdate

/-- From one state to a later one a collection has stayed as it is, and no bulk update was asked
for. -/
structure Untouched (collection : String) (s s' : State γ) : Prop where
  documents : s'.store.collections.get? collection = s.store.collections.get? collection
  updates : s'.updates = s.updates
  later : s.asked.length ≤ s'.asked.length

namespace Untouched

variable {collection : String} {s s' s'' : State γ}

theorem trans (h : Untouched collection s s') (g : Untouched collection s' s'') :
    Untouched collection s s'' :=
  ⟨g.documents.trans h.documents, g.updates.trans h.updates, Nat.le_trans h.later g.later⟩

end Untouched

theorem State.updates_note {s : State γ} {q : Request} (h : q.isUpdate = false) :
    (s.note q).updates = s.updates := by
  simp [State.note, State.updates, h]

theorem State.length_asked_note (s : State γ) (q : Request) :
    (s.note q).asked.length = s.asked.length + 1 := by
  simp [State.note]

theorem untouched_note {collection : String} {s : State γ} {q : Request}
    (h : q.isUpdate = false) : Untouched collection s (s.note q) :=
  ⟨rfl, State.updates_note h, by simp [State.length_asked_note]⟩

theorem untouched_tell {collection : String} {out : Outside γ} {nodes : List NodeId}
    {message : SyncRequest} {s : State γ} : Untouched collection s (out.tell nodes message s) :=
  ⟨rfl, State.updates_note (q := .broadcast nodes message) rfl, by simp [tell, State.note]⟩

/-- A document that is created in another collection. -/
theorem untouched_create {collection other id : String} {source : Json} {s : State γ}
    (h : other ≠ collection) :
    Untouched collection s
      { s.note (.create other id source) with store := (s.store.create other id source).1 } := by
  refine ⟨?_, State.updates_note (q := .create other id source) rfl, by simp [State.note]⟩
  simp only [MemoryStore.create]
  split
  · rfl
  · simp [MemoryStore.put, MemoryStore.setDocuments, SortedMap.get?_insert, h.symm]

end Outside

/-! ### What the jobs of a daemon share -/

namespace Daemon

/-- Sending the events of a cycle changes nothing but the feed. -/
theorem emitAll_run (cycle : CycleId) (events : List SyncEvent) (d : Daemon) :
    (emitAll cycle events).run d =
      ((), { d with feed := events.foldl (fun f e => f.emit d.clock (some cycle) e) d.feed }) := by
  induction events generalizing d with
  | nil => rfl
  | cons event rest ih =>
    rw [emitAll]
    show (emitAll cycle rest).run _ = _
    rw [ih]
    rfl

end Daemon

end ModelFleet
