import ModelFleet.Cycle.Correction

/-!
# Reports of cycles

What a cycle has done: which nodes answered its rounds, what was undeployed, which records were
looked at and corrected, and how it ended.
-/

namespace ModelFleet

/-- What became of the second round. -/
structure RoutingOutcome where
  acknowledged : SortedSet NodeId
  failed : SortedSet NodeId
  undeployed : SortedMap NodeId (SortedSet ModelId)
  deriving DecidableEq

namespace RoutingOutcome

def empty : RoutingOutcome := ⟨∅, ∅, ∅⟩

instance : Inhabited RoutingOutcome := ⟨empty⟩

def toJson (o : RoutingOutcome) : Json :=
  .object [("acknowledged", o.acknowledged.toJson), ("failed", o.failed.toJson),
    ("undeployed", .object (o.undeployed.entries.map fun e => (e.1.text, e.2.toJson)))]

end RoutingOutcome

/-- What became of a bulk request. -/
structure BulkOutcome where
  attempted : Nat
  succeeded : Nat
  failed : List ModelId
  requestError : Option StoreError
  deriving DecidableEq, Inhabited

namespace BulkOutcome

def empty : BulkOutcome := ⟨0, 0, [], none⟩

def toJson (o : BulkOutcome) : Json :=
  .object [("attempted", .int o.attempted), ("succeeded", .int o.succeeded),
    ("failed", .arr (o.failed.map Name.toJson)),
    ("request_error", .optionalText (o.requestError.map (·.message)))]

end BulkOutcome

/-- How a cycle ended. -/
inductive Outcome
  | completed
  | noModelIndex
  | skipped
  | aborted (cause : AbortCause)
  deriving DecidableEq

def Outcome.members : Outcome → List (String × Json)
  | completed => [("outcome", .str "completed")]
  | noModelIndex => [("outcome", .str "no_model_index")]
  | skipped => [("outcome", .str "skipped")]
  | aborted cause => [("outcome", .str "aborted"), ("reason", .str cause.message)]

structure CycleReport where
  cycle : CycleId
  startedAt : Instant
  finishedAt : Instant
  outcome : Outcome
  responded : SortedSet NodeId
  failed : SortedSet NodeId
  routing : Option RoutingOutcome
  scanned : Nat
  corrections : List Correction
  bulk : Option BulkOutcome
  deriving DecidableEq

namespace CycleReport

def fresh (cycle : CycleId) (now : Instant) : CycleReport :=
  ⟨cycle, now, now, .completed, ∅, ∅, none, 0, [], none⟩

def toJson (r : CycleReport) : Json :=
  .object ([("cycle_id", r.cycle.toJson),
    ("started_at", .str (Stamp.ofInstant r.startedAt).toString),
    ("finished_at", .str (Stamp.ofInstant r.finishedAt).toString)] ++ r.outcome.members ++
    [("responded_nodes", r.responded.toJson), ("failed_nodes", r.failed.toJson),
      ("routing", (r.routing.map RoutingOutcome.toJson).getD .null),
      ("scanned", .int r.scanned), ("corrections", .arr (r.corrections.map Correction.toJson)),
      ("bulk", (r.bulk.map BulkOutcome.toJson).getD .null)])

end CycleReport

end ModelFleet
