import Mathlib.Data.List.Nodup
import ModelFleet.Cycle.Write
import ModelFleet.Proofs.Run.Notices

/-!
# What the answer to a bulk request makes of corrections

A store answers a bulk request with items, and nothing says that there is one for each correction,
in their order, or once only.  What is reported of a correction depends on what the answer says
under the identifier of its model.

* `Reports` says what an outcome and its events look like when certain corrections are refused.
* `reports_unless_refused`: a correction counts as written unless some item refuses it, and so, where
  the answer has an item for it at all, only if the answer confirms it.
* An answer may also say nothing about a correction, which then counts as written without being
  confirmed (`not_reports_only_confirmed`).
-/

namespace ModelFleet

namespace BulkResponse

variable (response : BulkResponse) (id : String)

/-- Whether some item is about a document. -/
def mentions : Bool := response.items.any fun item => item.id = id

/-- Whether some item says that a document was not updated. -/
def refuses : Bool := response.items.any fun item => item.id = id ∧ item.error.isSome

/-- Whether some item says that a document was updated, and none says that it was not. -/
def confirms : Bool :=
  (response.items.any fun item => item.id = id ∧ item.error = none) && !response.refuses id

variable {response id}

theorem confirms_of_mentions (hm : response.mentions id = true)
    (hr : response.refuses id = false) : response.confirms id = true := by
  obtain ⟨item, hi, hid⟩ := List.any_eq_true.1 hm
  have hnot := List.any_eq_false.1 hr item hi
  have he : item.error = none := by
    cases he : item.error with
    | none => rfl
    | some e => exact absurd (decide_eq_true ⟨of_decide_eq_true hid, he ▸ rfl⟩) hnot
  rw [confirms, hr, Bool.not_false, Bool.and_true]
  exact List.any_eq_true.2 ⟨item, hi, decide_eq_true ⟨of_decide_eq_true hid, he⟩⟩

theorem mem_failures {e : StoreError} :
    (id, e) ∈ response.failures ↔ ∃ item ∈ response.items, item.id = id ∧ item.error = some e := by
  simp only [failures, List.mem_filterMap, Option.map_eq_some_iff, Prod.mk.injEq]
  constructor
  · rintro ⟨item, hi, e', he, rfl, rfl⟩
    exact ⟨item, hi, rfl, he⟩
  · rintro ⟨item, hi, rfl, he⟩
    exact ⟨item, hi, e, he, rfl, rfl⟩

end BulkResponse

def Daemon.announce (d : Daemon) (cycle : CycleId) (events : List SyncEvent) : Daemon :=
  { d with feed := d.feed.sendAll d.clock (Notice.ofCycle cycle events) }

/-- The event of a correction that was written. -/
def Correction.written (c : Correction) : SyncEvent :=
  .modelStateCorrected c.model c.fromState c.toState c.fromCount c.toCount

namespace Write

variable {response : BulkResponse} {c : Correction}

/-! ## Errors of a response -/

theorem exists_of_errorOf {e : StoreError} (h : errorOf response c = some e) :
    ∃ item ∈ response.items, item.id = c.model.text ∧ item.error = some e := by
  obtain ⟨failure, hf, rfl⟩ := Option.map_eq_some_iff.1 h
  obtain ⟨hm, hid⟩ := List.mem_filter.1 (List.mem_of_getLast? hf)
  rw [← BulkResponse.mem_failures, ← of_decide_eq_true hid]
  exact hm

theorem errorOf_eq_none_iff :
    errorOf response c = none ↔ response.refuses c.model.text = false := by
  rw [errorOf, Option.map_eq_none_iff, List.getLast?_eq_none_iff, List.filter_eq_nil_iff,
    BulkResponse.refuses, List.any_eq_false]
  constructor
  · intro h item hi hr
    obtain ⟨hid, he⟩ := of_decide_eq_true hr
    obtain ⟨e, he⟩ := Option.isSome_iff_exists.1 he
    exact h (c.model.text, e) (BulkResponse.mem_failures.2 ⟨item, hi, hid, he⟩)
      (decide_eq_true rfl)
  · rintro h ⟨id, e⟩ hf hid
    obtain ⟨item, hi, rfl, he⟩ := BulkResponse.mem_failures.1 hf
    exact h item hi (decide_eq_true ⟨of_decide_eq_true hid, Option.isSome_iff_exists.2 ⟨e, he⟩⟩)

/-- Where no two items are about the same document, the error of an item is reported. -/
theorem errorOf_of_mem (hn : (response.items.map (·.id)).Nodup) {item : BulkResult}
    (hi : item ∈ response.items) (hid : item.id = c.model.text) :
    errorOf response c = item.error := by
  have heq {other : BulkResult} (ho : other ∈ response.items) (hoid : other.id = c.model.text) :
      other = item := List.inj_on_of_nodup_map hn ho hi (hoid.trans hid.symm)
  cases he : errorOf response c with
  | some e =>
    obtain ⟨other, ho, hoid, hoe⟩ := exists_of_errorOf he
    rw [← heq ho hoid, hoe]
  | none =>
    -- an error of the item would have been found
    have hnot := List.any_eq_false.1 (errorOf_eq_none_iff.1 he) item hi
    cases hie : item.error with
    | none => rfl
    | some e => exact absurd (decide_eq_true ⟨hid, hie ▸ rfl⟩) hnot

/-! ## Reports -/

/-- **What is reported of corrections** when these are refused, for these reasons, and all others
are written. -/
structure Reports (refusal : Correction → Option StoreError) (corrections : List Correction)
    (outcome : BulkOutcome) (events : List SyncEvent) : Prop where
  attempted : outcome.attempted = corrections.length
  requestError : outcome.requestError = none
  succeeded : outcome.succeeded = corrections.countP fun c => (refusal c).isNone
  failed : outcome.failed = (corrections.filter fun c => (refusal c).isSome).map (·.model)
  events : events = corrections.map fun c =>
    match refusal c with
    | none => c.written
    | some e => .bulkWriteFailed (some c.model) e.message

theorem reports_outcome (corrections : List Correction) (response : BulkResponse) :
    Reports (errorOf response) corrections (outcome corrections (.ok response))
      (events corrections (.ok response)) := by
  refine ⟨rfl, rfl, ?_, ?_, ?_⟩
  · rw [List.countP_eq_length_filter]
    simp only [outcome, List.partition_eq_filter_filter]
    congr 2
    funext c
    exact Option.not_isSome (errorOf response c)
  · simp only [outcome, List.partition_eq_filter_filter]
  · refine List.map_congr_left fun c _ => ?_
    rw [event]
    cases errorOf response c <;> rfl

theorem Reports.congr {refusal refusal' : Correction → Option StoreError}
    {corrections : List Correction} {outcome : BulkOutcome} {events : List SyncEvent}
    (h : Reports refusal corrections outcome events) (he : ∀ c ∈ corrections, refusal c = refusal' c) :
    Reports refusal' corrections outcome events := by
  refine ⟨h.attempted, h.requestError, ?_, ?_, ?_⟩
  · rw [h.succeeded]
    exact List.countP_congr fun c hc => by rw [he c hc]
  · rw [h.failed]
    congr 1
    exact List.filter_congr fun c hc => by rw [he c hc]
  · rw [h.events]
    exact List.map_congr_left fun c hc => by rw [he c hc]

theorem run_resume (collection : String) (cycle : CycleId) (write : Write)
    (reply : Except StoreError BulkResponse) (d : Daemon) :
    (write.resume collection cycle reply).run d =
      (.over (outcome write.corrections reply),
        d.announce cycle (events write.corrections reply)) := by
  have hsent := (Daemon.sends_emitAll cycle (events write.corrections reply) d).run d.feed
  show (Next.over _, ((Daemon.emitAll cycle (events write.corrections reply)).run d).2) = _
  rw [show (Daemon.emitAll cycle (events write.corrections reply)).run d = _ from hsent]
  rfl

/-- **A correction counts as written unless the answer refuses it**, and where the answer mentions
its model, only if the answer confirms it. -/
theorem reports_unless_refused (collection : String) (cycle : CycleId) (write : Write)
    (response : BulkResponse) (d : Daemon) :
    ∃ outcome events,
      (write.resume collection cycle (.ok response)).run d =
        (.over outcome, d.announce cycle events) ∧
      Reports (errorOf response) write.corrections outcome events ∧
      ∀ c ∈ write.corrections,
        (errorOf response c = none ↔ response.refuses c.model.text = false) ∧
        (∀ e, errorOf response c = some e →
          ∃ item ∈ response.items, item.id = c.model.text ∧ item.error = some e) ∧
        (errorOf response c = none → response.mentions c.model.text = true →
          response.confirms c.model.text = true) := by
  refine ⟨_, _, run_resume collection cycle write (.ok response) d,
    reports_outcome write.corrections response, ?_⟩
  intro c _
  refine ⟨errorOf_eq_none_iff, fun e => exists_of_errorOf, fun hn hm => ?_⟩
  exact BulkResponse.confirms_of_mentions hm (errorOf_eq_none_iff.1 hn)

/-- An answer without items: the correction counts as written, and is announced. -/
theorem not_reports_only_confirmed :
    ¬ ∀ (corrections : List Correction) (response : BulkResponse),
      (outcome corrections (.ok response)).succeeded ≤
          corrections.countP (fun c => response.confirms c.model.text) ∧
        ∀ c ∈ corrections, c.written ∈ events corrections (.ok response) →
          response.confirms c.model.text = true := by
  intro h
  exact absurd (h [⟨⟨"m"⟩, none, .deployed, .deployFailed, 2, 0⟩] ⟨[]⟩).1 (by decide)

end Write

end ModelFleet
