import ModelFleet.Proofs.Cycle.Corrections
import ModelFleet.Proofs.Run.Trace
import Mathlib.Data.List.Nodup

/-!
# Reading while others write

A reading fetches page after page, and between two pages others may do anything to the store.  Here
`Scan.Pages` are the pages of a reading of a collection that changes from one search to the next.

* Each page covers the identifiers after its cursor, up to the cursor of the next one, and the last
  page covers all that is left.  So the identifiers of a whole reading increase (`Pages.sorted`),
  and a document that is there to be read at every search is read (`Pages.exists_mem`).
* A reading ends: once nobody writes any more, each page leaves less to be read (`exists_pages`).
* `Scan.reads_everything` says all this of the job that reads, and how many searches it makes.
-/

namespace ModelFleet

open Outside MemoryStore

namespace MemoryStore

variable {documents : Collection} {query : Query} {after : Option String} {size : Nat}
  {hits : List StoredDocument} {last : String}

/-- A page is the last one exactly when it is not full. -/
theorem next_eq_none_iff (documents : Collection) (query : Query) (page : PageRequest)
    (h0 : 0 < page.size) :
    (pageOf documents query page).next = none ↔
      (pageOf documents query page).hits.length < page.size := by
  have hle : ((matchesAfter documents query page.after).take page.size).length ≤ page.size :=
    List.length_take_le ..
  by_cases hfull : ((matchesAfter documents query page.after).take page.size).length = page.size
  · have hne : (matchesAfter documents query page.after).take page.size ≠ [] := by
      intro hnil
      rw [hnil, List.length_nil] at hfull
      omega
    have hlast := List.getLast?_eq_some_getLast hne
    simp only [pageOf, hfull, h0, and_self, if_true, hlast, Option.map_some]
    simp
  · simp only [pageOf, hfull, and_false, if_false, true_iff]
    omega

/-- A page that no other one follows holds all that is left. -/
theorem eq_of_pageOf_last (h0 : 0 < size)
    (h : pageOf documents query ⟨after, size⟩ = ⟨hits, none⟩) :
    hits = matchesAfter documents query after ∧ hits.length < size := by
  have hnext := next_eq_none_iff documents query ⟨after, size⟩ h0
  rw [h] at hnext
  refine ⟨?_, hnext.1 rfl⟩
  have hroom : 0 < (PageRequest.mk after size).size := h0
  rcases pageOf_cases documents query hroom with hp | ⟨hits', last', hp, -⟩
  · exact (SearchPage.mk.inj (h.symm.trans hp)).1
  · cases h.symm.trans hp

/-- A page that another one follows is full, and the other one begins where it ends. -/
theorem eq_of_pageOf_more (h0 : 0 < size)
    (h : pageOf documents query ⟨after, size⟩ = ⟨hits, some last⟩) :
    hits.length = size ∧
      matchesAfter documents query after = hits ++ matchesAfter documents query (some last) := by
  have hnext := next_eq_none_iff documents query ⟨after, size⟩ h0
  have hle : hits.length ≤ size := by
    rw [← show (pageOf documents query ⟨after, size⟩).hits = hits from congrArg SearchPage.hits h]
    exact List.length_take_le ..
  rw [h] at hnext
  have hfull : ¬ hits.length < size := fun hlt => nomatch hnext.2 hlt
  refine ⟨by omega, ?_⟩
  have hroom : 0 < (PageRequest.mk after size).size := h0
  rcases pageOf_cases documents query hroom with hp | ⟨hits', last', hp, -, hleft⟩
  · cases h.symm.trans hp
  · obtain ⟨rfl, hlast⟩ := SearchPage.mk.inj (h.symm.trans hp)
    obtain rfl := Option.some.inj hlast
    exact hleft

/-- What a page holds does not come after its end. -/
theorem not_lt_of_mem_page
    (h : matchesAfter documents query after = hits ++ matchesAfter documents query (some last))
    {document : StoredDocument} (hd : document ∈ hits) : ¬ last < document.id := by
  intro hlt
  have hall : document ∈ matchesAfter documents query after := by
    rw [h]
    exact List.mem_append_left _ hd
  obtain ⟨hs, -, hq⟩ := mem_matchesAfter.1 hall
  have hagain : document ∈ matchesAfter documents query (some last) :=
    mem_matchesAfter.2 ⟨hs, decide_eq_true hlt, hq⟩
  have hsorted := matchesAfter_sorted documents query after
  rw [h] at hsorted
  exact String.lt_irrefl _ ((List.pairwise_append.1 hsorted).2.2 document hd document hagain)

end MemoryStore

namespace Scan

/-! ### The pages of a reading -/

/-- **The pages of a reading** from the `n`-th search on, which asks for what comes after an
identifier: `documents k` is what the collection holds at the `k`-th search. -/
inductive Pages (documents : Nat → Collection) (size : Nat) :
    Nat → Option String → List SearchPage → Prop
  | last {n : Nat} {after : Option String} {hits : List StoredDocument}
      (h : pageOf (documents n) query ⟨after, size⟩ = ⟨hits, none⟩) :
      Pages documents size n after [⟨hits, none⟩]
  | more {n : Nat} {after : Option String} {hits : List StoredDocument} {last : String}
      {pages : List SearchPage}
      (h : pageOf (documents n) query ⟨after, size⟩ = ⟨hits, some last⟩)
      (hrest : Pages documents size (n + 1) (some last) pages) :
      Pages documents size n after (⟨hits, some last⟩ :: pages)

def documentsOf (pages : List SearchPage) : List StoredDocument := pages.flatMap (·.hits)

theorem documentsOf_cons (page : SearchPage) (pages : List SearchPage) :
    documentsOf (page :: pages) = page.hits ++ documentsOf pages := List.flatMap_cons ..

theorem documentsOf_singleton (page : SearchPage) : documentsOf [page] = page.hits :=
  List.flatMap_singleton ..

namespace Pages

variable {documents : Nat → Collection} {size n : Nat} {cursor : Option String}
  {pages : List SearchPage}

/-- A cursor moves forward from page to page. -/
theorem isAfter_of_lt {hits : List StoredDocument} {last id : String} (h0 : 0 < size)
    (h : pageOf (documents n) query ⟨cursor, size⟩ = ⟨hits, some last⟩) (hlt : last < id) :
    isAfter cursor id = true := by
  obtain ⟨hlen, hleft⟩ := eq_of_pageOf_more h0 h
  obtain ⟨document, hd⟩ : ∃ document, document ∈ hits :=
    List.exists_mem_of_length_pos (hlen ▸ h0)
  have hall : document ∈ matchesAfter (documents n) query cursor := by
    rw [hleft]
    exact List.mem_append_left _ hd
  have hafter := (mem_matchesAfter.1 hall).2.1
  have hle : document.id ≤ last := String.not_lt.1 (not_lt_of_mem_page hleft hd)
  cases cursor with
  | none => rfl
  | some start =>
    have hstart : start < document.id := of_decide_eq_true hafter
    exact decide_eq_true (String.lt_trans hstart (Std.lt_of_le_of_lt hle hlt))

theorem isAfter_of_mem (h0 : 0 < size) (h : Pages documents size n cursor pages) :
    ∀ document ∈ documentsOf pages, isAfter cursor document.id = true := by
  induction h with
  | last hp =>
    intro document hd
    rw [documentsOf_singleton, (eq_of_pageOf_last h0 hp).1] at hd
    exact (mem_matchesAfter.1 hd).2.1
  | @more n cursor hits last pages hp _ ih =>
    intro document hd
    rw [documentsOf_cons] at hd
    rcases List.mem_append.1 hd with hd | hd
    · have hall : document ∈ matchesAfter (documents n) query cursor := by
        rw [(eq_of_pageOf_more h0 hp).2]
        exact List.mem_append_left _ hd
      exact (mem_matchesAfter.1 hall).2.1
    · exact isAfter_of_lt h0 hp (of_decide_eq_true (ih document hd))

/-- **Identifiers increase from document to document**, also from one page to the next. -/
theorem sorted (h0 : 0 < size) (h : Pages documents size n cursor pages) :
    (documentsOf pages).Pairwise fun a b => a.id < b.id := by
  induction h with
  | @last n cursor hits hp =>
    rw [documentsOf_singleton, (eq_of_pageOf_last h0 hp).1]
    exact matchesAfter_sorted ..
  | @more n cursor hits last pages hp hrest ih =>
    have hleft := (eq_of_pageOf_more h0 hp).2
    have hpage : hits.Pairwise fun a b => a.id < b.id := by
      have hs := matchesAfter_sorted (documents n) query cursor
      rw [hleft] at hs
      exact (List.pairwise_append.1 hs).1
    rw [documentsOf_cons]
    refine List.pairwise_append.2 ⟨hpage, ih, fun a ha b hb => ?_⟩
    have hle : a.id ≤ last := String.not_lt.1 (not_lt_of_mem_page hleft ha)
    have hlt : last < b.id := of_decide_eq_true (isAfter_of_mem h0 hrest b hb)
    exact Std.lt_of_le_of_lt hle hlt

/-- **What is on a page is stored at its search**, and has a state that is read. -/
theorem stored (h : Pages documents size n cursor pages) :
    ∀ k page, pages[k]? = some page → ∀ document ∈ page.hits,
      (documents (n + k)).get? document.id = some document.source ∧
        query.matches document.source = true := by
  have honpage : ∀ {n cursor hits next}, pageOf (documents n) query ⟨cursor, size⟩ = ⟨hits, next⟩ →
      ∀ document ∈ hits, (documents n).get? document.id = some document.source ∧
        query.matches document.source = true := by
    intro n cursor hits next hp document hd
    rw [← show (pageOf (documents n) query ⟨cursor, size⟩).hits = hits from
      congrArg SearchPage.hits hp] at hd
    obtain ⟨hs, -, hq⟩ := mem_matchesAfter.1 (List.mem_of_mem_take hd)
    exact ⟨hs, hq⟩
  induction h with
  | last hp =>
    intro k page hk document hd
    cases k with
    | zero =>
      cases hk
      exact honpage hp document hd
    | succ k => cases hk
  | @more n cursor hits last pages hp _ ih =>
    intro k page hk document hd
    cases k with
    | zero =>
      cases hk
      exact honpage hp document hd
    | succ k =>
      have hn : n + (k + 1) = n + 1 + k := by omega
      rw [hn]
      exact ih k page hk document hd

/-- **A document that is there to be read at every search is read.** -/
theorem exists_mem (h0 : 0 < size) (h : Pages documents size n cursor pages) {id : String}
    (ha : isAfter cursor id = true)
    (hf : ∀ k < pages.length, ∃ record, found (documents (n + k)) id = some record) :
    ∃ record ∈ records (documentsOf pages), record.id = ⟨id⟩ := by
  -- the document as it is at the first of the searches
  have hnow : ∀ {documents : Collection} {cursor : Option String} {record : ModelRecord},
      isAfter cursor id = true → found documents id = some record →
      ∃ document ∈ matchesAfter documents query cursor, document.id = id ∧
        recordOf document = some record := by
    intro documents cursor record ha hfound
    obtain ⟨source, hs, hr⟩ := found_eq_some_iff.1 hfound
    obtain ⟨hq, hparse⟩ := recordIn_eq_some_iff.1 hr
    exact ⟨⟨id, source⟩, mem_matchesAfter.2 ⟨hs, ha, hq⟩, rfl, recordOf_eq_some_iff.2 hparse⟩
  have hid : ∀ {document : StoredDocument} {record : ModelRecord},
      recordOf document = some record → record.id = ⟨document.id⟩ :=
    fun hr => ModelRecord.id_of_ofDocument (recordOf_eq_some_iff.1 hr)
  induction h with
  | @last n cursor hits hp =>
    obtain ⟨record, hfound⟩ := hf 0 Nat.one_pos
    obtain ⟨document, hd, rfl, hr⟩ := hnow ha hfound
    rw [documentsOf_singleton, (eq_of_pageOf_last h0 hp).1]
    exact ⟨record, List.mem_filterMap.2 ⟨document, hd, hr⟩, hid hr⟩
  | @more n cursor hits last pages hp _ ih =>
    obtain ⟨record, hfound⟩ := hf 0 (Nat.succ_pos _)
    obtain ⟨document, hd, rfl, hr⟩ := hnow ha hfound
    rw [Nat.add_zero, (eq_of_pageOf_more h0 hp).2] at hd
    rw [documentsOf_cons, records_append]
    rcases List.mem_append.1 hd with hd | hd
    · exact ⟨record, List.mem_append_left _ (List.mem_filterMap.2 ⟨document, hd, hr⟩), hid hr⟩
    · -- it comes after this page
      have hlater := (mem_matchesAfter.1 hd).2.1
      obtain ⟨record', hr', he⟩ := ih hlater fun k hk => by
        have hn : n + 1 + k = n + (k + 1) := by omega
        rw [hn]
        exact hf (k + 1) (Nat.succ_lt_succ hk)
      exact ⟨record', List.mem_append_right _ hr', he⟩

/-- **A collection that does not change is read as a whole**, page after page. -/
theorem of_settled {collection : Collection} (h0 : 0 < size)
    (h : Pages documents size n cursor pages) (hs : ∀ k, n ≤ k → documents k = collection) :
    documentsOf pages = matchesAfter collection query cursor ∧
      pages.length = (matchesAfter collection query cursor).length / size + 1 := by
  induction h with
  | @last n cursor hits hp =>
    rw [hs n (Nat.le_refl n)] at hp
    obtain ⟨rfl, hlt⟩ := eq_of_pageOf_last h0 hp
    refine ⟨documentsOf_singleton _, ?_⟩
    rw [Nat.div_eq_of_lt hlt]
    rfl
  | @more n cursor hits last pages hp _ ih =>
    rw [hs n (Nat.le_refl n)] at hp
    obtain ⟨hlen, hleft⟩ := eq_of_pageOf_more h0 hp
    obtain ⟨hread, hcount⟩ := ih fun k hk => hs k (Nat.le_of_succ_le hk)
    refine ⟨by rw [documentsOf_cons, hread, hleft], ?_⟩
    rw [List.length_cons, hcount, hleft, List.length_append, hlen, Nat.add_div_left _ h0]

end Pages

/-! ### A reading ends -/

section Ends

variable {documents : Nat → Collection} {size : Nat}

theorem exists_pages_of_settled {collection : Collection} (h0 : 0 < size) (n : Nat)
    (cursor : Option String) (hs : ∀ k, n ≤ k → documents k = collection) :
    ∃ pages, Pages documents size n cursor pages := by
  induction hm : (matchesAfter collection query cursor).length using Nat.strongRecOn
    generalizing n cursor with
  | ind m ih =>
    generalize hp : pageOf (documents n) query ⟨cursor, size⟩ = page
    obtain ⟨hits, next⟩ := page
    cases next with
    | none => exact ⟨_, .last hp⟩
    | some last =>
      have hp' := hp
      rw [hs n (Nat.le_refl n)] at hp'
      obtain ⟨hlen, hleft⟩ := eq_of_pageOf_more h0 hp'
      have hlt : (matchesAfter collection query (some last)).length < m := by
        rw [← hm, hleft, List.length_append]
        omega
      obtain ⟨pages, hpages⟩ :=
        ih _ hlt (n + 1) (some last) (fun k hk => hs k (Nat.le_of_succ_le hk)) rfl
      exact ⟨_, .more hp hpages⟩

/-- **A reading ends** if from some search on nobody writes any more. -/
theorem exists_pages {collection : Collection} {settled : Nat} (h0 : 0 < size)
    (hs : ∀ k, settled ≤ k → documents k = collection) (n : Nat) (cursor : Option String) :
    ∃ pages, Pages documents size n cursor pages := by
  induction hm : settled - n generalizing n cursor with
  | zero => exact exists_pages_of_settled h0 n cursor fun k hk => hs k (by omega)
  | succ m ih =>
    generalize hp : pageOf (documents n) query ⟨cursor, size⟩ = page
    obtain ⟨hits, next⟩ := page
    cases next with
    | none => exact ⟨_, .last hp⟩
    | some last =>
      obtain ⟨pages, hpages⟩ := ih (n + 1) (some last) (by omega)
      exact ⟨_, .more hp hpages⟩

end Ends

/-! ### The job that reads -/

/-- A store that serves every request, and to which others do something before each of them: what
comes before the `n`-th request is the `n`-th of `writes`. -/
def amid (writes : List (MemoryStore → MemoryStore)) : Outside Unit where
  members _ := .ok []
  ask _ cluster node := (cluster, .error (.unreachable node "gone"))
  fate _ _ := .served
  meanwhile n := writes.getD n id
  time _ := .ofMillis 0

/-- What a store has become when the `n`-th request is served. -/
def storeAt (writes : List (MemoryStore → MemoryStore)) (store : MemoryStore) (n : Nat) :
    MemoryStore :=
  (writes.take (n + 1)).foldl (fun store write => write store) store

def searched (collection : String) (pageSize : Nat) (cursor : Cursor)
    (reply : Except StoreError SearchPage) : Exchange :=
  ⟨request collection pageSize cursor, reply⟩

section Job

variable {writes : List (MemoryStore → MemoryStore)} {store : MemoryStore} {collection : String}
  {pageSize : Nat}

theorem storeAt_zero (writes : List (MemoryStore → MemoryStore)) (store : MemoryStore) :
    (amid writes).meanwhile 0 store = storeAt writes store 0 := by
  cases writes <;> rfl

theorem storeAt_succ (writes : List (MemoryStore → MemoryStore)) (store : MemoryStore) (n : Nat) :
    (amid writes).meanwhile (n + 1) (storeAt writes store n) = storeAt writes store (n + 1) := by
  show writes.getD (n + 1) id (storeAt writes store n) =
    (writes.take (n + 1 + 1)).foldl (fun store write => write store) store
  rw [List.take_add_one, List.foldl_append, List.getD_eq_getElem?_getD]
  cases writes[n + 1]? <;> rfl

theorem storeAt_of_le {n : Nat} (h : writes.length ≤ n) :
    storeAt writes store n = writes.foldl (fun store write => write store) store := by
  rw [storeAt, List.take_of_length_le (by omega)]

/-- A reading takes a collection that is not there for an empty one. -/
theorem read_search (store : MemoryStore) (page : PageRequest) :
    read (store.search collection query page) =
      ((records (pageOf (store.documents collection) query page).hits).map .ok,
        (pageOf (store.documents collection) query page).next.map .after) := by
  unfold search MemoryStore.documents
  cases store.collections.get? collection with
  | some documents => rfl
  | none =>
    have hnone : pageOf (∅ : Collection) query page = ⟨[], none⟩ := by
      have hleft : matchesAfter ∅ query page.after = [] := rfl
      simp [pageOf, hleft]
    simp only [Option.getD_none, hnone]
    rfl

theorem search_of_hits {store : MemoryStore} {page : PageRequest}
    (h : (pageOf (store.documents collection) query page).hits ≠ []) :
    store.search collection query page =
      .ok (pageOf (store.documents collection) query page) := by
  unfold search MemoryStore.documents at *
  cases hd : store.collections.get? collection with
  | some documents => rfl
  | none =>
    rw [hd] at h
    have hleft : matchesAfter ∅ query page.after = [] := rfl
    exact absurd (by simp [pageOf, hleft]) h

variable {cursor : Cursor} {hits : List StoredDocument} {next : Option String} {s : State Unit}

theorem step_job (hs : (amid writes).meanwhile s.asked.length s.store = store)
    (hp : pageOf (store.documents collection) query (page pageSize cursor) = ⟨hits, next⟩)
    (items : List Item) (d : Daemon) :
    (amid writes).step (job collection pageSize none) ⟨.wait ⟨cursor, items⟩, s, d⟩ =
      ⟨goOn none (items ++ (records hits).map .ok) (next.map .after),
        { s with store, asked := s.asked ++ [request collection pageSize cursor] },
        { d with clock := .ofMillis 0 }⟩ := by
  subst hs
  let store := (amid writes).meanwhile s.asked.length s.store
  have hr : read (store.search collection query (page pageSize cursor)) =
      ((records hits).map .ok, next.map .after) := by
    rw [read_search, hp]
  show (⟨goOn none (items ++ (read (store.search collection query (page pageSize cursor))).1)
    (read (store.search collection query (page pageSize cursor))).2, _, _⟩ : Moment ..) = _
  rw [hr]
  rfl

theorem exchange_eq (hs : (amid writes).meanwhile s.asked.length s.store = store)
    (hp : pageOf (store.documents collection) query (page pageSize cursor) = ⟨hits, next⟩)
    (hne : hits ≠ []) (items : List Item) :
    (⟨(job collection pageSize none).request ⟨cursor, items⟩,
      ((amid writes).answer (request collection pageSize cursor) s).2⟩ : Exchange) =
      searched collection pageSize cursor (.ok ⟨hits, next⟩) := by
  subst hs
  refine congrArg (searched collection pageSize cursor) ?_
  rw [← hp]
  refine search_of_hits ?_
  rw [hp]
  exact hne

/-- **The job fetches the pages of a reading.** -/
theorem Pages.trace {n : Nat} {after : Option String} {pages : List SearchPage}
    (h : Pages (fun k => (storeAt writes store k).documents collection) (max pageSize 1) n after
      pages)
    {cursor : Cursor} (hc : (page pageSize cursor).after = after) (items : List Item)
    {s : State Unit} (hn : s.asked.length = n)
    (hs : (amid writes).meanwhile n s.store = storeAt writes store n) (d : Daemon) :
    ∃ (trail : List Exchange) (s' : State Unit) (d' : Daemon),
      Trace (amid writes) (job collection pageSize none) ⟨.wait ⟨cursor, items⟩, s, d⟩ trail
        (.ended (items ++ (records (documentsOf pages)).map .ok) s' d') ∧
      trail.length = pages.length ∧
      ∀ (k : Nat) (page : SearchPage), pages[k]? = some page → page.hits ≠ [] →
        ∃ cursor, trail[k]? = some (searched collection pageSize cursor (.ok page)) := by
  induction h generalizing cursor items s d with
  | @last n after hits hp =>
    subst hn hc
    let s₁ : State Unit :=
      { s with
        store := storeAt writes store s.asked.length
        asked := s.asked ++ [request collection pageSize cursor] }
    let d₁ : Daemon := { d with clock := .ofMillis 0 }
    have hend : Trace (amid writes) (job collection pageSize none)
        ((amid writes).step (job collection pageSize none) ⟨.wait ⟨cursor, items⟩, s, d⟩) []
        (.ended (items ++ (records (documentsOf [⟨hits, none⟩])).map .ok) s₁ d₁) := by
      rw [step_job hs hp items d, documentsOf_singleton]
      exact .nil _
    refine ⟨_, s₁, d₁, .cons hend, rfl, ?_⟩
    intro k page hk hne
    cases k with
    | zero =>
      cases hk
      exact ⟨cursor, congrArg some (exchange_eq hs hp hne items)⟩
    | succ k => cases hk
  | @more n after hits last pages hp _ ih =>
    subst hn hc
    let s₁ : State Unit :=
      { s with
        store := storeAt writes store s.asked.length
        asked := s.asked ++ [request collection pageSize cursor] }
    have hc : (page pageSize (.after last)).after = some last := rfl
    obtain ⟨trail, s', d', hrest, hlen, hpages⟩ := ih hc
      (items ++ (records hits).map .ok) (s := s₁) (List.length_append ..) (storeAt_succ ..)
      { d with clock := .ofMillis 0 }
    have hgoes : Trace (amid writes) (job collection pageSize none)
        ((amid writes).step (job collection pageSize none) ⟨.wait ⟨cursor, items⟩, s, d⟩) trail
        (.ended (items ++ (records (documentsOf (⟨hits, some last⟩ :: pages))).map .ok) s' d') := by
      rw [step_job hs hp items d, documentsOf_cons, records_append, List.map_append,
        ← List.append_assoc]
      exact hrest
    refine ⟨_, s', d', .cons hgoes, congrArg Nat.succ hlen, ?_⟩
    intro k page hk hne
    cases k with
    | zero =>
      cases hk
      exact ⟨cursor, congrArg some (exchange_eq hs hp hne items)⟩
    | succ k => exact hpages k page hk hne

/-- The job makes no other requests than searches for pages. -/
theorem searches_of_trace {next : Next Scan (List Item)} {s : State Unit} {d : Daemon}
    {trail : List Exchange} {m : Moment Scan (List Item) Unit}
    (h : Trace (amid writes) (job collection pageSize none) ⟨next, s, d⟩ trail m) :
    ∀ x ∈ trail, ∃ cursor reply, x = searched collection pageSize cursor reply := by
  intro x hx
  obtain ⟨front, back, rfl⟩ := List.append_of_mem hx
  obtain ⟨state, s, -, -, -, rfl⟩ := h.exists_moment
  exact ⟨state.cursor, ((amid writes).answer (request collection pageSize state.cursor) s).2, rfl⟩

end Job

/-! ### What a reading gives -/

/-- A reading that loses nothing and repeats nothing: what its searches are, and which records it
gives.  Others do `writes` to the store meanwhile. -/
structure Faithful (writes : List (MemoryStore → MemoryStore)) (store : MemoryStore)
    (collection : String) (pageSize : Nat) (trail : List Exchange) (records : List ModelRecord) :
    Prop where
  /-- It asks for pages of the records whose state is reconcilable, and for nothing else. -/
  searches : ∀ x ∈ trail, ∃ cursor reply, x = searched collection pageSize cursor reply
  /-- Identifiers increase from record to record. -/
  ordered : records.Pairwise fun a b => a.id.text < b.id.text
  /-- A record is what a document says that was stored when its page was fetched. -/
  genuine : ∀ record ∈ records, ∃ (n : Nat) (cursor : Cursor) (page : SearchPage) (source : Json),
    trail[n]? = some (searched collection pageSize cursor (.ok page)) ∧
    ⟨record.id.text, source⟩ ∈ page.hits ∧
    (storeAt writes store n).get? collection record.id.text = some source ∧
    ModelRecord.ofDocument record.id source = .ok record ∧
    ∃ state ∈ ModelState.reconcilable, source.get? Document.stateField = some state.toJson
  /-- A document that is there to be read at every search is read once. -/
  complete : ∀ id,
    (∀ n < trail.length, ∃ record,
      found ((storeAt writes store n).documents collection) id = some record) →
    (records.map (·.id.text)).count id = 1

section Job

variable {writes : List (MemoryStore → MemoryStore)} {store : MemoryStore} {collection : String}
  {pageSize : Nat}

theorem mem_records_of_pages {pages : List SearchPage} {record : ModelRecord}
    (h : record ∈ records (documentsOf pages)) :
    ∃ (n : Nat) (page : SearchPage) (document : StoredDocument),
      pages[n]? = some page ∧ document ∈ page.hits ∧
      recordOf document = some record := by
  obtain ⟨document, hd, hr⟩ := List.mem_filterMap.1 h
  obtain ⟨page, hpage, hd⟩ := List.mem_flatMap.1 hd
  obtain ⟨n, hn⟩ := List.getElem?_of_mem hpage
  exact ⟨n, page, document, hn, hd, hr⟩

/-- **The pages of a reading lose nothing and repeat nothing.** -/
theorem Pages.faithful {pages : List SearchPage} {trail : List Exchange}
    (h : Pages (fun k => (storeAt writes store k).documents collection) (max pageSize 1) 0 none
      pages)
    (hs : ∀ x ∈ trail, ∃ cursor reply, x = searched collection pageSize cursor reply)
    (hlen : trail.length = pages.length)
    (hpages : ∀ (k : Nat) (page : SearchPage), pages[k]? = some page → page.hits ≠ [] →
      ∃ cursor, trail[k]? = some (searched collection pageSize cursor (.ok page))) :
    Faithful writes store collection pageSize trail (records (documentsOf pages)) := by
  have h0 : 0 < max pageSize 1 := Nat.lt_of_lt_of_le Nat.one_pos (Nat.le_max_right ..)
  have hordered := records_pairwise (h.sorted h0)
  refine { searches := hs, ordered := hordered, genuine := ?_, complete := ?_ }
  · intro record hr
    obtain ⟨n, page, document, hn, hd, hr⟩ := mem_records_of_pages hr
    obtain ⟨cursor, hx⟩ := hpages n page hn (List.ne_nil_of_mem hd)
    obtain ⟨hstored, hq⟩ := h.stored n page hn document hd
    have hparse := recordOf_eq_some_iff.1 hr
    have hid : record.id = ⟨document.id⟩ := ModelRecord.id_of_ofDocument hparse
    rw [Nat.zero_add] at hstored
    rw [← hid] at hparse
    have htext : document.id = record.id.text := by rw [hid]
    refine ⟨n, cursor, page, document.source, hx, ?_, ?_, hparse, matches_iff.1 hq⟩
    · rw [← htext]
      exact hd
    · rw [← htext]
      exact hstored
  · intro id hf
    have hstart : isAfter none id = true := rfl
    obtain ⟨record, hr, hid⟩ := h.exists_mem h0 hstart fun k hk => by
      rw [Nat.zero_add]
      exact hf k (hlen ▸ hk)
    have hnodup : ((records (documentsOf pages)).map (·.id.text)).Nodup := by
      refine List.pairwise_map.2 (hordered.imp ?_)
      intro a b hab he
      rw [he] at hab
      exact String.lt_irrefl _ hab
    refine List.count_eq_one_of_mem hnodup (List.mem_map.2 ⟨record, hr, ?_⟩)
    rw [hid]

/-- The records of a collection, in order of their identifiers. -/
theorem records_matchesAfter (documents : Collection) :
    records (matchesAfter documents query none) =
      documents.entries.filterMap fun entry => recordIn entry.1 entry.2 := by
  unfold records matchesAfter
  rw [List.filterMap_map, List.filterMap_filter]
  refine List.filterMap_congr fun entry _ => ?_
  simp [recordIn, isAfter, Function.comp]

theorem length_matchesAfter (documents : Collection) :
    (matchesAfter documents query none).length =
      documents.entries.countP fun entry => query.matches entry.2 := by
  unfold matchesAfter
  rw [List.length_map, ← List.countP_eq_length_filter]
  refine List.countP_congr fun entry _ => ?_
  simp [isAfter]

/-- **A reading loses nothing and repeats nothing, whatever others write meanwhile**, and it ends.
What others do before each search is arbitrary, as long as there is an end of it; puts, creations
and bulk updates one after another are a case of it.

If nobody writes, the reading gives the records of the collection in the order of their identifiers,
whatever the size of a page, and the number of searches is one more than the number of pages that
the matching documents fill. -/
theorem reads_everything (collection : String) (pageSize : Nat)
    (writes : List (MemoryStore → MemoryStore)) (store : MemoryStore) (d : Daemon) :
    (∃ trail records s' d',
      Trace (amid writes) (job collection pageSize none) ⟨start none, ⟨store, (), []⟩, d⟩ trail
        (.ended (records.map .ok) s' d') ∧
      Faithful writes store collection pageSize trail records) ∧
    ∃ trail s' d',
      Trace (amid []) (job collection pageSize none) ⟨start none, ⟨store, (), []⟩, d⟩ trail
        (.ended (((store.documents collection).entries.filterMap fun entry =>
          recordIn entry.1 entry.2).map .ok) s' d') ∧
      trail.length =
        (store.documents collection).entries.countP (fun entry => query.matches entry.2) /
          max pageSize 1 + 1 := by
  have h0 : 0 < max pageSize 1 := Nat.lt_of_lt_of_le Nat.one_pos (Nat.le_max_right ..)
  have hstart : (page pageSize .start).after = none := rfl
  let s : State Unit := ⟨store, (), []⟩
  constructor
  · have hsettled : ∀ k, writes.length ≤ k → (storeAt writes store k).documents collection =
        (writes.foldl (fun store write => write store) store).documents collection := by
      intro k hk
      rw [storeAt_of_le hk]
    obtain ⟨pages, hpages⟩ := exists_pages h0 hsettled 0 none
    obtain ⟨trail, s', d', htrace, hlen, hfetched⟩ :=
      hpages.trace hstart [] (s := s) rfl (storeAt_zero ..) d
    exact ⟨trail, _, s', d', htrace,
      hpages.faithful (searches_of_trace htrace) hlen hfetched⟩
  · have hsettled : ∀ k, 0 ≤ k →
        (storeAt [] store k).documents collection = store.documents collection := fun _ _ => rfl
    obtain ⟨pages, hpages⟩ := exists_pages_of_settled h0 0 none hsettled
    obtain ⟨hread, hcount⟩ := hpages.of_settled h0 hsettled
    obtain ⟨trail, s', d', htrace, hlen, -⟩ :=
      hpages.trace hstart [] (s := s) rfl (storeAt_zero ..) d
    rw [hread, records_matchesAfter] at htrace
    rw [length_matchesAfter] at hcount
    exact ⟨trail, s', d', htrace, hlen.trans hcount⟩

end Job

end Scan

end ModelFleet
