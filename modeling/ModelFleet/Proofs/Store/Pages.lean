import ModelFleet.Store.Memory

/-!
# Pages of a search

The documents that a query is about stand in increasing order of their identifiers
(`matchesAfter_sorted`).  So what comes after the last document of a page is what is left when the
page is dropped (`matchesAfter_last`), and reading page by page reads every document once.
-/

namespace ModelFleet.MemoryStore

theorem compare_eq_lt {a b : String} : compare a b = .lt ↔ a < b := compareOfLessAndEq_eq_lt

theorem matchesAfter_sorted (documents : Collection) (query : Query) (after : Option String) :
    (matchesAfter documents query after).Pairwise fun a b => a.id < b.id := by
  refine List.pairwise_map.2 (List.Pairwise.imp ?_ (documents.sorted.filter _))
  intro a b h
  exact compare_eq_lt.1 h

theorem mem_matchesAfter {documents : Collection} {query : Query} {after : Option String}
    {document : StoredDocument} :
    document ∈ matchesAfter documents query after ↔
      documents.get? document.id = some document.source ∧ isAfter after document.id = true ∧
        query.matches document.source = true := by
  simp only [matchesAfter, List.mem_map, List.mem_filter, SortedMap.get?_eq_some_iff, Prod.exists,
    Bool.and_eq_true]
  constructor
  · rintro ⟨id, source, h, rfl⟩
    exact h
  · intro h
    exact ⟨document.id, document.source, h, rfl⟩

theorem matchesAfter_eq_filter (documents : Collection) (query : Query) (after : Option String) :
    matchesAfter documents query after =
      (matchesAfter documents query none).filter fun document => isAfter after document.id := by
  simp only [matchesAfter, List.filter_map, List.filter_filter, Function.comp_def]
  refine congrArg _ (List.filter_congr fun entry _ => ?_)
  simp [isAfter]

/-- In a list in order, what comes after the last of the first `n` is what is left without them. -/
theorem filter_after_eq_drop {documents : List StoredDocument}
    (hs : documents.Pairwise fun a b => a.id < b.id) {n : Nat} {last : StoredDocument}
    (h : (documents.take n).getLast? = some last) :
    documents.filter (fun document => isAfter (some last.id) document.id) = documents.drop n := by
  obtain ⟨front, hfront⟩ := List.getLast?_eq_some_iff.1 h
  have hsplit : documents = (front ++ [last]) ++ documents.drop n := by
    rw [← hfront, List.take_append_drop]
  rw [hsplit] at hs
  obtain ⟨hpage, -, hrest⟩ := List.pairwise_append.1 hs
  have hbefore : (front ++ [last]).filter (fun document => isAfter (some last.id) document.id) = []
      := by
    refine List.filter_eq_nil_iff.2 fun document hd => ?_
    simp only [isAfter, decide_eq_true_eq]
    rcases List.mem_append.1 hd with hd | hd
    · exact String.lt_asymm ((List.pairwise_append.1 hpage).2.2 document hd last (by simp))
    · rw [List.mem_singleton.1 hd]
      exact String.lt_irrefl _
  have hafter : (documents.drop n).filter (fun document => isAfter (some last.id) document.id) =
      documents.drop n := by
    refine List.filter_eq_self.2 fun document hd => ?_
    simpa [isAfter] using hrest last (by simp) document hd
  conv => lhs; rw [hsplit, List.filter_append, hbefore, hafter, List.nil_append]

/-- What comes after the last document of a page. -/
theorem matchesAfter_last {documents : Collection} {query : Query} {after : Option String} {n : Nat}
    {last : StoredDocument}
    (h : ((matchesAfter documents query after).take n).getLast? = some last) :
    matchesAfter documents query (some last.id) = (matchesAfter documents query after).drop n := by
  rw [← filter_after_eq_drop (matchesAfter_sorted documents query after) h,
    matchesAfter_eq_filter documents query (some last.id),
    matchesAfter_eq_filter documents query after, List.filter_filter]
  refine List.filter_congr fun document _ => ?_
  -- a document after the page is after everything before the page
  have hlast := List.mem_of_mem_take (List.mem_of_getLast? h)
  rw [mem_matchesAfter] at hlast
  cases after with
  | none => simp [isAfter]
  | some a =>
    have ha : a < last.id := by simpa [isAfter] using hlast.2.1
    by_cases hd : last.id < document.id
    · simp [isAfter, hd, String.lt_trans ha hd]
    · simp [isAfter, hd]

/-! ### One page -/

/-- **A page is the last one, or is followed by another one, which begins where it ends.** -/
theorem pageOf_cases (documents : Collection) (query : Query) {page : PageRequest}
    (h0 : 0 < page.size) :
    pageOf documents query page = ⟨matchesAfter documents query page.after, none⟩ ∨
      ∃ hits last, pageOf documents query page = ⟨hits, some last⟩ ∧ hits ≠ [] ∧
        matchesAfter documents query page.after =
          hits ++ matchesAfter documents query (some last) := by
  by_cases hfull : page.size ≤ (matchesAfter documents query page.after).length
  · right
    have hl : ((matchesAfter documents query page.after).take page.size).length = page.size := by
      rw [List.length_take]
      omega
    have hne : (matchesAfter documents query page.after).take page.size ≠ [] := by
      intro h
      rw [h, List.length_nil] at hl
      omega
    obtain ⟨last, hlast⟩ : ∃ last,
        ((matchesAfter documents query page.after).take page.size).getLast? = some last :=
      ⟨_, List.getLast?_eq_some_getLast hne⟩
    refine ⟨_, last.id, ?_, hne, ?_⟩
    · rw [pageOf, if_pos ⟨h0, hl⟩, hlast]
      rfl
    · rw [matchesAfter_last hlast, List.take_append_drop]
  · left
    rw [pageOf, List.take_of_length_le (by omega), if_neg (by omega)]

end ModelFleet.MemoryStore
