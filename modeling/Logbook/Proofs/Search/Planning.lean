import Logbook.Proofs.Search.Refinement

/-!
# What is left to a store

A query is classified by its characters alone: it is advanced if one of four marks occurs in it. A
query without them is looked for by a store as a piece of text. That is sound because such a query
cannot say more: its terms are its words, one for each and none of them negated. So every query
with a key, a negated term or a text with a space in it is advanced. It is then read into its terms,
and the store is asked only for the rows within the bounds, the same bounds that any other query
would be asked with.

What carries the proof is that a text without quotation marks is read piece by piece, where a piece
reaches from one space to the next.

Results:

* `Query.termsOf_eq_flatMap`: a text without quotation marks is read piece by piece.
* `Query.terms_of_plain`: the terms of a query that is not advanced are its words.
* `Plan.build_of_query`: which queries are left to a store, and what it is asked for otherwise.
-/

namespace Logbook

namespace Query

/-! ## Words -/

/-- The words of a query: its longest pieces without a space, in order. -/
def words (query : String) : List String :=
  ((query.toList.splitOn ' ').filter (· ≠ [])).map String.ofList

/-- A piece between two spaces has no space in it, and all its characters are those of the text. -/
theorem piece_of_mem_splitOn {piece cs : List Char} (h : piece ∈ cs.splitOn ' ') :
    ' ' ∉ piece ∧ piece ⊆ cs := by
  induction cs generalizing piece with
  | nil =>
    rw [List.splitOn_nil, List.mem_singleton] at h
    rw [h]
    exact ⟨List.not_mem_nil, List.Subset.refl []⟩
  | cons c cs ih =>
    rw [List.splitOn_cons_eq_if_modifyHead] at h
    obtain ⟨first, rest, hpieces⟩ := List.exists_cons_of_ne_nil (List.splitOn_ne_nil ' ' cs)
    rw [hpieces] at h ih
    split at h
    · rcases List.mem_cons.1 h with rfl | hrest
      · exact ⟨List.not_mem_nil, List.nil_subset _⟩
      · obtain ⟨hspace, hsub⟩ := ih hrest
        exact ⟨hspace, List.subset_cons_of_subset c hsub⟩
    · rename_i hc
      rw [List.modifyHead_cons] at h
      rcases List.mem_cons.1 h with rfl | hrest
      · obtain ⟨hspace, hsub⟩ := ih List.mem_cons_self
        refine ⟨?_, List.cons_subset_cons c hsub⟩
        intro hmem
        rcases List.mem_cons.1 hmem with rfl | hmem
        · exact hc (beq_self_eq_true ' ')
        · exact hspace hmem
      · obtain ⟨hspace, hsub⟩ := ih (List.mem_cons_of_mem first hrest)
        exact ⟨hspace, List.subset_cons_of_subset c hsub⟩

theorem space_not_mem_of_mem_words {query word : String} (h : word ∈ words query) :
    ' ' ∉ word.toList := by
  obtain ⟨piece, hpiece, rfl⟩ := List.mem_map.1 h
  rw [String.toList_ofList]
  exact (piece_of_mem_splitOn (List.mem_filter.1 hpiece).1).1

/-! ## Terms -/

/-- Pieces with a space between any two are read one by one, if no quotation mark is in them. -/
theorem termsOf_intercalate {pieces : List (List Char)} (h : ∀ piece ∈ pieces, '"' ∉ piece) :
    termsOf ([' '].intercalate pieces) = pieces.flatMap termsOf := by
  induction pieces with
  | nil => exact termsOf_nil
  | cons piece rest ih =>
    have hpiece := h piece List.mem_cons_self
    have hrest := ih fun p hp => h p (List.mem_cons_of_mem piece hp)
    cases rest with
    | nil => simp
    | cons next rest =>
      have hcons : (piece :: next :: rest).flatMap termsOf =
          termsOf piece ++ (next :: rest).flatMap termsOf := List.flatMap_cons
      rw [List.intercalate_cons_cons, List.append_assoc, List.singleton_append,
        termsOf_append_space hpiece, hrest, hcons]

/-- **A text without quotation marks is read piece by piece**, where the pieces are what stands
between its spaces. -/
theorem termsOf_eq_flatMap {cs : List Char} (h : '"' ∉ cs) :
    termsOf cs = (cs.splitOn ' ').flatMap termsOf := by
  have hpieces : ∀ piece ∈ cs.splitOn ' ', '"' ∉ piece :=
    fun piece hpiece hquote => h ((piece_of_mem_splitOn hpiece).2 hquote)
  have hread := termsOf_intercalate hpieces
  rwa [List.intercalate_splitOn] at hread

theorem quote_not_mem_of_plain {query : String} (h : isAdvanced query = false) :
    '"' ∉ query.toList := by
  intro hmem
  rw [isAdvanced, List.any_eq_false] at h
  exact h '"' hmem (by decide)

/-- A word of a query that is not advanced is one term, which is not negated. -/
theorem termsOf_word {query : String} (h : isAdvanced query = false) {piece : List Char}
    (hpiece : piece ∈ query.toList.splitOn ' ') (hne : piece ≠ []) :
    termsOf piece = [⟨.text, String.ofList piece, false⟩] := by
  obtain ⟨hspace, hsub⟩ := piece_of_mem_splitOn hpiece
  have hplain : isAdvanced (String.ofList piece) = false := by
    rw [isAdvanced, List.any_eq_false] at h ⊢
    rw [String.toList_ofList]
    exact fun c hc => h c (hsub hc)
  have hquote : '"' ∉ piece := fun hmem => quote_not_mem_of_plain h (hsub hmem)
  have hwritable : Term.Writable .bare ⟨.text, String.ofList piece, false⟩ := by
    refine writable_word ?_ ?_ ?_ hplain
    · rwa [Ne, String.ofList_eq_empty_iff]
    · rwa [String.toList_ofList]
    · rwa [String.toList_ofList]
  have hread := termsOf_single hwritable
  rwa [Term.chars, if_neg Bool.false_ne_true, Term.body, Term.Style.chars, String.toList_ofList]
    at hread

/-- **The terms of a query that is not advanced are its words**, none of them negated. -/
theorem terms_of_plain {query : String} (h : isAdvanced query = false) :
    terms query = (words query).map fun word => ⟨.text, word, false⟩ := by
  have hread : ∀ pieces : List (List Char), pieces ⊆ query.toList.splitOn ' ' →
      pieces.flatMap termsOf =
        ((pieces.filter (· ≠ [])).map String.ofList).map fun word => ⟨.text, word, false⟩ := by
    intro pieces hpieces
    induction pieces with
    | nil => rfl
    | cons piece rest ih =>
      rw [List.cons_subset] at hpieces
      rw [List.flatMap_cons, ih hpieces.2]
      by_cases hne : piece = []
      · simp [hne]
      · rw [termsOf_word h hpieces.1 hne]
        simp [hne]
  rw [terms, termsOf_eq_flatMap (quote_not_mem_of_plain h), hread _ (List.Subset.refl _), words]

/-- **Only an advanced query says more than its words**: if a term has a key, is negated or has a
space in it, the query is advanced. -/
theorem isAdvanced_of_mem_terms {query : String} {t : Term} (ht : t ∈ terms query)
    (hmore : t.kind ≠ .text ∨ t.negated = true ∨ ' ' ∈ t.value.toList) :
    isAdvanced query = true := by
  cases hplain : isAdvanced query with
  | true => rfl
  | false =>
    rw [terms_of_plain hplain] at ht
    obtain ⟨word, hword, rfl⟩ := List.mem_map.1 ht
    rcases hmore with hkind | hnegated | hspace
    · exact absurd rfl hkind
    · cases hnegated
    · exact absurd hspace (space_not_mem_of_mem_words hword)

end Query

namespace Plan

theorem query?_of_isAdvanced {c : Criteria} {query : String} (hquery : c.query = some query)
    (h : isAdvanced query = true) : c.query? = some query := by
  rw [Criteria.query?, nonEmpty_eq_some_iff]
  refine ⟨hquery, ?_⟩
  rintro rfl
  exact absurd h (by decide)

/-- **Which queries are left to a store.** A query that is not advanced is nothing but its words. A
query with a key, a negated term or a text with a space in it is advanced. For every advanced query
a scan is planned, with the terms that are read. The store is asked for no text and no offset, but
for the rows within the bounds on level, service and time, which are the bounds that it is asked for
where the same criteria come with a query that is not advanced. -/
theorem build_of_query (query : String) :
    (isAdvanced query = false →
      Query.terms query = (Query.words query).map fun word => ⟨.text, word, false⟩) ∧
    ((∃ t ∈ Query.terms query, t.kind ≠ .text ∨ t.negated = true ∨ ' ' ∈ t.value.toList) →
      isAdvanced query = true) ∧
    (isAdvanced query = true → ∀ (limits : ScanLimits) (c : Criteria), c.query = some query →
      build limits c = .scan c.restriction (limits.budget c.limit) (Query.terms query) c.limit
        (c.offset.getD 0) ∧
      (build limits c).selection = ⟨c.restriction, none, some (limits.budget c.limit), none⟩ ∧
      (∀ row, (build limits c).selection.admits row = c.inBounds row) ∧
      ∀ other, ({ c with query := other } : Criteria).isAdvanced = false →
        ∃ selection, build limits { c with query := other } = .direct selection ∧
          selection.restriction = (build limits c).selection.restriction) := by
  refine ⟨Query.terms_of_plain, ?_, ?_⟩
  · rintro ⟨t, ht, hmore⟩
    exact Query.isAdvanced_of_mem_terms ht hmore
  · intro hadvanced limits c hquery
    have hscan := build_scan limits (query?_of_isAdvanced hquery hadvanced) hadvanced
    refine ⟨hscan, ?_, fun row => ?_, fun other hother => ?_⟩
    · rw [hscan, selection]
    · rw [hscan, selection, Search.admits_eq]
      exact Bool.and_true _
    · refine ⟨_, build_direct limits hother, ?_⟩
      rw [hscan]
      rfl

/-- The errors that a query asks for. -/
def errorsOf (query : String) : Criteria :=
  { Criteria.everything with query := some query, level := some "error" }

/-- A tab and a wide space are parts of a word. A text with a space in it is looked for by a scan,
    within the level that a query of words is looked for in. -/
theorem build_of_query_phrase :
    Query.terms " größe\tfehlt\u3000  jetzt" =
      [⟨.text, "größe\tfehlt\u3000", false⟩, ⟨.text, "jetzt", false⟩] ∧
    ∀ limits : ScanLimits,
      build limits (errorsOf "\"card declined\"") =
        .scan { Restriction.none with level := some "error" } (limits.budget none)
          [⟨.text, "card declined", false⟩] none 0 ∧
      ∃ selection, build limits (errorsOf "card declined") = .direct selection ∧
        selection.restriction = { Restriction.none with level := some "error" } := by
  have hterms : Query.terms "\"card declined\"" = [⟨.text, "card declined", false⟩] := by
    have hterm :
        Query.termAt "\"card declined\"".toList = (⟨.text, "card declined", false⟩, []) := by
      decide
    simp_all [Query.terms, Query.termsOf]
  obtain ⟨hwords, -, -⟩ := build_of_query " größe\tfehlt\u3000  jetzt"
  obtain ⟨-, hmore, hscan⟩ := build_of_query "\"card declined\""
  have hphrase : ⟨.text, "card declined", false⟩ ∈ Query.terms "\"card declined\"" := by
    rw [hterms]
    exact List.mem_singleton_self _
  have hadvanced := hmore ⟨_, hphrase, .inr (.inr (by decide))⟩
  refine ⟨hwords (by decide), fun limits => ?_⟩
  obtain ⟨hplan, hselection, -, hother⟩ :=
    hscan hadvanced limits (errorsOf "\"card declined\"") rfl
  obtain ⟨selection, hdirect, hsame⟩ := hother (some "card declined") (by decide)
  rw [hterms] at hplan
  rw [hselection] at hsame
  exact ⟨hplan, selection, hdirect, hsame⟩

end Plan

end Logbook
