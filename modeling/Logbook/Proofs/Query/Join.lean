import Logbook.Proofs.Query.ReadBack

/-!
# Queries joined by a space

A text without quotation marks is read the same way whether a space and further text follow it or
nothing does: every part of a term that ends at the end of the text ends at a space as well. Only a
quoted text would run on past the space. So two texts with a space between them are read as the
terms of the first one and then those of the second one.

Results:

* `splitKey?_append_space`: the search for a colon stops at the space.
* `termAt_append_space`: a term is read off the front as if nothing followed the first text.
* `terms_append_space`: joined queries have the terms of both.
-/

namespace Logbook.Query

/-- What was found and what is left, where a space and more text follow. -/
def followed {α : Type} (found : α × List Char) (rest : List Char) : α × List Char :=
  (found.1, found.2 ++ ' ' :: rest)

/-! ## Parts of a term -/

section Span

variable {p : Char → Bool} (hp : p ' ' = false) (cs rest : List Char)
include hp

theorem takeWhile_append_space : (cs ++ ' ' :: rest).takeWhile p = cs.takeWhile p := by
  induction cs with
  | nil => simp [hp]
  | cons c cs ih => rw [List.cons_append, List.takeWhile_cons, List.takeWhile_cons, ih]

theorem dropWhile_append_space :
    (cs ++ ' ' :: rest).dropWhile p = cs.dropWhile p ++ ' ' :: rest := by
  induction cs with
  | nil => simp [hp]
  | cons c cs ih =>
    rw [List.cons_append, List.dropWhile_cons, List.dropWhile_cons, ih]
    split <;> rfl

end Span

theorem word_append_space (cs rest : List Char) :
    word (cs ++ ' ' :: rest) = followed (word cs) rest := by
  rw [word, takeWhile_append_space rfl, dropWhile_append_space rfl]
  rfl

theorem starredText_append_space (cs rest : List Char) :
    starredText (cs ++ ' ' :: rest) = followed (starredText cs) rest := by
  rw [starredText, takeWhile_append_space rfl, dropWhile_append_space rfl]
  rfl

variable {cs : List Char}

/-- The search for a colon stops at the space. -/
theorem splitKey?_append_space (h : '"' ∉ cs) (rest : List Char) :
    splitKey? false (cs ++ ' ' :: rest) = (splitKey? false cs).map (followed · rest) := by
  induction cs with
  | nil => simp [splitKey?]
  | cons c cs ih =>
    have hc : c ≠ '"' := fun heq => h (heq ▸ List.mem_cons_self)
    have htail := ih fun hmem => h (List.mem_cons_of_mem c hmem)
    rw [List.cons_append, splitKey?, splitKey?, if_neg hc, if_neg hc, htail]
    split
    · rfl
    · split
      · rfl
      · cases splitKey? false cs <;> rfl

/-! ## Terms -/

theorem keyedTerm_append_space (key : String) (h : '"' ∉ cs) (rest : List Char) :
    keyedTerm key (cs ++ ' ' :: rest) = followed (keyedTerm key cs) rest := by
  cases cs with
  | nil => rfl
  | cons c cs =>
    have hquote : c ≠ '"' := fun heq => h (heq ▸ List.mem_cons_self)
    by_cases hstar : c = '*'
    · subst hstar
      have hpart := starredText_append_space cs rest
      rw [List.cons_append]
      unfold keyedTerm
      simp only [hpart, followed]
      rcases starredText cs with ⟨part, _ | ⟨d, left⟩⟩
      · rfl
      · by_cases hd : d = '*'
        · subst hd
          rfl
        · simp [hd, plainTerm]
    · have hhead : ∀ left mark, c ≠ mark → (c :: left).head? ≠ some mark := by
        intro left mark hmark heq
        exact hmark (Option.some.inj heq)
      rw [List.cons_append, keyedTerm_of_ne (hhead _ _ hquote) (hhead _ _ hstar),
        keyedTerm_of_ne (hhead _ _ hquote) (hhead _ _ hstar), ← List.cons_append,
        word_append_space]
      rfl

theorem textTerm_append_space (h : '"' ∉ cs) (rest : List Char) :
    textTerm (cs ++ ' ' :: rest) = followed (textTerm cs) rest := by
  cases cs with
  | nil => rfl
  | cons c cs =>
    have hquote : c ≠ '"' := fun heq => h (heq ▸ List.mem_cons_self)
    rw [List.cons_append, textTerm_of_ne hquote, textTerm_of_ne hquote, ← List.cons_append,
      word_append_space]
    rfl

theorem quote_not_mem_of_splitKey? {key left : List Char} (h : '"' ∉ cs)
    (hkey : splitKey? false cs = some (key, left)) : '"' ∉ left := by
  rw [splitKey?_append hkey] at h
  exact fun hmem => h (List.mem_append_right key (List.mem_cons_of_mem ':' hmem))

theorem bareTerm_append_space (h : '"' ∉ cs) (rest : List Char) :
    bareTerm (cs ++ ' ' :: rest) = followed (bareTerm cs) rest := by
  rw [bareTerm, bareTerm, splitKey?_append_space h]
  cases hkey : splitKey? false cs with
  | none => exact textTerm_append_space h rest
  | some found => exact keyedTerm_append_space _ (quote_not_mem_of_splitKey? h hkey) rest

theorem termAt_of_ne_minus {c : Char} (hminus : c ≠ '-') (cs : List Char) :
    termAt (c :: cs) = bareTerm (c :: cs) := by
  simp [termAt, hminus]

/-- **A term is read off the front** of a text without quotation marks as if nothing followed. -/
theorem termAt_append_space (h : '"' ∉ cs) (rest : List Char) :
    termAt (cs ++ ' ' :: rest) = followed (termAt cs) rest := by
  cases cs with
  | nil => rfl
  | cons c cs =>
    have hcs : '"' ∉ cs := fun hmem => h (List.mem_cons_of_mem c hmem)
    by_cases hminus : c = '-'
    · subst hminus
      rw [List.cons_append, termAt, termAt, bareTerm_append_space hcs]
      rfl
    · rw [List.cons_append, termAt_of_ne_minus hminus, termAt_of_ne_minus hminus,
        ← List.cons_append, bareTerm_append_space h]

/-! ## What a term leaves -/

theorem quotedText_suffix (cs : List Char) : (quotedText cs).2 <:+ cs :=
  (List.drop_suffix 1 _).trans (List.dropWhile_suffix _)

theorem keyedTerm_suffix (key : String) (cs : List Char) : (keyedTerm key cs).2 <:+ cs := by
  unfold keyedTerm
  split
  · rename_i rest
    exact (quotedText_suffix rest).trans (List.suffix_cons '"' rest)
  · rename_i rest
    have hpart : (starredText rest).2 <:+ rest := List.dropWhile_suffix _
    have hrest := hpart.trans (List.suffix_cons '*' rest)
    split
    · rename_i part left hfound
      rw [hfound] at hrest
      exact (List.suffix_cons '*' left).trans hrest
    · rename_i part left _ hfound
      rw [hfound] at hrest
      exact hrest
  · exact List.dropWhile_suffix _

theorem textTerm_suffix (cs : List Char) : (textTerm cs).2 <:+ cs := by
  unfold textTerm
  split
  · rename_i rest
    exact (quotedText_suffix rest).trans (List.suffix_cons '"' rest)
  · exact List.dropWhile_suffix _

theorem bareTerm_suffix (cs : List Char) : (bareTerm cs).2 <:+ cs := by
  unfold bareTerm
  split
  · rename_i key rest hkey
    have hrest : rest <:+ cs := by
      rw [splitKey?_append hkey]
      exact (List.suffix_cons ':' rest).trans (List.suffix_append key _)
    exact (keyedTerm_suffix _ rest).trans hrest
  · exact textTerm_suffix cs

theorem termAt_suffix (cs : List Char) : (termAt cs).2 <:+ cs := by
  unfold termAt
  split
  · rename_i rest
    exact (bareTerm_suffix rest).trans (List.suffix_cons '-' rest)
  · exact bareTerm_suffix cs

/-- **Joined queries have the terms of both**, if the first one has no quotation mark. -/
theorem termsOf_append_space (h : '"' ∉ cs) (rest : List Char) :
    termsOf (cs ++ ' ' :: rest) = termsOf cs ++ termsOf rest := by
  induction cs using termsOf.induct with
  | case1 => rw [List.nil_append, termsOf_space, termsOf_nil, List.nil_append]
  | case2 cs ih =>
    rw [List.cons_append, termsOf_space, termsOf_space]
    exact ih fun hmem => h (List.mem_cons_of_mem ' ' hmem)
  | case3 c cs hspace ih =>
    have hleft : '"' ∉ (termAt (c :: cs)).2 := fun hmem => h ((termAt_suffix _).subset hmem)
    have hterm := termAt_append_space h rest
    rw [List.cons_append] at hterm ⊢
    rw [termsOf_cons hspace, termsOf_cons hspace, hterm, followed, ih hleft, List.cons_append]

theorem terms_append_space {a : String} (h : '"' ∉ a.toList) (b : String) :
    terms (a ++ " " ++ b) = terms a ++ terms b := by
  have hchars : (a ++ " " ++ b).toList = a.toList ++ ' ' :: b.toList := by
    simp
  rw [terms, hchars, termsOf_append_space h]
  rfl

end Logbook.Query
