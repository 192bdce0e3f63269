import Logbook.Proofs.Query.Select
import Mathlib.Data.List.TakeWhile

/-!
# Terms read by themselves

What a term takes off the front of a query reads as the same term when nothing else is there. The
search for a colon may look far beyond the term, into what follows, but it finds nothing there that
counts: a colon that makes a key is part of the term.

Results:

* `splitKey?_replace`: what stands behind the colon of a key may be exchanged.
* `termAt_alone`: a term reads the same by itself.
* `termsOf_alone`: by itself it is the only term.
-/

namespace Logbook.Query

/-- What is taken off the front of a text reads the same by itself. -/
def ReadsAlone {α : Type} (read : List Char → α × List Char) (cs : List Char) : Prop :=
  ∃ taken, cs = taken ++ (read cs).2 ∧ read taken = ((read cs).1, [])

/-! ## Parts of a term -/

theorem takeWhile_takeWhile_self (p : Char → Bool) (cs : List Char) :
    (cs.takeWhile p).takeWhile p = cs.takeWhile p :=
  List.takeWhile_eq_self_iff.2 fun _ hc => List.mem_takeWhile_imp hc

theorem dropWhile_takeWhile_self (p : Char → Bool) (cs : List Char) :
    (cs.takeWhile p).dropWhile p = [] :=
  List.dropWhile_eq_nil_iff.2 fun _ hc => List.mem_takeWhile_imp hc

theorem word_alone (cs : List Char) : ReadsAlone word cs := by
  refine ⟨(word cs).1, List.takeWhile_append_dropWhile.symm, ?_⟩
  simp only [word, takeWhile_takeWhile_self, dropWhile_takeWhile_self]

theorem quotedText_alone (cs : List Char) : ReadsAlone quotedText cs := by
  have hsplit := List.takeWhile_append_dropWhile (p := (· != '"')) (l := cs)
  have hhead := List.head?_dropWhile_not (· != '"') cs
  cases hrest : cs.dropWhile (· != '"') with
  | nil =>
    refine ⟨cs, ?_, ?_⟩ <;> simp only [quotedText, hrest, List.drop_nil, List.append_nil]
  | cons c rest =>
    rw [hrest] at hhead
    obtain rfl : c = '"' := by simpa using hhead
    have hquote : '"' ∉ cs.takeWhile (· != '"') := by
      intro hmem
      simpa using List.mem_takeWhile_imp hmem
    refine ⟨cs.takeWhile (· != '"') ++ ['"'], ?_, ?_⟩
    · simp only [quotedText, hrest, List.drop_one, List.tail_cons, List.append_assoc,
        List.singleton_append]
      rw [← hrest, hsplit]
    · rw [quotedText_append hquote]
      rfl

/-- What stands behind the colon of a key may be exchanged. -/
theorem splitKey?_replace {q : Bool} {cs key left : List Char}
    (h : splitKey? q cs = some (key, left)) (rest : List Char) :
    splitKey? q (key ++ ':' :: rest) = some (key, rest) := by
  induction cs generalizing q key with
  | nil => cases h
  | cons c cs ih =>
    unfold splitKey? at h
    split at h
    · rename_i hquote
      obtain ⟨⟨k, l⟩, hk, he⟩ := Option.map_eq_some_iff.1 h
      cases he
      rw [List.cons_append, splitKey?, if_pos hquote, ih hk]
      rfl
    · rename_i hquote
      split at h
      · rename_i hcolon
        cases h
        rw [List.nil_append, splitKey?, if_neg (by decide), if_pos ⟨rfl, hcolon.2⟩]
      · rename_i hcolon
        split at h
        · cases h
        · rename_i hspace
          obtain ⟨⟨k, l⟩, hk, he⟩ := Option.map_eq_some_iff.1 h
          cases he
          rw [List.cons_append, splitKey?, if_neg hquote, if_neg hcolon, if_neg hspace, ih hk]
          rfl

/-- A text without a key has none in front of any rest that leaves the whole without one. -/
theorem splitKey?_eq_none_of_append {q : Bool} {cs rest : List Char}
    (h : splitKey? q (cs ++ rest) = none) : splitKey? q cs = none := by
  cases hkey : splitKey? q cs with
  | none => rfl
  | some found =>
    obtain ⟨key, left⟩ := found
    rw [splitKey?_append hkey, List.append_assoc, List.cons_append, splitKey?_replace hkey] at h
    cases h

/-! ## Terms -/

theorem keyedTerm_closed {key : String} {cs part left : List Char}
    (h : starredText cs = (part, '*' :: left)) :
    keyedTerm key ('*' :: cs) = plainTerm (.contains key) (part, left) := by
  simp only [keyedTerm, h]

theorem keyedTerm_unclosed {key : String} {cs part left : List Char}
    (h : starredText cs = (part, left)) (hleft : left.head? ≠ some '*') :
    keyedTerm key ('*' :: cs) = plainTerm (.equals key) ('*' :: part, left) := by
  simp only [keyedTerm, h]
  split
  · rename_i heq
    cases heq
    exact absurd rfl hleft
  · rename_i heq
    cases heq
    rfl

theorem keyedTerm_starred_alone (key : String) (cs : List Char) :
    ReadsAlone (keyedTerm key) ('*' :: cs) := by
  have hsplit : cs = (starredText cs).1 ++ (starredText cs).2 :=
    List.takeWhile_append_dropWhile.symm
  have hinside : ' ' ∉ (starredText cs).1 ∧ '*' ∉ (starredText cs).1 := by
    constructor <;> exact fun hmem => by simpa using List.mem_takeWhile_imp hmem
  have halone : starredText (starredText cs).1 = ((starredText cs).1, []) := by
    simp only [starredText, takeWhile_takeWhile_self, dropWhile_takeWhile_self]
  rcases hfound : starredText cs with ⟨part, left⟩
  rw [hfound] at hsplit hinside halone
  by_cases hclosed : left.head? = some '*'
  · obtain ⟨left, rfl⟩ := List.head?_eq_some_iff.1 hclosed
    rw [ReadsAlone, keyedTerm_closed hfound]
    refine ⟨'*' :: (part ++ ['*']), ?_, ?_⟩
    · simp [plainTerm, hsplit]
    · rw [keyedTerm_closed (starredText_append hinside.1 hinside.2 [])]
      rfl
  · rw [ReadsAlone, keyedTerm_unclosed hfound hclosed]
    refine ⟨'*' :: part, congrArg _ hsplit, ?_⟩
    rw [keyedTerm_unclosed halone (by decide)]
    rfl

theorem quoted_alone {read : List Char → Term × List Char} {kind : Term.Kind}
    (hread : ∀ cs, read ('"' :: cs) = plainTerm kind (quotedText cs)) (cs : List Char) :
    ReadsAlone read ('"' :: cs) := by
  obtain ⟨taken, hcs, htaken⟩ := quotedText_alone cs
  refine ⟨'"' :: taken, ?_, ?_⟩
  · rw [hread, plainTerm, List.cons_append, ← hcs]
  · rw [hread, hread, htaken]
    rfl

/-- A word is taken as it stands, also an empty one. -/
theorem plain_alone {read : List Char → Term × List Char} (kind : Term.Kind) {cs : List Char}
    (hread : ∀ left, left.head? = cs.head? ∨ left = [] → read left = plainTerm kind (word left)) :
    ReadsAlone read cs := by
  obtain ⟨taken, hcs, htaken⟩ := word_alone cs
  have hhead : taken.head? = cs.head? ∨ taken = [] := by
    cases taken with
    | nil => exact .inr rfl
    | cons c taken =>
      rw [hcs]
      exact .inl rfl
  refine ⟨taken, ?_, ?_⟩
  · rw [hread cs (.inl rfl)]
    exact hcs
  · rw [hread taken hhead, hread cs (.inl rfl), htaken]
    rfl

theorem keyedTerm_alone (key : String) (cs : List Char) : ReadsAlone (keyedTerm key) cs := by
  by_cases hquote : cs.head? = some '"'
  · obtain ⟨cs, rfl⟩ := List.head?_eq_some_iff.1 hquote
    exact quoted_alone (fun _ => rfl) cs
  · by_cases hstar : cs.head? = some '*'
    · obtain ⟨cs, rfl⟩ := List.head?_eq_some_iff.1 hstar
      exact keyedTerm_starred_alone key cs
    · refine plain_alone (.equals key) fun left hleft => ?_
      rcases hleft with hleft | rfl
      · rw [← hleft] at hquote hstar
        exact keyedTerm_of_ne hquote hstar
      · rfl

theorem textTerm_of_head?_ne {cs : List Char} (h : cs.head? ≠ some '"') :
    textTerm cs = plainTerm .text (word cs) := by
  cases cs with
  | nil => rfl
  | cons c cs => exact textTerm_of_ne (fun hc => h (congrArg some hc)) cs

theorem textTerm_alone (cs : List Char) : ReadsAlone textTerm cs := by
  by_cases hquote : cs.head? = some '"'
  · obtain ⟨cs, rfl⟩ := List.head?_eq_some_iff.1 hquote
    exact quoted_alone (fun _ => rfl) cs
  · refine plain_alone .text fun left hleft => ?_
    rcases hleft with hleft | rfl
    · exact textTerm_of_head?_ne (hleft ▸ hquote)
    · rfl

theorem bareTerm_alone (cs : List Char) : ReadsAlone bareTerm cs := by
  cases hkey : splitKey? false cs with
  | none =>
    have hread : bareTerm cs = textTerm cs := by rw [bareTerm, hkey]
    obtain ⟨taken, hcs, htaken⟩ := textTerm_alone cs
    rw [ReadsAlone, hread]
    refine ⟨taken, hcs, ?_⟩
    rw [hcs] at hkey
    rw [bareTerm, splitKey?_eq_none_of_append hkey]
    exact htaken
  | some found =>
    obtain ⟨key, left⟩ := found
    have hread : bareTerm cs = keyedTerm (String.ofList (Text.trim key)) left := by
      rw [bareTerm, hkey]
    obtain ⟨taken, hleft, htaken⟩ := keyedTerm_alone (String.ofList (Text.trim key)) left
    rw [ReadsAlone, hread]
    refine ⟨key ++ ':' :: taken, ?_, ?_⟩
    · rw [List.append_assoc, List.cons_append, ← hleft]
      exact splitKey?_append hkey
    · rw [bareTerm, splitKey?_replace hkey]
      exact htaken

/-- If something is taken off the front of a text, it begins as the text does. -/
theorem taken_eq_cons {c : Char} {cs taken left : List Char} (h : c :: cs = taken ++ left)
    (hlt : left.length < (c :: cs).length) : ∃ rest, taken = c :: rest := by
  cases taken with
  | nil =>
    rw [h] at hlt
    exact absurd hlt (Nat.lt_irrefl _)
  | cons d rest =>
    obtain rfl : c = d := (List.cons.inj h).1
    exact ⟨rest, rfl⟩

/-- **A term reads the same by itself.** -/
theorem termAt_alone {c : Char} (hc : c ≠ ' ') (cs : List Char) :
    ReadsAlone termAt (c :: cs) := by
  by_cases hminus : c = '-'
  · subst hminus
    obtain ⟨taken, hcs, htaken⟩ := bareTerm_alone cs
    refine ⟨'-' :: taken, ?_, ?_⟩
    · rw [termAt, List.cons_append, ← hcs]
    · rw [termAt, termAt, htaken]
  · have hlt := termAt_length hc cs
    have hread := termAt_of_ne_minus hminus cs
    obtain ⟨taken, hcs, htaken⟩ := bareTerm_alone (c :: cs)
    rw [hread] at hlt
    obtain ⟨rest, rfl⟩ := taken_eq_cons hcs hlt
    rw [ReadsAlone, hread]
    refine ⟨c :: rest, hcs, ?_⟩
    rw [termAt_of_ne_minus hminus]
    exact htaken

theorem termsOf_alone {c : Char} (hc : c ≠ ' ') (cs : List Char) :
    ∃ taken, taken ≠ [] ∧ c :: cs = taken ++ (termAt (c :: cs)).2 ∧
      termsOf taken = [(termAt (c :: cs)).1] := by
  obtain ⟨taken, hcs, htaken⟩ := termAt_alone hc cs
  obtain ⟨rest, rfl⟩ := taken_eq_cons hcs (termAt_length hc cs)
  refine ⟨c :: rest, List.cons_ne_nil c rest, hcs, ?_⟩
  rw [termsOf_cons hc, htaken, termsOf_nil]

end Logbook.Query
