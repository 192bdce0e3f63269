import Logbook.Proofs.Text.Casing

/-!
# Capital sigmas in a piece of a text

A capital sigma is lowered to `ς` if it ends a word and to `σ` otherwise, and that is decided by
the nearest characters on either side that are not passed over. So the lower case of a piece of a
text is the one that the piece has by itself if each of its sigmas ends a word in the text exactly
if it ends one in the piece. This holds in every text if both searches of every sigma end within the
piece, or one of them decides alone: a letter behind the sigma, or something other than a letter in
front of it. Any other piece loses its lower case in some text, which has just one letter more.

Results:

* `lowerIn_eq_iff`: when a piece of a text is lowered as it is by itself.
* `lower_infix_of_keepsCase`: such a piece is found.
* `sealed_iff_settled`: the pieces that keep their lower case wherever they stand.
* `sealed_of_no_sigma`, `sealed_of_enclosed`: pieces without a capital sigma, and those between two
  edges.
-/

namespace Logbook.Text

variable {p q cs piece : List Char}

/-! ## The lower case of a piece -/

/-- The lower case of a piece of a text between the characters `before`, nearest first, and those
    behind it. -/
def lowerIn (before : List Char) : (piece after : List Char) → List Char
  | [], _ => []
  | c :: piece, after =>
    (if c = 'Σ' then [lowerSigma before (piece ++ after)] else lowerChar c) ++
      lowerIn (c :: before) piece after

theorem lowerIn_nil (before cs : List Char) : lowerIn before cs [] = lowerFrom before cs := by
  induction cs generalizing before with
  | nil => rfl
  | cons c cs ih => rw [lowerIn, lowerFrom, ih, List.append_nil]

theorem lowerIn_append (before a b after : List Char) :
    lowerIn before (a ++ b) after =
      lowerIn before a (b ++ after) ++ lowerIn (a.reverse ++ before) b after := by
  induction a generalizing before with
  | nil => rfl
  | cons c a ih =>
    rw [List.cons_append, lowerIn, lowerIn, ih, List.append_assoc, List.append_assoc,
      List.reverse_cons, List.append_assoc a.reverse]
    rfl

theorem lower_append (a piece b : List Char) :
    lower (a ++ piece ++ b) =
      lowerIn [] a (piece ++ b) ++ lowerIn a.reverse piece b ++
        lowerIn (piece.reverse ++ a.reverse) b [] := by
  rw [lower, ← lowerIn_nil, List.append_assoc, lowerIn_append, lowerIn_append]
  simp

/-- The two small sigmas are of one length, so what stands around a piece does not matter for the
    length of its lower case. -/
theorem length_lowerIn (before piece after : List Char) :
    (lowerIn before piece after).length = (lower piece).length := by
  have hflat : ∀ piece before after, (lowerIn before piece after).length =
      (piece.flatMap lowerChar).length := by
    intro piece
    induction piece with
    | nil => exact fun _ _ => rfl
    | cons c piece ih =>
      intro before after
      rw [lowerIn, List.length_append, ih, List.flatMap_cons, List.length_append]
      by_cases hc : c = 'Σ'
      · have hsigma : (lowerChar 'Σ').length = 1 := by decide +kernel
        rw [if_pos hc, hc, hsigma]
        rfl
      · rw [if_neg hc]
  rw [lower, ← lowerIn_nil, hflat, hflat]

/-! ## Sigmas that end a word -/

/-- Every capital sigma of a piece ends a word in the text exactly if it ends one in the piece. -/
def KeepsCase (before piece after : List Char) : Prop :=
  ∀ p q, piece = p ++ 'Σ' :: q →
    lowerSigma (p.reverse ++ before) (q ++ after) = lowerSigma p.reverse q

/-- What stands around the rest of a piece does not matter for it if it does not matter for its
    sigmas; `near` is the part of the piece in front of the rest. -/
theorem lowerIn_of_agree {before after : List Char} (near : List Char)
    (h : ∀ p q, piece = p ++ 'Σ' :: q →
      lowerSigma (p.reverse ++ (near ++ before)) (q ++ after) = lowerSigma (p.reverse ++ near) q) :
    lowerIn (near ++ before) piece after = lowerIn near piece [] := by
  induction piece generalizing near with
  | nil => rfl
  | cons c piece ih =>
    have hrest := ih (c :: near) fun p q hpiece => by
      have hsigma := h (c :: p) q (by rw [hpiece]; rfl)
      simpa using hsigma
    rw [lowerIn, lowerIn, ← List.cons_append, hrest, List.append_nil]
    by_cases hc : c = 'Σ'
    · have hsigma := h [] piece (by rw [hc]; rfl)
      rw [List.reverse_nil, List.nil_append, List.nil_append] at hsigma
      rw [if_pos hc, if_pos hc, hsigma]
    · rw [if_neg hc, if_neg hc]

/-- **When a piece of a text is lowered as it is by itself.** -/
theorem lowerIn_eq_iff {before after : List Char} :
    lowerIn before piece after = lower piece ↔ KeepsCase before piece after := by
  rw [lower, ← lowerIn_nil]
  constructor
  · rintro h p q rfl
    rw [lowerIn_append, lowerIn_append [] p] at h
    have hlength : (lowerIn before p ('Σ' :: q ++ after)).length =
        (lowerIn [] p ('Σ' :: q ++ [])).length := by
      rw [length_lowerIn, length_lowerIn]
    have hsigma := (List.append_inj h hlength).2
    rw [lowerIn, lowerIn, if_pos rfl, if_pos rfl, List.append_nil, List.append_nil] at hsigma
    exact (List.cons.inj hsigma).1
  · intro h
    apply lowerIn_of_agree []
    intro p q hpiece
    rw [List.nil_append, List.append_nil]
    exact h p q hpiece

instance (before piece after : List Char) : Decidable (KeepsCase before piece after) :=
  decidable_of_iff _ lowerIn_eq_iff

/-- **A piece that is lowered as it is by itself is found.** -/
theorem lower_infix_of_keepsCase {a b : List Char} (h : KeepsCase a.reverse piece b) :
    lower piece <:+: lower (a ++ piece ++ b) := by
  rw [lower_append, lowerIn_eq_iff.2 h]
  exact ⟨_, _, rfl⟩

/-! ## Pieces that keep their lower case -/

/-- The lower case of a text stands in that of every text that it is a piece of. -/
def Sealed (piece : List Char) : Prop :=
  ∀ cs, piece <:+: cs → lower piece <:+: lower cs

/-- Whether the search for a letter of the word ends in a text. -/
def endsSearch (cs : List Char) : Bool :=
  cs.any fun c => !isCaseIgnorable c

/-- Every capital sigma of a piece is lowered as the piece alone decides: a letter stands behind it,
    or the search in front of it ends, with something else than a letter or with an end of the other
    one as well. -/
def Settled (piece : List Char) : Prop :=
  ∀ p q, piece = p ++ 'Σ' :: q → meetsCased q = true ∨
    endsSearch p = true ∧ (meetsCased p.reverse = false ∨ endsSearch q = true)

theorem endsSearch_reverse (cs : List Char) : endsSearch cs.reverse = endsSearch cs :=
  List.any_reverse

theorem meetsCased_append_of_endsSearch (h : endsSearch cs = true) (rest : List Char) :
    meetsCased (cs ++ rest) = meetsCased cs := by
  induction cs with
  | nil => cases h
  | cons c cs ih =>
    by_cases hc : isCaseIgnorable c = true
    · rw [endsSearch, List.any_cons, hc] at h
      simpa [meetsCased, hc] using ih h
    · simp [meetsCased, hc]

theorem meetsCased_append_of_not_endsSearch (h : endsSearch cs = false) (rest : List Char) :
    meetsCased (cs ++ rest) = meetsCased rest := by
  induction cs with
  | nil => rfl
  | cons c cs ih =>
    rw [endsSearch, List.any_cons, Bool.or_eq_false_iff, Bool.not_eq_false'] at h
    simpa [meetsCased, h.1] using ih h.2

theorem endsSearch_of_meetsCased (h : meetsCased cs = true) : endsSearch cs = true := by
  by_contra hopen
  have hnone := meetsCased_append_of_not_endsSearch (Bool.eq_false_iff.2 hopen) []
  rw [List.append_nil, h] at hnone
  cases hnone

theorem keepsCase_of_settled (h : Settled piece) (before after : List Char) :
    KeepsCase before piece after := by
  intro p q hpiece
  simp only [lowerSigma]
  rcases h p q hpiece with hletter | ⟨hp, hnone | hq⟩
  · rw [meetsCased_append_of_endsSearch (endsSearch_of_meetsCased hletter), hletter]
    simp
  · rw [← endsSearch_reverse] at hp
    rw [meetsCased_append_of_endsSearch hp, hnone]
    rfl
  · rw [← endsSearch_reverse] at hp
    rw [meetsCased_append_of_endsSearch hp, meetsCased_append_of_endsSearch hq]

theorem sealed_of_settled (h : Settled piece) : Sealed piece := by
  rintro _ ⟨a, b, rfl⟩
  exact lower_infix_of_keepsCase (keepsCase_of_settled h _ _)

theorem sealed_of_no_sigma (h : 'Σ' ∉ piece) : Sealed piece := by
  apply sealed_of_settled
  rintro p q rfl
  exact absurd (List.mem_append_right p List.mem_cons_self) h

/-- A piece between two edges keeps its lower case: both searches end there. -/
theorem sealed_of_enclosed {s t : Char} (hs : Edge s) (ht : Edge t) (inner : List Char) :
    Sealed (s :: inner ++ [t]) := by
  apply sealed_of_settled
  intro p q hpiece
  have hfront : endsSearch p = true := by
    cases p with
    | nil => exact absurd (List.cons.inj hpiece).1 hs.ne_sigma
    | cons c p =>
      obtain rfl := (List.cons.inj hpiece).1
      simp [endsSearch, hs.ignorable]
  have hbehind : endsSearch q = true := by
    rcases List.eq_nil_or_concat q with rfl | ⟨q, c, rfl⟩
    · exact absurd (List.append_inj' hpiece rfl).2 (by simpa using ht.ne_sigma)
    · rw [List.concat_eq_append, ← List.cons_append, ← List.append_assoc] at hpiece
      obtain rfl := List.singleton_inj.1 (List.append_inj' hpiece rfl).2
      simp [endsSearch, ht.ignorable]
  exact Or.inr ⟨hfront, Or.inr hbehind⟩

/-! ## Pieces that do not -/

theorem eq_of_infix_cons {x : Char} (hx : q.head? ≠ some x) (hlength : cs.length = q.length)
    (h : q <:+: x :: cs) : cs = q := by
  rcases List.infix_cons_iff.1 h with hprefix | hrest
  · cases q with
    | nil => exact List.eq_nil_of_length_eq_zero hlength
    | cons c q => exact absurd (congrArg some (List.cons_prefix_cons.1 hprefix).1) hx
  · exact (hrest.eq_of_length hlength.symm).symm

theorem eq_of_infix_concat {x : Char} (hx : q.getLast? ≠ some x) (hlength : cs.length = q.length)
    (h : q <:+: cs ++ [x]) : cs = q := by
  rw [← List.head?_reverse] at hx
  have hreversed := List.reverse_infix.2 h
  rw [List.reverse_append] at hreversed
  have heq := eq_of_infix_cons hx (by simpa using hlength) hreversed
  exact List.reverse_injective heq

theorem exists_letter (taken : Option Char) : ∃ x, x ≠ 'Σ' ∧ lowerChar x = [x] ∧
    meetsCased [x] = true ∧ taken ≠ some x := by
  by_cases h : taken = some 'a'
  · exact ⟨'b', by decide, by decide, by decide +kernel, by rw [h]; decide⟩
  · exact ⟨'a', by decide, by decide, by decide +kernel, h⟩

theorem Sealed.behind_letter (h : Sealed piece) :
    ∃ x, meetsCased [x] = true ∧ KeepsCase [x] piece [] := by
  obtain ⟨x, hsigma, hlower, hletter, hother⟩ := exists_letter (lower piece).head?
  have hfound := h (x :: piece) (List.suffix_cons x piece).isInfix
  have hfront : lower (x :: piece) = x :: lowerIn [x] piece [] := by
    rw [lower, lowerFrom, if_neg hsigma, hlower, lowerIn_nil]
    rfl
  rw [hfront] at hfound
  exact ⟨x, hletter, lowerIn_eq_iff.1 (eq_of_infix_cons hother (length_lowerIn _ _ _) hfound)⟩

theorem Sealed.before_letter (h : Sealed piece) :
    ∃ x, meetsCased [x] = true ∧ KeepsCase [] piece [x] := by
  obtain ⟨x, hsigma, hlower, hletter, hother⟩ := exists_letter (lower piece).getLast?
  have hfound := h (piece ++ [x]) (List.prefix_append piece [x]).isInfix
  have hlast : lowerIn piece.reverse [x] [] = [x] := by
    rw [lowerIn, if_neg hsigma, hlower]
    rfl
  have happend := lower_append [] piece [x]
  rw [List.nil_append, List.reverse_nil, List.append_nil, hlast] at happend
  rw [happend] at hfound
  exact ⟨x, hletter, lowerIn_eq_iff.1 (eq_of_infix_concat hother (length_lowerIn _ _ _) hfound)⟩

theorem settled_of_sealed (h : Sealed piece) : Settled piece := by
  intro p q hpiece
  rw [or_iff_not_imp_left, Bool.not_eq_true]
  intro hq
  constructor
  · obtain ⟨x, hletter, hkeeps⟩ := h.behind_letter
    by_contra hp
    rw [Bool.not_eq_true, ← endsSearch_reverse] at hp
    have hsame := hkeeps p q hpiece
    have halone : meetsCased p.reverse = false := by
      rw [← List.append_nil p.reverse, meetsCased_append_of_not_endsSearch hp]
      rfl
    rw [lowerSigma, lowerSigma, meetsCased_append_of_not_endsSearch hp, List.append_nil, hletter,
      hq, halone] at hsame
    exact absurd hsame (by decide)
  · obtain ⟨x, hletter, hkeeps⟩ := h.before_letter
    by_contra hopen
    rw [not_or, Bool.not_eq_false, Bool.not_eq_true] at hopen
    have hsame := hkeeps p q hpiece
    rw [lowerSigma, lowerSigma, List.append_nil, hopen.1,
      meetsCased_append_of_not_endsSearch hopen.2, hletter, hq] at hsame
    exact absurd hsame (by decide)

/-- **The pieces that keep their lower case wherever they stand** are those of which every capital
sigma is settled. -/
theorem sealed_iff_settled : Sealed piece ↔ Settled piece :=
  ⟨settled_of_sealed, sealed_of_settled⟩

end Logbook.Text
