import Logbook.Text.Casing
import Mathlib.Data.List.Infix

/-!
# Lower case and occurrence

The lower case of a text is that of its characters, but for the capital sigma, which looks for the
letters of its word on either side. A character that belongs to no word, such as a space or a
bracket, is looked past by nothing: what stands before it and what stands behind it are lowered as
if they stood alone. So a piece of a text keeps its lower case there if such characters enclose it,
or if it has no capital sigma. And a text that has no sigma itself is found in another one whatever
becomes of the sigmas there.

Results:

* `lower_append_edge`: the texts on either side of an edge are lowered by themselves.
* `infix_lower_iff`: where a text without sigmas is found.
* `infix_flatMap_of_agree`: a text is found whatever becomes of the characters that it lacks.
-/

namespace Logbook.Text

/-! ## Edges of words -/

/-- A character that is its own lower case and at which the search for the letters of a word ends
    without one. -/
structure Edge (s : Char) : Prop where
  cased : isCased s = false
  ignorable : isCaseIgnorable s = false
  lower : lowerChar s = [s]

instance (s : Char) : Decidable (Edge s) :=
  decidable_of_iff (isCased s = false ∧ isCaseIgnorable s = false ∧ lowerChar s = [s])
    ⟨fun ⟨cased, ignorable, lower⟩ => ⟨cased, ignorable, lower⟩,
      fun h => ⟨h.cased, h.ignorable, h.lower⟩⟩

theorem edge_space : Edge ' ' := by decide +kernel

variable {s t : Char} {q cs : List Char}

theorem Edge.ne_sigma (h : Edge s) : s ≠ 'Σ' := by
  rintro rfl
  exact absurd h.cased (by decide)

theorem meetsCased_append_edge (h : Edge s) (cs rest : List Char) :
    meetsCased (cs ++ s :: rest) = meetsCased cs := by
  induction cs with
  | nil => simp [meetsCased, h.ignorable, h.cased]
  | cons c cs ih =>
    by_cases hc : isCaseIgnorable c = true
    · simpa [meetsCased, hc] using ih
    · simp [meetsCased, hc]

theorem lowerFrom_behind_edge (h : Edge s) (near before cs : List Char) :
    lowerFrom (near ++ s :: before) cs = lowerFrom near cs := by
  induction cs generalizing near with
  | nil => rfl
  | cons c cs ih =>
    have hrest := ih (c :: near)
    rw [List.cons_append] at hrest
    rw [lowerFrom, lowerFrom, hrest]
    simp only [lowerSigma, meetsCased_append_edge h]

theorem lowerFrom_append_edge (h : Edge s) (before a b : List Char) :
    lowerFrom before (a ++ s :: b) = lowerFrom before a ++ s :: lower b := by
  induction a generalizing before with
  | nil =>
    have hbehind : lowerFrom (s :: before) b = lower b := lowerFrom_behind_edge h [] before b
    rw [List.nil_append, lowerFrom, lowerFrom, if_neg h.ne_sigma, h.lower, hbehind]
    rfl
  | cons c a ih =>
    rw [List.cons_append, lowerFrom, lowerFrom, ih, List.append_assoc]
    simp only [lowerSigma, meetsCased_append_edge h]

/-- **The texts on either side of an edge are lowered by themselves.** -/
theorem lower_append_edge (h : Edge s) (a b : List Char) :
    lower (a ++ s :: b) = lower a ++ s :: lower b :=
  lowerFrom_append_edge h [] a b

theorem lower_enclosed (hs : Edge s) (ht : Edge t) (inner : List Char) :
    lower (s :: inner ++ [t]) = s :: lower inner ++ [t] := by
  have h := lower_append_edge hs [] (inner ++ [t])
  rw [lower_append_edge ht] at h
  exact h

/-! ## Texts without sigmas -/

/-- The two small sigmas taken as one. -/
def unsigma (c : Char) : Char :=
  if c = 'ς' then 'σ' else c

/-- The lower case of a character, the two small sigmas taken as one. -/
def plainLower (c : Char) : List Char :=
  (lowerChar c).map unsigma

/-- With the two small sigmas taken as one every character is lowered by itself. -/
theorem map_unsigma_lowerFrom (before cs : List Char) :
    (lowerFrom before cs).map unsigma = cs.flatMap plainLower := by
  induction cs generalizing before with
  | nil => rfl
  | cons c cs ih =>
    rw [lowerFrom, List.map_append, ih, List.flatMap_cons]
    congr 1
    split
    · rename_i hsigma
      have hplain : plainLower 'Σ' = ['σ'] := by decide
      have hsmall : unsigma (lowerSigma before cs) = 'σ' := by
        rw [lowerSigma]
        split <;> rfl
      rw [hsigma, hplain, List.map_singleton, hsmall]
    · rfl

theorem map_unsigma_eq_self (h : ∀ c ∈ cs, unsigma c = c) : cs.map unsigma = cs := by
  rw [List.map_congr_left h, List.map_id']

/-- A text without sigmas is found whether the two small sigmas are taken as one or not. -/
theorem infix_map_unsigma_iff (hσ : 'σ' ∉ q) (hς : 'ς' ∉ q) :
    q <:+: cs.map unsigma ↔ q <:+: cs := by
  constructor
  · rintro ⟨x, y, hxy⟩
    obtain ⟨left, right, rfl, hleft, -⟩ := List.map_eq_append_iff.1 hxy.symm
    obtain ⟨before, piece, rfl, -, hpiece⟩ := List.map_eq_append_iff.1 hleft
    have hkept : piece.map unsigma = piece := by
      apply map_unsigma_eq_self
      intro c hc
      apply if_neg
      rintro rfl
      have hmem : unsigma 'ς' ∈ q := hpiece ▸ List.mem_map_of_mem hc
      exact hσ hmem
    rw [hkept] at hpiece
    exact ⟨before, right, by rw [hpiece]⟩
  · intro h
    have hkept : q.map unsigma = q := by
      apply map_unsigma_eq_self
      intro c hc
      apply if_neg
      rintro rfl
      exact hς hc
    rw [← hkept]
    exact h.map unsigma

/-- **A text without sigmas is found** wherever it is found with every character lowered by
itself. -/
theorem infix_lower_iff (hσ : 'σ' ∉ q) (hς : 'ς' ∉ q) :
    q <:+: lower cs ↔ q <:+: cs.flatMap plainLower := by
  rw [← infix_map_unsigma_iff hσ hς, lower, map_unsigma_lowerFrom]

/-! ## Texts that lack a character -/

theorem prefix_of_prefix_append_cons {x : Char} (hx : x ∉ q) {a b : List Char}
    (h : q <+: a ++ x :: b) : q <+: a := by
  rcases List.prefix_or_prefix_of_prefix h (List.prefix_append a (x :: b)) with
    hwithin | ⟨rest, rfl⟩
  · exact hwithin
  · rw [List.prefix_append_right_inj] at h
    cases rest with
    | nil => rw [List.append_nil]
    | cons d rest =>
      obtain ⟨rfl, -⟩ := List.cons_prefix_cons.1 h
      exact absurd (List.mem_append_right a List.mem_cons_self) hx

theorem infix_append_cons {x : Char} (hx : x ∉ q) {a b : List Char} (h : q <:+: a ++ x :: b) :
    q <:+: a ∨ q <:+: b := by
  induction a with
  | nil =>
    rcases List.infix_cons_iff.1 h with hprefix | hrest
    · exact Or.inl (prefix_of_prefix_append_cons hx hprefix).isInfix
    · exact Or.inr hrest
  | cons c a ih =>
    rcases List.infix_cons_iff.1 h with hprefix | hrest
    · exact Or.inl (prefix_of_prefix_append_cons hx hprefix).isInfix
    · exact (ih hrest).imp_left fun h => h.trans (List.suffix_cons c a).isInfix

/-- **A text is found whatever becomes of the characters that it lacks.** -/
theorem infix_flatMap_of_agree {f g : Char → List Char}
    (h : ∀ c, f c = g c ∨ ∃ x, x ∉ q ∧ f c = [x]) (hin : q <:+: cs.flatMap f) :
    q <:+: cs.flatMap g := by
  -- What stands before the first character that `q` lacks is the same in both.
  suffices key : ∀ before : List Char, q <:+: before ++ cs.flatMap f →
      q <:+: before ++ cs.flatMap g from key [] hin
  clear hin
  induction cs with
  | nil => exact fun before hin => hin
  | cons c cs ih =>
    intro before hin
    rw [List.flatMap_cons] at hin ⊢
    rcases h c with hsame | ⟨x, hx, hlost⟩
    · rw [hsame, ← List.append_assoc] at hin
      rw [← List.append_assoc]
      exact ih _ hin
    · rw [hlost, List.singleton_append] at hin
      rcases infix_append_cons hx hin with hbefore | hrest
      · exact hbefore.trans (List.infix_append' [] before _)
      · have hbehind := ih [] hrest
        exact hbehind.trans (List.IsSuffix.isInfix ⟨before ++ g c, by simp⟩)

end Logbook.Text
