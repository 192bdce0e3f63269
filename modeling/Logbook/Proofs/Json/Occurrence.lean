import Logbook.Proofs.Row
import Logbook.Proofs.Text.Sigma

/-!
# Texts found in written values

The text of a member stands in the text of its object, and keeps its lower case there: a number has
no sigma, and anything longer stands between quotation marks or brackets. So whatever is found in
the text of a member, case ignored, is found in that of the object. A string is written without
escapes unless it has a quotation mark, a backslash or a control character. What is found in a
string that is written with escapes is found in what is written as well, if it has none of these
characters itself and no sigma, for an escape may put a letter in front of one.

Results:

* `sealed_chars`: the text of a value keeps its lower case wherever it stands.
* `infix_lower_stringText`: what is found in a string is found in the written string.
* `infix_folded_object`: what is found in a member is found in the written object.
-/

namespace Logbook.Json

open Text (Edge Sealed sealed_of_enclosed sealed_of_no_sigma lower lowerChar lower_enclosed
  plainLower unsigma infix_lower_iff infix_flatMap_of_agree)

theorem edge_quote : Edge '"' := by decide +kernel

theorem edge_brackets : Edge '[' ∧ Edge ']' := by decide +kernel

theorem edge_braces : Edge '\x7b' ∧ Edge '\x7d' := by decide +kernel

/-! ## Values -/

theorem sigma_not_mem_numberText (n : Number) : 'Σ' ∉ numberText n := by
  rw [numberText_eq]
  intro h
  exact absurd (n.proper_numeral.mem_chars h) (by decide)

/-- **The text of a value keeps its lower case** in every text that it stands in. -/
theorem sealed_chars (v : Json) : Sealed (chars v) := by
  cases v with
  | null => exact sealed_of_no_sigma (by decide)
  | bool b => cases b <;> exact sealed_of_no_sigma (by decide)
  | number n => exact sealed_of_no_sigma (sigma_not_mem_numberText n)
  | string s => exact sealed_of_enclosed edge_quote edge_quote _
  | array items => exact sealed_of_enclosed edge_brackets.1 edge_brackets.2 _
  | object ms => exact sealed_of_enclosed edge_braces.1 edge_braces.2 _

theorem chars_infix_memberChars {m : String × Json} {ms : Members} (h : m ∈ ms) :
    chars m.2 <:+: memberChars ms := by
  match ms with
  | [] => exact absurd h List.not_mem_nil
  | [(k, v)] =>
    rw [List.mem_singleton.1 h]
    exact ⟨stringText k ++ [':'], [], by simp [memberChars]⟩
  | (k, v) :: m' :: rest =>
    rcases List.mem_cons.1 h with rfl | hrest
    · exact ⟨stringText k ++ [':'], ',' :: memberChars (m' :: rest), by simp [memberChars]⟩
    · have hbehind := chars_infix_memberChars hrest
      have hsuffix : memberChars (m' :: rest) <:+ memberChars ((k, v) :: m' :: rest) :=
        ⟨stringText k ++ ':' :: chars v ++ [','], by simp [memberChars]⟩
      exact hbehind.trans hsuffix.isInfix

/-! ## Strings -/

/-- No character of a text is written as an escape. -/
def Literal (cs : List Char) : Prop :=
  ∀ c ∈ cs, escaped c = [c]

instance (cs : List Char) : Decidable (Literal cs) :=
  inferInstanceAs (Decidable (∀ c ∈ cs, _))

/-- A lower-case text of which escapes and the ends of words change nothing. -/
def Steady (cs : List Char) : Prop :=
  'σ' ∉ cs ∧ 'ς' ∉ cs ∧ Literal cs

instance (cs : List Char) : Decidable (Steady cs) :=
  inferInstanceAs (Decidable (_ ∧ _))

variable {q : List Char}

theorem flatMap_escaped_of_literal {cs : List Char} (h : Literal cs) : cs.flatMap escaped = cs := by
  rw [List.flatMap_congr h, List.flatMap_singleton']

/-- A character that is written as an escape is its own lower case. -/
theorem plainLower_of_escaped {c : Char} (h : escaped c ≠ [c]) : plainLower c = [c] := by
  have hc : c = '"' ∨ c = '\\' ∨ c.toNat < 0x20 := by
    by_contra hno
    push Not at hno
    obtain ⟨hquote, hback, hlow⟩ := hno
    exact h (by rw [escaped, if_neg hquote, if_neg hback, if_pos hlow])
  rcases hc with rfl | rfl | hlow
  · decide
  · decide
  · have hsigma : c ≠ 'ς' := by
      rintro rfl
      exact absurd hlow (by decide)
    have hletter : ¬(0x41 ≤ c.toNat ∧ c.toNat ≤ 0x5A) := by omega
    rw [plainLower, lowerChar, if_pos (by omega), if_neg hletter, List.map_singleton,
      unsigma, if_neg hsigma]

/-- What is found in a string is found in its escaped text, if the string is written as it is or
    what is looked for is steady. -/
theorem infix_lower_escaped {cs : List Char} (h : q <:+: lower cs) (hq : Literal cs ∨ Steady q) :
    q <:+: lower (cs.flatMap escaped) := by
  rcases hq with hliteral | ⟨hσ, hς, hliteral⟩
  · rwa [flatMap_escaped_of_literal hliteral]
  · rw [infix_lower_iff hσ hς] at h ⊢
    rw [List.flatMap_assoc]
    refine infix_flatMap_of_agree (fun c => ?_) h
    by_cases hc : escaped c = [c]
    · left
      rw [hc, List.flatMap_singleton]
    · right
      exact ⟨c, fun hmem => hc (hliteral c hmem), plainLower_of_escaped hc⟩

theorem infix_lower_stringText {s : String} (h : q <:+: Text.folded s)
    (hq : Literal s.toList ∨ Steady q) : q <:+: lower (stringText s) := by
  have hinner := infix_lower_escaped h hq
  rw [stringText, lower_enclosed edge_quote edge_quote]
  exact hinner.trans ⟨['"'], ['"'], rfl⟩

/-- **What is found in a member is found in the written object**, case ignored. -/
theorem infix_folded_object {m : String × Json} {ms : Members} (hm : m ∈ ms)
    (h : q <:+: Text.folded m.2.display)
    (hq : ∀ s, m.2 = .string s → Literal s.toList ∨ Steady q) :
    q <:+: Text.folded (text (.object ms)) := by
  have hmember : q <:+: lower (chars m.2) := by
    obtain ⟨name, v⟩ := m
    cases v with
    | string s => exact infix_lower_stringText h (hq s rfl)
    | _ =>
      rw [Text.folded, display, text, String.toList_ofList] at h
      · exact h
      · rintro s ⟨⟩
  have hobject : chars m.2 <:+: (text (.object ms)).toList := by
    rw [text, String.toList_ofList, chars]
    exact (chars_infix_memberChars hm).trans ⟨['\x7b'], ['\x7d'], rfl⟩
  exact hmember.trans (sealed_chars m.2 _ hobject)

end Logbook.Json
