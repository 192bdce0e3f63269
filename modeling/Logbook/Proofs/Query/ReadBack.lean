import Logbook.Query.Scan
import Logbook.Proofs.Text.Lines

/-!
# Written queries read back

Terms can be written as a query: a value between quotation marks, or bare where it cannot be taken
for anything else, a part between asterisks, a key with a colon before either, and a minus sign in
front of a negated term. Spaces part the terms. What was written so is read back as the same terms,
whichever of them stand side by side.

What carries the proof is that a written term ends where a space follows, and that the search for a
colon stops there too: its quotation marks are closed, and it holds no bare space.

Results:

* `splitKey?_append_of_plain`: the search for a colon passes over what means nothing to it.
* `termAt_chars`: a written term is read off the front of a text.
* `terms_of_spaced`: written terms with spaces between them are read back.
-/

namespace Logbook

namespace Term

/-! ## Writing terms -/

/-- How a value stands in a query. -/
inductive Style where
  /-- Between quotation marks. -/
  | quoted
  /-- By itself. -/
  | bare
  deriving DecidableEq

/-- A value as it stands in a query. -/
def Style.chars : Style → List Char → List Char
  | .quoted, value => '"' :: value ++ ['"']
  | .bare, value => value

/-- A term as it stands in a query, but for its sign. A part has one style only. -/
def body (style : Style) (t : Term) : List Char :=
  match t.kind with
  | .text => style.chars t.value.toList
  | .equals key => key.toList ++ ':' :: style.chars t.value.toList
  | .contains key => key.toList ++ ':' :: '*' :: t.value.toList ++ ['*']

/-- A term as it stands in a query. -/
def chars (style : Style) (t : Term) : List Char :=
  if t.negated then '-' :: t.body style else t.body style

/-- A key that can be written: nothing in it ends the key or opens a quoted text, reading takes no
    blanks off it, and it does not begin with a minus sign that would be taken for that of the
    term. -/
structure WritableKey (negated : Bool) (key : List Char) : Prop where
  no_colon : ':' ∉ key
  no_space : ' ' ∉ key
  no_quote : '"' ∉ key
  trimmed : Text.trim key = key
  sign : key.head? = some '-' → negated = true

instance (negated : Bool) (key : List Char) : Decidable (WritableKey negated key) :=
  decidable_of_iff
    (':' ∉ key ∧ ' ' ∉ key ∧ '"' ∉ key ∧ Text.trim key = key ∧
      (key.head? = some '-' → negated = true))
    ⟨fun ⟨colon, space, quote, trimmed, sign⟩ => ⟨colon, space, quote, trimmed, sign⟩,
      fun h => ⟨h.no_colon, h.no_space, h.no_quote, h.trimmed, h.sign⟩⟩

/-- A term that can be written in a style. -/
def Writable (style : Style) (t : Term) : Prop :=
  match t.kind, style with
  | .text, .quoted => '"' ∉ t.value.toList
  | .text, .bare =>
    t.value ≠ "" ∧ ' ' ∉ t.value.toList ∧ ':' ∉ t.value.toList ∧ '"' ∉ t.value.toList ∧
      t.value.toList.head? ≠ some '-'
  | .equals key, .quoted => WritableKey t.negated key.toList ∧ '"' ∉ t.value.toList
  | .equals key, .bare =>
    WritableKey t.negated key.toList ∧ ' ' ∉ t.value.toList ∧
      t.value.toList.head? ≠ some '"' ∧ t.value.toList.head? ≠ some '*'
  | .contains key, _ =>
    WritableKey t.negated key.toList ∧ ' ' ∉ t.value.toList ∧ '*' ∉ t.value.toList

instance : (style : Style) → (t : Term) → Decidable (t.Writable style)
  | .quoted, ⟨.text, _, _⟩ => inferInstanceAs (Decidable (_ ∉ _))
  | .bare, ⟨.text, _, _⟩ => inferInstanceAs (Decidable (_ ∧ _))
  | .quoted, ⟨.equals _, _, _⟩ => inferInstanceAs (Decidable (_ ∧ _))
  | .bare, ⟨.equals _, _, _⟩ => inferInstanceAs (Decidable (_ ∧ _))
  | .quoted, ⟨.contains _, _, _⟩ => inferInstanceAs (Decidable (_ ∧ _))
  | .bare, ⟨.contains _, _, _⟩ => inferInstanceAs (Decidable (_ ∧ _))

end Term

namespace Query

open Term (Style)
open Text (takeWhile_append dropWhile_append)

/-- The texts stand in order, with one space or more between any two and any number before the
    first and behind the last. -/
inductive Spaced : List (List Char) → List Char → Prop
  | nil : Spaced [] []
  | space {texts : List (List Char)} {cs : List Char} : Spaced texts cs → Spaced texts (' ' :: cs)
  | last (text : List Char) : Spaced [text] text
  | cons (text : List Char) {texts : List (List Char)} {cs : List Char} :
    Spaced texts cs → Spaced (text :: texts) (text ++ ' ' :: cs)

/-! ## Parts of a term -/

/-- Nothing follows a term but a space. -/
def EndsTerm (rest : List Char) : Prop :=
  ∀ c, rest.head? = some c → c = ' '

theorem endsTerm_nil : EndsTerm [] := by
  rintro c ⟨⟩

theorem endsTerm_space (rest : List Char) : EndsTerm (' ' :: rest) := by
  rintro c ⟨⟩
  rfl

theorem quotedText_append {value : List Char} (h : '"' ∉ value) (rest : List Char) :
    quotedText (value ++ '"' :: rest) = (value, rest) := by
  have hvalue : ∀ c ∈ value, (c != '"') = true := by
    intro c hc
    rw [bne_iff_ne]
    rintro rfl
    exact h hc
  have hmark : ∀ c, ('"' :: rest).head? = some c → (c != '"') = false := by
    rintro c ⟨⟩
    rfl
  rw [quotedText, takeWhile_append hvalue hmark, dropWhile_append hvalue hmark]
  rfl

theorem word_append {value rest : List Char} (h : ' ' ∉ value) (hrest : EndsTerm rest) :
    word (value ++ rest) = (value, rest) := by
  have hvalue : ∀ c ∈ value, (c != ' ') = true := by
    intro c hc
    rw [bne_iff_ne]
    rintro rfl
    exact h hc
  have hends : ∀ c, rest.head? = some c → (c != ' ') = false := by
    intro c hc
    rw [hrest c hc]
    rfl
  rw [word, takeWhile_append hvalue hends, dropWhile_append hvalue hends]

theorem starredText_append {value : List Char} (hspace : ' ' ∉ value) (hstar : '*' ∉ value)
    (rest : List Char) : starredText (value ++ '*' :: rest) = (value, '*' :: rest) := by
  have hvalue : ∀ c ∈ value, (c != ' ' && c != '*') = true := by
    intro c hc
    rw [Bool.and_eq_true, bne_iff_ne, bne_iff_ne]
    constructor
    · rintro rfl
      exact hspace hc
    · rintro rfl
      exact hstar hc
  have hmark : ∀ c, ('*' :: rest).head? = some c → (c != ' ' && c != '*') = false := by
    rintro c ⟨⟩
    rfl
  rw [starredText, takeWhile_append hvalue hmark, dropWhile_append hvalue hmark]

/-! ## The search for a colon -/

/-- The search for a colon passes over characters that are no quotation marks and, outside quotation
    marks, neither colons nor spaces. -/
theorem splitKey?_append_of_plain {inQuotes : Bool} {cs : List Char} (hquote : '"' ∉ cs)
    (hplain : inQuotes = false → ':' ∉ cs ∧ ' ' ∉ cs) (rest : List Char) :
    splitKey? inQuotes (cs ++ rest) =
      (splitKey? inQuotes rest).map fun (key, r) => (cs ++ key, r) := by
  induction cs with
  | nil =>
    rw [List.nil_append]
    cases splitKey? inQuotes rest <;> rfl
  | cons c cs ih =>
    have hc : c ≠ '"' := fun h => hquote (h ▸ List.mem_cons_self)
    have hcolon : ¬(c = ':' ∧ inQuotes = false) := by
      rintro ⟨rfl, hq⟩
      exact (hplain hq).1 List.mem_cons_self
    have hspace : ¬(c = ' ' ∧ inQuotes = false) := by
      rintro ⟨rfl, hq⟩
      exact (hplain hq).2 List.mem_cons_self
    have htail := ih (fun h => hquote (List.mem_cons_of_mem c h)) fun hq =>
      ⟨fun h => (hplain hq).1 (List.mem_cons_of_mem c h),
        fun h => (hplain hq).2 (List.mem_cons_of_mem c h)⟩
    rw [List.cons_append, splitKey?, if_neg hc, if_neg hcolon, if_neg hspace, htail]
    cases splitKey? inQuotes rest <;> rfl

theorem splitKey?_key {negated : Bool} {key : List Char} (h : Term.WritableKey negated key)
    (rest : List Char) : splitKey? false (key ++ ':' :: rest) = some (key, rest) := by
  rw [splitKey?_append_of_plain h.no_quote fun _ => ⟨h.no_colon, h.no_space⟩]
  simp [splitKey?]

theorem splitKey?_endsTerm {rest : List Char} (hrest : EndsTerm rest) :
    splitKey? false rest = none := by
  cases rest with
  | nil => rfl
  | cons c rest =>
    rw [hrest c rfl]
    simp [splitKey?]

theorem splitKey?_quoted {value rest : List Char} (h : '"' ∉ value) (hrest : EndsTerm rest) :
    splitKey? false ('"' :: value ++ '"' :: rest) = none := by
  have hinside : splitKey? true (value ++ '"' :: rest) = none := by
    rw [splitKey?_append_of_plain h (fun hq => Bool.noConfusion hq), splitKey?, if_pos rfl,
      Bool.not_true, splitKey?_endsTerm hrest]
    rfl
  rw [List.cons_append, splitKey?, if_pos rfl, Bool.not_false, hinside]
  rfl

theorem splitKey?_word {value rest : List Char} (hquote : '"' ∉ value) (hcolon : ':' ∉ value)
    (hspace : ' ' ∉ value) (hrest : EndsTerm rest) : splitKey? false (value ++ rest) = none := by
  rw [splitKey?_append_of_plain hquote fun _ => ⟨hcolon, hspace⟩, splitKey?_endsTerm hrest]
  rfl

/-! ## Terms -/

theorem textTerm_of_ne {c : Char} (hc : c ≠ '"') (cs : List Char) :
    textTerm (c :: cs) = plainTerm .text (word (c :: cs)) := by
  unfold textTerm
  split
  · rename_i heq
    exact absurd (List.cons.inj heq).1 hc
  · rfl

theorem keyedTerm_of_ne {key : String} {cs : List Char} (hquote : cs.head? ≠ some '"')
    (hstar : cs.head? ≠ some '*') : keyedTerm key cs = plainTerm (.equals key) (word cs) := by
  unfold keyedTerm
  split
  · exact absurd rfl hquote
  · exact absurd rfl hstar
  · rfl

/-- A key in front of a colon makes what follows the colon its value. -/
theorem bareTerm_key {negated : Bool} {key : String} (h : Term.WritableKey negated key.toList)
    (rest : List Char) : bareTerm (key.toList ++ ':' :: rest) = keyedTerm key rest := by
  rw [bareTerm, splitKey?_key h]
  simp only [h.trimmed, String.ofList_toList]

/-- A written term is read off the front of a text, but for its sign. -/
theorem bareTerm_body {style : Style} {t : Term} (h : t.Writable style) {rest : List Char}
    (hrest : EndsTerm rest) :
    bareTerm (t.body style ++ rest) = ({ t with negated := false }, rest) := by
  obtain ⟨kind, value, negated⟩ := t
  cases kind with
  | text =>
    cases style with
    | quoted =>
      have hbody : Term.body .quoted ⟨.text, value, negated⟩ ++ rest =
          '"' :: value.toList ++ '"' :: rest := by
        simp [Term.body, Style.chars]
      rw [hbody, bareTerm, splitKey?_quoted h hrest]
      simp only [List.cons_append, textTerm, quotedText_append h, plainTerm, String.ofList_toList]
    | bare =>
      obtain ⟨hne, hspace, hcolon, hquote, -⟩ := h
      change bareTerm (value.toList ++ rest) = _
      rw [bareTerm, splitKey?_word hquote hcolon hspace hrest]
      obtain ⟨c, cs, hcs⟩ := List.exists_cons_of_ne_nil (mt String.toList_eq_nil_iff.1 hne)
      have hc : c ≠ '"' := by
        rintro rfl
        exact hquote (hcs ▸ List.mem_cons_self)
      have hword := word_append hspace hrest
      simp only [hcs, List.cons_append] at hword ⊢
      rw [textTerm_of_ne hc, hword, plainTerm, ← hcs, String.ofList_toList]
  | equals key =>
    cases style with
    | quoted =>
      obtain ⟨hkey, hquote⟩ := h
      have hbody : Term.body .quoted ⟨.equals key, value, negated⟩ ++ rest =
          key.toList ++ ':' :: '"' :: (value.toList ++ '"' :: rest) := by
        simp [Term.body, Style.chars]
      rw [hbody, bareTerm_key hkey, keyedTerm, quotedText_append hquote, plainTerm,
        String.ofList_toList]
    | bare =>
      obtain ⟨hkey, hspace, hquote, hstar⟩ := h
      have hbody : Term.body .bare ⟨.equals key, value, negated⟩ ++ rest =
          key.toList ++ ':' :: (value.toList ++ rest) := by
        simp [Term.body, Style.chars]
      -- An empty value leaves the space behind it, which is no mark either.
      have hhead : ∀ mark : Char, mark ≠ ' ' → value.toList.head? ≠ some mark →
          (value.toList ++ rest).head? ≠ some mark := by
        intro mark hmark hvalue
        cases hv : value.toList with
        | nil => exact fun hr => hmark (hrest mark hr)
        | cons c cs => rwa [hv] at hvalue
      rw [hbody, bareTerm_key hkey, keyedTerm_of_ne (hhead '"' (by decide) hquote)
        (hhead '*' (by decide) hstar), word_append hspace hrest, plainTerm, String.ofList_toList]
  | contains key =>
    obtain ⟨hkey, hspace, hstar⟩ : Term.WritableKey negated key.toList ∧ ' ' ∉ value.toList ∧
        '*' ∉ value.toList := by
      cases style <;> exact h
    have hbody : Term.body style ⟨.contains key, value, negated⟩ ++ rest =
        key.toList ++ ':' :: '*' :: (value.toList ++ '*' :: rest) := by
      simp [Term.body]
    rw [hbody, bareTerm_key hkey, keyedTerm, starredText_append hspace hstar]
    simp only [plainTerm, String.ofList_toList]

/-- A written term begins with a character, which is neither a space nor, unless the term is
    negated, a minus sign. -/
theorem body_eq_cons {style : Style} {t : Term} (h : t.Writable style) :
    ∃ c cs, t.body style = c :: cs ∧ c ≠ ' ' ∧ (c = '-' → t.negated = true) := by
  have hkeyed : ∀ (key : List Char), Term.WritableKey t.negated key → ∀ rest : List Char,
      ∃ c cs, key ++ ':' :: rest = c :: cs ∧ c ≠ ' ' ∧ (c = '-' → t.negated = true) := by
    intro key hkey rest
    cases key with
    | nil => exact ⟨':', rest, rfl, by decide, fun hminus => absurd hminus (by decide)⟩
    | cons c key =>
      refine ⟨c, key ++ ':' :: rest, rfl, ?_, ?_⟩
      · rintro rfl
        exact hkey.no_space List.mem_cons_self
      · rintro rfl
        exact hkey.sign rfl
  obtain ⟨kind, value, negated⟩ := t
  cases kind with
  | text =>
    cases style with
    | quoted => exact ⟨'"', _, rfl, by decide, fun hminus => absurd hminus (by decide)⟩
    | bare =>
      obtain ⟨hne, hspace, -, -, hminus⟩ := h
      obtain ⟨c, cs, hcs⟩ := List.exists_cons_of_ne_nil (mt String.toList_eq_nil_iff.1 hne)
      refine ⟨c, cs, hcs, ?_, ?_⟩
      · rintro rfl
        exact hspace (hcs ▸ List.mem_cons_self)
      · rintro rfl
        exact absurd (congrArg List.head? hcs) hminus
  | equals key =>
    have hkey : Term.WritableKey negated key.toList := by
      cases style <;> exact h.1
    exact hkeyed key.toList hkey _
  | contains key =>
    have hkey : Term.WritableKey negated key.toList := by
      cases style <;> exact h.1
    obtain ⟨c, cs, hcs, hc⟩ := hkeyed key.toList hkey ('*' :: value.toList ++ ['*'])
    refine ⟨c, cs, ?_, hc⟩
    rw [← hcs]
    simp [Term.body]

/-- **A written term is read off the front of a text**, if a space follows or nothing. -/
theorem termAt_chars {style : Style} {t : Term} (h : t.Writable style) {rest : List Char}
    (hrest : EndsTerm rest) : termAt (t.chars style ++ rest) = (t, rest) := by
  have hbody := bareTerm_body h hrest
  obtain ⟨c, cs, hcs, -, hminus⟩ := body_eq_cons h
  obtain ⟨kind, value, negated⟩ := t
  cases negated with
  | true =>
    rw [Term.chars, if_pos rfl, List.cons_append, termAt, hbody]
  | false =>
    rw [Term.chars, if_neg Bool.false_ne_true]
    rw [hcs, List.cons_append] at hbody ⊢
    unfold termAt
    split
    · rename_i heq
      exact absurd (hminus (List.cons.inj heq).1) Bool.false_ne_true
    · exact hbody

theorem chars_eq_cons {style : Style} {t : Term} (h : t.Writable style) :
    ∃ c cs, t.chars style = c :: cs ∧ c ≠ ' ' := by
  obtain ⟨c, cs, hcs, hc, -⟩ := body_eq_cons h
  unfold Term.chars
  split
  · exact ⟨'-', _, rfl, by decide⟩
  · exact ⟨c, cs, hcs, hc⟩

theorem termsOf_chars {style : Style} {t : Term} (h : t.Writable style) {rest : List Char}
    (hrest : EndsTerm rest) : termsOf (t.chars style ++ rest) = t :: termsOf rest := by
  have hterm := termAt_chars h hrest
  obtain ⟨c, cs, hcs, hc⟩ := chars_eq_cons h
  rw [hcs, List.cons_append] at hterm ⊢
  rw [termsOf_cons hc, hterm]

theorem termsOf_single {style : Style} {t : Term} (h : t.Writable style) :
    termsOf (t.chars style) = [t] := by
  have hread := termsOf_chars h endsTerm_nil
  rwa [List.append_nil, termsOf_nil] at hread

/-! ## Queries -/

/-- **Written terms are read back.** A query that holds writable terms, each in one of its styles,
in order and with spaces between them, is read as exactly these terms, signs included. -/
theorem terms_of_spaced {written : List (Style × Term)} {query : String}
    (h : ∀ w ∈ written, w.2.Writable w.1)
    (hspaced : Spaced (written.map fun w => w.2.chars w.1) query.toList) :
    terms query = written.map Prod.snd := by
  unfold terms
  generalize query.toList = cs at hspaced
  generalize htexts : written.map (fun w => w.2.chars w.1) = texts at hspaced
  induction hspaced generalizing written with
  | nil =>
    rw [List.map_eq_nil_iff.1 htexts, termsOf_nil]
    rfl
  | space _ ih => rw [termsOf_space, ih h htexts]
  | last text =>
    obtain ⟨w, rest, rfl, rfl, hnil⟩ := List.map_eq_cons_iff.1 htexts
    obtain rfl := List.map_eq_nil_iff.1 hnil
    exact termsOf_single (h w List.mem_cons_self)
  | cons text _ ih =>
    obtain ⟨w, rest, rfl, rfl, hrest⟩ := List.map_eq_cons_iff.1 htexts
    rw [termsOf_chars (h w List.mem_cons_self) (endsTerm_space _), termsOf_space,
      ih (fun w' hw' => h w' (List.mem_cons_of_mem w hw')) hrest]
    rfl

/-- Values with colons, quotation marks and signs stand side by side without touching each other. -/
theorem terms_of_spaced_mixed :
    terms " url:http://x:80/\"a\"  -\"disk: -full\" --k:*a\"b:* : x " =
      [⟨.equals "url", "http://x:80/\"a\"", false⟩, ⟨.text, "disk: -full", true⟩,
        ⟨.contains "-k", "a\"b:", true⟩, ⟨.equals "", "", false⟩, ⟨.text, "x", false⟩] := by
  have hwritable : ∀ w ∈
      [(Style.bare, (⟨.equals "url", "http://x:80/\"a\"", false⟩ : Term)),
        (.quoted, ⟨.text, "disk: -full", true⟩), (.bare, ⟨.contains "-k", "a\"b:", true⟩),
        (.bare, ⟨.equals "", "", false⟩), (.bare, ⟨.text, "x", false⟩)],
      w.2.Writable w.1 := by decide
  refine terms_of_spaced hwritable ?_
  exact .space <| .cons _ <| .space <| .cons _ <| .cons _ <| .cons _ <| .cons _ .nil

end Query

end Logbook
