import Logbook.Proofs.Query.Join
import Logbook.Query.Match

/-!
# Joined and negated queries

A query stands for a condition on records, and queries can be put together as texts. Two queries
with a space between them stand for both conditions, so selecting by them is selecting twice. A
minus sign in front of a query negates its first term and changes nothing else. If that is its only
term, the records that are selected with the sign and without it share out any list.

Results:

* `Query.termsOf_minus`: a minus sign in front negates the first term.
* `Query.select_append_space`: selecting by joined queries is selecting twice.
* `Query.select_minus`: a query and its negation share out any list of records.
-/

namespace Logbook

/-- Two lists share out a third one: each of its positions goes to exactly one of them, and both
    keep its order. -/
inductive Parted {α : Type} : (left right whole : List α) → Prop
  | nil : Parted [] [] []
  | left {left right whole : List α} (x : α) :
    Parted left right whole → Parted (x :: left) right (x :: whole)
  | right {left right whole : List α} (x : α) :
    Parted left right whole → Parted left (x :: right) (x :: whole)

/-- A condition and its opposite share out any list. -/
theorem parted_filter {α : Type} (p : α → Bool) (xs : List α) :
    Parted (xs.filter p) (xs.filter fun x => !p x) xs := by
  induction xs with
  | nil => exact .nil
  | cons x xs ih =>
    cases hx : p x with
    | true => simpa [hx] using ih.left x
    | false => simpa [hx] using ih.right x

namespace Term

theorem holds_of_field?_eq_none {t : Term} (ht : t.negated = false) {key : String}
    (hkey : t.key? = some key) {r : Record} (hr : r.field? key = none) : t.holds r = false := by
  obtain ⟨kind, value, negated⟩ := t
  obtain rfl : negated = false := ht
  cases kind with
  | text => cases hkey
  | equals key' =>
    obtain rfl : key' = key := Option.some.inj hkey
    simp [Term.holds, Term.hits, hr]
  | contains key' =>
    obtain rfl : key' = key := Option.some.inj hkey
    simp [Term.holds, Term.hits, hr]

end Term

namespace Query

/-! ## A minus sign in front -/

theorem bareTerm_negated (cs : List Char) : (bareTerm cs).1.negated = false := by
  unfold bareTerm
  split
  · unfold keyedTerm
    split
    · rfl
    · split <;> rfl
    · rfl
  · unfold textTerm
    split <;> rfl

theorem termAt_minus {c : Char} (hminus : c ≠ '-') (cs : List Char) :
    termAt ('-' :: c :: cs) = ((termAt (c :: cs)).1.negate, (termAt (c :: cs)).2) := by
  rw [termAt_of_ne_minus hminus, termAt, Term.negate, bareTerm_negated]
  rfl

/-- **A minus sign in front negates the first term** and changes no other one. -/
theorem termsOf_minus {c : Char} (hspace : c ≠ ' ') (hminus : c ≠ '-') (cs : List Char) :
    ∃ t ts, t.negated = false ∧ termsOf (c :: cs) = t :: ts ∧
      termsOf ('-' :: c :: cs) = t.negate :: ts := by
  refine ⟨(termAt (c :: cs)).1, termsOf (termAt (c :: cs)).2, ?_, ?_, ?_⟩
  · rw [termAt_of_ne_minus hminus]
    exact bareTerm_negated _
  · exact termsOf_cons hspace cs
  · rw [termsOf_cons (by decide), termAt_minus hminus]

/-! ## Selecting records -/

theorem filter_singleton (t : Term) (rs : List Record) :
    filter [t] rs = rs.filter fun r => t.holds r :=
  List.filter_congr fun r _ => Bool.and_true (t.holds r)

/-- **Selecting by joined queries is selecting twice.** If the first query has no quotation mark, a
space and any second query behind it add the terms of the second one. So the records that both
select are those that the second query selects of those that the first one selects, in order. -/
theorem select_append_space {a : String} (h : '"' ∉ a.toList) (b : String) :
    terms (a ++ " " ++ b) = terms a ++ terms b ∧
      ∀ rs : List Record, select (a ++ " " ++ b) rs = select b (select a rs) ∧
        (select (a ++ " " ++ b) rs).Sublist rs := by
  have hterms := terms_append_space h b
  refine ⟨hterms, fun rs => ⟨?_, List.filter_sublist⟩⟩
  rw [select, hterms, filter_append]
  rfl

/-- An asterisk without a partner and a minus sign by itself stand at the end of the first query, a
    quoted text with a colon and a space in it at the beginning of the second one. -/
theorem select_append_space_unfinished :
    '"' ∉ "-status:*5 -".toList ∧
      terms ("-status:*5 -" ++ " " ++ "\"x: y\" z") =
        [⟨.equals "status", "*5", true⟩, ⟨.text, "", true⟩, ⟨.text, "x: y", false⟩,
          ⟨.text, "z", false⟩] ∧
      ∀ rs, select ("-status:*5 -" ++ " " ++ "\"x: y\" z") rs =
        select "\"x: y\" z" (select "-status:*5 -" rs) := by
  have hquote : '"' ∉ "-status:*5 -".toList := by decide
  have hfirst : terms "-status:*5 -" = [⟨.equals "status", "*5", true⟩, ⟨.text, "", true⟩] := by
    have hkeyed : termAt "-status:*5 -".toList = (⟨.equals "status", "*5", true⟩, [' ', '-']) := by
      decide
    have hsign : termAt ['-'] = (⟨.text, "", true⟩, []) := by decide
    simp_all [terms, termsOf]
  have hsecond : terms "\"x: y\" z" = [⟨.text, "x: y", false⟩, ⟨.text, "z", false⟩] := by
    have hquoted : termAt "\"x: y\" z".toList = (⟨.text, "x: y", false⟩, [' ', 'z']) := by decide
    have hword : termAt ['z'] = (⟨.text, "z", false⟩, []) := by decide
    simp_all [terms, termsOf]
  obtain ⟨hterms, hselect⟩ := select_append_space hquote "\"x: y\" z"
  rw [hfirst, hsecond] at hterms
  exact ⟨hquote, hterms, fun rs => (hselect rs).1⟩

/-- **A query and its negation share out any list of records.** A minus sign in front of a query
that begins with neither a space nor a minus sign negates the first term, which was not negated, and
changes no other one. If there is no other one, the query and its negation keep each position of a
list in exactly one of two sublists: where the term holds, and where it does not. A record without
the field that the term tests is kept by the negation. -/
theorem select_minus {q : String} {c : Char} {cs : List Char} (hq : q.toList = c :: cs)
    (hspace : c ≠ ' ') (hminus : c ≠ '-') :
    ∃ t ts, t.negated = false ∧ terms q = t :: ts ∧ terms ("-" ++ q) = t.negate :: ts ∧
      (ts = [] → ∀ rs : List Record,
        Parted (select q rs) (select ("-" ++ q) rs) rs ∧
        select q rs = rs.filter (fun r => t.holds r) ∧
        select ("-" ++ q) rs = rs.filter (fun r => !t.holds r) ∧
        ∀ key, t.key? = some key → ∀ r ∈ rs, r.field? key = none →
          r ∉ select q rs ∧ r ∈ select ("-" ++ q) rs) := by
  obtain ⟨t, ts, ht, hplain, hnegated⟩ := termsOf_minus hspace hminus cs
  have hsigned : ("-" ++ q).toList = '-' :: c :: cs := by
    rw [String.toList_append, hq]
    rfl
  rw [← hq] at hplain
  rw [← hsigned] at hnegated
  refine ⟨t, ts, ht, hplain, hnegated, ?_⟩
  rintro rfl rs
  have hkept : select q rs = rs.filter fun r => t.holds r := by
    rw [select, terms, hplain, filter_singleton]
  have hdropped : select ("-" ++ q) rs = rs.filter fun r => !t.holds r := by
    rw [select, terms, hnegated, filter_singleton]
    simp only [Term.holds_negate]
  refine ⟨?_, hkept, hdropped, ?_⟩
  · rw [hkept, hdropped]
    exact parted_filter _ rs
  · intro key hkey r hr hlacks
    have hfails := Term.holds_of_field?_eq_none ht hkey hlacks
    simp [hkept, hdropped, hr, hfails]

/-- Records with the field and without it are shared out by a part of its text. -/
theorem select_minus_contains :
    "größe:*4*".toList = 'g' :: "röße:*4*".toList ∧
      terms "größe:*4*" = [⟨.contains "größe", "4", false⟩] ∧
      terms ("-" ++ "größe:*4*") = [⟨.contains "größe", "4", true⟩] ∧
      (∀ rs, Parted (select "größe:*4*" rs) (select ("-" ++ "größe:*4*") rs) rs) ∧
      ∀ r : Record, r.field? "größe" = none → r ∈ select ("-" ++ "größe:*4*") [r] := by
  have hchars : "größe:*4*".toList = 'g' :: "röße:*4*".toList := by decide
  have hterms : terms "größe:*4*" = [⟨.contains "größe", "4", false⟩] := by
    have hterm : termAt "größe:*4*".toList = (⟨.contains "größe", "4", false⟩, []) := by decide
    simp_all [terms, termsOf]
  obtain ⟨t, ts, -, hplain, hnegated, hshared⟩ :=
    select_minus hchars (by decide) (by decide)
  rw [hterms] at hplain
  obtain ⟨rfl, rfl⟩ := List.cons.inj hplain
  refine ⟨hchars, hterms, hnegated, fun rs => (hshared rfl rs).1, fun r hr => ?_⟩
  exact ((hshared rfl [r]).2.2.2 "größe" rfl r List.mem_cons_self hr).2

end Query

end Logbook
