import Mathlib.Data.List.Basic
import Logbook.Json.Reader
import Logbook.Json.Printer
import Logbook.Proofs.Number.ReadBack
import Logbook.Proofs.Text.Lines

/-!
# Written numbers read back

A written number is the spelling of a numeral: a sign, whole digits without a leading zero, perhaps
a fraction, perhaps a signed power of ten. The reader takes exactly that numeral off the front of
whatever text follows, and its value is the number that was written.

Results:

* `numeral?_chars`: a proper numeral is read off the front of a text.
* `numberText_eq`, `Number.proper_numeral`: a written number spells a proper numeral.
* `Number.ofNumeral?_numeral`: the value of that numeral is the number.
-/

namespace Logbook.Number

/-! ## Decimal digits -/

theorem extendBy_eq (n : Nat) (ds : List Char) : extendBy n ds = Nat.ofDigitChars 10 ds n := by
  rw [extendBy, Nat.ofDigitChars_eq_foldl]
  congr 1
  funext acc c
  rw [Nat.mul_comm]
  rfl

theorem natOfDigits_natText (n : Nat) : natOfDigits (natText n) = n := by
  rw [natOfDigits, extendBy_eq, natText, Nat.ofDigitChars_ten_toDigits]

theorem natOfDigits_zeros_append (k : Nat) (ds : List Char) :
    natOfDigits (List.replicate k '0' ++ ds) = natOfDigits ds := by
  have hzeros : natOfDigits (List.replicate k '0') = 0 := by
    rw [natOfDigits, extendBy_eq, Nat.ofDigitChars_replicate_zero, Nat.mul_zero]
  rw [natOfDigits_append, hzeros]
  rfl

theorem natOfDigits_append_zeros (ds : List Char) (k : Nat) :
    natOfDigits (ds ++ List.replicate k '0') = natOfDigits ds * tenPow k := by
  rw [natOfDigits_append, extendBy_eq, Nat.ofDigitChars_replicate_zero, Nat.mul_comm]
  rfl

theorem isDigit_of_mem_natText {n : Nat} {c : Char} (h : c ∈ natText n) : isDigit c = true := by
  have hc := Nat.isDigit_of_mem_toDigits (by decide) (by decide) h
  rw [Char.isDigit, Bool.and_eq_true, decide_eq_true_iff, decide_eq_true_iff] at hc
  rw [isDigit, Bool.and_eq_true, decide_eq_true_iff, decide_eq_true_iff]
  exact hc

theorem natText_ne_nil (n : Nat) : natText n ≠ [] :=
  Nat.toDigits_ne_nil

/-- The digits of a positive number do not begin with a zero. -/
theorem natText_eq_cons {n : Nat} (h : n ≠ 0) : ∃ d rest, natText n = d :: rest ∧ d ≠ '0' := by
  induction n using Nat.strongRecOn with
  | ind n ih =>
    unfold natText at ih ⊢
    rw [Nat.toDigits_eq_if (by decide)]
    split
    · rename_i hlt
      have hdigit : ∀ m < 10, m ≠ 0 → Nat.digitChar m ≠ '0' := by decide
      exact ⟨Nat.digitChar n, [], rfl, hdigit n hlt h⟩
    · obtain ⟨d, rest, hd, hd0⟩ := ih (n / 10) (by omega) (by omega)
      exact ⟨d, rest ++ [Nat.digitChar (n % 10)], by rw [hd]; rfl, hd0⟩

theorem spanDigits_append {ds rest : List Char} (hds : ∀ c ∈ ds, isDigit c = true)
    (hrest : ∀ c, rest.head? = some c → isDigit c = false) :
    spanDigits (ds ++ rest) = (ds, rest) := by
  rw [spanDigits, Text.takeWhile_append hds hrest, Text.dropWhile_append hds hrest]

/-! ## Numerals as text -/

/-- The text of a fraction, with its point. -/
def fractionChars : Option (List Char) → List Char
  | none => []
  | some ds => '.' :: ds

/-- The text of a power of ten, with its mark and its sign. -/
def exponentChars : Option Int → List Char
  | none => []
  | some e => 'e' :: (if e < 0 then '-' else '+') :: natText e.natAbs

/-- The text of a numeral. -/
def Numeral.chars (n : Numeral) : List Char :=
  (if n.negative then ['-'] else []) ++ (n.whole ++ (fractionChars n.fraction ++
    exponentChars n.exponent))

/-- A numeral as JSON admits it: whole digits that begin with a zero only if it is the only one, and
    at least one digit in a fraction. -/
structure Numeral.Proper (n : Numeral) : Prop where
  whole_ne_nil : n.whole ≠ []
  whole_digits : ∀ c ∈ n.whole, isDigit c = true
  whole_zero : n.whole.head? = some '0' → n.whole = ['0']
  fraction_ne_nil : n.fraction ≠ some []
  fraction_digits : ∀ ds, n.fraction = some ds → ∀ c ∈ ds, isDigit c = true

theorem Numeral.Proper.mem_chars {n : Numeral} (hn : n.Proper) {c : Char} (hc : c ∈ n.chars) :
    isDigit c = true ∨ c ∈ ['-', '+', '.', 'e'] := by
  simp only [Numeral.chars, List.mem_append] at hc
  rcases hc with hc | hc | hc | hc
  · split at hc
    · exact Or.inr (by rw [List.mem_singleton.1 hc]; decide)
    · cases hc
  · exact Or.inl (hn.whole_digits c hc)
  · cases hf : n.fraction with
    | none =>
      rw [hf] at hc
      cases hc
    | some ds =>
      rw [hf] at hc
      rcases List.mem_cons.1 hc with rfl | hc
      · exact Or.inr (by decide)
      · exact Or.inl (hn.fraction_digits ds hf c hc)
  · cases he : n.exponent with
    | none =>
      rw [he] at hc
      cases hc
    | some e =>
      rw [he] at hc
      simp only [exponentChars, List.mem_cons] at hc
      rcases hc with rfl | rfl | hc
      · exact Or.inr (by decide)
      · split <;> exact Or.inr (by decide)
      · exact Or.inl (isDigit_of_mem_natText hc)

/-- Whether a numeral ends where a text begins. -/
def EndsNumeral (rest : List Char) : Prop :=
  ∀ c, rest.head? = some c → isDigit c = false ∧ c ≠ '.' ∧ c ≠ 'e' ∧ c ≠ 'E'

end Logbook.Number

namespace Logbook.Json

open Logbook.Number

theorem wholeDigits?_append {ds rest : List Char} (hne : ds ≠ [])
    (hds : ∀ c ∈ ds, isDigit c = true) (hzero : ds.head? = some '0' → ds = ['0'])
    (hrest : ∀ c, rest.head? = some c → isDigit c = false) :
    wholeDigits? (ds ++ rest) = some (ds, rest) := by
  obtain ⟨d, tail, rfl⟩ := List.exists_cons_of_ne_nil hne
  by_cases hd : d = '0'
  · subst hd
    rw [hzero rfl]
    rfl
  · unfold wholeDigits?
    split
    · rename_i heq
      exact absurd (List.cons.inj heq).1 hd
    · rw [spanDigits_append hds hrest]

theorem fraction?_append {f : Option (List Char)} {rest : List Char} (hne : f ≠ some [])
    (hds : ∀ ds, f = some ds → ∀ c ∈ ds, isDigit c = true)
    (hrest : ∀ c, rest.head? = some c → isDigit c = false ∧ c ≠ '.') :
    fraction? (fractionChars f ++ rest) = some (f, rest) := by
  cases f with
  | none =>
    unfold fraction?
    split
    · rename_i heq
      exact absurd rfl (hrest '.' (congrArg List.head? heq)).2
    · rfl
  | some ds =>
    have hspan := spanDigits_append (hds ds rfl) fun c hc => (hrest c hc).1
    simp only [fractionChars, List.cons_append, fraction?, hspan]
    cases ds with
    | nil => exact absurd rfl hne
    | cons d tail => rfl

theorem exponentDigits?_append (e : Int) {rest : List Char}
    (hrest : ∀ c, rest.head? = some c → isDigit c = false) :
    exponentDigits? ((if e < 0 then '-' else '+') :: natText e.natAbs ++ rest) =
      some (e, rest) := by
  have hsplit : splitSign ((if e < 0 then '-' else '+') :: natText e.natAbs ++ rest) =
      (decide (e < 0), natText e.natAbs ++ rest) := by
    by_cases he : e < 0
    · rw [if_pos he, decide_eq_true he]
      rfl
    · rw [if_neg he, decide_eq_false he]
      rfl
  have hspan : spanDigits (natText e.natAbs ++ rest) = (natText e.natAbs, rest) :=
    spanDigits_append (fun _ hc => isDigit_of_mem_natText hc) hrest
  unfold exponentDigits?
  rw [hsplit]
  simp only [hspan]
  have hvalue : (if decide (e < 0) = true then -(natOfDigits (natText e.natAbs) : Int)
      else natOfDigits (natText e.natAbs)) = e := by
    rw [natOfDigits_natText]
    simp only [decide_eq_true_iff]
    split <;> omega
  split
  · rename_i heq
    exact absurd (congrArg Prod.fst heq) (natText_ne_nil e.natAbs)
  · rename_i heq
    obtain ⟨rfl, rfl⟩ := Prod.mk.inj heq
    rw [hvalue]

theorem exponent?_append {e : Option Int} {rest : List Char} (hrest : EndsNumeral rest) :
    exponent? (exponentChars e ++ rest) = some (e, rest) := by
  cases e with
  | none =>
    cases rest with
    | nil => rfl
    | cons c r =>
      obtain ⟨-, -, he, hE⟩ := hrest c rfl
      simp [exponentChars, exponent?, he, hE]
  | some e =>
    have hdigits := exponentDigits?_append e fun c hc => (hrest c hc).1
    simp only [exponentChars, List.cons_append] at hdigits ⊢
    simp [exponent?, hdigits]

/-- What follows a numeral after its fraction is no digit. -/
theorem head?_exponentChars_append {e : Option Int} {rest : List Char} (hrest : EndsNumeral rest)
    {c : Char} (hc : (exponentChars e ++ rest).head? = some c) : isDigit c = false ∧ c ≠ '.' := by
  cases e with
  | none => exact ⟨(hrest c hc).1, (hrest c hc).2.1⟩
  | some e =>
    obtain rfl := Option.some.inj hc
    decide

theorem head?_fractionChars_append {f : Option (List Char)} {rest : List Char}
    (hrest : ∀ c, rest.head? = some c → isDigit c = false ∧ c ≠ '.') {c : Char}
    (hc : (fractionChars f ++ rest).head? = some c) : isDigit c = false := by
  cases f with
  | none => exact (hrest c hc).1
  | some ds =>
    obtain rfl := Option.some.inj hc
    decide

/-- **A numeral is read off the front of a text**, exactly as it was written. -/
theorem numeral?_chars {n : Numeral} (hn : n.Proper) {rest : List Char} (hrest : EndsNumeral rest) :
    numeral? (n.chars ++ rest) = some (n, rest) := by
  obtain ⟨negative, whole, fraction, exponent⟩ := n
  have hexp : ∀ c, (exponentChars exponent ++ rest).head? = some c → isDigit c = false ∧ c ≠ '.' :=
    fun c hc => head?_exponentChars_append hrest hc
  have hwhole : wholeDigits? (whole ++ (fractionChars fraction ++ (exponentChars exponent ++ rest)))
      = some (whole, fractionChars fraction ++ (exponentChars exponent ++ rest)) :=
    wholeDigits?_append hn.whole_ne_nil hn.whole_digits hn.whole_zero
      fun c hc => head?_fractionChars_append hexp hc
  have hfraction : fraction? (fractionChars fraction ++ (exponentChars exponent ++ rest)) =
      some (fraction, exponentChars exponent ++ rest) :=
    fraction?_append hn.fraction_ne_nil hn.fraction_digits hexp
  have hexponent := exponent?_append hrest (e := exponent)
  cases negative with
  | true =>
    simp only [Numeral.chars, numeral?, if_true, List.append_assoc, List.cons_append,
      List.nil_append]
    simp [hwhole, hfraction, hexponent]
  | false =>
    obtain ⟨d, tail, rfl⟩ := List.exists_cons_of_ne_nil hn.whole_ne_nil
    have hd : d ≠ '-' := by
      rintro rfl
      exact absurd (hn.whole_digits '-' List.mem_cons_self) (by decide)
    simp only [Numeral.chars, numeral?, Bool.false_eq_true, if_false, List.append_assoc,
      List.nil_append]
    split
    · rename_i heq
      exact absurd (List.cons.inj heq).1 hd
    · rw [hwhole]
      simp [hfraction, hexponent]

/-! ## Written numbers -/

/-- The numeral of decimal digits with a point after the first `places` of them. -/
def positionalNumeral (negative : Bool) (digits : List Char) (places : Int) : Numeral :=
  if places ≤ 0 then
    ⟨negative, ['0'], some (List.replicate (-places).toNat '0' ++ digits), none⟩
  else if places < digits.length then
    ⟨negative, digits.take places.toNat, some (digits.drop places.toNat), none⟩
  else ⟨negative, digits ++ List.replicate (places.toNat - digits.length) '0', some ['0'], none⟩

/-- The numeral of decimal digits with a point after the first of them. -/
def scientificNumeral (negative : Bool) (digits : List Char) (power : Int) : Numeral :=
  ⟨negative, digits.take 1, if digits.length ≤ 1 then none else some (digits.drop 1), some power⟩

/-- The numeral that a decimal is written as. -/
def decimalNumeral (negative : Bool) (x : Decimal) : Numeral :=
  if x.digits = 0 then ⟨negative, ['0'], some ['0'], none⟩
  else
    let digits := natText x.digits
    let places : Int := digits.length + x.exponent
    if -5 < places ∧ places ≤ 16 then positionalNumeral negative digits places
    else scientificNumeral negative digits (places - 1)

/-- The numeral that a number is written as. -/
def Number.numeral : Number → Numeral
  | .integer n _ => ⟨n < 0, natText n.natAbs, none, none⟩
  | .real x => decimalNumeral x.negative (x.shortest .toEven)

theorem positionalNumeral_chars (negative : Bool) (digits : List Char) (places : Int) :
    (positionalNumeral negative digits places).chars =
      (if negative then ['-'] else []) ++ positional digits places := by
  unfold positionalNumeral positional Numeral.chars
  split
  · simp [fractionChars, exponentChars]
  · split <;> simp [fractionChars, exponentChars]

theorem scientificNumeral_chars (negative : Bool) (digits : List Char) (power : Int) :
    (scientificNumeral negative digits power).chars =
      (if negative then ['-'] else []) ++ scientific digits power := by
  unfold scientificNumeral scientific Numeral.chars
  match digits with
  | [] => simp [fractionChars, exponentChars]
  | [d] => simp [fractionChars, exponentChars]
  | d :: e :: tail => simp [fractionChars, exponentChars]

theorem decimalNumeral_chars (negative : Bool) (x : Decimal) :
    (decimalNumeral negative x).chars = (if negative then ['-'] else []) ++ decimalText x := by
  unfold decimalNumeral decimalText
  by_cases hx : x.digits = 0
  · rw [if_pos hx, if_pos hx]
    rfl
  · rw [if_neg hx, if_neg hx]
    by_cases hplaces : -5 < ((natText x.digits).length : Int) + x.exponent ∧
        ((natText x.digits).length : Int) + x.exponent ≤ 16
    · simp only [if_pos hplaces, positionalNumeral_chars]
    · simp only [if_neg hplaces, scientificNumeral_chars]

theorem numberText_eq (n : Number) : numberText n = n.numeral.chars := by
  cases n with
  | integer n fits =>
    by_cases hn : n < 0 <;>
      simp [numberText, Number.numeral, Numeral.chars, intText, hn, fractionChars, exponentChars]
  | real x => rw [Number.numeral, decimalNumeral_chars, numberText]

theorem proper_positionalNumeral {negative : Bool} {digits : List Char} {places : Int}
    (hne : digits ≠ []) (hdigits : ∀ c ∈ digits, isDigit c = true)
    (hzero : digits.head? ≠ some '0') :
    (positionalNumeral negative digits places).Proper := by
  have hzeros : ∀ k, ∀ c ∈ List.replicate k '0', isDigit c = true := by
    intro k c hc
    rw [List.eq_of_mem_replicate hc]
    decide
  have hpos := List.length_pos_iff.2 hne
  obtain ⟨d, tail, rfl⟩ := List.exists_cons_of_ne_nil hne
  unfold positionalNumeral
  split
  · refine ⟨List.cons_ne_nil _ _, hzeros 1, fun _ => rfl, by simp, ?_⟩
    rintro ds ⟨⟩ c hc
    exact (List.mem_append.1 hc).elim (hzeros _ c) (hdigits c)
  · rename_i hplaces
    obtain ⟨k, hk⟩ : ∃ k, places.toNat = k + 1 := ⟨places.toNat - 1, by omega⟩
    split
    · rename_i hlt
      refine ⟨by simp [hk], fun c hc => hdigits c (List.mem_of_mem_take hc), ?_, ?_, ?_⟩
      · intro hhead
        rw [hk, List.take_succ_cons] at hhead
        exact absurd hhead hzero
      · intro hnil
        have := List.drop_eq_nil_iff.1 (Option.some.inj hnil)
        omega
      · rintro ds ⟨⟩ c hc
        exact hdigits c (List.mem_of_mem_drop hc)
    · refine ⟨List.cons_ne_nil _ _, ?_, fun hhead => absurd hhead hzero, by rintro ⟨⟩, ?_⟩
      · intro c hc
        exact (List.mem_append.1 hc).elim (hdigits c) (hzeros _ c)
      · rintro ds ⟨⟩ c hc
        exact hzeros 1 c hc

theorem proper_scientificNumeral {negative : Bool} {digits : List Char} {power : Int}
    (hne : digits ≠ []) (hdigits : ∀ c ∈ digits, isDigit c = true)
    (hzero : digits.head? ≠ some '0') :
    (scientificNumeral negative digits power).Proper := by
  obtain ⟨d, tail, rfl⟩ := List.exists_cons_of_ne_nil hne
  refine ⟨by simp [scientificNumeral], ?_, fun hhead => absurd hhead hzero, ?_, ?_⟩
  · exact fun c hc => hdigits c (List.mem_of_mem_take hc)
  · cases tail <;> simp [scientificNumeral]
  · intro ds hds c hc
    simp only [scientificNumeral] at hds
    split at hds
    · cases hds
    · cases hds
      exact hdigits c (List.mem_of_mem_drop hc)

/-- A written number spells a numeral that the reader admits. -/
theorem Number.proper_numeral (n : Number) : n.numeral.Proper := by
  have hdigits : ∀ m, ∀ c ∈ natText m, isDigit c = true := fun m c hc => isDigit_of_mem_natText hc
  have hzero : ∀ m, m ≠ 0 → (natText m).head? ≠ some '0' := by
    intro m hm
    obtain ⟨d, tail, heq, hd⟩ := natText_eq_cons hm
    rw [heq]
    exact fun h => hd (Option.some.inj h)
  cases n with
  | integer n fits =>
    refine ⟨natText_ne_nil _, hdigits _, ?_, by simp [Number.numeral], by simp [Number.numeral]⟩
    intro hhead
    by_cases hn : n.natAbs = 0
    · rw [Number.numeral, hn]
      rfl
    · exact absurd hhead (hzero _ hn)
  | real x =>
    simp only [Number.numeral, decimalNumeral]
    split
    · have hzeros : ∀ c ∈ ['0'], isDigit c = true := by
        intro c hc
        rw [List.mem_singleton.1 hc]
        decide
      refine ⟨List.cons_ne_nil _ _, hzeros, fun _ => rfl, by rintro ⟨⟩, ?_⟩
      rintro ds ⟨⟩
      exact hzeros
    · rename_i hx
      split
      · exact proper_positionalNumeral (natText_ne_nil _) (hdigits _) (hzero _ hx)
      · exact proper_scientificNumeral (natText_ne_nil _) (hdigits _) (hzero _ hx)

/-! ## The number of a written numeral -/

theorem positionalNumeral_value (negative : Bool) {n : Nat} {e : Int} :
    ∃ zeros : Nat, (positionalNumeral negative (natText n) ((natText n).length + e)).digits =
        n * tenPow zeros ∧
      (positionalNumeral negative (natText n) ((natText n).length + e)).scale = e - zeros ∧
      (zeros = 0 ∨ e - zeros = -1) := by
  unfold positionalNumeral
  split
  · rename_i hplaces
    refine ⟨0, ?_, ?_, Or.inl rfl⟩
    · have happ : ['0'] ++ (List.replicate (-((natText n).length + e)).toNat '0' ++ natText n) =
          List.replicate ((-((natText n).length + e)).toNat + 1) '0' ++ natText n := rfl
      simp only [Numeral.digits, Option.getD_some, happ, natOfDigits_zeros_append,
        natOfDigits_natText]
      exact (Nat.mul_one n).symm
    · simp only [Numeral.scale, Option.getD_some, Option.getD_none, List.length_append,
        List.length_replicate]
      omega
  · split
    · refine ⟨0, ?_, ?_, Or.inl rfl⟩
      · simp only [Numeral.digits, Option.getD_some, List.take_append_drop, natOfDigits_natText]
        exact (Nat.mul_one n).symm
      · simp only [Numeral.scale, Option.getD_some, Option.getD_none, List.length_drop]
        omega
    · refine ⟨e.toNat + 1, ?_, ?_, Or.inr (by omega)⟩
      · have hlen : ((natText n).length + e).toNat - (natText n).length = e.toNat := by omega
        have happ : natText n ++ List.replicate e.toNat '0' ++ ['0'] =
            natText n ++ List.replicate (e.toNat + 1) '0' := by
          rw [List.append_assoc, List.replicate_succ']
        simp only [Numeral.digits, Option.getD_some, hlen, happ, natOfDigits_append_zeros,
          natOfDigits_natText]
      · simp only [Numeral.scale, Option.getD_some, Option.getD_none, List.length_singleton]
        omega

theorem scientificNumeral_value (negative : Bool) {n : Nat} {e : Int} :
    (scientificNumeral negative (natText n) ((natText n).length + e - 1)).digits = n ∧
      (scientificNumeral negative (natText n) ((natText n).length + e - 1)).scale = e := by
  obtain ⟨d, tail, heq⟩ := List.exists_cons_of_ne_nil (natText_ne_nil n)
  have hvalue : natOfDigits (d :: tail) = n := by rw [← heq, natOfDigits_natText]
  rw [heq]
  cases tail with
  | nil =>
    refine ⟨hvalue, ?_⟩
    simp [scientificNumeral, Numeral.scale]
  | cons d' tail =>
    refine ⟨hvalue, ?_⟩
    simp only [scientificNumeral, Numeral.scale, List.length_cons, Option.getD_some,
      List.drop_succ_cons, List.drop_zero, Nat.succ_le_succ_iff, Nat.le_zero_eq,
      Nat.succ_ne_zero, if_false]
    omega

/-- The numeral of a decimal has the value of the decimal; whole zeros may be moved from the power
    of ten to the digits. -/
theorem decimalNumeral_value (negative : Bool) {x : Decimal} (hx : x.digits ≠ 0) :
    ∃ zeros : Nat, (decimalNumeral negative x).digits = x.digits * tenPow zeros ∧
      (decimalNumeral negative x).scale = x.exponent - zeros ∧
      (zeros = 0 ∨ x.exponent - zeros = -1) := by
  simp only [decimalNumeral, if_neg hx]
  split
  · exact positionalNumeral_value negative
  · obtain ⟨hdigits, hscale⟩ := scientificNumeral_value negative (n := x.digits) (e := x.exponent)
    exact ⟨0, by rw [hdigits]; exact (Nat.mul_one _).symm, by rw [hscale]; omega, Or.inl rfl⟩

theorem decimalNumeral_negative (negative : Bool) (x : Decimal) :
    (decimalNumeral negative x).negative = negative := by
  simp only [decimalNumeral, positionalNumeral, scientificNumeral]
  repeat' split
  all_goals rfl

theorem decimalNumeral_isInteger (negative : Bool) (x : Decimal) :
    (decimalNumeral negative x).isInteger = false := by
  simp only [decimalNumeral, positionalNumeral, scientificNumeral]
  repeat' split
  all_goals simp [Numeral.isInteger]

theorem toBinary64?_decimalNumeral (x : Binary64) :
    (decimalNumeral x.negative (x.shortest .toEven)).toBinary64? = some x := by
  rw [Numeral.toBinary64?, decimalNumeral_negative]
  by_cases hx : x.units = 0
  · rw [Binary64.shortest_of_units_eq_zero .toEven hx]
    have hdigits : (decimalNumeral x.negative ⟨0, 0⟩).digits = 0 := rfl
    rw [hdigits, Binary64.ofDecimal?_zero, ← Binary64.eq_zero_of_units_eq_zero hx]
  · obtain ⟨hd, he, -⟩ := Binary64.shortest_inside .toEven hx
    obtain ⟨zeros, hdigits, hscale, hzeros⟩ := decimalNumeral_value x.negative hd
    rw [hdigits, hscale]
    refine Binary64.ofDecimal?_shortest .toEven x ?_
    rw [finest] at he ⊢
    omega

/-- **A written number is read back as it was**, also a double. -/
theorem Number.ofNumeral?_numeral (n : Number) : Number.ofNumeral? n.numeral = some n := by
  cases n with
  | integer n fits =>
    have hdigits : (Number.numeral (.integer n fits)).digits = n.natAbs := by
      simp only [Number.numeral, Numeral.digits, Option.getD_none, List.append_nil,
        natOfDigits_natText]
    have hvalue : (if (Number.numeral (.integer n fits)).negative = true then -(n.natAbs : Int)
        else n.natAbs) = n := by
      simp only [Number.numeral, decide_eq_true_iff]
      split <;> omega
    have hminus : ¬((Number.numeral (.integer n fits)).negative = true ∧ (n.natAbs : Int) = 0) := by
      simp only [Number.numeral, decide_eq_true_iff]
      omega
    simp only [Number.ofNumeral?, hdigits, hvalue]
    rw [dif_pos ⟨rfl, fits, hminus⟩]
  | real x =>
    have hreal : (Number.numeral (.real x)).isInteger = false :=
      decimalNumeral_isInteger x.negative (x.shortest .toEven)
    rw [Number.ofNumeral?]
    simp only [hreal, Bool.false_eq_true, false_and, dif_neg, not_false_eq_true]
    rw [Number.numeral, toBinary64?_decimalNumeral]
    rfl

end Logbook.Json
