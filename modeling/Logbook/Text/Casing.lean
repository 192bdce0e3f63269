import Logbook.Text.Tables

/-!
# Texts without regard to case

Full Unicode case conversion without any locale, and the search for one text in another that ignores
case. Lower-casing looks at more than one character in one place: a capital sigma becomes `ς` at the
end of a word and `σ` elsewhere.

Results:

* `occurs_iff`: the search finds a needle exactly when it stands contiguously in the haystack.
-/

namespace Logbook.Text

/-! ## One character -/

/-- The lower case of a character by itself. -/
def lowerChar (c : Char) : List Char :=
  if c.toNat < 0x80 then
    [if 0x41 ≤ c.toNat ∧ c.toNat ≤ 0x5A then Char.ofNat (c.toNat + 0x20) else c]
  else if c.toNat = 0x130 then ['i', '\u0307']
  else match mapped? lowerRuns c.toNat with
    | some n => [Char.ofNat n]
    | none => [c]

/-- The upper case of a character. -/
def upperChar (c : Char) : List Char :=
  if c.toNat < 0x80 then
    [if 0x61 ≤ c.toNat ∧ c.toNat ≤ 0x7A then Char.ofNat (c.toNat - 0x20) else c]
  else match upperExpansions.lookup c.toNat with
    | some ns => ns.map Char.ofNat
    | none => match mapped? upperRuns c.toNat with
      | some n => [Char.ofNat n]
      | none => [c]

/-! ## The end of a word -/

/-- Whether a character takes part in case. -/
def isCased (c : Char) : Bool :=
  inRanges casedRanges c.toNat

/-- Whether a character is passed over when looking for the end of a word. -/
def isCaseIgnorable (c : Char) : Bool :=
  inRanges caseIgnorableRanges c.toNat

/-- Whether the first character that is not case-ignorable is cased. -/
def meetsCased (cs : List Char) : Bool :=
  match cs.dropWhile isCaseIgnorable with
  | [] => false
  | c :: _ => isCased c

/-- The lower case of a capital sigma with these characters before it, nearest first, and after
    it. -/
def lowerSigma (before after : List Char) : Char :=
  if meetsCased before && !meetsCased after then 'ς' else 'σ'

/-! ## Texts -/

/-- Lower case of the rest of a text after the characters `before`, nearest first. -/
def lowerFrom (before : List Char) : List Char → List Char
  | [] => []
  | c :: after =>
    (if c = 'Σ' then [lowerSigma before after] else lowerChar c) ++ lowerFrom (c :: before) after

/-- The lower case of a text. -/
def lower (cs : List Char) : List Char :=
  lowerFrom [] cs

/-- The upper case of a text. -/
def upper (cs : List Char) : List Char :=
  cs.flatMap upperChar

/-! ## Occurrence of one text in another -/

/-- Whether `needle` stands contiguously somewhere in the text. -/
def occurs (needle : List Char) : List Char → Bool
  | [] => needle.isEmpty
  | c :: cs => needle.isPrefixOf (c :: cs) || occurs needle cs

theorem occurs_iff {needle cs : List Char} : occurs needle cs = true ↔ needle <:+: cs := by
  induction cs with
  | nil => simp [occurs]
  | cons c r ih =>
    simp only [occurs, Bool.or_eq_true, List.isPrefixOf_iff_prefix, ih, List.infix_cons_iff]

/-- The text in lower case, as comparisons that ignore case see it. -/
def folded (s : String) : List Char :=
  lower s.toList

/-- Whether `needle` occurs in `s` when case is ignored. -/
def occursFolded (needle s : String) : Bool :=
  occurs (folded needle) (folded s)

end Logbook.Text
