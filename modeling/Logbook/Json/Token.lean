import Logbook.Number.Numeral

/-!
# JSON tokens

A JSON text is a sequence of tokens with blanks between them. A string token keeps its characters
as written, escapes included, and a number token its numeral; what they stand for is decided when
the value is needed.

Results:

* `closing?_length`, `numeral?_length`: reading a string or a number consumes what it reads.
-/

namespace Logbook.Json

open Logbook.Number (Numeral isDigit spanDigits spanDigits_length exponent? exponent?_length)

/-- A JSON token. -/
inductive Token where
  | openArray
  | closeArray
  | openObject
  | closeObject
  | colon
  | comma
  | null
  | bool (b : Bool)
  | number (n : Numeral)
  /-- A string, by the characters between its quotation marks. -/
  | string (source : List Char)
  deriving DecidableEq

/-! ## Strings -/

/-- The value of a hexadecimal digit of either case. -/
def hexValue? (c : Char) : Option Nat :=
  let n := c.toNat
  if 0x30 ≤ n ∧ n ≤ 0x39 then some (n - 0x30)
  else if 0x41 ≤ n ∧ n ≤ 0x46 then some (n - 0x41 + 10)
  else if 0x61 ≤ n ∧ n ≤ 0x66 then some (n - 0x61 + 10)
  else none

/-- The character that a short escape stands for, by the letter after the backslash. -/
def shortEscape? (c : Char) : Option Char :=
  if c = '"' ∨ c = '\\' ∨ c = '/' then some c
  else if c = 'b' then some '\x08'
  else if c = 'f' then some '\x0c'
  else if c = 'n' then some '\n'
  else if c = 'r' then some '\r'
  else if c = 't' then some '\t'
  else none

/-- The number that four hexadecimal digits at the front spell, and what follows them. -/
def hexUnit? : List Char → Option (Nat × List Char)
  | a :: b :: c :: d :: rest =>
    match hexValue? a, hexValue? b, hexValue? c, hexValue? d with
    | some a, some b, some c, some d => some (((a * 16 + b) * 16 + c) * 16 + d, rest)
    | _, _, _, _ => none
  | _ => none

/-- The characters of a string up to its closing quotation mark, and what follows it. Control
    characters and unknown escapes are refused. -/
def closing? : List Char → Option (List Char × List Char)
  | [] => none
  | '"' :: rest => some ([], rest)
  | '\\' :: 'u' :: a :: b :: c :: d :: rest =>
    if (hexUnit? [a, b, c, d]).isSome then
      (closing? rest).map fun (s, r) => ('\\' :: 'u' :: a :: b :: c :: d :: s, r)
    else none
  | '\\' :: c :: rest =>
    if (shortEscape? c).isSome then (closing? rest).map fun (s, r) => ('\\' :: c :: s, r)
    else none
  | c :: rest =>
    if c.toNat < 0x20 ∨ c = '\\' then none else (closing? rest).map fun (s, r) => (c :: s, r)

theorem closing?_length {cs source rest : List Char} (h : closing? cs = some (source, rest)) :
    rest.length < cs.length := by
  fun_induction closing? cs generalizing source with
  | case1 => cases h
  | case2 => cases h; simp
  | case3 a b c d r _ ih =>
    obtain ⟨⟨s, r'⟩, hr, he⟩ := Option.map_eq_some_iff.1 h
    cases he
    have := ih hr
    simp only [List.length_cons]
    omega
  | case4 => cases h
  | case5 c r _ _ ih =>
    obtain ⟨⟨s, r'⟩, hr, he⟩ := Option.map_eq_some_iff.1 h
    cases he
    have := ih hr
    simp only [List.length_cons]
    omega
  | case6 => cases h
  | case7 => cases h
  | case8 c r _ _ _ _ ih =>
    obtain ⟨⟨s, r'⟩, hr, he⟩ := Option.map_eq_some_iff.1 h
    cases he
    have := ih hr
    simp only [List.length_cons]
    omega

/-- The characters that a string token stands for; `none` if half of a surrogate pair is
    missing. -/
def unescape? : List Char → Option (List Char)
  | [] => some []
  | '\\' :: 'u' :: a :: b :: c :: d :: rest =>
    match hexUnit? [a, b, c, d] with
    | none => none
    | some (hi, _) =>
      if hi < 0xD800 ∨ 0xDFFF < hi then (unescape? rest).map (Char.ofNat hi :: ·)
      else if 0xDC00 ≤ hi then none
      else match rest with
        | '\\' :: 'u' :: e :: f :: g :: h :: rest' =>
          match hexUnit? [e, f, g, h] with
          | none => none
          | some (lo, _) =>
            if 0xDC00 ≤ lo ∧ lo ≤ 0xDFFF then
              (unescape? rest').map
                (Char.ofNat (0x10000 + (hi - 0xD800) * 0x400 + (lo - 0xDC00)) :: ·)
            else none
        | _ => none
  | '\\' :: c :: rest =>
    match shortEscape? c with
    | some c' => (unescape? rest).map (c' :: ·)
    | none => none
  | c :: rest => (unescape? rest).map (c :: ·)

/-! ## Numbers -/

/-- The whole part of a number: a zero by itself, or digits that do not begin with one. -/
def wholeDigits? (cs : List Char) : Option (List Char × List Char) :=
  match cs with
  | '0' :: rest => some (['0'], rest)
  | _ =>
    match spanDigits cs with
    | ([], _) => none
    | (ds, rest) => some (ds, rest)

/-- A fraction at the front, if a point is there; `none` if the point has no digits. -/
def fraction? (cs : List Char) : Option (Option (List Char) × List Char) :=
  match cs with
  | '.' :: r =>
    match spanDigits r with
    | ([], _) => none
    | (ds, rest) => some (some ds, rest)
  | _ => some (none, cs)

/-- The number at the front, and what follows it. -/
def numeral? (cs : List Char) : Option (Numeral × List Char) := do
  let (negative, body) := match cs with
    | '-' :: r => (true, r)
    | _ => (false, cs)
  let (whole, rest) ← wholeDigits? body
  let (fraction, rest) ← fraction? rest
  let (exponent, rest) ← exponent? rest
  return (⟨negative, whole, fraction, exponent⟩, rest)

theorem wholeDigits?_length {cs ds rest : List Char} (h : wholeDigits? cs = some (ds, rest)) :
    rest.length < cs.length := by
  unfold wholeDigits? at h
  split at h
  · cases h; simp
  · have happ : (spanDigits cs).1 ++ (spanDigits cs).2 = cs := List.takeWhile_append_dropWhile
    split at h
    · cases h
    · rename_i ds' rest' hne hs
      cases h
      rw [hs] at happ
      have hlen := congrArg List.length happ
      have : 0 < ds.length := List.length_pos_iff.2 (by rintro rfl; exact hne rfl)
      simp only [List.length_append] at hlen
      omega

theorem fraction?_length {cs rest : List Char} {f : Option (List Char)}
    (h : fraction? cs = some (f, rest)) : rest.length ≤ cs.length := by
  unfold fraction? at h
  split at h
  · rename_i r
    have := spanDigits_length r
    split at h
    · cases h
    · rename_i hs
      cases h
      rw [hs] at this
      simp only [List.length_cons]
      exact Nat.le_succ_of_le this
  · cases h
    exact Nat.le_refl _

theorem numeral?_length {cs rest : List Char} {n : Numeral} (h : numeral? cs = some (n, rest)) :
    rest.length < cs.length := by
  unfold numeral? at h
  have key : ∀ body : List Char, body.length ≤ cs.length → ∀ neg,
      (do let (whole, rest) ← wholeDigits? body
          let (fraction, rest) ← fraction? rest
          let (exponent, rest) ← exponent? rest
          return ((⟨neg, whole, fraction, exponent⟩ : Numeral), rest)) = some (n, rest) →
      rest.length < cs.length := by
    intro body hb neg hd
    simp only [Option.bind_eq_bind, Option.bind_eq_some_iff, Option.pure_def, Option.some.injEq,
      Prod.mk.injEq, Prod.exists] at hd
    obtain ⟨w, r₁, h₁, f, r₂, h₂, e, r₃, h₃, -, rfl⟩ := hd
    have := wholeDigits?_length h₁
    have := fraction?_length h₂
    have := exponent?_length h₃
    omega
  split at h
  rename_i negative body heq
  split at heq
  · cases heq
    exact key _ (by simp) _ h
  · cases heq
    exact key _ (Nat.le_refl _) _ h

/-! ## Token sequences -/

/-- The blanks between tokens. -/
def isSpace (c : Char) : Bool :=
  c == ' ' || c == '\t' || c == '\n' || c == '\r'

/-- The token of a punctuation mark. -/
def punctuation? (c : Char) : Option Token :=
  if c = '[' then some .openArray
  else if c = ']' then some .closeArray
  else if c = '\x7b' then some .openObject
  else if c = '\x7d' then some .closeObject
  else if c = ':' then some .colon
  else if c = ',' then some .comma
  else none

/-- The token at the front of a text that does not begin with a space, and what follows it. -/
def Token.next? : List Char → Option (Token × List Char)
  | [] => none
  | '"' :: r => (closing? r).map fun (s, rest) => (.string s, rest)
  | 't' :: 'r' :: 'u' :: 'e' :: r => some (.bool true, r)
  | 'f' :: 'a' :: 'l' :: 's' :: 'e' :: r => some (.bool false, r)
  | 'n' :: 'u' :: 'l' :: 'l' :: r => some (.null, r)
  | c :: r =>
    match punctuation? c with
    | some t => some (t, r)
    | none => (numeral? (c :: r)).map fun (n, rest) => (.number n, rest)

theorem Token.next?_length {cs rest : List Char} {t : Token}
    (h : Token.next? cs = some (t, rest)) : rest.length < cs.length := by
  unfold Token.next? at h
  split at h
  · cases h
  · obtain ⟨⟨s, r⟩, hr, he⟩ := Option.map_eq_some_iff.1 h
    cases he
    have := closing?_length hr
    simp only [List.length_cons]
    omega
  · cases h; simp; omega
  · cases h; simp; omega
  · cases h; simp; omega
  · split at h
    · cases h; simp
    · obtain ⟨⟨n, r⟩, hr, he⟩ := Option.map_eq_some_iff.1 h
      cases he
      exact numeral?_length hr

/-- The tokens of a text; `none` if it is not a sequence of tokens. -/
def tokens? (cs : List Char) : Option (List Token) :=
  match cs with
  | [] => some []
  | c :: r =>
    if isSpace c then tokens? r
    else match _h : Token.next? (c :: r) with
      | none => none
      | some (t, rest) => (tokens? rest).map (t :: ·)
termination_by cs.length
decreasing_by
  · simp
  · exact Token.next?_length _h

end Logbook.Json
