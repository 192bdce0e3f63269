import Logbook.Json.Token

/-!
# TOML tokens

A TOML text is a sequence of lines; a line ends in a line feed, before which a carriage return may
stand. A token is a line end, a blank, a punctuation mark, a string with its escapes resolved, or a
word: a run of the characters that bare keys, numbers and dates are made of. The line ends within a
string are part of it as they are written.

Results:

* `closing?_length`, `closingLong?_length`: reading a string consumes what it reads.
-/

namespace Logbook.Toml

open Logbook.Number (isDigit)
open Logbook.Json (hexValue?)

/-- A TOML token. -/
inductive Token where
  | newline
  /-- A space, a tab or a comment. -/
  | blank
  /-- One of the characters `[`, `]`, `,`, `=` and the braces. -/
  | mark (c : Char)
  /-- A string; `key` tells whether it is of a kind that may be a key. -/
  | text (key : Bool) (content : List Char)
  | word (cs : List Char)
  deriving DecidableEq

/-! ## The whole text -/

/-- Whether a character other than a carriage return may stand in a TOML text. -/
def isAllowed (c : Char) : Bool :=
  c == '\t' || c == '\n' || (0x20 ≤ c.toNat && c.toNat != 0x7F)

/-- Whether all characters may stand in a TOML text, a carriage return before a line feed only. -/
def allAllowed : List Char → Bool
  | [] => true
  | '\r' :: r => r.head? == some '\n' && allAllowed r
  | c :: r => isAllowed c && allAllowed r

/-- The text without a byte-order mark. -/
def withoutMark : List Char → List Char
  | '\uFEFF' :: r => r
  | cs => cs

/-! ## Strings -/

/-- The apostrophe. -/
def apostrophe : Char := '\x27'

/-- What stands before the closing quotation mark of a string on one line, and what follows the
    mark. With escapes, a backslash takes the next character along. -/
def closing? (mark : Char) (escapes : Bool) : List Char → Option (List Char × List Char)
  | [] => none
  | '\n' :: _ => none
  | '\\' :: c :: r =>
    if escapes then (closing? mark escapes r).map fun (s, rest) => ('\\' :: c :: s, rest)
    else if c = mark then some (['\\'], r)
    else if c = '\n' then none
    else (closing? mark escapes r).map fun (s, rest) => ('\\' :: c :: s, rest)
  | c :: r =>
    if c = mark then some ([], r)
    else (closing? mark escapes r).map fun (s, rest) => (c :: s, rest)

/-- What stands before the three closing quotation marks of a string on several lines, and what
    follows them, after `seen` marks. Up to two marks may stand before the closing ones. -/
def closingLong? (mark : Char) (escapes : Bool) :
    (seen : Nat) → List Char → Option (List Char × List Char)
  | seen, [] => if 3 ≤ seen then some (List.replicate (seen - 3) mark, []) else none
  | seen, '\\' :: d :: r =>
    if 3 ≤ seen then some (List.replicate (seen - 3) mark, '\\' :: d :: r)
    else if escapes then
      (closingLong? mark escapes 0 r).map fun (s, rest) =>
        (List.replicate seen mark ++ '\\' :: d :: s, rest)
    else
      (closingLong? mark escapes 0 (d :: r)).map fun (s, rest) =>
        (List.replicate seen mark ++ '\\' :: s, rest)
  | seen, c :: r =>
    if c = mark then if seen = 5 then none else closingLong? mark escapes (seen + 1) r
    else if 3 ≤ seen then some (List.replicate (seen - 3) mark, c :: r)
    else
      (closingLong? mark escapes 0 r).map fun (s, rest) =>
        (List.replicate seen mark ++ c :: s, rest)

/-- The number that hexadecimal digits spell. -/
def hexNumber? (ds : List Char) : Option Nat :=
  ds.foldlM (fun n c => (hexValue? c).map (n * 16 + ·)) 0

/-- The character with the code point that hexadecimal digits spell. -/
def scalarOf? (ds : List Char) : Option Char :=
  (hexNumber? ds).bind fun n =>
    if n < 0xD800 ∨ (0xDFFF < n ∧ n ≤ 0x10FFFF) then some (Char.ofNat n) else none

/-- The character that a short escape stands for, by the letter after the backslash. -/
def shortEscape? (c : Char) : Option Char :=
  if c = '"' ∨ c = '\\' then some c
  else if c = 'b' then some '\x08'
  else if c = 't' then some '\t'
  else if c = 'n' then some '\n'
  else if c = 'f' then some '\x0c'
  else if c = 'r' then some '\r'
  else if c = 'e' then some '\x1b'
  else none

/-- Whether a character is a space or a tab. -/
def isGap (c : Char) : Bool :=
  c == ' ' || c == '\t'

/-- What follows the line end at the front. -/
def lineEnd? : List Char → Option (List Char)
  | '\n' :: r => some r
  | '\r' :: '\n' :: r => some r
  | _ => none

/-- Whether nothing but spaces and tabs is left of a line. -/
def endsLine (cs : List Char) : Bool :=
  (lineEnd? (cs.dropWhile isGap)).isSome

/-- The characters that a string with escapes stands for. In a long string, a backslash at the end
    of a line takes the line end away with all spaces, tabs and line ends that follow; while
    `skipping`, such characters are dropped. -/
def unescape? (long skipping : Bool) : List Char → Option (List Char)
  | [] => some []
  | '\\' :: 'x' :: a :: b :: r =>
    match scalarOf? [a, b], unescape? long false r with
    | some c, some cs => some (c :: cs)
    | _, _ => none
  | '\\' :: 'u' :: a :: b :: c :: d :: r =>
    match scalarOf? [a, b, c, d], unescape? long false r with
    | some c, some cs => some (c :: cs)
    | _, _ => none
  | '\\' :: 'U' :: a :: b :: c :: d :: e :: f :: g :: h :: r =>
    match scalarOf? [a, b, c, d, e, f, g, h], unescape? long false r with
    | some c, some cs => some (c :: cs)
    | _, _ => none
  | '\\' :: c :: r =>
    if long && endsLine (c :: r) then unescape? long true (c :: r)
    else
      match shortEscape? c, unescape? long false r with
      | some c, some cs => some (c :: cs)
      | _, _ => none
  | ['\\'] => none
  | c :: r =>
    if skipping && (isGap c || c == '\r' || c == '\n') then unescape? long true r
    else (unescape? long false r).map (c :: ·)

/-- A long string without a line end at its very front. -/
def withoutFirstEnd (cs : List Char) : List Char :=
  (lineEnd? cs).getD cs

theorem closing?_length {mark : Char} {escapes : Bool} {cs s rest : List Char}
    (h : closing? mark escapes cs = some (s, rest)) : rest.length < cs.length := by
  fun_induction closing? mark escapes cs generalizing s with
  | case1 => cases h
  | case2 => cases h
  | case3 c r _ ih =>
    obtain ⟨⟨s', r'⟩, hr, he⟩ := Option.map_eq_some_iff.1 h
    cases he
    have := ih hr
    simp only [List.length_cons]
    omega
  | case4 => cases h; simp only [List.length_cons]; omega
  | case5 => cases h
  | case6 c r _ _ _ ih =>
    obtain ⟨⟨s', r'⟩, hr, he⟩ := Option.map_eq_some_iff.1 h
    cases he
    have := ih hr
    simp only [List.length_cons]
    omega
  | case7 => cases h; simp
  | case8 c r _ _ _ ih =>
    obtain ⟨⟨s', r'⟩, hr, he⟩ := Option.map_eq_some_iff.1 h
    cases he
    have := ih hr
    simp only [List.length_cons]
    omega

theorem closingLong?_length {mark : Char} {escapes : Bool} {seen : Nat} {cs s rest : List Char}
    (h : closingLong? mark escapes seen cs = some (s, rest)) : rest.length ≤ cs.length := by
  fun_induction closingLong? mark escapes seen cs generalizing s with
  | case1 => cases h; simp
  | case2 => cases h
  | case3 => cases h; simp
  | case4 seen d r _ _ ih =>
    obtain ⟨⟨s', r'⟩, hr, he⟩ := Option.map_eq_some_iff.1 h
    cases he
    have := ih hr
    simp only [List.length_cons]
    omega
  | case5 seen d r _ _ ih =>
    obtain ⟨⟨s', r'⟩, hr, he⟩ := Option.map_eq_some_iff.1 h
    cases he
    have := ih hr
    simp only [List.length_cons] at *
    omega
  | case6 => cases h
  | case7 seen r _ _ ih =>
    have := ih h
    simp only [List.length_cons]
    omega
  | case8 => cases h; simp
  | case9 seen c r _ _ _ ih =>
    obtain ⟨⟨s', r'⟩, hr, he⟩ := Option.map_eq_some_iff.1 h
    cases he
    have := ih hr
    simp only [List.length_cons]
    omega

/-! ## Words -/

/-- A character of a word. -/
def isWordChar (c : Char) : Bool :=
  c.isAlphanum || c == '_' || c == '-' || c == '+' || c == '.' || c == ':'

/-- Whether a word has the shape of a date. -/
def isDateShaped : List Char → Bool
  | [a, b, c, d, '-', e, f, '-', g, h] => [a, b, c, d, e, f, g, h].all isDigit
  | _ => false

/-- The word at the front, and what follows it. One space and a digit after a date continue it. -/
def spanWord (cs : List Char) : List Char × List Char :=
  let first := cs.takeWhile isWordChar
  match cs.dropWhile isWordChar with
  | ' ' :: d :: r =>
    if isDateShaped first && isDigit d then
      (first ++ ' ' :: (d :: r).takeWhile isWordChar, (d :: r).dropWhile isWordChar)
    else (first, ' ' :: d :: r)
  | rest => (first, rest)

theorem spanWord_length {c : Char} (h : isWordChar c = true) (r : List Char) :
    (spanWord (c :: r)).2.length < (c :: r).length := by
  have hr := (List.dropWhile_suffix (l := r) isWordChar).length_le
  unfold spanWord
  rw [List.dropWhile_cons_of_pos h]
  split
  · rename_i d r' he
    have hr' := (List.dropWhile_suffix (l := d :: r') isWordChar).length_le
    rw [he] at hr
    simp only [List.length_cons] at hr hr' ⊢
    split
    · simp only
      omega
    · simp only [List.length_cons]
      omega
  · simp only [List.length_cons]
    omega

/-! ## Token sequences -/

/-- Whether a character is a punctuation mark. -/
def isMark (c : Char) : Bool :=
  c == '[' || c == ']' || c == '\x7b' || c == '\x7d' || c == ',' || c == '='

/-- A string on one line, after its opening mark. -/
def shortString? (mark : Char) (escapes : Bool) (cs : List Char) : Option (Token × List Char) :=
  (closing? mark escapes cs).bind fun (s, rest) =>
    (if escapes then unescape? false false s else some s).map fun content =>
      (.text true content, rest)

/-- A string on several lines, after its opening marks. -/
def longString? (mark : Char) (escapes : Bool) (cs : List Char) : Option (Token × List Char) :=
  (closingLong? mark escapes 0 cs).bind fun (s, rest) =>
    let body := withoutFirstEnd s
    (if escapes then unescape? true false body else some body).map fun content =>
      (.text false content, rest)

/-- The string at the front of a text that begins with the mark. -/
def string? (mark : Char) (escapes : Bool) (cs : List Char) : Option (Token × List Char) :=
  if List.isPrefixOf [mark, mark, mark] cs then longString? mark escapes (cs.drop 3)
  else shortString? mark escapes (cs.drop 1)

/-- The token at the front of a text, and what follows it. -/
def Token.next? : List Char → Option (Token × List Char)
  | [] => none
  | '\r' :: '\n' :: r => some (.newline, r)
  | c :: r =>
    if c = '\n' then some (.newline, r)
    else if isGap c then some (.blank, r)
    else if c = '#' then some (.blank, r.dropWhile (· != '\n'))
    else if c = '"' then string? c true (c :: r)
    else if c = apostrophe then string? c false (c :: r)
    else if isMark c then some (.mark c, r)
    else if isWordChar c then some (.word (spanWord (c :: r)).1, (spanWord (c :: r)).2)
    else none

theorem string?_length {mark : Char} {escapes : Bool} {cs rest : List Char} {t : Token}
    (h : string? mark escapes cs = some (t, rest)) : rest.length < cs.length := by
  unfold string? at h
  split at h
  · rename_i hp
    have hl := (List.isPrefixOf_iff_prefix.1 hp).length_le
    obtain ⟨⟨s, r⟩, hs, hm⟩ := Option.bind_eq_some_iff.1 h
    obtain ⟨content, -, he⟩ := Option.map_eq_some_iff.1 hm
    cases he
    have := closingLong?_length hs
    simp only [List.length_drop, List.length_cons, List.length_nil] at this hl
    omega
  · obtain ⟨⟨s, r⟩, hs, hm⟩ := Option.bind_eq_some_iff.1 h
    obtain ⟨content, -, he⟩ := Option.map_eq_some_iff.1 hm
    cases he
    have := closing?_length hs
    simp only [List.length_drop] at this
    omega

theorem Token.next?_length {cs rest : List Char} {t : Token}
    (h : Token.next? cs = some (t, rest)) : rest.length < cs.length := by
  unfold Token.next? at h
  split at h
  · cases h
  · cases h
    simp only [List.length_cons]
    omega
  · rename_i c r _
    have hd := (List.dropWhile_suffix (l := r) (· != '\n')).length_le
    split at h
    · cases h; simp
    split at h
    · cases h; simp
    split at h
    · cases h
      simp only [List.length_cons]
      omega
    split at h
    · exact string?_length h
    split at h
    · exact string?_length h
    split at h
    · cases h; simp
    split at h
    · rename_i hw
      cases h
      exact spanWord_length hw r
    · cases h

/-- The tokens of a text, which may hold any character; `none` if it is not a sequence of tokens. -/
def tokensOf? (cs : List Char) : Option (List Token) :=
  match cs with
  | [] => some []
  | c :: r =>
    match _h : Token.next? (c :: r) with
    | none => none
    | some (t, rest) => (tokensOf? rest).map (t :: ·)
termination_by cs.length
decreasing_by exact Token.next?_length _h

/-- The tokens of a text; `none` if it is not a sequence of tokens. -/
def tokens? (cs : List Char) : Option (List Token) :=
  let text := withoutMark cs
  if allAllowed text then tokensOf? text else none

end Logbook.Toml
