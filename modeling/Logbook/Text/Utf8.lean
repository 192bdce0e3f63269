/-!
# Reading UTF-8 leniently

A text is read from any bytes: a well-formed sequence gives its character, and each maximal
prefix of a sequence that breaks off gives one replacement character. The first byte fixes how
many bytes follow and the range of the second, so a sequence that breaks off is recognised at the
first byte that cannot continue it, and that byte is read afresh.
-/

namespace Logbook.Text.Utf8

/-- What a first byte announces. -/
inductive Lead where
  /-- A character of its own. -/
  | single
  /-- `more` bytes follow the second one, which lies between `low` and `high`. -/
  | multi (more : Nat) (low high : Nat)
  /-- No sequence begins with this byte. -/
  | invalid
  deriving DecidableEq

/-- What a first byte announces, by RFC 3629. -/
def lead (b : Nat) : Lead :=
  if b < 0x80 then .single
  else if b < 0xC2 then .invalid
  else if b < 0xE0 then .multi 0 0x80 0xBF
  else if b = 0xE0 then .multi 1 0xA0 0xBF
  else if b = 0xED then .multi 1 0x80 0x9F
  else if b < 0xF0 then .multi 1 0x80 0xBF
  else if b = 0xF0 then .multi 2 0x90 0xBF
  else if b < 0xF4 then .multi 2 0x80 0xBF
  else if b = 0xF4 then .multi 2 0x80 0x8F
  else .invalid

/-- A byte that continues a sequence. -/
def isTail (b : UInt8) : Bool :=
  0x80 ≤ b.toNat && b.toNat ≤ 0xBF

/-- The bits a first byte of a sequence of `more + 2` bytes contributes. -/
def leadBits (more b : Nat) : Nat :=
  match more with
  | 0 => b - 0xC0
  | 1 => b - 0xE0
  | _ => b - 0xF0

/-- Reads `more` continuation bytes onto the code point so far: the character and the bytes after
    it, or only the bytes from the one that does not continue the sequence. -/
def continue? (code : Nat) : (more : Nat) → List UInt8 → Option Char × List UInt8
  | 0, bs => (some (Char.ofNat code), bs)
  | _ + 1, [] => (none, [])
  | more + 1, b :: bs =>
    if isTail b then continue? (code * 64 + (b.toNat - 0x80)) more bs else (none, b :: bs)

theorem continue?_length (code more : Nat) (bs : List UInt8) :
    (continue? code more bs).2.length ≤ bs.length := by
  fun_induction continue? code more bs with
  | case1 => simp
  | case2 => simp
  | case3 code more b bs _ ih => simp; omega
  | case4 => simp

/-- Reads the sequence that begins with byte `b`: its character, or `none` if it breaks off, and
    the bytes after it. -/
def step (b : UInt8) (bs : List UInt8) : Option Char × List UInt8 :=
  match lead b.toNat with
  | .single => (some (Char.ofNat b.toNat), bs)
  | .invalid => (none, bs)
  | .multi more low high =>
    match bs with
    | [] => (none, [])
    | b₂ :: rest =>
      if low ≤ b₂.toNat ∧ b₂.toNat ≤ high then
        continue? (leadBits more b.toNat * 64 + (b₂.toNat - 0x80)) more rest
      else (none, bs)

theorem step_length (b : UInt8) (bs : List UInt8) : (step b bs).2.length ≤ bs.length := by
  unfold step
  split
  · simp
  · simp
  · split
    · simp
    · split
      · refine Nat.le_trans (continue?_length _ _ _) (by simp)
      · simp

/-- The pieces of a byte sequence: a character for each well-formed sequence, and `none` for each
    one that breaks off. -/
def pieces : List UInt8 → List (Option Char)
  | [] => []
  | b :: bs => (step b bs).1 :: pieces (step b bs).2
termination_by bs => bs.length
decreasing_by
  have := step_length b bs
  simp only [List.length_cons]
  omega

/-- The character that stands for a sequence that breaks off. -/
def replacement : Char := '\uFFFD'

/-- The text of a byte sequence, with a replacement character for each sequence that breaks
    off. -/
def decode (bs : List UInt8) : List Char :=
  (pieces bs).map (·.getD replacement)

@[simp] theorem decode_nil : decode [] = [] := by
  simp [decode, pieces]

end Logbook.Text.Utf8
