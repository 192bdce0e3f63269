/-!
# Blank characters and lines

The characters with the Unicode property `White_Space`, and the ends of a text without them. A
sequence is cut at its line ends. A line end closes a line, so one at the very end opens no further
line.
-/

namespace Logbook.Text

/-! ## Blank characters -/

/-- The Unicode property `White_Space`. -/
def isBlank (c : Char) : Bool :=
  let n := c.toNat
  (9 ≤ n && n ≤ 13) || n == 0x20 || n == 0x85 || n == 0xA0 || n == 0x1680 ||
    (0x2000 ≤ n && n ≤ 0x200A) || n == 0x2028 || n == 0x2029 || n == 0x202F || n == 0x205F ||
    n == 0x3000

/-- The text from its first character that is not blank. -/
def trimStart (cs : List Char) : List Char :=
  cs.dropWhile isBlank

/-- The text up to its last character that is not blank. -/
def trimEnd (cs : List Char) : List Char :=
  (cs.reverse.dropWhile isBlank).reverse

/-- The text without blank characters at either end. -/
def trim (cs : List Char) : List Char :=
  trimEnd (trimStart cs)

/-- Whether every character is blank. -/
def allBlank (cs : List Char) : Bool :=
  cs.all isBlank

/-! ## Lines -/

variable {α : Type}

/-- What follows the first line end. -/
def afterLine (isEnd : α → Bool) (xs : List α) : List α :=
  (xs.dropWhile fun x => !isEnd x).drop 1

theorem afterLine_length (isEnd : α → Bool) (x : α) (xs : List α) :
    (afterLine isEnd (x :: xs)).length < (x :: xs).length := by
  have h := (List.dropWhile_suffix (l := xs) fun x => !isEnd x).length_le
  unfold afterLine
  by_cases hx : isEnd x = true
  · simp [hx]
  · rw [List.dropWhile_cons_of_pos (by simpa using hx)]
    simp only [List.length_drop, List.length_cons]
    omega

/-- The lines of a sequence, without their ends. -/
def lines (isEnd : α → Bool) : List α → List (List α)
  | [] => []
  | x :: xs => (x :: xs).takeWhile (fun y => !isEnd y) :: lines isEnd (afterLine isEnd (x :: xs))
termination_by xs => xs.length
decreasing_by exact afterLine_length isEnd x xs

end Logbook.Text
