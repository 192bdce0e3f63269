import Mathlib.Data.List.TakeWhile
import Mathlib.Tactic.SplitIfs
import Logbook.Text.Lines

/-!
# Lines of texts and of bytes

Scanners take the characters that pass a test off the front of a text. Where a text is made of such
characters and of a rest that does not begin with one, they take exactly the former and leave the
rest.

A sequence has no line end, or it is a line, its end and the sequence that follows. What holds of
lines is proved along this division.

A text may be cut into lines before or after it is written as UTF-8. The byte of the line end stands
for the line end alone: it occurs in the bytes of no other character.

Results:

* `takeWhile_append`, `dropWhile_append`: what is taken off the front, and what is left.
* `lines_induction`: induction on the lines of a sequence.
* `lines_append_of_end`: a sequence that goes on after a line end keeps its lines.
* `lines_joined`, `lines_flatMap_concat`: the lines of sequences that end in a line end.
* `lines_utf8`: the lines of a text in bytes are the lines of the text, in bytes.
-/

namespace Logbook.Text

/-! ## Spans -/

section

variable {α : Type} {p : α → Bool} {xs rest : List α}

theorem takeWhile_append (hxs : ∀ x ∈ xs, p x = true)
    (hrest : ∀ x, rest.head? = some x → p x = false) : (xs ++ rest).takeWhile p = xs := by
  rw [List.takeWhile_append_of_pos hxs]
  cases rest with
  | nil => exact List.append_nil xs
  | cons x rest =>
    rw [List.takeWhile_cons, hrest x rfl]
    exact List.append_nil xs

theorem dropWhile_append (hxs : ∀ x ∈ xs, p x = true)
    (hrest : ∀ x, rest.head? = some x → p x = false) : (xs ++ rest).dropWhile p = rest := by
  rw [List.dropWhile_append_of_pos hxs]
  cases rest with
  | nil => rfl
  | cons x rest =>
    rw [List.dropWhile_cons, hrest x rfl]
    rfl

end

/-! ## Lines -/

variable {α β : Type} {isEnd : α → Bool}

theorem takeWhile_line {xs : List α} {e : α} (hxs : ∀ x ∈ xs, isEnd x = false)
    (he : isEnd e = true) (rest : List α) :
    (xs ++ e :: rest).takeWhile (fun y => !isEnd y) = xs := by
  refine takeWhile_append (fun x hx => by rw [hxs x hx]; rfl) ?_
  rintro x ⟨⟩
  rw [he]
  rfl

theorem dropWhile_line {xs : List α} {e : α} (hxs : ∀ x ∈ xs, isEnd x = false)
    (he : isEnd e = true) (rest : List α) :
    (xs ++ e :: rest).dropWhile (fun y => !isEnd y) = e :: rest := by
  refine dropWhile_append (fun x hx => by rw [hxs x hx]; rfl) ?_
  rintro x ⟨⟩
  rw [he]
  rfl

theorem afterLine_append {xs : List α} {e : α} (hxs : ∀ x ∈ xs, isEnd x = false)
    (he : isEnd e = true) (rest : List α) : afterLine isEnd (xs ++ e :: rest) = rest := by
  rw [afterLine, dropWhile_line hxs he]
  rfl

theorem lines_append {xs : List α} {e : α} (hxs : ∀ x ∈ xs, isEnd x = false) (he : isEnd e = true)
    (rest : List α) : lines isEnd (xs ++ e :: rest) = xs :: lines isEnd rest := by
  have htake := takeWhile_line hxs he rest
  have hdrop := afterLine_append hxs he rest
  cases xs with
  | nil => rw [List.nil_append] at htake hdrop ⊢; rw [lines, htake, hdrop]
  | cons x xs => rw [List.cons_append] at htake hdrop ⊢; rw [lines, htake, hdrop]

theorem lines_eq_singleton {xs : List α} (hne : xs ≠ []) (hxs : ∀ x ∈ xs, isEnd x = false) :
    lines isEnd xs = [xs] := by
  have hinside : ∀ x ∈ xs, (!isEnd x) = true := fun x hx => by rw [hxs x hx]; rfl
  cases xs with
  | nil => exact absurd rfl hne
  | cons x xs =>
    rw [lines, List.takeWhile_eq_self_iff.2 hinside, afterLine, List.dropWhile_eq_nil_iff.2 hinside,
      List.drop_nil, lines]

/-- Induction on the lines of a sequence. -/
@[elab_as_elim]
theorem lines_induction {motive : List α → Prop} (isEnd : α → Bool) (xs : List α)
    (last : ∀ xs, (∀ x ∈ xs, isEnd x = false) → motive xs)
    (line : ∀ xs e rest, (∀ x ∈ xs, isEnd x = false) → isEnd e = true → motive rest →
      motive (xs ++ e :: rest)) : motive xs := by
  -- By length: what follows the first line end is shorter.
  induction hlength : xs.length using Nat.strong_induction_on generalizing xs with
  | _ n ih =>
    have hsplit := List.takeWhile_append_dropWhile (p := fun x => !isEnd x) (l := xs)
    have hfirst : ∀ x ∈ xs.takeWhile (fun x => !isEnd x), isEnd x = false :=
      fun x hx => by simpa using List.mem_takeWhile_imp hx
    have hhead := List.head?_dropWhile_not (fun x => !isEnd x) xs
    cases hdrop : xs.dropWhile (fun x => !isEnd x) with
    | nil =>
      rw [hdrop, List.append_nil] at hsplit
      rw [← hsplit]
      exact last _ hfirst
    | cons e rest =>
      rw [hdrop] at hsplit hhead
      have he : isEnd e = true := by simpa using hhead
      have hlt : rest.length < n := by
        rw [← hlength, ← hsplit, List.length_append, List.length_cons]
        omega
      rw [← hsplit]
      exact line _ _ _ hfirst he (ih rest.length hlt rest rfl)

theorem lines_append_of_end {e : α} (he : isEnd e = true) (xs rest : List α) :
    lines isEnd (xs ++ e :: rest) = lines isEnd (xs ++ [e]) ++ lines isEnd rest := by
  induction xs using lines_induction isEnd with
  | last xs hxs =>
    rw [lines_append hxs he, lines_append hxs he, lines]
    rfl
  | line xs e' back hxs he' ih =>
    rw [List.append_assoc, List.append_assoc, List.cons_append, List.cons_append,
      lines_append hxs he', lines_append hxs he', ih, List.cons_append]

theorem length_lines_concat {e : α} (he : isEnd e = true) (xs : List α) :
    (lines isEnd (xs ++ [e])).length = xs.countP isEnd + 1 := by
  induction xs using lines_induction isEnd with
  | last xs hxs =>
    have hnone : xs.countP isEnd = 0 := List.countP_eq_zero.2 fun x hx => by simp [hxs x hx]
    rw [lines_append hxs he, lines, hnone]
    rfl
  | line xs e' rest hxs he' ih =>
    have hnone : xs.countP isEnd = 0 := List.countP_eq_zero.2 fun x hx => by simp [hxs x hx]
    rw [List.append_assoc, List.cons_append, lines_append hxs he', List.length_cons, ih,
      List.countP_append, List.countP_cons_of_pos he', hnone, Nat.zero_add]

theorem lines_joined_append {e : α} (he : isEnd e = true) {f : β → List α} {xs : List β}
    (hinside : ∀ x ∈ xs, ∀ y ∈ f x, isEnd y = false) (rest : List α) :
    lines isEnd (xs.flatMap (fun x => f x ++ [e]) ++ rest) = xs.map f ++ lines isEnd rest := by
  induction xs with
  | nil => rfl
  | cons x xs ih =>
    obtain ⟨hx, hxs⟩ := List.forall_mem_cons.1 hinside
    rw [List.flatMap_cons, List.append_assoc, List.append_assoc, List.singleton_append,
      lines_append hx he, ih hxs, List.map_cons, List.cons_append]

theorem lines_joined {e : α} (he : isEnd e = true) {f : β → List α} {xs : List β}
    (hinside : ∀ x ∈ xs, ∀ y ∈ f x, isEnd y = false) :
    lines isEnd (xs.flatMap fun x => f x ++ [e]) = xs.map f := by
  have h := lines_joined_append he hinside []
  rwa [List.append_nil, lines, List.append_nil] at h

/-- Sequences one behind another, each with a line end, have the lines of each. -/
theorem lines_flatMap_concat {e : α} (he : isEnd e = true) (f : β → List α) (xs : List β) :
    lines isEnd (xs.flatMap fun x => f x ++ [e]) =
      xs.flatMap fun x => lines isEnd (f x ++ [e]) := by
  induction xs with
  | nil =>
    rw [List.flatMap_nil, List.flatMap_nil, lines]
  | cons x xs ih =>
    rw [List.flatMap_cons, List.flatMap_cons, ← ih, List.append_assoc, List.singleton_append,
      lines_append_of_end he]

/-- Spelling out the items of a sequence spells out its lines, if a line end is spelled as one and
    nothing else has one in it. -/
theorem lines_flatMap {isEnd' : β → Bool} {f : α → List β}
    (hend : ∀ x, isEnd x = true → ∃ e, f x = [e] ∧ isEnd' e = true)
    (hinside : ∀ x, isEnd x = false → f x ≠ [] ∧ ∀ y ∈ f x, isEnd' y = false) (xs : List α) :
    lines isEnd' (xs.flatMap f) = (lines isEnd xs).map (List.flatMap f) := by
  have hline : ∀ xs : List α, (∀ x ∈ xs, isEnd x = false) →
      ∀ y ∈ xs.flatMap f, isEnd' y = false := by
    intro xs hxs y hy
    obtain ⟨x, hx, hy⟩ := List.mem_flatMap.1 hy
    exact (hinside x (hxs x hx)).2 y hy
  induction xs using lines_induction isEnd with
  | last xs hxs =>
    cases xs with
    | nil => rw [List.flatMap_nil, lines, lines, List.map_nil]
    | cons x xs =>
      have hne : (x :: xs).flatMap f ≠ [] := fun h =>
        (hinside x (hxs x List.mem_cons_self)).1 (List.flatMap_eq_nil_iff.1 h x List.mem_cons_self)
      rw [lines_eq_singleton (List.cons_ne_nil x xs) hxs, lines_eq_singleton hne (hline _ hxs),
        List.map_singleton]
  | line xs e rest hxs he ih =>
    obtain ⟨e', hf, he'⟩ := hend e he
    rw [List.flatMap_append, List.flatMap_cons, hf, List.singleton_append,
      lines_append (hline xs hxs) he', lines_append hxs he, ih, List.map_cons]

/-! ## UTF-8 -/

/-- A character is its own byte, or it has no byte in ASCII. -/
theorem utf8EncodeChar_cases (c : Char) :
    (c.val.toNat < 128 ∧ String.utf8EncodeChar c = [UInt8.ofNat c.val.toNat]) ∨
      ∀ b ∈ String.utf8EncodeChar c, 128 ≤ b.toNat := by
  have htoNat : ∀ n, (UInt8.ofNat n).toNat = n % 256 := fun n => UInt8.toNat_ofNat'
  unfold String.utf8EncodeChar
  simp only
  split_ifs with hascii htwo hthree
  · exact .inl ⟨by omega, rfl⟩
  all_goals
    right
    simp only [List.forall_mem_cons, List.not_mem_nil, false_implies, implies_true, and_true,
      htoNat]
    omega

theorem utf8EncodeChar_newline : String.utf8EncodeChar '\n' = [10] := by decide

/-- The byte of an ASCII character occurs in the bytes of no other character. -/
theorem not_mem_utf8EncodeChar {m : Char} {b : UInt8} (hm : String.utf8EncodeChar m = [b])
    (hb : b.toNat < 128) {c : Char} (h : c ≠ m) : b ∉ String.utf8EncodeChar c := by
  intro hmem
  rcases utf8EncodeChar_cases c with ⟨hascii, hbytes⟩ | hbytes
  · rcases utf8EncodeChar_cases m with ⟨hascii', hbytes'⟩ | hbytes'
    · rw [hbytes, List.mem_singleton] at hmem
      rw [hbytes', hmem, List.singleton_inj] at hm
      have hval := congrArg UInt8.toNat hm
      rw [UInt8.toNat_ofNat', UInt8.toNat_ofNat'] at hval
      refine h (Char.ext (UInt32.toNat_inj.1 ?_))
      omega
    · have := hbytes' b (hm ▸ List.mem_cons_self)
      omega
  · have := hbytes b hmem
    omega

theorem newline_not_mem_utf8EncodeChar {c : Char} (h : c ≠ '\n') :
    (10 : UInt8) ∉ String.utf8EncodeChar c :=
  not_mem_utf8EncodeChar utf8EncodeChar_newline (by decide) h

/-- **The lines of a text in bytes** are the lines of the text, in bytes. -/
theorem lines_utf8 (cs : List Char) :
    lines (· == (10 : UInt8)) (cs.flatMap String.utf8EncodeChar) =
      (lines (· == '\n') cs).map (List.flatMap String.utf8EncodeChar) := by
  refine lines_flatMap (fun c hc => ?_) (fun c hc => ⟨String.utf8EncodeChar_ne_nil, ?_⟩) cs
  · rw [beq_iff_eq] at hc
    exact ⟨10, hc ▸ utf8EncodeChar_newline, rfl⟩
  · intro b hb
    rw [beq_eq_false_iff_ne] at hc ⊢
    rintro rfl
    exact newline_not_mem_utf8EncodeChar hc hb

end Logbook.Text
