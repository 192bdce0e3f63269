import Logbook.Text.Utf8
import Mathlib.Data.List.Basic
import Mathlib.Tactic.SplitIfs

/-!
# Bytes read in pieces

An ASCII byte continues no sequence of UTF-8. A sequence that breaks off in front of it breaks off
there just as it does at the end of the bytes, and the byte itself is read afresh. So what stands
before an ASCII byte and what stands behind it may be read by themselves, however damaged they are.
The byte of a line end is one of these, and nothing else reads as a line end.

Results:

* `step_append_ascii`: a sequence is read alike in front of an ASCII byte and at the end.
* `decode_append_ascii`: bytes are read piece by piece, cut at any ASCII byte.
* `newline_not_mem_decode`: bytes without a line end read as a text without one.
-/

namespace Logbook.Text.Utf8

variable {e : UInt8}

/-! ## Cutting at an ASCII byte -/

theorem continue?_append_ascii (he : e.toNat < 0x80) (code more : Nat) (bs rest : List UInt8) :
    continue? code more (bs ++ e :: rest) =
      ((continue? code more bs).1, (continue? code more bs).2 ++ e :: rest) := by
  have htail : isTail e = false := by
    rw [isTail, Bool.and_eq_false_iff]
    exact Or.inl (decide_eq_false (by omega))
  fun_induction continue? code more bs with
  | case1 code bs => rw [continue?]
  | case2 code more => rw [List.nil_append, continue?, htail]; rfl
  | case3 code more b bs hb ih => rw [List.cons_append, continue?, if_pos hb, ih]
  | case4 code more b bs hb => rw [List.cons_append, continue?, if_neg hb]

theorem low_of_lead {b more low high : Nat} (h : lead b = .multi more low high) : 0x80 ≤ low := by
  unfold lead at h
  split_ifs at h <;> cases h <;> decide

/-- **A sequence is read alike in front of an ASCII byte** and at the end of the bytes. -/
theorem step_append_ascii (he : e.toNat < 0x80) (b : UInt8) (bs rest : List UInt8) :
    step b (bs ++ e :: rest) = ((step b bs).1, (step b bs).2 ++ e :: rest) := by
  unfold step
  cases hlead : lead b.toNat with
  | single => rfl
  | invalid => rfl
  | multi more low high =>
    cases bs with
    | nil =>
      have hlow := low_of_lead hlead
      have hout : ¬(low ≤ e.toNat ∧ e.toNat ≤ high) := by omega
      simp only [List.nil_append, if_neg hout]
    | cons b₂ bs =>
      simp only [List.cons_append]
      split_ifs with hin
      · exact continue?_append_ascii he _ _ bs rest
      · rfl

theorem pieces_append_ascii (he : e.toNat < 0x80) (bs rest : List UInt8) :
    pieces (bs ++ e :: rest) = pieces bs ++ some (Char.ofNat e.toNat) :: pieces rest := by
  fun_induction pieces bs with
  | case1 =>
    have hstep : step e rest = (some (Char.ofNat e.toNat), rest) := by
      simp [step, lead, he]
    rw [List.nil_append, pieces, hstep, List.nil_append]
  | case2 b bs ih => rw [List.cons_append, pieces, step_append_ascii he, ih, List.cons_append]

/-- **Bytes are read piece by piece**, cut at any ASCII byte. -/
theorem decode_append_ascii (he : e.toNat < 0x80) (bs rest : List UInt8) :
    decode (bs ++ e :: rest) = decode bs ++ Char.ofNat e.toNat :: decode rest := by
  rw [decode, pieces_append_ascii he, List.map_append, List.map_cons]
  rfl

/-! ## Line ends -/

theorem continue?_suffix (code more : Nat) (bs : List UInt8) :
    (continue? code more bs).2 <:+ bs := by
  fun_induction continue? code more bs with
  | case1 code bs => exact List.suffix_refl bs
  | case2 code more => exact List.suffix_refl []
  | case3 code more b bs hb ih => exact ih.trans (List.suffix_cons b bs)
  | case4 code more b bs hb => exact List.suffix_refl (b :: bs)

/-- What a step leaves is the end of what it was given. -/
theorem step_suffix (b : UInt8) (bs : List UInt8) : (step b bs).2 <:+ bs := by
  unfold step
  cases lead b.toNat with
  | single => exact List.suffix_refl bs
  | invalid => exact List.suffix_refl bs
  | multi more low high =>
    cases bs with
    | nil => exact List.suffix_refl []
    | cons b₂ bs =>
      simp only
      split_ifs
      · exact (continue?_suffix _ _ bs).trans (List.suffix_cons b₂ bs)
      · exact List.suffix_refl (b₂ :: bs)

theorem continue?_of_some {code more : Nat} {bs rest : List UInt8} {c : Char}
    (h : continue? code more bs = (some c, rest)) : ∃ n, code ≤ n ∧ c = Char.ofNat n := by
  fun_induction continue? code more bs with
  | case1 code bs =>
    cases h
    exact ⟨code, Nat.le_refl code, rfl⟩
  | case2 code more => cases h
  | case3 code more b bs hb ih =>
    obtain ⟨n, hle, hc⟩ := ih h
    exact ⟨n, by omega, hc⟩
  | case4 code more b bs hb => cases h

/-- Two bytes of a sequence already make a code point above that of a line end. -/
theorem ten_lt_of_lead {b b₂ more low high : Nat} (h : lead b = .multi more low high)
    (hlow : low ≤ b₂) : 10 < leadBits more b * 64 + (b₂ - 0x80) := by
  have htwo : leadBits 0 b = b - 0xC0 := rfl
  have hthree : leadBits 1 b = b - 0xE0 := rfl
  have hfour : leadBits 2 b = b - 0xF0 := rfl
  unfold lead at h
  split_ifs at h
  all_goals
    obtain ⟨rfl, rfl, rfl⟩ := Lead.multi.inj h
    omega

/-- A number that is none of a character stands for the character zero. -/
theorem eq_toNat_of_ofNat_eq {n : Nat} {c : Char} (h : Char.ofNat n = c) (hc : c ≠ '\x00') :
    n = c.toNat := by
  by_cases hvalid : n.isValidChar
  · rw [Char.ofNat, dif_pos hvalid] at h
    exact congrArg Char.toNat h
  · rw [Char.ofNat, dif_neg hvalid] at h
    exact absurd h.symm hc

theorem ofNat_eq_newline {n : Nat} (h : Char.ofNat n = '\n') : n = 10 :=
  eq_toNat_of_ofNat_eq h (by decide)

/-- No sequence reads as a line end but the byte of a line end. -/
theorem step_ne_newline {b : UInt8} (hb : b ≠ 10) (bs : List UInt8) :
    (step b bs).1 ≠ some '\n' := by
  intro h
  have hstep : step b bs = (some '\n', (step b bs).2) := Prod.ext h rfl
  unfold step at hstep
  cases hlead : lead b.toNat with
  | single =>
    rw [hlead] at hstep
    have hc := Option.some.inj (Prod.mk.inj hstep).1
    exact hb (UInt8.toNat_inj.1 (ofNat_eq_newline hc))
  | invalid =>
    rw [hlead] at hstep
    cases hstep
  | multi more low high =>
    rw [hlead] at hstep
    cases bs with
    | nil => cases hstep
    | cons b₂ bs =>
      simp only at hstep
      split_ifs at hstep with hin
      · obtain ⟨n, hle, hc⟩ := continue?_of_some hstep
        have hn := ofNat_eq_newline hc.symm
        have hlt := ten_lt_of_lead hlead hin.1
        omega
      · cases hstep

/-- **Bytes without a line end read as a text without one.** -/
theorem newline_not_mem_decode {bs : List UInt8} (h : (10 : UInt8) ∉ bs) : '\n' ∉ decode bs := by
  have hreplaced : replacement ≠ '\n' := by decide
  unfold decode
  fun_induction pieces bs with
  | case1 => exact List.not_mem_nil
  | case2 b bs ih =>
    rw [List.mem_cons, not_or] at h
    rw [List.map_cons, List.mem_cons, not_or]
    refine ⟨?_, ih fun hmem => h.2 ((step_suffix b bs).subset hmem)⟩
    have hread := step_ne_newline (Ne.symm h.1) bs
    cases hpiece : (step b bs).1 with
    | none => exact hreplaced.symm
    | some c =>
      rintro rfl
      exact hread hpiece

end Logbook.Text.Utf8
