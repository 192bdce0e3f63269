/-!
# Bisection

Finding a place in a list in which the items that pass a test come first. Each step looks at the
item in the middle and goes on in one half.

Results:

* `bisect_eq_length_takeWhile`: where no item passes after one that fails, the place found is the
  end of the items that pass.
* `bisect_le_length`: in any list the place found is one of the list.
-/

namespace Logbook

variable {α : Type}

/-- The place of the first item that fails a test, if no item passes after one that fails. -/
def bisect (passes : α → Bool) (xs : List α) : Nat :=
  match _h : xs.drop (xs.length / 2) with
  | [] => 0
  | x :: rest =>
    if passes x then xs.length / 2 + 1 + bisect passes rest
    else bisect passes (xs.take (xs.length / 2))
termination_by xs.length
decreasing_by
  · have := congrArg List.length _h
    simp only [List.length_drop, List.length_cons] at this
    omega
  · have := congrArg List.length _h
    simp only [List.length_drop, List.length_cons, List.length_take] at this ⊢
    omega

theorem bisect_le_length (passes : α → Bool) (xs : List α) : bisect passes xs ≤ xs.length := by
  fun_induction bisect passes xs with
  | case1 => exact Nat.zero_le _
  | case2 xs x rest h _ ih =>
    have := congrArg List.length h
    simp only [List.length_drop, List.length_cons] at this
    omega
  | case3 xs x rest h _ ih =>
    rw [List.length_take] at ih
    omega

theorem bisect_eq_length_takeWhile {passes : α → Bool} {xs : List α}
    (h : xs.Pairwise fun x y => passes y = true → passes x = true) :
    bisect passes xs = (xs.takeWhile passes).length := by
  fun_induction bisect passes xs with
  | case1 xs hd =>
    have hn : xs = [] := by
      have := congrArg List.length hd
      simp only [List.length_drop, List.length_nil] at this
      exact List.length_eq_zero_iff.1 (by omega)
    simp [hn]
  | case2 xs x rest hd hx ih =>
    have hxs : xs.take (xs.length / 2) ++ x :: rest = xs := hd ▸ List.take_append_drop _ _
    have hlen : (xs.take (xs.length / 2)).length = xs.length / 2 := by
      rw [List.length_take]
      omega
    rw [← hxs, List.pairwise_append, List.pairwise_cons] at h
    obtain ⟨-, ⟨-, hrest⟩, hbefore⟩ := h
    have hall : ∀ y ∈ xs.take (xs.length / 2), passes y = true :=
      fun y hy => hbefore y hy x (List.mem_cons_self) hx
    have hsplit : xs.takeWhile passes =
        xs.take (xs.length / 2) ++ x :: rest.takeWhile passes := by
      rw [← List.takeWhile_cons_of_pos hx, ← List.takeWhile_append_of_pos hall, hxs]
    rw [ih hrest, hsplit, List.length_append, List.length_cons, hlen]
    omega
  | case3 xs x rest hd hx ih =>
    have hxs : xs.take (xs.length / 2) ++ x :: rest = xs := hd ▸ List.take_append_drop _ _
    rw [← hxs, List.pairwise_append] at h
    have hcut : (x :: rest).takeWhile passes = [] := by simp [hx]
    have hsame : (xs.take (xs.length / 2) ++ x :: rest).takeWhile passes =
        (xs.take (xs.length / 2)).takeWhile passes := by
      rw [List.takeWhile_append, hcut]
      split
      · rename_i he
        rw [List.append_nil, (List.takeWhile_prefix passes).eq_of_length he]
      · rfl
    rw [ih h.1, ← hsame, hxs]

end Logbook
