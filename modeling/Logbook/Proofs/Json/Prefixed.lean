import Logbook.Proofs.Row

/-!
# Text before an object

A text that goes on with a written object. Blanks before the object do not matter, but anything else
spoils it. For whatever token the text ends in, it ends at the brace: numbers and literals hold
none, and a string that runs on ends at the first quotation mark of the object, so that the first
name of the object stands bare. So the tokens of the object are the last ones, and by then the
machine has left the state in which a single value is all that it waits for.

Results:

* `passes_next`, `closing?_cut`: no token reaches into an object, unless it is a string that
  uncovers the first name.
* `tokens?_cut`: the tokens of the object come last.
* `Document.read?_append_object`: an object after anything but blanks spells no document.
-/

namespace Logbook.Json

open Logbook.Number (isDigit spanDigits splitSign exponentDigits? exponent?)

/-! ## Tokens that hold no brace -/

/-- The rest of a text after a front without an opening brace. -/
def Passes (cs rest : List Char) : Prop :=
  ∃ front, cs = front ++ rest ∧ '\x7b' ∉ front

theorem Passes.refl (cs : List Char) : Passes cs cs :=
  ⟨[], rfl, List.not_mem_nil⟩

theorem Passes.trans {a b c : List Char} (h : Passes a b) (h' : Passes b c) : Passes a c := by
  obtain ⟨front, rfl, hfront⟩ := h
  obtain ⟨front', rfl, hfront'⟩ := h'
  exact ⟨front ++ front', (List.append_assoc ..).symm, by simp [hfront, hfront']⟩

theorem Passes.cons {c : Char} {cs rest : List Char} (h : Passes cs rest) (hc : c ≠ '\x7b') :
    Passes (c :: cs) rest := by
  obtain ⟨front, rfl, hfront⟩ := h
  exact ⟨c :: front, rfl, by simp [hc.symm, hfront]⟩

theorem Passes.of_cons {c : Char} {cs rest : List Char} (h : Passes (c :: cs) rest)
    (hlt : rest.length < (c :: cs).length) : Passes cs rest := by
  obtain ⟨front, hcs, hfront⟩ := h
  cases front with
  | nil =>
    rw [hcs, List.nil_append] at hlt
    exact absurd hlt (Nat.lt_irrefl _)
  | cons d front =>
    exact ⟨front, (List.cons.inj hcs).2, fun h => hfront (List.mem_cons_of_mem d h)⟩

/-- A front without a brace ends before a brace. -/
theorem Passes.cut {text object rest : List Char} (h : Passes (text ++ '\x7b' :: object) rest) :
    ∃ text', rest = text' ++ '\x7b' :: object ∧ text'.length ≤ text.length := by
  obtain ⟨front, hcs, hfront⟩ := h
  rcases List.append_eq_append_iff.1 hcs with ⟨more, rfl, hrest⟩ | ⟨text', rfl, rfl⟩
  · cases more with
    | nil => exact ⟨[], hrest.symm, Nat.zero_le _⟩
    | cons c more =>
      have hc : '\x7b' = c := (List.cons.inj hrest).1
      exact absurd (List.mem_append_right text (hc ▸ List.mem_cons_self)) hfront
  · exact ⟨text', rfl, by simp⟩

theorem passes_spanDigits (cs : List Char) : Passes cs (spanDigits cs).2 := by
  refine ⟨cs.takeWhile isDigit, List.takeWhile_append_dropWhile.symm, fun h => ?_⟩
  exact absurd (List.all_eq_true.1 List.all_takeWhile _ h) (by decide)

theorem passes_wholeDigits {cs ds rest : List Char} (h : wholeDigits? cs = some (ds, rest)) :
    Passes cs rest := by
  unfold wholeDigits? at h
  split at h
  · cases h
    exact (Passes.refl rest).cons (by decide)
  · have hspan := passes_spanDigits cs
    split at h
    · cases h
    · rename_i hs
      cases h
      rwa [hs] at hspan

theorem passes_fraction {cs rest : List Char} {f : Option (List Char)}
    (h : fraction? cs = some (f, rest)) : Passes cs rest := by
  unfold fraction? at h
  split at h
  · rename_i r
    have hspan := passes_spanDigits r
    split at h
    · cases h
    · rename_i hs
      cases h
      rw [hs] at hspan
      exact hspan.cons (by decide)
  · cases h
    exact Passes.refl _

theorem passes_splitSign (cs : List Char) : Passes cs (splitSign cs).2 := by
  unfold splitSign
  split
  · exact (Passes.refl _).cons (by decide)
  · exact (Passes.refl _).cons (by decide)
  · exact Passes.refl cs

theorem passes_exponentDigits {cs rest : List Char} {e : Int}
    (h : exponentDigits? cs = some (e, rest)) : Passes cs rest := by
  have hsign := passes_splitSign cs
  unfold exponentDigits? at h
  split at h
  rename_i negative body hbody
  rw [hbody] at hsign
  have hspan := passes_spanDigits body
  split at h
  · cases h
  · rename_i hs
    cases h
    rw [hs] at hspan
    exact hsign.trans hspan

theorem passes_exponent {cs rest : List Char} {e : Option Int}
    (h : exponent? cs = some (e, rest)) : Passes cs rest := by
  unfold exponent? at h
  split at h
  · split at h
    · rename_i hmark
      obtain ⟨⟨e', rest'⟩, he, hr⟩ := Option.map_eq_some_iff.1 h
      cases hr
      refine (passes_exponentDigits he).cons ?_
      rcases hmark with rfl | rfl <;> decide
    · cases h
      exact Passes.refl _
  · cases h
    exact Passes.refl _

theorem passes_numeral {cs rest : List Char} {n : Number.Numeral}
    (h : numeral? cs = some (n, rest)) : Passes cs rest := by
  unfold numeral? at h
  split at h
  rename_i negative body hsign
  simp only [Option.bind_eq_bind, Option.bind_eq_some_iff, Option.pure_def, Option.some.injEq,
    Prod.mk.injEq, Prod.exists] at h
  obtain ⟨w, r₁, h₁, f, r₂, h₂, e, r₃, h₃, -, rfl⟩ := h
  have hbody := ((passes_wholeDigits h₁).trans (passes_fraction h₂)).trans (passes_exponent h₃)
  split at hsign
  · cases hsign
    exact hbody.cons (by decide)
  · cases hsign
    exact hbody

/-- A token that is no string holds no brace after its first character. -/
theorem passes_next {c : Char} {cs rest : List Char} {t : Token}
    (h : Token.next? (c :: cs) = some (t, rest)) :
    (c = '"' ∧ ∃ source, closing? cs = some (source, rest)) ∨ Passes cs rest := by
  unfold Token.next? at h
  split at h
  · rename_i heq
    cases heq
  · rename_i heq
    obtain ⟨rfl, rfl⟩ := List.cons.inj heq
    obtain ⟨⟨source, rest'⟩, hclose, he⟩ := Option.map_eq_some_iff.1 h
    cases he
    exact Or.inl ⟨rfl, source, hclose⟩
  · rename_i heq
    cases heq
    cases h
    exact Or.inr ⟨['r', 'u', 'e'], rfl, by decide⟩
  · rename_i heq
    cases heq
    cases h
    exact Or.inr ⟨['a', 'l', 's', 'e'], rfl, by decide⟩
  · rename_i heq
    cases heq
    cases h
    exact Or.inr ⟨['u', 'l', 'l'], rfl, by decide⟩
  · rename_i heq
    cases heq
    split at h
    · cases h
      exact Or.inr (Passes.refl cs)
    · obtain ⟨⟨n, rest'⟩, hn, he⟩ := Option.map_eq_some_iff.1 h
      cases he
      exact Or.inr ((passes_numeral hn).of_cons (numeral?_length hn))

/-! ## Strings that run on -/

theorem brace_not_mem_of_hexUnit {a b c d : Char} (h : (hexUnit? [a, b, c, d]).isSome) :
    '\x7b' ∉ [a, b, c, d] := by
  have hbrace : hexValue? '\x7b' = none := by decide
  simp only [List.mem_cons, List.not_mem_nil, or_false, not_or]
  refine ⟨?_, ?_, ?_, ?_⟩ <;>
  · rintro rfl
    simp [hexUnit?, hbrace] at h

/-- **A string that reaches an object ends at the first quotation mark of the object.** -/
theorem closing?_cut {text object source rest : List Char}
    (h : closing? (text ++ '\x7b' :: '"' :: object) = some (source, rest)) :
    rest = object ∨
      ∃ text', rest = text' ++ '\x7b' :: '"' :: object ∧ text'.length ≤ text.length := by
  generalize hcs : text ++ '\x7b' :: '"' :: object = cs at h
  fun_induction closing? cs generalizing text source with
  | case1 => cases h
  | case2 r =>
    cases h
    exact Or.inr (Passes.cut ⟨['"'], hcs, by decide⟩)
  | case3 a b c d r hhex ih =>
    obtain ⟨⟨source', rest'⟩, hr, he⟩ := Option.map_eq_some_iff.1 h
    cases he
    have hbrace := brace_not_mem_of_hexUnit hhex
    obtain ⟨text', rfl, hle⟩ := Passes.cut ⟨'\\' :: 'u' :: [a, b, c, d], hcs, by simpa using hbrace⟩
    rcases ih rfl hr with hrest | ⟨text'', hrest, hle'⟩
    · exact Or.inl hrest
    · exact Or.inr ⟨text'', hrest, by omega⟩
  | case4 => cases h
  | case5 c r _ hshort ih =>
    obtain ⟨⟨source', rest'⟩, hr, he⟩ := Option.map_eq_some_iff.1 h
    cases he
    have hc : '\x7b' ≠ c := by
      rintro rfl
      exact absurd hshort (by decide)
    obtain ⟨text', rfl, hle⟩ := Passes.cut ⟨['\\', c], hcs, by simp [hc]⟩
    rcases ih rfl hr with hrest | ⟨text'', hrest, hle'⟩
    · exact Or.inl hrest
    · exact Or.inr ⟨text'', hrest, by omega⟩
  | case6 => cases h
  | case7 => cases h
  | case8 c r _ _ _ _ ih =>
    obtain ⟨⟨source', rest'⟩, hr, he⟩ := Option.map_eq_some_iff.1 h
    cases he
    cases text with
    | nil =>
      -- The brace of the object belongs to the string, and the quotation mark after it ends it.
      obtain ⟨rfl, rfl⟩ := List.cons.inj hcs
      rw [closing?] at hr
      cases hr
      exact Or.inl rfl
    | cons d text =>
      obtain ⟨rfl, rfl⟩ := List.cons.inj hcs
      rcases ih rfl hr with hrest | ⟨text', hrest, hle⟩
      · exact Or.inl hrest
      · exact Or.inr ⟨text', hrest, Nat.le_succ_of_le hle⟩

/-! ## Tokens -/

/-- **The tokens of an object come last** in a text that goes on with the object, and there are
others before them unless the text is blank. -/
theorem tokens?_cut {text object : List Char} (hobject : tokens? object = none) {ts : List Token}
    (h : tokens? (text ++ '\x7b' :: '"' :: object) = some ts) :
    ∃ front last, ts = front ++ last ∧ tokens? ('\x7b' :: '"' :: object) = some last ∧
      (front = [] → ∀ c ∈ text, isSpace c = true) := by
  -- By length, for a token takes any number of characters.
  induction hlength : text.length using Nat.strong_induction_on generalizing text ts with
  | _ n ih =>
    cases text with
    | nil => exact ⟨[], ts, rfl, h, fun _ c hc => absurd hc List.not_mem_nil⟩
    | cons c text =>
      rw [List.length_cons] at hlength
      rw [List.cons_append, tokens?] at h
      split at h
      · rename_i hspace
        obtain ⟨front, last, rfl, hlast, hfront⟩ := ih text.length (by omega) h rfl
        exact ⟨front, last, rfl, hlast, fun hnil => List.forall_mem_cons.2 ⟨hspace, hfront hnil⟩⟩
      · split at h
        · cases h
        · rename_i t rest hnext
          obtain ⟨ts', hts, rfl⟩ := Option.map_eq_some_iff.1 h
          have hrest : rest = object ∨
              ∃ text', rest = text' ++ '\x7b' :: '"' :: object ∧ text'.length ≤ text.length := by
            rcases passes_next hnext with ⟨-, source, hclose⟩ | hpasses
            · exact closing?_cut hclose
            · exact Or.inr hpasses.cut
          rcases hrest with rfl | ⟨text', rfl, hle⟩
          · rw [hobject] at hts
            cases hts
          · obtain ⟨front, last, rfl, hlast, -⟩ := ih text'.length (by omega) hts rfl
            exact ⟨t :: front, last, rfl, hlast, fun hnil => absurd hnil (List.cons_ne_nil t front)⟩

/-- The letter of the first name of a row begins no token. -/
theorem tokens?_i (cs : List Char) : tokens? ('i' :: cs) = none := by
  rw [tokens?]
  rfl

/-! ## Documents -/

namespace Document

theorem step_ne_value {s s' : State} {t : Token} (h : step s t = some s') : s' ≠ .value [] := by
  rintro rfl
  cases s with
  | value stack => cases t <;> simp [step, beginValue] at h
  | firstItem stack => cases t <;> simp [step, beginValue] at h
  | firstName stack => cases t <;> simp [step] at h
  | name stack done => cases t <;> simp [step] at h
  | colon stack done name => cases t <;> simp [step] at h
  | after stack doc =>
    cases stack with
    | nil => simp [step, endValue] at h
    | cons frame stack => cases frame <;> cases t <;> simp [step, endValue] at h

theorem run_ne_value {ts : List Token} (hts : ts ≠ []) {s s' : State} (h : run s ts = some s') :
    s' ≠ .value [] := by
  rw [← List.dropLast_append_getLast hts, run_append] at h
  obtain ⟨s₁, -, h₁⟩ := Option.bind_eq_some_iff.1 h
  rw [run_cons] at h₁
  obtain ⟨s₂, h₂, hlast⟩ := Option.bind_eq_some_iff.1 h₁
  rw [run_nil] at hlast
  cases hlast
  exact step_ne_value h₂

/-- An object finishes nothing but the first state. -/
theorem finished?_run_object {s : State} (hs : s ≠ .value []) (ms : List (String × Json)) :
    (run s (tokens (.object ms))).bind State.finished? = none := by
  have hvalue : ∀ frame stack,
      (run (.value (frame :: stack)) (tokens (.object ms))).bind State.finished? = none := by
    intro frame stack
    have hrun := run_tokens (.object ms) (frame :: stack) []
    rw [List.append_nil, run_nil] at hrun
    rw [hrun]
    rfl
  cases s with
  | value stack =>
    cases stack with
    | nil => exact absurd rfl hs
    | cons frame stack => exact hvalue frame stack
  | firstItem stack =>
    have hfirst := run_firstItem (.object ms) stack []
    rw [List.append_nil] at hfirst
    rw [hfirst]
    exact hvalue (.array []) stack
  | firstName stack => rfl
  | name stack done => rfl
  | colon stack done name => rfl
  | after stack doc =>
    cases stack with
    | nil => rfl
    | cons frame stack => cases frame <;> rfl

/-- **An object after anything but blanks spells no document**, if its first name begins no
token. -/
theorem read?_append_object {text object : List Char} {ms : List (String × Json)}
    (hchars : chars (.object ms) = '\x7b' :: '"' :: object) (hobject : tokens? object = none)
    {c : Char} (hc : c ∈ text) (hspace : isSpace c = false) :
    read? (text ++ chars (.object ms)) = none := by
  rw [read?, Option.bind_eq_bind, Option.bind_eq_none_iff]
  intro ts hts
  rw [hchars] at hts
  obtain ⟨front, last, rfl, hlast, hfront⟩ := tokens?_cut hobject hts
  rw [← hchars, tokens?_chars] at hlast
  obtain rfl := Option.some.inj hlast
  have hne : front ≠ [] := fun hnil => by
    rw [hfront hnil c hc] at hspace
    cases hspace
  rw [ofTokens?, run_append, Option.bind_eq_bind, Option.bind_assoc, Option.bind_eq_none_iff]
  exact fun s hs => finished?_run_object (run_ne_value hne hs) ms

theorem read?_append_of_blank {text : List Char} (h : ∀ c ∈ text, isSpace c = true)
    (cs : List Char) : read? (text ++ cs) = read? cs := by
  induction text with
  | nil => rfl
  | cons c text ih =>
    have hc := h c List.mem_cons_self
    have hrest := ih fun d hd => h d (List.mem_cons_of_mem c hd)
    rw [read?] at hrest ⊢
    rw [List.cons_append, tokens?, if_pos hc, hrest]

end Document

end Logbook.Json
