import Logbook.Proofs.Query.Layout

/-!
# Terms tile a query

The pass over the bytes of a query cuts it into the spans of its terms. They lie in order and do not
meet, each has some byte, and all bytes outside them are spaces. Reading a query is therefore
reading the pieces one by one: the text of each span has the one term that was found there.

Results:

* `placed?_reads`: the next term found in the bytes is the next one of the text.
* `laid_placedFrom`: the terms found in the bytes lie where the terms of the text stand.
* `layout_tiles`: the spans tile the query, and their texts have its terms.
-/

namespace Logbook.Query

variable {query : String} {pos : Nat} {before cs : List Char}

/-! ## The next term -/

theorem placed?_eq_none (h : Stands query pos before cs) (hblank : cs.dropWhile (· == ' ') = []) :
    placed? (bytesOf query) pos = none := by
  have hstart := (h.pass marks_space.agrees_eq).drop
  rw [hblank] at hstart
  simp only [placed?]
  rw [if_pos (List.drop_eq_nil_iff.1 hstart)]

/-- **The next term found in the bytes** is the one that is read off the characters, and it lies
    where that one stands. -/
theorem placed?_reads (h : Stands query pos before cs) {c : Char} {rest : List Char}
    (hrest : cs.dropWhile (· == ' ') = c :: rest) :
    ∃ p taken, placed? (bytesOf query) pos = some p ∧
      p.term? query = some (termAt (c :: rest)).1 ∧
      c :: rest = taken ++ (termAt (c :: rest)).2 ∧
      Stands query p.whole.start (before ++ cs.takeWhile (· == ' ')) (c :: rest) ∧
      Stands query p.whole.stop (before ++ cs.takeWhile (· == ' ') ++ taken)
        (termAt (c :: rest)).2 := by
  have hstart := h.pass marks_space.agrees_eq
  have hmark := hstart.getElem?_eq_some_iff marks_minus
  have hinside : ¬(bytesOf query).length ≤ past (· == spaceByte) (bytesOf query) pos := by
    intro hle
    have hnil := hstart.drop
    rw [List.drop_eq_nil_iff.2 hle, hrest, utf8_cons] at hnil
    exact String.utf8EncodeChar_ne_nil (List.append_eq_nil_iff.1 hnil.symm).1
  rw [hrest] at hstart hmark
  simp only [placed?, if_neg hinside]
  generalize past (· == spaceByte) (bytesOf query) pos = start at *
  -- The minus sign belongs to the span of the term, but not to what is cut out.
  by_cases hminus : c = '-'
  · subst hminus
    obtain ⟨hkind, hvalue, taken, htaken, hstop⟩ := bareAt_reads (hstart.mark marks_minus)
    simp only [beq_iff_eq.2 (hmark.2 rfl), if_true]
    refine ⟨_, '-' :: taken, rfl, ?_, congrArg _ htaken, hstart, ?_⟩
    · simp only [Placed.term?, hkind, hvalue]
      rfl
    · rwa [List.append_cons]
  · obtain ⟨hkind, hvalue, taken, htaken, hstop⟩ := bareAt_reads hstart
    have hplain : ((bytesOf query)[start]? == some minusByte) = false :=
      beq_eq_false_iff_ne.2 fun heq => hminus (Option.some.inj (hmark.1 heq))
    have hnegated := bareTerm_negated (c :: rest)
    simp only [hplain, Bool.false_eq_true, if_false]
    rw [termAt_of_ne_minus hminus]
    refine ⟨_, taken, rfl, ?_, htaken, hstart, hstop⟩
    simp only [Placed.term?, hkind, hvalue]
    rw [← hnegated]
    rfl

/-! ## All terms -/

/-- From a position on the terms lie in order with spaces between them, and each of them reads the
    same by itself. -/
inductive Laid (query : String) : (pos : Nat) → List Placed → List Term → Prop
  | done {pos : Nat} {before after : List Char} (hpos : Stands query pos before after)
    (hblank : ∀ c ∈ after, c = ' ') : Laid query pos [] []
  | term {pos : Nat} {before spaces taken after : List Char} {p : Placed} {t : Term}
    {ps : List Placed} {ts : List Term}
    (hpos : Stands query pos before (spaces ++ (taken ++ after)))
    (hstart : Stands query p.whole.start (before ++ spaces) (taken ++ after))
    (hstop : Stands query p.whole.stop (before ++ spaces ++ taken) after)
    (hblank : ∀ c ∈ spaces, c = ' ') (hterm : p.term? query = some t)
    (halone : termsOf taken = [t]) (hrest : Laid query p.whole.stop ps ts) :
    Laid query pos (p :: ps) (t :: ts)

theorem placedFrom_of_none {bytes : List UInt8} (h : placed? bytes pos = none) :
    placedFrom bytes pos = [] := by
  rw [placedFrom]
  split
  · rfl
  · rename_i hsome
    rw [h] at hsome
    cases hsome

theorem placedFrom_of_some {bytes : List UInt8} {p : Placed} (h : placed? bytes pos = some p) :
    placedFrom bytes pos = p :: placedFrom bytes p.whole.stop := by
  rw [placedFrom]
  split
  · rename_i hnone
    rw [h] at hnone
    cases hnone
  · rename_i hsome
    rw [h] at hsome
    cases hsome
    rfl

/-- Spaces in front of a text add no term. -/
theorem termsOf_dropWhile (cs : List Char) :
    termsOf (cs.dropWhile (· == ' ')) = termsOf cs := by
  induction cs with
  | nil => rfl
  | cons c cs ih =>
    by_cases hc : c = ' '
    · subst hc
      rw [List.dropWhile_cons_of_pos (by rfl), ih, termsOf_space]
    · rw [List.dropWhile_cons_of_neg (by simpa using hc)]

/-- **The terms found in the bytes lie where the terms of the text stand.** -/
theorem laid_placedFrom (h : Stands query pos before cs) :
    Laid query pos (placedFrom (bytesOf query) pos) (termsOf cs) := by
  -- By length: a term leaves less than there was.
  induction hlength : cs.length using Nat.strong_induction_on generalizing pos before cs with
  | _ n ih =>
    have hblank : ∀ c ∈ cs.takeWhile (· == ' '), c = ' ' :=
      fun c hc => beq_iff_eq.1 (List.mem_takeWhile_imp (p := (· == ' ')) hc)
    have hsplit := List.takeWhile_append_dropWhile (p := (· == ' ')) (l := cs)
    have hhead := List.head?_dropWhile_not (· == ' ') cs
    rw [← termsOf_dropWhile]
    cases hrest : cs.dropWhile (· == ' ') with
    | nil =>
      rw [placedFrom_of_none (placed?_eq_none h hrest), termsOf_nil]
      rw [hrest, List.append_nil] at hsplit
      exact .done h (hsplit ▸ hblank)
    | cons c rest =>
      rw [hrest] at hhead hsplit
      have hc : c ≠ ' ' := by simpa using hhead
      obtain ⟨p, taken, hp, hterm, htaken, hstart, hstop⟩ := placed?_reads h hrest
      obtain ⟨taken', -, htaken', halone⟩ := termsOf_alone hc rest
      obtain rfl : taken = taken' := List.append_cancel_right (htaken.symm.trans htaken')
      have hlt : (termAt (c :: rest)).2.length < n := by
        have := termAt_length hc rest
        have hsuffix := congrArg List.length hsplit
        rw [List.length_append, hlength] at hsuffix
        omega
      rw [placedFrom_of_some hp, termsOf_cons hc]
      rw [← hsplit, htaken] at h
      rw [htaken] at hstart
      exact .term h hstart hstop hblank hterm halone (ih _ hlt hstop rfl)

/-! ## Tiling -/

/-- From a position on the spans lie in order and apart, each with some byte, and the bytes before,
    between and behind them are spaces. -/
def Tiles (bytes : List UInt8) : (pos : Nat) → List Span → Prop
  | pos, [] => ∀ b ∈ bytes.drop pos, b = spaceByte
  | pos, s :: rest =>
    pos ≤ s.start ∧ s.start < s.stop ∧ s.stop ≤ bytes.length ∧
      (∀ b ∈ bytes.extract pos s.start, b = spaceByte) ∧ Tiles bytes s.stop rest

theorem Tiles.length_le {bytes : List UInt8} {spans : List Span} {pos : Nat}
    (h : Tiles bytes pos spans) (hpos : pos ≤ bytes.length) :
    spans.length ≤ bytes.length - pos := by
  induction spans generalizing pos with
  | nil => exact Nat.zero_le _
  | cons s rest ih =>
    obtain ⟨hstart, hsome, hstop, -, hrest⟩ := h
    have := ih hrest hstop
    rw [List.length_cons]
    omega

theorem utf8_blank {spaces : List Char} (h : ∀ c ∈ spaces, c = ' ') :
    ∀ b ∈ utf8 spaces, b = spaceByte := by
  intro b hb
  obtain ⟨c, hc, hb⟩ := List.mem_flatMap.1 hb
  rw [h c hc, marks_space.1] at hb
  exact List.mem_singleton.1 hb

theorem utf8_length_pos {cs : List Char} (h : cs ≠ []) : 0 < (utf8 cs).length := by
  obtain ⟨c, cs, rfl⟩ := List.exists_cons_of_ne_nil h
  have := List.length_pos_iff.2 (String.utf8EncodeChar_ne_nil (c := c))
  rw [utf8_cons, List.length_append]
  omega

theorem Stands.le_length {after : List Char} (h : Stands query pos before after) :
    pos ≤ (bytesOf query).length := by
  rw [h.pos_eq, h.bytes, List.length_append]
  exact Nat.le_add_right _ _

theorem ne_nil_of_termsOf {t : Term} (h : termsOf cs = [t]) : cs ≠ [] := by
  rintro rfl
  rw [termsOf_nil] at h
  cases h

theorem Span.within_of_text? {s : Span} {text : String} (h : s.text? query = some text) :
    s.Within query := by
  unfold Span.text? at h
  split at h
  · assumption
  · cases h

theorem Placed.slices_within {p : Placed} {t : Term} (h : p.term? query = some t) :
    ∀ s ∈ p.slices, s.Within query := by
  obtain ⟨k, hkind, h⟩ := Option.bind_eq_some_iff.1 h
  obtain ⟨value, hvalue, -⟩ := Option.bind_eq_some_iff.1 h
  have hkey : ∀ s ∈ p.kind.slices, s.Within query := by
    intro s hs
    cases hk : p.kind with
    | text =>
      rw [hk] at hs
      cases hs
    | equals key =>
      rw [hk] at hs hkind
      obtain ⟨name, hname, -⟩ := Option.map_eq_some_iff.1 hkind
      obtain rfl := List.mem_singleton.1 hs
      exact Span.within_of_text? hname
    | contains key =>
      rw [hk] at hs hkind
      obtain ⟨name, hname, -⟩ := Option.map_eq_some_iff.1 hkind
      obtain rfl := List.mem_singleton.1 hs
      exact Span.within_of_text? hname
  intro s hs
  rcases List.mem_append.1 hs with hs | hs
  · exact hkey s hs
  · obtain rfl := List.mem_singleton.1 hs
    exact Span.within_of_text? hvalue

namespace Laid

variable {ps : List Placed} {ts : List Term}

theorem tiles (h : Laid query pos ps ts) :
    Tiles (bytesOf query) pos (ps.map fun p => p.whole) := by
  induction h with
  | done hpos hblank =>
    rw [List.map_nil, Tiles, hpos.drop]
    exact utf8_blank hblank
  | @term pos before spaces taken _ _ _ _ _ hpos hstart hstop hblank _ halone _ ih =>
    refine ⟨?_, ?_, hstop.le_length, ?_, ih⟩
    · rw [hpos.pos_eq, hstart.pos_eq, utf8_append, List.length_append]
      exact Nat.le_add_right _ _
    · have := utf8_length_pos (ne_nil_of_termsOf halone)
      rw [hstart.pos_eq, hstop.pos_eq, utf8_append (before ++ spaces), List.length_append]
      omega
    · rw [hpos.extract hstart]
      exact utf8_blank hblank

theorem slices_within (h : Laid query pos ps ts) : ∀ p ∈ ps, ∀ s ∈ p.slices, s.Within query := by
  induction h with
  | done => exact fun p hp => absurd hp List.not_mem_nil
  | term _ _ _ _ hterm _ _ ih => exact List.forall_mem_cons.2 ⟨Placed.slices_within hterm, ih⟩

theorem terms_cut (h : Laid query pos ps ts) :
    List.Forall₂ (fun p t => p.term? query = some t) ps ts := by
  induction h with
  | done => exact .nil
  | term _ _ _ _ hterm _ _ ih => exact .cons hterm ih

theorem parts (h : Laid query pos ps ts) :
    ∃ parts : List String,
      List.Forall₂ (fun p part => p.whole.text? query = some part) ps parts ∧
      List.Forall₂ (fun part t => terms part = [t]) parts ts ∧ ts = parts.flatMap terms := by
  induction h with
  | done => exact ⟨[], .nil, .nil, rfl⟩
  | @term _ _ _ taken _ _ t _ _ _ hstart hstop _ _ halone _ ih =>
    obtain ⟨parts, hparts, hreads, hall⟩ := ih
    have hpart : terms (String.ofList taken) = [t] := by rw [terms, String.toList_ofList, halone]
    refine ⟨String.ofList taken :: parts, .cons (hstart.text?_eq hstop) hparts,
      .cons hpart hreads, ?_⟩
    rw [List.flatMap_cons, hpart, ← hall]
    rfl

end Laid

/-- What a list is assigned one by one is what it is mapped to. -/
theorem eq_of_forall₂_some {α β : Type} {f : α → Option β} {xs : List α} {ys zs : List β}
    (h : List.Forall₂ (fun x y => f x = some y) xs ys) (hmap : xs.map f = zs.map some) :
    ys = zs := by
  have hsome : xs.map f = ys.map some := by
    rwa [← List.forall₂_eq_eq_eq, List.forall₂_map_left_iff, List.forall₂_map_right_iff]
  exact List.map_injective_iff.2 (fun _ _ => Option.some.inj) (hsome.symm.trans hmap)

/-- **The terms of a query tile it.** All that is cut out of the query lies within it and between
two characters. Each term moves the position on, so that there are no more terms than bytes. The
spans of the terms are in order and apart, none is empty, and the bytes outside them are spaces. The
terms are what is cut out, and the text of each span has its term alone: the query has the terms of
these texts, one after another. -/
theorem layout_tiles (query : String) :
    (∀ p ∈ layout query, ∀ s ∈ p.slices, s.Within query) ∧
      (∀ pos p, placed? (bytesOf query) pos = some p → pos < p.whole.stop) ∧
      (terms query).length ≤ query.utf8ByteSize ∧
      Tiles (bytesOf query) 0 ((layout query).map fun p => p.whole) ∧
      List.Forall₂ (fun p t => p.term? query = some t) (layout query) (terms query) ∧
      ∃ parts : List String,
        List.Forall₂ (fun p part => p.whole.text? query = some part) (layout query) parts ∧
        List.Forall₂ (fun part t => terms part = [t]) parts (terms query) ∧
        terms query = parts.flatMap terms := by
  have hstart : Stands query 0 [] query.toList := ⟨rfl, rfl⟩
  have hlaid : Laid query 0 (layout query) (terms query) := laid_placedFrom hstart
  refine ⟨hlaid.slices_within, fun pos p hp => ?_, ?_, hlaid.tiles, hlaid.terms_cut,
    hlaid.parts⟩
  · obtain ⟨hstart, hsome, -⟩ := placed?_spec hp
    omega
  · have hlength := hlaid.tiles.length_le (Nat.zero_le _)
    rw [List.length_map, hlaid.terms_cut.length_eq, Nat.sub_zero] at hlength
    exact hlength

/-- A quoted value with a word directly behind it, a part without its closing asterisk, and a minus
    sign by itself. -/
def unfinished : String := "-ä:\"b c\"x  k:*v -"

/-- The spans count the two bytes of a character outside ASCII, and end after the closing mark. -/
theorem layout_tiles_unfinished :
    ∃ p parts, placed? (bytesOf unfinished) 10 = some p ∧ p.whole = ⟨12, 16⟩ ∧
      10 < p.whole.stop ∧
      Tiles (bytesOf unfinished) 0 [⟨0, 9⟩, ⟨9, 10⟩, ⟨12, 16⟩, ⟨17, 18⟩] ∧
      parts = ["-ä:\"b c\"", "x", "k:*v", "-"] ∧ terms unfinished = parts.flatMap terms ∧
      terms unfinished = [⟨.equals "ä", "b c", true⟩, ⟨.text, "x", false⟩,
        ⟨.equals "k", "*v", false⟩, ⟨.text, "", true⟩] := by
  have hfirst : placed? (bytesOf unfinished) 0 =
      some ⟨⟨0, 9⟩, .equals ⟨1, 3⟩, ⟨5, 8⟩, true⟩ := by decide
  have hbehind : placed? (bytesOf unfinished) 9 = some ⟨⟨9, 10⟩, .text, ⟨9, 10⟩, false⟩ := by decide
  have hnext : placed? (bytesOf unfinished) 10 =
      some ⟨⟨12, 16⟩, .equals ⟨12, 13⟩, ⟨14, 16⟩, false⟩ := by decide
  have hsign : placed? (bytesOf unfinished) 16 = some ⟨⟨17, 18⟩, .text, ⟨18, 18⟩, true⟩ := by decide
  have hend : placed? (bytesOf unfinished) 18 = none := by decide
  have hlayout : layout unfinished =
      [⟨⟨0, 9⟩, .equals ⟨1, 3⟩, ⟨5, 8⟩, true⟩, ⟨⟨9, 10⟩, .text, ⟨9, 10⟩, false⟩,
        ⟨⟨12, 16⟩, .equals ⟨12, 13⟩, ⟨14, 16⟩, false⟩, ⟨⟨17, 18⟩, .text, ⟨18, 18⟩, true⟩] := by
    rw [layout, placedFrom_of_some hfirst, placedFrom_of_some hbehind, placedFrom_of_some hnext,
      placedFrom_of_some hsign, placedFrom_of_none hend]
  have htexts : (layout unfinished).map (fun p => p.whole.text? unfinished) =
      ["-ä:\"b c\"", "x", "k:*v", "-"].map some := by
    rw [hlayout]
    decide
  have hcut : (layout unfinished).map (fun p => p.term? unfinished) =
      [⟨.equals "ä", "b c", true⟩, ⟨.text, "x", false⟩, ⟨.equals "k", "*v", false⟩,
        ⟨.text, "", true⟩].map some := by
    rw [hlayout]
    decide
  obtain ⟨-, hmoves, -, htiles, hterms, parts, hparts, -, hall⟩ := layout_tiles unfinished
  rw [hlayout] at htiles
  exact ⟨_, parts, hnext, rfl, hmoves _ _ hnext, htiles, eq_of_forall₂_some hparts htexts, hall,
    eq_of_forall₂_some hterms hcut⟩

end Logbook.Query
