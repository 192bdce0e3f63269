import Logbook.Proofs.Query.Alone
import Logbook.Proofs.Text.Lines
import Logbook.Query.Layout
import Mathlib.Data.List.Forall2

/-!
# Positions in a query

A position that stands between two characters has the bytes of some characters before it and those
of the others after it. A pass over bytes keeps to such positions: it looks for bytes of characters
that are written with one byte, and no other character has such a byte. So whatever the pass finds
is what is read off the characters that stand after the position, and it ends where they end.

Results:

* `colonIn?_utf8`: a colon of the bytes is a colon of the text.
* `Stands.pass`: a pass over bytes goes as far as one over characters.
* `Stands.text?_eq`: the text between two positions are the characters between them.
* `bareAt_reads`: a term found in the bytes is the term of the characters.
-/

namespace Logbook.Query

/-! ## Marks in bytes -/

/-- The bytes of some characters. -/
def utf8 (cs : List Char) : List UInt8 :=
  cs.flatMap String.utf8EncodeChar

theorem utf8_append (a b : List Char) : utf8 (a ++ b) = utf8 a ++ utf8 b :=
  List.flatMap_append

theorem utf8_cons (c : Char) (cs : List Char) :
    utf8 (c :: cs) = String.utf8EncodeChar c ++ utf8 cs :=
  List.flatMap_cons

/-- The character is written as this byte alone, and so no other one has the byte. -/
def Marks (m : Char) (b : UInt8) : Prop :=
  String.utf8EncodeChar m = [b] ∧ b.toNat < 128

theorem marks_space : Marks ' ' spaceByte := by unfold Marks; decide

theorem marks_quote : Marks '"' quoteByte := by unfold Marks; decide

theorem marks_star : Marks '*' starByte := by unfold Marks; decide

theorem marks_minus : Marks '-' minusByte := by unfold Marks; decide

theorem marks_colon : Marks ':' colonByte := by unfold Marks; decide

theorem Marks.not_mem {m c : Char} {b : UInt8} (h : Marks m b) (hc : c ≠ m) :
    b ∉ String.utf8EncodeChar c :=
  Text.not_mem_utf8EncodeChar h.1 h.2 hc

/-- A test of bytes passes a character if the test of characters does, and otherwise stops at its
    first byte. -/
def Agrees (p : UInt8 → Bool) (p' : Char → Bool) : Prop :=
  ∀ c, (p' c = true → ∀ b ∈ String.utf8EncodeChar c, p b = true) ∧
    (p' c = false → ∀ b ∈ (String.utf8EncodeChar c).head?, p b = false)

theorem Marks.agrees_ne {m : Char} {b : UInt8} (h : Marks m b) : Agrees (· != b) (· != m) := by
  intro c
  constructor
  · intro hc b' hb'
    rw [bne_iff_ne] at hc ⊢
    rintro rfl
    exact h.not_mem hc hb'
  · intro hc b' hb'
    obtain rfl : c = m := by simpa using hc
    rw [h.1] at hb'
    obtain rfl : b = b' := by simpa using hb'
    simp

theorem Marks.agrees_eq {m : Char} {b : UInt8} (h : Marks m b) : Agrees (· == b) (· == m) := by
  intro c
  constructor
  · intro hc b' hb'
    obtain rfl := beq_iff_eq.1 hc
    rw [h.1, List.mem_singleton] at hb'
    exact beq_iff_eq.2 hb'
  · intro hc b' hb'
    rw [beq_eq_false_iff_ne] at hc ⊢
    rintro rfl
    exact h.not_mem hc (List.mem_of_mem_head? hb')

theorem Agrees.and {p r : UInt8 → Bool} {p' r' : Char → Bool} (hp : Agrees p p')
    (hr : Agrees r r') : Agrees (fun b => p b && r b) (fun c => p' c && r' c) := by
  intro c
  constructor
  · intro hc b hb
    obtain ⟨hp', hr'⟩ := Bool.and_eq_true_iff.1 hc
    exact Bool.and_eq_true_iff.2 ⟨(hp c).1 hp' b hb, (hr c).1 hr' b hb⟩
  · intro hc b hb
    rcases Bool.and_eq_false_iff.1 hc with hp' | hr'
    · exact Bool.and_eq_false_iff.2 (.inl ((hp c).2 hp' b hb))
    · exact Bool.and_eq_false_iff.2 (.inr ((hr c).2 hr' b hb))

/-- The bytes that a pass goes over are those of the characters. -/
theorem Agrees.takeWhile_utf8 {p : UInt8 → Bool} {p' : Char → Bool} (h : Agrees p p')
    (cs : List Char) : (utf8 cs).takeWhile p = utf8 (cs.takeWhile p') := by
  induction cs with
  | nil => rfl
  | cons c cs ih =>
    rw [utf8_cons]
    cases hc : p' c with
    | true =>
      rw [List.takeWhile_append_of_pos ((h c).1 hc), ih, List.takeWhile_cons_of_pos hc, utf8_cons]
    | false =>
      obtain ⟨b, bytes, hbytes⟩ :=
        List.exists_cons_of_ne_nil (String.utf8EncodeChar_ne_nil (c := c))
      have hb : p b = false := (h c).2 hc b (by rw [hbytes]; rfl)
      rw [hbytes, List.cons_append, List.takeWhile_cons_of_neg (Bool.not_eq_true _ ▸ hb),
        List.takeWhile_cons_of_neg (Bool.not_eq_true _ ▸ hc)]
      rfl

/-- The search for a colon passes over bytes that mean nothing to it. -/
theorem colonIn?_append {inQuotes : Bool} {skipped : List UInt8}
    (h : ∀ b ∈ skipped, b ≠ quoteByte ∧ ¬(b = colonByte ∧ inQuotes = false) ∧
      ¬(b = spaceByte ∧ inQuotes = false)) (pos : Nat) (bytes : List UInt8) :
    colonIn? inQuotes pos (skipped ++ bytes) = colonIn? inQuotes (pos + skipped.length) bytes := by
  induction skipped generalizing pos with
  | nil => rfl
  | cons b skipped ih =>
    obtain ⟨hquote, hcolon, hspace⟩ := h b List.mem_cons_self
    rw [List.cons_append, colonIn?, if_neg hquote, if_neg hcolon, if_neg hspace,
      ih fun b hb => h b (List.mem_cons_of_mem _ hb), List.length_cons, Nat.add_right_comm,
      Nat.add_assoc]

/-- **The colon of a key is found in the bytes** where it stands in the text. -/
theorem colonIn?_utf8 (inQuotes : Bool) (pos : Nat) (cs : List Char) :
    colonIn? inQuotes pos (utf8 cs) =
      (splitKey? inQuotes cs).map fun found => pos + (utf8 found.1).length := by
  induction cs generalizing inQuotes pos with
  | nil => rfl
  | cons c cs ih =>
    -- What is found behind one more character is found as many bytes later.
    have hnext : ∀ q, colonIn? q (pos + (String.utf8EncodeChar c).length) (utf8 cs) =
        ((splitKey? q cs).map fun found => (c :: found.1, found.2)).map
          fun found => pos + (utf8 found.1).length := by
      intro q
      rw [ih, Option.map_map]
      congr 1
      funext found
      simp only [Function.comp_apply, utf8_cons, List.length_append, Nat.add_assoc]
    rw [utf8_cons, splitKey?]
    by_cases hquote : c = '"'
    · have hlater := hnext (!inQuotes)
      rw [hquote, marks_quote.1] at hlater
      rw [if_pos hquote, hquote, marks_quote.1, List.singleton_append, colonIn?, if_pos rfl]
      exact hlater
    · rw [if_neg hquote]
      by_cases hcolon : c = ':' ∧ inQuotes = false
      · rw [if_pos hcolon, hcolon.1, marks_colon.1, List.singleton_append, colonIn?,
          if_neg (by decide), if_pos ⟨rfl, hcolon.2⟩]
        rfl
      · rw [if_neg hcolon]
        by_cases hspace : c = ' ' ∧ inQuotes = false
        · rw [if_pos hspace, hspace.1, marks_space.1, List.singleton_append, colonIn?,
            if_neg (by decide), if_neg fun h => absurd h.1 (by decide), if_pos ⟨rfl, hspace.2⟩]
          rfl
        · rw [if_neg hspace, colonIn?_append]
          · exact hnext inQuotes
          · intro b hb
            refine ⟨?_, ?_, ?_⟩
            · rintro rfl
              exact marks_quote.not_mem hquote hb
            · rintro ⟨rfl, hq⟩
              exact marks_colon.not_mem (fun hc => hcolon ⟨hc, hq⟩) hb
            · rintro ⟨rfl, hq⟩
              exact marks_space.not_mem (fun hc => hspace ⟨hc, hq⟩) hb

/-! ## Positions between characters -/

theorem bytesOf_eq (query : String) : bytesOf query = utf8 query.toList := by
  conv_lhs => rw [← String.ofList_toList (s := query)]
  exact List.toList_data_toByteArray

/-- The position lies between two parts of the query. -/
structure Stands (query : String) (pos : Nat) (before after : List Char) : Prop where
  chars : query.toList = before ++ after
  pos_eq : pos = (utf8 before).length

theorem size_utf8Encode (cs : List Char) : cs.utf8Encode.size = (utf8 cs).length :=
  List.size_toByteArray

namespace Stands

variable {query : String} {pos : Nat} {before after : List Char}

theorem bytes (h : Stands query pos before after) : bytesOf query = utf8 before ++ utf8 after := by
  rw [bytesOf_eq, h.chars, utf8_append]

theorem drop (h : Stands query pos before after) : (bytesOf query).drop pos = utf8 after := by
  rw [h.bytes, h.pos_eq, List.drop_left]

theorem isValid (h : Stands query pos before after) :
    String.Pos.Raw.IsValid query ⟨pos⟩ := by
  rw [String.Pos.Raw.isValid_iff_exists_append]
  refine ⟨String.ofList before, String.ofList after, ?_, ?_⟩
  · rw [← String.ofList_append, ← h.chars, String.ofList_toList]
  · rw [h.pos_eq, ← size_utf8Encode]
    rfl

theorem append {taken : List Char} (h : Stands query pos before (taken ++ after)) :
    Stands query (pos + (utf8 taken).length) (before ++ taken) after where
  chars := by rw [h.chars, List.append_assoc]
  pos_eq := by rw [h.pos_eq, utf8_append, List.length_append]

theorem mark {m : Char} {b : UInt8} (hm : Marks m b) (h : Stands query pos before (m :: after)) :
    Stands query (pos + 1) (before ++ [m]) after := by
  have hnext : Stands query (pos + (utf8 [m]).length) (before ++ [m]) after := h.append
  rwa [utf8, List.flatMap_singleton, hm.1] at hnext

theorem pass {p : UInt8 → Bool} {p' : Char → Bool} (hp : Agrees p p')
    (h : Stands query pos before after) :
    Stands query (past p (bytesOf query) pos) (before ++ after.takeWhile p')
      (after.dropWhile p') := by
  rw [past, h.drop, hp.takeWhile_utf8]
  apply append
  rwa [List.takeWhile_append_dropWhile]

theorem getElem?_eq_some_iff {m : Char} {b : UInt8} (hm : Marks m b)
    (h : Stands query pos before after) :
    (bytesOf query)[pos]? = some b ↔ after.head? = some m := by
  rw [← List.head?_drop, h.drop]
  cases after with
  | nil => simp [utf8]
  | cons c after =>
    obtain ⟨b', bytes, hbytes⟩ := List.exists_cons_of_ne_nil (String.utf8EncodeChar_ne_nil (c := c))
    rw [utf8_cons, hbytes, List.cons_append, List.head?_cons, List.head?_cons, Option.some_inj,
      Option.some_inj]
    constructor
    · rintro rfl
      by_contra hc
      exact hm.not_mem hc (hbytes ▸ List.mem_cons_self)
    · rintro rfl
      rw [hm.1] at hbytes
      exact (List.cons.inj hbytes).1.symm

theorem text?_eq {taken : List Char} {stop : Nat} (h : Stands query pos before (taken ++ after))
    (hstop : Stands query stop (before ++ taken) after) :
    Span.text? ⟨pos, stop⟩ query = some (String.ofList taken) := by
  have hpos := h.pos_eq
  have hend := hstop.pos_eq
  have hchars := h.chars
  rw [← size_utf8Encode] at hpos hend
  rw [List.utf8Encode_append, ByteArray.size_append] at hend
  have hbytes : query.toByteArray =
      before.utf8Encode ++ (taken.utf8Encode ++ after.utf8Encode) := by
    rw [← String.utf8Encode_toList, hchars, List.utf8Encode_append, List.utf8Encode_append]
  have hsize : query.utf8ByteSize =
      before.utf8Encode.size + (taken.utf8Encode.size + after.utf8Encode.size) := by
    rw [String.utf8ByteSize, hbytes, ByteArray.size_append, ByteArray.size_append]
  have hwithin : Span.Within ⟨pos, stop⟩ query :=
    ⟨by simp only; omega, by simp only; omega, h.isValid, hstop.isValid⟩
  rw [Span.text?, dif_pos hwithin, Option.some_inj, ← String.toByteArray_inj,
    String.toByteArray_extract, String.toByteArray_ofList, hbytes]
  simp only
  rw [hpos, hend]
  exact (ByteArray.extract_append_size_add (i := 0)).trans (ByteArray.extract_append_eq_left rfl)

/-- What lies between two positions are the bytes of the characters there. -/
theorem extract {taken : List Char} {stop : Nat} (h : Stands query pos before (taken ++ after))
    (hstop : Stands query stop (before ++ taken) after) :
    (bytesOf query).extract pos stop = utf8 taken := by
  rw [h.bytes, h.pos_eq, hstop.pos_eq, utf8_append, utf8_append, List.length_append,
    List.extract_eq_take_drop, List.drop_left, Nat.add_sub_cancel_left, List.take_left]

end Stands

/-! ## Terms -/

/-- What was found behind a position is what is read off the characters there. -/
structure Found.Reads (query : String) (found : Found) (before cs : List Char)
    (read : Term × List Char) : Prop where
  kind : found.kind.cut? query = some read.1.kind
  value : found.value.text? query = some read.1.value
  stop : ∃ taken, cs = taken ++ read.2 ∧ Stands query found.stop (before ++ taken) read.2

section Parts

variable {query : String} {pos : Nat} {before cs : List Char} {kind : Placed.Kind} {k : Term.Kind}

theorem wordAt_reads (h : Stands query pos before cs) (hkind : kind.cut? query = some k) :
    (wordAt (bytesOf query) kind pos).Reads query before cs (plainTerm k (word cs)) := by
  have hsplit := List.takeWhile_append_dropWhile (p := (· != ' ')) (l := cs)
  have hstop := h.pass marks_space.agrees_ne
  refine ⟨hkind, ?_, ⟨_, hsplit.symm, hstop⟩⟩
  rw [← hsplit] at h
  exact h.text?_eq hstop

theorem quotedAt_reads (h : Stands query pos before ('"' :: cs))
    (hkind : kind.cut? query = some k) :
    (quotedAt (bytesOf query) kind pos).Reads query before ('"' :: cs)
      (plainTerm k (quotedText cs)) := by
  have hsplit := List.takeWhile_append_dropWhile (p := (· != '"')) (l := cs)
  have hopen := h.mark marks_quote
  have hstop := hopen.pass marks_quote.agrees_ne
  have hmark := hstop.getElem?_eq_some_iff marks_quote
  have hhead := List.head?_dropWhile_not (· != '"') cs
  rw [← hsplit] at hopen
  refine ⟨hkind, hopen.text?_eq hstop, ?_⟩
  simp only [quotedAt, plainTerm, quotedText]
  cases hrest : cs.dropWhile (· != '"') with
  | nil =>
    rw [hrest] at hstop hmark hsplit
    rw [if_neg (by rw [hmark]; decide)]
    refine ⟨'"' :: cs.takeWhile (· != '"'), ?_, ?_⟩
    · rw [List.drop_nil, List.cons_append, hsplit]
    · rwa [List.append_assoc] at hstop
  | cons c left =>
    rw [hrest] at hstop hmark hsplit hhead
    obtain rfl : c = '"' := by simpa using hhead
    rw [if_pos (hmark.2 rfl)]
    refine ⟨'"' :: cs.takeWhile (· != '"') ++ ['"'], ?_, ?_⟩
    · simp only [List.drop_one, List.tail_cons, List.cons_append, List.append_assoc,
        List.nil_append, hsplit]
    · have hclosed := hstop.mark marks_quote
      rwa [← List.append_cons, List.append_assoc] at hclosed

theorem starredAt_reads {key : Span} {name : String}
    (hequals : (Placed.Kind.equals key).cut? query = some (.equals name))
    (hcontains : (Placed.Kind.contains key).cut? query = some (.contains name))
    (h : Stands query pos before ('*' :: cs)) :
    (starredAt (bytesOf query) key pos).Reads query before ('*' :: cs)
      (keyedTerm name ('*' :: cs)) := by
  have hsplit := List.takeWhile_append_dropWhile (p := fun c => c != ' ' && c != '*') (l := cs)
  have hopen := h.mark marks_star
  have hstop := hopen.pass (marks_space.agrees_ne.and marks_star.agrees_ne)
  have hmark := hstop.getElem?_eq_some_iff marks_star
  have hfound : starredText cs = (cs.takeWhile fun c => c != ' ' && c != '*',
      cs.dropWhile fun c => c != ' ' && c != '*') := rfl
  generalize cs.takeWhile (fun c => c != ' ' && c != '*') = part at *
  generalize cs.dropWhile (fun c => c != ' ' && c != '*') = left at *
  obtain rfl := hsplit
  by_cases hclosed : left.head? = some '*'
  · obtain ⟨left, rfl⟩ := List.head?_eq_some_iff.1 hclosed
    rw [keyedTerm_closed hfound]
    simp only [starredAt, if_pos (hmark.2 hclosed)]
    refine ⟨hcontains, hopen.text?_eq hstop, '*' :: part ++ ['*'], ?_, ?_⟩
    · simp [plainTerm]
    · have hend := hstop.mark marks_star
      rwa [← List.append_cons, List.append_assoc] at hend
  · rw [keyedTerm_unclosed hfound hclosed]
    rw [List.append_assoc] at hstop
    simp only [starredAt, if_neg (mt hmark.1 hclosed)]
    have hword : Stands query pos before ('*' :: part ++ left) := h
    exact ⟨hequals, hword.text?_eq hstop, '*' :: part, rfl, hstop⟩

theorem keyedAt_reads {key : Span} {name : List Char}
    (hkey : key.text? query = some (String.ofList name)) (h : Stands query pos before cs) :
    (keyedAt (bytesOf query) key pos).Reads query before cs
      (keyedTerm (String.ofList (Text.trim name)) cs) := by
  have hequals : (Placed.Kind.equals key).cut? query =
      some (.equals (String.ofList (Text.trim name))) := by
    rw [Placed.Kind.cut?, hkey, Option.map_some, String.toList_ofList]
  have hcontains : (Placed.Kind.contains key).cut? query =
      some (.contains (String.ofList (Text.trim name))) := by
    rw [Placed.Kind.cut?, hkey, Option.map_some, String.toList_ofList]
  have hquoteByte := h.getElem?_eq_some_iff marks_quote
  have hstarByte := h.getElem?_eq_some_iff marks_star
  unfold keyedAt
  by_cases hquote : cs.head? = some '"'
  · rw [if_pos (hquoteByte.2 hquote)]
    obtain ⟨cs, rfl⟩ := List.head?_eq_some_iff.1 hquote
    exact quotedAt_reads h hequals
  · rw [if_neg (mt hquoteByte.1 hquote)]
    by_cases hstar : cs.head? = some '*'
    · rw [if_pos (hstarByte.2 hstar)]
      obtain ⟨cs, rfl⟩ := List.head?_eq_some_iff.1 hstar
      exact starredAt_reads hequals hcontains h
    · rw [if_neg (mt hstarByte.1 hstar), keyedTerm_of_ne hquote hstar]
      exact wordAt_reads h hequals

theorem bareAt_reads (h : Stands query pos before cs) :
    (bareAt (bytesOf query) pos).Reads query before cs (bareTerm cs) := by
  unfold bareAt bareTerm
  rw [h.drop, colonIn?_utf8]
  cases hkey : splitKey? false cs with
  | none =>
    have hquoteByte := h.getElem?_eq_some_iff marks_quote
    simp only [Option.map_none]
    by_cases hquote : cs.head? = some '"'
    · rw [if_pos (hquoteByte.2 hquote)]
      obtain ⟨cs, rfl⟩ := List.head?_eq_some_iff.1 hquote
      exact quotedAt_reads h rfl
    · rw [if_neg (mt hquoteByte.1 hquote), textTerm_of_head?_ne hquote]
      exact wordAt_reads h rfl
  | some found =>
    obtain ⟨key, left⟩ := found
    -- The key is cut out as it stands before the colon; the value begins one byte behind it.
    obtain rfl := splitKey?_append hkey
    simp only [Option.map_some]
    have hcolon := h.append
    obtain ⟨hkind, hvalue, taken, hleft, hstop⟩ :=
      keyedAt_reads (h.text?_eq hcolon) (hcolon.mark marks_colon)
    refine ⟨hkind, hvalue, key ++ ':' :: taken, ?_, ?_⟩
    · simp only [List.append_assoc, List.cons_append, ← hleft]
    · simpa only [List.append_assoc, List.cons_append, List.nil_append] using hstop

end Parts

end Logbook.Query
