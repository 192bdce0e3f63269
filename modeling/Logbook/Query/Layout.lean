import Logbook.Query.Scan
import Logbook.Text.Lines

/-!
# Where the terms of a query lie

A query can be read in one pass over its bytes. The pass keeps a position and looks for five bytes
only: those of the space, the quotation mark, the colon, the asterisk and the minus sign. What it
finds of a term are spans, that of the whole term and those of its key and of its value, which are
then cut out of the query. A text can be cut between two characters only, not inside one.

Results:

* `past_le_length`: the pass does not leave the query.
* `placed?_spec`: each term moves the position on.
-/

namespace Logbook.Query

/-! ## Spans -/

/-- The bytes of a query. -/
def bytesOf (query : String) : List UInt8 :=
  query.toUTF8.data.toList

/-- The bytes from one position up to another one. -/
structure Span where
  start : Nat
  stop : Nat
  deriving DecidableEq

/-- The span begins and ends between two characters of the query, or at its ends. -/
structure Span.Within (s : Span) (query : String) : Prop where
  start_le_stop : s.start ≤ s.stop
  stop_le_size : s.stop ≤ query.utf8ByteSize
  start : String.Pos.Raw.IsValid query ⟨s.start⟩
  stop : String.Pos.Raw.IsValid query ⟨s.stop⟩

instance (s : Span) (query : String) : Decidable (s.Within query) :=
  decidable_of_iff
    (s.start ≤ s.stop ∧ s.stop ≤ query.utf8ByteSize ∧ String.Pos.Raw.IsValid query ⟨s.start⟩ ∧
      String.Pos.Raw.IsValid query ⟨s.stop⟩)
    ⟨fun ⟨order, size, start, stop⟩ => ⟨order, size, start, stop⟩,
      fun h => ⟨h.start_le_stop, h.stop_le_size, h.start, h.stop⟩⟩

/-- The text of a span, if it can be cut out of the query. -/
def Span.text? (s : Span) (query : String) : Option String :=
  if h : s.Within query then some (String.extract ⟨⟨s.start⟩, h.start⟩ ⟨⟨s.stop⟩, h.stop⟩)
  else none

/-! ## Bytes -/

/-- The byte of a space. -/
def spaceByte : UInt8 := 0x20

/-- The byte of a quotation mark. -/
def quoteByte : UInt8 := 0x22

/-- The byte of an asterisk. -/
def starByte : UInt8 := 0x2A

/-- The byte of a minus sign. -/
def minusByte : UInt8 := 0x2D

/-- The byte of a colon. -/
def colonByte : UInt8 := 0x3A

/-- The first position, from the given one on, of a byte that `p` does not hold of, or the end. -/
def past (p : UInt8 → Bool) (bytes : List UInt8) (pos : Nat) : Nat :=
  pos + ((bytes.drop pos).takeWhile p).length

/-- The position of the first colon that stands outside quotation marks and before the first space
    outside them, in bytes of which the first one has the position `pos`. -/
def colonIn? (inQuotes : Bool) (pos : Nat) : List UInt8 → Option Nat
  | [] => none
  | b :: rest =>
    if b = quoteByte then colonIn? (!inQuotes) (pos + 1) rest
    else if b = colonByte ∧ inQuotes = false then some pos
    else if b = spaceByte ∧ inQuotes = false then none
    else colonIn? inQuotes (pos + 1) rest

/-! ## Terms -/

/-- What a term tests, by the spans of its key. -/
inductive Placed.Kind where
  | text
  | equals (key : Span)
  | contains (key : Span)
  deriving DecidableEq

/-- A term by the spans of its parts. -/
structure Placed where
  /-- All bytes of the term, its signs and marks included. -/
  whole : Span
  kind : Placed.Kind
  value : Span
  negated : Bool
  deriving DecidableEq

namespace Placed

/-- What the term tests, if the key can be cut out of the query. Blanks are taken off the key. -/
def Kind.cut? (query : String) : Kind → Option Term.Kind
  | text => some .text
  | equals key => (key.text? query).map fun k => .equals (String.ofList (Text.trim k.toList))
  | contains key => (key.text? query).map fun k => .contains (String.ofList (Text.trim k.toList))

/-- The spans that are cut out of the query for a kind. -/
def Kind.slices : Kind → List Span
  | text => []
  | equals key => [key]
  | contains key => [key]

/-- The spans that are cut out of the query for a term. -/
def slices (p : Placed) : List Span :=
  p.kind.slices ++ [p.value]

/-- The term, if its parts can be cut out of the query. -/
def term? (query : String) (p : Placed) : Option Term := do
  let kind ← p.kind.cut? query
  let value ← p.value.text? query
  some ⟨kind, value, p.negated⟩

end Placed

/-- What is found of a term behind its sign, and the position after it. -/
structure Found where
  kind : Placed.Kind
  value : Span
  stop : Nat

/-- A word at a position. -/
def wordAt (bytes : List UInt8) (kind : Placed.Kind) (pos : Nat) : Found :=
  let stop := past (· != spaceByte) bytes pos
  ⟨kind, ⟨pos, stop⟩, stop⟩

/-- A quoted text whose opening mark has the position. -/
def quotedAt (bytes : List UInt8) (kind : Placed.Kind) (pos : Nat) : Found :=
  let stop := past (· != quoteByte) bytes (pos + 1)
  ⟨kind, ⟨pos + 1, stop⟩, if bytes[stop]? = some quoteByte then stop + 1 else stop⟩

/-- A part whose opening asterisk has the position. Without a closing one it is a value that begins
    with the asterisk. -/
def starredAt (bytes : List UInt8) (key : Span) (pos : Nat) : Found :=
  let stop := past (fun b => b != spaceByte && b != starByte) bytes (pos + 1)
  if bytes[stop]? = some starByte then ⟨.contains key, ⟨pos + 1, stop⟩, stop + 1⟩
  else ⟨.equals key, ⟨pos, stop⟩, stop⟩

/-- The value of a key at a position. -/
def keyedAt (bytes : List UInt8) (key : Span) (pos : Nat) : Found :=
  if bytes[pos]? = some quoteByte then quotedAt bytes (.equals key) pos
  else if bytes[pos]? = some starByte then starredAt bytes key pos
  else wordAt bytes (.equals key) pos

/-- A term without its sign at a position. -/
def bareAt (bytes : List UInt8) (pos : Nat) : Found :=
  match colonIn? false pos (bytes.drop pos) with
  | some colon => keyedAt bytes ⟨pos, colon⟩ (colon + 1)
  | none =>
    if bytes[pos]? = some quoteByte then quotedAt bytes .text pos else wordAt bytes .text pos

/-- The first term from a position on, after the spaces there, if there is one. -/
def placed? (bytes : List UInt8) (pos : Nat) : Option Placed :=
  let start := past (· == spaceByte) bytes pos
  if bytes.length ≤ start then none
  else
    let negated := bytes[start]? == some minusByte
    let found := bareAt bytes (if negated then start + 1 else start)
    some ⟨⟨start, found.stop⟩, found.kind, found.value, negated⟩

/-! ## Progress -/

theorem le_past (p : UInt8 → Bool) (bytes : List UInt8) (pos : Nat) : pos ≤ past p bytes pos :=
  Nat.le_add_right _ _

theorem past_le_length {p : UInt8 → Bool} {bytes : List UInt8} {pos : Nat}
    (h : pos ≤ bytes.length) : past p bytes pos ≤ bytes.length := by
  have hfront : (bytes.drop pos).takeWhile p <+: bytes.drop pos := List.takeWhile_prefix p
  have := hfront.length_le
  rw [List.length_drop] at this
  unfold past
  omega

theorem lt_length_of_getElem? {bytes : List UInt8} {pos : Nat} {b : UInt8}
    (h : bytes[pos]? = some b) : pos < bytes.length :=
  (List.getElem?_eq_some_iff.1 h).1

theorem lt_past {p : UInt8 → Bool} {bytes : List UInt8} {pos : Nat} {b : UInt8}
    (h : bytes[pos]? = some b) (hb : p b = true) : pos < past p bytes pos := by
  have hdrop : bytes.drop pos = b :: bytes.drop (pos + 1) := by
    obtain ⟨hlt, rfl⟩ := List.getElem?_eq_some_iff.1 h
    exact List.drop_eq_getElem_cons hlt
  rw [past, hdrop, List.takeWhile_cons_of_pos hb, List.length_cons]
  omega

theorem drop_past (p : UInt8 → Bool) (bytes : List UInt8) (pos : Nat) :
    bytes.drop (past p bytes pos) = (bytes.drop pos).dropWhile p := by
  rw [past, ← List.drop_drop]
  generalize bytes.drop pos = bytes
  calc
    bytes.drop (bytes.takeWhile p).length
      = (bytes.takeWhile p ++ bytes.dropWhile p).drop (bytes.takeWhile p).length := by
        rw [List.takeWhile_append_dropWhile]
    _ = bytes.dropWhile p := List.drop_left

/-- The byte at the position where a pass ends is one that it does not pass. -/
theorem getElem?_past {p : UInt8 → Bool} {bytes : List UInt8} {pos : Nat} {b : UInt8}
    (h : bytes[past p bytes pos]? = some b) : p b = false := by
  have hhead := List.head?_dropWhile_not p (bytes.drop pos)
  rw [← List.head?_drop, drop_past] at h
  rw [h] at hhead
  exact hhead

theorem colonIn?_spec {inQuotes : Bool} {bytes : List UInt8} {pos colon : Nat}
    (h : colonIn? inQuotes pos bytes = some colon) :
    pos ≤ colon ∧ colon < pos + bytes.length := by
  induction bytes generalizing inQuotes pos with
  | nil => cases h
  | cons b rest ih =>
    rw [List.length_cons]
    unfold colonIn? at h
    split at h
    · have := ih h
      omega
    · split at h
      · cases h
        omega
      · split at h
        · cases h
        · have := ih h
          omega

theorem wordAt_stop (bytes : List UInt8) (kind : Placed.Kind) {pos : Nat}
    (h : pos ≤ bytes.length) :
    pos ≤ (wordAt bytes kind pos).stop ∧ (wordAt bytes kind pos).stop ≤ bytes.length :=
  ⟨le_past _ _ _, past_le_length h⟩

theorem quotedAt_stop (bytes : List UInt8) (kind : Placed.Kind) {pos : Nat}
    (h : pos < bytes.length) :
    pos < (quotedAt bytes kind pos).stop ∧ (quotedAt bytes kind pos).stop ≤ bytes.length := by
  have hle := le_past (· != quoteByte) bytes (pos + 1)
  have hlength := past_le_length (p := (· != quoteByte)) (show pos + 1 ≤ bytes.length from h)
  simp only [quotedAt]
  split
  · rename_i hmark
    have := lt_length_of_getElem? hmark
    omega
  · omega

theorem starredAt_stop (bytes : List UInt8) (key : Span) {pos : Nat} (h : pos < bytes.length) :
    pos < (starredAt bytes key pos).stop ∧ (starredAt bytes key pos).stop ≤ bytes.length := by
  have hle := le_past (fun b => b != spaceByte && b != starByte) bytes (pos + 1)
  have hlength := past_le_length (p := fun b => b != spaceByte && b != starByte)
    (show pos + 1 ≤ bytes.length from h)
  simp only [starredAt]
  split
  · rename_i hmark
    have := lt_length_of_getElem? hmark
    simp only
    omega
  · simp only
    omega

theorem keyedAt_stop (bytes : List UInt8) (key : Span) {pos : Nat} (h : pos ≤ bytes.length) :
    pos ≤ (keyedAt bytes key pos).stop ∧ (keyedAt bytes key pos).stop ≤ bytes.length := by
  unfold keyedAt
  split
  · rename_i hmark
    have := quotedAt_stop bytes (.equals key) (lt_length_of_getElem? hmark)
    omega
  · split
    · rename_i hmark
      have := starredAt_stop bytes key (lt_length_of_getElem? hmark)
      omega
    · exact wordAt_stop bytes _ h

/-- A term without its sign ends behind its position, unless a space or nothing stands there. -/
theorem bareAt_stop {bytes : List UInt8} {pos : Nat} (h : pos ≤ bytes.length) :
    pos ≤ (bareAt bytes pos).stop ∧ (bareAt bytes pos).stop ≤ bytes.length ∧
      ∀ b, bytes[pos]? = some b → b ≠ spaceByte → pos < (bareAt bytes pos).stop := by
  unfold bareAt
  split
  · rename_i colon hcolon
    have hbounds := colonIn?_spec hcolon
    rw [List.length_drop] at hbounds
    have := keyedAt_stop bytes ⟨pos, colon⟩ (show colon + 1 ≤ bytes.length by omega)
    exact ⟨by omega, this.2, fun _ _ _ => by omega⟩
  · split
    · rename_i hmark
      have := quotedAt_stop bytes .text (lt_length_of_getElem? hmark)
      exact ⟨by omega, this.2, fun _ _ _ => this.1⟩
    · have := wordAt_stop bytes .text h
      exact ⟨this.1, this.2, fun b hb hspace => lt_past hb (bne_iff_ne.2 hspace)⟩

/-- **Each term moves the position on**: it begins at the position or after it, has some byte, and
    ends within the query. -/
theorem placed?_spec {bytes : List UInt8} {pos : Nat} {p : Placed}
    (h : placed? bytes pos = some p) :
    pos ≤ p.whole.start ∧ p.whole.start < p.whole.stop ∧ p.whole.stop ≤ bytes.length := by
  have hle := le_past (· == spaceByte) bytes pos
  simp only [placed?] at h
  split at h
  · cases h
  · rename_i hinside
    obtain rfl := Option.some.inj h
    refine ⟨hle, ?_⟩
    have hlt : past (· == spaceByte) bytes pos < bytes.length := Nat.lt_of_not_le hinside
    simp only
    split
    · have := bareAt_stop (show past (· == spaceByte) bytes pos + 1 ≤ bytes.length from hlt)
      omega
    · have hbyte := List.getElem?_eq_getElem hlt
      have hspace := beq_eq_false_iff_ne.1 (getElem?_past (p := (· == spaceByte)) hbyte)
      have := bareAt_stop (Nat.le_of_lt hlt)
      exact ⟨this.2.2 _ hbyte hspace, this.2.1⟩

/-! ## Queries -/

/-- The terms from a position on. -/
def placedFrom (bytes : List UInt8) (pos : Nat) : List Placed :=
  match _h : placed? bytes pos with
  | none => []
  | some p => p :: placedFrom bytes p.whole.stop
termination_by bytes.length - pos
decreasing_by
  have := placed?_spec _h
  omega

/-- The terms of a query by the spans of their parts. -/
def layout (query : String) : List Placed :=
  placedFrom (bytesOf query) 0

end Logbook.Query
