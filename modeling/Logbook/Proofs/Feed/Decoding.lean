import Logbook.Feed
import Logbook.Proofs.Text.Lines
import Logbook.Proofs.Text.Utf8

/-!
# Streams decoded line by line

A stream is cut into lines as bytes, and each line is decoded by itself with the byte that ends it.
The same payloads come of it when the whole stream is decoded first and the text is then cut: a line
end is read as a line end and nothing else is, so both cuts are at the same places, and what a
damaged line reads as does not depend on what follows its end.

Results:

* `payload?_newline`: the end of a line does not change its payload.
* `deliveries_decoded`: the deliveries of a stream are those of its decoded text.
* `send_eq`: what is sent to a receiver, and how many payloads are counted.
* `send_decoded`: decoding each line is decoding the stream.
-/

namespace Logbook.Feed

/-! ## Lines -/

theorem payload?_newline (now : Int) (service : String) (line : List Char) :
    payload? now service (line ++ ['\n']) = payload? now service line := by
  have hends : stripEnds (line ++ ['\n']) = stripEnds line := by
    simp [stripEnds]
  rw [payload?, payload?, hends]

theorem payload?_nil (now : Int) (service : String) : payload? now service [] = none := rfl

variable {line : List UInt8} {e : UInt8}

theorem isLineEnd_iff : isLineEnd e = true ↔ e = 10 := beq_iff_eq

theorem decode_line (he : isLineEnd e = true) (line rest : List UInt8) :
    Text.Utf8.decode (line ++ e :: rest) =
      Text.Utf8.decode line ++ '\n' :: Text.Utf8.decode rest := by
  obtain rfl := isLineEnd_iff.1 he
  exact Text.Utf8.decode_append_ascii (by decide) line rest

theorem newline_not_mem_line (hline : ∀ b ∈ line, isLineEnd b = false) :
    '\n' ∉ Text.Utf8.decode line := by
  apply Text.Utf8.newline_not_mem_decode
  intro hmem
  cases hline 10 hmem

/-- A line is decoded with its end, which its payload does not show. -/
theorem payload?_firstLine (now : Int) (service : String)
    (hline : ∀ b ∈ line, isLineEnd b = false) (he : isLineEnd e = true) (rest : List UInt8) :
    payload? now service (Text.Utf8.decode (firstLine (line ++ e :: rest))) =
      payload? now service (Text.Utf8.decode line) := by
  have hfirst : firstLine (line ++ e :: rest) = line ++ e :: [] := by
    rw [firstLine, Text.takeWhile_line hline he, Text.dropWhile_line hline he]
    rfl
  rw [hfirst, decode_line he, Text.Utf8.decode_nil, payload?_newline]

theorem firstLine_last (hline : ∀ b ∈ line, isLineEnd b = false) : firstLine line = line := by
  have hinside : ∀ b ∈ line, (!isLineEnd b) = true := fun b hb => by rw [hline b hb]; rfl
  rw [firstLine, List.takeWhile_eq_self_iff.2 hinside, List.dropWhile_eq_nil_iff.2 hinside]
  exact List.append_nil line

theorem afterLine_last (hline : ∀ b ∈ line, isLineEnd b = false) :
    Text.afterLine isLineEnd line = [] := by
  have hinside : ∀ b ∈ line, (!isLineEnd b) = true := fun b hb => by rw [hline b hb]; rfl
  rw [Text.afterLine, List.dropWhile_eq_nil_iff.2 hinside]
  rfl

/-! ## Texts -/

/-- The payloads of the pieces of a text between its line ends, with the clock read once for each
    piece. -/
def payloadsOfText (clock : Nat → Int) (service : String) (text : List Char) : List Json :=
  ((text.splitOn '\n').mapIdx fun i piece => payload? (clock i) service piece).filterMap id

theorem payloadsOfText_line (clock : Nat → Int) (service : String) {line : List Char}
    (hline : '\n' ∉ line) (rest : List Char) :
    payloadsOfText clock service (line ++ '\n' :: rest) =
      (payload? (clock 0) service line).toList ++
        payloadsOfText (fun i => clock (i + 1)) service rest := by
  rw [payloadsOfText, List.splitOn_append_cons_self_of_not_mem hline, List.mapIdx_cons]
  cases payload? (clock 0) service line <;> rfl

theorem payloadsOfText_last (clock : Nat → Int) (service : String) {line : List Char}
    (hline : '\n' ∉ line) :
    payloadsOfText clock service line = (payload? (clock 0) service line).toList := by
  rw [payloadsOfText, List.splitOn_eq_singleton hline]
  cases h : payload? (clock 0) service line <;> simp [h]

/-! ## Deliveries -/

variable {clock : Nat → Int} {origin : Origin} {o : Options}

theorem deliveries_nil (clock : Nat → Int) (origin : Origin) (o : Options) :
    deliveries clock origin o [] = [] := by
  rw [deliveries, Text.lines]
  rfl

theorem deliveries_line (hline : ∀ b ∈ line, isLineEnd b = false) (he : isLineEnd e = true)
    (rest : List UInt8) :
    deliveries clock origin o (line ++ e :: rest) =
      (payload? (clock 0) o.service (Text.Utf8.decode line)).toList.map
          (⟨·, o.transport, origin⟩) ++
        deliveries (fun i => clock (i + 1)) origin o rest := by
  rw [deliveries, Text.lines_append hline he, List.mapIdx_cons]
  cases payload? (clock 0) o.service (Text.Utf8.decode line) <;> rfl

theorem deliveries_last (hline : ∀ b ∈ line, isLineEnd b = false) :
    deliveries clock origin o line =
      (payload? (clock 0) o.service (Text.Utf8.decode line)).toList.map
        (⟨·, o.transport, origin⟩) := by
  by_cases hne : line = []
  · subst hne
    rw [Text.Utf8.decode_nil, payload?_nil, deliveries_nil]
    rfl
  · rw [deliveries, Text.lines_eq_singleton hne hline]
    cases h : payload? (clock 0) o.service (Text.Utf8.decode line) <;> simp [h]

/-- **The deliveries of a stream are those of its decoded text.** -/
theorem deliveries_decoded (clock : Nat → Int) (origin : Origin) (o : Options)
    (bytes : List UInt8) :
    deliveries clock origin o bytes =
      (payloadsOfText clock o.service (Text.Utf8.decode bytes)).map
        (⟨·, o.transport, origin⟩) := by
  induction bytes using Text.lines_induction isLineEnd generalizing clock with
  | last line hline =>
    rw [deliveries_last hline, payloadsOfText_last _ _ (newline_not_mem_line hline)]
  | line line e rest hline he ih =>
    rw [deliveries_line hline he, ih, decode_line he,
      payloadsOfText_line _ _ (newline_not_mem_line hline), List.map_append]

/-! ## Sending -/

variable {capacity : Option Nat} {read sent : Nat}

theorem send_of_ne_nil {bytes : List UInt8} (hne : bytes ≠ []) :
    send clock origin o capacity read sent bytes =
      match payload? (clock read) o.service (Text.Utf8.decode (firstLine bytes)) with
      | none => send clock origin o capacity (read + 1) sent (Text.afterLine isLineEnd bytes)
      | some v =>
        if capacity = some sent then (sent, [])
        else
          let rest := send clock origin o capacity (read + 1) (sent + 1)
            (Text.afterLine isLineEnd bytes)
          (rest.1, ⟨v, o.transport, origin⟩ :: rest.2) := by
  cases bytes with
  | nil => exact absurd rfl hne
  | cons b bs =>
    rewrite [send]
    rfl

theorem received_cons (hopen : capacity ≠ some sent) (hcapacity : ∀ n ∈ capacity, sent ≤ n)
    (d : Delivery) (ds : List Delivery) :
    received (capacity.map (· - sent)) (d :: ds) =
      d :: received (capacity.map (· - (sent + 1))) ds := by
  cases capacity with
  | none => rfl
  | some n =>
    have hle := hcapacity n rfl
    have hne : n ≠ sent := fun h => hopen (h ▸ rfl)
    have hmore : n - sent = n - (sent + 1) + 1 := by omega
    simp only [Option.map_some, received, hmore, List.take_succ_cons]

/-- The deliveries that a receiver takes of a stream once lines are read and payloads sent. -/
def remaining (clock : Nat → Int) (origin : Origin) (o : Options) (capacity : Option Nat)
    (read sent : Nat) (bytes : List UInt8) : List Delivery :=
  received (capacity.map (· - sent)) (deliveries (fun i => clock (read + i)) origin o bytes)

theorem send_line {bytes rest : List UInt8} (hne : bytes ≠ [])
    (hafter : Text.afterLine isLineEnd bytes = rest)
    (hfirst : ∀ now, payload? now o.service (Text.Utf8.decode (firstLine bytes)) =
      payload? now o.service (Text.Utf8.decode line))
    (hdeliveries : ∀ clock, deliveries clock origin o bytes =
      (payload? (clock 0) o.service (Text.Utf8.decode line)).toList.map
        (⟨·, o.transport, origin⟩) ++ deliveries (fun i => clock (i + 1)) origin o rest)
    (hrest : ∀ read sent, (∀ n ∈ capacity, sent ≤ n) →
      send clock origin o capacity read sent rest =
        (sent + (remaining clock origin o capacity read sent rest).length,
          remaining clock origin o capacity read sent rest))
    (hcapacity : ∀ n ∈ capacity, sent ≤ n) :
    send clock origin o capacity read sent bytes =
      (sent + (remaining clock origin o capacity read sent bytes).length,
        remaining clock origin o capacity read sent bytes) := by
  have hclock : (fun i => clock (read + (i + 1))) = fun i => clock (read + 1 + i) := by
    funext i
    congr 1
    omega
  have hsplit := hdeliveries fun i => clock (read + i)
  rw [Nat.add_zero, hclock] at hsplit
  rw [send_of_ne_nil hne, hfirst, hafter, remaining, hsplit]
  cases payload? (clock read) o.service (Text.Utf8.decode line) with
  | none => exact hrest (read + 1) sent hcapacity
  | some v =>
    by_cases hclosed : capacity = some sent
    · subst hclosed
      simp [received]
    · have hnext : ∀ n ∈ capacity, sent + 1 ≤ n := by
        intro n hn
        have hle := hcapacity n hn
        have hother : n ≠ sent := fun h => hclosed (h ▸ hn)
        omega
      simp only [if_neg hclosed, hrest (read + 1) (sent + 1) hnext, Option.toList_some,
        List.map_singleton, List.singleton_append, received_cons hclosed hcapacity,
        List.length_cons, remaining]
      congr 1
      omega

/-- **What is sent to a receiver** is what it takes of the deliveries that are left, and these are
counted. -/
theorem send_eq (clock : Nat → Int) (origin : Origin) (o : Options) (bytes : List UInt8)
    (hcapacity : ∀ n ∈ capacity, sent ≤ n) :
    send clock origin o capacity read sent bytes =
      (sent + (remaining clock origin o capacity read sent bytes).length,
        remaining clock origin o capacity read sent bytes) := by
  have hnil : ∀ read sent, send clock origin o capacity read sent [] =
      (sent + (remaining clock origin o capacity read sent []).length,
        remaining clock origin o capacity read sent []) := by
    intro read sent
    cases capacity <;> simp [send_nil, remaining, deliveries_nil, received]
  induction bytes using Text.lines_induction isLineEnd generalizing read sent with
  | last line hline =>
    by_cases hne : line = []
    · subst hne
      exact hnil read sent
    · refine send_line hne (afterLine_last hline) (fun now => by rw [firstLine_last hline])
        (fun clock => ?_) (fun read sent _ => hnil read sent) hcapacity
      rw [deliveries_last hline, deliveries_nil, List.append_nil]
  | line line e rest hline he ih =>
    exact send_line (by simp) (Text.afterLine_append hline he rest)
      (fun now => payload?_firstLine now o.service hline he rest)
      (fun clock => deliveries_line hline he rest) (fun read sent h => ih h) hcapacity

/-- **Decoding each line is decoding the stream.** To a receiver that stays open a feed sends, in
order, the payloads of the pieces of a text: that which the whole stream reads as, with a
replacement character for each sequence that breaks off, cut at its line ends. Blank pieces have no
payload. The number told is the number of the payloads, and each of them travels with the service of
the feed as its transport if the options force it, and otherwise with none. -/
theorem send_decoded (clock : Nat → Int) (origin : Origin) (o : Options) (bytes : List UInt8) :
    send clock origin o none 0 0 bytes =
      ((payloadsOfText clock o.service (Text.Utf8.decode bytes)).length,
        (payloadsOfText clock o.service (Text.Utf8.decode bytes)).map fun v =>
          ⟨v, if o.forced then some ⟨some o.service⟩ else none, origin⟩) := by
  have hopen : ∀ n ∈ (none : Option Nat), 0 ≤ n := fun n _ => Nat.zero_le n
  have hremaining : remaining clock origin o none 0 0 bytes = deliveries clock origin o bytes := by
    simp only [remaining, Nat.zero_add]
    rfl
  rw [send_eq clock origin o bytes hopen, hremaining, deliveries_decoded, List.length_map,
    Nat.zero_add]
  rfl

/-- A line that breaks off in front of its end and one that breaks off at the end of the stream read
    with a replacement character each. -/
example : Text.Utf8.decode [0xE2, 0x82, 10, 0xFF, 13, 10, 0xF0, 0x9F] =
    ['\uFFFD', '\n', '\uFFFD', '\r', '\n', '\uFFFD'] := by
  decide +kernel

end Logbook.Feed
