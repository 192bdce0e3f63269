import Logbook.Proofs.Json.Numeral

/-!
# Written values read back

The text of a value is a sequence of tokens, those tokens drive the reading machine to the tree of
the value, and the tree gives the value again. Objects lose their repeated names on the way, as any
object does that is read; nothing else changes, and only a value that nests too deep is refused.

Results:

* `closing?_escaped`, `unescape?_escaped`: a written string ends where it was closed and stands for
  its characters.
* `tokens?_chars`: the text of a value is cut into its tokens.
* `Document.read?_chars`: the text of a value spells the document of the value.
* `Document.value?_document`: the document of a value that is not too deep has that value.
-/

namespace Logbook.Json

open Logbook.Number (hexDigit isDigit Numeral EndsNumeral)

/-! ## Strings -/

theorem hexUnit?_hexDigit {n : Nat} (h : n < 32) :
    hexUnit? ['0', '0', hexDigit (n / 16), hexDigit (n % 16)] = some (n, []) := by
  revert n
  decide

/-- A control character is written with four hexadecimal digits; any other as itself or as a short
    escape. -/
theorem escaped_cases (c : Char) :
    (escaped c = [c] ∧ 0x20 ≤ c.toNat ∧ c ≠ '"' ∧ c ≠ '\\') ∨
      (∃ e, escaped c = ['\\', e] ∧ e ≠ 'u' ∧ shortEscape? e = some c) ∨
      escaped c = ['\\', 'u', '0', '0', hexDigit (c.toNat / 16), hexDigit (c.toNat % 16)] ∧
        c.toNat < 32 := by
  unfold escaped
  split
  · rename_i h
    exact Or.inr (Or.inl ⟨'"', rfl, by decide, by rw [h]; rfl⟩)
  split
  · rename_i h
    exact Or.inr (Or.inl ⟨'\\', rfl, by decide, by rw [h]; rfl⟩)
  split
  · rename_i hquote hback h
    exact Or.inl ⟨rfl, h, hquote, hback⟩
  rename_i hlow
  split
  · rename_i h
    exact Or.inr (Or.inl ⟨'b', rfl, by decide, by rw [h]; rfl⟩)
  split
  · rename_i h
    exact Or.inr (Or.inl ⟨'f', rfl, by decide, by rw [h]; rfl⟩)
  split
  · rename_i h
    exact Or.inr (Or.inl ⟨'n', rfl, by decide, by rw [h]; rfl⟩)
  split
  · rename_i h
    exact Or.inr (Or.inl ⟨'r', rfl, by decide, by rw [h]; rfl⟩)
  split
  · rename_i h
    exact Or.inr (Or.inl ⟨'t', rfl, by decide, by rw [h]; rfl⟩)
  · exact Or.inr (Or.inr ⟨rfl, by omega⟩)

theorem closing?_escaped_append (c : Char) (cs : List Char) :
    closing? (escaped c ++ cs) = (closing? cs).map fun (s, r) => (escaped c ++ s, r) := by
  obtain ⟨heq, hlow, hquote, hback⟩ | ⟨e, heq, he, hshort⟩ | ⟨heq, hlow⟩ := escaped_cases c
  · have hplain : ¬c.toNat < 0x20 := Nat.not_lt.2 hlow
    rw [heq]
    simp [closing?, hback, hplain]
  · rw [heq]
    simp [closing?, he, hshort]
  · rw [heq]
    simp [closing?, hexUnit?_hexDigit hlow]

theorem unescape?_escaped_append (c : Char) (cs : List Char) :
    unescape? (escaped c ++ cs) = (unescape? cs).map (c :: ·) := by
  obtain ⟨heq, -, -, hback⟩ | ⟨e, heq, he, hshort⟩ | ⟨heq, hlow⟩ := escaped_cases c
  · rw [heq]
    simp [unescape?, hback]
  · rw [heq]
    simp [unescape?, he, hshort]
  · have hsmall : c.toNat < 0xD800 ∨ 0xDFFF < c.toNat := Or.inl (by omega)
    rw [heq]
    simp [unescape?, hexUnit?_hexDigit hlow, hsmall]

/-- A written string ends at its closing quotation mark. -/
theorem closing?_escaped (s rest : List Char) :
    closing? (s.flatMap escaped ++ '"' :: rest) = some (s.flatMap escaped, rest) := by
  induction s with
  | nil => rw [List.flatMap_nil, List.nil_append, closing?]
  | cons c s ih =>
    rw [List.flatMap_cons, List.append_assoc, closing?_escaped_append, ih]
    rfl

theorem unescape?_escaped (s : List Char) : unescape? (s.flatMap escaped) = some s := by
  induction s with
  | nil => rw [List.flatMap_nil, unescape?]
  | cons c s ih =>
    rw [List.flatMap_cons, unescape?_escaped_append, ih]
    rfl

/-! ## Tokens -/

mutual

/-- The tokens of a written value. -/
def tokens : Json → List Token
  | .null => [.null]
  | .bool b => [.bool b]
  | .number n => [.number n.numeral]
  | .string s => [.string (s.toList.flatMap escaped)]
  | .array items => .openArray :: itemTokens items ++ [.closeArray]
  | .object ms => .openObject :: memberTokens ms ++ [.closeObject]

/-- The tokens of the items of an array. -/
def itemTokens : List Json → List Token
  | [] => []
  | [v] => tokens v
  | v :: w :: rest => tokens v ++ .comma :: itemTokens (w :: rest)

/-- The tokens of the members of an object. -/
def memberTokens : List (String × Json) → List Token
  | [] => []
  | [(k, v)] => .string (k.toList.flatMap escaped) :: .colon :: tokens v
  | (k, v) :: m :: rest =>
    .string (k.toList.flatMap escaped) :: .colon :: tokens v ++ .comma :: memberTokens (m :: rest)

end

theorem tokens?_of_next? {c : Char} {r rest : List Char} {t : Token} (hspace : isSpace c = false)
    (h : Token.next? (c :: r) = some (t, rest)) :
    tokens? (c :: r) = (tokens? rest).map (t :: ·) := by
  rw [tokens?, hspace]
  simp only [Bool.false_eq_true, if_false]
  split
  · rename_i hnone
    rw [hnone] at h
    cases h
  · rename_i t' rest' hsome
    rw [hsome] at h
    cases h
    rfl

theorem tokens?_stringText (s : String) (rest : List Char) :
    tokens? (stringText s ++ rest) =
      (tokens? rest).map (Token.string (s.toList.flatMap escaped) :: ·) := by
  have hclose := closing?_escaped s.toList rest
  simp only [stringText, List.cons_append, List.append_assoc, List.nil_append]
  refine tokens?_of_next? (by decide) ?_
  rw [Token.next?, hclose]
  rfl

theorem ne_of_startsNumeral {c d : Char} (hc : c = '-' ∨ isDigit c = true) (hminus : d ≠ '-')
    (hdigit : isDigit d = false) : c ≠ d := by
  rintro rfl
  rcases hc with hc | hc
  · exact hminus hc
  · rw [hdigit] at hc
    cases hc

theorem next?_of_isDigit {c : Char} {r : List Char} (hc : c = '-' ∨ isDigit c = true) :
    Token.next? (c :: r) = (numeral? (c :: r)).map fun (n, rest) => (.number n, rest) := by
  have hne : ∀ d : Char, d ≠ '-' → isDigit d = false → c ≠ d := fun _ => ne_of_startsNumeral hc
  unfold Token.next?
  split
  · rename_i heq
    cases heq
  · rename_i heq
    exact absurd (List.cons.inj heq).1 (hne _ (by decide) (by decide))
  · rename_i heq
    exact absurd (List.cons.inj heq).1 (hne _ (by decide) (by decide))
  · rename_i heq
    exact absurd (List.cons.inj heq).1 (hne _ (by decide) (by decide))
  · rename_i heq
    exact absurd (List.cons.inj heq).1 (hne _ (by decide) (by decide))
  · rename_i heq
    obtain ⟨rfl, rfl⟩ := List.cons.inj heq
    have hmark : punctuation? c = none := by
      simp only [punctuation?]
      rw [if_neg (hne _ (by decide) (by decide)), if_neg (hne _ (by decide) (by decide)),
        if_neg (hne _ (by decide) (by decide)), if_neg (hne _ (by decide) (by decide)),
        if_neg (hne _ (by decide) (by decide)), if_neg (hne _ (by decide) (by decide))]
    rw [hmark]

theorem tokens?_numberText (n : Number) {rest : List Char} (hrest : EndsNumeral rest) :
    tokens? (numberText n ++ rest) = (tokens? rest).map (Token.number n.numeral :: ·) := by
  have hread := numeral?_chars n.proper_numeral hrest
  rw [numberText_eq]
  obtain ⟨c, r, hcons, hc⟩ : ∃ c r, n.numeral.chars = c :: r ∧ (c = '-' ∨ isDigit c = true) := by
    have hn := n.proper_numeral
    obtain ⟨d, tail, hd⟩ := List.exists_cons_of_ne_nil hn.whole_ne_nil
    have hdigit := hn.whole_digits d (by rw [hd]; exact List.mem_cons_self)
    unfold Numeral.chars
    rw [hd]
    cases n.numeral.negative with
    | true => exact ⟨'-', _, rfl, Or.inl rfl⟩
    | false => exact ⟨d, _, rfl, Or.inr hdigit⟩
  have hne : ∀ d : Char, d ≠ '-' → isDigit d = false → c ≠ d := fun _ => ne_of_startsNumeral hc
  have hspace : isSpace c = false := by
    simp [isSpace, hne ' ' (by decide) (by decide), hne '\t' (by decide) (by decide),
      hne '\n' (by decide) (by decide), hne '\r' (by decide) (by decide)]
  rw [hcons, List.cons_append] at hread ⊢
  refine tokens?_of_next? hspace ?_
  rw [next?_of_isDigit hc, hread]
  rfl

/-- A number ends before a punctuation mark. -/
theorem endsNumeral_cons {c : Char} {rest : List Char}
    (hc : isDigit c = false ∧ c ≠ '.' ∧ c ≠ 'e' ∧ c ≠ 'E') : EndsNumeral (c :: rest) := by
  rintro d hd
  obtain rfl := Option.some.inj hd
  exact hc

theorem endsNumeral_nil : EndsNumeral [] := by
  rintro c ⟨⟩

mutual

/-- The text of a value is cut into the tokens of the value, whatever follows that does not carry a
    number on. -/
theorem tokens?_chars_append (v : Json) {rest : List Char} (hrest : EndsNumeral rest) :
    tokens? (chars v ++ rest) = (tokens? rest).map (tokens v ++ ·) := by
  match v with
  | .null => exact tokens?_of_next? (by decide) rfl
  | .bool true => exact tokens?_of_next? (by decide) rfl
  | .bool false => exact tokens?_of_next? (by decide) rfl
  | .number n =>
    simp only [chars, tokens, tokens?_numberText n hrest]
    rfl
  | .string s =>
    simp only [chars, tokens, tokens?_stringText s rest]
    rfl
  | .array items =>
    have hends : EndsNumeral (']' :: rest) := endsNumeral_cons (by decide)
    have hitems := tokens?_itemChars_append items hends
    have hclose : Token.next? (']' :: rest) = some (.closeArray, rest) := rfl
    simp only [chars, tokens, List.cons_append, List.append_assoc, List.nil_append]
    rw [tokens?_of_next? (by decide) rfl, hitems, tokens?_of_next? (by decide) hclose,
      Option.map_map, Option.map_map]
    rfl
  | .object ms =>
    have hends : EndsNumeral ('\x7d' :: rest) := endsNumeral_cons (by decide)
    have hms := tokens?_memberChars_append ms hends
    have hclose : Token.next? ('\x7d' :: rest) = some (.closeObject, rest) := rfl
    simp only [chars, tokens, List.cons_append, List.append_assoc, List.nil_append]
    rw [tokens?_of_next? (by decide) rfl, hms, tokens?_of_next? (by decide) hclose,
      Option.map_map, Option.map_map]
    rfl

theorem tokens?_itemChars_append (items : List Json) {rest : List Char}
    (hrest : EndsNumeral rest) :
    tokens? (itemChars items ++ rest) = (tokens? rest).map (itemTokens items ++ ·) := by
  match items with
  | [] => simp [itemChars, itemTokens]
  | [v] =>
    simp only [itemChars, itemTokens]
    exact tokens?_chars_append v hrest
  | v :: w :: tail =>
    have hcomma : Token.next? (',' :: (itemChars (w :: tail) ++ rest)) =
        some (.comma, itemChars (w :: tail) ++ rest) := rfl
    simp only [itemChars, itemTokens, List.append_assoc, List.cons_append]
    rw [tokens?_chars_append v (endsNumeral_cons (by decide)), tokens?_of_next? (by decide) hcomma,
      tokens?_itemChars_append (w :: tail) hrest, Option.map_map, Option.map_map]
    rfl

theorem tokens?_memberChars_append (ms : List (String × Json)) {rest : List Char}
    (hrest : EndsNumeral rest) :
    tokens? (memberChars ms ++ rest) = (tokens? rest).map (memberTokens ms ++ ·) := by
  match ms with
  | [] => simp [memberChars, memberTokens]
  | [(k, v)] =>
    have hcolon : Token.next? (':' :: (chars v ++ rest)) = some (.colon, chars v ++ rest) := rfl
    simp only [memberChars, memberTokens, List.append_assoc, List.cons_append]
    rw [tokens?_stringText, tokens?_of_next? (by decide) hcolon, tokens?_chars_append v hrest,
      Option.map_map, Option.map_map]
    rfl
  | (k, v) :: m :: tail =>
    have hcolon : Token.next? (':' :: (chars v ++ ',' :: (memberChars (m :: tail) ++ rest))) =
        some (.colon, chars v ++ ',' :: (memberChars (m :: tail) ++ rest)) := rfl
    have hcomma : Token.next? (',' :: (memberChars (m :: tail) ++ rest)) =
        some (.comma, memberChars (m :: tail) ++ rest) := rfl
    simp only [memberChars, memberTokens, List.append_assoc, List.cons_append]
    rw [tokens?_stringText, tokens?_of_next? (by decide) hcolon,
      tokens?_chars_append v (endsNumeral_cons (by decide)), tokens?_of_next? (by decide) hcomma,
      tokens?_memberChars_append (m :: tail) hrest, Option.map_map, Option.map_map, Option.map_map,
      Option.map_map]
    rfl

end

/-- **The text of a value is cut into its tokens.** -/
theorem tokens?_chars (v : Json) : tokens? (chars v) = some (tokens v) := by
  have h := tokens?_chars_append v endsNumeral_nil
  rw [List.append_nil, tokens?, Option.map_some, List.append_nil] at h
  exact h

/-! ## Documents -/

mutual

/-- The tree that a written value spells. -/
def document : Json → Document
  | .null => .null
  | .bool b => .bool b
  | .number n => .number n.numeral
  | .string s => .string (s.toList.flatMap escaped)
  | .array items => .array (itemDocuments items)
  | .object ms => .object (memberDocuments ms)

/-- The trees of the items of an array. -/
def itemDocuments : List Json → List Document
  | [] => []
  | v :: rest => document v :: itemDocuments rest

/-- The trees of the members of an object. -/
def memberDocuments : List (String × Json) → List (List Char × Document)
  | [] => []
  | (k, v) :: rest => (k.toList.flatMap escaped, document v) :: memberDocuments rest

end

namespace Document

theorem run_firstItem (v : Json) (stack : List Frame) (ts : List Token) :
    run (.firstItem stack) (tokens v ++ ts) =
      run (.value (.array [] :: stack)) (tokens v ++ ts) := by
  cases v <;> simp only [tokens, List.cons_append, run_cons] <;> rfl

theorem run_firstName (m : String × Json) (ms : List (String × Json)) (stack : List Frame)
    (ts : List Token) :
    run (.firstName stack) (memberTokens (m :: ms) ++ ts) =
      run (.name stack []) (memberTokens (m :: ms) ++ ts) := by
  obtain ⟨k, v⟩ := m
  cases ms <;> simp only [memberTokens, List.cons_append, run_cons] <;> rfl

mutual

/-- **The tokens of a value drive the machine over the tree of the value**, inside any
containers. -/
theorem run_tokens (v : Json) (stack : List Frame) (ts : List Token) :
    run (.value stack) (tokens v ++ ts) = run (.after stack (document v)) ts := by
  match v with
  | .null => rfl
  | .bool b => rfl
  | .number n => rfl
  | .string s => rfl
  | .array [] => rfl
  | .array (v :: items) =>
    have hopen : run (.value stack) (tokens (.array (v :: items)) ++ ts) =
        run (.firstItem stack) (itemTokens (v :: items) ++ .closeArray :: ts) := by
      simp only [tokens, List.cons_append, List.append_assoc, List.nil_append, run_cons]
      rfl
    have hfirst : run (.firstItem stack) (itemTokens (v :: items) ++ .closeArray :: ts) =
        run (.value (.array [] :: stack)) (itemTokens (v :: items) ++ .closeArray :: ts) := by
      cases items <;> simp only [itemTokens, List.append_assoc, run_firstItem]
    rw [hopen, hfirst, run_itemTokens (List.cons_ne_nil v items)]
    rfl
  | .object [] => rfl
  | .object (m :: ms) =>
    have hopen : run (.value stack) (tokens (.object (m :: ms)) ++ ts) =
        run (.firstName stack) (memberTokens (m :: ms) ++ .closeObject :: ts) := by
      simp only [tokens, List.cons_append, List.append_assoc, List.nil_append, run_cons]
      rfl
    rw [hopen, run_firstName, run_memberTokens (List.cons_ne_nil m ms)]
    rfl

theorem run_itemTokens {items : List Json} (hne : items ≠ []) (stack : List Frame)
    (done : List Document) (ts : List Token) :
    run (.value (.array done :: stack)) (itemTokens items ++ .closeArray :: ts) =
      run (.after stack (.array (done.reverse ++ itemDocuments items))) ts := by
  match items with
  | [v] =>
    simp only [itemTokens, itemDocuments]
    rw [run_tokens v, run_cons]
    simp [step, endValue]
  | v :: w :: rest =>
    simp only [itemTokens, List.append_assoc, List.cons_append]
    rw [run_tokens v, run_cons]
    simp only [step, endValue, Option.bind_some]
    rw [run_itemTokens (List.cons_ne_nil w rest)]
    simp [itemDocuments]

theorem run_memberTokens {ms : List (String × Json)} (hne : ms ≠ []) (stack : List Frame)
    (done : List (List Char × Document)) (ts : List Token) :
    run (.name stack done) (memberTokens ms ++ .closeObject :: ts) =
      run (.after stack (.object (done.reverse ++ memberDocuments ms))) ts := by
  match ms with
  | [(k, v)] =>
    simp only [memberTokens, memberDocuments, List.cons_append, run_cons, step, Option.bind_some]
    rw [run_tokens v, run_cons]
    simp [step, endValue]
  | (k, v) :: m :: rest =>
    simp only [memberTokens, List.append_assoc, List.cons_append, run_cons, step, Option.bind_some]
    rw [run_tokens v, run_cons]
    simp only [step, endValue, Option.bind_some]
    rw [run_memberTokens (List.cons_ne_nil m rest)]
    simp [memberDocuments]

end

/-- **The text of a value spells the document of the value.** -/
theorem read?_chars (v : Json) : read? (chars v) = some (document v) := by
  have hrun := run_tokens v [] []
  rw [List.append_nil, run_nil] at hrun
  rw [read?, tokens?_chars, Option.bind_eq_bind, Option.bind_some, ofTokens?, hrun]
  rfl

end Document

/-! ## Values -/

mutual

/-- How deep arrays and objects nest in a value. -/
def depth : Json → Nat
  | .array items => itemDepth items + 1
  | .object ms => memberDepth ms + 1
  | _ => 0

/-- The depth of the deepest item. -/
def itemDepth : List Json → Nat
  | [] => 0
  | v :: rest => max (depth v) (itemDepth rest)

/-- The depth of the deepest member. -/
def memberDepth : List (String × Json) → Nat
  | [] => 0
  | (_, v) :: rest => max (depth v) (memberDepth rest)

end

mutual

/-- A value with the members of its objects merged under their names. -/
def merged : Json → Json
  | .array items => .array (mergedItems items)
  | .object ms => .object (Entries.ofPairs (mergedMembers ms))
  | v => v

/-- The items of an array, each with its objects merged. -/
def mergedItems : List Json → List Json
  | [] => []
  | v :: rest => merged v :: mergedItems rest

/-- The members of an object, each with its objects merged. -/
def mergedMembers : List (String × Json) → List (String × Json)
  | [] => []
  | (k, v) :: rest => (k, merged v) :: mergedMembers rest

end

namespace Document

mutual

/-- **The document of a value has that value**, if it does not nest too deep. -/
theorem value?_document (v : Json) {d : Nat} (hd : depth v ≤ d) :
    value? d (document v) = some (merged v) := by
  match v with
  | .null => simp only [document, value?, merged]
  | .bool b => simp only [document, value?, merged]
  | .number n => simp only [document, value?, merged, Number.ofNumeral?_numeral, Option.map_some]
  | .string s =>
    simp only [document, value?, merged, unescape?_escaped, Option.map_some, String.ofList_toList]
  | .array items =>
    rw [depth] at hd
    obtain ⟨d, rfl⟩ := Nat.exists_eq_add_of_le' (Nat.le_of_add_left_le hd)
    simp only [document, value?, merged, items?_itemDocuments items (Nat.le_of_succ_le_succ hd),
      Option.map_some]
  | .object ms =>
    rw [depth] at hd
    obtain ⟨d, rfl⟩ := Nat.exists_eq_add_of_le' (Nat.le_of_add_left_le hd)
    simp only [document, value?, merged, pairs?_memberDocuments ms (Nat.le_of_succ_le_succ hd),
      Option.map_some]

theorem items?_itemDocuments (items : List Json) {d : Nat} (hd : itemDepth items ≤ d) :
    items? d (itemDocuments items) = some (mergedItems items) := by
  match items with
  | [] => simp only [itemDocuments, items?, mergedItems]
  | v :: rest =>
    rw [itemDepth, Nat.max_le] at hd
    simp only [itemDocuments, items?, mergedItems, value?_document v hd.1,
      items?_itemDocuments rest hd.2]

theorem pairs?_memberDocuments (ms : List (String × Json)) {d : Nat} (hd : memberDepth ms ≤ d) :
    pairs? d (memberDocuments ms) = some (mergedMembers ms) := by
  match ms with
  | [] => simp only [memberDocuments, pairs?, mergedMembers]
  | (k, v) :: rest =>
    rw [memberDepth, Nat.max_le] at hd
    simp only [memberDocuments, pairs?, mergedMembers, value?_document v hd.1,
      pairs?_memberDocuments rest hd.2, unescape?_escaped, String.ofList_toList]

end

end Document

/-- **The text of an object is read as that object**, if it does not nest too deep. -/
theorem readObject?_text {ms : Members} (h : depth (.object ms) ≤ maxDepth) :
    readObject? (text (.object ms)) = some (Entries.ofPairs (mergedMembers ms)) := by
  rw [readObject?, text, String.toList_ofList, Document.read?_chars, Option.bind_eq_bind,
    Option.bind_some, Document.object?, Document.value?_document _ h]
  rfl

end Logbook.Json
