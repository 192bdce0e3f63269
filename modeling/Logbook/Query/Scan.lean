import Logbook.Text.Lines

/-!
# Queries

A query is a list of terms, all of which have to hold. A term tests one field for equality, one
field for a part, or all fields for a part, and may be negated.

Terms are separated by spaces, and only by the space character itself. A term may begin with a
minus sign that negates it. A colon outside quotation marks and before the first space outside
them makes what stands before it a key; the value is then a quoted text, a part between asterisks
or a word. Without such a colon the term is a quoted text or a word. Reading never fails: a quoted
text without an end runs to the end of the query, and an asterisk without a partner belongs to the
value.

Results:

* `splitKey?_append`: a key and what follows its colon make up the text.
* `termAt_length`: reading a term consumes something.
-/

namespace Logbook

/-! ## Terms -/

/-- What a term tests. -/
inductive Term.Kind where
  /-- Some field contains the value. -/
  | text
  /-- The field with this name equals the value. -/
  | equals (key : String)
  /-- The field with this name contains the value. -/
  | contains (key : String)
  deriving DecidableEq

/-- A search term. -/
structure Term where
  kind : Term.Kind
  value : String
  negated : Bool
  deriving DecidableEq

namespace Term

/-- The name of the field that a term tests, if it tests one field only. -/
def key? (t : Term) : Option String :=
  match t.kind with
  | .text => none
  | .equals key => some key
  | .contains key => some key

/-- The term with the opposite answer. -/
def negate (t : Term) : Term :=
  { t with negated := !t.negated }

end Term

namespace Query

/-! ## Parts of a term -/

/-- The text up to the first colon that stands outside quotation marks and before the first space
    outside them, and what follows the colon. -/
def splitKey? (inQuotes : Bool) : List Char → Option (List Char × List Char)
  | [] => none
  | c :: rest =>
    if c = '"' then (splitKey? (!inQuotes) rest).map fun (k, r) => (c :: k, r)
    else if c = ':' ∧ inQuotes = false then some ([], rest)
    else if c = ' ' ∧ inQuotes = false then none
    else (splitKey? inQuotes rest).map fun (k, r) => (c :: k, r)

/-- A quoted text after its opening mark, and what follows the closing one. -/
def quotedText (cs : List Char) : List Char × List Char :=
  (cs.takeWhile (· != '"'), (cs.dropWhile (· != '"')).drop 1)

/-- A word, up to the next space, and what follows it. -/
def word (cs : List Char) : List Char × List Char :=
  (cs.takeWhile (· != ' '), cs.dropWhile (· != ' '))

/-- A part after its opening asterisk: up to the next asterisk or space. -/
def starredText (cs : List Char) : List Char × List Char :=
  (cs.takeWhile fun c => c != ' ' && c != '*', cs.dropWhile fun c => c != ' ' && c != '*')

/-- The term with this kind and value that is not negated, and what follows it. -/
def plainTerm (kind : Term.Kind) (found : List Char × List Char) : Term × List Char :=
  (⟨kind, String.ofList found.1, false⟩, found.2)

/-- The term of a key, by what follows the colon. -/
def keyedTerm (key : String) : List Char → Term × List Char
  | '"' :: rest => plainTerm (.equals key) (quotedText rest)
  | '*' :: rest =>
    match starredText rest with
    | (part, '*' :: rest') => plainTerm (.contains key) (part, rest')
    | (part, rest') => plainTerm (.equals key) ('*' :: part, rest')
  | cs => plainTerm (.equals key) (word cs)

/-- A term without a key. -/
def textTerm : List Char → Term × List Char
  | '"' :: rest => plainTerm .text (quotedText rest)
  | cs => plainTerm .text (word cs)

/-- A term without its sign. -/
def bareTerm (cs : List Char) : Term × List Char :=
  match splitKey? false cs with
  | some (key, rest) => keyedTerm (String.ofList (Text.trim key)) rest
  | none => textTerm cs

/-- The term at the front of a text that does not begin with a space, and what follows it. -/
def termAt : List Char → Term × List Char
  | '-' :: rest =>
    match bareTerm rest with
    | (t, rest') => ({ t with negated := true }, rest')
  | cs => bareTerm cs

/-! ## Progress -/

theorem splitKey?_append {q : Bool} {cs key rest : List Char}
    (h : splitKey? q cs = some (key, rest)) : cs = key ++ ':' :: rest := by
  induction cs generalizing q key with
  | nil => cases h
  | cons c r ih =>
    unfold splitKey? at h
    split at h
    · obtain ⟨⟨k, r'⟩, hk, he⟩ := Option.map_eq_some_iff.1 h
      cases he
      rw [List.cons_append, ← ih hk]
    · split at h
      · rename_i hc
        cases h
        rw [hc.1, List.nil_append]
      · split at h
        · cases h
        · obtain ⟨⟨k, r'⟩, hk, he⟩ := Option.map_eq_some_iff.1 h
          cases he
          rw [List.cons_append, ← ih hk]

theorem quotedText_length (cs : List Char) : (quotedText cs).2.length ≤ cs.length := by
  have := (List.dropWhile_suffix (l := cs) (· != '"')).length_le
  simp only [quotedText, List.length_drop]
  omega

theorem word_length (cs : List Char) : (word cs).2.length ≤ cs.length :=
  (List.dropWhile_suffix _).length_le

theorem keyedTerm_length (key : String) (cs : List Char) :
    (keyedTerm key cs).2.length ≤ cs.length := by
  unfold keyedTerm
  split
  · exact Nat.le_succ_of_le (quotedText_length _)
  · rename_i rest
    have hl : (starredText rest).2.length ≤ rest.length := (List.dropWhile_suffix _).length_le
    split <;> rename_i hs <;> rw [hs] at hl <;> simp [plainTerm] at hl ⊢ <;> omega
  · exact word_length _

theorem textTerm_length (cs : List Char) : (textTerm cs).2.length ≤ cs.length := by
  unfold textTerm
  split
  · exact Nat.le_succ_of_le (quotedText_length _)
  · exact word_length _

theorem bareTerm_length (cs : List Char) : (bareTerm cs).2.length ≤ cs.length := by
  unfold bareTerm
  split
  · rename_i key rest h
    have := keyedTerm_length (String.ofList (Text.trim key)) rest
    have hl := congrArg List.length (splitKey?_append h)
    simp only [List.length_append, List.length_cons] at hl
    omega
  · exact textTerm_length cs

theorem textTerm_length_lt {c : Char} (hc : c ≠ ' ') (cs : List Char) :
    (textTerm (c :: cs)).2.length < (c :: cs).length := by
  unfold textTerm
  split
  · rename_i rest heq
    cases heq
    exact Nat.lt_succ_of_le (quotedText_length _)
  · have hd : (word (c :: cs)).2 = cs.dropWhile (· != ' ') := by
      simp [word, hc]
    simp only [plainTerm, hd]
    exact Nat.lt_succ_of_le (List.dropWhile_suffix _).length_le

theorem termAt_length {c : Char} (hc : c ≠ ' ') (cs : List Char) :
    (termAt (c :: cs)).2.length < (c :: cs).length := by
  unfold termAt
  split
  · rename_i rest heq
    cases heq
    exact Nat.lt_succ_of_le (bareTerm_length _)
  · unfold bareTerm
    split
    · rename_i key rest h
      have := keyedTerm_length (String.ofList (Text.trim key)) rest
      have hl := congrArg List.length (splitKey?_append h)
      simp only [List.length_append, List.length_cons] at hl
      simp only [List.length_cons]
      omega
    · exact textTerm_length_lt hc cs

/-! ## Queries -/

/-- The terms of a text. -/
def termsOf : List Char → List Term
  | [] => []
  | c :: cs => if c = ' ' then termsOf cs else (termAt (c :: cs)).1 :: termsOf (termAt (c :: cs)).2
termination_by cs => cs.length
decreasing_by
  · simp
  · exact termAt_length ‹_› cs

/-- The terms of a query. -/
def terms (query : String) : List Term :=
  termsOf query.toList

@[simp] theorem termsOf_nil : termsOf [] = [] := by
  simp [termsOf]

theorem termsOf_space (cs : List Char) : termsOf (' ' :: cs) = termsOf cs := by
  simp [termsOf]

theorem termsOf_cons {c : Char} (hc : c ≠ ' ') (cs : List Char) :
    termsOf (c :: cs) = (termAt (c :: cs)).1 :: termsOf (termAt (c :: cs)).2 := by
  rw [termsOf, if_neg hc]

end Query

end Logbook
