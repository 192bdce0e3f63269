import Logbook.Json.Token

/-!
# JSON documents

The tree that a JSON text spells, before anything is made of its strings and numbers. A document
may nest to any depth, hold numbers of any size and halves of surrogate pairs; only what a reader
takes out of it is held to the limits of values.

A document is read by a machine that takes one token at a time and keeps the containers that are
still open, so reading is a fold over the tokens.
-/

namespace Logbook.Json

/-- A JSON text as a tree. -/
inductive Document where
  | null
  | bool (b : Bool)
  | number (n : Number.Numeral)
  | string (source : List Char)
  | array (items : List Document)
  | object (members : List (List Char × Document))

namespace Document

/-! ## The reading machine -/

/-- A container that is still open, with its finished parts, the latest first. -/
inductive Frame where
  | array (done : List Document)
  /-- An object in the middle of the member with this name. -/
  | object (done : List (List Char × Document)) (name : List Char)

/-- What the machine waits for, inside the containers that are open, the innermost first. -/
inductive State where
  /-- A value. -/
  | value (stack : List Frame)
  /-- The first item of an array, or its end. -/
  | firstItem (stack : List Frame)
  /-- The first name of an object, or its end. -/
  | firstName (stack : List Frame)
  /-- The next name of an object. -/
  | name (stack : List Frame) (done : List (List Char × Document))
  /-- The colon after a name. -/
  | colon (stack : List Frame) (done : List (List Char × Document)) (name : List Char)
  /-- Whatever may follow a finished value. -/
  | after (stack : List Frame) (doc : Document)

/-- A token where a value may begin. -/
def beginValue (stack : List Frame) : Token → Option State
  | .null => some (.after stack .null)
  | .bool b => some (.after stack (.bool b))
  | .number n => some (.after stack (.number n))
  | .string s => some (.after stack (.string s))
  | .openArray => some (.firstItem stack)
  | .openObject => some (.firstName stack)
  | _ => none

/-- A token after a finished value. -/
def endValue (doc : Document) : List Frame → Token → Option State
  | .array done :: stack, .comma => some (.value (.array (doc :: done) :: stack))
  | .array done :: stack, .closeArray => some (.after stack (.array (doc :: done).reverse))
  | .object done name :: stack, .comma => some (.name stack ((name, doc) :: done))
  | .object done name :: stack, .closeObject =>
    some (.after stack (.object ((name, doc) :: done).reverse))
  | _, _ => none

/-- One token. -/
def step : State → Token → Option State
  | .value stack, t => beginValue stack t
  | .firstItem stack, .closeArray => some (.after stack (.array []))
  | .firstItem stack, t => beginValue (.array [] :: stack) t
  | .firstName stack, .closeObject => some (.after stack (.object []))
  | .firstName stack, .string s => some (.colon stack [] s)
  | .firstName _, _ => none
  | .name stack done, .string s => some (.colon stack done s)
  | .name _ _, _ => none
  | .colon stack done name, .colon => some (.value (.object done name :: stack))
  | .colon _ _ _, _ => none
  | .after stack doc, t => endValue doc stack t

/-- All tokens of a list. -/
def run (s : State) (ts : List Token) : Option State :=
  ts.foldlM step s

/-- The document, if the machine may stop here. -/
def State.finished? : State → Option Document
  | .after [] doc => some doc
  | _ => none

/-- The document that a sequence of tokens spells. -/
def ofTokens? (ts : List Token) : Option Document :=
  run (.value []) ts >>= State.finished?

/-- The document that a text spells. -/
def read? (cs : List Char) : Option Document :=
  tokens? cs >>= ofTokens?

@[simp] theorem run_nil (s : State) : run s [] = some s := rfl

theorem run_cons (s : State) (t : Token) (ts : List Token) :
    run s (t :: ts) = (step s t).bind (run · ts) :=
  List.foldlM_cons

theorem run_append (s : State) (a b : List Token) : run s (a ++ b) = (run s a).bind (run · b) :=
  List.foldlM_append

/-! ## Taking a document apart -/

/-- The text that a string document stands for. -/
def text? : Document → Option String
  | .string source => (unescape? source).map String.ofList
  | _ => none

/-- The members of an object document under the texts of their names. -/
def members? : Document → Option (List (String × Document))
  | .object ms => ms.mapM fun m => (unescape? m.1).map fun name => (String.ofList name, m.2)
  | _ => none

end Document

end Logbook.Json
