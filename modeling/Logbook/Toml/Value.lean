import Logbook.Toml.Scalar
import Logbook.Toml.Table

/-!
# TOML values

A value is read by a machine that takes one token at a time and keeps the arrays and inline tables
that are still open. Line ends and blanks may stand anywhere between the parts of both, though no
line end within a key, and a comma after the last part.
-/

namespace Logbook.Toml

/-! ## Keys -/

/-- A part of a key. -/
inductive KeyPart where
  | name (s : String)
  | dot
  deriving DecidableEq

/-- A character of a bare key. -/
def isBareChar (c : Char) : Bool :=
  c.isAlphanum || c == '_' || c == '-'

/-- The bare name that some characters are, latest first, if there are any. -/
def bareName (seen : List Char) : List KeyPart :=
  if seen.isEmpty then [] else [.name (String.ofList seen.reverse)]

/-- The names and dots of a word, after the characters `seen` of a name, latest first. -/
def wordParts? (seen : List Char) : List Char → Option (List KeyPart)
  | [] => some (bareName seen)
  | c :: r =>
    if c = '.' then (wordParts? [] r).map fun parts => bareName seen ++ .dot :: parts
    else if isBareChar c then wordParts? (c :: seen) r
    else none

/-- The parts of a key that a token is. -/
def Token.keyParts? : Token → Option (List KeyPart)
  | .blank => some []
  | .text true content => some [.name (String.ofList content)]
  | .word cs => wordParts? [] cs
  | _ => none

/-- The names of a key, which have dots between them. -/
def names? : List KeyPart → Option (List String)
  | [.name n] => some [n]
  | .name n :: .dot :: rest => (names? rest).map (n :: ·)
  | _ => none

/-- How many names a key may have, and how deep arrays and inline tables may nest. -/
def maxDepth : Nat := 80

/-- The key that a sequence of tokens spells. -/
def key? (ts : List Token) : Option (List String) :=
  ((ts.mapM Token.keyParts?).bind fun parts => names? parts.flatten).filter (·.length ≤ maxDepth)

/-! ## The reading machine -/

/-- An array or inline table that is still open, with its finished parts, the latest first. -/
inductive Frame where
  | array (done : List Setting)
  /-- An inline table in the middle of the entry with this key. -/
  | inline (done : List (List String × Setting)) (key : List String)

/-- What the machine waits for, inside what is open, the innermost first. -/
inductive State where
  /-- A value. -/
  | value (stack : List Frame)
  /-- The next item of an array, or its end. -/
  | item (stack : List Frame) (done : List Setting)
  /-- The next key of an inline table, of which some tokens are read, or its end. -/
  | key (stack : List Frame) (done : List (List String × Setting)) (read : List Token)
  /-- The equals sign after a key of an inline table and a line end. -/
  | equals (stack : List Frame) (done : List (List String × Setting)) (key : List String)
  /-- Whatever may follow a finished value. -/
  | after (stack : List Frame) (v : Setting)

/-- A token where a value begins. -/
def beginValue (stack : List Frame) : Token → Option State
  | .text _ content => some (.after stack (.text (String.ofList content)))
  | .word cs => (scalar? cs).map (.after stack)
  | .mark c =>
    if maxDepth ≤ stack.length then none
    else if c = '[' then some (.item stack [])
    else if c = '\x7b' then some (.key stack [] [])
    else none
  | _ => none

/-- The value of an inline table with these entries, the latest first. -/
def inlineTable? (done : List (List String × Setting)) : Option Setting :=
  (ofAssignments? done.reverse).map fun es => .table (Node.settings es)

/-- A punctuation mark after a finished value. -/
def endValue (v : Setting) (c : Char) : List Frame → Option State
  | .array done :: stack =>
    if c = ',' then some (.item stack (v :: done))
    else if c = ']' then some (.after stack (.array (v :: done).reverse))
    else none
  | .inline done key :: stack =>
    if c = ',' then some (.key stack ((key, v) :: done) [])
    else if c = '\x7d' then (inlineTable? ((key, v) :: done)).map (.after stack)
    else none
  | [] => none

/-- A line end, which may stand only inside of an array or inline table. -/
def breakLine : State → Option State
  | .value [] => none
  | .after [] _ => none
  | .key stack done (t :: read) => (key? (t :: read).reverse).map (.equals stack done)
  | s => some s

/-- One token that is neither a blank nor a line end. -/
def stepOn : State → Token → Option State
  | .value stack, t => beginValue stack t
  | .item stack done, .mark ']' => some (.after stack (.array done.reverse))
  | .item stack done, t => beginValue (.array done :: stack) t
  | .key stack done [], .mark '\x7d' => (inlineTable? done).map (.after stack)
  | .key stack done read, .mark '=' =>
    (key? read.reverse).map fun key => .value (.inline done key :: stack)
  | .key stack done read, t => some (.key stack done (t :: read))
  | .equals stack done key, .mark '=' => some (.value (.inline done key :: stack))
  | .equals _ _ _, _ => none
  | .after stack v, .mark c => endValue v c stack
  | .after _ _, _ => none

/-- One token. -/
def step (s : State) : Token → Option State
  | .blank => some s
  | .newline => breakLine s
  | t => stepOn s t

/-- All tokens of a list. -/
def run (s : State) (ts : List Token) : Option State :=
  ts.foldlM step s

/-- The value, if the machine may stop here. -/
def State.finished? : State → Option Setting
  | .after [] v => some v
  | _ => none

/-- The value that a sequence of tokens spells. -/
def value? (ts : List Token) : Option Setting :=
  run (.value []) ts >>= State.finished?

end Logbook.Toml
