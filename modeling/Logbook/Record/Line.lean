import Logbook.Record
import Logbook.Text.Casing

/-!
# Records as lines

The two ways to print a record, a line for the eye and its flat object, and the words for the name
of a format that there is not. That name stands between quotation marks, with every character that
would not show spelled by an escape.
-/

namespace Logbook

namespace Text

/-- The lower-case hexadecimal digits of a number. -/
def hexDigits (n : Nat) : List Char :=
  Nat.toDigits 16 n

/-- A character as quoted text spells it. -/
def quotedChar (c : Char) : List Char :=
  if c = '"' then ['\\', '"']
  else if c = '\\' then ['\\', '\\']
  else if c = '\n' then ['\\', 'n']
  else if c = '\r' then ['\\', 'r']
  else if c = '\t' then ['\\', 't']
  else if c.toNat = 0 then ['\\', '0']
  else if 0x20 ≤ c.toNat ∧ c.toNat < 0x7F then [c]
  else if inRanges unprintableRanges c.toNat then
    ['\\', 'u', '\x7b'] ++ hexDigits c.toNat ++ ['\x7d']
  else [c]

/-- A text between quotation marks. -/
def quoted (s : String) : String :=
  String.ofList (['"'] ++ s.toList.flatMap quotedChar ++ ['"'])

end Text

/-- How a record is printed. -/
inductive LineFormat where
  /-- `timestamp [LEVEL] service: message`. -/
  | raw
  /-- The record as one flat object. -/
  | jsonl
  deriving DecidableEq

/-- A name that is none of a format, in lower case. -/
structure UnknownFormat where
  name : String
  deriving DecidableEq

namespace UnknownFormat

/-- The wording of the refusal. -/
def message (e : UnknownFormat) : String :=
  "unknown output format " ++ Text.quoted e.name ++ " (expected raw or jsonl)"

end UnknownFormat

namespace LineFormat

/-- The name of a format. -/
def name : LineFormat → String
  | .raw => "raw"
  | .jsonl => "jsonl"

/-- The format with a name, which may be in any case; only ASCII letters have their case
    ignored. -/
def parse (s : String) : Except UnknownFormat LineFormat :=
  let lowered := String.ofList (s.toList.map Char.toLower)
  if lowered = "raw" then .ok .raw
  else if lowered = "jsonl" ∨ lowered = "json" then .ok .jsonl
  else .error ⟨lowered⟩

end LineFormat

namespace Record

/-- A record as a line, without its end. -/
def line (r : Record) : LineFormat → String
  | .raw => r.timestamp.text ++ " [" ++ String.ofList (Text.upper r.level.toList) ++ "] " ++
      r.service ++ ": " ++ r.message
  | .jsonl => Json.text r.flat

end Record

end Logbook
