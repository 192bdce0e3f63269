import Logbook.Json.Reader
import Logbook.Json.Printer
import Logbook.Time.Timestamp

/-!
# Log records and the rows that keep them

A record has five fields of its own, its header, and whatever else its producer sent, its
attributes. An attribute with the name of a header field is hidden behind that field. A store keeps
a record as a row: the header as it is and the attributes as one JSON text, which is also where a
search for a piece of text looks.

Results:

* `field?_of_canonical`, `field?_of_not_canonical`: where a field is looked up.
* `names_fields`: the names of the fields of a record in order.
-/

namespace Logbook

/-- The fields that every record has. -/
structure Header where
  id : String
  timestamp : Timestamp
  message : String
  level : String
  service : String
  deriving DecidableEq

namespace Header

/-- The names of the header fields in order. -/
def names : List String := ["id", "timestamp", "message", "level", "service"]

/-- The header fields in order. -/
def members (h : Header) : Json.Members :=
  [("id", .string h.id), ("timestamp", .string h.timestamp.text), ("message", .string h.message),
    ("level", .string h.level), ("service", .string h.service)]

theorem names_members (h : Header) : h.members.names = names := rfl

/-- The header with these fields in order. -/
def ofTexts? : List String → Option Header
  | [id, timestamp, message, level, service] => some ⟨id, ⟨timestamp⟩, message, level, service⟩
  | _ => none

end Header

/-- A log record. -/
structure Record extends Header where
  attributes : Json.Members
  deriving BEq

namespace Record

/-- Whether a name is that of a header field. -/
def isCanonical (name : String) : Bool :=
  Header.names.contains name

/-- The field with this name: a header field, else an attribute. -/
def field? (r : Record) (name : String) : Option Json :=
  if isCanonical name then r.members.get? name else r.attributes.get? name

/-- All fields: those of the header, then the attributes that are not hidden. -/
def fields (r : Record) : Json.Members :=
  r.members ++ r.attributes.filter fun m => !isCanonical m.1

/-- The record as one flat object: the header fields, and then the attributes put one after the
    other, a hidden one being passed over. -/
def flat (r : Record) : Json :=
  .object <| r.attributes.foldl
    (fun (ms : Json.Members) m => if isCanonical m.1 then ms else ms.put m.1 m.2) r.members

/-- The record as an object that holds its attributes apart. -/
def json (r : Record) : Json :=
  .object (r.members ++ [("attributes", .object r.attributes)])

theorem field?_of_canonical (r : Record) {name : String} (h : name ∈ Header.names) :
    r.field? name = r.members.get? name := by
  simp [field?, isCanonical, h]

theorem field?_of_not_canonical (r : Record) {name : String} (h : name ∉ Header.names) :
    r.field? name = r.attributes.get? name := by
  simp [field?, isCanonical, h]

theorem names_fields (r : Record) :
    r.fields.names = Header.names ++ r.attributes.names.filter fun n => !isCanonical n := by
  simp [fields, Entries.names, List.filter_map, Header.names, Header.members,
    Function.comp_def]

/-! ## Reading -/

/-- How deep the attributes of a record may nest when the record itself is the outermost
    container. -/
def attributeDepth : Nat := Json.maxDepth - 1

/-- The record that a document spells; attributes may be missing. -/
def ofDocument? (doc : Json.Document) : Option Record := do
  let parts ← doc.parts? (Header.names ++ ["attributes"])
  let texts ← (parts.take 5).mapM fun p => p >>= Json.Document.text?
  let header ← Header.ofTexts? texts
  match parts.drop 5 with
  | [some doc] => (doc.object? attributeDepth).map (⟨header, ·⟩)
  | _ => some ⟨header, []⟩

/-- The record that a JSON text spells. -/
def read? (s : String) : Option Record :=
  Json.Document.read? s.toList >>= ofDocument?

end Record

/-! ## Rows -/

/-- A record as a store keeps it. -/
structure Row extends Header where
  /-- The attributes as a JSON text. -/
  data : String
  deriving DecidableEq

namespace Row

/-- The row of a record. -/
def ofRecord (r : Record) : Row :=
  ⟨r.toHeader, Json.text (.object r.attributes)⟩

/-- The record of a row; `none` if its data do not spell an object. Empty data are no
    attributes. -/
def toRecord? (row : Row) : Option Record :=
  if row.data = "" then some ⟨row.toHeader, []⟩
  else (Json.readObject? row.data).map (⟨row.toHeader, ·⟩)

/-- The number of bytes in the six texts of a row. -/
def byteLength (row : Row) : Nat :=
  row.id.utf8ByteSize + row.timestamp.text.utf8ByteSize + row.message.utf8ByteSize +
    row.level.utf8ByteSize + row.service.utf8ByteSize + row.data.utf8ByteSize

/-- The row as an object. -/
def json (row : Row) : Json :=
  .object (row.members ++ [("data", .string row.data)])

/-- The row that a document spells. -/
def ofDocument? (doc : Json.Document) : Option Row := do
  let parts ← doc.parts? (Header.names ++ ["data"])
  let texts ← parts.mapM fun p => p >>= Json.Document.text?
  let header ← Header.ofTexts? (texts.take 5)
  match texts.drop 5 with
  | [data] => some ⟨header, data⟩
  | _ => none

/-- The row that a JSON text spells. -/
def read? (s : String) : Option Row :=
  Json.Document.read? s.toList >>= ofDocument?

end Row

/-! ## Facets -/

/-- The fields of a row whose distinct values a store lists. -/
inductive Facet where
  | level
  | service
  deriving DecidableEq

/-- The value of a facet in a row. -/
def Facet.of : Facet → Row → String
  | .level, row => row.level
  | .service, row => row.service

end Logbook
