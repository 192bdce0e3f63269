import Logbook.Query.Scan
import Logbook.Record
import Logbook.Text.Casing

/-!
# Matching records

A term is tested without regard to case and then inverted if it is negated, so a negated term also
holds of records that lack its field.

Results:

* `holds_negate`: a term and its negation hold of complementary records.
* `filter_append`: filtering by two lists of terms is filtering twice.
-/

namespace Logbook

namespace Term

/-- What a term tests, before its negation: equality or containment of the shown text of fields,
    without regard to case. A field that is null shows no text to a term that searches all
    fields. -/
def hits (t : Term) (r : Record) : Bool :=
  match t.kind with
  | .equals key => (r.field? key).any fun v => Text.folded v.display == Text.folded t.value
  | .contains key => (r.field? key).any fun v => Text.occursFolded t.value v.display
  | .text => r.fields.any fun m =>
    match m.2 with
    | .null => false
    | v => Text.occursFolded t.value v.display

/-- Whether a term holds of a record. -/
def holds (t : Term) (r : Record) : Bool :=
  t.hits r != t.negated

theorem holds_negate (t : Term) (r : Record) : t.negate.holds r = !t.holds r := by
  change (t.hits r != !t.negated) = !(t.hits r != t.negated)
  cases t.hits r <;> cases t.negated <;> rfl

end Term

namespace Query

/-- Whether all terms hold of a record. -/
def holds (ts : List Term) (r : Record) : Bool :=
  ts.all (·.holds r)

/-- The records of which all terms hold, in order. -/
def filter (ts : List Term) (rs : List Record) : List Record :=
  rs.filter (holds ts)

/-- The records that a query selects. -/
def select (query : String) (rs : List Record) : List Record :=
  filter (terms query) rs

theorem holds_append (a b : List Term) (r : Record) :
    holds (a ++ b) r = (holds a r && holds b r) :=
  List.all_append

theorem filter_append (a b : List Term) (rs : List Record) :
    filter (a ++ b) rs = filter b (filter a rs) := by
  simp only [filter, List.filter_filter]
  congr 1
  funext r
  rw [holds_append, Bool.and_comm]

end Query

end Logbook
