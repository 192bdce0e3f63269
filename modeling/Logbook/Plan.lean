import Logbook.Criteria
import Logbook.Query.Scan

/-!
# Plans

A search either runs in the store alone or scans a bounded window of candidates. A query with any
of the characters `:`, `-`, `*` and `"` is advanced: only its terms say what it means. Then the
store is asked for the rows that meet the restriction, up to a budget, and terms, offset and limit
apply to what it gives. Any other query is a piece of text that the store looks for.

Results:

* `build_direct`, `build_scan`: which plan is made.
-/

namespace Logbook

/-- How far a scan looks. -/
structure ScanLimits where
  /-- The least number of candidates that a scan looks at. -/
  floor : Nat
  /-- The limit that stands in for a missing one. -/
  fallback : Nat
  deriving DecidableEq

/-- Whether only the terms of a query say what it means. -/
def isAdvanced (query : String) : Bool :=
  query.toList.any fun c => c == ':' || c == '-' || c == '*' || c == '"'

namespace Criteria

/-- Whether there is a query and it is advanced. -/
def isAdvanced (c : Criteria) : Bool :=
  c.query?.any Logbook.isAdvanced

end Criteria

namespace ScanLimits

/-- The number of candidates that a scan looks at for a page of this limit. -/
def budget (limits : ScanLimits) (limit : Option Nat) : Nat :=
  max (limit.getD limits.fallback) limits.floor

end ScanLimits

/-- How a search is carried out. -/
inductive Plan where
  /-- The store does everything. -/
  | direct (selection : Selection)
  /-- The store gives up to `budget` candidates; terms, offset and limit apply to them. -/
  | scan (restriction : Restriction) (budget : Nat) (terms : List Term) (limit : Option Nat)
    (offset : Nat)
  deriving DecidableEq

namespace Plan

/-- The plan for criteria. -/
def build (limits : ScanLimits) (c : Criteria) : Plan :=
  match c.query? with
  | some query =>
    if isAdvanced query then
      .scan c.restriction (limits.budget c.limit) (Query.terms query) c.limit (c.offset.getD 0)
    else .direct ⟨c.restriction, some query, c.limit, c.offset⟩
  | none => .direct ⟨c.restriction, none, c.limit, c.offset⟩

/-- What the store is asked for. A scan asks for no text and no offset. -/
def selection : Plan → Selection
  | .direct selection => selection
  | .scan restriction budget _ _ _ => ⟨restriction, none, some budget, none⟩

/-- Whether the plan scans candidates. -/
def isScan : Plan → Bool
  | .direct _ => false
  | .scan .. => true

theorem build_direct (limits : ScanLimits) {c : Criteria} (h : c.isAdvanced = false) :
    build limits c = .direct ⟨c.restriction, c.query?, c.limit, c.offset⟩ := by
  unfold build
  unfold Criteria.isAdvanced at h
  split
  · rename_i query hq
    rw [hq] at h
    simp only [Option.any_some] at h
    rw [if_neg (by simp [h]), hq]
  · rename_i hq
    rw [hq]

theorem build_scan (limits : ScanLimits) {c : Criteria} {query : String}
    (hq : c.query? = some query) (h : isAdvanced query = true) :
    build limits c = .scan c.restriction (limits.budget c.limit) (Query.terms query) c.limit
      (c.offset.getD 0) := by
  simp [build, hq, h]

end Plan

end Logbook
