/-!
# Named entries in order

Values under names, in the order in which the names were first put.

Results:

* `get?_put_self`: reading an entry back after it was put.
* `get?_eq_some_iff`: reading entries that have each name once.
* `get?_filter`: choosing entries by name keeps the values of the names chosen.
* `names_put`: putting an entry keeps the order of the names and adds a new name at the end.
* `filter_put`: putting an entry leaves the others as they are.
-/

namespace Logbook

/-- Values under names, in order. -/
abbrev Entries (α : Type) := List (String × α)

namespace Entries

variable {α : Type}

/-- The value of the entry with this name. -/
def get? (es : Entries α) (name : String) : Option α :=
  es.lookup name

/-- The names in order. -/
def names (es : Entries α) : List String :=
  es.map (·.1)

/-- Gives the entry with this name a value; a new entry comes last, an old one keeps its place. -/
def put (name : String) (value : α) : Entries α → Entries α
  | [] => [(name, value)]
  | (k, v) :: rest => if k = name then (name, value) :: rest else (k, v) :: put name value rest

/-- The entries that a list of pairs leaves when they are put one after the other. -/
def ofPairs (pairs : List (String × α)) : Entries α :=
  pairs.foldl (fun es p => put p.1 p.2 es) []

@[simp] theorem get?_put_self (es : Entries α) (name : String) (value : α) :
    get? (put name value es) name = some value := by
  induction es with
  | nil => simp [put, get?]
  | cons m rest ih =>
    obtain ⟨k, v⟩ := m
    by_cases h : k = name
    · simp [put, get?, h]
    · have hne : (name == k) = false := by simpa using Ne.symm h
      simpa [put, get?, h, List.lookup_cons, hne] using ih

theorem get?_eq_some_iff {es : Entries α} (h : (names es).Nodup) {name : String} {value : α} :
    get? es name = some value ↔ (name, value) ∈ es := by
  induction es with
  | nil => simp [get?]
  | cons e rest ih =>
    obtain ⟨k, v⟩ := e
    rw [names, List.map_cons, List.nodup_cons] at h
    by_cases hk : name = k
    · subst hk
      have hrest : (name, value) ∉ rest := fun hm => h.1 (List.mem_map.2 ⟨_, hm, rfl⟩)
      simp [get?, hrest, eq_comm]
    · have hne : (name == k) = false := by simpa using hk
      simpa [get?, List.lookup_cons, hne, hk] using ih h.2

theorem get?_filter {p : String → Bool} {name : String} (h : p name = true) (es : Entries α) :
    get? (es.filter fun e => p e.1) name = get? es name := by
  induction es with
  | nil => rfl
  | cons e rest ih =>
    obtain ⟨k, v⟩ := e
    by_cases hk : name = k
    · subst hk
      simp [get?, h]
    · have hne : (name == k) = false := by simpa using hk
      by_cases hp : p k = true
      · simpa [get?, hp, List.lookup_cons, hne] using ih
      · simpa [get?, hp, List.lookup_cons, hne] using ih

theorem names_put (name : String) (value : α) (es : Entries α) :
    names (put name value es) = if name ∈ names es then names es else names es ++ [name] := by
  induction es with
  | nil => simp [put, names]
  | cons m rest ih =>
    obtain ⟨k, v⟩ := m
    by_cases hk : k = name
    · simp [put, names, hk]
    · have hk' : name ≠ k := Ne.symm hk
      simp only [names] at ih
      by_cases hm : name ∈ rest.map (·.1)
      · simp [put, names, hk, ih, hm]
      · simp [put, names, hk, hk', ih, hm]

theorem filter_put (name : String) (value : α) (es : Entries α) :
    ((put name value es).filter fun e => e.1 != name) = es.filter fun e => e.1 != name := by
  induction es with
  | nil => simp [put]
  | cons m rest ih =>
    obtain ⟨k, v⟩ := m
    by_cases hk : k = name
    · simp [put, hk]
    · simp [put, hk, ih]

end Entries

end Logbook
