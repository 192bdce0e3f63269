import Logbook.Proofs.Json.ReadBack

/-!
# Values that texts spell

A value that was read from a text has each name once in an object and nests no deeper than a reader
admits. There is nothing else to it: every such value is spelled by its own text.

Results:

* `Entries.foldl_put_eq_append`, `Entries.ofPairs_eq_self`: pairs under different names are entries
  as they stand.
* `merged_eq_self`: a value whose objects have each name once keeps its form when it is read.
* `exists_read?_iff`: the values that texts spell.
-/

namespace Logbook

/-! ## Entries -/

namespace Entries

variable {α : Type}

theorem put_of_not_mem {name : String} {es : Entries α} (h : name ∉ names es) (value : α) :
    put name value es = es ++ [(name, value)] := by
  induction es with
  | nil => rfl
  | cons e rest ih =>
    obtain ⟨k, v⟩ := e
    have hk : k ≠ name := fun hk => h (hk ▸ List.mem_cons_self)
    have hrest : name ∉ names rest := fun hr => h (List.mem_cons_of_mem k hr)
    rw [put, if_neg hk, ih hrest, List.cons_append]

theorem mem_of_mem_put {name : String} {value : α} {es : Entries α} {e : String × α}
    (h : e ∈ put name value es) : e = (name, value) ∨ e ∈ es := by
  induction es with
  | nil => exact Or.inl (List.mem_singleton.1 h)
  | cons first rest ih =>
    obtain ⟨k, v⟩ := first
    rw [put] at h
    split at h
    · exact (List.mem_cons.1 h).imp_right (List.mem_cons_of_mem _)
    · rcases List.mem_cons.1 h with rfl | h
      · exact Or.inr List.mem_cons_self
      · exact (ih h).imp_right (List.mem_cons_of_mem _)

theorem nodup_names_put {es : Entries α} (h : (names es).Nodup) (name : String) (value : α) :
    (names (put name value es)).Nodup := by
  rw [names_put]
  split
  · exact h
  · rename_i hnew
    rw [List.nodup_append]
    refine ⟨h, List.pairwise_singleton _ name, fun a ha b hb hab => ?_⟩
    rw [List.mem_singleton.1 hb] at hab
    exact hnew (hab ▸ ha)

/-- Entries that were put one after the other have each name once and come from the pairs. -/
theorem ofPairs_spec (pairs : List (String × α)) :
    (names (ofPairs pairs)).Nodup ∧ ∀ e ∈ ofPairs pairs, e ∈ pairs := by
  suffices key : ∀ es : Entries α, (names es).Nodup →
      (names (pairs.foldl (fun es p => put p.1 p.2 es) es)).Nodup ∧
        ∀ e ∈ pairs.foldl (fun es p => put p.1 p.2 es) es, e ∈ es ∨ e ∈ pairs by
    obtain ⟨hnodup, hmem⟩ := key [] List.nodup_nil
    exact ⟨hnodup, fun e he => (hmem e he).resolve_left List.not_mem_nil⟩
  induction pairs with
  | nil => exact fun es hes => ⟨hes, fun e he => Or.inl he⟩
  | cons p pairs ih =>
    intro es hes
    obtain ⟨hnodup, hmem⟩ := ih (put p.1 p.2 es) (nodup_names_put hes p.1 p.2)
    refine ⟨hnodup, fun e he => ?_⟩
    rcases hmem e he with h | h
    · rcases mem_of_mem_put h with rfl | h
      · exact Or.inr List.mem_cons_self
      · exact Or.inl h
    · exact Or.inr (List.mem_cons_of_mem p h)

theorem foldl_put_eq_append (es : Entries α) {pairs : List (String × α)}
    (h : (names (es ++ pairs)).Nodup) :
    pairs.foldl (fun es p => put p.1 p.2 es) es = es ++ pairs := by
  induction pairs generalizing es with
  | nil => exact (List.append_nil es).symm
  | cons p pairs ih =>
    have hnew : p.1 ∉ names es := by
      rw [names, List.map_append, List.nodup_append] at h
      exact fun hp => h.2.2 p.1 hp p.1 List.mem_cons_self rfl
    rw [List.foldl_cons, put_of_not_mem hnew, ih (es ++ [p])]
    · rw [List.append_assoc, List.singleton_append]
    · rwa [List.append_assoc, List.singleton_append]

theorem ofPairs_eq_self {pairs : List (String × α)} (h : (names pairs).Nodup) :
    ofPairs pairs = pairs :=
  foldl_put_eq_append [] h

end Entries

namespace Json

/-! ## Each name once -/

mutual

/-- Every object in a value has each name once. -/
def Distinct : Json → Prop
  | .array items => DistinctItems items
  | .object ms => (Entries.names ms).Nodup ∧ DistinctMembers ms
  | _ => True

/-- Every object in the items of an array has each name once. -/
def DistinctItems : List Json → Prop
  | [] => True
  | v :: rest => Distinct v ∧ DistinctItems rest

/-- Every object in the members of an object has each name once. -/
def DistinctMembers : List (String × Json) → Prop
  | [] => True
  | (_, v) :: rest => Distinct v ∧ DistinctMembers rest

end

theorem distinctItems_iff {items : List Json} : DistinctItems items ↔ ∀ v ∈ items, Distinct v := by
  induction items with
  | nil => simp [DistinctItems]
  | cons v rest ih => simp [DistinctItems, ih]

theorem distinctMembers_iff {ms : List (String × Json)} :
    DistinctMembers ms ↔ ∀ m ∈ ms, Distinct m.2 := by
  induction ms with
  | nil => simp [DistinctMembers]
  | cons m rest ih => simp [DistinctMembers, ih]

theorem itemDepth_le_iff {items : List Json} {d : Nat} :
    itemDepth items ≤ d ↔ ∀ v ∈ items, depth v ≤ d := by
  induction items with
  | nil => simp [itemDepth]
  | cons v rest ih => simp [itemDepth, ih]

theorem memberDepth_le_iff {ms : List (String × Json)} {d : Nat} :
    memberDepth ms ≤ d ↔ ∀ m ∈ ms, depth m.2 ≤ d := by
  induction ms with
  | nil => simp [memberDepth]
  | cons m rest ih => simp [memberDepth, ih]

mutual

/-- **A value whose objects have each name once keeps its form when it is read.** -/
theorem merged_eq_self (v : Json) (h : Distinct v) : merged v = v := by
  match v with
  | .null => simp only [merged]
  | .bool b => simp only [merged]
  | .number n => simp only [merged]
  | .string s => simp only [merged]
  | .array items =>
    rw [Distinct] at h
    rw [merged, mergedItems_eq_self items h]
  | .object ms =>
    rw [Distinct] at h
    rw [merged, mergedMembers_eq_self ms h.2, Entries.ofPairs_eq_self h.1]

theorem mergedItems_eq_self (items : List Json) (h : DistinctItems items) :
    mergedItems items = items := by
  match items with
  | [] => rw [mergedItems]
  | v :: rest =>
    rw [DistinctItems] at h
    rw [mergedItems, merged_eq_self v h.1, mergedItems_eq_self rest h.2]

theorem mergedMembers_eq_self (ms : List (String × Json)) (h : DistinctMembers ms) :
    mergedMembers ms = ms := by
  match ms with
  | [] => rw [mergedMembers]
  | (k, v) :: rest =>
    rw [DistinctMembers] at h
    rw [mergedMembers, merged_eq_self v h.1, mergedMembers_eq_self rest h.2]

end

/-! ## What is read -/

namespace Document

mutual

/-- The value of a document has each name once and nests no deeper than it may. -/
theorem value?_spec (doc : Document) {d : Nat} {v : Json} (h : value? d doc = some v) :
    Distinct v ∧ depth v ≤ d := by
  match doc with
  | .null =>
    rw [value?] at h
    cases h
    simp [Distinct, depth]
  | .bool b =>
    rw [value?] at h
    cases h
    simp [Distinct, depth]
  | .number n =>
    rw [value?] at h
    obtain ⟨m, -, rfl⟩ := Option.map_eq_some_iff.1 h
    simp [Distinct, depth]
  | .string source =>
    rw [value?] at h
    obtain ⟨cs, -, rfl⟩ := Option.map_eq_some_iff.1 h
    simp [Distinct, depth]
  | .array items =>
    cases d with
    | zero =>
      rw [value?] at h
      cases h
    | succ d =>
      rw [value?] at h
      obtain ⟨vs, hvs, rfl⟩ := Option.map_eq_some_iff.1 h
      have hitems := items?_spec items hvs
      rw [Distinct, depth, distinctItems_iff, Nat.succ_le_succ_iff, itemDepth_le_iff]
      exact ⟨fun v hv => (hitems v hv).1, fun v hv => (hitems v hv).2⟩
  | .object ms =>
    cases d with
    | zero =>
      rw [value?] at h
      cases h
    | succ d =>
      rw [value?] at h
      obtain ⟨ps, hps, rfl⟩ := Option.map_eq_some_iff.1 h
      have hpairs := pairs?_spec ms hps
      obtain ⟨hnodup, hmem⟩ := Entries.ofPairs_spec ps
      rw [Distinct, depth, distinctMembers_iff, Nat.succ_le_succ_iff, memberDepth_le_iff]
      exact ⟨⟨hnodup, fun m hm => (hpairs m (hmem m hm)).1⟩,
        fun m hm => (hpairs m (hmem m hm)).2⟩

theorem items?_spec (items : List Document) {d : Nat} {vs : List Json}
    (h : items? d items = some vs) : ∀ v ∈ vs, Distinct v ∧ depth v ≤ d := by
  match items with
  | [] =>
    rw [items?] at h
    cases h
    exact fun v hv => absurd hv List.not_mem_nil
  | doc :: rest =>
    rw [items?] at h
    split at h
    · rename_i first others hfirst hothers
      cases h
      intro v hv
      rcases List.mem_cons.1 hv with rfl | hv
      · exact value?_spec doc hfirst
      · exact items?_spec rest hothers v hv
    · cases h

theorem pairs?_spec (ms : List (List Char × Document)) {d : Nat} {ps : List (String × Json)}
    (h : pairs? d ms = some ps) : ∀ p ∈ ps, Distinct p.2 ∧ depth p.2 ≤ d := by
  match ms with
  | [] =>
    rw [pairs?] at h
    cases h
    exact fun p hp => absurd hp List.not_mem_nil
  | (source, doc) :: rest =>
    rw [pairs?] at h
    split at h
    · rename_i name first others _ hfirst hothers
      cases h
      intro p hp
      rcases List.mem_cons.1 hp with rfl | hp
      · exact value?_spec doc hfirst
      · exact pairs?_spec rest hothers p hp
    · cases h

end

end Document

/-- The text of a value is read as the value, if a text spells it at all. -/
theorem read?_text {v : Json} (hdistinct : Distinct v) (hdepth : depth v ≤ maxDepth) :
    read? (text v) = some v := by
  rw [read?, text, String.toList_ofList, Document.read?_chars, Option.bind_eq_bind,
    Option.bind_some, Document.value?_document v hdepth, merged_eq_self v hdistinct]

/-- **The values that texts spell** are those whose objects have each name once and that do not nest
too deep. -/
theorem exists_read?_iff {v : Json} :
    (∃ s, read? s = some v) ↔ Distinct v ∧ depth v ≤ maxDepth := by
  constructor
  · rintro ⟨s, h⟩
    obtain ⟨doc, -, hdoc⟩ := Option.bind_eq_some_iff.1 h
    exact Document.value?_spec doc hdoc
  · rintro ⟨hdistinct, hdepth⟩
    exact ⟨text v, read?_text hdistinct hdepth⟩

end Json

end Logbook
