import FilterFleet.Node.Identity

/-! # Finite maps from node ids

The entries are kept in ascending order of id, so that a map has one form and its entries are
listed in that order.  Looking up what was inserted or erased is described by `find?_insert` and
`find?_erase`.
-/

namespace FilterFleet

/-- Entries in strictly ascending order of id. -/
def Ascending (entries : List (NodeId × α)) : Prop := entries.Pairwise fun a b => a.1 < b.1

/-- A finite map from node ids. -/
structure NodeMap (α : Type) where
  entries : List (NodeId × α)
  ascending : Ascending entries

namespace NodeMap

/-! ## Entry lists -/

/-- Put an entry at its place, over an entry of the same id. -/
def insertEntry (id : NodeId) (a : α) : List (NodeId × α) → List (NodeId × α)
  | [] => [(id, a)]
  | e :: rest =>
    if id < e.1 then (id, a) :: e :: rest
    else if e.1 < id then e :: insertEntry id a rest
    else (id, a) :: rest

/-- The value of an id among entries. -/
def lookupId? (id : NodeId) : List (NodeId × α) → Option α
  | [] => none
  | e :: rest => if e.1 = id then some e.2 else lookupId? id rest

theorem mem_insertEntry {id : NodeId} {a : α} {es : List (NodeId × α)} {e : NodeId × α}
    (h : e ∈ insertEntry id a es) : e = (id, a) ∨ e ∈ es := by
  induction es with
  | nil => exact .inl (by simpa [insertEntry] using h)
  | cons x rest ih =>
    simp only [insertEntry] at h
    split at h
    · simpa using h
    · split at h
      · rcases List.mem_cons.mp h with rfl | h
        · exact .inr (by simp)
        · rcases ih h with h | h
          · exact .inl h
          · exact .inr (List.mem_cons_of_mem _ h)
      · rcases List.mem_cons.mp h with h | h
        · exact .inl h
        · exact .inr (List.mem_cons_of_mem _ h)

theorem ascending_insertEntry (id : NodeId) (a : α) {es : List (NodeId × α)}
    (h : Ascending es) : Ascending (insertEntry id a es) := by
  induction es with
  | nil => simp [insertEntry, Ascending]
  | cons x rest ih =>
    obtain ⟨hx, hrest⟩ := List.pairwise_cons.mp h
    simp only [insertEntry]
    split
    · next hlt =>
      refine List.pairwise_cons.mpr ⟨fun e he => ?_, h⟩
      rcases List.mem_cons.mp he with rfl | he
      · exact hlt
      · exact NodeId.lt_trans hlt (hx e he)
    · next hnlt =>
      split
      · next hgt =>
        refine List.pairwise_cons.mpr ⟨fun e he => ?_, ih hrest⟩
        rcases mem_insertEntry he with rfl | he
        · exact hgt
        · exact hx e he
      · next hngt =>
        have hid : x.1 = id := by
          rcases NodeId.lt_or_eq_or_gt id x.1 with h' | h' | h'
          · exact absurd h' hnlt
          · exact h'.symm
          · exact absurd h' hngt
        refine List.pairwise_cons.mpr ⟨fun e he => ?_, hrest⟩
        have h' := hx e he
        rw [hid] at h'
        exact h'

theorem ascending_filter (p : NodeId × α → Bool) {es : List (NodeId × α)} (h : Ascending es) :
    Ascending (es.filter p) := List.Pairwise.filter p h

theorem ascending_map (f : NodeId → α → β) {es : List (NodeId × α)} (h : Ascending es) :
    Ascending (es.map fun e => (e.1, f e.1 e.2)) := by
  induction es with
  | nil => exact List.Pairwise.nil
  | cons x rest ih =>
    obtain ⟨hx, hrest⟩ := List.pairwise_cons.mp h
    refine List.pairwise_cons.mpr ⟨fun e he => ?_, ih hrest⟩
    obtain ⟨y, hy, rfl⟩ := List.mem_map.mp he
    exact hx y hy

theorem lookupId?_insertEntry (id other : NodeId) (a : α) (es : List (NodeId × α)) :
    lookupId? other (insertEntry id a es) =
      if id = other then some a else lookupId? other es := by
  induction es with
  | nil => simp [insertEntry, lookupId?]
  | cons x rest ih =>
    simp only [insertEntry]
    split
    · next hlt => simp [lookupId?]
    · next hnlt =>
      split
      · next hgt =>
        have hne : x.1 ≠ id := fun he => NodeId.not_lt_self id (he ▸ hgt)
        simp only [lookupId?, ih]
        by_cases ho : x.1 = other
        · have : id ≠ other := fun he => hne (by rw [he, ho])
          simp [ho, this]
        · simp [ho]
      · next hngt =>
        have hid : x.1 = id := by
          rcases NodeId.lt_or_eq_or_gt id x.1 with h' | h' | h'
          · exact absurd h' hnlt
          · exact h'.symm
          · exact absurd h' hngt
        simp only [lookupId?]
        by_cases ho : id = other
        · simp [ho]
        · have hxo : x.1 ≠ other := fun he => ho (hid.symm.trans he)
          simp [ho, hxo]

theorem lookupId?_filter_ne (id other : NodeId) (es : List (NodeId × α)) :
    lookupId? other (es.filter fun e => e.1 ≠ id) =
      if id = other then none else lookupId? other es := by
  induction es with
  | nil => simp [lookupId?]
  | cons x rest ih =>
    by_cases hx : x.1 = id
    · by_cases ho : id = other
      · simp_all
      · have : x.1 ≠ other := fun he => ho (hx.symm.trans he)
        simp_all [lookupId?]
    · by_cases ho : id = other
      · have : x.1 ≠ other := fun he => hx (he.trans ho.symm)
        simp_all [lookupId?]
      · by_cases hxo : x.1 = other <;> simp_all [lookupId?]

/-! ## Maps -/

/-- The map without entries. -/
def empty : NodeMap α := ⟨[], List.Pairwise.nil⟩

instance : Inhabited (NodeMap α) := ⟨empty⟩

/-- The value of an id. -/
def find? (m : NodeMap α) (id : NodeId) : Option α := lookupId? id m.entries

/-- Whether an id has a value. -/
def contains (m : NodeMap α) (id : NodeId) : Bool := (m.find? id).isSome

/-- Give an id a value. -/
def insert (m : NodeMap α) (id : NodeId) (a : α) : NodeMap α :=
  ⟨insertEntry id a m.entries, ascending_insertEntry id a m.ascending⟩

/-- Take an id out. -/
def erase (m : NodeMap α) (id : NodeId) : NodeMap α :=
  ⟨m.entries.filter fun e => e.1 ≠ id, ascending_filter _ m.ascending⟩

/-- Keep the entries whose id passes a test. -/
def filterIds (m : NodeMap α) (p : NodeId → Bool) : NodeMap α :=
  ⟨m.entries.filter fun e => p e.1, ascending_filter _ m.ascending⟩

/-- The ids in ascending order. -/
def ids (m : NodeMap α) : List NodeId := m.entries.map (·.1)

/-- The values in ascending order of id. -/
def values (m : NodeMap α) : List α := m.entries.map (·.2)

/-- The number of entries. -/
def size (m : NodeMap α) : Nat := m.entries.length

/-- Apply a function to every value. -/
def map (f : NodeId → α → β) (m : NodeMap α) : NodeMap β :=
  ⟨m.entries.map fun e => (e.1, f e.1 e.2), ascending_map f m.ascending⟩

/-- Insert entries one after another, so that a later one replaces an earlier one of its id. -/
def ofList (es : List (NodeId × α)) : NodeMap α :=
  es.foldl (fun m e => m.insert e.1 e.2) empty

@[simp] theorem find?_empty (id : NodeId) : (empty : NodeMap α).find? id = none := rfl

theorem find?_insert (m : NodeMap α) (id other : NodeId) (a : α) :
    (m.insert id a).find? other = if id = other then some a else m.find? other :=
  lookupId?_insertEntry id other a m.entries

theorem find?_erase (m : NodeMap α) (id other : NodeId) :
    (m.erase id).find? other = if id = other then none else m.find? other :=
  lookupId?_filter_ne id other m.entries

end NodeMap

end FilterFleet
