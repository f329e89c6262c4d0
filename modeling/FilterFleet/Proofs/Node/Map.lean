import FilterFleet.Node.Map
import Mathlib.Data.List.Sort

/-!
# Entries, ids and look-ups of maps by node id

A map is known by its look-ups: an id belongs to the map iff it has a value (`mem_ids_iff`), and
what `map`, `filterIds`, a fold of `insert` and `ofList` do is said by `find?_map`, `find?_filterIds`,
`find?_foldl_insert` and `entries_ofList`.
-/

namespace FilterFleet.NodeMap

variable {α β : Type}

/-! ## Entry lists -/

theorem mem_of_lookupId? {id : NodeId} {a : α} {es : List (NodeId × α)}
    (h : lookupId? id es = some a) : (id, a) ∈ es := by
  induction es with
  | nil => simp [lookupId?] at h
  | cons x rest ih =>
    rw [lookupId?] at h
    split at h
    · next hx =>
      obtain rfl := Option.some.inj h
      rw [← hx]
      exact List.mem_cons_self
    · exact List.mem_cons_of_mem _ (ih h)

theorem lookupId?_of_mem {id : NodeId} {a : α} {es : List (NodeId × α)} (hes : Ascending es)
    (h : (id, a) ∈ es) : lookupId? id es = some a := by
  induction es with
  | nil => simp at h
  | cons x rest ih =>
    obtain ⟨hx, hrest⟩ := List.pairwise_cons.mp hes
    rw [lookupId?]
    rcases List.mem_cons.mp h with rfl | h
    · rw [if_pos rfl]
    · have hlt : x.1 < id := hx (id, a) h
      have hne : x.1 ≠ id := fun he => NodeId.not_lt_self id (he ▸ hlt)
      rw [if_neg hne]
      exact ih hrest h

theorem lookupId?_map (f : NodeId → α → β) (id : NodeId) (es : List (NodeId × α)) :
    lookupId? id (es.map fun e => (e.1, f e.1 e.2)) = (lookupId? id es).map (f id) := by
  induction es with
  | nil => rfl
  | cons x rest ih =>
    simp only [List.map_cons, lookupId?, ih]
    split
    · next hx => rw [hx, Option.map_some]
    · rfl

theorem lookupId?_eq_none {id : NodeId} {es : List (NodeId × α)}
    (h : ∀ e ∈ es, id < e.1) : lookupId? id es = none := by
  induction es with
  | nil => rfl
  | cons x rest ih =>
    have hne : x.1 ≠ id := fun he => NodeId.not_lt_self id (he ▸ h x List.mem_cons_self)
    rw [lookupId?, if_neg hne]
    exact ih fun e he => h e (List.mem_cons_of_mem _ he)

theorem lookupId?_filterIds (p : NodeId → Bool) (id : NodeId) (es : List (NodeId × α)) :
    lookupId? id (es.filter fun e => p e.1) = if p id then lookupId? id es else none := by
  induction es with
  | nil => simp [lookupId?]
  | cons x rest ih =>
    by_cases hid : x.1 = id
    · subst hid
      by_cases hp : p x.1 = true
      · simp [hp, lookupId?]
      · simp [hp, ih]
    · by_cases hp : p x.1 = true
      · simp [hp, hid, lookupId?, ih]
      · simp [hp, hid, lookupId?, ih]

/-- An entry that is above all others goes to the end. -/
theorem insertEntry_of_lt {id : NodeId} {a : α} {es : List (NodeId × α)}
    (h : ∀ e ∈ es, e.1 < id) : insertEntry id a es = es ++ [(id, a)] := by
  induction es with
  | nil => rfl
  | cons x rest ih =>
    have hx : x.1 < id := h x List.mem_cons_self
    have hnot : ¬ id < x.1 := fun hlt => NodeId.not_lt_self id (NodeId.lt_trans hlt hx)
    rw [insertEntry, if_neg hnot, if_pos hx, ih fun e he => h e (List.mem_cons_of_mem _ he)]
    rfl

theorem perm_insertEntry {id : NodeId} {es : List (NodeId × α)} (h : ∀ e ∈ es, e.1 ≠ id) (a : α) :
    (insertEntry id a es).Perm ((id, a) :: es) := by
  induction es with
  | nil => exact .refl _
  | cons x rest ih =>
    rw [insertEntry]
    split
    · exact .refl _
    · split
      · exact ((ih fun e he => h e (List.mem_cons_of_mem _ he)).cons x).trans (.swap _ _ _)
      · next hlt hgt =>
        rcases NodeId.lt_or_eq_or_gt id x.1 with h' | h' | h'
        · exact absurd h' hlt
        · exact absurd h'.symm (h x List.mem_cons_self)
        · exact absurd h' hgt

/-- The entry of an id that is there is replaced in its place. -/
theorem insertEntry_of_mem {id : NodeId} {es : List (NodeId × α)} (hes : Ascending es)
    (h : id ∈ es.map (·.1)) (a : α) :
    insertEntry id a es = es.map fun e => if e.1 = id then (id, a) else e := by
  induction es with
  | nil => simp at h
  | cons x rest ih =>
    obtain ⟨hx, hrest⟩ := List.pairwise_cons.mp hes
    rw [insertEntry, List.map_cons]
    by_cases heq : x.1 = id
    · have hnot : ¬ id < x.1 := heq ▸ NodeId.not_lt_self _
      have hnot' : ¬ x.1 < id := heq ▸ NodeId.not_lt_self _
      have hsame : (rest.map fun e => if e.1 = id then (id, a) else e) = rest := by
        refine (List.map_congr_left fun e he => ?_).trans (List.map_id rest)
        have hne : e.1 ≠ id := fun he' => NodeId.not_lt_self id (by
          have hlt := hx e he
          rwa [heq, he'] at hlt)
        exact if_neg hne
      rw [if_neg hnot, if_neg hnot', if_pos heq, hsame]
    · have hmem : id ∈ rest.map (·.1) := by
        rcases List.mem_cons.mp h with h | h
        · exact absurd h.symm heq
        · exact h
      obtain ⟨e, he, hid⟩ := List.mem_map.mp hmem
      have hlt : x.1 < id := hid ▸ hx e he
      have hnot : ¬ id < x.1 := fun h' => NodeId.not_lt_self id (NodeId.lt_trans h' hlt)
      rw [if_neg hnot, if_pos hlt, if_neg heq, ih hrest hmem]

/-! ## Maps -/

theorem mem_entries_iff (m : NodeMap α) (id : NodeId) (a : α) :
    (id, a) ∈ m.entries ↔ m.find? id = some a :=
  ⟨lookupId?_of_mem m.ascending, mem_of_lookupId?⟩

/-- The ids of a map are those that have a value. -/
theorem mem_ids_iff (m : NodeMap α) (id : NodeId) : id ∈ m.ids ↔ ∃ a, m.find? id = some a := by
  simp only [ids, List.mem_map, ← mem_entries_iff]
  constructor
  · rintro ⟨⟨i, a⟩, h, rfl⟩
    exact ⟨a, h⟩
  · rintro ⟨a, h⟩
    exact ⟨(id, a), h, rfl⟩

instance : Std.Irrefl (α := NodeId) (· < ·) := ⟨NodeId.not_lt_self⟩

instance : Std.Antisymm (α := NodeId) (· < ·) :=
  ⟨fun _ _ h h' => absurd (NodeId.lt_trans h h') (NodeId.not_lt_self _)⟩

/-- The ids are listed in order, so that they are known by what is among them. -/
theorem ids_eq_of_mem_iff {m : NodeMap α} {m' : NodeMap β} (h : ∀ id, id ∈ m.ids ↔ id ∈ m'.ids) :
    m.ids = m'.ids :=
  List.Pairwise.eq_of_mem_iff (List.pairwise_map.mpr m.ascending)
    (List.pairwise_map.mpr m'.ascending) h

/-- The entries are listed in order of id, so that they are known by the look-ups. -/
theorem entries_eq_of_find? {m m' : NodeMap α} (h : ∀ id, m.find? id = m'.find? id) :
    m.entries = m'.entries := by
  have hirrefl : Std.Irrefl (α := NodeId × α) fun a b => a.1 < b.1 :=
    ⟨fun a => NodeId.not_lt_self a.1⟩
  have hantisymm : Std.Antisymm (α := NodeId × α) fun a b => a.1 < b.1 :=
    ⟨fun _ _ h h' => absurd (NodeId.lt_trans h h') (NodeId.not_lt_self _)⟩
  refine List.Pairwise.eq_of_mem_iff m.ascending m'.ascending fun ⟨id, a⟩ => ?_
  rw [mem_entries_iff, mem_entries_iff, h]

theorem mem_ids_insert (m : NodeMap α) (id other : NodeId) (a : α) :
    other ∈ (m.insert id a).ids ↔ other = id ∨ other ∈ m.ids := by
  rw [mem_ids_iff, find?_insert, mem_ids_iff]
  by_cases h : id = other
  · simp [h]
  · simp [h, Ne.symm h]

theorem mem_ids_erase (m : NodeMap α) (id other : NodeId) :
    other ∈ (m.erase id).ids ↔ other ≠ id ∧ other ∈ m.ids := by
  rw [mem_ids_iff, find?_erase, mem_ids_iff]
  by_cases h : id = other
  · simp [h]
  · simp [h, Ne.symm h]

/-- A value of a new id is one more among the values. -/
theorem perm_values_insert {m : NodeMap α} {id : NodeId} (h : id ∉ m.ids) (a : α) :
    (m.insert id a).values.Perm (a :: m.values) :=
  (perm_insertEntry (fun e he heq => h (List.mem_map.mpr ⟨e, he, heq⟩)) a).map _

/-- A value of an id that is there takes the place of the old one. -/
theorem entries_insert_of_mem {m : NodeMap α} {id : NodeId} (h : id ∈ m.ids) (a : α) :
    (m.insert id a).entries = m.entries.map fun e => if e.1 = id then (id, a) else e :=
  insertEntry_of_mem m.ascending h a

theorem sublist_values_erase (m : NodeMap α) (id : NodeId) :
    (m.erase id).values.Sublist m.values :=
  List.filter_sublist.map _

@[simp] theorem find?_map (m : NodeMap α) (f : NodeId → α → β) (id : NodeId) :
    (m.map f).find? id = (m.find? id).map (f id) := lookupId?_map f id m.entries

@[simp] theorem ids_map (m : NodeMap α) (f : NodeId → α → β) : (m.map f).ids = m.ids := by
  simp [ids, map]

theorem find?_filterIds (m : NodeMap α) (p : NodeId → Bool) (id : NodeId) :
    (m.filterIds p).find? id = if p id then m.find? id else none :=
  lookupId?_filterIds p id m.entries

theorem contains_eq_false_iff (m : NodeMap α) (id : NodeId) :
    m.contains id = false ↔ m.find? id = none := by
  rw [contains, Option.isSome_eq_false_iff, Option.isNone_iff_eq_none]

theorem contains_iff_mem_ids (m : NodeMap α) (id : NodeId) : m.contains id = true ↔ id ∈ m.ids := by
  rw [contains, Option.isSome_iff_exists, mem_ids_iff]

/-- Entries that are inserted one after another are found before those that were there. -/
theorem find?_foldl_insert (f : α → β) {es : List (NodeId × α)} (h : Ascending es) (m : NodeMap β)
    (id : NodeId) :
    (es.foldl (fun m e => m.insert e.1 (f e.2)) m).find? id =
      ((lookupId? id es).map f).or (m.find? id) := by
  induction es generalizing m with
  | nil => rfl
  | cons x rest ih =>
    obtain ⟨hx, hrest⟩ := List.pairwise_cons.mp h
    rw [List.foldl_cons, ih hrest, find?_insert, lookupId?]
    by_cases hid : x.1 = id
    · subst hid
      have hnone : lookupId? x.1 rest = none := lookupId?_eq_none hx
      simp [hnone]
    · simp [hid]

theorem entries_foldl_insert (es : List (NodeId × α)) (m : NodeMap α)
    (h : Ascending (m.entries ++ es)) :
    (es.foldl (fun m e => m.insert e.1 e.2) m).entries = m.entries ++ es := by
  induction es generalizing m with
  | nil => simp
  | cons x rest ih =>
    obtain ⟨-, -, hlt⟩ := List.pairwise_append.mp h
    have hx : (m.insert x.1 x.2).entries = m.entries ++ [x] :=
      insertEntry_of_lt fun e he => hlt e he x List.mem_cons_self
    have happ : (m.insert x.1 x.2).entries ++ rest = m.entries ++ x :: rest := by simp [hx]
    rw [List.foldl_cons, ih _ (by rw [happ]; exact h), happ]

/-- Entries in ascending order are listed as they were given. -/
theorem entries_ofList {es : List (NodeId × α)} (h : Ascending es) : (ofList es).entries = es := by
  have := entries_foldl_insert es empty (by simpa [empty] using h)
  simpa [ofList, empty] using this

end FilterFleet.NodeMap
