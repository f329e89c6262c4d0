import FilterFleet.Cursor.Table
import FilterFleet.Proofs.Lists
import Mathlib.Data.List.Nodup

/-!
# What counts of a table of cursors

A table may still hold cursors that are over. `live?` is what counts of it at an instant: the state
stored under an id, unless its time is over. A lookup answers just that (`fst_lookup`). Neither a
lookup nor the reaper changes what counts from then on (`live?_lookup`, `live?_reap`); a new cursor
counts for the time to live and leaves all others alone (`live?_create`).

The reaper's side needs that no id is stored twice (`Distinct`), which every operation keeps.
-/

namespace FilterFleet.CursorTable

variable {π : Type}

/-- No id is stored twice. -/
def Distinct (t : CursorTable π) : Prop := (t.entries.map (·.id)).Nodup

/-- The state stored under an id, unless its time is over at `now`. -/
def live? (t : CursorTable π) (id : CursorId) (now : Instant) : Option (CursorState π) :=
  ((t.find? id).filter fun e => now < e.expiresAt).map (·.state)

theorem live?_of_find? {t : CursorTable π} {id : CursorId} {e : CursorEntry π}
    (h : t.find? id = some e) (now : Instant) :
    t.live? id now = if now < e.expiresAt then some e.state else none := by
  by_cases hlt : now < e.expiresAt <;> simp [live?, h, Option.filter, hlt]

theorem live?_of_find?_none {t : CursorTable π} {id : CursorId} (h : t.find? id = none)
    (now : Instant) : t.live? id now = none := by
  rw [live?, h, Option.filter_none, Option.map_none]

theorem stored_of_live? {t : CursorTable π} {id : CursorId} {now : Instant} {state : CursorState π}
    (h : t.live? id now = some state) : ∃ e, t.find? id = some e ∧ e.state = state := by
  obtain ⟨e, he, rfl⟩ := Option.map_eq_some_iff.mp h
  exact ⟨e, Option.eq_some_of_filter_eq_some he, rfl⟩

/-! ## Entries -/

theorem mem_of_find? {t : CursorTable π} {id : CursorId} {e : CursorEntry π}
    (h : t.find? id = some e) : e ∈ t.entries ∧ e.id = id :=
  ⟨List.mem_of_find?_eq_some h, by simpa using List.find?_some h⟩

theorem find?_eq_none_iff (t : CursorTable π) (id : CursorId) :
    t.find? id = none ↔ ∀ e ∈ t.entries, e.id ≠ id := by
  simp [find?]

/-- In a table without repeated ids every entry is found. -/
theorem Distinct.find?_of_mem {t : CursorTable π} (h : t.Distinct) {e : CursorEntry π}
    (he : e ∈ t.entries) : t.find? e.id = some e := by
  cases hf : t.find? e.id with
  | none => exact absurd rfl ((t.find?_eq_none_iff e.id).mp hf e he)
  | some x =>
    obtain ⟨hx, hid⟩ := mem_of_find? hf
    exact congrArg some (List.inj_on_of_nodup_map h hx he hid)

/-- The entries that stay when some are taken out are found as before. -/
theorem Distinct.of_sublist {t t' : CursorTable π} (h : t.Distinct)
    (hs : t'.entries.Sublist t.entries) : t'.Distinct :=
  List.Nodup.sublist (hs.map _) h

theorem Distinct.find?_of_sublist {t t' : CursorTable π} (h : t.Distinct)
    (hs : t'.entries.Sublist t.entries) {id : CursorId} {e : CursorEntry π}
    (he : t'.find? id = some e) : t.find? id = some e := by
  obtain ⟨hmem, rfl⟩ := mem_of_find? he
  exact h.find?_of_mem (hs.subset hmem)

theorem distinct_empty (ttl : Span) : (empty ttl : CursorTable π).Distinct := List.nodup_nil

/-! ## New cursors -/

/-- A new cursor gets an id from the draws that nothing is stored under, and is put in front. -/
theorem create?_eq_some {t t' : CursorTable π} {draws : List CursorId} {now : Instant}
    {state : CursorState π} {id : CursorId} (h : t.create? draws now state = some (id, t')) :
    id ∈ draws ∧ t.find? id = none ∧
      t' = { t with entries := ⟨id, state, now + t.ttl⟩ :: t.entries } := by
  obtain ⟨i, hi, heq⟩ := Option.map_eq_some_iff.mp h
  obtain ⟨rfl, rfl⟩ := Prod.mk.inj heq
  have hfree := List.find?_some hi
  refine ⟨List.mem_of_find?_eq_some hi, ?_, rfl⟩
  simpa [stores] using hfree

/-- A new cursor is stored as soon as a free id is drawn. -/
theorem create?_isSome {t : CursorTable π} {draws : List CursorId} {d : CursorId} (hd : d ∈ draws)
    (hfree : t.find? d = none) (now : Instant) (state : CursorState π) :
    (t.create? draws now state).isSome := by
  have hfound : (draws.find? fun id => !t.stores id).isSome :=
    List.find?_isSome.mpr ⟨d, hd, by simp [stores, hfree]⟩
  rw [create?, Option.isSome_map]
  exact hfound

theorem Distinct.create {t t' : CursorTable π} {draws : List CursorId} {now : Instant}
    {state : CursorState π} {id : CursorId} (ht : t.Distinct)
    (h : t.create? draws now state = some (id, t')) : t'.Distinct := by
  obtain ⟨-, hfree, rfl⟩ := create?_eq_some h
  have hnew : id ∉ t.entries.map (·.id) := by
    simpa using (t.find?_eq_none_iff id).mp hfree
  exact List.nodup_cons.mpr ⟨hnew, ht⟩

/-- What a new cursor does to the stored ones. -/
theorem find?_create {t t' : CursorTable π} {draws : List CursorId} {now : Instant}
    {state : CursorState π} {id : CursorId} (h : t.create? draws now state = some (id, t'))
    (other : CursorId) :
    t'.find? other = if id = other then some ⟨id, state, now + t.ttl⟩ else t.find? other := by
  obtain ⟨-, -, rfl⟩ := create?_eq_some h
  by_cases ho : id = other
  · simp [find?, ho]
  · simp [find?, ho]

theorem live?_create {t t' : CursorTable π} {draws : List CursorId} {now : Instant}
    {state : CursorState π} {id : CursorId} (h : t.create? draws now state = some (id, t'))
    (other : CursorId) (later : Instant) :
    t'.live? other later =
      if id = other then (if later < now + t.ttl then some state else none)
      else t.live? other later := by
  have he := find?_create h other
  by_cases ho : id = other
  · rw [if_pos ho] at he ⊢
    exact live?_of_find? he later
  · rw [if_neg ho] at he ⊢
    rw [live?, he, live?]

/-! ## Lookups, the reaper, clearing -/

/-- A lookup answers what counts. -/
theorem fst_lookup (t : CursorTable π) (id : CursorId) (now : Instant) :
    (t.lookup id now).1 = t.live? id now := by
  rw [lookup]
  split
  · next h => rw [live?_of_find?_none h]
  · next e h =>
    rw [live?_of_find? h]
    split
    · next hle => rw [if_neg (Nat.not_lt.mpr hle)]
    · next hlt => rw [if_pos (Nat.not_le.mp hlt)]

theorem snd_lookup (t : CursorTable π) (id : CursorId) (now : Instant) :
    (t.lookup id now).2 = t ∨
      (t.lookup id now).2 = t.erase id ∧ ∃ e, t.find? id = some e ∧ e.expiresAt ≤ now := by
  rw [lookup]
  split
  · exact .inl rfl
  · next e h =>
    split
    · next hle => exact .inr ⟨rfl, e, h, hle⟩
    · exact .inl rfl

/-- What is stored and has not expired is found, and stays. -/
theorem lookup_of_find? {t : CursorTable π} {id : CursorId} {e : CursorEntry π} {now : Instant}
    (h : t.find? id = some e) (hlive : now < e.expiresAt) :
    t.lookup id now = (some e.state, t) := by
  rw [lookup, h]
  exact if_neg (Nat.not_le.mpr hlive)

/-- A table whose cursors are all within their time stays as it is. -/
theorem snd_lookup_of_unexpired {t : CursorTable π} {now : Instant}
    (h : ∀ e ∈ t.entries, now < e.expiresAt) (id : CursorId) : (t.lookup id now).2 = t := by
  rcases t.snd_lookup id now with hsame | ⟨-, e, he, hover⟩
  · exact hsame
  · exact absurd (h e (mem_of_find? he).1) (Nat.not_lt.mpr hover)

theorem reap_of_unexpired {t : CursorTable π} {now : Instant}
    (h : ∀ e ∈ t.entries, now < e.expiresAt) : t.reap now = t := by
  have hentries : t.entries.filter (fun e => now < e.expiresAt) = t.entries :=
    List.filter_eq_self.mpr fun e he => decide_eq_true (h e he)
  rw [reap, hentries]

theorem sublist_lookup (t : CursorTable π) (id : CursorId) (now : Instant) :
    (t.lookup id now).2.entries.Sublist t.entries := by
  rcases t.snd_lookup id now with h | ⟨h, -⟩
  · rw [h]
  · rw [h]
    exact List.filter_sublist

@[simp] theorem ttl_lookup (t : CursorTable π) (id : CursorId) (now : Instant) :
    (t.lookup id now).2.ttl = t.ttl := by
  rcases t.snd_lookup id now with h | ⟨h, -⟩ <;> rw [h]
  rfl

theorem find?_erase (t : CursorTable π) (id other : CursorId) :
    (t.erase id).find? other = if id = other then none else t.find? other := by
  have hfilter : (t.entries.filter fun e => e.id ≠ id) = t.entries.filter fun e => e.id != id := by
    simp only [ne_eq, decide_not]
    rfl
  rw [find?, erase, hfilter]
  exact find?_filter_key CursorEntry.id id other t.entries

/-- A lookup changes nothing about what counts from then on. -/
theorem live?_lookup (t : CursorTable π) (id other : CursorId) {now later : Instant}
    (hle : now ≤ later) : (t.lookup id now).2.live? other later = t.live? other later := by
  rcases t.snd_lookup id now with h | ⟨h, e, he, hover⟩
  · rw [h]
  · rw [h]
    have herase := t.find?_erase id other
    by_cases ho : id = other
    · subst ho
      rw [if_pos rfl] at herase
      rw [live?_of_find?_none herase, live?_of_find? he,
        if_neg (Nat.not_lt.mpr (Nat.le_trans hover hle))]
    · rw [if_neg ho] at herase
      rw [live?, herase, live?]

/-- The reaper changes nothing about what counts from then on. -/
theorem live?_reap {t : CursorTable π} (ht : t.Distinct) (id : CursorId) {now later : Instant}
    (hle : now ≤ later) : (t.reap now).live? id later = t.live? id later := by
  have hsub : (t.reap now).entries.Sublist t.entries := List.filter_sublist
  cases h : t.find? id with
  | none =>
    have hr : (t.reap now).find? id = none :=
      ((t.reap now).find?_eq_none_iff id).mpr fun e he =>
        (t.find?_eq_none_iff id).mp h e (hsub.subset he)
    rw [live?_of_find?_none h, live?_of_find?_none hr]
  | some e =>
    obtain ⟨hmem, hid⟩ := mem_of_find? h
    cases hr : (t.reap now).find? id with
    | none =>
      -- the entry was taken out, so it was over by `now`
      have hover : ¬ now < e.expiresAt := fun hlt =>
        ((t.reap now).find?_eq_none_iff id).mp hr e
          (List.mem_filter.mpr ⟨hmem, decide_eq_true hlt⟩) hid
      rw [live?_of_find?_none hr, live?_of_find? h,
        if_neg (Nat.not_lt.mpr (Nat.le_trans (Nat.not_lt.mp hover) hle))]
    | some x =>
      have hx := ht.find?_of_sublist hsub hr
      rw [h] at hx
      obtain rfl := Option.some.inj hx
      rw [live?_of_find? h, live?_of_find? hr]

@[simp] theorem live?_clear (t : CursorTable π) (id : CursorId) (now : Instant) :
    t.clear.live? id now = none := rfl

/-- What a wake-up of the reaper leaves: what a visit leaves, or the table as it was. -/
theorem snd_wake (t : CursorTable π) (reaper : Reaper) (now : Instant) (w : ReaperWake) :
    (reaper.wake t now w).2 = t.reap now ∨ (reaper.wake t now w).2 = t := by
  cases w with
  | shutdown => exact .inr rfl
  | tick =>
    cases reaper with
    | waiting ticker listener => exact .inl rfl
    | stopped => exact .inr rfl

end FilterFleet.CursorTable
