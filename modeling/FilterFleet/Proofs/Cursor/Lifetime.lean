import FilterFleet.Proofs.Cursor.Table
import Mathlib.Data.List.Induction

/-!
# How long a cursor counts

A run of calls to a table of cursors, in the order of time, with a supply of random ids from which
`create` draws until one is free.

* A lookup finds a cursor exactly for the time to live, counted from the latest `create` that gave
  its id, and only if the table has not been cleared since (`Tracks` is the invariant).
* A new cursor takes an id that nothing is stored under and leaves all stored ones as they are.
* With a supply without repetitions the reaper cannot be seen: `observed_run` compares a run with
  the same run without any visit of the reaper.
-/

namespace FilterFleet.CursorTable

variable {π : Type}

/-- What is done to a table of cursors. -/
inductive Call (π : Type) where
  | create (state : CursorState π)
  | lookup (id : CursorId)
  | reap
  /-- A reaper, whatever it waits for, is woken. -/
  | wake (reaper : Reaper) (wake : ReaperWake)
  | clear

/-- Whether a call is one of the reaper's. -/
def Call.isReap : Call π → Bool
  | reap => true
  | wake _ _ => true
  | _ => false

/-- What a call answers. -/
inductive Reply (π : Type) where
  | created (id : CursorId)
  | found (state : Option (CursorState π))
  | done

/-- A call with its time and its answer. -/
structure Record (π : Type) where
  now : Instant
  call : Call π
  reply : Reply π

/-- A table, and the random ids that are still to be drawn. -/
structure Supplied (π : Type) where
  table : CursorTable π
  supply : List CursorId

namespace Supplied

/-- Perform a call. A new cursor uses up the ids that are drawn until one is free; there is no
result when none is. -/
def perform (s : Supplied π) (now : Instant) : Call π → Option (Reply π × Supplied π)
  | .create state =>
    (s.table.create? s.supply now state).map fun (id, table) =>
      (.created id, ⟨table, (s.supply.dropWhile s.table.stores).tail⟩)
  | .lookup id => some (.found (s.table.lookup id now).1, ⟨(s.table.lookup id now).2, s.supply⟩)
  | .reap => some (.done, ⟨s.table.reap now, s.supply⟩)
  | .wake reaper w => some (.done, ⟨(reaper.wake s.table now w).2, s.supply⟩)
  | .clear => some (.done, ⟨s.table.clear, s.supply⟩)

/-- Perform calls one after another. -/
def run (s : Supplied π) : List (Instant × Call π) → Option (List (Record π) × Supplied π)
  | [] => some ([], s)
  | (now, call) :: rest =>
    (s.perform now call).bind fun (reply, s) =>
      (s.run rest).map fun (records, s) => (⟨now, call, reply⟩ :: records, s)

theorem run_cons_eq_some {s s' : Supplied π} {now : Instant} {call : Call π}
    {rest : List (Instant × Call π)} {records : List (Record π)} :
    s.run ((now, call) :: rest) = some (records, s') ↔
      ∃ reply s₁ later, s.perform now call = some (reply, s₁) ∧ s₁.run rest = some (later, s') ∧
        records = ⟨now, call, reply⟩ :: later := by
  simp only [run, Option.bind_eq_some_iff, Option.map_eq_some_iff, Prod.exists, Prod.mk.injEq]
  constructor
  · rintro ⟨reply, s₁, hp, later, s₂, hr, rfl, rfl⟩
    exact ⟨reply, s₁, later, hp, hr, rfl⟩
  · rintro ⟨reply, s₁, later, hp, hr, rfl⟩
    exact ⟨reply, s₁, hp, later, s', hr, rfl, rfl⟩

/-- A run keeps the times of its calls. -/
theorem run_times {s s' : Supplied π} {calls : List (Instant × Call π)} {records : List (Record π)}
    (h : s.run calls = some (records, s')) : records.map (·.now) = calls.map (·.1) := by
  induction calls generalizing s records with
  | nil =>
    obtain ⟨rfl, -⟩ := Prod.mk.inj (Option.some.inj h)
    rfl
  | cons c rest ih =>
    obtain ⟨reply, s₁, later, -, hr, rfl⟩ := run_cons_eq_some.mp h
    rw [List.map_cons, List.map_cons, ih hr]

/-- A record splits the run into what came before it, its own call, and what came after. -/
theorem run_split {s s' : Supplied π} {calls : List (Instant × Call π)}
    {before after : List (Record π)} {x : Record π}
    (h : s.run calls = some (before ++ x :: after, s')) :
    ∃ calls₁ calls₂ s₁ s₂, calls = calls₁ ++ (x.now, x.call) :: calls₂ ∧
      s.run calls₁ = some (before, s₁) ∧ s₁.perform x.now x.call = some (x.reply, s₂) := by
  induction before generalizing s calls with
  | nil =>
    cases calls with
    | nil => simp [run] at h
    | cons c rest =>
      obtain ⟨reply, s₁, later, hp, -, heq⟩ := run_cons_eq_some.mp h
      obtain ⟨rfl, -⟩ := List.cons.inj heq
      exact ⟨[], rest, s, s₁, rfl, rfl, hp⟩
  | cons b before ih =>
    cases calls with
    | nil => simp [run] at h
    | cons c rest =>
      obtain ⟨reply, s₁, later, hp, hr, heq⟩ := run_cons_eq_some.mp h
      obtain ⟨rfl, rfl⟩ := List.cons.inj heq
      obtain ⟨calls₁, calls₂, s₂, s₃, rfl, hrun, hx⟩ := ih hr
      exact ⟨c :: calls₁, calls₂, s₂, s₃, rfl, run_cons_eq_some.mpr ⟨_, _, _, hp, hrun, rfl⟩, hx⟩

end Supplied

/-! ## What a run remembers of an id -/

/-- The latest `create` that gave the id was at `created` with `state`, and nothing has been cleared
since. -/
def Stands (records : List (Record π)) (id : CursorId) (created : Instant)
    (state : CursorState π) : Prop :=
  ∃ before since, records = before ++ ⟨created, .create state, .created id⟩ :: since ∧
    ∀ r ∈ since, r.call ≠ .clear ∧ ∀ other, r.call = .create other → r.reply ≠ .created id

/-- What one more record changes about the latest creation of an id. -/
def note (id : CursorId) (known : Option (Instant × CursorState π)) (r : Record π) :
    Option (Instant × CursorState π) :=
  match r.call, r.reply with
  | .create state, .created i => if i = id then some (r.now, state) else known
  | .clear, _ => none
  | _, _ => known

/-- The time and the state of the creation that stands for an id, if one does. -/
def standing? (records : List (Record π)) (id : CursorId) : Option (Instant × CursorState π) :=
  records.foldl (note id) none

theorem standing?_concat (records : List (Record π)) (r : Record π) (id : CursorId) :
    standing? (records ++ [r]) id = note id (standing? records id) r := by
  rw [standing?, List.foldl_append]
  rfl

theorem note_eq_of_since {id : CursorId} {known : Option (Instant × CursorState π)} {r : Record π}
    (hclear : r.call ≠ .clear)
    (hcreate : ∀ other, r.call = .create other → r.reply ≠ .created id) :
    note id known r = known := by
  rw [note]
  split
  · next state i hc hr =>
    rw [if_neg]
    rintro rfl
    exact hcreate state hc hr
  · next hc => exact absurd hc hclear
  · rfl

theorem foldl_note_of_since {id : CursorId} (known : Option (Instant × CursorState π))
    {since : List (Record π)}
    (h : ∀ r ∈ since, r.call ≠ .clear ∧ ∀ other, r.call = .create other → r.reply ≠ .created id) :
    since.foldl (note id) known = known := by
  induction since with
  | nil => rfl
  | cons r rest ih =>
    obtain ⟨hclear, hcreate⟩ := h r List.mem_cons_self
    rw [List.foldl_cons, note_eq_of_since hclear hcreate]
    exact ih fun x hx => h x (List.mem_cons_of_mem _ hx)

theorem Stands.concat {records : List (Record π)} {id : CursorId} {created : Instant}
    {state : CursorState π} (h : Stands records id created state) {r : Record π}
    (hclear : r.call ≠ .clear)
    (hcreate : ∀ other, r.call = .create other → r.reply ≠ .created id) :
    Stands (records ++ [r]) id created state := by
  obtain ⟨before, since, rfl, hsince⟩ := h
  refine ⟨before, since ++ [r], by simp, fun x hx => ?_⟩
  rcases List.mem_append.mp hx with hx | hx
  · exact hsince x hx
  · obtain rfl := List.mem_singleton.mp hx
    exact ⟨hclear, hcreate⟩

/-- The fold finds the creation that stands. -/
theorem standing?_eq_some_iff (records : List (Record π)) (id : CursorId) (created : Instant)
    (state : CursorState π) :
    standing? records id = some (created, state) ↔ Stands records id created state := by
  constructor
  · induction records using List.reverseRecOn with
    | nil => simp [standing?]
    | append_singleton records r ih =>
      rw [standing?_concat]
      obtain ⟨now, call, reply⟩ := r
      -- a record either leaves what stood, or is itself the creation that stands
      cases call with
      | create given =>
        cases reply with
        | created i =>
          simp only [note]
          split
          · next hi =>
            intro h
            obtain ⟨rfl, rfl⟩ := Prod.mk.inj (Option.some.inj h)
            exact ⟨records, [], by rw [hi], by simp⟩
          · next hi =>
            intro h
            exact (ih h).concat (by simp) fun _ _ heq => hi (Reply.created.inj heq)
        | found _ => exact fun h => (ih h).concat (by simp) (by simp)
        | done => exact fun h => (ih h).concat (by simp) (by simp)
      | lookup _ => exact fun h => (ih h).concat (by simp) (by simp)
      | reap => exact fun h => (ih h).concat (by simp) (by simp)
      | wake _ _ => exact fun h => (ih h).concat (by simp) (by simp)
      | clear => exact fun h => by simp [note] at h
  · rintro ⟨before, since, rfl, hsince⟩
    rw [standing?, List.foldl_append, List.foldl_cons, foldl_note_of_since _ hsince]
    simp [note]

/-! ## The table after a run -/

/-- The table agrees with its past: from the last record on, what counts under an id is the state of
the creation that stands for it, for the time to live. -/
structure Tracks (t : CursorTable π) (past : List (Record π)) : Prop where
  distinct : t.Distinct
  live : ∀ id later, (∀ r ∈ past, r.now ≤ later) →
    t.live? id later =
      (standing? past id).bind fun c => if later < c.1 + t.ttl then some c.2 else none

theorem tracks_empty (ttl : Span) : Tracks (empty ttl : CursorTable π) [] :=
  ⟨distinct_empty ttl, fun _ _ _ => rfl⟩

/-- A record that neither creates nor clears keeps the agreement if it changes nothing about what
counts from then on. -/
theorem Tracks.concat {t t' : CursorTable π} {past : List (Record π)} (h : Tracks t past)
    {r : Record π} (hclear : r.call ≠ .clear)
    (hcreate : ∀ id other, r.call = .create other → r.reply ≠ .created id)
    (hd : t'.Distinct) (httl : t'.ttl = t.ttl)
    (hlive : ∀ id later, r.now ≤ later → t'.live? id later = t.live? id later) :
    Tracks t' (past ++ [r]) := by
  refine ⟨hd, fun id later hle => ?_⟩
  have hr : r.now ≤ later := hle r (by simp)
  have hpast : ∀ x ∈ past, x.now ≤ later := fun x hx => hle x (by simp [hx])
  rw [hlive id later hr, h.live id later hpast, standing?_concat,
    note_eq_of_since hclear (hcreate id), httl]

/-- **Every call keeps the agreement of the table with its past.** -/
theorem Tracks.perform {s s' : Supplied π} {past : List (Record π)} (h : Tracks s.table past)
    {now : Instant} {call : Call π} {reply : Reply π}
    (hp : s.perform now call = some (reply, s')) :
    Tracks s'.table (past ++ [⟨now, call, reply⟩]) ∧ s'.table.ttl = s.table.ttl := by
  cases call with
  | create state =>
    obtain ⟨⟨id, t'⟩, hc, heq⟩ := Option.map_eq_some_iff.mp hp
    obtain ⟨rfl, rfl⟩ := Prod.mk.inj heq
    obtain ⟨-, -, rfl⟩ := create?_eq_some hc
    refine ⟨⟨h.distinct.create hc, fun other later hle => ?_⟩, rfl⟩
    have hpast : ∀ x ∈ past, x.now ≤ later := fun x hx => hle x (by simp [hx])
    rw [live?_create hc, standing?_concat, note]
    by_cases ho : id = other
    · simp [ho]
    · simp [ho, h.live other later hpast]
  | lookup id =>
    obtain ⟨rfl, rfl⟩ := Prod.mk.inj (Option.some.inj hp)
    have hsub := s.table.sublist_lookup id now
    have httl := s.table.ttl_lookup id now
    refine ⟨h.concat (by simp) (by simp) (h.distinct.of_sublist hsub) httl ?_, httl⟩
    exact fun other later hle => s.table.live?_lookup id other hle
  | reap =>
    obtain ⟨rfl, rfl⟩ := Prod.mk.inj (Option.some.inj hp)
    refine ⟨h.concat (by simp) (by simp) (h.distinct.of_sublist List.filter_sublist) rfl ?_, rfl⟩
    exact fun other later hle => live?_reap h.distinct other hle
  | wake reaper w =>
    obtain ⟨rfl, rfl⟩ := Prod.mk.inj (Option.some.inj hp)
    show Tracks (reaper.wake s.table now w).2 _ ∧ (reaper.wake s.table now w).2.ttl = _
    rcases s.table.snd_wake reaper now w with hw | hw <;> rw [hw]
    · refine ⟨h.concat (by simp) (by simp) (h.distinct.of_sublist List.filter_sublist) rfl ?_, rfl⟩
      exact fun other later hle => live?_reap h.distinct other hle
    · exact ⟨h.concat (by simp) (by simp) h.distinct rfl fun _ _ _ => rfl, rfl⟩
  | clear =>
    obtain ⟨rfl, rfl⟩ := Prod.mk.inj (Option.some.inj hp)
    refine ⟨⟨List.nodup_nil, fun id later _ => ?_⟩, rfl⟩
    rw [live?_clear, standing?_concat]
    rfl

/-- A run keeps the agreement of the table with its past. -/
theorem Tracks.run {s s' : Supplied π} {past records : List (Record π)} (h : Tracks s.table past)
    {calls : List (Instant × Call π)} (hr : s.run calls = some (records, s')) :
    Tracks s'.table (past ++ records) ∧ s'.table.ttl = s.table.ttl := by
  induction calls generalizing s past records with
  | nil =>
    obtain ⟨rfl, rfl⟩ := Prod.mk.inj (Option.some.inj hr)
    exact ⟨by simpa using h, rfl⟩
  | cons c rest ih =>
    obtain ⟨reply, s₁, later, hp, hrest, rfl⟩ := Supplied.run_cons_eq_some.mp hr
    obtain ⟨h₁, httl₁⟩ := h.perform hp
    obtain ⟨h₂, httl₂⟩ := ih h₁ hrest
    exact ⟨by simpa using h₂, httl₂.trans httl₁⟩

/-! ## The reaper cannot be seen -/

/-- No stored cursor has an id that is still to be drawn, and no id is to be drawn twice. -/
structure Supplied.Fresh (s : Supplied π) : Prop where
  nodup : s.supply.Nodup
  unstored : ∀ e ∈ s.table.entries, e.id ∉ s.supply

/-- Two tables that cannot be told apart from `now` on. -/
structure Supplied.Alike (s s' : Supplied π) (now : Instant) : Prop where
  distinct : s.table.Distinct
  distinct' : s'.table.Distinct
  fresh : s.Fresh
  fresh' : s'.Fresh
  supply : s'.supply = s.supply
  ttl : s'.table.ttl = s.table.ttl
  live : ∀ id later, now ≤ later → s'.table.live? id later = s.table.live? id later

theorem Supplied.alike_self {s : Supplied π} (hd : s.table.Distinct) (hf : s.Fresh)
    (now : Instant) :
    s.Alike s now :=
  ⟨hd, hd, hf, hf, rfl, rfl, fun _ _ _ => rfl⟩

theorem Supplied.Fresh.of_sublist {s : Supplied π} (h : s.Fresh) {t : CursorTable π}
    (hs : t.entries.Sublist s.table.entries) : (⟨t, s.supply⟩ : Supplied π).Fresh :=
  ⟨h.nodup, fun e he => h.unstored e (hs.subset he)⟩

/-- The first id of a fresh supply is free. -/
theorem Supplied.Fresh.perform_create {s : Supplied π} (h : s.Fresh) {id : CursorId}
    {rest : List CursorId} (hs : s.supply = id :: rest) (now : Instant) (state : CursorState π) :
    ∃ t, s.table.create? s.supply now state = some (id, t) ∧
      s.perform now (.create state) = some (.created id, ⟨t, rest⟩) ∧
      (⟨t, rest⟩ : Supplied π).Fresh := by
  obtain ⟨hnot, hrest⟩ := List.nodup_cons.mp (hs ▸ h.nodup)
  have hfree : s.table.stores id = false := by
    have hnone : s.table.find? id = none :=
      (s.table.find?_eq_none_iff id).mpr fun e he heq =>
        h.unstored e he (by rw [hs, heq]; exact List.mem_cons_self)
    simp [stores, hnone]
  have hc : s.table.create? s.supply now state =
      some (id, { s.table with entries := ⟨id, state, now + s.table.ttl⟩ :: s.table.entries }) := by
    rw [create?, hs, List.find?_cons_of_pos (by simp [hfree])]
    rfl
  refine ⟨_, hc, ?_, hrest, fun e he => ?_⟩
  · rw [perform, hc, hs, List.dropWhile_cons_of_neg (by simp [hfree])]
    rfl
  · rcases List.mem_cons.mp he with rfl | he
    · exact hnot
    · exact fun hin => h.unstored e he (by rw [hs]; exact List.mem_cons_of_mem _ hin)

theorem Supplied.perform_create_of_nil {s : Supplied π} (hs : s.supply = []) (now : Instant)
    (state : CursorState π) : s.perform now (.create state) = none := by
  simp [perform, create?, hs]

/-- A visit of the reaper in one of two alike tables leaves them alike. -/
theorem Supplied.Alike.reap {s s' : Supplied π} {now : Instant} (h : s.Alike s' now)
    {call : Call π} (hcall : call.isReap = true) :
    ∃ t, s.perform now call = some (.done, ⟨t, s.supply⟩) ∧
      (⟨t, s.supply⟩ : Supplied π).Alike s' now := by
  have visited : (⟨s.table.reap now, s.supply⟩ : Supplied π).Alike s' now :=
    { distinct := h.distinct.of_sublist List.filter_sublist
      distinct' := h.distinct'
      fresh := h.fresh.of_sublist List.filter_sublist
      fresh' := h.fresh'
      supply := h.supply
      ttl := h.ttl
      live := fun id later hle => by rw [h.live id later hle, live?_reap h.distinct id hle] }
  cases call with
  | reap => exact ⟨_, rfl, visited⟩
  | wake reaper w =>
    refine ⟨_, rfl, ?_⟩
    rcases s.table.snd_wake reaper now w with hw | hw <;> rw [hw]
    · exact visited
    · exact h
  | create _ => cases hcall
  | lookup _ => cases hcall
  | clear => cases hcall

/-- Every other call answers the same in two alike tables and leaves them alike. -/
theorem Supplied.Alike.perform {s s' : Supplied π} {now : Instant} (h : s.Alike s' now)
    {call : Call π} (hcall : call.isReap = false) :
    (s.perform now call = none ∧ s'.perform now call = none) ∨
      ∃ reply s₁ s₁', s.perform now call = some (reply, s₁) ∧
        s'.perform now call = some (reply, s₁') ∧ s₁.Alike s₁' now := by
  cases call with
  | create state =>
    cases hs : s.supply with
    | nil =>
      exact .inl ⟨perform_create_of_nil hs now state,
        perform_create_of_nil (h.supply.trans hs) now state⟩
    | cons id rest =>
      obtain ⟨t, hc, hp, hf⟩ := h.fresh.perform_create hs now state
      obtain ⟨t', hc', hp', hf'⟩ := h.fresh'.perform_create (h.supply.trans hs) now state
      have httl : t.ttl = s.table.ttl := by rw [(create?_eq_some hc).2.2]
      have httl' : t'.ttl = s'.table.ttl := by rw [(create?_eq_some hc').2.2]
      refine .inr ⟨_, _, _, hp, hp', h.distinct.create hc, h.distinct'.create hc', hf, hf', rfl,
        by rw [httl, httl', h.ttl], fun other later hle => ?_⟩
      rw [live?_create hc, live?_create hc', h.ttl, h.live other later hle]
  | lookup id =>
    have hsame : (s'.table.lookup id now).1 = (s.table.lookup id now).1 := by
      rw [fst_lookup, fst_lookup, h.live id now (Nat.le_refl now)]
    refine .inr ⟨.found (s.table.lookup id now).1, _, _, rfl, by rw [Supplied.perform, hsame], ?_⟩
    exact
      { distinct := h.distinct.of_sublist (s.table.sublist_lookup id now)
        distinct' := h.distinct'.of_sublist (s'.table.sublist_lookup id now)
        fresh := h.fresh.of_sublist (s.table.sublist_lookup id now)
        fresh' := h.fresh'.of_sublist (s'.table.sublist_lookup id now)
        supply := h.supply
        ttl := by rw [ttl_lookup, ttl_lookup, h.ttl]
        live := fun other later hle => by
          rw [live?_lookup _ id other hle, live?_lookup _ id other hle, h.live other later hle] }
  | clear =>
    refine .inr ⟨.done, _, _, rfl, rfl, ?_⟩
    exact
      { distinct := List.nodup_nil
        distinct' := List.nodup_nil
        fresh := h.fresh.of_sublist (List.nil_sublist _)
        fresh' := h.fresh'.of_sublist (List.nil_sublist _)
        supply := h.supply
        ttl := h.ttl
        live := fun _ _ _ => rfl }
  | reap => cases hcall
  | wake _ _ => cases hcall

/-- **Without repeated ids the reaper cannot be seen**: taking all its visits out of a run changes
nothing about the other calls and their answers. -/
theorem Supplied.Alike.observed_run {s s' : Supplied π} {now : Instant} (h : s.Alike s' now)
    {calls : List (Instant × Call π)} (hord : (now :: calls.map (·.1)).Pairwise (· ≤ ·)) :
    (s.run calls).map (fun p => p.1.filter fun r => !r.call.isReap) =
      (s'.run (calls.filter fun c => !c.2.isReap)).map (·.1) := by
  induction calls generalizing s s' now with
  | nil => rfl
  | cons c rest ih =>
    obtain ⟨time, call⟩ := c
    obtain ⟨hnow, hrest⟩ := List.pairwise_cons.mp hord
    have hle : now ≤ time := hnow time (by simp)
    have hlater : s.Alike s' time :=
      { h with live := fun id later hl => h.live id later (Nat.le_trans hle hl) }
    cases hcall : call.isReap with
    | true =>
      obtain ⟨t, hp, halike⟩ := hlater.reap hcall
      have hkept : ((time, call) :: rest).filter (fun c => !c.2.isReap) =
          rest.filter fun c => !c.2.isReap := by simp [hcall]
      rw [hkept, ← ih halike hrest, run, hp, Option.bind_some, Option.map_map]
      congr 1
      funext p
      simp [hcall]
    | false =>
      have hkept : ((time, call) :: rest).filter (fun c => !c.2.isReap) =
          (time, call) :: rest.filter fun c => !c.2.isReap := by simp [hcall]
      rw [hkept, run, run]
      rcases hlater.perform hcall with ⟨hp, hp'⟩ | ⟨reply, s₁, s₁', hp, hp', halike⟩
      · rw [hp, hp']
        rfl
      · rw [hp, hp', Option.bind_some, Option.bind_some, Option.map_map, Option.map_map]
        calc
          _ = ((s₁.run rest).map fun p => p.1.filter fun r => !r.call.isReap).map
              (⟨time, call, reply⟩ :: ·) := by
            rw [Option.map_map]
            congr 1
            funext p
            simp [hcall]
          _ = ((s₁'.run (rest.filter fun c => !c.2.isReap)).map (·.1)).map
              (⟨time, call, reply⟩ :: ·) := by rw [ih halike hrest]
          _ = _ := by
            rw [Option.map_map]
            rfl

/-! ## The time to live -/

/-- A lookup in a run finds the creation that stands for the id, for the time to live. -/
theorem Supplied.lookup_found_iff {ttl : Span} {supply : List CursorId}
    {calls : List (Instant × Call π)} {s : Supplied π} {before after : List (Record π)}
    {x : Record π} (hord : (calls.map (·.1)).Pairwise (· ≤ ·))
    (hrun : (⟨empty ttl, supply⟩ : Supplied π).run calls = some (before ++ x :: after, s))
    {id : CursorId} (hx : x.call = .lookup id) :
    ∃ found, x.reply = .found found ∧
      ∀ state, found = some state ↔
        ∃ created, Stands before id created state ∧ x.now < created + ttl := by
  obtain ⟨calls₁, calls₂, s₁, s₂, rfl, hbefore, hp⟩ := run_split hrun
  obtain ⟨htracks, httl⟩ := Tracks.run (tracks_empty ttl) hbefore
  rw [hx] at hp
  obtain ⟨hreply, -⟩ := Prod.mk.inj (Option.some.inj hp)
  have hpast : ∀ r ∈ before, r.now ≤ x.now := by
    intro r hr
    rw [List.map_append] at hord
    refine (List.pairwise_append.mp hord).2.2 r.now ?_ x.now (by simp)
    rw [← run_times hbefore]
    exact List.mem_map_of_mem hr
  refine ⟨(s₁.table.lookup id x.now).1, hreply.symm, fun state => ?_⟩
  rw [fst_lookup, htracks.live id x.now hpast, httl, Option.bind_eq_some_iff]
  constructor
  · rintro ⟨⟨created, given⟩, hc, hlive⟩
    obtain ⟨hlt, hstate⟩ := Option.ite_none_right_eq_some.mp hlive
    obtain rfl := Option.some.inj hstate
    exact ⟨created, (standing?_eq_some_iff before id created given).mp hc, hlt⟩
  · rintro ⟨created, hstands, hlt⟩
    have hgiven := (standing?_eq_some_iff before id created state).mpr hstands
    exact ⟨(created, state), hgiven, if_pos hlt⟩

/-- A new cursor takes an id that nothing is stored under, and leaves what is stored. -/
theorem Supplied.perform_create_spec {s s' : Supplied π} {now : Instant} {state : CursorState π}
    {reply : Reply π} (h : s.perform now (.create state) = some (reply, s')) :
    ∃ id, reply = .created id ∧ s.table.stores id = false ∧
      ∀ other e, s.table.find? other = some e → s'.table.find? other = some e := by
  obtain ⟨⟨id, t⟩, hc, heq⟩ := Option.map_eq_some_iff.mp h
  obtain ⟨rfl, rfl⟩ := Prod.mk.inj heq
  obtain ⟨-, hfree, -⟩ := create?_eq_some hc
  refine ⟨id, rfl, by simp [stores, hfree], fun other e he => ?_⟩
  have hne : id ≠ other := by
    rintro rfl
    simp [hfree] at he
  rw [find?_create hc, if_neg hne]
  exact he

/-- Two runs that differ in visits of the reaper only give the same answers. -/
theorem Supplied.run_of_same_calls (ttl : Span) {supply : List CursorId} (hnodup : supply.Nodup)
    {calls calls' : List (Instant × Call π)} (hord : (calls.map (·.1)).Pairwise (· ≤ ·))
    (hord' : (calls'.map (·.1)).Pairwise (· ≤ ·))
    (hsame : (calls'.filter fun c => !c.2.isReap) = calls.filter fun c => !c.2.isReap) :
    ((⟨empty ttl, supply⟩ : Supplied π).run calls').map (fun p => p.1.filter (!·.call.isReap)) =
      ((⟨empty ttl, supply⟩ : Supplied π).run calls).map fun p => p.1.filter (!·.call.isReap) := by
  have hfresh : (⟨empty ttl, supply⟩ : Supplied π).Fresh := ⟨hnodup, by simp [empty]⟩
  have halike := alike_self (distinct_empty ttl) hfresh 0
  have hzero : ∀ times : List Instant, times.Pairwise (· ≤ ·) → (0 :: times).Pairwise (· ≤ ·) :=
    fun times h => List.pairwise_cons.mpr ⟨fun t _ => Nat.zero_le t, h⟩
  rw [halike.observed_run (hzero _ hord), halike.observed_run (hzero _ hord'), hsame]

/-- **A cursor counts for exactly its time to live, under an id of its own, and the reaper cannot be
seen.** -/
theorem lookup_create_reap_exact {ttl : Span} {supply : List CursorId}
    {calls : List (Instant × Call π)} {records : List (Record π)} {s : Supplied π}
    (hord : (calls.map (·.1)).Pairwise (· ≤ ·))
    (hrun : (⟨empty ttl, supply⟩ : Supplied π).run calls = some (records, s)) :
    (∀ before x after id, records = before ++ x :: after → x.call = .lookup id →
      ∃ found, x.reply = .found found ∧
        ∀ state, found = some state ↔
          ∃ created, Stands before id created state ∧ x.now < created + ttl) ∧
    (∀ before x after state, records = before ++ x :: after → x.call = .create state →
      ∃ earlier s₁ s₂ id, (⟨empty ttl, supply⟩ : Supplied π).run earlier = some (before, s₁) ∧
        s₁.perform x.now x.call = some (x.reply, s₂) ∧ x.reply = .created id ∧
        s₁.table.stores id = false ∧
        ∀ other e, s₁.table.find? other = some e → s₂.table.find? other = some e) ∧
    (supply.Nodup → ∀ calls', (calls'.map (·.1)).Pairwise (· ≤ ·) →
      (calls'.filter fun c => !c.2.isReap) = (calls.filter fun c => !c.2.isReap) →
      ∃ records' s', (⟨empty ttl, supply⟩ : Supplied π).run calls' = some (records', s') ∧
        (records'.filter fun r => !r.call.isReap) = records.filter fun r => !r.call.isReap) := by
  refine ⟨fun before x after id hrec hcall => ?_, fun before x after state hrec hcall => ?_,
    fun hnodup calls' hord' hsame => ?_⟩
  · subst hrec
    exact Supplied.lookup_found_iff hord hrun hcall
  · subst hrec
    obtain ⟨calls₁, calls₂, s₁, s₂, rfl, hbefore, hp⟩ := Supplied.run_split hrun
    obtain ⟨id, hreply, hfree, hkept⟩ := Supplied.perform_create_spec (hcall ▸ hp)
    exact ⟨calls₁, s₁, s₂, id, hbefore, hp, hreply, hfree, hkept⟩
  · have heq := Supplied.run_of_same_calls ttl hnodup hord hord' hsame
    rw [hrun, Option.map_some, Option.map_eq_some_iff] at heq
    obtain ⟨⟨records', s'⟩, hrun', hkept⟩ := heq
    exact ⟨records', s', hrun', hkept⟩

/-- A cursor with a time to live of ten is found at nine and not at ten, whether or not the reaper
comes by in between; the next cursor draws on. -/
theorem lookup_at_end_of_life :
    let a := CursorId.ofNat 1
    let b := CursorId.ofNat 2
    let state : CursorState Unit := ⟨(), .empty⟩
    let first : Record Unit := ⟨0, .create state, .created a⟩
    let second : Record Unit := ⟨9, .lookup a, .found (some state)⟩
    (∃ created, Stands [first] a created state ∧ 9 < created + 10) ∧
      (¬ ∃ created, Stands [first, second, ⟨10, .reap, .done⟩] a created state ∧
        10 < created + 10) ∧
      ∃ records s, (⟨empty 10, [a, b]⟩ : Supplied Unit).run
          [(0, .create state), (9, .lookup a), (10, .lookup a), (11, .create state)] =
            some (records, s) ∧
        (records.filter fun r => !r.call.isReap) =
          [first, second, ⟨10, .lookup a, .found none⟩, ⟨11, .create state, .created b⟩] := by
  intro a b state first second
  obtain ⟨s, hrun⟩ : ∃ s, (⟨empty 10, [a, b]⟩ : Supplied Unit).run
      [(0, .create state), (9, .lookup a), (10, .reap), (10, .lookup a), (11, .create state)] =
        some ([first, second, ⟨10, .reap, .done⟩, ⟨10, .lookup a, .found none⟩,
          ⟨11, .create state, .created b⟩], s) := ⟨_, rfl⟩
  obtain ⟨hlookup, -, hreap⟩ := lookup_create_reap_exact (by decide) hrun
  refine ⟨?_, ?_, ?_⟩
  · obtain ⟨found, hreply, hfound⟩ := hlookup [first] second _ a rfl rfl
    exact (hfound state).mp (Reply.found.inj hreply).symm
  · obtain ⟨found, hreply, hfound⟩ :=
      hlookup [first, second, ⟨10, .reap, .done⟩] ⟨10, .lookup a, .found none⟩ _ a rfl rfl
    intro h
    have hsome := (hfound state).mpr h
    rw [← Reply.found.inj hreply] at hsome
    cases hsome
  · exact hreap (by decide) _ (by decide) rfl

end FilterFleet.CursorTable
