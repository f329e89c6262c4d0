import FilterFleet.Proofs.Cluster.Chain
import FilterFleet.Proofs.Cluster.Passage

/-!
# What a follow-up page reports and stores

A call with a cursor goes on from what is stored under the cursor. While it is under way the nodes
answer, fail, are late, come and go; nothing of that touches the table of cursors
(`PageCalls.Pending`). When every node has a result, the answers are compared with the offsets that
are stored: if no node has answered with anything new (`OpenPage.Unmoved`), the page repeats its
cursor and says that the results are over, and nothing is stored; else how far the nodes have come
is stored under a new id, beside all that was there. A call whose cursor is missing asks nobody.

`PageCalls.page_exact` says this of every call, from its start to its page.
-/

namespace FilterFleet

/-! ## Whether nodes have come any further -/

namespace OpenPage

/-- No node has answered with another cursor value than the one that is remembered of it. -/
def Unmoved (offsets : NodeMap Int64) (results : FanOut QueryPage) : Prop :=
  ∀ id o, answered? results id = some o → offsets.find? id = some o

theorem entries_advance_eq_iff (offsets : NodeMap Int64) (results : FanOut QueryPage) :
    (advance offsets results).entries = offsets.entries ↔ Unmoved offsets results := by
  constructor
  · intro h id o ho
    have hfind : (advance offsets results).find? id = offsets.find? id := by
      rw [NodeMap.find?, NodeMap.find?, h]
    rw [find?_advance, ho] at hfind
    exact hfind.symm
  · intro h
    refine NodeMap.entries_eq_of_find? fun id => ?_
    rw [find?_advance]
    cases ho : answered? results id with
    | none => rfl
    | some o => exact (h id o ho).symm

end OpenPage

namespace Cluster

variable {c : Cluster} {r : FetchRequest} {id : CursorId} {now : Instant}

/-! ## Opening a page that follows a cursor -/

theorem openPage_of_missing (hid : r.cursor = some id) (h : c.cursors.live? id now = none) :
    c.openPage r now =
      (.error (.cursorNotFound id), { c with cursors := (c.cursors.lookup id now).2 }) := by
  have hfound : (c.cursors.lookup id now).1 = none := (c.cursors.fst_lookup id now).trans h
  unfold openPage
  rw [hid]
  dsimp only
  rw [hfound]

theorem openPage_of_live {e : CursorEntry SearchParams} (hid : r.cursor = some id)
    (he : c.cursors.find? id = some e) (hlive : now < e.expiresAt) :
    c.openPage r now =
      (.ok ⟨some id, e.state.params, r.length.or e.state.params.length, e.state.offsets⟩, c) := by
  unfold openPage
  rw [hid]
  dsimp only
  rw [CursorTable.lookup_of_find? he hlive]

/-! ## Putting a page together -/

variable {p : OpenPage} {results : FanOut QueryPage} {draws : List CursorId}

theorem landPage?_of_unmoved (hid : p.cursor = some id) (h : OpenPage.Unmoved p.offsets results) :
    c.landPage? p results draws now = some (⟨id, results, true⟩, c) := by
  have hsame := (OpenPage.entries_advance_eq_iff p.offsets results).mpr h
  have hend : (p.cursor.filter fun _ =>
      (OpenPage.advance p.offsets results).entries == p.offsets.entries) = some id := by
    rw [hid, hsame]
    simp
  unfold landPage?
  dsimp only
  rw [hend]

/-- A page gets a new cursor, if it is a first page or a node has come any further, as soon as a
free id is drawn. -/
theorem landPage?_of_moved (c : Cluster) (now : Instant)
    (h : p.cursor = none ∨ ¬ OpenPage.Unmoved p.offsets results)
    (hfree : ∃ d ∈ draws, c.cursors.find? d = none) :
    ∃ new cursors, c.landPage? p results draws now =
        some (⟨new, results, false⟩, { c with cursors }) ∧
      c.cursors.create? draws now ⟨p.params, OpenPage.advance p.offsets results⟩ =
        some (new, cursors) := by
  have hend : (p.cursor.filter fun _ =>
      (OpenPage.advance p.offsets results).entries == p.offsets.entries) = none := by
    rcases h with hnone | hmoved
    · rw [hnone]
      rfl
    · rw [Option.filter_eq_none_iff]
      intro _ _ heq
      exact hmoved ((OpenPage.entries_advance_eq_iff _ _).mp (by simpa using heq))
  obtain ⟨d, hd, hnone⟩ := hfree
  obtain ⟨⟨new, cursors⟩, hcreate⟩ := Option.isSome_iff_exists.mp
    (CursorTable.create?_isSome hd hnone now ⟨p.params, OpenPage.advance p.offsets results⟩)
  refine ⟨new, cursors, ?_, hcreate⟩
  unfold landPage?
  dsimp only
  rw [hend, hcreate]
  rfl

end Cluster

namespace PageCalls

variable {s : PageCalls} {call : Nat} {page : OpenPage}

/-! ## Calls under way -/

/-- The call of a number, if it is under way. -/
def call? (s : PageCalls) (call : Nat) : Option PageCall := s.underway.find? fun u => u.call = call

theorem call?_onFlight (s : PageCalls) (other call : Nat)
    (f : Flight QueryPage → Flight QueryPage) :
    (s.onFlight other f).call? call =
      (s.call? call).map fun u =>
        if u.call = other then { u with flight := f u.flight } else u := by
  have hcall : ((fun u : PageCall => decide (u.call = call)) ∘ fun u =>
      if u.call = other then { u with flight := f u.flight } else u) =
        fun u => decide (u.call = call) := by
    funext u
    by_cases hu : u.call = other <;> simp [hu]
  rw [call?, onFlight, List.find?_map, hcall, call?]

theorem call?_drop (s : PageCalls) (other call : Nat) :
    (s.drop other).call? call = if other = call then none else s.call? call := by
  have hfilter : (s.underway.filter fun u => u.call ≠ other) =
      s.underway.filter fun u => u.call != other := by
    simp only [ne_eq, decide_not]
    rfl
  rw [call?, drop, hfilter]
  exact find?_filter_key PageCall.call other call s.underway

/-- A call that goes on stays as it is, or is over with a page that is seen. -/
theorem land_cases (s : PageCalls) (now : Instant) (u : PageCall) (draws : List CursorId) :
    s.land now u draws = s ∨
      ∃ results page cluster, s.cluster.landPage? u.page results draws now = some (page, cluster) ∧
        s.land now u draws =
          { s.drop u.call with cluster, seen := .landed u.call page :: s.seen } := by
  unfold land
  split
  · exact .inl rfl
  · next results _ =>
    split
    · exact .inl rfl
    · next page cluster h => exact .inr ⟨results, page, cluster, h, rfl⟩

/-! ## What a call asked for stays what it asked for -/

/-- A call has been made, and as long as it is under way it is for this page. -/
structure IsFor (call : Nat) (page : OpenPage) (s : PageCalls) : Prop where
  numbered : call < s.next
  page : ∀ u, s.call? call = some u → u.page = page

theorem IsFor.onFlight (h : IsFor call page s) (other : Nat)
    (f : Flight QueryPage → Flight QueryPage) : IsFor call page (s.onFlight other f) := by
  refine ⟨h.numbered, fun u hu => ?_⟩
  rw [call?_onFlight] at hu
  obtain ⟨u₀, hu₀, rfl⟩ := Option.map_eq_some_iff.mp hu
  have hpage := h.page u₀ hu₀
  split <;> exact hpage

theorem IsFor.drop (h : IsFor call page s) (other : Nat) : IsFor call page (s.drop other) := by
  refine ⟨h.numbered, fun u hu => ?_⟩
  rw [call?_drop] at hu
  split at hu
  · cases hu
  · exact h.page u hu

theorem IsFor.fetch (h : IsFor call page s) (now : Instant) (r : FetchRequest) :
    IsFor call page (s.fetch now r) := by
  obtain ⟨cluster, -, heq | ⟨opened, asked, -, -, heq⟩⟩ := fetch_cases s now r
  · rw [heq]
    exact ⟨h.numbered, h.page⟩
  · have hne : s.next ≠ call := Nat.ne_of_gt h.numbered
    rw [heq]
    refine ⟨Nat.lt_succ_of_lt h.numbered, fun u hu => h.page u ?_⟩
    rwa [call?, List.find?_cons_of_neg (by simpa using hne)] at hu

theorem IsFor.step (h : IsFor call page s) (now : Instant) (e : Event) :
    IsFor call page (s.step now e) := by
  cases e with
  | change x => exact ⟨h.numbered, h.page⟩
  | reap => exact ⟨h.numbered, h.page⟩
  | clear => exact ⟨h.numbered, h.page⟩
  | fetch r => exact h.fetch now r
  | ended other id callEnd => exact h.onFlight other (·.report id callEnd)
  | expired other => exact h.onFlight other Flight.expire
  | abandoned other => exact h.drop other
  | landed other draws =>
    simp only [PageCalls.step]
    split
    · exact h
    · next u _ =>
      rcases land_cases s now u draws with heq | ⟨-, landed, cluster, -, heq⟩
      · rw [heq]
        exact h
      · rw [heq]
        exact ⟨h.numbered, (h.drop u.call).page⟩

theorem IsFor.run (h : IsFor call page s) (events : List (Instant × Event)) :
    IsFor call page (s.run events) := by
  induction events generalizing s with
  | nil => exact h
  | cons e rest ih => exact ih (h.step e.1 e.2)

/-- A first page does not end the results. -/
theorem IsFor.landed_of_first (h : IsFor call page s) (hfirst : page.cursor = none)
    {later : Instant} {draws : List CursorId} {landed : FleetPage}
    (hseen : (s.step later (.landed call draws)).seen = .landed call landed :: s.seen) :
    landed.endOfResults = false := by
  have hnew : s.seen ≠ .landed call landed :: s.seen := (List.cons_ne_self _ _).symm
  rw [PageCalls.step] at hseen
  split at hseen
  · exact absurd hseen hnew
  · next u hu =>
    rcases land_cases s later u draws with heq | ⟨results, landed', cluster, hpage, heq⟩
    · rw [heq] at hseen
      exact absurd hseen hnew
    · rw [heq] at hseen
      obtain ⟨hlanded, -⟩ := List.cons.inj hseen
      obtain ⟨-, rfl⟩ := Sighting.landed.inj hlanded
      rw [h.page u hu] at hpage
      rcases (Cluster.landPage?_eq_some hpage).2 with ⟨-, hcursor, -⟩ | ⟨hend, -⟩
      · cases hfirst.symm.trans hcursor
      · exact hend

/-! ## A call that nothing else disturbs -/

/-- An event that is about neither the table of cursors nor the end of a call: members come and go,
nodes answer, fail and run out of time, searches are started, and other calls are given up. -/
def Event.Spares (call : Nat) : Event → Prop
  | .change _ => True
  | .ended _ _ _ => True
  | .expired _ => True
  | .fetch r => r.cursor = none
  | .abandoned other => other ≠ call
  | .reap => False
  | .clear => False
  | .landed _ _ => False

/-- A call for a page, which asked the members of `start`, is under way, and the cursors are those
of `start`. -/
structure Pending (start : Cluster) (call : Nat) (page : OpenPage) (s : PageCalls) : Prop where
  cursors : s.cluster.cursors = start.cursors
  numbered : call < s.next
  underway : ∃ flight, s.call? call = some ⟨call, page, flight⟩ ∧
    flight.legs.ids = start.members.ids

variable {start : Cluster}

theorem Pending.onFlight (h : Pending start call page s) (other : Nat)
    {f : Flight QueryPage → Flight QueryPage} (hf : ∀ g, (f g).legs.ids = g.legs.ids) :
    Pending start call page (s.onFlight other f) := by
  obtain ⟨flight, hfound, hids⟩ := h.underway
  refine ⟨h.cursors, h.numbered, if call = other then f flight else flight, ?_, ?_⟩
  · rw [call?_onFlight, hfound, Option.map_some]
    by_cases ho : call = other <;> simp [ho]
  · split
    · exact (hf flight).trans hids
    · exact hids

theorem Pending.drop (h : Pending start call page s) {other : Nat} (hne : other ≠ call) :
    Pending start call page (s.drop other) := by
  obtain ⟨flight, hfound, hids⟩ := h.underway
  refine ⟨h.cursors, h.numbered, flight, ?_, hids⟩
  rw [call?_drop, if_neg hne]
  exact hfound

/-- The start of a search leaves the calls under way alone. -/
theorem Pending.fetch (h : Pending start call page s) (now : Instant) {r : FetchRequest}
    (hr : r.cursor = none) : Pending start call page (s.fetch now r) := by
  obtain ⟨flight, hfound, hids⟩ := h.underway
  have hne : s.next ≠ call := Nat.ne_of_gt h.numbered
  unfold PageCalls.fetch Cluster.openPage
  rw [hr]
  refine ⟨h.cursors, Nat.lt_succ_of_lt h.numbered, flight, ?_, hids⟩
  rw [call?, List.find?_cons_of_neg (by simpa using hne)]
  exact hfound

/-- What one event preserves. -/
theorem Pending.step (h : Pending start call page s) (now : Instant) {e : Event}
    (he : e.Spares call) : Pending start call page (s.step now e) := by
  cases e with
  | change x => exact ⟨(Cluster.cursors_change s.cluster x).trans h.cursors, h.numbered, h.underway⟩
  | ended other id callEnd =>
    exact h.onFlight (f := (·.report id callEnd)) other fun g => NodeMap.ids_map g.legs _
  | expired other => exact h.onFlight (f := Flight.expire) other fun g => NodeMap.ids_map g.legs _
  | fetch r => exact h.fetch now he
  | abandoned other => exact h.drop he
  | reap => exact he.elim
  | clear => exact he.elim
  | landed other draws => exact he.elim

/-- What a whole run preserves. -/
theorem Pending.run (h : Pending start call page s) {events : List (Instant × Event)}
    (hspares : ∀ e ∈ events, e.2.Spares call) : Pending start call page (s.run events) := by
  induction events generalizing s with
  | nil => exact h
  | cons e rest ih =>
    exact ih (h.step e.1 (hspares e List.mem_cons_self))
      fun e' he' => hspares e' (List.mem_cons_of_mem e he')

/-! ## The results of a call and its page -/

/-- The results of a call that is under way, once every node has one. -/
def results? (s : PageCalls) (call : Nat) : Option (FanOut QueryPage) :=
  (s.call? call).bind fun u => u.flight.results?

/-- The results are one for each member that was asked. -/
theorem Pending.ids_results (h : Pending start call page s) {results : FanOut QueryPage}
    (hr : s.results? call = some results) : results.ids = start.members.ids := by
  obtain ⟨flight, hfound, hids⟩ := h.underway
  rw [results?, hfound, Option.bind_some] at hr
  exact (Flight.results?_eq_some hr).1.trans hids

/-- There are results as soon as the time of the nodes is over. -/
theorem Pending.results?_isSome (h : Pending start call page s) (now : Instant) :
    ((s.step now (.expired call)).results? call).isSome := by
  obtain ⟨flight, hfound, -⟩ := h.underway
  have hexpired : (s.step now (.expired call)).call? call = some ⟨call, page, flight.expire⟩ := by
    rw [PageCalls.step, call?_onFlight, hfound, Option.map_some, if_pos rfl]
  rw [results?, hexpired, Option.bind_some]
  exact Flight.results?_isSome flight.not_awaits_expire

/-- A call that has its results lands with the page that is put together from them. -/
theorem Pending.landed (h : Pending start call page s) {results : FanOut QueryPage}
    (hr : s.results? call = some results) {later : Instant} {draws : List CursorId}
    {landed : FleetPage} {cluster : Cluster}
    (hpage : s.cluster.landPage? page results draws later = some (landed, cluster)) :
    s.step later (.landed call draws) =
      { s.drop call with cluster, seen := .landed call landed :: s.seen } := by
  obtain ⟨flight, hfound, -⟩ := h.underway
  rw [results?, hfound, Option.bind_some] at hr
  rw [call?] at hfound
  rw [PageCalls.step, hfound]
  dsimp only
  unfold land
  dsimp only
  rw [hr]
  dsimp only
  rw [hpage]

/-! ## Follow-up pages -/

/-- What comes of a call whose cursor is missing: it fails with the cursor, and apart from the entry
of the cursor, which is taken out if it has expired, nothing changes; so nobody is asked. -/
structure Missed (s : PageCalls) (now : Instant) (r : FetchRequest) (id : CursorId) : Prop where
  error : (s.cluster.openPage r now).1 = .error (.cursorNotFound id)
  state : s.fetch now r = s ∨
    s.fetch now r = s.withCursors (s.cluster.cursors.erase id) ∧
      ∃ e, s.cluster.cursors.find? id = some e ∧ e.expiresAt ≤ now

/-- How a page that follows the stored cursor `e` comes out at `later`, with `draws` for a new id,
and what it makes of the table of cursors. -/
structure FollowsUp (e : CursorEntry SearchParams) (draws : List CursorId) (later : Instant)
    (page : FleetPage) (before after : CursorTable SearchParams) : Prop where
  verdict : page.endOfResults = true ↔ OpenPage.Unmoved e.state.offsets page.results
  ended : page.endOfResults = true → page.cursor = e.id ∧ after = before
  further : page.endOfResults = false →
    page.cursor ∈ draws ∧ before.find? page.cursor = none ∧
      ∃ offsets,
        after = { before with
          entries :=
            ⟨page.cursor, ⟨e.state.params, offsets⟩, later + before.ttl⟩ :: before.entries } ∧
        ∀ id, offsets.find? id =
          (OpenPage.answered? page.results id).or (e.state.offsets.find? id)
  kept : after.find? e.id = some e
  retrievable : ∀ t, t < e.expiresAt → after.lookup e.id t = (some e.state, after)

/-- A page that is opened is asked for of all members. -/
theorem pending_fetch {r : FetchRequest} {now : Instant}
    (h : s.cluster.openPage r now = (.ok page, s.cluster)) :
    (s.fetch now r).cluster = s.cluster ∧ Pending s.cluster s.next page (s.fetch now r) := by
  have hfetch := congrArg Prod.snd h
  rw [← cluster_fetch] at hfetch
  refine ⟨hfetch, congrArg Cluster.cursors hfetch, ?_, ?_⟩
  · unfold PageCalls.fetch
    rw [h]
    exact Nat.lt_succ_self _
  · unfold PageCalls.fetch
    rw [h]
    exact ⟨_, List.find?_cons_of_pos (by simp), NodeMap.ids_map _ _⟩

/-- A search that is started is for its first page. -/
theorem isFor_first {r : FetchRequest} (hr : r.cursor = none) (now : Instant) :
    IsFor s.next ⟨none, ⟨r.filters, r.length, r.start⟩, r.length, .empty⟩ (s.fetch now r) := by
  have hopen : s.cluster.openPage r now =
      (.ok ⟨none, ⟨r.filters, r.length, r.start⟩, r.length, .empty⟩, s.cluster) := by
    unfold Cluster.openPage
    rw [hr]
  obtain ⟨-, hpending⟩ := pending_fetch hopen
  obtain ⟨flight, hfound, -⟩ := hpending.underway
  refine ⟨hpending.numbered, fun u hu => ?_⟩
  obtain rfl := Option.some.inj (hfound.symm.trans hu)
  rfl

theorem missed_of_missing {r : FetchRequest} {id : CursorId} {now : Instant}
    (hid : r.cursor = some id) (h : s.cluster.cursors.live? id now = none) : Missed s now r id := by
  have hopen := Cluster.openPage_of_missing hid h
  have hfetch : s.fetch now r = s.withCursors (s.cluster.cursors.lookup id now).2 := by
    unfold PageCalls.fetch
    rw [hopen]
    rfl
  refine ⟨by rw [hopen], ?_⟩
  rcases s.cluster.cursors.snd_lookup id now with hsame | ⟨herase, hexpired⟩
  · exact .inl (by rw [hfetch, hsame]; rfl)
  · exact .inr ⟨by rw [hfetch, herase], hexpired⟩

section

variable {e : CursorEntry SearchParams} {length : Option UInt32} {results : FanOut QueryPage}
  {draws : List CursorId}

/-- No node has come any further: the page repeats the cursor, and nothing is stored. -/
theorem followsUp_of_unmoved
    (h : Pending start call ⟨some e.id, e.state.params, length, e.state.offsets⟩ s)
    (he : start.cursors.find? e.id = some e) (hr : s.results? call = some results)
    (hsame : OpenPage.Unmoved e.state.offsets results) (later : Instant) :
    ∃ page cursors,
      s.step later (.landed call draws) =
        { (s.withCursors cursors).drop call with seen := .landed call page :: s.seen } ∧
      page.results = results ∧ FollowsUp e draws later page start.cursors cursors := by
  have hpage : s.cluster.landPage? ⟨some e.id, e.state.params, length, e.state.offsets⟩ results
      draws later = some (⟨e.id, results, true⟩, s.cluster) :=
    Cluster.landPage?_of_unmoved rfl hsame
  refine ⟨_, s.cluster.cursors, h.landed hr hpage, rfl, ?_⟩
  rw [h.cursors]
  exact {
    verdict := ⟨fun _ => hsame, fun _ => rfl⟩
    ended := fun _ => ⟨rfl, rfl⟩
    further := fun hend => by cases hend
    kept := he
    retrievable := fun _ hlive => CursorTable.lookup_of_find? he hlive }

/-- A node has come further: where the nodes are now is stored under a new cursor. -/
theorem followsUp_of_moved
    (h : Pending start call ⟨some e.id, e.state.params, length, e.state.offsets⟩ s)
    (he : start.cursors.find? e.id = some e) (hr : s.results? call = some results)
    (hmoved : ¬ OpenPage.Unmoved e.state.offsets results)
    (hfree : ∃ d ∈ draws, start.cursors.find? d = none) (later : Instant) :
    ∃ page cursors,
      s.step later (.landed call draws) =
        { (s.withCursors cursors).drop call with seen := .landed call page :: s.seen } ∧
      page.results = results ∧ FollowsUp e draws later page start.cursors cursors := by
  let p : OpenPage := ⟨some e.id, e.state.params, length, e.state.offsets⟩
  have hgoes : p.cursor = none ∨ ¬ OpenPage.Unmoved p.offsets results := .inr hmoved
  rw [← h.cursors] at hfree
  obtain ⟨new, cursors, hpage, hcreate⟩ := s.cluster.landPage?_of_moved later hgoes hfree
  rw [h.cursors] at hcreate
  obtain ⟨hdrawn, hnew, hstored⟩ := CursorTable.create?_eq_some hcreate
  have hstill := CursorTable.find?_create hcreate e.id
  have hne : new ≠ e.id := by
    rintro rfl
    cases hnew.symm.trans he
  rw [if_neg hne, he] at hstill
  refine ⟨_, cursors, h.landed hr hpage, rfl, ?_⟩
  exact {
    verdict := iff_of_false Bool.false_ne_true hmoved
    ended := fun hend => by cases hend
    further := fun _ => ⟨hdrawn, hnew, _, hstored, OpenPage.find?_advance _ _⟩
    kept := hstill
    retrievable := fun _ hlive => CursorTable.lookup_of_find? hstill hlive }

end

/-- **What a call for a page reports and stores.**  Whatever the state in which the call is made: if
its cursor is missing, it fails, nobody is asked, and at most the expired entry of the cursor is
taken out. If an entry is stored under its cursor and within its time, the call changes nothing when
it starts; then, whatever happens during the call that does not concern the cursors, it has results
of the members that it started with, at the latest when their time is over, and lands with a page
that ends the results iff no node has answered with a cursor value that is not stored; what is
stored before and after is said by `FollowsUp`. A first page never ends the results. -/
theorem page_exact (s : PageCalls) (now : Instant) (r : FetchRequest) :
    (∀ id, r.cursor = some id → s.cluster.cursors.live? id now = none → Missed s now r id) ∧
    (∀ e, r.cursor = some e.id → s.cluster.cursors.find? e.id = some e → now < e.expiresAt →
      (s.fetch now r).cluster = s.cluster ∧
      ∀ events : List (Instant × Event), (∀ x ∈ events, x.2.Spares s.next) →
        let calls := (s.fetch now r).run events
        ((calls.step now (.expired s.next)).results? s.next).isSome ∧
        ∀ results, calls.results? s.next = some results →
          results.ids = s.cluster.members.ids ∧
          ∀ draws, OpenPage.Unmoved e.state.offsets results ∨
              (∃ d ∈ draws, s.cluster.cursors.find? d = none) →
            ∀ later, ∃ page cursors,
              calls.step later (.landed s.next draws) =
                { (calls.withCursors cursors).drop s.next with
                  seen := .landed s.next page :: calls.seen } ∧
              page.results = results ∧ FollowsUp e draws later page s.cluster.cursors cursors) ∧
    (r.cursor = none → ∀ events later draws page,
      let calls := (s.fetch now r).run events
      (calls.step later (.landed s.next draws)).seen = .landed s.next page :: calls.seen →
        page.endOfResults = false) := by
  refine ⟨fun id hid hmissing => missed_of_missing hid hmissing, ?_, ?_⟩
  · intro e hid he hlive
    obtain ⟨hsame, hpending⟩ := pending_fetch (Cluster.openPage_of_live hid he hlive)
    refine ⟨hsame, ?_⟩
    intro events hspares calls
    have hrun := hpending.run hspares
    refine ⟨hrun.results?_isSome now, fun results hresults =>
      ⟨hrun.ids_results hresults, fun draws hdraws later => ?_⟩⟩
    by_cases hsame : OpenPage.Unmoved e.state.offsets results
    · exact followsUp_of_unmoved hrun he hresults hsame later
    · exact followsUp_of_moved hrun he hresults hsame (hdraws.resolve_left hsame) later
  · intro hr events later draws page calls hseen
    exact ((isFor_first hr now).run events).landed_of_first rfl hseen

/-! ## The second page of a search of two pages -/

/-- During the call for a second page its node is removed, and answers. -/
def secondAnswer (o : Int64) : List (Instant × Event) :=
  [(5, .change (.remove ⟨1⟩)), (6, .ended 1 ⟨1⟩ (.answered (.ok (.blank (some o)))))]

/-- The second page fails once its cursor is over; before that, it ends the results if node 1
answers with 7 again, and does not if it answers with 9. The first page does not. -/
theorem page_exact_of_two_pages :
    let s := (initial 10 100).run (twoPages.take 4)
    let r : FetchRequest := ⟨some default, .none, none, some 2⟩
    let page := fun o draws =>
      (((s.fetch 4 r).run (secondAnswer o)).step 6 (.landed 1 draws)).seen.head?
    Missed s 103 r default ∧
      (∃ p, page 7 [] = some (.landed 1 p) ∧ p.endOfResults = true ∧ p.cursor = default) ∧
      (∃ p, page 9 [.ofNat 1] = some (.landed 1 p) ∧ p.endOfResults = false ∧ p.cursor = .ofNat 1) ∧
      ∃ p, s.seen.head? = some (.landed 0 p) ∧ p.endOfResults = false := by
  intro s r page
  have hspares : ∀ o, ∀ x ∈ secondAnswer o, x.2.Spares s.next := by
    intro o x hx
    rcases List.mem_cons.mp hx with rfl | hx
    · trivial
    · obtain rfl := List.mem_singleton.mp hx
      trivial
  have hexact := (page_exact s 4 r).2.1 ⟨default,
    ⟨⟨{ QueryFilters.none with domain := some "a.lan" }, some 5, none⟩, .ofList [(⟨1⟩, 7)]⟩, 103⟩
    rfl rfl (by decide)
  refine ⟨(page_exact s 103 r).1 default rfl rfl, ?_, ?_, ?_⟩
  · have hsame : OpenPage.Unmoved (.ofList [(⟨1⟩, 7)])
        (.ofList [(⟨1⟩, ⟨⟨⟨1⟩, "a", "a.lan"⟩, .ok (.blank (some 7))⟩)]) :=
      (OpenPage.entries_advance_eq_iff _ _).mp rfl
    obtain ⟨p, cursors, hstep, hres, hp⟩ :=
      ((hexact.2 _ (hspares 7)).2 _ rfl).2 [] (.inl hsame) 6
    have hend := hp.verdict.mpr (by rw [hres]; exact hsame)
    exact ⟨p, congrArg (fun s => s.seen.head?) hstep, hend, (hp.ended hend).1⟩
  · have hmoved : ¬ OpenPage.Unmoved (.ofList [(⟨1⟩, 7)])
        (.ofList [(⟨1⟩, ⟨⟨⟨1⟩, "a", "a.lan"⟩, .ok (.blank (some 9))⟩)]) :=
      fun h => nomatch (OpenPage.entries_advance_eq_iff _ _).mpr h
    obtain ⟨p, cursors, hstep, hres, hp⟩ :=
      ((hexact.2 _ (hspares 9)).2 _ rfl).2 [.ofNat 1] (.inr ⟨_, List.mem_cons_self, rfl⟩) 6
    have hend : p.endOfResults = false := by
      rw [← Bool.not_eq_true, hp.verdict, hres]
      exact hmoved
    exact ⟨p, congrArg (fun s => s.seen.head?) hstep, hend,
      List.mem_singleton.mp (hp.further hend).1⟩
  · exact ⟨_, rfl, (page_exact ((initial 10 100).run (twoPages.take 1)) 0
      ⟨none, { QueryFilters.none with domain := some "a.lan" }, some 5, none⟩).2.2 rfl
      [(3, .ended 0 ⟨1⟩ (.answered (.ok (.blank (some 7)))))] 3 [default] _ rfl⟩

end PageCalls

end FilterFleet
