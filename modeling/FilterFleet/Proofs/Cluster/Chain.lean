import FilterFleet.Cluster.Search
import FilterFleet.Proofs.Cluster.Membership
import FilterFleet.Proofs.Cursor.Table
import FilterFleet.Proofs.Lists

/-!
# Searches along their chains of pages

Calls for pages overlap, branch off from one cursor and fail node by node, while the membership
changes and cursors are reaped. `PageCalls` is a cluster with the calls for pages that are under
way and with what has been seen of them: which call was opened with which requests to the nodes, and
which page it landed with.

What has been seen tells for each cursor the `Chain` of pages that leads to it from the first page
of its search (`chain?`). The main result is that a call with a cursor asks every node to go on
where the chain of this cursor left it, with the filters of the first call
(`follow_up_continues_chain`).
-/

namespace FilterFleet

/-! ## How far the nodes have come -/

namespace OpenPage

/-- Record how far one node has come, if it answered with that. -/
def advanceOne (offsets : NodeMap Int64) (e : NodeId × NodeResult QueryPage) : NodeMap Int64 :=
  match e.2.response?.bind QueryPage.cursor with
  | some o => offsets.insert e.1 o
  | none => offsets

theorem advance_eq_foldl (offsets : NodeMap Int64) (results : FanOut QueryPage) :
    advance offsets results = results.entries.foldl advanceOne offsets := by
  rw [advance, FanOut.responses, List.foldl_filterMap]
  congr 1
  funext offsets e
  cases h : e.2.response? with
  | none => simp [advanceOne, h]
  | some page => cases hc : page.cursor <;> simp [advanceOne, h, hc]

theorem find?_advanceOne (offsets : NodeMap Int64) (e : NodeId × NodeResult QueryPage)
    (id : NodeId) :
    (advanceOne offsets e).find? id =
      (if e.1 = id then e.2.response?.bind QueryPage.cursor else none).or (offsets.find? id) := by
  unfold advanceOne
  split
  · next o ho =>
    rw [NodeMap.find?_insert, ho]
    split <;> rfl
  · next ho =>
    rw [ho]
    split <;> rfl

theorem find?_foldl_advanceOne {es : List (NodeId × NodeResult QueryPage)} (hes : Ascending es)
    (offsets : NodeMap Int64) (id : NodeId) :
    (es.foldl advanceOne offsets).find? id =
      (((NodeMap.lookupId? id es).bind NodeResult.response?).bind QueryPage.cursor).or
        (offsets.find? id) := by
  induction es generalizing offsets with
  | nil => rfl
  | cons x rest ih =>
    obtain ⟨hx, hrest⟩ := List.pairwise_cons.mp hes
    rw [List.foldl_cons, ih hrest, find?_advanceOne, NodeMap.lookupId?]
    by_cases hid : x.1 = id
    · have hnone : NodeMap.lookupId? id rest = none :=
        NodeMap.lookupId?_eq_none fun e he => hid ▸ hx e he
      simp [hid, hnone]
    · simp [hid]

/-- A node has come to the cursor value that it answered with; if it did not, it stays where it
was. -/
theorem find?_advance (offsets : NodeMap Int64) (results : FanOut QueryPage) (id : NodeId) :
    (advance offsets results).find? id = (answered? results id).or (offsets.find? id) := by
  rw [advance_eq_foldl]
  exact find?_foldl_advanceOne results.ascending offsets id

end OpenPage

/-! ## Opening pages and putting them together -/

namespace Cluster

/-- Asking for a page can only take cursors out. -/
theorem snd_openPage (c : Cluster) (r : FetchRequest) (now : Instant) :
    ∃ cursors, (c.openPage r now).2 = { c with cursors } ∧
      cursors.entries.Sublist c.cursors.entries := by
  unfold openPage
  split
  · exact ⟨c.cursors, rfl, .refl _⟩
  · next id _ =>
    have hsub := c.cursors.sublist_lookup id now
    dsimp only
    split <;> exact ⟨_, rfl, hsub⟩

theorem snd_openPage_of_unexpired {c : Cluster} {now : Instant}
    (h : ∀ e ∈ c.cursors.entries, now < e.expiresAt) (r : FetchRequest) :
    (c.openPage r now).2 = c := by
  unfold openPage
  split
  · rfl
  · next id _ =>
    dsimp only
    rw [CursorTable.snd_lookup_of_unexpired h id]
    split <;> rfl

/-- A page that follows a cursor goes on from what is stored under it. -/
theorem fst_openPage {c : Cluster} {r : FetchRequest} {now : Instant} {page : OpenPage}
    (h : (c.openPage r now).1 = .ok page) :
    (r.cursor = none ∧ page = ⟨none, ⟨r.filters, r.length, r.start⟩, r.length, .empty⟩) ∨
      ∃ e ∈ c.cursors.entries, r.cursor = some e.id ∧
        page = ⟨some e.id, e.state.params, r.length.or e.state.params.length, e.state.offsets⟩ := by
  unfold openPage at h
  split at h
  · next hr => exact .inl ⟨hr, (Except.ok.inj h).symm⟩
  · next id hr =>
    dsimp only at h
    split at h
    · cases h
    · next state hstate =>
      rw [CursorTable.fst_lookup] at hstate
      obtain ⟨e, he, rfl⟩ := CursorTable.stored_of_live? hstate
      obtain ⟨hmem, rfl⟩ := CursorTable.mem_of_find? he
      exact .inr ⟨e, hmem, hr, (Except.ok.inj h).symm⟩

/-- A page either repeats its cursor, where no node has come any further, or stores how far the
nodes have come under a free one. -/
theorem landPage?_eq_some {c c' : Cluster} {p : OpenPage} {results : FanOut QueryPage}
    {draws : List CursorId} {now : Instant} {page : FleetPage}
    (h : c.landPage? p results draws now = some (page, c')) :
    page.results = results ∧
      ((page.endOfResults = true ∧ p.cursor = some page.cursor ∧
          (OpenPage.advance p.offsets results).entries = p.offsets.entries ∧ c' = c) ∨
        (page.endOfResults = false ∧ c.cursors.find? page.cursor = none ∧
          c'.cursors.entries =
            ⟨page.cursor, ⟨p.params, OpenPage.advance p.offsets results⟩, now + c.cursors.ttl⟩ ::
              c.cursors.entries)) := by
  unfold landPage? at h
  dsimp only at h
  split at h
  · next id hend =>
    obtain ⟨rfl, rfl⟩ := Prod.mk.inj (Option.some.inj h)
    obtain ⟨hcursor, hsame⟩ := Option.filter_eq_some_iff.mp hend
    exact ⟨rfl, .inl ⟨rfl, hcursor, by simpa using hsame, rfl⟩⟩
  · obtain ⟨⟨id, cursors⟩, hcreate, heq⟩ := Option.map_eq_some_iff.mp h
    obtain ⟨rfl, rfl⟩ := Prod.mk.inj heq
    obtain ⟨-, hfree, rfl⟩ := CursorTable.create?_eq_some hcreate
    exact ⟨rfl, .inr ⟨rfl, hfree, rfl⟩⟩

end Cluster

/-! ## Calls for pages -/

/-- What is seen of the calls for pages. -/
inductive Sighting where
  /-- A call reached the nodes, with these requests. -/
  | opened (call : Nat) (r : FetchRequest) (asked : List (NodeId × QueryRequest))
  | landed (call : Nat) (page : FleetPage)

/-- All that has been seen, latest first. -/
abbrev Sightings := List Sighting

/-- A call for a page that is under way. -/
structure PageCall where
  call : Nat
  page : OpenPage
  flight : Flight QueryPage

/-- A cluster with the calls for pages that are under way. -/
structure PageCalls where
  cluster : Cluster
  /-- The number of the next call. -/
  next : Nat
  underway : List PageCall
  seen : Sightings

namespace PageCalls

/-- What may happen between two points at which calls wait. -/
inductive Event where
  | change (x : Cluster.Change)
  | reap
  | clear
  /-- Ask for a page. -/
  | fetch (r : FetchRequest)
  /-- The call to one node ended: with a page, with a failure, or by breaking down. -/
  | ended (call : Nat) (id : NodeId) (callEnd : CallEnd QueryPage)
  /-- The nodes that have not answered are out of time. -/
  | expired (call : Nat)
  /-- A call whose nodes all have a result goes on, with the ids drawn for a new cursor. -/
  | landed (call : Nat) (draws : List CursorId)
  /-- Nobody waits for the call any more. -/
  | abandoned (call : Nat)

/-- No call has been made so far. -/
def initial (callTimeout cursorTtl : Span) : PageCalls := ⟨.empty callTimeout cursorTtl, 0, [], []⟩

/-- Replace the cursors. -/
def withCursors (s : PageCalls) (cursors : CursorTable SearchParams) : PageCalls :=
  { s with cluster := { s.cluster with cursors } }

/-- Change the flight of a call. -/
def onFlight (s : PageCalls) (call : Nat) (f : Flight QueryPage → Flight QueryPage) : PageCalls :=
  { s with
    underway := s.underway.map fun u =>
      if u.call = call then { u with flight := f u.flight } else u }

/-- Forget a call. -/
def drop (s : PageCalls) (call : Nat) : PageCalls :=
  { s with underway := s.underway.filter fun u => u.call ≠ call }

/-- A call for a page: the members are asked unless the cursor is missing. -/
def fetch (s : PageCalls) (now : Instant) (r : FetchRequest) : PageCalls :=
  match s.cluster.openPage r now with
  | (.error _, cluster) => { s with cluster }
  | (.ok page, cluster) =>
    let flight := cluster.depart QueryPage now
    { cluster
      next := s.next + 1
      underway := ⟨s.next, page, flight⟩ :: s.underway
      seen := .opened s.next r (flight.legs.ids.map fun id => (id, page.request id)) :: s.seen }

/-- A call goes on when its nodes all have a result. -/
def land (s : PageCalls) (now : Instant) (u : PageCall) (draws : List CursorId) : PageCalls :=
  match u.flight.results? with
  | none => s
  | some results =>
    match s.cluster.landPage? u.page results draws now with
    | none => s
    | some (page, cluster) =>
      { s.drop u.call with cluster, seen := .landed u.call page :: s.seen }

/-- What happens at one point. -/
def step (s : PageCalls) (now : Instant) : Event → PageCalls
  | .change x => { s with cluster := s.cluster.change x }
  | .reap => s.withCursors (s.cluster.cursors.reap now)
  | .clear => s.withCursors s.cluster.cursors.clear
  | .fetch r => s.fetch now r
  | .ended call id callEnd => s.onFlight call (·.report id callEnd)
  | .expired call => s.onFlight call Flight.expire
  | .landed call draws =>
    match s.underway.find? fun u => u.call = call with
    | none => s
    | some u => s.land now u draws
  | .abandoned call => s.drop call

/-- A run of events, each at its time. -/
def run (s : PageCalls) (events : List (Instant × Event)) : PageCalls :=
  events.foldl (fun s e => s.step e.1 e.2) s

end PageCalls

/-! ## Chains of pages -/

/-- The pages of a search from its first page to one of its cursors. -/
structure Chain where
  /-- The first call of the search. -/
  first : FetchRequest
  /-- The results of the pages, latest first. -/
  pages : List (FanOut QueryPage)

namespace Chain

/-- The chain with one page more. -/
def extend (chain : Chain) (results : FanOut QueryPage) : Chain :=
  { chain with pages := results :: chain.pages }

/-- The last cursor value that a node answered with on the pages of a chain. -/
def lastCursor? (chain : Chain) (id : NodeId) : Option Int64 :=
  chain.pages.findSome? fun results => OpenPage.answered? results id

theorem lastCursor?_extend (chain : Chain) (results : FanOut QueryPage) (id : NodeId) :
    (chain.extend results).lastCursor? id =
      (OpenPage.answered? results id).or (chain.lastCursor? id) := by
  rw [lastCursor?, extend, List.findSome?_cons, lastCursor?]
  cases OpenPage.answered? results id <;> rfl

end Chain

namespace Sightings

mutual

/-- The chain that a call goes on from: the call starts a search, or the chain is that of its cursor
at the moment it was opened. -/
def chainBefore? : Sightings → Nat → Option Chain
  | [], _ => none
  | .opened call r _ :: before, call' =>
    if call = call' then
      match r.cursor with
      | none => some ⟨r, []⟩
      | some c => chain? before c
    else chainBefore? before call'
  | .landed _ _ :: before, call' => chainBefore? before call'

/-- The chain of a cursor: the page that it was last returned with as a new cursor, after those
that this page went on from. -/
def chain? : Sightings → CursorId → Option Chain
  | [], _ => none
  | .opened _ _ _ :: before, c => chain? before c
  | .landed call page :: before, c =>
    if page.endOfResults = false ∧ page.cursor = c then
      (chainBefore? before call).map (·.extend page.results)
    else chain? before c

end

end Sightings

/-- What a node is asked by a call that goes on from a chain. -/
structure Continues (chain : Chain) (r : FetchRequest) (id : NodeId) (q : QueryRequest) : Prop where
  filters : q.filters = chain.first.filters
  length : q.length = r.length.or chain.first.length
  further : ∀ o, chain.lastCursor? id = some o → q.cursor = some o ∧ q.start = none
  afresh : chain.lastCursor? id = none → q.cursor = none ∧ q.start = chain.first.start

/-- What is remembered of a search is its first call and how far its chain of pages has come. -/
structure Remembers (chain : Chain) (params : SearchParams) (offsets : NodeMap Int64) : Prop where
  first : chain.first.cursor = none
  params : params = ⟨chain.first.filters, chain.first.length, chain.first.start⟩
  offsets : ∀ id, offsets.find? id = chain.lastCursor? id

theorem Remembers.extend {chain : Chain} {params : SearchParams} {offsets : NodeMap Int64}
    (h : Remembers chain params offsets) (results : FanOut QueryPage) :
    Remembers (chain.extend results) params (OpenPage.advance offsets results) := by
  refine ⟨h.first, h.params, fun id => ?_⟩
  rw [OpenPage.find?_advance, h.offsets, chain.lastCursor?_extend]

/-- A page that goes on from what is remembered asks the nodes to continue the chain. -/
theorem Remembers.continues {chain : Chain} {params : SearchParams} {offsets : NodeMap Int64}
    (h : Remembers chain params offsets) (c : CursorId) (r : FetchRequest) (id : NodeId) :
    Continues chain r id
      (OpenPage.request ⟨some c, params, r.length.or params.length, offsets⟩ id) := by
  obtain ⟨-, rfl, hoffsets⟩ := h
  cases ho : chain.lastCursor? id with
  | none =>
    have hnone : offsets.find? id = none := (hoffsets id).trans ho
    simp only [OpenPage.request, hnone]
    refine ⟨rfl, rfl, fun o h => ?_, fun _ => ⟨rfl, rfl⟩⟩
    cases ho.symm.trans h
  | some o =>
    have hsome : offsets.find? id = some o := (hoffsets id).trans ho
    simp only [OpenPage.request, hsome]
    refine ⟨rfl, rfl, fun o' h => ?_, fun h => ?_⟩
    · obtain rfl := Option.some.inj (ho.symm.trans h)
      exact ⟨rfl, rfl⟩
    · cases ho.symm.trans h

namespace PageCalls

/-! ## What is stored follows the chains -/

/-- Every stored cursor and every call under way remembers the chain that has been seen of it. -/
structure Tracked (s : PageCalls) : Prop where
  stored : ∀ e ∈ s.cluster.cursors.entries, ∃ chain, Sightings.chain? s.seen e.id = some chain ∧
    Remembers chain e.state.params e.state.offsets
  underway : ∀ u ∈ s.underway, ∃ chain, Sightings.chainBefore? s.seen u.call = some chain ∧
    Remembers chain u.page.params u.page.offsets
  numbered : ∀ u ∈ s.underway, u.call < s.next

theorem tracked_initial (callTimeout cursorTtl : Span) :
    (initial callTimeout cursorTtl).Tracked :=
  ⟨by simp [initial, Cluster.empty, CursorTable.empty], by simp [initial], by simp [initial]⟩

/-- Cursors may be taken out of the table. -/
theorem Tracked.of_sublist {s : PageCalls} (hs : s.Tracked) {cluster : Cluster}
    (h : cluster.cursors.entries.Sublist s.cluster.cursors.entries) :
    Tracked { s with cluster } :=
  ⟨fun e he => hs.stored e (h.subset he), hs.underway, hs.numbered⟩

theorem Tracked.onFlight {s : PageCalls} (hs : s.Tracked) (call : Nat)
    (f : Flight QueryPage → Flight QueryPage) : (s.onFlight call f).Tracked := by
  have hsame : ∀ u ∈ (s.onFlight call f).underway,
      ∃ u₀ ∈ s.underway, u.call = u₀.call ∧ u.page = u₀.page := by
    intro u hu
    obtain ⟨u₀, hu₀, rfl⟩ := List.mem_map.mp hu
    refine ⟨u₀, hu₀, ?_⟩
    split <;> exact ⟨rfl, rfl⟩
  refine ⟨hs.stored, fun u hu => ?_, fun u hu => ?_⟩
  · obtain ⟨u₀, hu₀, hcall, hpage⟩ := hsame u hu
    rw [hcall, hpage]
    exact hs.underway u₀ hu₀
  · obtain ⟨u₀, hu₀, hcall, -⟩ := hsame u hu
    rw [hcall]
    exact hs.numbered u₀ hu₀

theorem Tracked.drop {s : PageCalls} (hs : s.Tracked) (call : Nat) : (s.drop call).Tracked :=
  ⟨hs.stored, fun u hu => hs.underway u (List.mem_filter.mp hu).1,
    fun u hu => hs.numbered u (List.mem_filter.mp hu).1⟩

/-! ## Asking for a page -/

/-- A new search remembers itself. -/
theorem remembers_first {r : FetchRequest} (h : r.cursor = none) :
    Remembers ⟨r, []⟩ ⟨r.filters, r.length, r.start⟩ .empty :=
  ⟨h, rfl, fun _ => rfl⟩

/-- A call for a page either changes nothing but the cursors, or is seen with the requests for a
page that has been opened. -/
theorem fetch_cases (s : PageCalls) (now : Instant) (r : FetchRequest) :
    ∃ cluster : Cluster, cluster.cursors.entries.Sublist s.cluster.cursors.entries ∧
      (s.fetch now r = { s with cluster } ∨
        ∃ page asked, (s.cluster.openPage r now).1 = .ok page ∧
          (∀ id q, (id, q) ∈ asked ↔
            id ∈ (s.cluster.depart QueryPage now).legs.ids ∧ q = page.request id) ∧
          s.fetch now r =
            ⟨cluster, s.next + 1,
              ⟨s.next, page, s.cluster.depart QueryPage now⟩ :: s.underway,
              .opened s.next r asked :: s.seen⟩) := by
  obtain ⟨cursors, hcluster, hsub⟩ := s.cluster.snd_openPage r now
  refine ⟨{ s.cluster with cursors }, hsub, ?_⟩
  unfold fetch
  split
  · next e cluster h =>
    rw [h] at hcluster
    obtain rfl := hcluster
    exact .inl rfl
  · next page cluster h =>
    rw [h] at hcluster
    obtain rfl := hcluster
    refine .inr ⟨page, _, by rw [h], fun id q => ?_, rfl⟩
    constructor
    · intro hq
      obtain ⟨id', hid', heq⟩ := List.mem_map.mp hq
      obtain ⟨rfl, rfl⟩ := Prod.mk.inj heq
      exact ⟨hid', rfl⟩
    · rintro ⟨hid, rfl⟩
      exact List.mem_map.mpr ⟨id, hid, rfl⟩

theorem cluster_fetch (s : PageCalls) (now : Instant) (r : FetchRequest) :
    (s.fetch now r).cluster = (s.cluster.openPage r now).2 := by
  unfold fetch
  split <;> next h => rw [h]

/-- The page that a call opens goes on from the chain of its cursor. -/
theorem Tracked.remembers_opened {s : PageCalls} (hs : s.Tracked) {r : FetchRequest}
    {now : Instant} {page : OpenPage} (h : (s.cluster.openPage r now).1 = .ok page)
    (asked : List (NodeId × QueryRequest)) :
    ∃ chain, Sightings.chainBefore? (.opened s.next r asked :: s.seen) s.next = some chain ∧
      Remembers chain page.params page.offsets := by
  rw [Sightings.chainBefore?, if_pos rfl]
  rcases Cluster.fst_openPage h with ⟨hr, rfl⟩ | ⟨e, he, hr, rfl⟩
  · rw [hr]
    exact ⟨⟨r, []⟩, rfl, remembers_first hr⟩
  · rw [hr]
    exact hs.stored e he

theorem Tracked.fetch {s : PageCalls} (hs : s.Tracked) (now : Instant) (r : FetchRequest) :
    (s.fetch now r).Tracked := by
  obtain ⟨cluster, hsub, h | ⟨page, asked, hopen, -, h⟩⟩ := fetch_cases s now r
  · rw [h]
    exact hs.of_sublist hsub
  · rw [h]
    refine ⟨fun e he => hs.stored e (hsub.subset he), fun u hu => ?_, fun u hu => ?_⟩
    · rcases List.mem_cons.mp hu with rfl | hu
      · exact hs.remembers_opened hopen asked
      · have hne : s.next ≠ u.call := Nat.ne_of_gt (hs.numbered u hu)
        rw [Sightings.chainBefore?, if_neg hne]
        exact hs.underway u hu
    · rcases List.mem_cons.mp hu with rfl | hu
      · exact Nat.lt_succ_self _
      · exact Nat.lt_succ_of_lt (hs.numbered u hu)

/-! ## Putting a page together -/

theorem Tracked.land {s : PageCalls} (hs : s.Tracked) (now : Instant) {u : PageCall}
    (hu : u ∈ s.underway) (draws : List CursorId) : (s.land now u draws).Tracked := by
  unfold PageCalls.land
  split
  · exact hs
  · next results hresults =>
    split
    · exact hs
    · next page cluster h =>
      obtain ⟨rfl, hpage⟩ := Cluster.landPage?_eq_some h
      refine ⟨fun e he => ?_, fun v hv => ?_, (hs.drop u.call).numbered⟩
      · rcases hpage with ⟨hend, -, -, rfl⟩ | ⟨hend, hfree, hentries⟩
        · obtain ⟨chain, hchain, hrem⟩ := hs.stored e he
          exact ⟨chain, by simp [Sightings.chain?, hend, hchain], hrem⟩
        · rw [hentries] at he
          rcases List.mem_cons.mp he with rfl | he
          · obtain ⟨chain, hchain, hrem⟩ := hs.underway u hu
            exact ⟨chain.extend page.results, by simp [Sightings.chain?, hend, hchain],
              hrem.extend page.results⟩
          · -- The new cursor is none of those that are stored.
            have hne : page.cursor ≠ e.id :=
              Ne.symm ((CursorTable.find?_eq_none_iff _ _).mp hfree e he)
            obtain ⟨chain, hchain, hrem⟩ := hs.stored e he
            exact ⟨chain, by simp [Sightings.chain?, hne, hchain], hrem⟩
      · rw [Sightings.chainBefore?]
        exact (hs.drop u.call).underway v hv

/-- What one step preserves. -/
theorem Tracked.step {s : PageCalls} (hs : s.Tracked) (now : Instant) (e : Event) :
    (s.step now e).Tracked := by
  cases e with
  | change x => exact hs.of_sublist (by rw [Cluster.cursors_change])
  | reap => exact hs.of_sublist List.filter_sublist
  | clear => exact hs.of_sublist (List.nil_sublist _)
  | fetch r => exact hs.fetch now r
  | ended call id callEnd => exact hs.onFlight call (·.report id callEnd)
  | expired call => exact hs.onFlight call Flight.expire
  | landed call draws =>
    simp only [PageCalls.step]
    split
    · exact hs
    · next u hu => exact hs.land now (List.mem_of_find?_eq_some hu) draws
  | abandoned call => exact hs.drop call

/-! ## Every follow-up continues its chain -/

/-- What was seen is not a call with a cursor, or it continues the chain of this cursor. -/
def Faithful (x : Sighting) (before : Sightings) : Prop :=
  ∀ call r asked c, x = .opened call r asked → r.cursor = some c →
    ∃ chain, Sightings.chain? before c = some chain ∧ chain.first.cursor = none ∧
      ∀ id q, (id, q) ∈ asked → Continues chain r id q

theorem Tracked.faithful_fetch {s : PageCalls} (hs : s.Tracked) (hseen : Throughout Faithful s.seen)
    (now : Instant) (r : FetchRequest) : Throughout Faithful (s.fetch now r).seen := by
  obtain ⟨cluster, -, h | ⟨page, asked, hopen, hasked, h⟩⟩ := fetch_cases s now r
  · rw [h]
    exact hseen
  · rw [h]
    refine ⟨fun call r' asked' c heq hr => ?_, hseen⟩
    obtain ⟨-, rfl, rfl⟩ := Sighting.opened.inj heq
    rcases Cluster.fst_openPage hopen with ⟨hnone, -⟩ | ⟨e, he, hcursor, rfl⟩
    · cases hnone.symm.trans hr
    · obtain rfl := Option.some.inj (hcursor.symm.trans hr)
      obtain ⟨chain, hchain, hrem⟩ := hs.stored e he
      refine ⟨chain, hchain, hrem.first, fun id q hq => ?_⟩
      rw [((hasked id q).mp hq).2]
      exact hrem.continues e.id r id

theorem Tracked.faithful_step {s : PageCalls} (hs : s.Tracked) (hseen : Throughout Faithful s.seen)
    (now : Instant) (e : Event) : Throughout Faithful (s.step now e).seen := by
  cases e with
  | fetch r => exact hs.faithful_fetch hseen now r
  | landed call draws =>
    simp only [PageCalls.step]
    split
    · exact hseen
    · unfold PageCalls.land
      split
      · exact hseen
      · split
        · exact hseen
        · refine ⟨fun call r asked c h => ?_, hseen⟩
          cases h
  | change x => exact hseen
  | reap => exact hseen
  | clear => exact hseen
  | ended call id callEnd => exact hseen
  | expired call => exact hseen
  | abandoned call => exact hseen

/-- What a whole run preserves. -/
theorem Tracked.run {s : PageCalls} (hs : s.Tracked) (hseen : Throughout Faithful s.seen)
    (events : List (Instant × Event)) :
    (s.run events).Tracked ∧ Throughout Faithful (s.run events).seen := by
  induction events generalizing s with
  | nil => exact ⟨hs, hseen⟩
  | cons e rest ih => exact ih (hs.step e.1 e.2) (hs.faithful_step hseen e.1 e.2)

/-- **A call with a cursor continues the search of the cursor.**  In every run of calls for pages,
whatever happens between the points at which they wait: when a call with a cursor reached a member,
the member was asked with the filters of the first call of the search; with the page size of the
call, or else that of the first call; and to go on from the last cursor value that it answered with
on the pages that lead to this cursor, or afresh from the start of the first call if it answered
with none. -/
theorem follow_up_continues_chain (callTimeout cursorTtl : Span)
    (events : List (Instant × Event)) {later before : Sightings} {call : Nat} {r : FetchRequest}
    {asked : List (NodeId × QueryRequest)} {c : CursorId} {id : NodeId} {q : QueryRequest}
    (hseen : ((initial callTimeout cursorTtl).run events).seen =
      later ++ .opened call r asked :: before)
    (hcursor : r.cursor = some c) (hasked : (id, q) ∈ asked) :
    ∃ chain, Sightings.chain? before c = some chain ∧ chain.first.cursor = none ∧
      Continues chain r id q := by
  have hfaithful := ((tracked_initial callTimeout cursorTtl).run trivial events).2
  obtain ⟨chain, hchain, hfirst, hall⟩ := hfaithful.of_split hseen call r asked c rfl hcursor
  exact ⟨chain, hchain, hfirst, hall id q hasked⟩

/-! ## A search of two pages -/

/-- A first page on which node 1 answers with 7, and a call with the cursor of this page that sends
filters and a start of its own. -/
def twoPages : List (Instant × Event) :=
  [(0, .change (.add ⟨0, ⟨⟨1⟩, "a", "a.lan"⟩, none⟩)),
    (0, .fetch ⟨none, { QueryFilters.none with domain := some "a.lan" }, some 5, none⟩),
    (3, .ended 0 ⟨1⟩ (.answered (.ok (.blank (some 7))))),
    (3, .landed 0 [default]),
    (4, .fetch ⟨some default, .none, none, some 2⟩)]

theorem follow_up_continues_second_page :
    ∃ chain, Sightings.chain? ((initial 10 100).run (twoPages.take 4)).seen default = some chain ∧
      chain.first.cursor = none ∧
      Continues chain ⟨some default, .none, none, some 2⟩ ⟨1⟩
        (.continuation { QueryFilters.none with domain := some "a.lan" } 7 (some 5)) := by
  have hseen : ((initial 10 100).run twoPages).seen =
      [] ++ .opened 1 ⟨some default, .none, none, some 2⟩
        [(⟨1⟩, .continuation { QueryFilters.none with domain := some "a.lan" } 7 (some 5))] ::
        ((initial 10 100).run (twoPages.take 4)).seen := rfl
  exact follow_up_continues_chain 10 100 twoPages hseen rfl List.mem_cons_self

end PageCalls

end FilterFleet
