import FilterFleet.Proofs.Cluster.Chain
import FilterFleet.Proofs.Cluster.Passage

/-!
# Paging through all nodes pages each of them

A search asks all nodes at once and remembers one position for each of them in a common cursor. A
node that pages deterministically (`Pager`) can also be paged by itself. On any pages of a search
that a client gets by following its cursors (`Follows`), the pages that a node contributes are the
first ones that it gives when it is paged by itself (`PageCalls.contributions_are_solo_pages`):
whatever the other nodes do, and whenever the node itself fails, is late or is away, no page of it is
lost, repeated or made up.
-/

namespace FilterFleet

/-! ## A node by itself -/

/-- A node whose pages depend on the requests alone. -/
abbrev Pager := QueryRequest → QueryPage

namespace Pager

/-- What a search asks a node that has come to a position; it asks afresh one that has none. -/
def ask (first : FetchRequest) : Option Int64 → QueryRequest
  | none => .fresh first.filters first.length first.start
  | some o => .continuation first.filters o first.length

/-- The position after a number of pages: the cursor value of the last page, or where the node was
before if this page has none. -/
def position (pager : Pager) (first : FetchRequest) : Nat → Option Int64
  | 0 => none
  | k + 1 => (pager (ask first (position pager first k))).cursor.or (position pager first k)

/-- The first pages that a client gets that pages the node by itself. -/
def pages (pager : Pager) (first : FetchRequest) (k : Nat) : List QueryPage :=
  (List.range k).map fun i => pager (ask first (pager.position first i))

theorem pages_succ (pager : Pager) (first : FetchRequest) (k : Nat) :
    pager.pages first (k + 1) =
      pager.pages first k ++ [pager (ask first (pager.position first k))] := by
  simp [pages, List.range_succ]

end Pager

/-! ## What a node contributes to a chain -/

namespace Chain

/-- The page that a node answered with. -/
def reply? (results : FanOut QueryPage) (id : NodeId) : Option QueryPage :=
  (results.find? id).bind NodeResult.response?

theorem answered?_eq (results : FanOut QueryPage) (id : NodeId) :
    OpenPage.answered? results id = (reply? results id).bind QueryPage.cursor := rfl

/-- The pages that a node contributes to a chain, in the order in which they came. -/
def contributed (chain : Chain) (id : NodeId) : List QueryPage :=
  chain.pages.reverse.filterMap (reply? · id)

theorem contributed_extend (chain : Chain) (results : FanOut QueryPage) (id : NodeId) :
    (chain.extend results).contributed id = chain.contributed id ++ (reply? results id).toList := by
  rw [contributed, extend, List.reverse_cons, List.filterMap_append, contributed]
  cases h : reply? results id <;> simp [h]

/-- Every node has contributed the first pages that it gives by itself, and the chain is where these
pages lead. -/
structure Paced (answer : NodeId → Pager) (chain : Chain) : Prop where
  contributed : ∀ id, chain.contributed id =
    (answer id).pages chain.first (chain.contributed id).length
  position : ∀ id, chain.lastCursor? id =
    (answer id).position chain.first (chain.contributed id).length

/-- A node replies with what it gives at the position it has come to. -/
def Answers (answer : NodeId → Pager) (chain : Chain) (results : FanOut QueryPage) : Prop :=
  ∀ id a, reply? results id = some a → a = answer id (Pager.ask chain.first (chain.lastCursor? id))

theorem paced_nil (answer : NodeId → Pager) (first : FetchRequest) : Paced answer ⟨first, []⟩ :=
  ⟨fun _ => rfl, fun _ => rfl⟩

theorem Paced.extend {answer : NodeId → Pager} {chain : Chain} (h : chain.Paced answer)
    {results : FanOut QueryPage} (hresults : chain.Answers answer results) :
    (chain.extend results).Paced answer := by
  have hboth : ∀ id, (chain.extend results).contributed id =
        (answer id).pages chain.first ((chain.extend results).contributed id).length ∧
      (chain.extend results).lastCursor? id =
        (answer id).position chain.first ((chain.extend results).contributed id).length := by
    intro id
    rw [contributed_extend, lastCursor?_extend, answered?_eq]
    cases hreply : reply? results id with
    | none => simpa using ⟨h.contributed id, h.position id⟩
    | some a =>
      have ha := hresults id a hreply
      rw [h.position id] at ha
      have hlength : (chain.contributed id ++ (some a).toList).length =
          (chain.contributed id).length + 1 := by simp
      rw [hlength, Pager.pages_succ, ← h.contributed id, ← ha, Pager.position, ← ha,
        ← h.position id]
      exact ⟨rfl, rfl⟩
  exact ⟨fun id => (hboth id).1, fun id => (hboth id).2⟩

end Chain

/-- Where the positions of a search are remembered, a page without a size of its own asks the nodes
for what they give there. -/
theorem Remembers.request_eq {chain : Chain} {params : SearchParams} {offsets : NodeMap Int64}
    (h : Remembers chain params offsets) (cursor : Option CursorId) (id : NodeId) :
    OpenPage.request ⟨cursor, params, params.length, offsets⟩ id =
      Pager.ask chain.first (chain.lastCursor? id) := by
  obtain ⟨-, rfl, hoffsets⟩ := h
  rw [← hoffsets id, OpenPage.request]
  cases offsets.find? id <;> rfl

/-! ## Pages that a client gets -/

namespace Sightings

/-- A client has got the pages of a chain, which lead to a cursor: the first by a call that started
the search, and every other by a call that followed the cursor of the page before and asked for no
size of its own. -/
inductive Follows (seen : Sightings) : Chain → CursorId → Prop where
  | start {call : Nat} {r : FetchRequest} {asked : List (NodeId × QueryRequest)} {page : FleetPage}
      (hnew : r.cursor = none) (hopened : .opened call r asked ∈ seen)
      (hlanded : .landed call page ∈ seen) :
      Follows seen (Chain.extend ⟨r, []⟩ page.results) page.cursor
  | follow {chain : Chain} {cursor : CursorId} {call : Nat} {r : FetchRequest}
      {asked : List (NodeId × QueryRequest)} {page : FleetPage} (h : Follows seen chain cursor)
      (hcursor : r.cursor = some cursor) (hlength : r.length = none)
      (hopened : .opened call r asked ∈ seen) (hlanded : .landed call page ∈ seen) :
      Follows seen (chain.extend page.results) page.cursor

end Sightings

/-! ## Settled outcomes -/

theorem Flight.eq_ok_of_settle {α : Type} {o : Except NodeError α} {l : Leg α} {a : α}
    (h : (Leg.settle o l).outcome = some (.ok a)) : l.outcome = some (.ok a) ∨ o = .ok a := by
  cases hl : l.outcome with
  | none =>
    rw [settle_of_none hl] at h
    exact .inr (Option.some.inj h)
  | some o' =>
    rw [settle_of_some hl, hl] at h
    exact .inl h

theorem Flight.eq_answered_of_ok {α : Type} {e : CallEnd α} {a : α} (h : outcomeOf e = .ok a) :
    e = .answered (.ok a) := by
  cases e with
  | answered outcome => exact congrArg CallEnd.answered h
  | broken => cases h

theorem Flight.outcome_of_reply {f : Flight QueryPage} {results : FanOut QueryPage}
    (h : f.results? = some results) {id : NodeId} {a : QueryPage}
    (ha : Chain.reply? results id = some a) :
    ∃ l, f.legs.find? id = some l ∧ l.outcome = some (.ok a) := by
  obtain ⟨result, hresult, hok⟩ := Option.bind_eq_some_iff.mp ha
  rw [(results?_eq_some h).2 id] at hresult
  obtain ⟨l, hl, houtcome⟩ := Option.bind_eq_some_iff.mp hresult
  obtain ⟨o, ho, rfl⟩ := Option.map_eq_some_iff.mp houtcome
  refine ⟨l, hl, ho.trans (congrArg some ?_)⟩
  cases o with
  | ok b => exact congrArg Except.ok (Option.some.inj hok)
  | error e => cases hok

namespace PageCalls

/-! ## Runs of deterministic nodes -/

/-- No stored cursor is over at a time. -/
def Unexpired (s : PageCalls) (now : Instant) : Prop :=
  ∀ e ∈ s.cluster.cursors.entries, now < e.expiresAt

instance (s : PageCalls) (now : Instant) : Decidable (s.Unexpired now) :=
  inferInstanceAs (Decidable (∀ e ∈ s.cluster.cursors.entries, now < e.expiresAt))

/-- A page that comes from a node is what the node gives for the request that it was asked with. -/
def Gives (answer : NodeId → Pager) (seen : Sightings) (e : Event) : Prop :=
  ∀ call id page, e = .ended call id (.answered (.ok page)) →
    ∀ r asked q, .opened call r asked ∈ seen → (id, q) ∈ asked → page = answer id q

/-- In a run from a state every node is a deterministic pager, and no cursor expires or is cleared
away. -/
def Undisturbed (answer : NodeId → Pager) : PageCalls → List (Instant × Event) → Prop
  | _, [] => True
  | s, (now, e) :: rest =>
    s.Unexpired now ∧ e ≠ .clear ∧ Gives answer s.seen e ∧ Undisturbed answer (s.step now e) rest

/-- What is stored under the cursors of a state is still stored under them in another one. -/
def Keeps (s s' : PageCalls) : Prop :=
  ∀ e ∈ s.cluster.cursors.entries, e ∈ s'.cluster.cursors.entries

theorem keeps_land (s : PageCalls) (now : Instant) (u : PageCall) (draws : List CursorId) :
    s.Keeps (s.land now u draws) := by
  unfold PageCalls.land
  split
  · exact fun _ he => he
  · split
    · exact fun _ he => he
    · next page cluster h =>
      obtain ⟨-, ⟨-, -, -, rfl⟩ | ⟨-, -, hentries⟩⟩ := Cluster.landPage?_eq_some h
      · exact fun _ he => he
      · intro e he
        change e ∈ cluster.cursors.entries
        rw [hentries]
        exact List.mem_cons_of_mem _ he

/-- Whatever happens while no cursor is over leaves the stored ones alone. -/
theorem Unexpired.keeps {s : PageCalls} {now : Instant} (h : s.Unexpired now) {e : Event}
    (he : e ≠ .clear) : s.Keeps (s.step now e) := by
  have hsame : ∀ s' : PageCalls, s'.cluster.cursors = s.cluster.cursors → s.Keeps s' :=
    fun s' heq x hx => heq ▸ hx
  cases e with
  | change x => exact hsame _ (Cluster.cursors_change s.cluster x)
  | reap => exact hsame _ (CursorTable.reap_of_unexpired h)
  | clear => exact absurd rfl he
  | fetch r =>
    refine hsame _ ?_
    rw [PageCalls.step, cluster_fetch, Cluster.snd_openPage_of_unexpired h]
  | ended call id callEnd => exact hsame _ rfl
  | expired call => exact hsame _ rfl
  | landed call draws =>
    rw [PageCalls.step]
    split
    · exact hsame _ rfl
    · next u _ => exact s.keeps_land now u draws
  | abandoned call => exact hsame _ rfl

/-- A page was opened by a request: it starts a search, or goes on from a stored cursor. -/
def Opens (c : Cluster) (r : FetchRequest) (page : OpenPage) : Prop :=
  (r.cursor = none ∧ page = ⟨none, ⟨r.filters, r.length, r.start⟩, r.length, .empty⟩) ∨
    ∃ e ∈ c.cursors.entries, r.cursor = some e.id ∧
      page = ⟨some e.id, e.state.params, r.length.or e.state.params.length, e.state.offsets⟩

theorem Opens.of_keeps {s s' : PageCalls} (h : s.Keeps s') {r : FetchRequest} {page : OpenPage}
    (hopens : Opens s.cluster r page) : Opens s'.cluster r page :=
  hopens.imp_right fun ⟨e, he, hrest⟩ => ⟨e, h e he, hrest⟩

/-- A call under way has asked its nodes for the page that it opened, and what has come so far is
what they give. -/
structure Underway (answer : NodeId → Pager) (s : PageCalls) (u : PageCall) (r : FetchRequest)
    (asked : List (NodeId × QueryRequest)) : Prop where
  opened : .opened u.call r asked ∈ s.seen
  opens : Opens s.cluster r u.page
  asked : ∀ id l, u.flight.legs.find? id = some l → (id, u.page.request id) ∈ asked
  given : ∀ id l a, u.flight.legs.find? id = some l → l.outcome = some (.ok a) →
    a = answer id (u.page.request id)

/-- A page has landed with what the nodes give for the page that its call opened, and its cursor
remembers how far they have come. -/
structure Landed (answer : NodeId → Pager) (s : PageCalls) (page : FleetPage) (r : FetchRequest)
    (p : OpenPage) : Prop where
  opens : Opens s.cluster r p
  given : ∀ id a, Chain.reply? page.results id = some a → a = answer id (p.request id)
  stored : ∃ e ∈ s.cluster.cursors.entries, e.id = page.cursor ∧ e.state.params = p.params ∧
    ∀ id, e.state.offsets.find? id = (OpenPage.advance p.offsets page.results).find? id

/-- What an undisturbed run keeps. -/
structure Solo (answer : NodeId → Pager) (s : PageCalls) : Prop where
  distinct : s.cluster.cursors.Distinct
  numbered : ∀ call r asked, .opened call r asked ∈ s.seen → call < s.next
  once : ∀ call r asked r' asked', .opened call r asked ∈ s.seen →
    .opened call r' asked' ∈ s.seen → r = r'
  underway : ∀ u ∈ s.underway, ∃ r asked, Underway answer s u r asked
  landed : ∀ call page, .landed call page ∈ s.seen → ∃ r asked p,
    .opened call r asked ∈ s.seen ∧ Landed answer s page r p

section Steps

variable {answer : NodeId → Pager} {s s' : PageCalls}

theorem solo_initial (callTimeout cursorTtl : Span) :
    Solo answer (initial callTimeout cursorTtl) :=
  ⟨CursorTable.distinct_empty cursorTtl, by simp [initial], by simp [initial], by simp [initial],
    by simp [initial]⟩

theorem Landed.of_keeps (h : s.Keeps s') {page : FleetPage} {r : FetchRequest} {p : OpenPage}
    (hlanded : Landed answer s page r p) : Landed answer s' page r p := by
  obtain ⟨e, he, hrest⟩ := hlanded.stored
  exact ⟨hlanded.opens.of_keeps h, hlanded.given, e, h e he, hrest⟩

theorem Underway.of_keeps (h : s.Keeps s') (hseen : ∀ x ∈ s.seen, x ∈ s'.seen) {u : PageCall}
    {r : FetchRequest} {asked : List (NodeId × QueryRequest)}
    (hu : Underway answer s u r asked) : Underway answer s' u r asked :=
  ⟨hseen _ hu.opened, hu.opens.of_keeps h, hu.asked, hu.given⟩

/-- Nothing new is seen, and calls may be given up. -/
theorem Solo.of_same (hs : Solo answer s) (hkeeps : s.Keeps s')
    (hdistinct : s'.cluster.cursors.Distinct) (hnext : s'.next = s.next) (hseen : s'.seen = s.seen)
    (hunderway : ∀ u ∈ s'.underway, u ∈ s.underway) : Solo answer s' := by
  refine ⟨hdistinct, ?_, ?_, fun u hu => ?_, fun call page h => ?_⟩
  · rw [hseen, hnext]
    exact hs.numbered
  · rw [hseen]
    exact hs.once
  · obtain ⟨r, asked, h⟩ := hs.underway u (hunderway u hu)
    exact ⟨r, asked, h.of_keeps hkeeps (by simp [hseen])⟩
  · rw [hseen] at h ⊢
    obtain ⟨r, asked, p, hopened, hlanded⟩ := hs.landed call page h
    exact ⟨r, asked, p, hopened, hlanded.of_keeps hkeeps⟩

/-! ## Results that come in -/

/-- A change of one flight that brings nothing but what the nodes give. -/
theorem Solo.onFlight (hs : Solo answer s) (call : Nat) {f : Flight QueryPage → Flight QueryPage}
    (hf : ∀ u r asked, u ∈ s.underway → u.call = call → Underway answer s u r asked →
      ∀ id l', (f u.flight).legs.find? id = some l' → ∃ l, u.flight.legs.find? id = some l ∧
        ∀ a, l'.outcome = some (.ok a) →
          l.outcome = some (.ok a) ∨ a = answer id (u.page.request id)) :
    Solo answer (s.onFlight call f) := by
  refine ⟨hs.distinct, hs.numbered, hs.once, fun u' hu' => ?_, fun c page h => ?_⟩
  · obtain ⟨u, hu, rfl⟩ := List.mem_map.mp hu'
    obtain ⟨r, asked, h⟩ := hs.underway u hu
    refine ⟨r, asked, ?_⟩
    split
    · next hcall =>
      have hleg := hf u r asked hu hcall h
      refine ⟨h.opened, h.opens, fun id l' hl' => ?_, fun id l' a hl' ha => ?_⟩
      · obtain ⟨l, hl, -⟩ := hleg id l' hl'
        exact h.asked id l hl
      · obtain ⟨l, hl, hold⟩ := hleg id l' hl'
        exact (hold a ha).elim (h.given id l a hl) fun hnew => hnew
    · exact ⟨h.opened, h.opens, h.asked, h.given⟩
  · obtain ⟨r, asked, p, hopened, hlanded⟩ := hs.landed c page h
    exact ⟨r, asked, p, hopened, hlanded.opens, hlanded.given, hlanded.stored⟩

theorem Solo.ended (hs : Solo answer s) {call : Nat} {id : NodeId} {e : CallEnd QueryPage}
    (hgives : Gives answer s.seen (.ended call id e)) :
    Solo answer (s.onFlight call (·.report id e)) := by
  refine hs.onFlight call fun u r asked hu hcall h other l' hl' => ?_
  rw [Flight.find?_report] at hl'
  obtain ⟨l, hl, rfl⟩ := Option.map_eq_some_iff.mp hl'
  refine ⟨l, hl, fun a ha => ?_⟩
  split at ha
  · next hother =>
    subst hother hcall
    refine (Flight.eq_ok_of_settle ha).imp_right fun hok => ?_
    exact hgives u.call other a (by rw [Flight.eq_answered_of_ok hok]) r asked _ h.opened
      (h.asked other l hl)
  · exact .inl ha

theorem Solo.expired (hs : Solo answer s) (call : Nat) :
    Solo answer (s.onFlight call Flight.expire) := by
  refine hs.onFlight call fun u r asked hu hcall h other l' hl' => ?_
  rw [Flight.find?_expire] at hl'
  obtain ⟨l, hl, rfl⟩ := Option.map_eq_some_iff.mp hl'
  refine ⟨l, hl, fun a ha => .inl ((Flight.eq_ok_of_settle ha).resolve_right fun h => ?_)⟩
  cases h

/-! ## Asking for a page -/

theorem outcome_depart {c : Cluster} {now : Instant} {id : NodeId} {l : Leg QueryPage}
    (h : (c.depart QueryPage now).legs.find? id = some l) : l.outcome = none := by
  rw [Flight.find?_depart] at h
  obtain ⟨m, -, rfl⟩ := Option.map_eq_some_iff.mp h
  rfl

theorem Solo.fetch (hs : Solo answer s) (now : Instant) (r : FetchRequest)
    (hkeeps : s.Keeps (s.fetch now r)) : Solo answer (s.fetch now r) := by
  obtain ⟨cluster, hsub, h | ⟨page, asked, hopen, hasked, h⟩⟩ := fetch_cases s now r
  · rw [h] at hkeeps ⊢
    exact hs.of_same hkeeps (hs.distinct.of_sublist hsub) rfl rfl fun _ hu => hu
  · rw [h] at hkeeps ⊢
    have hold : ∀ call r' asked', .opened call r' asked' ∈ s.seen → call ≠ s.next :=
      fun call r' asked' hmem => Nat.ne_of_lt (hs.numbered call r' asked' hmem)
    refine ⟨hs.distinct.of_sublist hsub, fun call r' asked' hmem => ?_, ?_, fun u hu => ?_, ?_⟩
    · rcases List.mem_cons.mp hmem with heq | hmem
      · obtain ⟨rfl, -, -⟩ := Sighting.opened.inj heq
        exact Nat.lt_succ_self _
      · exact Nat.lt_succ_of_lt (hs.numbered call r' asked' hmem)
    · intro call r₁ asked₁ r₂ asked₂ h₁ h₂
      rcases List.mem_cons.mp h₁ with heq₁ | h₁ <;> rcases List.mem_cons.mp h₂ with heq₂ | h₂
      · exact (Sighting.opened.inj heq₁).2.1.trans (Sighting.opened.inj heq₂).2.1.symm
      · exact absurd (Sighting.opened.inj heq₁).1 (hold call r₂ asked₂ h₂)
      · exact absurd (Sighting.opened.inj heq₂).1 (hold call r₁ asked₁ h₁)
      · exact hs.once call r₁ asked₁ r₂ asked₂ h₁ h₂
    · rcases List.mem_cons.mp hu with rfl | hu
      · refine ⟨r, asked, List.mem_cons_self, Opens.of_keeps hkeeps (Cluster.fst_openPage hopen),
          fun id l hl => (hasked id _).mpr ⟨(NodeMap.mem_ids_iff _ _).mpr ⟨l, hl⟩, rfl⟩,
          fun id l a hl ha => ?_⟩
        cases (outcome_depart hl).symm.trans ha
      · obtain ⟨r', asked', hu'⟩ := hs.underway u hu
        exact ⟨r', asked', hu'.of_keeps hkeeps fun _ => List.mem_cons_of_mem _⟩
    · intro call page' hmem
      obtain ⟨r', asked', p, hopened, hlanded⟩ :=
        hs.landed call page' ((List.mem_cons.mp hmem).resolve_left fun heq => by cases heq)
      exact ⟨r', asked', p, List.mem_cons_of_mem _ hopened, hlanded.of_keeps hkeeps⟩

/-! ## Putting a page together -/

/-- The cursor of a page remembers how far the nodes have come with it. -/
theorem stored_of_landPage {u : PageCall} {r : FetchRequest} {asked : List (NodeId × QueryRequest)}
    (hu : Underway answer s u r asked) {results : FanOut QueryPage} {draws : List CursorId}
    {now : Instant} {page : FleetPage} {cluster : Cluster}
    (h : s.cluster.landPage? u.page results draws now = some (page, cluster)) :
    ∃ e ∈ cluster.cursors.entries, e.id = page.cursor ∧ e.state.params = u.page.params ∧
      ∀ id, e.state.offsets.find? id = (OpenPage.advance u.page.offsets page.results).find? id := by
  obtain ⟨rfl, ⟨-, hcursor, hsame, rfl⟩ | ⟨-, -, hentries⟩⟩ := Cluster.landPage?_eq_some h
  · -- A page that repeats its cursor was opened from what is stored under this cursor.
    rcases hu.opens with ⟨-, hpage⟩ | ⟨e, he, -, hpage⟩
    · rw [hpage] at hcursor
      cases hcursor
    · rw [hpage] at hcursor hsame ⊢
      refine ⟨e, he, Option.some.inj hcursor, rfl, fun id => ?_⟩
      rw [NodeMap.find?, NodeMap.find?, hsame]
  · rw [hentries]
    exact ⟨_, List.mem_cons_self, rfl, rfl, fun _ => rfl⟩

theorem distinct_of_landPage (hs : s.cluster.cursors.Distinct) {p : OpenPage}
    {results : FanOut QueryPage} {draws : List CursorId} {now : Instant} {page : FleetPage}
    {cluster : Cluster} (h : s.cluster.landPage? p results draws now = some (page, cluster)) :
    cluster.cursors.Distinct := by
  obtain ⟨-, ⟨-, -, -, rfl⟩ | ⟨-, hfree, hentries⟩⟩ := Cluster.landPage?_eq_some h
  · exact hs
  · rw [CursorTable.Distinct, hentries]
    refine List.nodup_cons.mpr ⟨?_, hs⟩
    simpa using (CursorTable.find?_eq_none_iff _ _).mp hfree

theorem Solo.land (hs : Solo answer s) (now : Instant) {u : PageCall} (hu : u ∈ s.underway)
    (draws : List CursorId) (hkeeps : s.Keeps (s.land now u draws)) :
    Solo answer (s.land now u draws) := by
  unfold PageCalls.land at hkeeps ⊢
  split
  · exact hs
  · next results hresults =>
    rw [hresults] at hkeeps
    dsimp only at hkeeps
    split
    · exact hs
    · next page cluster h =>
      rw [h] at hkeeps
      dsimp only at hkeeps
      obtain ⟨r, asked, hunder⟩ := hs.underway u hu
      have hstored := stored_of_landPage hunder h
      have hresult : page.results = results := (Cluster.landPage?_eq_some h).1
      refine ⟨distinct_of_landPage hs.distinct h, fun call r' asked' hmem => ?_,
        fun call r₁ asked₁ r₂ asked₂ h₁ h₂ => ?_, fun v hv => ?_, fun call page' hmem => ?_⟩
      · exact hs.numbered call r' asked'
          ((List.mem_cons.mp hmem).resolve_left fun heq => by cases heq)
      · exact hs.once call r₁ asked₁ r₂ asked₂
          ((List.mem_cons.mp h₁).resolve_left fun heq => by cases heq)
          ((List.mem_cons.mp h₂).resolve_left fun heq => by cases heq)
      · obtain ⟨r', asked', hv⟩ := hs.underway v (List.mem_filter.mp hv).1
        exact ⟨r', asked', hv.of_keeps hkeeps fun _ => List.mem_cons_of_mem _⟩
      · rcases List.mem_cons.mp hmem with heq | hmem
        · obtain ⟨rfl, rfl⟩ := Sighting.landed.inj heq
          refine ⟨r, asked, u.page, List.mem_cons_of_mem _ hunder.opened,
            hunder.opens.of_keeps hkeeps, fun id a ha => ?_, hstored⟩
          obtain ⟨l, hl, hok⟩ := Flight.outcome_of_reply hresults (hresult ▸ ha)
          exact hunder.given id l a hl hok
        · obtain ⟨r', asked', p, hopened, hlanded⟩ := hs.landed call page' hmem
          exact ⟨r', asked', p, List.mem_cons_of_mem _ hopened, hlanded.of_keeps hkeeps⟩

/-- What one step keeps. -/
theorem Solo.step (hs : Solo answer s) (now : Instant) (e : Event) (hkeeps : s.Keeps (s.step now e))
    (hgives : Gives answer s.seen e) : Solo answer (s.step now e) := by
  cases e with
  | change x =>
    have hdistinct : (s.cluster.change x).cursors.Distinct := by
      rw [Cluster.cursors_change]
      exact hs.distinct
    exact hs.of_same hkeeps hdistinct rfl rfl fun _ hu => hu
  | reap =>
    exact hs.of_same hkeeps (hs.distinct.of_sublist List.filter_sublist) rfl rfl fun _ hu => hu
  | clear => exact hs.of_same hkeeps List.nodup_nil rfl rfl fun _ hu => hu
  | fetch r => exact hs.fetch now r hkeeps
  | ended call id callEnd => exact hs.ended hgives
  | expired call => exact hs.expired call
  | landed call draws =>
    simp only [PageCalls.step] at hkeeps ⊢
    split
    · exact hs
    · next u hu =>
      rw [hu] at hkeeps
      exact hs.land now (List.mem_of_find?_eq_some hu) draws hkeeps
  | abandoned call =>
    exact hs.of_same hkeeps hs.distinct rfl rfl fun u hu => (List.mem_filter.mp hu).1

theorem Solo.run (hs : Solo answer s) {events : List (Instant × Event)}
    (h : Undisturbed answer s events) : Solo answer (s.run events) := by
  induction events generalizing s with
  | nil => exact hs
  | cons e rest ih =>
    obtain ⟨hunexpired, hclear, hgives, hrest⟩ := h
    exact ih (hs.step e.1 e.2 (hunexpired.keeps hclear) hgives) hrest

/-! ## Following the cursors -/

/-- A page that goes on from where a chain has come extends the chain. -/
theorem Landed.paced {chain : Chain} (hpaced : chain.Paced answer) {page : FleetPage}
    {r : FetchRequest} {p : OpenPage} (hland : Landed answer s page r p)
    (hremembers : Remembers chain p.params p.offsets) (hlength : p.length = p.params.length) :
    (chain.extend page.results).Paced answer ∧
      ∃ e ∈ s.cluster.cursors.entries, e.id = page.cursor ∧
        Remembers (chain.extend page.results) e.state.params e.state.offsets := by
  constructor
  · refine hpaced.extend fun id a ha => ?_
    obtain ⟨cursor, params, length, offsets⟩ := p
    obtain rfl : length = params.length := hlength
    rw [← hremembers.request_eq cursor id]
    exact hland.given id a ha
  · obtain ⟨e, he, hcursor, hparams, hoffsets⟩ := hland.stored
    have hextend := hremembers.extend page.results
    exact ⟨e, he, hcursor, hextend.first, hparams.trans hextend.params,
      fun id => (hoffsets id).trans (hextend.offsets id)⟩

/-- The pages that a client has got are remembered under the cursor that they lead to, and on them
every node has contributed what it gives by itself. -/
theorem Solo.paced (hs : Solo answer s) {chain : Chain} {cursor : CursorId}
    (h : Sightings.Follows s.seen chain cursor) :
    chain.Paced answer ∧ ∃ e ∈ s.cluster.cursors.entries, e.id = cursor ∧
      Remembers chain e.state.params e.state.offsets := by
  induction h with
  | @start call r asked page hnew hopened hlanded =>
    obtain ⟨r', asked', p, hopened', hland⟩ := hs.landed call page hlanded
    obtain rfl := hs.once call r asked r' asked' hopened hopened'
    rcases hland.opens with ⟨-, rfl⟩ | ⟨e, -, hcursor, -⟩
    · exact hland.paced (Chain.paced_nil answer r) (remembers_first hnew) rfl
    · cases hnew.symm.trans hcursor
  | @follow chain cursor call r asked page _ hcursor hlength hopened hlanded ih =>
    obtain ⟨hpaced, e, he, hid, hremembers⟩ := ih
    obtain ⟨r', asked', p, hopened', hland⟩ := hs.landed call page hlanded
    obtain rfl := hs.once call r asked r' asked' hopened hopened'
    rcases hland.opens with ⟨hnone, -⟩ | ⟨e', he', hcursor', rfl⟩
    · cases hnone.symm.trans hcursor
    · obtain rfl : e = e' := List.inj_on_of_nodup_map hs.distinct he he'
        (hid.trans (Option.some.inj (hcursor.symm.trans hcursor')))
      exact hland.paced hpaced hremembers (by rw [hlength]; rfl)

/-- **Paging through all nodes pages each of them.**  Take a run of calls for pages, in which every
node is a deterministic pager and no cursor expires, and pages that a client gets in it by following
the cursors from a first call on, without page sizes of its own. The pages that a node contributes
to them are the first ones that a client gets that pages this node by itself, with the filters, the
page size and the start of the first call. -/
theorem contributions_are_solo_pages (callTimeout cursorTtl : Span) (answer : NodeId → Pager)
    {events : List (Instant × Event)}
    (hrun : Undisturbed answer (initial callTimeout cursorTtl) events) {chain : Chain}
    {cursor : CursorId}
    (hpages : Sightings.Follows ((initial callTimeout cursorTtl).run events).seen chain cursor)
    (id : NodeId) :
    chain.contributed id = (answer id).pages chain.first (chain.contributed id).length :=
  (((solo_initial callTimeout cursorTtl).run hrun).paced hpages).1.contributed id

end Steps

/-! ## Three pages of two nodes -/

/-- A node that counts: its cursor value is 7 on a page asked afresh, and one more on every further
page. -/
def counting (q : QueryRequest) : QueryPage :=
  match q.cursor with
  | none => .blank (some 7)
  | some o => .blank (some (o + 1))

/-- Node 2 breaks down on the first page, node 1 is away during the second, and node 2 is late on
the third. -/
def threePages : List (Instant × Event) :=
  [(0, .change (.add ⟨0, ⟨⟨1⟩, "a", "a.lan"⟩, none⟩)),
    (0, .change (.add ⟨1, ⟨⟨2⟩, "b", "b.lan"⟩, none⟩)),
    (0, .fetch ⟨none, .none, some 5, none⟩),
    (1, .ended 0 ⟨1⟩ (.answered (.ok (.blank (some 7))))),
    (1, .ended 0 ⟨2⟩ .broken),
    (1, .landed 0 [.ofNat 1]),
    (2, .change (.remove ⟨1⟩)),
    (2, .fetch ⟨some (.ofNat 1), .none, none, none⟩),
    (3, .ended 1 ⟨2⟩ (.answered (.ok (.blank (some 7))))),
    (3, .landed 1 [.ofNat 2]),
    (4, .change (.add ⟨0, ⟨⟨1⟩, "a", "a.lan"⟩, none⟩)),
    (4, .fetch ⟨some (.ofNat 2), .none, none, none⟩),
    (5, .ended 2 ⟨1⟩ (.answered (.ok (.blank (some 8))))),
    (9, .expired 2),
    (9, .landed 2 [.ofNat 3])]

/-- The requests of the three calls. -/
def askedFirst : Sighting :=
  .opened 0 ⟨none, .none, some 5, none⟩
    [(⟨1⟩, .fresh .none (some 5) none), (⟨2⟩, .fresh .none (some 5) none)]

/-- Node 1 is away. -/
def askedSecond : Sighting :=
  .opened 1 ⟨some (.ofNat 1), .none, none, none⟩ [(⟨2⟩, .fresh .none (some 5) none)]

/-- Both nodes go on from the first page that they gave. -/
def askedThird : Sighting :=
  .opened 2 ⟨some (.ofNat 2), .none, none, none⟩
    [(⟨1⟩, .continuation .none 7 (some 5)), (⟨2⟩, .continuation .none 7 (some 5))]

/-- An event that brings no page disturbs nothing. -/
theorem Undisturbed.silent {answer : NodeId → Pager} {s : PageCalls} {now : Instant} {e : Event}
    {rest : List (Instant × Event)} (hnow : s.Unexpired now) (hclear : e ≠ .clear)
    (hsilent : ∀ call id page, e ≠ .ended call id (.answered (.ok page)))
    (hrest : Undisturbed answer (s.step now e) rest) : Undisturbed answer s ((now, e) :: rest) :=
  ⟨hnow, hclear, fun call id page he => absurd he (hsilent call id page), hrest⟩

theorem Undisturbed.page {answer : NodeId → Pager} {s : PageCalls} {now : Instant} {call : Nat}
    {id : NodeId} {page : QueryPage} {rest : List (Instant × Event)} (hnow : s.Unexpired now)
    (hpage : ∀ r asked q, .opened call r asked ∈ s.seen → (id, q) ∈ asked → page = answer id q)
    (hrest : Undisturbed answer (s.step now (.ended call id (.answered (.ok page)))) rest) :
    Undisturbed answer s ((now, .ended call id (.answered (.ok page))) :: rest) := by
  refine ⟨hnow, nofun, ?_, hrest⟩
  rintro call' id' page' he
  cases he
  exact hpage

theorem undisturbed_threePages :
    Undisturbed (fun _ => counting) (initial 5 100) threePages := by
  -- Both nodes come, and node 1 answers to the first call.
  refine .silent (by decide +kernel) nofun nofun ?_
  refine .silent (by decide +kernel) nofun nofun ?_
  refine .silent (by decide +kernel) nofun nofun ?_
  refine .page (by decide +kernel) (fun r asked q hopened hasked => ?_) ?_
  · have hseen : Sighting.opened 0 r asked ∈ [askedFirst] := hopened
    obtain ⟨-, rfl⟩ : _ ∧ _ := by simpa [askedFirst] using hseen
    have hq : q = .fresh .none (some 5) none := by simpa using hasked
    rw [hq]
    rfl
  -- Node 2 breaks down, node 1 goes away, and node 2 answers to the second call.
  refine .silent (by decide +kernel) nofun nofun ?_
  refine .silent (by decide +kernel) nofun nofun ?_
  refine .silent (by decide +kernel) nofun nofun ?_
  refine .silent (by decide +kernel) nofun nofun ?_
  refine .page (by decide +kernel) (fun r asked q hopened hasked => ?_) ?_
  · obtain ⟨p, hseen⟩ : ∃ p, .opened 1 r asked ∈ [askedSecond, .landed 0 p, askedFirst] :=
      ⟨_, hopened⟩
    obtain ⟨-, rfl⟩ : _ ∧ _ := by simpa [askedFirst, askedSecond] using hseen
    have hq : q = .fresh .none (some 5) none := by simpa using hasked
    rw [hq]
    rfl
  -- Node 1 comes back and answers to the third call, and node 2 is late.
  refine .silent (by decide +kernel) nofun nofun ?_
  refine .silent (by decide +kernel) nofun nofun ?_
  refine .silent (by decide +kernel) nofun nofun ?_
  refine .page (by decide +kernel) (fun r asked q hopened hasked => ?_) ?_
  · obtain ⟨p₁, p₂, hseen⟩ : ∃ p₁ p₂, .opened 2 r asked ∈
        [askedThird, .landed 1 p₂, askedSecond, .landed 0 p₁, askedFirst] := ⟨_, _, hopened⟩
    obtain ⟨-, rfl⟩ : _ ∧ _ := by simpa [askedFirst, askedSecond, askedThird] using hseen
    have hq : q = .continuation .none 7 (some 5) := by simpa using hasked
    rw [hq]
    rfl
  refine .silent (by decide +kernel) nofun nofun ?_
  exact .silent (by decide +kernel) nofun nofun trivial

/-- Node 1 contributes two pages, and node 2 one. -/
theorem contributions_are_solo_pages_of_threePages :
    ∃ chain, Sightings.Follows ((initial 5 100).run threePages).seen chain (.ofNat 3) ∧
      chain.pages.length = 3 ∧
      chain.contributed ⟨1⟩ = Pager.pages counting chain.first 2 ∧
      chain.contributed ⟨2⟩ = Pager.pages counting chain.first 1 := by
  have hseen : ∃ p₁ p₂ p₃ : FleetPage, ((initial 5 100).run threePages).seen =
      [.landed 2 p₃, askedThird, .landed 1 p₂, askedSecond, .landed 0 p₁, askedFirst] ∧
      (p₁.cursor = .ofNat 1 ∧ p₂.cursor = .ofNat 2 ∧ p₃.cursor = .ofNat 3) ∧
      (Chain.contributed ⟨⟨none, .none, some 5, none⟩, [p₃.results, p₂.results, p₁.results]⟩
        ⟨1⟩).length = 2 ∧
      (Chain.contributed ⟨⟨none, .none, some 5, none⟩, [p₃.results, p₂.results, p₁.results]⟩
        ⟨2⟩).length = 1 :=
    ⟨_, _, _, rfl, ⟨rfl, rfl, rfl⟩, rfl, rfl⟩
  obtain ⟨p₁, p₂, p₃, hseen, ⟨h₁, h₂, h₃⟩, hone, htwo⟩ := hseen
  have hmem : ∀ x ∈ [.landed 2 p₃, askedThird, .landed 1 p₂, askedSecond, .landed 0 p₁, askedFirst],
      x ∈ ((initial 5 100).run threePages).seen := fun x hx => hseen ▸ hx
  have hfirst := Sightings.Follows.start rfl (hmem askedFirst (by simp))
    (hmem (.landed 0 p₁) (by simp))
  have hsecond := hfirst.follow (congrArg some h₁.symm) rfl (hmem askedSecond (by simp))
    (hmem (.landed 1 p₂) (by simp))
  have hthird := hsecond.follow (congrArg some h₂.symm) rfl (hmem askedThird (by simp))
    (hmem (.landed 2 p₃) (by simp))
  rw [h₃] at hthird
  have hpages :=
    contributions_are_solo_pages 5 100 (fun _ => counting) undisturbed_threePages hthird
  refine ⟨_, hthird, rfl, ?_, ?_⟩
  · rw [← hone]
    exact hpages ⟨1⟩
  · rw [← htwo]
    exact hpages ⟨2⟩

end PageCalls

end FilterFleet
