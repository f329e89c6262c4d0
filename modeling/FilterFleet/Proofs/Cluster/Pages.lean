import FilterFleet.Proofs.Cluster.Chain
import FilterFleet.Proofs.Cluster.Passage

/-!
# Pages and the calls that they came from

The pages that lead to a cursor have each landed with a call of their own. `Sightings.pages?` lists
them with the numbers of these calls; they are the pages of the chain of the cursor
(`Sightings.map_pages`). What one step may do to the calls is told by `PageCalls.advances_step` and
`PageCalls.opened_step`.
-/

namespace FilterFleet

namespace Sightings

mutual

/-- The pages that a call goes on from, latest first, each with the number of its own call. -/
def pagesBefore? : Sightings → Nat → Option (List (Nat × FanOut QueryPage))
  | [], _ => none
  | .opened call r _ :: before, call' =>
    if call = call' then
      match r.cursor with
      | none => some []
      | some c => pages? before c
    else pagesBefore? before call'
  | .landed _ _ :: before, call' => pagesBefore? before call'

/-- The pages that lead to a cursor, latest first, each with the number of its call. -/
def pages? : Sightings → CursorId → Option (List (Nat × FanOut QueryPage))
  | [], _ => none
  | .opened _ _ _ :: before, c => pages? before c
  | .landed call page :: before, c =>
    if page.endOfResults = false ∧ page.cursor = c then
      (pagesBefore? before call).map ((call, page.results) :: ·)
    else pages? before c

end

/-- These are the pages of the chains. -/
theorem map_pages (seen : Sightings) :
    (∀ call, (pagesBefore? seen call).map (·.map Prod.snd) =
      (chainBefore? seen call).map Chain.pages) ∧
    ∀ c, (pages? seen c).map (·.map Prod.snd) = (chain? seen c).map Chain.pages := by
  induction seen with
  | nil => exact ⟨fun _ => rfl, fun _ => rfl⟩
  | cons x before ih =>
    cases x with
    | opened call r asked =>
      refine ⟨fun call' => ?_, fun c => ?_⟩
      · rw [pagesBefore?, chainBefore?]
        split
        · cases r.cursor with
          | none => rfl
          | some c => exact ih.2 c
        · exact ih.1 call'
      · rw [pages?, chain?]
        exact ih.2 c
    | landed call page =>
      refine ⟨fun call' => ?_, fun c => ?_⟩
      · rw [pagesBefore?, chainBefore?]
        exact ih.1 call'
      · rw [pages?, chain?]
        split
        · have hbefore := ih.1 call
          rw [Option.map_map, Option.map_map]
          cases hpages : pagesBefore? before call <;> cases hchain : chainBefore? before call <;>
            simp_all [Chain.extend]
        · exact ih.2 c

/-- Each of these pages was seen to land. -/
theorem landed_of_mem_pages (seen : Sightings) :
    (∀ call pages, pagesBefore? seen call = some pages →
      ∀ x ∈ pages, ∃ page, .landed x.1 page ∈ seen ∧ page.results = x.2) ∧
    ∀ c pages, pages? seen c = some pages →
      ∀ x ∈ pages, ∃ page, .landed x.1 page ∈ seen ∧ page.results = x.2 := by
  induction seen with
  | nil => exact ⟨fun _ _ h => (nomatch h), fun _ _ h => nomatch h⟩
  | cons y before ih =>
    have hbefore : ∀ {x : Nat × FanOut QueryPage},
        (∃ page, .landed x.1 page ∈ before ∧ page.results = x.2) →
        ∃ page, .landed x.1 page ∈ y :: before ∧ page.results = x.2 :=
      fun ⟨page, hmem, hres⟩ => ⟨page, List.mem_cons_of_mem _ hmem, hres⟩
    cases y with
    | opened call r asked =>
      refine ⟨fun call' pages h x hx => hbefore ?_, fun c pages h x hx => hbefore ?_⟩
      · rw [pagesBefore?] at h
        split at h
        · cases hr : r.cursor with
          | none =>
            rw [hr] at h
            obtain rfl := Option.some.inj h
            exact nomatch hx
          | some c =>
            rw [hr] at h
            exact ih.2 c pages h x hx
        · exact ih.1 call' pages h x hx
      · rw [pages?] at h
        exact ih.2 c pages h x hx
    | landed call page =>
      refine ⟨fun call' pages h x hx => hbefore ?_, fun c pages h x hx => ?_⟩
      · rw [pagesBefore?] at h
        exact ih.1 call' pages h x hx
      · rw [pages?] at h
        split at h
        · obtain ⟨earlier, hearlier, rfl⟩ := Option.map_eq_some_iff.mp h
          rcases List.mem_cons.mp hx with rfl | hx
          · exact ⟨page, List.mem_cons_self, rfl⟩
          · exact hbefore (ih.1 call earlier hearlier x hx)
        · exact hbefore (ih.2 c pages h x hx)

/-- The last cursor value that a node answered with on a chain came with one of its pages. -/
theorem exists_page_of_lastCursor {seen : Sightings} {c : CursorId} {chain : Chain} {id : NodeId}
    {o : Int64} (hchain : chain? seen c = some chain) (hlast : chain.lastCursor? id = some o) :
    ∃ pages call page, pages? seen c = some pages ∧ (call, page.results) ∈ pages ∧
      .landed call page ∈ seen ∧ OpenPage.answered? page.results id = some o := by
  obtain ⟨results, hmem, hanswered⟩ := List.exists_of_findSome?_eq_some hlast
  have hmap := (map_pages seen).2 c
  rw [hchain, Option.map_some] at hmap
  obtain ⟨pages, hpages, hsnd⟩ := Option.map_eq_some_iff.mp hmap
  rw [← hsnd] at hmem
  obtain ⟨⟨call, results⟩, hcall, rfl⟩ := List.mem_map.mp hmem
  obtain ⟨page, hlanded, rfl⟩ := (landed_of_mem_pages seen).2 c pages hpages _ hcall
  exact ⟨pages, call, page, hpages, hcall, hlanded, hanswered⟩

end Sightings

/-- A node that is asked to continue from a cursor value has answered with it on the chain. -/
theorem Continues.lastCursor_eq {chain : Chain} {r : FetchRequest} {id : NodeId} {q : QueryRequest}
    {o : Int64} (h : Continues chain r id q) (ho : q.cursor = some o) :
    chain.lastCursor? id = some o := by
  cases hlast : chain.lastCursor? id with
  | none => exact nomatch ho.symm.trans (h.afresh hlast).1
  | some o' =>
    obtain rfl := Option.some.inj (ho.symm.trans (h.further o' hlast).1)
    rfl

/-- Who answered has a result. -/
theorem OpenPage.mem_ids_of_answered {results : FanOut QueryPage} {id : NodeId} {o : Int64}
    (h : answered? results id = some o) : id ∈ results.ids := by
  obtain ⟨page, hpage, -⟩ := Option.bind_eq_some_iff.mp h
  obtain ⟨res, hres, -⟩ := Option.bind_eq_some_iff.mp hpage
  exact (NodeMap.mem_ids_iff _ _).mpr ⟨res, hres⟩

/-! ## What a step does to the calls for pages -/

namespace PageCalls

/-- From one state of the calls to a later one, calls under way go on with the nodes that they asked,
new ones ask the members, and results come from the nodes that were asked. -/
structure Advances (s s' : PageCalls) : Prop where
  next : s.next ≤ s'.next
  underway : ∀ u' ∈ s'.underway,
    (∃ u ∈ s.underway, u'.call = u.call ∧ u'.flight.legs.ids = u.flight.legs.ids) ∨
      (u'.call = s.next ∧ s.next < s'.next ∧ u'.flight.legs.ids = s.cluster.members.ids)
  landed : ∀ call page, .landed call page ∈ s'.seen → .landed call page ∈ s.seen ∨
    ∃ u ∈ s.underway, u.call = call ∧ page.results.ids = u.flight.legs.ids

variable {s : PageCalls}

/-- Nothing new is seen, and calls under way may be given up. -/
theorem Advances.of_same {s' : PageCalls} (hnext : s'.next = s.next) (hseen : s'.seen = s.seen)
    (hunderway : ∀ u' ∈ s'.underway, ∃ u ∈ s.underway, u'.call = u.call ∧
      u'.flight.legs.ids = u.flight.legs.ids) : s.Advances s' :=
  ⟨Nat.le_of_eq hnext.symm, fun u' hu' => .inl (hunderway u' hu'),
    fun _ _ h => .inl (hseen ▸ h)⟩

theorem advances_onFlight (call : Nat) {f : Flight QueryPage → Flight QueryPage}
    (hf : ∀ flight, (f flight).legs.ids = flight.legs.ids) : s.Advances (s.onFlight call f) := by
  refine .of_same rfl rfl fun u' hu' => ?_
  obtain ⟨u, hu, rfl⟩ := List.mem_map.mp hu'
  refine ⟨u, hu, ?_⟩
  split
  · exact ⟨rfl, hf _⟩
  · exact ⟨rfl, rfl⟩

theorem advances_fetch (now : Instant) (r : FetchRequest) : s.Advances (s.fetch now r) := by
  obtain ⟨cluster, -, h | ⟨page, asked, -, -, h⟩⟩ := fetch_cases s now r
  · rw [h]
    exact .of_same rfl rfl fun u hu => ⟨u, hu, rfl, rfl⟩
  · rw [h]
    refine ⟨Nat.le_succ _, fun u' hu' => ?_, fun call page' h' => .inl ?_⟩
    · rcases List.mem_cons.mp hu' with rfl | hold
      · exact .inr ⟨rfl, Nat.lt_succ_self _, NodeMap.ids_map _ _⟩
      · exact .inl ⟨u', hold, rfl, rfl⟩
    · exact (List.mem_cons.mp h').resolve_left fun heq => nomatch heq

theorem advances_land (now : Instant) {u : PageCall} (hu : u ∈ s.underway)
    (draws : List CursorId) : s.Advances (s.land now u draws) := by
  have hstays : s.Advances s := .of_same rfl rfl fun u hu => ⟨u, hu, rfl, rfl⟩
  unfold PageCalls.land
  split
  · exact hstays
  · next results hresults =>
    split
    · exact hstays
    · next page cluster h =>
      have hres : page.results = results := (Cluster.landPage?_eq_some h).1
      refine ⟨Nat.le_refl _, fun u' hu' => .inl ⟨u', (List.mem_filter.mp hu').1, rfl, rfl⟩,
        fun call page' h' => ?_⟩
      rcases List.mem_cons.mp h' with heq | hold
      · obtain ⟨rfl, rfl⟩ := Sighting.landed.inj heq
        exact .inr ⟨u, hu, rfl, hres ▸ (Flight.results?_eq_some hresults).1⟩
      · exact .inl hold

/-- **What a step does to the calls.** -/
theorem advances_step (now : Instant) (e : Event) : s.Advances (s.step now e) := by
  have hstays : s.Advances s := .of_same rfl rfl fun u hu => ⟨u, hu, rfl, rfl⟩
  cases e with
  | change _ | reap | clear => exact .of_same rfl rfl fun u hu => ⟨u, hu, rfl, rfl⟩
  | fetch r => exact advances_fetch now r
  | ended call id callEnd =>
    exact advances_onFlight (f := fun flight => flight.report id callEnd) call
      fun flight => NodeMap.ids_map flight.legs _
  | expired call => exact advances_onFlight call fun flight => NodeMap.ids_map flight.legs _
  | landed call draws =>
    simp only [PageCalls.step]
    split
    · exact hstays
    · next u hu => exact advances_land now (List.mem_of_find?_eq_some hu) draws
  | abandoned call =>
    exact .of_same rfl rfl fun u hu => ⟨u, (List.mem_filter.mp hu).1, rfl, rfl⟩

/-- Requests are seen only when a page is asked for, and go to the members. -/
theorem opened_step {now : Instant} {e : Event} {call : Nat} {r : FetchRequest}
    {asked : List (NodeId × QueryRequest)}
    (h : (s.step now e).seen = .opened call r asked :: s.seen) :
    ∃ page, (s.cluster.openPage r now).1 = .ok page ∧
      ∀ id q, (id, q) ∈ asked → id ∈ s.cluster.members.ids ∧ q = page.request id := by
  have hnot : s.seen ≠ .opened call r asked :: s.seen := (List.cons_ne_self _ _).symm
  cases e with
  | change _ | reap | clear | ended _ _ _ | expired _ | abandoned _ => exact absurd h hnot
  | fetch r' =>
    obtain ⟨cluster, -, hsame | ⟨page, asked', hopen, hasked, hnew⟩⟩ := fetch_cases s now r'
    · have hseen : s.seen = .opened call r asked :: s.seen :=
        (congrArg PageCalls.seen hsame).symm.trans h
      exact absurd hseen hnot
    · have hseen := (congrArg PageCalls.seen hnew).symm.trans h
      obtain ⟨-, rfl, rfl⟩ := Sighting.opened.inj (List.cons.inj hseen).1
      refine ⟨page, hopen, fun id q hq => ?_⟩
      obtain ⟨hid, hrequest⟩ := (hasked id q).mp hq
      exact ⟨NodeMap.ids_map s.cluster.members _ ▸ hid, hrequest⟩
  | landed call' draws =>
    simp only [PageCalls.step] at h
    split at h
    · exact absurd h hnot
    · unfold PageCalls.land at h
      split at h
      · exact absurd h hnot
      · split at h
        · exact absurd h hnot
        · cases (List.cons.inj h).1

end PageCalls

end FilterFleet
