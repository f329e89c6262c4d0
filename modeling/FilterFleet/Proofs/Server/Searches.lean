import FilterFleet.Proofs.Cluster.Pages
import FilterFleet.Proofs.Server.Membership
import FilterFleet.Proofs.Server.Tenants

/-!
# Whose cursors a node is asked to continue

A search remembers how far the nodes have come by their ids, and a server goes on adding, changing
and removing nodes while it lasts. `Searches` is a run of a server with its searches, in which the
roll is kept at which each call for a page was opened. A node is asked to continue only from a cursor
value that was answered under its id on a page of the search (`Searches.continued_from_page`). This
was the same node at the same address, or the node has come to its id or to its address since the
call for that page was opened. In the second case the cursor is not the node's own
(`Searches.replaced_nodes_are_continued`).
-/

namespace FilterFleet

/-! ## Cursors of a server -/

namespace ServerRun

/-- Searches are made. -/
def Move.isSearch : Move → Bool
  | .searched _ => true
  | _ => false

/-- Only searches put new cursors into the table. -/
theorem cursors_step {r q : ServerRun} {m : Move} (h : r.step? m = some q)
    (hm : m.isSearch = false) :
    q.server.cluster.cursors.entries.Sublist r.server.cluster.cursors.entries := by
  cases m with
  | add connect settings =>
    obtain rfl := Option.some.inj h
    rcases r.server.addNode_cases connect settings with ⟨e, h⟩ | ⟨-, -, member, -, -, h⟩ <;> rw [h]
    exact .refl _
  | update settings =>
    obtain rfl := Option.some.inj h
    rcases r.server.updateNode_cases settings with ⟨e, h⟩ | ⟨-, -, member, -, h⟩ <;> rw [h]
    exact .refl _
  | remove id stamp =>
    obtain rfl := Option.some.inj h
    rcases r.server.removeNode_cases id stamp with ⟨-, h⟩ | ⟨-, h⟩ <;> rw [h]
    exact .refl _
  | landed i stamp =>
    obtain ⟨results, -, rfl⟩ := Option.map_eq_some_iff.mp h
    exact .refl _
  | searched cursors => simp [Move.isSearch] at hm
  | started =>
    obtain rfl := Option.some.inj h
    rw [r.server.toFleet_start]
  | stopped =>
    obtain rfl := Option.some.inj h
    exact List.nil_sublist _
  | departed _ | ended _ _ _ | expired _ | abandoned _ | called _ | woken _ _ _ | rested _ _ _
  | stopping | listened =>
    obtain rfl := Option.some.inj h
    exact .refl _

end ServerRun

/-- The table of a new server has no cursors. -/
theorem Server.cursors_of_build {config : FleetConfig} {connect : Connector} {s : Server}
    (h : build config connect = .ok s) : s.cluster.cursors.entries = [] := by
  refine build_induction (P := fun s => s.cluster.cursors.entries = []) rfl ?_ h
  intro s settings s' hs hadd
  obtain ⟨member, -, -, rfl⟩ := addFirst_eq_ok hadd
  exact hs

/-! ## Searches on a server -/

/-- A cluster that changes does not search. -/
def PageCalls.Event.isChange : PageCalls.Event → Bool
  | .change _ => true
  | _ => false

/-- A server with its searches under way. -/
structure Searches where
  run : ServerRun
  roll : Roll
  /-- The number of the next call for a page. -/
  next : Nat
  underway : List PageCall
  seen : Sightings
  /-- The roll at the opening of each call. -/
  openedAt : Nat → Option Roll

namespace Searches

open ServerRun (connectAs)

/-- What happens to a server and to its searches. -/
inductive Move where
  /-- Something that is no search. -/
  | served (m : ServerRun.Move)
  /-- Something happens to the calls for pages. -/
  | paged (now : Instant) (e : PageCalls.Event)

/-- A server at the beginning of a run. -/
def start (s : Server) : Searches := ⟨⟨s, []⟩, .first s, 0, [], [], fun _ => none⟩

/-- The calls for pages. -/
def calls (s : Searches) : PageCalls := ⟨s.run.server.cluster, s.next, s.underway, s.seen⟩

/-- The server goes on. -/
def serve (s : Searches) (run : ServerRun) : Searches :=
  { s with run, roll := s.roll.next run.server }

/-- The calls go on. The roll is kept for the call that may have been opened. -/
def page (s : Searches) (calls : PageCalls) : Searches where
  run := { s.run with server := { s.run.server with cluster := calls.cluster } }
  roll := s.roll.next { s.run.server with cluster := calls.cluster }
  next := calls.next
  underway := calls.underway
  seen := calls.seen
  openedAt := Function.update s.openedAt s.next (some s.roll)

/-- What a move does, if it can be made. -/
def step? (s : Searches) : Move → Option Searches
  | .served m => if m.isSearch then none else (s.run.step? m).map s.serve
  | .paged now e => if e.isChange then none else some (s.page (s.calls.step now e))

/-- Make moves one after another. -/
def run? (s : Searches) (moves : List Move) : Option Searches := runMoves? step? s moves

/-! ## What goes with a run -/

/-- A call was opened for the nodes of the given ids, and its roll is kept. -/
structure OpenedFor (s : Searches) (call : Nat) (ids : List NodeId) (roll : Roll) : Prop where
  number : call < s.next
  kept : s.openedAt call = some roll
  later : roll.Later s.roll
  ids : roll.tenants.ids = ids

/-- What goes with a run of searches. -/
structure Kept (s : Searches) : Prop where
  describes : s.roll.Describes s.run.server
  tracked : s.calls.Tracked
  faithful : Throughout PageCalls.Faithful s.seen
  underway : ∀ u ∈ s.underway, ∃ roll, s.OpenedFor u.call u.flight.legs.ids roll
  landed : ∀ call page, .landed call page ∈ s.seen → ∃ roll, s.OpenedFor call page.results.ids roll

variable {s s' : Searches} {call : Nat} {ids : List NodeId} {roll : Roll}

/-- While the server goes on nothing happens to the calls. -/
theorem OpenedFor.serve (h : s.OpenedFor call ids roll) (run : ServerRun) :
    (s.serve run).OpenedFor call ids roll :=
  ⟨h.number, h.kept, h.later.next run.server, h.ids⟩

/-- While the calls go on their rolls stay as they are. -/
theorem OpenedFor.page (h : s.OpenedFor call ids roll) {calls : PageCalls}
    (hcalls : s.calls.Advances calls) : (s.page calls).OpenedFor call ids roll where
  number := Nat.lt_of_lt_of_le h.number hcalls.next
  kept := by
    show Function.update s.openedAt s.next (some s.roll) call = some roll
    rw [Function.update_of_ne (Nat.ne_of_lt h.number)]
    exact h.kept
  later := h.later.next _
  ids := h.ids

/-- A new call is opened for the members. -/
theorem Kept.openedFor_next (h : s.Kept) {calls : PageCalls} (hnext : s.next < calls.next) :
    (s.page calls).OpenedFor s.next s.run.server.cluster.members.ids s.roll where
  number := hnext
  kept := Function.update_self _ _ _
  later := (Roll.Later.refl _).next _
  ids := h.describes.ids

theorem Kept.serve (h : s.Kept) {run : ServerRun}
    (hcursors : run.server.cluster.cursors.entries.Sublist
      s.run.server.cluster.cursors.entries) : (s.serve run).Kept where
  describes := h.describes.next run.server
  tracked := h.tracked.of_sublist hcursors
  faithful := h.faithful
  underway u hu := by
    obtain ⟨roll, hroll⟩ := h.underway u hu
    exact ⟨roll, hroll.serve run⟩
  landed call page hmem := by
    obtain ⟨roll, hroll⟩ := h.landed call page hmem
    exact ⟨roll, hroll.serve run⟩

theorem Kept.page (h : s.Kept) (now : Instant) (e : PageCalls.Event) :
    (s.page (s.calls.step now e)).Kept := by
  have hcalls : s.calls.Advances (s.calls.step now e) := PageCalls.advances_step now e
  constructor
  case describes => exact h.describes.next _
  case tracked => exact h.tracked.step now e
  case faithful => exact h.tracked.faithful_step h.faithful now e
  case underway =>
    intro u' hu'
    rcases hcalls.underway u' hu' with ⟨u, hu, hcall, hids⟩ | ⟨hcall, hnext, hids⟩
    · obtain ⟨roll, hroll⟩ := h.underway u hu
      rw [hcall, hids]
      exact ⟨roll, hroll.page hcalls⟩
    · rw [hcall, hids]
      exact ⟨s.roll, h.openedFor_next hnext⟩
  case landed =>
    intro call page hmem
    rcases hcalls.landed call page hmem with hold | ⟨u, hu, rfl, hids⟩
    · obtain ⟨roll, hroll⟩ := h.landed call page hold
      exact ⟨roll, hroll.page hcalls⟩
    · obtain ⟨roll, hroll⟩ := h.underway u hu
      rw [hids]
      exact ⟨roll, hroll.page hcalls⟩

/-- **What one move preserves.** -/
theorem Kept.step {m : Move} (h : s.Kept) (hstep : s.step? m = some s') : s'.Kept := by
  cases m with
  | served m =>
    obtain ⟨hm, hserve⟩ := Option.ite_none_left_eq_some.mp hstep
    obtain ⟨run, hrun, rfl⟩ := Option.map_eq_some_iff.mp hserve
    exact h.serve (ServerRun.cursors_step hrun (Bool.eq_false_of_not_eq_true hm))
  | paged now e =>
    obtain ⟨-, hs'⟩ := Option.ite_none_left_eq_some.mp hstep
    obtain rfl := Option.some.inj hs'
    exact h.page now e

theorem kept_start {config : FleetConfig} {connect : Connector} {server : Server}
    (h : Server.build config connect = .ok server) : (start server).Kept where
  describes := Roll.describes_first server
  tracked := by
    refine ⟨fun e he => ?_, fun _ hu => (nomatch hu), fun _ hu => nomatch hu⟩
    have hnone : e ∈ server.cluster.cursors.entries := he
    rw [Server.cursors_of_build h] at hnone
    exact nomatch hnone
  faithful := trivial
  underway _ hu := nomatch hu
  landed _ _ hmem := nomatch hmem

/-- What a whole run preserves. -/
theorem Kept.run {moves : List Move} (h : s.Kept) (hrun : s.run? moves = some s') : s'.Kept :=
  runMoves?_induction (fun _ _ _ hs hstep => hs.step hstep) h hrun

/-! ## Whose cursors are continued -/

/-- The cursor value `o`, from which the node of an id is asked to continue with the cursor `c`, was
answered under this id on a page of the search. The tenant `t` had the id when the call for this page
was opened, and the tenant `t'` is asked to continue. It is the same one, or it has come to the id or
to its address since. -/
structure Given (s : Searches) (c : CursorId) (id : NodeId) (o : Int64) (t t' : Tenant) : Prop where
  page : ∃ pages call results roll, s.seen.pages? c = some pages ∧ (call, results) ∈ pages ∧
    OpenPage.answered? results id = some o ∧ s.openedAt call = some roll ∧
    roll.tenants.find? id = some t ∧ (t' = t ∨ roll.moves ≤ t'.moved)
  present : s.roll.tenants.find? id = some t'
  address : t'.address = s.run.server.address? id

/-- The last cursor value of a chain was given by the tenant that was asked for its page. -/
theorem Kept.given (h : s.Kept) {c : CursorId} {chain : Chain} {id : NodeId} {o : Int64}
    (hchain : s.seen.chain? c = some chain) (hlast : chain.lastCursor? id = some o)
    (hid : id ∈ s.run.server.cluster.members.ids) : ∃ t t', s.Given c id o t t' := by
  obtain ⟨pages, call, page, hpages, hmem, hlanded, hanswered⟩ :=
    Sightings.exists_page_of_lastCursor hchain hlast
  obtain ⟨roll, hroll⟩ := h.landed call page hlanded
  have hthen : id ∈ roll.tenants.ids := hroll.ids ▸ OpenPage.mem_ids_of_answered hanswered
  have hnow : id ∈ s.roll.tenants.ids := h.describes.ids ▸ hid
  obtain ⟨t, ht⟩ := (NodeMap.mem_ids_iff _ _).mp hthen
  obtain ⟨t', ht'⟩ := (NodeMap.mem_ids_iff _ _).mp hnow
  exact ⟨t, t', ⟨pages, call, page.results, roll, hpages, hmem, hanswered, hroll.kept, ht,
    hroll.later.same_or_moved ht ht'⟩, ht', h.describes.address id t' ht'⟩

/-- **Whose cursors a node is asked to continue.** In every run of a server with its searches,
whenever a node is asked to continue from a cursor value, this value was answered under its id on a
page of the search. The node that answered is the node that is asked, at the same address, unless the
node has come to the id or to the address since. -/
theorem continued_from_page {config : FleetConfig} {connect : Connector} {server : Server}
    (hbuild : Server.build config connect = .ok server) {moves : List Move}
    (hrun : (start server).run? moves = some s) {m : Move} (hstep : s.step? m = some s')
    {r : FetchRequest} {asked : List (NodeId × QueryRequest)}
    (hseen : s'.seen = .opened call r asked :: s.seen) {id : NodeId} {q : QueryRequest} {o : Int64}
    (hasked : (id, q) ∈ asked) (ho : q.cursor = some o) :
    ∃ c t t', r.cursor = some c ∧ s.Given c id o t t' := by
  have h : s.Kept := (kept_start hbuild).run hrun
  cases m with
  | served m =>
    obtain ⟨-, hserve⟩ := Option.ite_none_left_eq_some.mp hstep
    obtain ⟨run, -, rfl⟩ := Option.map_eq_some_iff.mp hserve
    exact absurd hseen (List.cons_ne_self _ _).symm
  | paged now e =>
    obtain ⟨-, hs'⟩ := Option.ite_none_left_eq_some.mp hstep
    obtain rfl := Option.some.inj hs'
    have hseen : (s.calls.step now e).seen = .opened call r asked :: s.calls.seen := hseen
    obtain ⟨page, hopen, hall⟩ := PageCalls.opened_step hseen
    obtain ⟨hid, rfl⟩ := hall id q hasked
    rcases Cluster.fst_openPage hopen with ⟨-, rfl⟩ | ⟨stored, -, hcursor, -⟩
    · -- a first page asks every node afresh
      exact nomatch ho
    · have hfaithful := h.tracked.faithful_step h.faithful now e
      rw [hseen] at hfaithful
      obtain ⟨chain, hchain, -, hcontinues⟩ := hfaithful.1 call r asked stored.id rfl hcursor
      obtain ⟨t, t', hgiven⟩ := h.given hchain ((hcontinues id _ hasked).lastCursor_eq ho) hid
      exact ⟨stored.id, t, t', hcursor, hgiven⟩

/-- Two nodes are added, and a first page is asked for, on which they answer with 7 and with 8. -/
def firstPage : List Move :=
  [.served (.add (connectAs 1) (.basic ⟨1⟩ "a" "a.lan" "")),
    .served (.add (connectAs 2) (.basic ⟨2⟩ "b" "b.lan" "")),
    .paged 0 (.fetch (.search .none none)),
    .paged 0 (.ended 0 ⟨1⟩ (.answered (.ok (.blank (some 7))))),
    .paged 0 (.ended 0 ⟨2⟩ (.answered (.ok (.blank (some 8))))),
    .paged 0 (.landed 0 [default])]

/-- The page after the first one is asked for. -/
def followUp : Move := .paged 0 (.fetch (.nextPage default))

/-- What the nodes are asked then. -/
def continuations : List (NodeId × QueryRequest) :=
  [(⟨1⟩, .continuation .none 7 none), (⟨2⟩, .continuation .none 8 none)]

/-- On the second page of a search the first node is asked to continue from its own cursor. -/
theorem continued_from_firstPage :
    Server.build .standard (connectAs 1) = .ok (.bare .standard) ∧
      ∃ s s', (start (.bare .standard)).run? firstPage = some s ∧ s.step? followUp = some s' ∧
        s'.seen = .opened 1 (.nextPage default) continuations :: s.seen ∧
        (⟨1⟩, .continuation .none 7 none) ∈ continuations ∧
        ∃ c t t', (FetchRequest.nextPage default).cursor = some c ∧ s.Given c ⟨1⟩ 7 t t' := by
  have hbuild := Server.build_standard (connectAs 1)
  have hview : ((start (.bare .standard)).run? firstPage).bind (fun s => (s.step? followUp).map
      (·.seen)) = ((start (.bare .standard)).run? firstPage).map
      fun s => .opened 1 (.nextPage default) continuations :: s.seen := rfl
  obtain ⟨s, hrun⟩ : ∃ s, (start (.bare .standard)).run? firstPage = some s := ⟨_, rfl⟩
  rw [hrun, Option.bind_some, Option.map_some] at hview
  obtain ⟨s', hstep, hseen⟩ := Option.map_eq_some_iff.mp hview
  have hasked : (⟨1⟩, .continuation .none 7 none) ∈ continuations := List.mem_cons_self
  exact ⟨hbuild, s, s', hrun, hstep, hseen, hasked,
    continued_from_page hbuild hrun hstep hseen hasked rfl⟩

/-- The first node is removed and another one is added under its id, and the second node is given
another address. -/
def replacing : List Move :=
  [.served (.remove ⟨1⟩ ⟨0⟩), .served (.add (connectAs 3) (.basic ⟨1⟩ "c" "c.lan" "")),
    .served (.update (.basic ⟨2⟩ "b" "d.lan" ""))]

/-- A search that is followed up asks the nodes that have come to an id or to an address since to
continue from cursor values of the nodes that were there before: there is one page, for which the
nodes at `a.lan` and `b.lan` were asked, and those at `c.lan` and `d.lan` are asked to continue it. -/
theorem replaced_nodes_are_continued :
    ∃ s s' roll, (start (.bare .standard)).run? (firstPage ++ replacing) = some s ∧
      s.step? followUp = some s' ∧
      s'.seen = .opened 1 (.nextPage default) continuations :: s.seen ∧
      (s.seen.pages? default).map (·.map Prod.fst) = some [0] ∧
      s.openedAt 0 = some roll ∧
      roll.tenants.values = [⟨1, 1, some ("a.lan", 80)⟩, ⟨2, 2, some ("b.lan", 80)⟩] ∧
      s.roll.tenants.values = [⟨8, 8, some ("c.lan", 80)⟩, ⟨2, 9, some ("d.lan", 80)⟩] := by
  have hview : ((start (.bare .standard)).run? (firstPage ++ replacing)).bind
      (fun s => (s.step? followUp).map (·.seen)) =
      ((start (.bare .standard)).run? (firstPage ++ replacing)).map
      fun s => .opened 1 (.nextPage default) continuations :: s.seen := rfl
  have hpages : ((start (.bare .standard)).run? (firstPage ++ replacing)).map
      (fun s => (s.seen.pages? default).map (·.map Prod.fst)) = some (some [0]) := rfl
  have hthen : ((start (.bare .standard)).run? (firstPage ++ replacing)).bind
      (fun s => (s.openedAt 0).map (·.tenants.values)) =
      some [⟨1, 1, some ("a.lan", 80)⟩, ⟨2, 2, some ("b.lan", 80)⟩] := rfl
  have hnow : ((start (.bare .standard)).run? (firstPage ++ replacing)).map
      (·.roll.tenants.values) =
      some [⟨8, 8, some ("c.lan", 80)⟩, ⟨2, 9, some ("d.lan", 80)⟩] := rfl
  obtain ⟨s, hrun⟩ : ∃ s, (start (.bare .standard)).run? (firstPage ++ replacing) = some s :=
    ⟨_, rfl⟩
  rw [hrun, Option.bind_some, Option.map_some] at hview
  rw [hrun, Option.map_some] at hpages hnow
  rw [hrun, Option.bind_some] at hthen
  obtain ⟨s', hstep, hseen⟩ := Option.map_eq_some_iff.mp hview
  obtain ⟨roll, hroll, htenants⟩ := Option.map_eq_some_iff.mp hthen
  exact ⟨s, s', roll, hrun, hstep, hseen, Option.some.inj hpages, hroll, htenants,
    Option.some.inj hnow⟩

end Searches

end FilterFleet
