import FilterFleet.Proofs.Cluster.Passage
import FilterFleet.Proofs.Server.Run

/-!
# Health records and membership

The board of a server holds the health records of its members and their summary. In every run of a
server, however sweeps overlap with changes of the membership, the records are those of members, the
summary counts them (`BoardExact`), and whenever the board changes it is announced, the records and
then the summary (`Announced`). A sweep that lands leaves the records of exactly those nodes that it
asked and that are members still, each made from the node's own answer (`Landed`).
-/

namespace FilterFleet

/-! ## Records -/

theorem NodeError.text_ne_empty (e : NodeError) : e.text ≠ "" := by
  intro hempty
  have hlength : e.text.length = 0 := by rw [hempty]; rfl
  have htwo : (": " : String).length = 2 := rfl
  rw [NodeError.text, String.length_append, String.length_append, htwo] at hlength
  omega

/-- The record that an answer makes. -/
structure HealthRecord.Describes (stamp : Timestamp) (res : NodeResult AuthStatus)
    (r : HealthRecord) : Prop where
  node : r.node = res.node
  updatedAt : r.updatedAt = stamp
  /-- A node that failed is offline, and it is said why. -/
  failed : ∀ e, res.outcome = .error e →
    r.status = .offline ∧ r.latencyMs = none ∧ ∃ reason, r.lastError = some reason ∧ reason ≠ ""
  /-- A node with a valid session is online, -/
  valid : ∀ auth, res.outcome = .ok auth → auth.valid = true →
    r.status = .online ∧ r.latencyMs = some auth.tookMs ∧ r.lastError = none
  /-- and any other node that answered is degraded. -/
  invalid : ∀ auth, res.outcome = .ok auth → auth.valid = false →
    r.status = .degraded ∧ r.latencyMs = some auth.tookMs ∧ r.lastError = none

theorem HealthRecord.describes_ofResult (stamp : Timestamp) (res : NodeResult AuthStatus) :
    Describes stamp res (ofResult stamp res) := by
  obtain ⟨node, outcome⟩ := res
  cases outcome with
  | error e =>
    refine ⟨rfl, rfl, fun e' he => ?_, fun auth hok => (by cases hok), fun auth hok => (by cases hok)⟩
    obtain rfl := Except.error.inj he
    exact ⟨rfl, rfl, _, rfl, e.text_ne_empty⟩
  | ok auth =>
    refine ⟨rfl, rfl, fun e he => (by cases he), fun auth' hok hvalid => ?_,
      fun auth' hok hinvalid => ?_⟩
    · obtain rfl := Except.ok.inj hok
      exact ⟨if_pos hvalid, rfl, rfl⟩
    · obtain rfl := Except.ok.inj hok
      have hnot : ¬ auth.valid = true := by simp [hinvalid]
      exact ⟨if_neg hnot, rfl, rfl⟩

/-! ## Boards -/

namespace HealthBoard

/-- The summary counts the records. -/
structure Counted (b : HealthBoard) : Prop where
  total : b.summary.total = b.records.size
  online : b.summary.online = (b.records.values.filter fun r => r.status = .online).length

theorem counted_empty : Counted empty := ⟨rfl, rfl⟩

theorem counted_ofRecords (stamp : Timestamp) (records : NodeMap HealthRecord) :
    Counted (ofRecords stamp records) := ⟨rfl, rfl⟩

/-- After a sweep a member has a record iff it was asked, and it is the one of its answer. -/
theorem find?_absorb (b : HealthBoard) (results : FanOut AuthStatus) (isMember : NodeId → Bool)
    (stamp : Timestamp) (id : NodeId) :
    (b.absorb results isMember stamp).records.find? id =
      if isMember id then (results.find? id).map (HealthRecord.ofResult stamp) else none := by
  have hanswered : Ascending (results.entries.filter fun e => isMember e.1) :=
    NodeMap.ascending_filter _ results.ascending
  have hfold := NodeMap.find?_foldl_insert (HealthRecord.ofResult stamp) hanswered
    (b.records.filterIds fun id => results.contains id && isMember id) id
  have hlookup := NodeMap.lookupId?_filterIds isMember id results.entries
  rw [hlookup, NodeMap.find?_filterIds] at hfold
  refine hfold.trans ?_
  by_cases hmember : isMember id = true
  · -- without an answer there was no record left
    show (Option.map _ (if isMember id then results.find? id else none)).or _ = _
    cases hres : results.find? id with
    | none =>
      have hcontains : results.contains id = false := (results.contains_eq_false_iff id).mpr hres
      simp [hmember, hcontains]
    | some res => simp [hmember]
  · simp [hmember]

theorem forget?_eq_none {b : HealthBoard} {id : NodeId} {stamp : Timestamp}
    (h : b.forget? id stamp = none) : b.records.find? id = none := by
  rw [forget?] at h
  refine (b.records.contains_eq_false_iff id).mp ?_
  cases hcontains : b.records.contains id with
  | false => rfl
  | true => simp [hcontains] at h

theorem forget?_eq_some {b b' : HealthBoard} {id : NodeId} {stamp : Timestamp}
    (h : b.forget? id stamp = some b') : b' = ofRecords stamp (b.records.erase id) := by
  obtain ⟨-, h⟩ := Option.ite_none_right_eq_some.mp h
  exact (Option.some.inj h).symm

end HealthBoard

/-! ## What a move does to the records -/

namespace ServerRun

/-- The records and the summary of a server. -/
def board (s : Server) : HealthBoard := s.monitor.board

/-- A move that leaves the records alone announces nothing. -/
structure Quiet (m : Move) (s s' : Server) : Prop where
  board : board s' = board s
  queues : (∀ c, m ≠ .called c) → s'.broker.subscriptions = s.broker.subscriptions

/-- The board is announced: its records are published, and after them its summary. -/
def Announced (s s' : Server) : Prop :=
  s'.broker =
    ((s.broker.publish ⟨nodeHealthTopic,
        (Json.arr ((board s').records.values.map HealthRecord.toJson)).text⟩).2.publish
      ⟨healthSummaryTopic, (board s').summary.toJson.text⟩).2

/-- A node was removed, and its record with it. -/
structure Removed (id : NodeId) (stamp : Timestamp) (s s' : Server) : Prop where
  members : s'.cluster.members = s.cluster.members.erase id
  records : (board s).records.find? id = none ∧ board s' = board s ∧ s'.broker = s.broker ∨
    board s' = .ofRecords stamp ((board s).records.erase id) ∧ Announced s s'

theorem removed_parted (s : Server) (id : NodeId) (stamp : Timestamp) :
    Removed id stamp s (s.parted id stamp) := by
  cases hforget : s.monitor.board.forget? id stamp with
  | none =>
    have hsame : s.monitor.forget s.broker id stamp = (s.monitor, s.broker) := by
      rw [HealthMonitor.forget, hforget]
    refine ⟨?_, .inl ⟨HealthBoard.forget?_eq_none hforget, ?_, ?_⟩⟩
    · rfl
    · exact congrArg (fun x => x.1.board) hsame
    · exact congrArg Prod.snd hsame
  | some b =>
    have hnext : s.monitor.forget s.broker id stamp =
        ({ s.monitor with board := b }, b.publish s.broker) := by
      rw [HealthMonitor.forget, hforget]
    have hboard : (s.monitor.forget s.broker id stamp).1.board = b :=
      congrArg (fun x => x.1.board) hnext
    have hbroker : (s.monitor.forget s.broker id stamp).2 = b.publish s.broker :=
      congrArg Prod.snd hnext
    refine ⟨rfl, .inr ⟨hboard.trans (HealthBoard.forget?_eq_some hforget), ?_⟩⟩
    refine hbroker.trans ?_
    rw [← hboard]
    rfl

/-- What a sweep leaves behind when it lands. -/
structure Landed (w : Sweep) (results : FanOut AuthStatus) (stamp : Timestamp) (s s' : Server) :
    Prop where
  /-- There are records of exactly the nodes that were asked and are members still. -/
  ids : ∀ id, id ∈ (board s').records.ids ↔ id ∈ w.asked.ids ∧ id ∈ s'.cluster.members.ids
  /-- Each of them is made from the node's own answer. -/
  records : ∀ id r, (board s').records.find? id = some r →
    ∃ res, results.find? id = some res ∧ r.Describes stamp res
  announced : Announced s s'

theorem landed_of_results {w : Sweep} (hasks : w.flight.legs.ids = w.asked.ids)
    {results : FanOut AuthStatus} (hresults : w.flight.results? = some results) (stamp : Timestamp)
    (s : Server) : Landed w results stamp s { s with toFleet := s.landSweep results stamp } := by
  have hasked : results.ids = w.asked.ids := (Flight.results?_eq_some hresults).1.trans hasks
  have hfind : ∀ id, (s.monitor.board.absorb results s.cluster.contains stamp).records.find? id =
      if s.cluster.contains id then (results.find? id).map (HealthRecord.ofResult stamp) else none :=
    fun id => s.monitor.board.find?_absorb results _ stamp id
  refine ⟨fun id => ?_, fun id r hr => ?_, rfl⟩
  · have hmember : s.cluster.contains id = true ↔ id ∈ s.cluster.members.ids :=
      s.cluster.members.contains_iff_mem_ids id
    have hrecord : (s.monitor.board.absorb results s.cluster.contains stamp).records.contains id =
        (s.cluster.contains id && results.contains id) := by
      rw [NodeMap.contains, hfind, NodeMap.contains]
      by_cases hin : s.cluster.contains id = true <;> simp [hin]
    rw [← NodeMap.contains_iff_mem_ids, ← hasked, ← NodeMap.contains_iff_mem_ids results]
    show (s.monitor.board.absorb results s.cluster.contains stamp).records.contains id = true ↔
      _ ∧ id ∈ s.cluster.members.ids
    rw [hrecord, ← hmember, Bool.and_eq_true, and_comm]
  · have hsome := (hfind id).symm.trans hr
    obtain ⟨-, hmade⟩ := Option.ite_none_right_eq_some.mp hsome
    obtain ⟨res, hres, rfl⟩ := Option.map_eq_some_iff.mp hmade
    exact ⟨res, hres, HealthRecord.describes_ofResult stamp res⟩

/-- **What a move does to the members and to the records.** -/
theorem step?_cases {r q : ServerRun} {m : Move} (h : r.step? m = some q) :
    (Quiet m r.server q.server ∧
      ∀ id ∈ r.server.cluster.members.ids, id ∈ q.server.cluster.members.ids) ∨
    (∃ id stamp, m = .remove id stamp ∧ Removed id stamp r.server q.server) ∨
    ∃ i stamp w results, m = .landed i stamp ∧ r.sweeps[i]? = some w ∧
      w.flight.results? = some results ∧
      q.server = { r.server with toFleet := r.server.landSweep results stamp } := by
  cases m with
  | add connect settings =>
    obtain rfl := Option.some.inj h
    refine .inl ?_
    rcases r.server.addNode_cases connect settings with ⟨e, h⟩ | ⟨-, -, member, -, -, h⟩ <;> rw [h]
    · exact ⟨⟨rfl, fun _ => rfl⟩, fun _ hid => hid⟩
    · exact ⟨⟨rfl, fun _ => rfl⟩, fun id hid => (NodeMap.mem_ids_insert _ _ _ _).mpr (.inr hid)⟩
  | update settings =>
    obtain rfl := Option.some.inj h
    refine .inl ?_
    rcases r.server.updateNode_cases settings with ⟨e, h⟩ | ⟨-, -, member, -, h⟩ <;> rw [h]
    · exact ⟨⟨rfl, fun _ => rfl⟩, fun _ hid => hid⟩
    · exact ⟨⟨rfl, fun _ => rfl⟩, fun id hid => (NodeMap.mem_ids_insert _ _ _ _).mpr (.inr hid)⟩
  | remove id stamp =>
    obtain rfl := Option.some.inj h
    rcases r.server.removeNode_cases id stamp with ⟨-, h⟩ | ⟨-, h⟩ <;> rw [h]
    · exact .inl ⟨⟨rfl, fun _ => rfl⟩, fun _ hid => hid⟩
    · exact .inr (.inl ⟨id, stamp, rfl, removed_parted r.server id stamp⟩)
  | landed i stamp =>
    obtain ⟨results, hresults, rfl⟩ := Option.map_eq_some_iff.mp h
    obtain ⟨w, hw, hresults⟩ := Option.bind_eq_some_iff.mp hresults
    exact .inr (.inr ⟨i, stamp, w, results, rfl, hw, hresults, rfl⟩)
  | called c =>
    obtain rfl := Option.some.inj h
    exact .inl ⟨⟨rfl, fun hnot => absurd rfl (hnot c)⟩, fun _ hid => hid⟩
  | woken loop now w =>
    obtain rfl := Option.some.inj h
    refine .inl ⟨⟨rfl, fun _ => ?_⟩, fun _ hid => hid⟩
    show (if w = .change then r.server.broker.acknowledge else r.server.broker).subscriptions = _
    split <;> rfl
  | started =>
    obtain rfl := Option.some.inj h
    have hfleet := r.server.toFleet_start
    refine .inl ⟨⟨?_, fun _ => ?_⟩, fun _ hid => ?_⟩
    · exact congrArg (fun f => f.monitor.board) hfleet
    · exact congrArg (fun f => f.broker.subscriptions) hfleet
    · exact hfleet ▸ hid
  | departed _ | ended _ _ _ | expired _ | abandoned _ | searched _ | rested _ _ _ | stopping
  | stopped | listened =>
    obtain rfl := Option.some.inj h
    exact .inl ⟨⟨rfl, fun _ => rfl⟩, fun _ hid => hid⟩

/-! ## Whole runs -/

/-- The records are those of members, and the summary counts them. -/
structure BoardExact (s : Server) : Prop where
  members : ∀ id ∈ (board s).records.ids, id ∈ s.cluster.members.ids
  total : (board s).summary.total = (board s).records.size
  online : (board s).summary.online =
    ((board s).records.values.filter fun r => r.status = .online).length

theorem BoardExact.of_counted {s : Server} (hcount : (board s).Counted)
    (hmembers : ∀ id ∈ (board s).records.ids, id ∈ s.cluster.members.ids) : BoardExact s :=
  ⟨hmembers, hcount.total, hcount.online⟩

theorem BoardExact.of_board_eq {s s' : Server} (h : BoardExact s) (hboard : board s' = board s)
    (hmembers : ∀ id ∈ (board s).records.ids, id ∈ s'.cluster.members.ids) : BoardExact s' := by
  refine ⟨?_, ?_, ?_⟩
  · rw [hboard]
    exact hmembers
  · rw [hboard]
    exact h.total
  · rw [hboard]
    exact h.online

/-- A server is built without records. -/
theorem board_of_build {config : FleetConfig} {connect : Connector} {s : Server}
    (h : Server.build config connect = .ok s) : board s = .empty := by
  refine Server.build_induction (P := fun s => s.monitor.board = .empty) rfl ?_ h
  intro s settings s' hs hadd
  obtain ⟨member, cluster, -, -, rfl⟩ := Server.addFirst_eq_ok hadd
  exact hs

theorem boardExact_of_build {config : FleetConfig} {connect : Connector} {s : Server}
    (h : Server.build config connect = .ok s) : BoardExact s := by
  have hboard : board s = .empty := board_of_build h
  refine .of_counted ?_ fun id hid => ?_
  · rw [hboard]
    exact HealthBoard.counted_empty
  · rw [hboard] at hid
    cases hid

theorem BoardExact.removed {s s' : Server} {id : NodeId} {stamp : Timestamp} (h : BoardExact s)
    (hremoved : Removed id stamp s s') : BoardExact s' := by
  -- a record that is left is one of another member
  have hkept : ∀ other, other ≠ id → other ∈ (board s).records.ids →
      other ∈ s'.cluster.members.ids := by
    intro other hne hother
    have hmember := h.members other hother
    rw [NodeMap.mem_ids_iff] at hmember
    rw [hremoved.members, NodeMap.mem_ids_iff, NodeMap.find?_erase, if_neg (Ne.symm hne)]
    exact hmember
  rcases hremoved.records with ⟨hnone, hboard, -⟩ | ⟨hboard, -⟩
  · refine h.of_board_eq hboard fun other hother => hkept other ?_ hother
    rintro rfl
    obtain ⟨r, hr⟩ := (NodeMap.mem_ids_iff _ _).mp hother
    simp [hnone] at hr
  · refine .of_counted ?_ fun other hother => ?_
    · rw [hboard]
      exact HealthBoard.counted_ofRecords _ _
    · have hleft : other ∈ ((board s).records.erase id).ids := by
        rw [hboard] at hother
        exact hother
      rw [NodeMap.mem_ids_iff, NodeMap.find?_erase] at hleft
      obtain ⟨r, hr⟩ := hleft
      obtain ⟨hne, hr⟩ := Option.ite_none_left_eq_some.mp hr
      exact hkept other (Ne.symm hne) ((NodeMap.mem_ids_iff _ _).mpr ⟨r, hr⟩)

/-- The records are exact, and sweeps ask whom they say. -/
structure Sound (r : ServerRun) : Prop where
  exact : BoardExact r.server
  asking : r.Asking

/-- A server at the beginning of a run is sound. -/
theorem sound_of_build {config : FleetConfig} {connect : Connector} {s : Server}
    (h : Server.build config connect = .ok s) : Sound ⟨s, []⟩ :=
  ⟨boardExact_of_build h, fun w hw => by cases hw⟩

/-- What one move preserves. -/
theorem Sound.step {r q : ServerRun} {m : Move} (h : r.Sound) (hstep : r.step? m = some q) :
    q.Sound := by
  refine ⟨?_, h.asking.step hstep⟩
  rcases step?_cases hstep with ⟨hquiet, hmembers⟩ | ⟨id, stamp, -, hremoved⟩ |
    ⟨i, stamp, w, results, -, hw, hresults, hq⟩
  · exact h.exact.of_board_eq hquiet.board fun id hid => hmembers id (h.exact.members id hid)
  · exact h.exact.removed hremoved
  · have hlanded := landed_of_results (h.asking w (List.mem_of_getElem? hw)) hresults stamp r.server
    rw [hq]
    exact .of_counted (HealthBoard.counted_ofRecords _ _) fun id hid => ((hlanded.ids id).mp hid).2

/-- What a whole run preserves. -/
theorem Sound.run {r q : ServerRun} {moves : List Move} (h : r.Sound)
    (hrun : r.run? moves = some q) : q.Sound :=
  runMoves?_induction (fun _ _ _ hr hstep => hr.step hstep) h hrun

end ServerRun

end FilterFleet
