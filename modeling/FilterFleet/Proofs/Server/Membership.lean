import FilterFleet.Proofs.Config.Nodes
import FilterFleet.Proofs.Results
import FilterFleet.Proofs.Server.Run

/-!
# Members and their stored settings

A server keeps the settings of its members beside the members themselves, and the nodes behind the
members hold settings of their own. The two tables of the server change together: in every run the
stored settings are those of the members and are accepted as a list (`InStep`), so that no call
about the membership can fail once it has passed its checks. Which calls are accepted is said by what
is stored alone (`CallsExact`), and a call that is refused leaves the server and the nodes as they
were (`membership_exact`).
-/

namespace FilterFleet

/-- A connector builds, if anything, the node of the settings that it is given. -/
def Connector.Lawful (connect : Connector) : Prop :=
  ∀ settings member, connect settings = .ok member → member.identity.id = settings.id

theorem FleetConfig.validateNodes_of_validate {config : FleetConfig}
    (h : config.validate = .ok ()) : validateNodes config.nodes = .ok () := by
  simp only [validate, bind_eq_ok_iff] at h
  exact h.2.2.2.2.2

namespace Server

/-! ## Stored settings that go with the members -/

/-- The stored settings are those of the members, each under its id, and with those of the nodes to
come they are accepted as a list. -/
structure InStep (coming : List NodeSettings) (s : Server) : Prop where
  ids : ∀ id, id ∈ s.settings.ids ↔ id ∈ s.cluster.members.ids
  keyed : ∀ id n, s.settings.find? id = some n → n.id = id
  accepted : validateNodes (s.settings.values ++ coming) = .ok ()

variable {s s' : Server} {coming : List NodeSettings}

theorem InStep.of_eq (h : s.InStep coming) (hsettings : s'.settings = s.settings)
    (hmembers : s'.cluster.members = s.cluster.members) : s'.InStep coming :=
  ⟨by rw [hsettings, hmembers]; exact h.ids, hsettings ▸ h.keyed, hsettings ▸ h.accepted⟩

/-- Settings are stored beside a member, new or old, under the id of both. -/
theorem InStep.joined (hs : s.InStep coming) {settings : NodeSettings} {member : Member}
    (hmember : member.identity.id = settings.id) {rest : List NodeSettings}
    (haccepted : validateNodes ((s.settings.insert settings.id settings).values ++ rest) = .ok ()) :
    InStep rest (s.joined member settings) := by
  refine ⟨fun id => ?_, fun id n hn => ?_, haccepted⟩
  · show id ∈ (s.settings.insert settings.id settings).ids ↔
      id ∈ (s.cluster.members.insert member.identity.id member).ids
    rw [NodeMap.mem_ids_insert, NodeMap.mem_ids_insert, hs.ids, hmember]
  · have hfind : (s.settings.insert settings.id settings).find? id = some n := hn
    rw [NodeMap.find?_insert] at hfind
    split at hfind
    · next hid =>
      obtain rfl := Option.some.inj hfind
      exact hid
    · exact hs.keyed id n hfind

/-- The next node to come is added. -/
theorem InStep.added {settings : NodeSettings} (hs : s.InStep (settings :: coming))
    {member : Member} (hmember : member.identity.id = settings.id)
    (hnew : member.identity.id ∉ s.cluster.members.ids) :
    InStep coming (s.joined member settings) := by
  have hfresh : settings.id ∉ s.settings.ids := by
    rw [hs.ids, ← hmember]
    exact hnew
  have hperm := NodeMap.perm_values_insert hfresh settings
  refine hs.joined hmember ((validateNodes_iff_of_perm ?_).mp hs.accepted)
  exact List.perm_middle.trans (hperm.symm.append_right coming)

/-- A server that is built is in step, since all along it is so with the nodes that are left. -/
theorem inStep_of_build {config : FleetConfig} {connect : Connector} (hconnect : connect.Lawful)
    (h : build config connect = .ok s) : s.InStep [] := by
  refine build_induction_rest (P := InStep) ⟨fun _ => Iff.rfl, fun id n hn => ?_, ?_⟩ ?_ h
  · cases hn
  · exact FleetConfig.validateNodes_of_validate (build_eq_ok h).1
  · intro s settings rest s' hs hadd
    obtain ⟨member, hmember, hnew, rfl⟩ := addFirst_eq_ok hadd
    exact hs.added (hconnect settings member hmember) hnew

/-! ## Every call keeps the two in step -/

theorem InStep.validateNodes_values (hs : s.InStep []) :
    validateNodes s.settings.values = .ok () := by
  simpa using hs.accepted

theorem InStep.addNode (hs : s.InStep []) {connect : Connector} (hconnect : connect.Lawful)
    (settings : NodeSettings) : (s.addNode connect settings).2.InStep [] := by
  rcases s.addNode_cases connect settings with ⟨e, h⟩ | ⟨-, hvalid, member, hmember, hnew, h⟩ <;>
    rw [h]
  · exact hs
  · have hcoming : s.InStep [settings] := ⟨hs.ids, hs.keyed, hvalid⟩
    exact hcoming.added (hconnect settings member hmember) hnew

/-- Settings that take the place of others of their id are stored where these were. -/
theorem InStep.values_insert (hs : s.InStep coming) {settings : NodeSettings}
    (hknown : settings.id ∈ s.settings.ids) :
    (s.settings.insert settings.id settings).values =
      s.settings.values.map fun n => if n.id = settings.id then settings else n := by
  rw [NodeMap.values, NodeMap.entries_insert_of_mem hknown, NodeMap.values, List.map_map,
    List.map_map]
  refine List.map_congr_left fun e he => ?_
  have hid : e.2.id = e.1 := hs.keyed e.1 e.2 ((NodeMap.mem_entries_iff _ _ _).mp he)
  simp only [Function.comp_apply, hid]
  split <;> rfl

theorem InStep.updateNode (hs : s.InStep []) (settings : NodeSettings) :
    (s.updateNode settings).2.InStep [] := by
  rcases s.updateNode_cases settings with ⟨e, h⟩ | ⟨hknown, hvalid, member, -, h⟩ <;> rw [h]
  · exact hs
  · refine hs.joined rfl ?_
    rw [List.append_nil, hs.values_insert hknown]
    exact hvalid

/-- Without a node the two are in step. -/
theorem InStep.parted (hs : s.InStep []) (id : NodeId) (stamp : Timestamp) :
    (s.parted id stamp).InStep [] := by
  refine ⟨fun other => ?_, fun other n hn => ?_, ?_⟩
  · show other ∈ (s.settings.erase id).ids ↔ other ∈ (s.cluster.members.erase id).ids
    rw [NodeMap.mem_ids_erase, NodeMap.mem_ids_erase, hs.ids]
  · have hfind : (s.settings.erase id).find? other = some n := hn
    rw [NodeMap.find?_erase] at hfind
    split at hfind
    · cases hfind
    · exact hs.keyed other n hfind
  · have hsub := (s.settings.sublist_values_erase id).append_right []
    exact validateNodes_of_sublist hsub hs.accepted

theorem InStep.removeNode (hs : s.InStep []) (id : NodeId) (stamp : Timestamp) :
    (s.removeNode id stamp).2.InStep [] := by
  rcases s.removeNode_cases id stamp with ⟨-, h⟩ | ⟨-, h⟩ <;> rw [h]
  · exact hs
  · exact hs.parted id stamp

/-! ## Which calls are accepted -/

theorem fst_addNode_iff (hs : s.InStep []) {connect : Connector} (hconnect : connect.Lawful)
    (settings : NodeSettings) :
    (s.addNode connect settings).1 = .ok () ↔
      settings.id ∉ s.settings.ids ∧ validateNodes (s.settings.values ++ [settings]) = .ok () ∧
        ∃ member, connect settings = .ok member := by
  constructor
  · intro hok
    rcases s.addNode_cases connect settings with ⟨e, h⟩ | ⟨hnew, hvalid, member, hmember, -, -⟩
    · rw [h] at hok
      cases hok
    · exact ⟨hnew, hvalid, member, hmember⟩
  · rintro ⟨hnew, hvalid, member, hmember⟩
    -- no member has the id either, so that the cluster takes the node
    have hfree : member.identity.id ∉ s.cluster.members.ids := by
      rw [hconnect settings member hmember, ← hs.ids]
      exact hnew
    rw [addNode_eq_ok hnew hvalid hmember hfree]

theorem exists_fst_updateNode_iff (hs : s.InStep []) (settings : NodeSettings) :
    (∃ handle, (s.updateNode settings).1 = .ok handle) ↔
      settings.id ∈ s.settings.ids ∧
        validateNodes (s.settings.values.map fun n => if n.id = settings.id then settings else n) =
          .ok () := by
  constructor
  · rintro ⟨handle, hok⟩
    rcases s.updateNode_cases settings with ⟨e, h⟩ | ⟨hknown, hvalid, -⟩
    · rw [h] at hok
      cases hok
    · exact ⟨hknown, hvalid⟩
  · rintro ⟨hknown, hvalid⟩
    -- the new settings stand in the list, so that they are acceptable by themselves
    have hstands : settings ∈
        s.settings.values.map fun n => if n.id = settings.id then settings else n := by
      rw [← hs.values_insert hknown]
      have hfind : (s.settings.insert settings.id settings).find? settings.id = some settings := by
        rw [NodeMap.find?_insert, if_pos rfl]
      exact List.mem_map.mpr ⟨_, (NodeMap.mem_entries_iff _ _ _).mpr hfind, rfl⟩
    have hsettings := ((validateNodes_eq_ok_iff _).mp hvalid).1 settings hstands
    obtain ⟨member, hmember⟩ := (NodeMap.mem_ids_iff _ _).mp ((hs.ids settings.id).mp hknown)
    exact ⟨member.handle, by rw [updateNode_eq_ok hknown hvalid hsettings hmember]⟩

theorem exists_fst_removeNode_iff (id : NodeId) (stamp : Timestamp) :
    (∃ member, (s.removeNode id stamp).1 = .ok member) ↔ id ∈ s.settings.ids := by
  rcases s.removeNode_cases id stamp with ⟨hnot, h⟩ | ⟨hknown, h⟩ <;> rw [h]
  · simp [hnot]
  · simp [hknown]

/-! ## What holds of the two tables -/

/-- Members and stored settings have the same ids, all that is stored is acceptable by itself, and
no two nodes have host and port in common. -/
structure MembersExact (s : Server) : Prop where
  ids : s.settings.ids = s.cluster.members.ids
  valid : ∀ id n, s.settings.find? id = some n → n.id = id ∧ n.validate = .ok ()
  apart : ∀ id n other m, s.settings.find? id = some n → s.settings.find? other = some m →
    id ≠ other → ¬ (n.host = m.host ∧ n.port = m.port)

theorem InStep.membersExact (hs : s.InStep []) : s.MembersExact := by
  obtain ⟨hall, -, haddresses⟩ := (validateNodes_eq_ok_iff _).mp hs.validateNodes_values
  have hmem : ∀ id n, s.settings.find? id = some n → (id, n) ∈ s.settings.entries :=
    fun id n hn => (NodeMap.mem_entries_iff _ _ _).mpr hn
  refine ⟨NodeMap.ids_eq_of_mem_iff hs.ids, fun id n hn => ⟨hs.keyed id n hn, ?_⟩, ?_⟩
  · exact hall n (List.mem_map.mpr ⟨_, hmem id n hn, rfl⟩)
  · intro id n other m hn hm hne hsame
    rw [NodeMap.values, List.map_map] at haddresses
    have hentry : (id, n) = (other, m) :=
      List.inj_on_of_nodup_map haddresses (hmem id n hn) (hmem other m hm)
        ((NodeSettings.address_eq_iff n m).mpr hsame)
    exact hne (congrArg Prod.fst hentry)

end Server

/-! ## Runs -/

namespace ServerRun

/-- The connectors that nodes are added with are lawful. -/
def Move.Lawful : Move → Prop
  | .add connect _ => connect.Lawful
  | _ => True

/-- What is answered to a call about the membership. -/
def answer? (s : Server) : Move → Option (Except FleetError Unit)
  | .add connect settings => some (s.addNode connect settings).1
  | .update settings => some ((s.updateNode settings).1.map fun _ => ())
  | .remove id stamp => some ((s.removeNode id stamp).1.map fun _ => ())
  | _ => none

/-- A call about the membership is accepted. -/
def Accepts (s : Server) (m : Move) : Prop := answer? s m = some (.ok ())

/-- A call about the membership is refused. -/
def Refuses (s : Server) (m : Move) : Prop := ∃ e, answer? s m = some (.error e)

/-- The stored settings after an accepted call. -/
def storedAfter (stored : NodeMap NodeSettings) : Move → NodeMap NodeSettings
  | .add _ settings => stored.insert settings.id settings
  | .update settings => stored.insert settings.id settings
  | .remove id _ => stored.erase id
  | _ => stored

/-! ## What a move does to the two tables -/

theorem accepts_add_iff {s : Server} {connect : Connector} {settings : NodeSettings} :
    Accepts s (.add connect settings) ↔ (s.addNode connect settings).1 = .ok () := by
  simp [Accepts, answer?]

theorem accepts_update_iff {s : Server} {settings : NodeSettings} :
    Accepts s (.update settings) ↔ ∃ handle, (s.updateNode settings).1 = .ok handle := by
  simp [Accepts, answer?, map_eq_ok_iff]

theorem accepts_remove_iff {s : Server} {id : NodeId} {stamp : Timestamp} :
    Accepts s (.remove id stamp) ↔ ∃ member, (s.removeNode id stamp).1 = .ok member := by
  simp [Accepts, answer?, map_eq_ok_iff]

/-- A move that is no call about the membership leaves both tables. -/
theorem tables_eq_of_step? {r q : ServerRun} {m : Move} (hm : answer? r.server m = none)
    (h : r.step? m = some q) :
    q.server.settings = r.server.settings ∧
      q.server.cluster.members = r.server.cluster.members := by
  cases m with
  | add _ _ | update _ | remove _ _ => cases hm
  | landed i stamp =>
    obtain ⟨results, -, rfl⟩ := Option.map_eq_some_iff.mp h
    exact ⟨rfl, rfl⟩
  | started =>
    obtain rfl := Option.some.inj h
    exact ⟨r.server.settings_start, congrArg (·.cluster.members) r.server.toFleet_start⟩
  | departed _ | ended _ _ _ | expired _ | abandoned _ | called _ | searched _ | woken _ _ _
  | rested _ _ _ | stopping | stopped | listened =>
    obtain rfl := Option.some.inj h
    exact ⟨rfl, rfl⟩

/-- An accepted call stores what it says. -/
theorem settings_of_accepts {r q : ServerRun} {m : Move} (hm : Accepts r.server m)
    (h : r.step? m = some q) : q.server.settings = storedAfter r.server.settings m := by
  cases m with
  | add connect settings =>
    obtain rfl := Option.some.inj h
    have hok := accepts_add_iff.mp hm
    rcases r.server.addNode_cases connect settings with ⟨e, h⟩ | ⟨-, -, member, -, -, h⟩ <;>
      rw [h] at hok ⊢
    · cases hok
    · rfl
  | update settings =>
    obtain rfl := Option.some.inj h
    obtain ⟨handle, hok⟩ := accepts_update_iff.mp hm
    rcases r.server.updateNode_cases settings with ⟨e, h⟩ | ⟨-, -, member, -, h⟩ <;> rw [h] at hok ⊢
    · cases hok
    · rfl
  | remove id stamp =>
    obtain rfl := Option.some.inj h
    obtain ⟨member, hok⟩ := accepts_remove_iff.mp hm
    rcases r.server.removeNode_cases id stamp with ⟨-, h⟩ | ⟨-, h⟩ <;> rw [h] at hok ⊢
    · cases hok
    · rfl
  | _ => cases hm

/-- What one move preserves. -/
theorem inStep_step {r q : ServerRun} {m : Move} (hr : r.server.InStep []) (hm : m.Lawful)
    (h : r.step? m = some q) : q.server.InStep [] := by
  cases m with
  | add connect settings =>
    obtain rfl := Option.some.inj h
    exact hr.addNode hm settings
  | update settings =>
    obtain rfl := Option.some.inj h
    exact hr.updateNode settings
  | remove id stamp =>
    obtain rfl := Option.some.inj h
    exact hr.removeNode id stamp
  | departed _ | ended _ _ _ | expired _ | landed _ _ | abandoned _ | called _ | searched _
  | woken _ _ _ | rested _ _ _ | started | stopping | stopped | listened =>
    obtain ⟨hsettings, hmembers⟩ := tables_eq_of_step? rfl h
    exact hr.of_eq hsettings hmembers

/-- What a whole run preserves. -/
theorem inStep_run {r q : ServerRun} {moves : List Move} (hr : r.server.InStep [])
    (hmoves : ∀ m ∈ moves, m.Lawful) (h : r.run? moves = some q) : q.server.InStep [] :=
  runMoves?_induction_of_kind (P := fun r : ServerRun => r.server.InStep [])
    (fun _ _ _ hr hm hstep => inStep_step hr hm hstep) hr hmoves h

/-- A call that is refused leaves everything as it was. -/
theorem step?_of_refuses {r : ServerRun} {m : Move} (hm : Refuses r.server m) :
    r.step? m = some r := by
  obtain ⟨e, he⟩ := hm
  cases m with
  | add connect settings =>
    rcases r.server.addNode_cases connect settings with ⟨e, h⟩ | ⟨-, -, member, -, -, h⟩
    · rw [step?, h]
    · simp [answer?, h] at he
  | update settings =>
    rcases r.server.updateNode_cases settings with ⟨e, h⟩ | ⟨-, -, member, -, h⟩
    · rw [step?, h]
    · simp [answer?, h, Except.map] at he
  | remove id stamp =>
    rcases r.server.removeNode_cases id stamp with ⟨-, h⟩ | ⟨-, h⟩
    · rw [step?, h]
    · simp [answer?, h, Except.map] at he
  | _ => cases he

/-! ## Calls about the membership -/

/-- Nothing but a node that leaves stands in the way of settings: they are acceptable, and the id and
the address are each that of the leaving node or of no node. -/
structure FreedBy (stored : NodeMap NodeSettings) (leaving n : NodeSettings) : Prop where
  valid : n.validate = .ok ()
  id : n.id = leaving.id ∨ n.id ∉ stored.ids
  address : n.host = leaving.host ∧ n.port = leaving.port ∨
    ∀ id m, stored.find? id = some m → ¬ (m.host = n.host ∧ m.port = n.port)

/-- What the calls about the membership do. -/
structure CallsExact (r : ServerRun) : Prop where
  /-- A node is added iff its id is new, the list with its settings is accepted, and it is built. -/
  add_iff : ∀ connect settings, connect.Lawful →
    (Accepts r.server (.add connect settings) ↔
      settings.id ∉ r.server.settings.ids ∧
        validateNodes (r.server.settings.values ++ [settings]) = .ok () ∧
          ∃ member, connect settings = .ok member)
  /-- Settings are replaced iff their id is known and the list with them in place is accepted. -/
  update_iff : ∀ settings, Accepts r.server (.update settings) ↔
    settings.id ∈ r.server.settings.ids ∧
      validateNodes (r.server.settings.values.map fun n =>
        if n.id = settings.id then settings else n) = .ok ()
  /-- A node is removed iff its id is known. -/
  remove_iff : ∀ id stamp, Accepts r.server (.remove id stamp) ↔ id ∈ r.server.settings.ids
  /-- An accepted call stores what it says. -/
  stored : ∀ m q, Accepts r.server m → r.step? m = some q →
    q.server.settings = storedAfter r.server.settings m
  /-- The member of the id takes the new settings, and is the same node. -/
  told : ∀ settings q, Accepts r.server (.update settings) →
    r.step? (.update settings) = some q →
      ∃ member, r.server.cluster.members.find? settings.id = some member ∧
        q.server.cluster.members.find? settings.id =
          some ⟨member.handle, settings.identity, some settings⟩
  /-- The id and the address of a removed node can be used again at once. -/
  freed : ∀ id stamp old q, r.server.settings.find? id = some old →
    r.step? (.remove id stamp) = some q → ∀ connect n member, connect.Lawful →
      FreedBy r.server.settings old n → connect n = .ok member →
        Accepts q.server (.add connect n)
  /-- A refused call leaves the server, its members and all else as they were. -/
  refused : ∀ m, Refuses r.server m → r.step? m = some r

theorem told_of_accepts {r q : ServerRun} {settings : NodeSettings}
    (hm : Accepts r.server (.update settings)) (h : r.step? (.update settings) = some q) :
    ∃ member, r.server.cluster.members.find? settings.id = some member ∧
      q.server.cluster.members.find? settings.id =
        some ⟨member.handle, settings.identity, some settings⟩ := by
  obtain rfl := Option.some.inj h
  obtain ⟨handle, hok⟩ := accepts_update_iff.mp hm
  rcases r.server.updateNode_cases settings with ⟨e, h⟩ | ⟨-, -, member, hmember, h⟩
  · rw [h] at hok
    cases hok
  · refine ⟨member, hmember, ?_⟩
    rw [h]
    exact (NodeMap.find?_insert ..).trans (if_pos rfl)

/-- What a removed node has left can be used again. -/
theorem accepts_add_of_freedBy {r q : ServerRun} (hr : r.server.InStep []) {id : NodeId}
    {stamp : Timestamp} {old n : NodeSettings} (hold : r.server.settings.find? id = some old)
    (h : r.step? (.remove id stamp) = some q) {connect : Connector} {member : Member}
    (hconnect : connect.Lawful) (hn : FreedBy r.server.settings old n)
    (hmember : connect n = .ok member) : Accepts q.server (.add connect n) := by
  have hremove : Accepts r.server (.remove id stamp) :=
    accepts_remove_iff.mpr ((Server.exists_fst_removeNode_iff id stamp).mpr
      ((NodeMap.mem_ids_iff _ _).mpr ⟨old, hold⟩))
  have hq : q.server.InStep [] := inStep_step (m := .remove id stamp) hr trivial h
  have hstored : q.server.settings = r.server.settings.erase id :=
    settings_of_accepts hremove h
  -- what is left in the table stands under another id than the removed one
  have hleft : ∀ m ∈ q.server.settings.values,
      m.id ≠ id ∧ r.server.settings.find? m.id = some m := by
    intro m hm
    obtain ⟨⟨i, m'⟩, hentry, rfl⟩ := List.mem_map.mp hm
    have hfind := (NodeMap.mem_entries_iff _ _ _).mp hentry
    have hid : m'.id = i := hq.keyed i m' hfind
    rw [hstored, NodeMap.find?_erase] at hfind
    obtain ⟨hne, hfind⟩ := Option.ite_none_left_eq_some.mp hfind
    exact ⟨fun h => hne (h.symm.trans hid), by rw [hid]; exact hfind⟩
  have hid : old.id = id := hr.keyed id old hold
  have hother : ∀ m ∈ q.server.settings.values, m.id ≠ n.id ∧ m.address ≠ n.address := by
    intro m hm
    obtain ⟨hne, hfind⟩ := hleft m hm
    refine ⟨fun heq => ?_, fun heq => ?_⟩
    · rcases hn.id with hsame | hnew
      · exact hne (heq.trans (hsame.trans hid))
      · exact hnew (heq ▸ (NodeMap.mem_ids_iff _ _).mpr ⟨m, hfind⟩)
    · obtain ⟨hhost, hport⟩ := (NodeSettings.address_eq_iff m n).mp heq
      rcases hn.address with ⟨hhost', hport'⟩ | hnew
      · exact hr.membersExact.apart m.id m id old hfind hold hne
          ⟨hhost.trans hhost', hport.trans hport'⟩
      · exact hnew m.id m hfind ⟨hhost, hport⟩
  refine accepts_add_iff.mpr ((Server.fst_addNode_iff hq hconnect n).mpr
    ⟨fun hmem => ?_, ?_, member, hmember⟩)
  · obtain ⟨m, hm⟩ := (NodeMap.mem_ids_iff _ _).mp hmem
    have hvalue : m ∈ q.server.settings.values :=
      List.mem_map.mpr ⟨_, (NodeMap.mem_entries_iff _ _ _).mpr hm, rfl⟩
    exact (hother m hvalue).1 (hq.keyed n.id m hm)
  · exact (validateNodes_concat_iff _ n).mpr ⟨hq.validateNodes_values, hn.valid, hother⟩

theorem callsExact_of_inStep {r : ServerRun} (hr : r.server.InStep []) : r.CallsExact where
  add_iff _ settings hconnect :=
    accepts_add_iff.trans (Server.fst_addNode_iff hr hconnect settings)
  update_iff settings := accepts_update_iff.trans (Server.exists_fst_updateNode_iff hr settings)
  remove_iff id stamp := accepts_remove_iff.trans (Server.exists_fst_removeNode_iff id stamp)
  stored _ _ hm h := settings_of_accepts hm h
  told _ _ hm h := told_of_accepts hm h
  freed _ _ _ _ hold h _ _ _ hconnect hn hmember :=
    accepts_add_of_freedBy hr hold h hconnect hn hmember
  refused _ hm := step?_of_refuses hm

/-- **Members and stored settings are valid, in step, and left alone by what is refused.** In every
run of a server that was built from an accepted configuration, with connectors that build the node
they are asked for or fail, at any time: the members are the nodes whose settings are stored, all
stored settings are acceptable and no two have host and port in common; a call about the membership
is accepted exactly when what is stored allows it and the node can be built, and stores what it says;
what a removed node has left is free at once; and a refused call changes nothing. -/
theorem membership_exact {config : FleetConfig} {connect : Connector} {s : Server}
    (hconnect : connect.Lawful) (hbuild : Server.build config connect = .ok s)
    {moves : List Move} (hmoves : ∀ m ∈ moves, m.Lawful) {r : ServerRun}
    (hrun : run? ⟨s, []⟩ moves = some r) : r.server.MembersExact ∧ r.CallsExact := by
  have hstart : s.InStep [] := Server.inStep_of_build hconnect hbuild
  have hr : r.server.InStep [] := inStep_run (r := ⟨s, []⟩) hstart hmoves hrun
  exact ⟨hr.membersExact, callsExact_of_inStep hr⟩

/-- Two nodes are added while a sweep is under way, and the first moves to another host. -/
def movingNode : List Move :=
  [.add connectAny (.basic ⟨1⟩ "a" "a.lan" ""), .departed 0,
    .add connectAny (.basic ⟨2⟩ "b" "b.lan" ""), .update (.basic ⟨1⟩ "a" "c.lan" "")]

/-- The address that the first node has left is free, and the new one is not. -/
theorem membership_exact_of_movingNode :
    connectAny.Lawful ∧
      Server.build .standard connectAny = .ok (.bare .standard) ∧
      (∀ m ∈ movingNode, m.Lawful) ∧
      ∃ r, run? ⟨.bare .standard, []⟩ movingNode = some r ∧
        r.server.cluster.members.ids = [⟨1⟩, ⟨2⟩] ∧
        Accepts r.server (.add connectAny (.basic ⟨3⟩ "d" "a.lan" "")) ∧
        Refuses r.server (.add connectAny (.basic ⟨3⟩ "d" "c.lan" "")) ∧
        r.server.MembersExact ∧ r.CallsExact := by
  have hconnect : connectAny.Lawful := by
    intro settings member h
    obtain rfl := Except.ok.inj h
    rfl
  have hbuild := Server.build_standard connectAny
  have hmoves : ∀ m ∈ movingNode, m.Lawful := by
    simp only [movingNode, List.forall_mem_cons]
    exact ⟨hconnect, trivial, hconnect, trivial, by simp⟩
  obtain ⟨r, hr⟩ : ∃ r, run? ⟨.bare .standard, []⟩ movingNode = some r := ⟨_, rfl⟩
  have hseen : (run? ⟨.bare .standard, []⟩ movingNode).map (fun r =>
      (r.server.cluster.members.ids,
        answer? r.server (.add connectAny (.basic ⟨3⟩ "d" "a.lan" "")),
        answer? r.server (.add connectAny (.basic ⟨3⟩ "d" "c.lan" "")))) =
      some ([⟨1⟩, ⟨2⟩], some (.ok ()),
        some (.error (.configInvalid "nodes[2].host" "duplicate host:port c.lan:80"))) := rfl
  rw [hr] at hseen
  obtain ⟨hids, hrest⟩ := Prod.mk.inj (Option.some.inj hseen)
  obtain ⟨haccepted, hrefused⟩ := Prod.mk.inj hrest
  have hall := membership_exact hconnect hbuild hmoves hr
  exact ⟨hconnect, hbuild, hmoves, r, hr, hids, haccepted, ⟨_, hrefused⟩, hall⟩

end ServerRun

end FilterFleet
