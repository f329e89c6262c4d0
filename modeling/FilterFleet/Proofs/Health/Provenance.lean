import FilterFleet.Proofs.Health.Board
import FilterFleet.Proofs.Server.Tenants

/-!
# Whom a health record is about

A sweep asks the nodes that are members when it starts, and when it lands it leaves a record under
every id that it asked and that is the id of a member then. An `Observed` run of a server keeps the
rolls of its sweeps beside them, so that each record can be traced to the node that was asked
(`Observed.records_traced`): the node is a member still, or its id has come to another node while
the sweep was in flight. In the second case the record is one of a node that was removed
(`Observed.sweep_revives_removed`).
-/

namespace FilterFleet

open ServerRun (Move board connectAs)

/-- A sweep when it started: the members, and the roll of the server. -/
structure Departure where
  members : NodeMap Member
  roll : Roll

/-- A sweep that landed. -/
structure Landing where
  departure : Departure
  /-- The number of moves that were made before. -/
  moves : Nat

/-- A run of a server that is looked at after every move. -/
structure Observed where
  run : ServerRun
  roll : Roll
  /-- The departures of the sweeps under way. -/
  departures : List Departure
  /-- The sweep that landed last. -/
  landing : Option Landing

namespace Observed

/-- A server at the beginning of a run. -/
def start (s : Server) : Observed := ⟨⟨s, []⟩, .first s, [], none⟩

/-- The sweep that landed last after a move. -/
def landingAfter (o : Observed) : Move → Option Landing
  | .landed i _ => o.departures[i]?.map fun d => ⟨d, o.roll.moves⟩
  | _ => o.landing

/-- What a move does, if it can be made. -/
def step? (o : Observed) (m : Move) : Option Observed :=
  (o.run.step? m).map fun run =>
    { run
      roll := o.roll.next run.server
      departures := m.track ⟨o.run.server.cluster.members, o.roll⟩ o.departures
      landing := o.landingAfter m }

/-- Make moves one after another. -/
def run? (o : Observed) (moves : List Move) : Option Observed := runMoves? step? o moves

end Observed

/-! ## Whom a sweep asks -/

/-- The members that a sweep asks, and the identities under which it asks them. -/
def Sweep.whom (w : Sweep) : NodeMap Member × (NodeId → Option NodeIdentity) :=
  (w.asked, fun id => (w.flight.legs.find? id).map (·.identity))

/-- The same, of a sweep that starts. -/
def Departure.whom (d : Departure) : NodeMap Member × (NodeId → Option NodeIdentity) :=
  (d.members, fun id => (d.members.find? id).map (·.identity))

theorem Sweep.whom_depart (c : Cluster) (now : Instant) (roll : Roll) :
    (Sweep.depart c now).whom = Departure.whom ⟨c.members, roll⟩ := by
  refine congrArg (c.members, ·) (funext fun id => ?_)
  rw [Sweep.depart, Flight.find?_depart, Option.map_map]
  rfl

theorem Sweep.whom_report (w : Sweep) (id : NodeId) (callEnd : CallEnd AuthStatus) :
    Sweep.whom { w with flight := w.flight.report id callEnd } = w.whom := by
  refine congrArg (w.asked, ·) (funext fun other => ?_)
  rw [Flight.find?_report, Option.map_map]
  refine congrArg (Option.map · _) (funext fun l => ?_)
  by_cases hid : other = id <;> simp [hid]

theorem Sweep.whom_expire (w : Sweep) :
    Sweep.whom { w with flight := w.flight.expire } = w.whom := by
  refine congrArg (w.asked, ·) (funext fun other => ?_)
  rw [Flight.find?_expire, Option.map_map]
  exact congrArg (Option.map · _) (funext fun l => Flight.identity_settle _ l)

/-- A result comes under the identity of the member that was asked. -/
theorem Departure.node_of_results {d : Departure} {w : Sweep} (hwhom : d.whom = w.whom)
    {results : FanOut AuthStatus} (hresults : w.flight.results? = some results) {id : NodeId}
    {res : NodeResult AuthStatus} (hres : results.find? id = some res) :
    ∃ m, d.members.find? id = some m ∧ res.node = m.identity := by
  rw [(Flight.results?_eq_some hresults).2] at hres
  obtain ⟨leg, hleg, hres⟩ := Option.bind_eq_some_iff.mp hres
  obtain ⟨outcome, -, rfl⟩ := Option.map_eq_some_iff.mp hres
  have hsame := congrFun (congrArg Prod.snd hwhom) id
  simp only [Departure.whom, Sweep.whom, hleg, Option.map_some] at hsame
  obtain ⟨m, hm, hidentity⟩ := Option.map_eq_some_iff.mp hsame
  exact ⟨m, hm, hidentity.symm⟩

/-! ## Records through moves -/

/-- Only a sweep that lands makes records. -/
theorem ServerRun.find?_records_step {r q : ServerRun} {m : Move} {id : NodeId} {x : HealthRecord}
    (h : r.step? m = some q) (hm : ∀ i stamp, m ≠ .landed i stamp)
    (hx : (board q.server).records.find? id = some x) :
    (board r.server).records.find? id = some x := by
  rcases step?_cases h with ⟨hquiet, -⟩ | ⟨removed, stamp, -, hremoved⟩ | ⟨i, stamp, -, -, rfl, -⟩
  · rwa [hquiet.board] at hx
  · rcases hremoved.records with ⟨-, hboard, -⟩ | ⟨hboard, -⟩
    · rwa [hboard] at hx
    · have hleft : ((board r.server).records.erase removed).find? id = some x := by
        rw [hboard] at hx
        exact hx
      rw [NodeMap.find?_erase] at hleft
      exact (Option.ite_none_left_eq_some.mp hleft).2
  · exact absurd rfl (hm i stamp)

namespace Observed

/-! ## Tracing records -/

/-- The record `x` under an id is about the node `m` that the last sweep `l` asked under it, which was
the tenant `t`. This is the tenant `t'` that has the id now, or the id has come to another node while
the sweep was in flight. -/
structure Traced (o : Observed) (id : NodeId) (x : HealthRecord) (l : Landing) (m : Member)
    (t t' : Tenant) : Prop where
  landing : o.landing = some l
  member : l.departure.members.find? id = some m
  node : x.node = m.identity
  asked : l.departure.roll.tenants.find? id = some t
  present : o.roll.tenants.find? id = some t'
  same : t'.added = t.added ∨ l.departure.roll.moves ≤ t'.added ∧ t'.added < l.moves

/-- What goes with an observed run. -/
structure Kept (o : Observed) : Prop where
  sound : o.run.Sound
  describes : o.roll.Describes o.run.server
  /-- The departures are those of the sweeps under way. -/
  whom : o.run.sweeps.map Sweep.whom = o.departures.map Departure.whom
  departed : ∀ d ∈ o.departures, d.roll.tenants.ids = d.members.ids ∧ d.roll.Later o.roll
  traced : ∀ id x, (board o.run.server).records.find? id = some x →
    ∃ l m t t', o.Traced id x l m t t'

variable {o o' : Observed} {m : Move}

/-- A record that was there before a move is traced as before. -/
theorem Traced.step {id : NodeId} {x : HealthRecord} {l : Landing} {y : Member} {t t' : Tenant}
    (h : o.Traced id x l y t t') (hstep : o.step? m = some o')
    (hm : ∀ i stamp, m ≠ .landed i stamp) (hid : id ∈ o'.run.server.cluster.members.ids) :
    ∃ t'', o'.Traced id x l y t t'' := by
  obtain ⟨run, -, rfl⟩ := Option.map_eq_some_iff.mp hstep
  obtain ⟨t'', ht'', hadded⟩ := Roll.exists_next h.present hid
  have hlanding : o.landingAfter m = o.landing := by
    cases m with
    | landed i stamp => exact absurd rfl (hm i stamp)
    | _ => rfl
  refine ⟨t'', hlanding.trans h.landing, h.member, h.node, h.asked, ht'', ?_⟩
  rw [hadded]
  exact h.same

/-- The departure of a sweep under way is kept at its place. -/
theorem Kept.exists_departure (h : o.Kept) {i : Nat} {w : Sweep} (hw : o.run.sweeps[i]? = some w) :
    ∃ d, o.departures[i]? = some d ∧ d.whom = w.whom := by
  have hplace := congrArg (·[i]?) h.whom
  simp only [List.getElem?_map, hw, Option.map_some] at hplace
  exact Option.map_eq_some_iff.mp hplace.symm

/-- A record that a sweep makes when it lands is traced to its departure. -/
theorem Kept.traced_landed (h : o.Kept) {i : Nat} {stamp : Timestamp}
    (hstep : o.step? (.landed i stamp) = some o') {id : NodeId} {x : HealthRecord}
    (hx : (board o'.run.server).records.find? id = some x) :
    ∃ l m t t', o'.Traced id x l m t t' := by
  obtain ⟨run, hrun, rfl⟩ := Option.map_eq_some_iff.mp hstep
  obtain ⟨results, hresults, rfl⟩ := Option.map_eq_some_iff.mp hrun
  obtain ⟨w, hw, hresults⟩ := Option.bind_eq_some_iff.mp hresults
  have hasks := h.sound.asking w (List.mem_of_getElem? hw)
  have hlanded := ServerRun.landed_of_results hasks hresults stamp o.run.server
  -- whom the record is about
  obtain ⟨d, hd, hwhom⟩ := h.exists_departure hw
  obtain ⟨hroll, hlater⟩ := h.departed d (List.mem_of_getElem? hd)
  obtain ⟨res, hres, hdescribes⟩ := hlanded.records id x hx
  obtain ⟨y, hy, hnode⟩ := d.node_of_results hwhom hresults hres
  have hasked : id ∈ d.roll.tenants.ids := hroll ▸ (NodeMap.mem_ids_iff _ _).mpr ⟨y, hy⟩
  obtain ⟨t, ht⟩ := (NodeMap.mem_ids_iff _ _).mp hasked
  -- who has the id when the sweep lands
  have hid : id ∈ o.run.server.cluster.members.ids :=
    ((hlanded.ids id).mp ((NodeMap.mem_ids_iff _ _).mpr ⟨x, hx⟩)).2
  obtain ⟨t₀, ht₀⟩ := (NodeMap.mem_ids_iff _ _).mp (h.describes.ids ▸ hid)
  obtain ⟨t', ht', hadded⟩ := Roll.exists_next ht₀ hid
  have hbefore : t₀.added < o.roll.moves := h.describes.added id t₀ ht₀
  refine ⟨⟨d, o.roll.moves⟩, y, t, t', congrArg (Option.map _) hd, hy,
    hdescribes.node.trans hnode, ht, ht', ?_⟩
  rw [hadded]
  rcases hlater.same_or_new ht ht₀ with hsame | hnew
  · exact .inl hsame
  · exact .inr ⟨hnew, hbefore⟩

/-- **What one move preserves.** -/
theorem Kept.step (h : o.Kept) (hstep : o.step? m = some o') : o'.Kept := by
  obtain ⟨run, hrun, rfl⟩ := Option.map_eq_some_iff.mp hstep
  have hsound : run.Sound := h.sound.step hrun
  constructor
  case sound => exact hsound
  case describes => exact h.describes.next run.server
  case whom =>
    show run.sweeps.map Sweep.whom = (m.track _ o.departures).map Departure.whom
    rw [Move.map_track, ← h.whom]
    exact ServerRun.map_sweeps_step (g := fun c => Departure.whom ⟨c.members, o.roll⟩)
      (fun c now => Sweep.whom_depart c now o.roll) Sweep.whom_report Sweep.whom_expire hrun
  case departed =>
    intro d hd
    rcases Move.mem_track hd with rfl | hold
    · exact ⟨h.describes.ids, (Roll.Later.refl o.roll).next run.server⟩
    · obtain ⟨hroll, hlater⟩ := h.departed d hold
      exact ⟨hroll, hlater.next run.server⟩
  case traced =>
    intro id x hx
    by_cases hm : ∃ i stamp, m = .landed i stamp
    · obtain ⟨i, stamp, rfl⟩ := hm
      exact h.traced_landed hstep hx
    · have hnot : ∀ i stamp, m ≠ .landed i stamp := fun i stamp hm' => hm ⟨i, stamp, hm'⟩
      obtain ⟨l, y, t, t', htraced⟩ := h.traced id x (ServerRun.find?_records_step hrun hnot hx)
      have hid : id ∈ run.server.cluster.members.ids :=
        hsound.exact.members id ((NodeMap.mem_ids_iff _ _).mpr ⟨x, hx⟩)
      obtain ⟨t'', hthen⟩ := htraced.step hstep hnot hid
      exact ⟨l, y, t, t'', hthen⟩

theorem kept_start {config : FleetConfig} {connect : Connector} {s : Server}
    (h : Server.build config connect = .ok s) : (start s).Kept where
  sound := ServerRun.sound_of_build h
  describes := Roll.describes_first s
  whom := rfl
  departed d hd := nomatch hd
  traced id x hx := by
    have hempty : (board s).records.find? id = none := by rw [ServerRun.board_of_build h]; rfl
    exact nomatch hempty.symm.trans hx

/-- What a whole run preserves. -/
theorem Kept.run {moves : List Move} (h : o.Kept) (hrun : o.run? moves = some o') : o'.Kept :=
  runMoves?_induction (fun _ _ _ ho hstep => ho.step hstep) h hrun

/-- **Whom a health record is about.** In every run of a server that was built from a configuration,
however sweeps overlap with changes of the membership, every record is about the node that was asked
under its id by the sweep that landed last. This node is a member still, unless it was removed and
its id was given to another node before the sweep landed. -/
theorem records_traced {config : FleetConfig} {connect : Connector} {s : Server}
    (hbuild : Server.build config connect = .ok s) {moves : List Move}
    (hrun : (start s).run? moves = some o) {id : NodeId} {x : HealthRecord}
    (hx : (board o.run.server).records.find? id = some x) :
    ∃ l m t t', o.Traced id x l m t t' :=
  ((kept_start hbuild).run hrun).traced id x hx

/-- A node is added and asked, and it answers. -/
def asking : List Move :=
  [.add (connectAs 1) (.basic ⟨1⟩ "old" "old.lan" ""), .departed 0,
    .ended 0 ⟨1⟩ (.answered (.ok ⟨true, 60, ⟨60000⟩, 0⟩))]

/-- The record of a node that is asked and stays is about this node. -/
theorem records_traced_of_asking :
    Server.build .standard (connectAs 1) = .ok (.bare .standard) ∧
      ∃ o x, (start (.bare .standard)).run? (asking ++ [.landed 0 ⟨5⟩]) = some o ∧
        (board o.run.server).records.find? ⟨1⟩ = some x ∧ x.node = ⟨⟨1⟩, "old", "old.lan"⟩ ∧
        ∃ l m t t', o.Traced ⟨1⟩ x l m t t' := by
  have hbuild := Server.build_standard (connectAs 1)
  have hview : ((start (.bare .standard)).run? (asking ++ [.landed 0 ⟨5⟩])).bind
      (fun o => ((board o.run.server).records.find? ⟨1⟩).map (·.node)) =
        some ⟨⟨1⟩, "old", "old.lan"⟩ := rfl
  obtain ⟨o, hrun, hrecord⟩ := Option.bind_eq_some_iff.mp hview
  obtain ⟨x, hx, hnode⟩ := Option.map_eq_some_iff.mp hrecord
  exact ⟨hbuild, o, x, hrun, hx, hnode, records_traced hbuild hrun hx⟩

/-- While the sweep is in flight the node is removed, and another one is added under its id. -/
def replacing : List Move :=
  [.remove ⟨1⟩ ⟨2⟩, .add (connectAs 2) (.basic ⟨1⟩ "new" "new.lan" ""), .landed 0 ⟨5⟩]

/-- A sweep that lands brings back the record of a node that was removed while it was in flight, when
its id has come to another node: the record is about the node `old`, and the only member is the node
`new`, which was added after the sweep had started. -/
theorem sweep_revives_removed :
    ∃ o x, (start (.bare .standard)).run? (asking ++ replacing) = some o ∧
      (board o.run.server).records.find? ⟨1⟩ = some x ∧ x.node = ⟨⟨1⟩, "old", "old.lan"⟩ ∧
      (o.run.server.cluster.members.values.map fun m => (m.handle, m.identity)) =
        [(2, ⟨⟨1⟩, "new", "new.lan"⟩)] ∧
      ∃ l t t', o.landing = some l ∧ l.departure.roll.tenants.find? ⟨1⟩ = some t ∧
        o.roll.tenants.find? ⟨1⟩ = some t' ∧ t.added < l.departure.roll.moves ∧
        l.departure.roll.moves < t'.added := by
  obtain ⟨o, hrun⟩ : ∃ o, (start (.bare .standard)).run? (asking ++ replacing) = some o := ⟨_, rfl⟩
  have hrecord : ((start (.bare .standard)).run? (asking ++ replacing)).bind
      (fun o => ((board o.run.server).records.find? ⟨1⟩).map (·.node)) =
        some ⟨⟨1⟩, "old", "old.lan"⟩ := rfl
  have hmembers : ((start (.bare .standard)).run? (asking ++ replacing)).map
      (fun o => o.run.server.cluster.members.values.map fun m => (m.handle, m.identity)) =
        some [(2, ⟨⟨1⟩, "new", "new.lan"⟩)] := rfl
  have hasked : ((start (.bare .standard)).run? (asking ++ replacing)).bind (fun o => o.landing.bind
      fun l => (l.departure.roll.tenants.find? ⟨1⟩).map fun t => (t.added, l.departure.roll.moves)) =
        some (1, 2) := rfl
  have hpresent : ((start (.bare .standard)).run? (asking ++ replacing)).bind
      (fun o => (o.roll.tenants.find? ⟨1⟩).map (·.added)) = some 5 := rfl
  rw [hrun, Option.bind_some] at hrecord hasked hpresent
  rw [hrun] at hmembers
  obtain ⟨x, hx, hnode⟩ := Option.map_eq_some_iff.mp hrecord
  obtain ⟨l, hl, hasked⟩ := Option.bind_eq_some_iff.mp hasked
  obtain ⟨t, ht, hadded⟩ := Option.map_eq_some_iff.mp hasked
  obtain ⟨hadded, hmoves⟩ := Prod.mk.inj hadded
  obtain ⟨t', ht', hlate⟩ := Option.map_eq_some_iff.mp hpresent
  refine ⟨o, x, hrun, hx, hnode, Option.some.inj hmembers, l, t, t', hl, ht, ht', ?_, ?_⟩
  · omega
  · omega

end Observed

end FilterFleet
