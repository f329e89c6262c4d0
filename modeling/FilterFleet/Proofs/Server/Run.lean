import FilterFleet.Proofs.Cluster.Membership
import FilterFleet.Proofs.Events.History
import FilterFleet.Proofs.Lists
import FilterFleet.Server.Basic
import Mathlib.Data.List.InsertIdx

/-!
# Runs of a server

A `ServerRun` is a server with the sweeps that are under way, each with the members that it asked. A
run goes on by `Move`s: nodes are added, given new settings and removed; sweeps start, hear of the
nodes one after another and end, several of them at a time; and there is everything else that a
server does. A call that is refused leaves the server as it is.

`addNode_cases`, `updateNode_cases` and `removeNode_cases` say all that a call about the membership
does, and `build_induction` what holds of a new server.
-/

namespace FilterFleet

/-- The configuration that says nothing is accepted. -/
theorem FleetConfig.validate_standard : FleetConfig.standard.validate = .ok () := by
  have hlevel : LoggingSettings.standard.level.map Char.toLower = "info" := by decide +kernel
  have hlogging : LoggingSettings.standard.validate = .ok () := by
    rw [LoggingSettings.validate, hlevel]
    rfl
  have hsame : FleetConfig.standard.logging = LoggingSettings.standard := rfl
  rw [FleetConfig.validate, hsame, hlogging]
  rfl

/-! ## Calls about the membership -/

namespace Server

/-- The server with a member under its id and the settings of the member. -/
def joined (s : Server) (member : Member) (settings : NodeSettings) : Server :=
  { s with
    cluster.members := s.cluster.members.insert member.identity.id member
    settings := s.settings.insert settings.id settings }

/-- The server without the member of an id, its settings and its health record. -/
def parted (s : Server) (id : NodeId) (stamp : Timestamp) : Server :=
  { s with
    toFleet := { s.toFleet with cluster := (s.cluster.remove id).2 }.forget id stamp
    settings := s.settings.erase id }

theorem addNode_eq_ok {s : Server} {connect : Connector} {settings : NodeSettings} {member : Member}
    (hnew : settings.id ∉ s.settings.ids)
    (hvalid : validateNodes (s.settings.values ++ [settings]) = .ok ())
    (hmember : connect settings = .ok member)
    (hfree : member.identity.id ∉ s.cluster.members.ids) :
    s.addNode connect settings = (.ok (), s.joined member settings) := by
  rw [← NodeMap.contains_iff_mem_ids] at hnew
  rcases s.cluster.add_cases member with ⟨hmem, -⟩ | ⟨-, hadd⟩
  · exact absurd hmem hfree
  · rw [addNode, if_neg hnew]
    simp only [hvalid, hmember, hadd]
    rfl

/-- A node is refused, which leaves the server as it is, or its id is new, the list with its settings
is accepted and it is built. -/
theorem addNode_cases (s : Server) (connect : Connector) (settings : NodeSettings) :
    (∃ e, s.addNode connect settings = (.error e, s)) ∨
    settings.id ∉ s.settings.ids ∧ validateNodes (s.settings.values ++ [settings]) = .ok () ∧
      ∃ member, connect settings = .ok member ∧ member.identity.id ∉ s.cluster.members.ids ∧
        s.addNode connect settings = (.ok (), s.joined member settings) := by
  by_cases hnew : settings.id ∈ s.settings.ids
  · exact .inl ⟨_, if_pos ((NodeMap.contains_iff_mem_ids _ _).mpr hnew)⟩
  · have hcontains : ¬ s.settings.contains settings.id = true :=
      mt (NodeMap.contains_iff_mem_ids _ _).mp hnew
    cases hvalid : validateNodes (s.settings.values ++ [settings]) with
    | error e => exact .inl ⟨e, by rw [addNode, if_neg hcontains, hvalid]⟩
    | ok _ =>
      cases hmember : connect settings with
      | error e => exact .inl ⟨e, by rw [addNode, if_neg hcontains, hvalid, hmember]⟩
      | ok member =>
        rcases s.cluster.add_cases member with ⟨-, hadd⟩ | ⟨hfree, -⟩
        · refine .inl ⟨.nodeExists member.identity.id, ?_⟩
          rw [addNode, if_neg hcontains, hvalid, hmember]
          simp only [hadd]
        · exact .inr ⟨hnew, rfl, member, rfl, hfree, addNode_eq_ok hnew hvalid hmember hfree⟩

theorem updateNode_eq_ok {s : Server} {settings : NodeSettings} {member : Member}
    (hknown : settings.id ∈ s.settings.ids)
    (hvalid : validateNodes
      (s.settings.values.map fun n => if n.id = settings.id then settings else n) = .ok ())
    (hsettings : settings.validate = .ok ())
    (hmember : s.cluster.members.find? settings.id = some member) :
    s.updateNode settings = (.ok member.handle, s.joined (member.configure settings) settings) := by
  rw [← NodeMap.contains_iff_mem_ids] at hknown
  rw [updateNode, if_neg (by simp [hknown])]
  simp only [hvalid, Cluster.update_eq_ok hsettings hmember]
  rfl

/-- Settings are refused, which leaves the server as it is, or their id is known, the list with them
in place is accepted and the member of their id takes them. -/
theorem updateNode_cases (s : Server) (settings : NodeSettings) :
    (∃ e, s.updateNode settings = (.error e, s)) ∨
    settings.id ∈ s.settings.ids ∧
      validateNodes (s.settings.values.map fun n => if n.id = settings.id then settings else n) =
        .ok () ∧
      ∃ member, s.cluster.members.find? settings.id = some member ∧
        s.updateNode settings =
          (.ok member.handle, s.joined (member.configure settings) settings) := by
  rw [← NodeMap.contains_iff_mem_ids, updateNode]
  by_cases hknown : s.settings.contains settings.id = true
  · rw [if_neg (by simp [hknown])]
    dsimp only
    split
    · next e _ => exact .inl ⟨e, rfl⟩
    · next hvalid =>
      rcases s.cluster.update_cases settings.id settings with ⟨e, h⟩ | ⟨-, member, hmember, h⟩
      · exact .inl ⟨e, by rw [h]⟩
      · exact .inr ⟨hknown, hvalid, member, hmember, by rw [h]; rfl⟩
  · exact .inl ⟨_, if_pos (by simp [hknown])⟩

/-- A removal is refused iff its id is unknown, and leaves the server as it is then. -/
theorem removeNode_cases (s : Server) (id : NodeId) (stamp : Timestamp) :
    (id ∉ s.settings.ids ∧ s.removeNode id stamp = (.error (.nodeNotFound id), s)) ∨
    id ∈ s.settings.ids ∧
      s.removeNode id stamp = (.ok (s.cluster.members.find? id), s.parted id stamp) := by
  rw [← NodeMap.contains_iff_mem_ids, removeNode]
  by_cases hknown : s.settings.contains id = true
  · exact .inr ⟨hknown, if_neg (by simp [hknown])⟩
  · exact .inl ⟨hknown, if_pos (by simp [hknown])⟩

/-- Starting the background tasks leaves the fleet alone, -/
theorem toFleet_start (s : Server) : s.start.2.toFleet = s.toFleet := by
  unfold start
  split <;> rfl

/-- and the stored settings. -/
theorem settings_start (s : Server) : s.start.2.settings = s.settings := by
  unfold start
  split <;> rfl

theorem addFirst_eq_ok {s s' : Server} {connect : Connector} {settings : NodeSettings}
    (h : s.addFirst connect settings = .ok s') :
    ∃ member, connect settings = .ok member ∧ member.identity.id ∉ s.cluster.members.ids ∧
      s' = s.joined member settings := by
  unfold addFirst at h
  split at h
  · cases h
  · next member hmember =>
    rcases s.cluster.add_cases member with ⟨-, hadd⟩ | ⟨hfree, hadd⟩ <;> rw [hadd] at h
    · cases h
    · obtain rfl := Except.ok.inj h
      exact ⟨member, hmember, hfree, rfl⟩

/-- A server is built from an accepted configuration, one node after another. -/
theorem build_eq_ok {config : FleetConfig} {connect : Connector} {s : Server}
    (h : build config connect = .ok s) :
    config.validate = .ok () ∧ config.nodes.foldlM (addFirst connect) (bare config) = .ok s := by
  unfold build at h
  cases hvalid : config.validate with
  | error e =>
    rw [hvalid] at h
    cases h
  | ok _ =>
    rw [hvalid] at h
    exact ⟨rfl, h⟩

/-- What holds of the bare server and all nodes of its configuration, and is kept when the next node
is added, holds of the built server when no node is left. -/
theorem build_induction_rest {P : List NodeSettings → Server → Prop} {config : FleetConfig}
    {connect : Connector} {s : Server} (hbare : P config.nodes (bare config))
    (hadd : ∀ s settings rest s', P (settings :: rest) s → s.addFirst connect settings = .ok s' →
      P rest s')
    (h : build config connect = .ok s) : P [] s := by
  obtain ⟨-, hnodes⟩ := build_eq_ok h
  generalize bare config = s₀, config.nodes = nodes at hbare hnodes
  induction nodes generalizing s₀ with
  | nil =>
    obtain rfl := Except.ok.inj hnodes
    exact hbare
  | cons settings rest ih =>
    rw [List.foldlM_cons] at hnodes
    cases hfirst : s₀.addFirst connect settings with
    | error e =>
      rw [hfirst] at hnodes
      cases hnodes
    | ok s₁ =>
      rw [hfirst] at hnodes
      exact ih s₁ (hadd s₀ settings rest s₁ hbare hfirst) hnodes

/-- What the bare server of a configuration has and adding a node keeps, the built server has. -/
theorem build_induction {P : Server → Prop} {config : FleetConfig} {connect : Connector} {s : Server}
    (hbare : P (bare config))
    (hadd : ∀ s settings s', P s → s.addFirst connect settings = .ok s' → P s')
    (h : build config connect = .ok s) : P s :=
  build_induction_rest (P := fun _ => P) hbare (fun s settings _ s' => hadd s settings s') h

theorem build_standard (connect : Connector) :
    build .standard connect = .ok (bare .standard) := by
  rw [build, FleetConfig.validate_standard]
  rfl

end Server

/-! ## Sweeps under way -/

/-- A sweep under way: the members that it asked, and how far their answers are. -/
structure Sweep where
  asked : NodeMap Member
  flight : Flight AuthStatus

/-- Start a sweep. -/
def Sweep.depart (c : Cluster) (now : Instant) : Sweep := ⟨c.members, c.depart AuthStatus now⟩

/-- A server with the sweeps that are under way. -/
structure ServerRun where
  server : Server
  sweeps : List Sweep

namespace ServerRun

/-- What happens to a server. -/
inductive Move where
  | add (connect : Connector) (settings : NodeSettings)
  | update (settings : NodeSettings)
  | remove (id : NodeId) (stamp : Timestamp)
  /-- A sweep starts. -/
  | departed (now : Instant)
  /-- A sweep hears of a node. -/
  | ended (sweep : Nat) (id : NodeId) (callEnd : CallEnd AuthStatus)
  /-- The time of a sweep is over. -/
  | expired (sweep : Nat)
  /-- A sweep has heard of every node that it asked. -/
  | landed (sweep : Nat) (stamp : Timestamp)
  /-- A sweep is given up. -/
  | abandoned (sweep : Nat)
  /-- Something is asked of the broker or of a subscription. -/
  | called (c : Broker.Call)
  /-- Searches are made, or their cursors removed. -/
  | searched (cursors : CursorTable SearchParams)
  /-- The polling loop is woken. -/
  | woken (loop : HealthLoop) (now : Instant) (w : HealthWake)
  /-- The polling loop is done with a sweep. -/
  | rested (loop : HealthLoop) (now : Instant) (period : Span)
  | started
  | stopping
  | stopped
  /-- Somebody waits for the shutdown. -/
  | listened

/-- A connector that builds every node. -/
def connectAny : Connector := fun settings => .ok ⟨0, settings.identity, some settings⟩

/-- A connector that builds one node, with a handle of its own. -/
def connectAs (handle : Nat) : Connector := fun settings =>
  .ok ⟨handle, settings.identity, some settings⟩

/-- What a move does, if it can be made. -/
def step? (r : ServerRun) : Move → Option ServerRun
  | .add connect settings => some { r with server := (r.server.addNode connect settings).2 }
  | .update settings => some { r with server := (r.server.updateNode settings).2 }
  | .remove id stamp => some { r with server := (r.server.removeNode id stamp).2 }
  | .departed now => some { r with sweeps := r.sweeps ++ [.depart r.server.cluster now] }
  | .ended i id callEnd =>
    some { r with
      sweeps := r.sweeps.modify i fun w => { w with flight := w.flight.report id callEnd } }
  | .expired i =>
    some { r with sweeps := r.sweeps.modify i fun w => { w with flight := w.flight.expire } }
  | .landed i stamp =>
    (r.sweeps[i]?.bind fun w => w.flight.results?).map fun results =>
      ⟨{ r.server with toFleet := r.server.landSweep results stamp }, r.sweeps.eraseIdx i⟩
  | .abandoned i => some { r with sweeps := r.sweeps.eraseIdx i }
  | .called c => some { r with server := { r.server with broker := (r.server.broker.perform c).2 } }
  | .searched cursors =>
    some { r with server := { r.server with cluster := { r.server.cluster with cursors } } }
  | .woken loop now w =>
    some { r with server := { r.server with toFleet := (r.server.wakeHealth loop now w).2 } }
  | .rested loop now period =>
    some { r with server := { r.server with toFleet := (r.server.afterSweep loop now period).2 } }
  | .started => some { r with server := r.server.start.2 }
  | .stopping => some { r with server := r.server.beginStop.2 }
  | .stopped => some { r with server := r.server.endStop }
  | .listened => some { r with server := r.server.takeListener.2 }

/-- Make moves one after another. -/
def run? (r : ServerRun) (moves : List Move) : Option ServerRun := runMoves? step? r moves

/-! ## What a move does to the sweeps under way -/

/-- What a move does to a list that is kept beside the sweeps under way, in which a sweep that starts
has a new entry. -/
def Move.track {α : Type} (m : Move) (new : α) (l : List α) : List α :=
  match m with
  | .departed _ => l ++ [new]
  | .landed i _ | .abandoned i => l.eraseIdx i
  | _ => l

theorem Move.map_track {α β : Type} (m : Move) (f : α → β) (new : α) (l : List α) :
    (m.track new l).map f = m.track (f new) (l.map f) := by
  cases m with
  | departed _ => simp [track]
  | landed i _ | abandoned i => exact (List.eraseIdx_map f l i).symm
  | _ => rfl

/-- An entry is the new one or one that was there. -/
theorem Move.mem_track {α : Type} {m : Move} {new a : α} {l : List α} (h : a ∈ m.track new l) :
    a = new ∨ a ∈ l := by
  cases m with
  | departed _ => simpa [track, or_comm] using h
  | landed i _ | abandoned i => exact .inr (List.mem_of_mem_eraseIdx h)
  | _ => exact .inr h

/-- What is known of a sweep from its start on, and not changed by what it hears, is tracked by the
moves. -/
theorem map_sweeps_step {α : Type} {f : Sweep → α} {g : Cluster → α} {r q : ServerRun} {m : Move}
    (hdepart : ∀ c now, f (.depart c now) = g c)
    (hreport : ∀ w id callEnd, f { w with flight := w.flight.report id callEnd } = f w)
    (hexpire : ∀ w, f { w with flight := w.flight.expire } = f w) (h : r.step? m = some q) :
    q.sweeps.map f = m.track (g r.server.cluster) (r.sweeps.map f) := by
  cases m with
  | departed now =>
    obtain rfl := Option.some.inj h
    simp [Move.track, hdepart]
  | ended i id callEnd =>
    obtain rfl := Option.some.inj h
    exact map_modify_eq (fun w => hreport w id callEnd) r.sweeps i
  | expired i =>
    obtain rfl := Option.some.inj h
    exact map_modify_eq hexpire r.sweeps i
  | landed i stamp =>
    obtain ⟨results, -, rfl⟩ := Option.map_eq_some_iff.mp h
    exact (List.eraseIdx_map f r.sweeps i).symm
  | abandoned i =>
    obtain rfl := Option.some.inj h
    exact (List.eraseIdx_map f r.sweeps i).symm
  | add _ _ | update _ | remove _ _ | called _ | searched _ | woken _ _ _ | rested _ _ _ | started
  | stopping | stopped | listened =>
    obtain rfl := Option.some.inj h
    rfl

/-! ## Sweeps keep to the members that they asked -/

/-- Every sweep under way waits for the nodes that it asked. -/
def Asking (r : ServerRun) : Prop := ∀ w ∈ r.sweeps, w.flight.legs.ids = w.asked.ids

theorem Asking.step {r q : ServerRun} {m : Move} (h : r.Asking) (hstep : r.step? m = some q) :
    q.Asking := by
  have hmap := map_sweeps_step (f := fun w => (w.flight.legs.ids, w.asked.ids))
    (g := fun c => (c.members.ids, c.members.ids))
    (fun c now => congrArg (·, c.members.ids) (NodeMap.ids_map c.members _))
    (fun w _ _ => congrArg (·, w.asked.ids) (NodeMap.ids_map w.flight.legs _))
    (fun w => congrArg (·, w.asked.ids) (NodeMap.ids_map w.flight.legs _)) hstep
  intro w hw
  have htracked := List.mem_map_of_mem hw (f := fun w => (w.flight.legs.ids, w.asked.ids))
  rw [hmap] at htracked
  rcases Move.mem_track htracked with hnew | hold
  · obtain ⟨hlegs, hasked⟩ := Prod.mk.inj hnew
    exact hlegs.trans hasked.symm
  · obtain ⟨w₀, hw₀, heq⟩ := List.mem_map.mp hold
    obtain ⟨hlegs, hasked⟩ := Prod.mk.inj heq
    rw [← hlegs, ← hasked]
    exact h w₀ hw₀

end ServerRun

end FilterFleet
