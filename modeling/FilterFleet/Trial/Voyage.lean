import FilterFleet.Client.Wire
import FilterFleet.Cluster.Flight

/-! # Calls on a trial's nodes

In a trial a fleet runs on a clock that moves only when everything waits.  Its nodes live in memory,
or are clients of nodes that a network stands for.  A voyage is a call to all nodes together with
the work that the nodes are doing for it.
-/

namespace FilterFleet.Trial

/-- A node of a trial. -/
inductive Node where
  | memory (node : MemoryNode)
  | remote (client : NodeClient)

/-- All nodes ever built, by handle. -/
abbrev Nodes := List (Nat × Node)

namespace Nodes

/-- The node of a handle. -/
def get? (ns : Nodes) (handle : Nat) : Option Node :=
  (ns.find? fun n => n.1 == handle).map (·.2)

/-- Replace the node of a handle. -/
def set (ns : Nodes) (handle : Nat) (node : Node) : Nodes :=
  ns.map fun n => if n.1 == handle then (handle, node) else n

/-- Give the node of a handle new settings. -/
def configure (ns : Nodes) (handle : Nat) (settings : NodeSettings) (t : Moment) : Nodes :=
  match ns.get? handle with
  | some (.memory m) => ns.set handle (.memory (m.configure settings))
  | some (.remote c) => ns.set handle (.remote (c.step t (.configure settings)).1)
  | none => ns

end Nodes

/-- A call to one node: begun, or over. -/
inductive Work (kind : CallKind) where
  | underway (call : MemoryCall kind)
  | over (callEnd : CallEnd kind.Reply)

/-- The failure of a call to a node that is not there. -/
def missingNode : NodeError := .unknown "no such node"

/-- Begin a call to a node.  A client's call is over at once, as the network answers at once. -/
def Nodes.begin (ns : Nodes) (handle : Nat) (kind : CallKind) (request : kind.Request)
    (network : NodeClient.Network) (t : Moment) : Work kind × Nodes :=
  match ns.get? handle with
  | some (.memory m) =>
    let (m, call) := m.begin kind request t.now
    (.underway call, ns.set handle (.memory m))
  | some (.remote c) =>
    let (outcome, c) := c.perform network t ⟨kind, request⟩
    (.over (.answered outcome), ns.set handle (.remote c))
  | none => (.over (.answered (.error missingNode)), ns)

/-- End a call of a node in memory. -/
def Nodes.finish (ns : Nodes) (handle : Nat) {kind : CallKind} (call : MemoryCall kind)
    (stamp : Timestamp) : CallEnd kind.Reply × Nodes :=
  match ns.get? handle with
  | some (.memory m) =>
    let (callEnd, m) := m.finish stamp call
    (callEnd, ns.set handle (.memory m))
  | _ => (.answered (.error missingNode), ns)

/-- The work of one node for a call to all. -/
structure Leg (kind : CallKind) where
  id : NodeId
  handle : Nat
  call : MemoryCall kind

/-- A call to all nodes, with the work that is still being done for it. -/
structure Voyage (kind : CallKind) where
  flight : Flight kind.Reply
  legs : List (Leg kind)

namespace Voyage

variable {kind : CallKind}

/-- Begin the call to one node of a flight. -/
def embark (request : NodeId → kind.Request) (network : NodeClient.Network) (t : Moment)
    (s : Voyage kind × Nodes) (leg : NodeId × FilterFleet.Leg kind.Reply) :
    Voyage kind × Nodes :=
  let (v, ns) := s
  let (id, l) := leg
  match ns.begin l.handle kind (request id) network t with
  | (.underway call, ns) => ({ v with legs := v.legs ++ [⟨id, l.handle, call⟩] }, ns)
  | (.over callEnd, ns) => ({ v with flight := v.flight.report id callEnd }, ns)

/-- Call all nodes of a flight. -/
def depart (flight : Flight kind.Reply) (request : NodeId → kind.Request)
    (network : NodeClient.Network) (t : Moment) (ns : Nodes) : Voyage kind × Nodes :=
  flight.legs.entries.foldl (embark request network t) (⟨flight, []⟩, ns)

/-- End the work of a leg that is due. -/
def land (t : Moment) (s : Voyage kind × Nodes) (leg : Leg kind) : Voyage kind × Nodes :=
  let (v, ns) := s
  let (callEnd, ns) := ns.finish leg.handle leg.call t.stamp
  ({ v with flight := v.flight.report leg.id callEnd }, ns)

/-- End all work that is due; at the deadline the rest is given up.  There is no result when
nothing can be done yet. -/
def advance? (v : Voyage kind) (t : Moment) (ns : Nodes) : Option (Voyage kind × Nodes) :=
  let due := v.legs.filter fun l => l.call.due ≤ t.now
  let late := decide (v.flight.deadline ≤ t.now)
  if due.isEmpty && !(late && !v.legs.isEmpty) then none
  else
    let rest := v.legs.filter fun l => !decide (l.call.due ≤ t.now)
    let (v, ns) := due.foldl (land t) ({ v with legs := rest }, ns)
    some (if late then { flight := v.flight.expire, legs := [] } else v, ns)

/-- The times at which something can be done. -/
def timers (v : Voyage kind) : List Instant :=
  if v.legs.isEmpty then [] else v.flight.deadline :: v.legs.map (·.call.due)

end Voyage

end FilterFleet.Trial
