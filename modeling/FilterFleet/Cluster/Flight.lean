import FilterFleet.Cluster.Result
import FilterFleet.Node.Memory

/-! # Calls to all nodes in flight

A call to all nodes goes to those that are members at the moment it starts, and each of them has
the same time to answer.  It lands when every node has answered, has broken down or has run out of
time; changes of the membership in between do not touch it.
-/

namespace FilterFleet

/-- A member of the fleet: the node that stands behind an id, its present identity and the settings
that it has taken. -/
structure Member where
  /-- The number of the node; no two nodes that are ever built have the same. -/
  handle : Nat
  identity : NodeIdentity
  /-- A node in memory can be built without settings. -/
  settings : Option NodeSettings
deriving DecidableEq

/-- Give a node new settings. -/
def Member.configure (m : Member) (s : NodeSettings) : Member :=
  { m with identity := s.identity, settings := some s }

/-- The call to one node. -/
structure Leg (α : Type) where
  handle : Nat
  /-- The identity of the node when the call started. -/
  identity : NodeIdentity
  /-- How the call came out, once it has. -/
  outcome : Option (Except NodeError α)

/-- A call to all nodes. -/
structure Flight (α : Type) where
  timeout : Span
  deadline : Instant
  legs : NodeMap (Leg α)

namespace Flight

variable {α : Type}

/-- Call every member. -/
def depart (members : NodeMap Member) (timeout : Span) (now : Instant) : Flight α :=
  ⟨timeout, now + timeout, members.map fun _ m => ⟨m.handle, m.identity, none⟩⟩

/-- The failure of a node that has not answered in time. -/
def lateError (timeout : Span) : NodeError :=
  .timeout ("no response within " ++ toString (Span.millis timeout) ++ "ms")

/-- The failure of a node whose call broke down. -/
def brokenError : NodeError := .unknown "node task panicked"

/-- The outcome of a call that ended. -/
def outcomeOf : CallEnd α → Except NodeError α
  | .answered outcome => outcome
  | .broken => .error brokenError

/-- Settle a leg unless it is settled. -/
def Leg.settle (outcome : Except NodeError α) (l : Leg α) : Leg α :=
  if l.outcome.isSome then l else { l with outcome := some outcome }

/-- The call to a node ended. -/
def report (f : Flight α) (id : NodeId) (callEnd : CallEnd α) : Flight α :=
  { f with legs := f.legs.map fun i l => if i = id then Leg.settle (outcomeOf callEnd) l else l }

/-- The time is over for the nodes that have not answered. -/
def expire (f : Flight α) : Flight α :=
  { f with legs := f.legs.map fun _ l => Leg.settle (.error (lateError f.timeout)) l }

/-- The results, if all legs of a list are settled. -/
def settled? : List (NodeId × Leg α) → Option (List (NodeId × NodeResult α))
  | [] => some []
  | (id, l) :: rest => do
    let outcome ← l.outcome
    let results ← settled? rest
    some ((id, ⟨l.identity, outcome⟩) :: results)

/-- The results, once every node has one. -/
def results? (f : Flight α) : Option (FanOut α) := (settled? f.legs.entries).map NodeMap.ofList

end Flight

end FilterFleet
