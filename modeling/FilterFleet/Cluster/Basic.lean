import FilterFleet.Cluster.Flight
import FilterFleet.Config.Basic
import FilterFleet.Cursor.Table

/-! # The cluster

The members of the fleet and the cursors of its searches.  Members come and go while calls are in
flight; a call in flight keeps the members it started with.
-/

namespace FilterFleet

/-- What is remembered of a search for as long as it lasts. -/
structure SearchParams where
  filters : QueryFilters
  /-- The page size. -/
  length : Option UInt32
  /-- The offset of the first record of a fresh search. -/
  start : Option UInt32
deriving DecidableEq

/-- The members of the fleet and the cursors of its searches. -/
structure Cluster where
  members : NodeMap Member
  /-- How long every call to a node may take. -/
  callTimeout : Span
  cursors : CursorTable SearchParams

namespace Cluster

/-- A cluster without members. -/
def empty (callTimeout cursorTtl : Span) : Cluster := ⟨.empty, callTimeout, .empty cursorTtl⟩

/-- Whether an id is that of a member. -/
def contains (c : Cluster) (id : NodeId) : Bool := c.members.contains id

/-- Add a node under the id of its identity. -/
def add (c : Cluster) (m : Member) : Except FleetError Unit × Cluster :=
  if c.contains m.identity.id then (.error (.nodeExists m.identity.id), c)
  else (.ok (), { c with members := c.members.insert m.identity.id m })

/-- Give a member new settings; its handle is returned. -/
def update (c : Cluster) (id : NodeId) (s : NodeSettings) : Except FleetError Nat × Cluster :=
  if s.id ≠ id then
    (.error (.input (.invalid "id"
      ("config for node " ++ s.id.text ++ " cannot update node " ++ id.text))), c)
  else
    match s.validate with
    | .error e => (.error (.input e), c)
    | .ok () =>
      match c.members.find? id with
      | none => (.error (.nodeNotFound id), c)
      | some m =>
        (.ok m.handle,
          { c with members := c.members.insert id (m.configure s) })

/-- Remove a node; it is returned if it was a member. -/
def remove (c : Cluster) (id : NodeId) : Option Member × Cluster :=
  (c.members.find? id, { c with members := c.members.erase id })

/-- Call every member. -/
def depart (c : Cluster) (α : Type) (now : Instant) : Flight α :=
  .depart c.members c.callTimeout now

/-- The form for diagnostics. -/
def debug (c : Cluster) : String :=
  "Cluster \x7b members: [" ++
    ", ".intercalate (c.members.ids.map fun id => "NodeId(" ++ id.text ++ ")") ++
    "], call_timeout: " ++ Span.text c.callTimeout ++ ", .. \x7d"

end Cluster

end FilterFleet
