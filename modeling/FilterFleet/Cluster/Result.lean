import FilterFleet.Failure
import FilterFleet.Node.Map

/-! # Results of asking every node

Asking all nodes the same gives one result for each: which node it was, and its reply or its
failure.
-/

namespace FilterFleet

/-- The outcome of one call to one node. -/
structure NodeResult (α : Type) where
  node : NodeIdentity
  outcome : Except NodeError α

namespace NodeResult

/-- The reply, if there is one. -/
def response? (r : NodeResult α) : Option α := r.outcome.toOption

/-- The failure, if there is one. -/
def error? (r : NodeResult α) : Option NodeError :=
  match r.outcome with
  | .error e => some e
  | .ok _ => none

/-- Whether the node replied. -/
def success (r : NodeResult α) : Bool := r.response?.isSome

/-- A result is written with either its failure or its reply. -/
def toJson (encode : α → Json) (r : NodeResult α) : Json :=
  .obj ([("node", r.node.toJson), ("success", .bool r.success)] ++
    Json.member? "error" NodeError.toJson r.error? ++ Json.member? "response" encode r.response?)

theorem success_eq_error?_isNone (r : NodeResult α) : r.success = r.error?.isNone := by
  obtain ⟨_, outcome⟩ := r
  cases outcome <;> rfl

end NodeResult

/-- One result for each node asked. -/
abbrev FanOut (α : Type) := NodeMap (NodeResult α)

namespace FanOut

/-- The results as an object, in ascending order of id. -/
def toJson (encode : α → Json) (results : FanOut α) : Json :=
  .obj (results.entries.map fun e => (e.1.text, e.2.toJson encode))

/-- The replies, in ascending order of id. -/
def responses (results : FanOut α) : List (NodeId × α) :=
  results.entries.filterMap fun e => e.2.response?.map fun a => (e.1, a)

end FanOut

end FilterFleet
