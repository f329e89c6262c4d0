import FilterFleet.Json.Record
import FilterFleet.Text.Quoted

/-! # Node ids and identities

A node is a DNS filter that the fleet manages.  Its id is a 64-bit number; its identity is what
every result about the node carries: id, name and host, but no settings and no credentials.
-/

namespace FilterFleet

/-- The number that names a node within the fleet. -/
structure NodeId where
  value : Int64
deriving DecidableEq, Repr, Inhabited, Hashable

namespace NodeId

instance : LT NodeId := ⟨fun a b => a.value < b.value⟩

instance (a b : NodeId) : Decidable (a < b) := inferInstanceAs (Decidable (a.value < b.value))

/-- The decimal text of an id. -/
def text (id : NodeId) : String := toString id.value.toInt

/-- An id is written as its number. -/
def toJson (id : NodeId) : Json := Json.ofInt64 id.value

/-- An id is read from its number. -/
def ofJson? (v : Json) : Option NodeId := v.int64?.map NodeId.mk

theorem lt_iff (a b : NodeId) : a < b ↔ a.value.toInt < b.value.toInt := Int64.lt_iff_toInt_lt

theorem ext_toInt {a b : NodeId} (h : a.value.toInt = b.value.toInt) : a = b := by
  cases a; cases b; simpa using Int64.toInt_inj.mp h

/-- Ids are linearly ordered. -/
theorem lt_or_eq_or_gt (a b : NodeId) : a < b ∨ a = b ∨ b < a := by
  rcases Int.lt_trichotomy a.value.toInt b.value.toInt with h | h | h
  · exact .inl ((lt_iff a b).mpr h)
  · exact .inr (.inl (ext_toInt h))
  · exact .inr (.inr ((lt_iff b a).mpr h))

theorem lt_trans {a b c : NodeId} (hab : a < b) (hbc : b < c) : a < c := by
  rw [lt_iff] at *
  exact Int.lt_trans hab hbc

theorem not_lt_self (a : NodeId) : ¬ a < a := by
  rw [lt_iff]
  exact Int.lt_irrefl _

end NodeId

/-- Id, name and host of a node. -/
structure NodeIdentity where
  id : NodeId
  name : String
  host : String
deriving DecidableEq, Repr, Inhabited

namespace NodeIdentity

/-- The short form for messages: name, id and host. -/
def text (n : NodeIdentity) : String :=
  n.name ++ "#" ++ n.id.text ++ " (" ++ n.host ++ ")"

/-- The form for diagnostics. -/
def debug (n : NodeIdentity) : String :=
  "NodeIdentity \x7b id: NodeId(" ++ n.id.text ++ "), name: " ++ Text.quoted n.name ++
    ", host: " ++ Text.quoted n.host ++ " \x7d"

/-- The members of an identity. -/
def members (n : NodeIdentity) : List (String × Json) :=
  [("id", n.id.toJson), ("name", .str n.name), ("host", .str n.host)]

/-- An identity is written as an object. -/
def toJson (n : NodeIdentity) : Json := .obj n.members

/-- All three fields must be given. -/
def ofJson? (v : Json) : Option NodeIdentity := do
  match ← v.fields? ["id", "name", "host"] with
  | [id, name, host] =>
    some {
      id := ← Json.required NodeId.ofJson? id
      name := ← Json.required Json.str? name
      host := ← Json.required Json.str? host }
  | _ => none

end NodeIdentity

end FilterFleet
