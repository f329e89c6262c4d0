import FilterFleet.Decimal.Lexeme

/-! # JSON values

A JSON value keeps what a reader of records has to tell apart: whole numbers from numbers written
with a point, a power of ten or a minus sign before zero; members in the order written, repeated
names included; and values that hold a string with half a surrogate pair, or with bytes that are not
UTF-8, which no text stands for.
-/

namespace FilterFleet

open Decimal

/-- A JSON value. -/
inductive Json where
  | null
  | bool (b : Bool)
  | int (n : Int)
  | real (x : Lexeme)
  | str (s : String)
  | arr (items : List Json)
  | obj (members : List (String × Json))
  /-- A string, or an object with a name, that holds half a surrogate pair or bytes that are not
  UTF-8. -/
  | broken
deriving Inhabited

namespace Json

/-- A binary64 number; infinities and NaN are written as `null`. -/
def float (x : Float) : Json :=
  match Lexeme.ofFloat? x with
  | some lexeme => real lexeme
  | none => null

/-- An optional value; absence is written as `null`. -/
def optional (encode : α → Json) : Option α → Json
  | none => null
  | some a => encode a

/-- A member that is left out when there is no value. -/
def member? (name : String) (encode : α → Json) : Option α → List (String × Json)
  | none => []
  | some a => [(name, encode a)]

mutual

/-- How many containers lie around the innermost value, its own container included. -/
def depth : Json → Nat
  | arr items => depthItems items + 1
  | obj members => depthMembers members + 1
  | _ => 0

/-- The greatest depth among items. -/
def depthItems : List Json → Nat
  | [] => 0
  | v :: rest => max (depth v) (depthItems rest)

/-- The greatest depth among members. -/
def depthMembers : List (String × Json) → Nat
  | [] => 0
  | (_, v) :: rest => max (depth v) (depthMembers rest)

end

end Json

end FilterFleet
