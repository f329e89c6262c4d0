import FilterFleet.Json.Value

/-! # Reading records out of JSON values

A record is given as an object with its fields by name, or as an array of its fields in the order
of declaration.  Unknown names are ignored, a known name may occur only once, and an array may
leave out fields at its end but holds none beyond the last.  A number field takes only numbers in
its range.
-/

namespace FilterFleet.Json

open Decimal

/-- The values of the members called `name`. -/
def valuesOf (members : List (String × Json)) (name : String) : List Json :=
  (members.filter fun m => m.1 == name).map (·.2)

/-- The value given for the field `name`, if any; a name given twice is refused. -/
def field? (members : List (String × Json)) (name : String) : Option (Option Json) :=
  match valuesOf members name with
  | [] => some none
  | [v] => some (some v)
  | _ => none

/-- The values given for the fields `names`, which stand in the order of declaration. -/
def fields? (names : List String) : Json → Option (List (Option Json))
  | obj members => names.mapM (field? members)
  | arr items =>
    if items.length ≤ names.length then
      some (items.map some ++ List.replicate (names.length - items.length) none)
    else none
  | _ => none

/-- A field that must be given. -/
def required (decode : Json → Option α) (given : Option Json) : Option α := given.bind decode

/-- A field with a value of its own when it is not given. -/
def orElse (fallback : α) (decode : Json → Option α) : Option Json → Option α
  | none => some fallback
  | some v => decode v

/-- A field that may be absent, also as `null`. -/
def maybe (decode : Json → Option α) : Option Json → Option (Option α)
  | none => some none
  | some null => some none
  | some v => (decode v).map some

/-- A list of values. -/
def list? (decode : Json → Option α) : Json → Option (List α)
  | arr items => items.mapM decode
  | _ => none

/-- A truth value. -/
def bool? : Json → Option Bool
  | bool b => some b
  | _ => none

/-- A text. -/
def str? : Json → Option String
  | str s => some s
  | _ => none

/-- A whole number. -/
def int? : Json → Option Int
  | int n => some n
  | _ => none

/-- A whole number of 64 bits with sign. -/
def int64? (v : Json) : Option Int64 := do
  let n ← v.int?
  if Int64.minValue.toInt ≤ n && n ≤ Int64.maxValue.toInt then some (Int64.ofInt n) else none

/-- A whole number of 64 bits without sign. -/
def uint64? (v : Json) : Option UInt64 := do
  let n ← v.int?
  if 0 ≤ n && n.toNat < UInt64.size then some (UInt64.ofNat n.toNat) else none

/-- A whole number of 32 bits without sign. -/
def uint32? (v : Json) : Option UInt32 := do
  let n ← v.int?
  if 0 ≤ n && n.toNat < UInt32.size then some (UInt32.ofNat n.toNat) else none

/-- A whole number of 16 bits without sign. -/
def uint16? (v : Json) : Option UInt16 := do
  let n ← v.int?
  if 0 ≤ n && n.toNat < UInt16.size then some (UInt16.ofNat n.toNat) else none

/-- A binary64 number; whole numbers count. -/
def float? : Json → Option Float
  | int n => Lexeme.float? ⟨n < 0, Nat.toDigits 10 n.natAbs, [], none⟩
  | real x => x.float?
  | _ => none

mutual

/-- Whether a value can be kept as it is: no part of it is broken, and every number is a finite
binary64 number. -/
def isSound : Json → Bool
  | arr items => soundItems items
  | obj members => soundMembers members
  | int n => (int n).float?.isSome
  | real x => x.float?.isSome
  | broken => false
  | _ => true

/-- Whether all items are sound. -/
def soundItems : List Json → Bool
  | [] => true
  | v :: rest => isSound v && soundItems rest

/-- Whether the values of all members are sound. -/
def soundMembers : List (String × Json) → Bool
  | [] => true
  | (_, v) :: rest => isSound v && soundMembers rest

end

/-- The name of a choice without contents: the name itself, or an object with it as the only
member and `null` as value. -/
def choice? : Json → Option String
  | str s => some s
  | obj [(s, null)] => some s
  | _ => none

/-! ## Writing numbers -/

/-- A whole number of 64 bits with sign. -/
def ofInt64 (n : Int64) : Json := int n.toInt

/-- A whole number without sign. -/
def ofNat (n : Nat) : Json := int n

end FilterFleet.Json
