import FilterFleet.Decimal.Shortest

/-! # Decimal number texts

A number text has a sign, digits before and after a point, and a power of ten.  `Lexeme.ofFloat?`
chooses the text of a binary64 number and `Lexeme.float?` reads one back, by scaling a 64-bit
significand with powers of ten in binary64 arithmetic.
-/

namespace FilterFleet.Decimal

/-- A number text: sign, digits before the point, digits after it, and the power of ten. -/
structure Lexeme where
  negative : Bool
  whole : List Char
  fraction : List Char
  exponent : Option Int
deriving Repr, DecidableEq, Inhabited

/-- The characters of a power of ten, whose sign is always written. -/
def exponentChars (e : Int) : List Char :=
  'e' :: (if e < 0 then '-' else '+') :: Nat.toDigits 10 e.natAbs

/-- The characters of a number text. -/
def Lexeme.chars (x : Lexeme) : List Char :=
  (if x.negative then ['-'] else []) ++ x.whole ++
    (if x.fraction.isEmpty then [] else '.' :: x.fraction) ++
    (match x.exponent with
      | none => []
      | some e => exponentChars e)

/-! ## Writing -/

/-- Lay out a positive decimal: with a point from `10 ^ (-5)` up to below `10 ^ 16`, and with one
digit before the point and a power of ten outside that range. -/
def Lexeme.ofScientific (negative : Bool) (s : Scientific) : Lexeme :=
  let ds := Nat.toDigits 10 s.digits
  let point := (ds.length : Int) + s.exponent
  if 16 < point || point < -4 then
    { negative, whole := ds.take 1, fraction := ds.drop 1, exponent := some (point - 1) }
  else if point ≤ 0 then
    { negative, whole := ['0'], fraction := List.replicate (-point).toNat '0' ++ ds
      exponent := none }
  else if s.exponent < 0 then
    { negative, whole := ds.take point.toNat, fraction := ds.drop point.toNat, exponent := none }
  else
    { negative, whole := ds ++ List.replicate s.exponent.toNat '0', fraction := ['0']
      exponent := none }

/-- The sign bit of a binary64 number: `2 ^ 63`. -/
def signBit : Nat := 0x8000000000000000

/-- The text of a finite binary64 number; infinities and NaN have none. -/
def Lexeme.ofFloat? (x : Float) : Option Lexeme :=
  let bits := x.toBits.toNat
  let negative := decide (signBit ≤ bits)
  let magnitude := bits % signBit
  if 0x7ff0000000000000 ≤ magnitude then none
  else if magnitude == 0 then
    some { negative, whole := ['0'], fraction := ['0'], exponent := none }
  else some (Lexeme.ofScientific negative (shortest magnitude))

/-- The text with one digit after the point of a finite binary64 number, its exact value rounded
with a half going to the even neighbour. -/
def oneDecimal (x : Float) : String :=
  let bits := x.toBits.toNat
  let magnitude := bits % signBit
  let sign := if signBit ≤ bits then "-" else ""
  if 0x7ff0000000000000 < magnitude then "NaN"
  else if magnitude == 0x7ff0000000000000 then sign ++ "inf"
  else
    let (m, q, _) := unpack magnitude
    let numerator := 10 * m * Nat.pow 2 q.toNat
    let denominator := Nat.pow 2 (-q).toNat
    let floor := numerator / denominator
    let rest := 2 * (numerator % denominator)
    let tenths :=
      if rest < denominator || (rest == denominator && floor % 2 == 0) then floor else floor + 1
    sign ++ toString (tenths / 10) ++ "." ++ toString (tenths % 10)

/-! ## Reading -/

/-- The value of a decimal digit. -/
def digitValue (c : Char) : Nat := c.toNat - '0'.toNat

/-- Whether a further digit fits a 64-bit significand. -/
def fits (significand digit : Nat) : Bool := significand * 10 + digit < UInt64.size

/-- Take the digits before the point into a 64-bit significand.  From the first digit that does
not fit on, digits only count towards the power of ten. -/
def takeWhole : (significand : Nat) → List Char → Nat × Nat
  | s, [] => (s, 0)
  | s, c :: cs =>
    if fits s (digitValue c) then takeWhole (s * 10 + digitValue c) cs
    else (s, (c :: cs).length)

/-- Take the digits after the point into a 64-bit significand, up to the first that does not fit;
the result holds how many were taken. -/
def takeFraction : (significand : Nat) → List Char → Nat × Nat
  | s, [] => (s, 0)
  | s, c :: cs =>
    if fits s (digitValue c) then
      let (r, n) := takeFraction (s * 10 + digitValue c) cs
      (r, n + 1)
    else (s, 0)

/-- A power of ten as a binary64 number. -/
def powerOfTen (n : Nat) : Float := Float.ofScientific 1 false n

/-- Scale by `10 ^ exponent`, in steps of `10 ^ 308` where one step is not enough.  A result
beyond the largest finite number is refused. -/
def scale? : (fuel : Nat) → Float → Int → Option Float
  | 0, f, _ => some f
  | fuel + 1, f, e =>
    if e.natAbs ≤ 308 then
      if 0 ≤ e then
        let r := f * powerOfTen e.natAbs
        if r.isInf then none else some r
      else some (f / powerOfTen e.natAbs)
    else if f == 0.0 then some f
    else if 0 ≤ e then none
    else scale? fuel (f / powerOfTen 308) (e + 308)

/-- The largest power of ten that a number text may name directly. -/
def exponentLimit : Int := 2147483647

/-- The binary64 number that a number text stands for, unless it is too large. -/
def Lexeme.float? (x : Lexeme) : Option Float := do
  let (whole, dropped) := takeWhole 0 x.whole
  let (significand, taken) := takeFraction whole x.fraction
  let written := x.exponent.getD 0
  let magnitude ←
    if exponentLimit < written.natAbs then
      if significand != 0 && 0 < written then none else some 0.0
    else
      let start : Int := (dropped : Int) - (taken : Int)
      scale? 5 (UInt64.ofNat significand).toFloat
        (max (-exponentLimit - 1) (min exponentLimit (start + written)))
  return if x.negative then -magnitude else magnitude

end FilterFleet.Decimal
