/-! # The fewest digits that read back

A positive binary64 number is `m * 2 ^ q`.  The reals that round to it form an interval, closed
exactly when `m` is even.  Among the decimals inside the interval those with the fewest digits are
wanted, and of these the one nearest to the number.  On the grid of decimals with `n` digits it is
enough to test the two neighbours of the number, in exact arithmetic on naturals.
-/

namespace FilterFleet.Decimal

/-- A positive decimal `digits * 10 ^ exponent`. -/
structure Scientific where
  digits : Nat
  exponent : Int
deriving Repr, DecidableEq

/-- A positive rational with a rounding interval around it, over one denominator. -/
structure Rounding where
  value : Nat
  lower : Nat
  upper : Nat
  denominator : Nat
  closed : Bool
deriving Repr, DecidableEq

/-- The rounding interval of `m * 2 ^ q`.  It reaches half a unit to both sides, but only a
quarter down when `m` is the least significand of its binade and a finer binade lies below. -/
def Rounding.ofBinary (m : Nat) (q : Int) (finerBelow : Bool) : Rounding :=
  let scale := if q < 2 then 1 else Nat.pow 2 (q - 2).toNat
  { value := 4 * m * scale
    lower := (if finerBelow then 4 * m - 1 else 4 * m - 2) * scale
    upper := (4 * m + 2) * scale
    denominator := if q < 2 then Nat.pow 2 (2 - q).toNat else 1
    closed := m % 2 == 0 }

/-- Whether `k * 10 ^ g` lies in the interval. -/
def Rounding.holds (r : Rounding) (k : Nat) (g : Int) : Bool :=
  let point := k * Nat.pow 10 g.toNat * r.denominator
  let unit := Nat.pow 10 (-g).toNat
  if r.closed then r.lower * unit ≤ point && point ≤ r.upper * unit
  else r.lower * unit < point && point < r.upper * unit

/-- The distance of `k * 10 ^ g` from the number, over the common denominator of the grid. -/
def Rounding.distance (r : Rounding) (k : Nat) (g : Int) : Nat :=
  let point := k * Nat.pow 10 g.toNat * r.denominator
  let value := r.value * Nat.pow 10 (-g).toNat
  if point ≤ value then value - point else point - value

/-- The exponent of the leading decimal digit of the number. -/
def Rounding.leading (r : Rounding) : Int :=
  ((Nat.toDigits 10 (r.value * Nat.pow 10 330 / r.denominator)).length : Int) - 331

/-- The neighbour of the number on the grid with step `10 ^ g` that lies in the interval; of two
the nearer, and on a tie the even one. -/
def Rounding.onGrid? (r : Rounding) (g : Int) : Option Scientific :=
  let below := r.value * Nat.pow 10 (-g).toNat / (r.denominator * Nat.pow 10 g.toNat)
  let above := below + 1
  match r.holds below g && below != 0, r.holds above g with
  | true, true =>
    let d := r.distance below g
    let u := r.distance above g
    if d < u || (d == u && below % 2 == 0) then some ⟨below, g⟩ else some ⟨above, g⟩
  | true, false => some ⟨below, g⟩
  | false, true => some ⟨above, g⟩
  | false, false => none

/-- Drop the zeros at the end of the digits. -/
def Scientific.stripZeros : Nat → Scientific → Scientific
  | 0, s => s
  | fuel + 1, s =>
    if s.digits % 10 == 0 && s.digits != 0 then
      stripZeros fuel ⟨s.digits / 10, s.exponent + 1⟩
    else s

/-- The first grid from `n` digits on that has a point in the interval. -/
def Rounding.firstGrid (r : Rounding) : (more : Nat) → (n : Nat) → Scientific
  | 0, n =>
    let g := r.leading - (n : Int) + 1
    ⟨r.value * Nat.pow 10 (-g).toNat / (r.denominator * Nat.pow 10 g.toNat), g⟩
  | more + 1, n => (r.onGrid? (r.leading - (n : Int) + 1)).getD (r.firstGrid more (n + 1))

/-- The shortest decimal in the interval.  Seventeen digits always suffice. -/
def Rounding.shortest (r : Rounding) : Scientific :=
  (r.firstGrid 17 1).stripZeros 20

/-- The leading bit of a significand, which is not stored: `2 ^ 52`. -/
def leadingBit : Nat := 0x10000000000000

/-- Significand and exponent of a finite binary64 number without its sign, from its bits, and
whether its lower neighbour is nearer than its upper one. -/
def unpack (bits : Nat) : Nat × Int × Bool :=
  let field : Nat := bits / leadingBit % 2048
  let fraction : Nat := bits % leadingBit
  if field == 0 then (fraction, -1074, false)
  else (leadingBit + fraction, Int.ofNat field - 1075, fraction == 0 && field != 1)

/-- The shortest decimal of a positive finite binary64 number, from its bits. -/
def shortest (bits : Nat) : Scientific :=
  let (m, q, finerBelow) := unpack bits
  (Rounding.ofBinary m q finerBelow).shortest

end FilterFleet.Decimal
