/-! # Lengths of time and points in time

Both are counted in nanoseconds: a span has a length, and an instant is the span since the clock
started.
-/

namespace FilterFleet

/-- A length of time, in nanoseconds. -/
abbrev Span := Nat

/-- A point in time, in nanoseconds since the clock started. -/
abbrev Instant := Nat

namespace Span

/-- So many seconds. -/
def ofSecs (n : Nat) : Span := n * 1000000000

/-- So many milliseconds. -/
def ofMillis (n : Nat) : Span := n * 1000000

/-- The whole seconds of a span. -/
def secs (d : Span) : Nat := d / 1000000000

/-- The whole milliseconds of a span. -/
def millis (d : Span) : Nat := d / 1000000

/-- The digits after the point of `rest / 10 ^ width`, without zeros at the end. -/
def fractionText (rest width : Nat) : String :=
  let ds := Nat.toDigits 10 rest
  let padded := List.replicate (width - ds.length) '0' ++ ds
  let shown := (padded.reverse.dropWhile (· == '0')).reverse
  if shown.isEmpty then "" else "." ++ String.ofList shown

/-- A span in the largest of the units s, ms, µs and ns of which it holds at least one. -/
def text (d : Span) : String :=
  if 1000000000 ≤ d then toString (d / 1000000000) ++ fractionText (d % 1000000000) 9 ++ "s"
  else if 1000000 ≤ d then toString (d / 1000000) ++ fractionText (d % 1000000) 6 ++ "ms"
  else if 1000 ≤ d then toString (d / 1000) ++ fractionText (d % 1000) 3 ++ "µs"
  else toString d ++ "ns"

/-! ## Spreading a period -/

/-- The seconds of a span as a binary64 number. -/
def toFloatSecs (d : Span) : Float :=
  (UInt64.ofNat (d / 1000000000)).toFloat + (UInt64.ofNat (d % 1000000000)).toFloat / 1000000000.0

/-- The span of a number of seconds, rounded to the nearest nanosecond, a half to the even one.
Whole seconds are counted in 64 bits, so that there is no span from `2 ^ 64` seconds on. -/
def ofFloatSecs? (x : Float) : Option Span :=
  let whole := x.floor
  let rest := (x - whole) * 1000000000.0
  let down := rest.floor
  let part := rest - down
  let up := part > 0.5 || (part == 0.5 && down.toUInt64 % 2 == 1)
  if whole < 18446744073709551616.0 then
    some (whole.toUInt64.toNat * 1000000000 + down.toUInt64.toNat + (if up then 1 else 0))
  else none

/-- The fraction by which a period may be spread lies between zero and one. -/
def clampFraction (fraction : Float) : Float :=
  if fraction < 0.0 then 0.0 else if 1.0 < fraction then 1.0 else fraction

/-- A period spread by a fraction to both sides.  `draw`, between zero and one, says where in the
range the result lies; a period of zero and a fraction of zero leave no range, and a result that is
too long is refused. -/
def spread? (period : Span) (fraction draw : Float) : Option Span :=
  let fraction := clampFraction fraction
  if period == 0 || fraction == 0.0 then some period
  else
    let least := 1.0 - fraction
    let factor := least + (1.0 + fraction - least) * draw
    ofFloatSecs? (factor * toFloatSecs period)

end Span

end FilterFleet
