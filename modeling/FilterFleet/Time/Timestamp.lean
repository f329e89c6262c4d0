import FilterFleet.Time.Span
import FilterFleet.Json.Record

/-! # Timestamps

A timestamp is a count of milliseconds since the epoch, in 64 bits with sign.  Moving one forward
stops at the largest.
-/

namespace FilterFleet

/-- Milliseconds since the epoch. -/
structure Timestamp where
  millis : Int64
deriving DecidableEq, Repr, Inhabited

namespace Timestamp

/-- The 64-bit number nearest to `n`. -/
def saturate (n : Int) : Int64 :=
  if n < Int64.minValue.toInt then Int64.minValue
  else if Int64.maxValue.toInt < n then Int64.maxValue
  else Int64.ofInt n

/-- The whole seconds, rounded towards zero. -/
def secs (t : Timestamp) : Int64 := Int64.ofInt (t.millis.toInt.tdiv 1000)

/-- The timestamp `d` later, at most the largest. -/
def later (t : Timestamp) (d : Span) : Timestamp :=
  ⟨saturate (t.millis.toInt + (saturate (Span.millis d)).toInt)⟩

/-- A timestamp is written as its number. -/
def toJson (t : Timestamp) : Json := Json.ofInt64 t.millis

/-- A timestamp is read from its number. -/
def ofJson? (v : Json) : Option Timestamp := v.int64?.map Timestamp.mk

end Timestamp

end FilterFleet
