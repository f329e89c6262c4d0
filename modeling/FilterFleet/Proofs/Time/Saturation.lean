import FilterFleet.Proofs.Client.Lifetimes
import Mathlib.Data.Rat.Floor

/-!
# Timestamps at the end of their range

A timestamp that is moved forward stops at the largest one. It stops twice: first the milliseconds of
the span are cut to the largest number, and then the sum is. For a timestamp from the epoch on this is
the exact sum, cut once; a timestamp before the epoch that is moved by more than the largest number
comes out too early (`Timestamp.later_eq_iff`). Moving forward is monotone all the same
(`Timestamp.later_le_later`). What a clock shows is never before the epoch, so the end of a session is
computed exactly (`AuthStatus.validUntil_ofAnswer`).
-/

namespace FilterFleet

/-- The whole milliseconds of a span. -/
theorem Span.millis_eq_floor (d : Span) : (Span.millis d : ℤ) = ⌊(d : ℚ) / 1000000⌋ := by
  have hfloor := Rat.floor_natCast_div_natCast d 1000000
  rw [Span.millis]
  exact_mod_cast hfloor.symm

namespace Timestamp

theorem toInt_saturate (n : ℤ) :
    (saturate n).toInt = max Int64.minValue.toInt (min n Int64.maxValue.toInt) := by
  have hmin : Int64.minValue.toInt = -2 ^ 63 := Int64.toInt_minValue
  have hmax : Int64.maxValue.toInt = 2 ^ 63 - 1 := Int64.toInt_maxValue
  rw [saturate]
  split
  · next hlow => omega
  · next hlow =>
    split
    · next hhigh => omega
    · next hhigh =>
      rw [Int64.toInt_ofInt_of_le (by omega) (by omega)]
      omega

/-- Both the span and the sum are cut to the largest number. -/
theorem toInt_later (t : Timestamp) (d : Span) :
    (t.later d).millis.toInt =
      min (t.millis.toInt + min ⌊(d : ℚ) / 1000000⌋ Int64.maxValue.toInt)
        Int64.maxValue.toInt := by
  have hmin : Int64.minValue.toInt = -2 ^ 63 := Int64.toInt_minValue
  have hmax : Int64.maxValue.toInt = 2 ^ 63 - 1 := Int64.toInt_maxValue
  have ht : Int64.minValue.toInt ≤ t.millis.toInt := Int64.minValue_le_toInt t.millis
  rw [later, toInt_saturate, toInt_saturate, ← Span.millis_eq_floor]
  omega

/-- Cutting twice is cutting once, unless a timestamp before the epoch is moved by more than the
largest number. -/
theorem later_eq_iff (t : Timestamp) (d : Span) :
    (t.later d).millis.toInt =
        min (t.millis.toInt + ⌊(d : ℚ) / 1000000⌋) Int64.maxValue.toInt ↔
      0 ≤ t.millis.toInt ∨ ⌊(d : ℚ) / 1000000⌋ ≤ Int64.maxValue.toInt := by
  have hmin : Int64.minValue.toInt = -2 ^ 63 := Int64.toInt_minValue
  have hmax : Int64.maxValue.toInt = 2 ^ 63 - 1 := Int64.toInt_maxValue
  have ht : Int64.minValue.toInt ≤ t.millis.toInt := Int64.minValue_le_toInt t.millis
  rw [toInt_later]
  omega

/-- A later timestamp that is moved further comes out no earlier. -/
theorem later_le_later {t t' : Timestamp} {d d' : Span} (ht : t.millis ≤ t'.millis) (hd : d ≤ d') :
    (t.later d).millis ≤ (t'.later d').millis := by
  have hmillis : (Span.millis d : ℤ) ≤ Span.millis d' :=
    Int.ofNat_le.mpr (Nat.div_le_div_right hd)
  rw [Int64.le_iff_toInt_le] at ht ⊢
  rw [toInt_later, toInt_later, ← Span.millis_eq_floor, ← Span.millis_eq_floor]
  omega

/-- What a clock shows: the time since the epoch, or the epoch if the clock stands before it. -/
def ofClock (sinceEpoch : Option Span) : Timestamp :=
  ⟨saturate (Span.millis (sinceEpoch.getD 0))⟩

theorem ofClock_nonneg (sinceEpoch : Option Span) : 0 ≤ (ofClock sinceEpoch).millis.toInt := by
  have hmax : Int64.maxValue.toInt = 2 ^ 63 - 1 := Int64.toInt_maxValue
  have hpos : (0 : ℤ) ≤ Span.millis (sinceEpoch.getD 0) := Int.natCast_nonneg _
  rw [ofClock, toInt_saturate]
  omega

end Timestamp

namespace AuthStatus

theorem secondsLeft_eq (s : SessionInfo) : (s.secondsLeft : ℤ) = max s.validity.toInt 0 :=
  Int.toNat_eq_max s.validity.toInt

/-- The remaining seconds are those of the answer, none when it is negative. -/
theorem validitySeconds_ofAnswer (now : Timestamp) (answer : AuthAnswer) :
    (ofAnswer now answer).validitySeconds.toInt = max answer.session.validity.toInt 0 := by
  have hleft := secondsLeft_eq answer.session
  have hlt : answer.session.validity.toInt < 2 ^ 63 := Int64.toInt_lt answer.session.validity
  show (Int64.ofNat answer.session.secondsLeft).toInt = _
  rw [Int64.toInt_ofNat_of_lt (by omega), hleft]

/-- The end of a session that a clock sees is the exact one, as long as there is a timestamp for
it. -/
theorem validUntil_ofAnswer (clock : Option Span) (answer : AuthAnswer) :
    (ofAnswer (.ofClock clock) answer).validUntil.millis.toInt =
      min ((Timestamp.ofClock clock).millis.toInt + 1000 * max answer.session.validity.toInt 0)
        Int64.maxValue.toInt := by
  have hmillis : ⌊(Span.ofSecs answer.session.secondsLeft : ℚ) / 1000000⌋ =
      1000 * max answer.session.validity.toInt 0 := by
    rw [← Span.millis_eq_floor, ← secondsLeft_eq, Span.millis, Span.ofSecs]
    omega
  show ((Timestamp.ofClock clock).later (Span.ofSecs answer.session.secondsLeft)).millis.toInt = _
  rw [(Timestamp.later_eq_iff _ _).mpr (.inl (Timestamp.ofClock_nonneg clock)), hmillis]

end AuthStatus

namespace Timestamp

/-- **Moving a timestamp forward is exact from the epoch on.** A timestamp that is moved forward is
the sum, cut to the largest number after the span is. That is the exact sum, cut once, unless the
timestamp lies before the epoch and the span is longer than the largest number. It is monotone in
both. A session that a node reports, whatever it says, lasts for the seconds reported, none if they
are negative; they fit into 64 bits; and it ends at the exact sum with what the clock shows, cut
once. -/
theorem moves_forward_exactly (t : Timestamp) (d : Span) (clock : Option Span)
    (answer : AuthAnswer) :
    (t.later d).millis.toInt =
        min (t.millis.toInt + min ⌊(d : ℚ) / 1000000⌋ Int64.maxValue.toInt)
          Int64.maxValue.toInt ∧
      ((t.later d).millis.toInt =
          min (t.millis.toInt + ⌊(d : ℚ) / 1000000⌋) Int64.maxValue.toInt ↔
        0 ≤ t.millis.toInt ∨ ⌊(d : ℚ) / 1000000⌋ ≤ Int64.maxValue.toInt) ∧
      (∀ (t' : Timestamp) (d' : Span), t.millis ≤ t'.millis → d ≤ d' →
        (t.later d).millis ≤ (t'.later d').millis) ∧
      let status := AuthStatus.ofAnswer (ofClock clock) answer
      status.validitySeconds.toInt = max answer.session.validity.toInt 0 ∧
        answer.session.secondsLeft < UInt64.size ∧
        status.validUntil.millis.toInt =
          min ((ofClock clock).millis.toInt + 1000 * status.validitySeconds.toInt)
            Int64.maxValue.toInt := by
  have hseconds := AuthStatus.validitySeconds_ofAnswer (ofClock clock) answer
  refine ⟨t.toInt_later d, t.later_eq_iff d, fun t' d' ht hd => later_le_later ht hd, hseconds,
    answer.session.secondsLeft_lt, ?_⟩
  rw [hseconds]
  exact AuthStatus.validUntil_ofAnswer clock answer

/-- A millisecond before the epoch, moved by one more than the largest number, is the largest
timestamp, but comes out one less. -/
theorem later_falls_short :
    let t : Timestamp := ⟨-1⟩
    let d := Span.ofMillis (2 ^ 63)
    d < Span.ofSecs UInt64.size ∧ t.millis.toInt + ⌊(d : ℚ) / 1000000⌋ = Int64.maxValue.toInt ∧
      (t.later d).millis.toInt = Int64.maxValue.toInt - 1 := by
  intro t d
  refine ⟨by decide, ?_, by decide⟩
  rw [← Span.millis_eq_floor]
  decide

end Timestamp

end FilterFleet
