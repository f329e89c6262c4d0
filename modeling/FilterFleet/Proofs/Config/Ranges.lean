import FilterFleet.Config.Basic
import FilterFleet.Proofs.Results

/-!
# The ranges of accepted settings

A configuration is accepted iff its level is known, its numbers are in their ranges and its nodes
are accepted (`FleetConfig.validate_eq_ok_iff`). Every length of time that an accepted configuration
gives is at most a week, and those that pace something are not zero.
-/

namespace FilterFleet

/-! ## Checks -/

theorem checkPositive_eq_ok_iff {field : String} {n : Nat} :
    checkPositive field n = .ok () ↔ 0 < n := by
  unfold checkPositive fault
  split
  · next h => simp [h]
  · next h => simpa using Nat.pos_of_ne_zero h

theorem checkUpperBound_eq_ok_iff {field : String} {secs : Nat} :
    checkUpperBound field secs = .ok () ↔ secs ≤ maxDurationSecs := by
  unfold checkUpperBound fault
  split
  · next h => simp [Nat.not_le.mpr h]
  · next h => simpa using Nat.le_of_not_lt h

/-- Numbers below a bound are refused before the further checks are made. -/
theorem atLeast_eq_ok_iff {field reason : String} {n bound : Nat} {rest : Except FleetError Unit} :
    (if n < bound then (do fault field reason; rest) else rest) = .ok () ↔
      bound ≤ n ∧ rest = .ok () := by
  split
  · next h => exact ⟨nofun, fun hboth => absurd hboth.1 (Nat.not_le.mpr h)⟩
  · next h => simp [Nat.le_of_not_lt h]

/-- Seconds that are not zero are a length of time that is not zero. -/
theorem ofSecs_ne_zero {secs : Nat} (h : 0 < secs) : Span.ofSecs secs ≠ 0 :=
  Nat.ne_of_gt (Nat.mul_pos h (by decide))

/-! ## Sections -/

theorem CallSettings.validate_eq_ok_iff (s : CallSettings) : s.validate = .ok () ↔
    0 < s.requestTimeoutSecs ∧ 0 < s.sessionTtlSecs ∧
      s.requestTimeoutSecs ≤ maxDurationSecs ∧ s.sessionTtlSecs ≤ maxDurationSecs := by
  simp only [validate, bind_eq_ok_iff, checkPositive_eq_ok_iff, checkUpperBound_eq_ok_iff]

theorem CursorSettings.validate_eq_ok_iff (s : CursorSettings) : s.validate = .ok () ↔
    0 < s.ttlSecs ∧ 0 < s.reapIntervalSecs ∧
      s.ttlSecs ≤ maxDurationSecs ∧ s.reapIntervalSecs ≤ maxDurationSecs := by
  simp only [validate, bind_eq_ok_iff, checkPositive_eq_ok_iff, checkUpperBound_eq_ok_iff]

theorem HealthSettings.validate_eq_ok_iff (s : HealthSettings) : s.validate = .ok () ↔
    1 ≤ s.pollingIntervalSecs ∧ s.pollingIntervalSecs ≤ maxDurationSecs ∧
      s.gracePeriodSecs ≤ maxDurationSecs := by
  simp only [validate, atLeast_eq_ok_iff, bind_eq_ok_iff, checkUpperBound_eq_ok_iff]

theorem EventSettings.validate_eq_ok_iff (s : EventSettings) : s.validate = .ok () ↔
    5 ≤ s.heartbeatSecs ∧ 0 < s.channelCapacity ∧ s.heartbeatSecs ≤ maxDurationSecs := by
  simp only [validate, atLeast_eq_ok_iff, bind_eq_ok_iff, checkPositive_eq_ok_iff,
    checkUpperBound_eq_ok_iff]

/-- The numbers of a configuration are in their ranges. -/
structure FleetConfig.InRange (c : FleetConfig) : Prop where
  requestTimeout : 0 < c.calls.requestTimeoutSecs ∧ c.calls.requestTimeoutSecs ≤ maxDurationSecs
  sessionTtl : 0 < c.calls.sessionTtlSecs ∧ c.calls.sessionTtlSecs ≤ maxDurationSecs
  cursorTtl : 0 < c.cursors.ttlSecs ∧ c.cursors.ttlSecs ≤ maxDurationSecs
  reapInterval : 0 < c.cursors.reapIntervalSecs ∧ c.cursors.reapIntervalSecs ≤ maxDurationSecs
  pollingInterval :
    1 ≤ c.health.pollingIntervalSecs ∧ c.health.pollingIntervalSecs ≤ maxDurationSecs
  gracePeriod : c.health.gracePeriodSecs ≤ maxDurationSecs
  heartbeat : 5 ≤ c.events.heartbeatSecs ∧ c.events.heartbeatSecs ≤ maxDurationSecs
  channelCapacity : 0 < c.events.channelCapacity

theorem FleetConfig.validate_eq_ok_iff (c : FleetConfig) : c.validate = .ok () ↔
    c.logging.validate = .ok () ∧ c.InRange ∧ validateNodes c.nodes = .ok () := by
  simp only [validate, bind_eq_ok_iff, CallSettings.validate_eq_ok_iff,
    CursorSettings.validate_eq_ok_iff, HealthSettings.validate_eq_ok_iff,
    EventSettings.validate_eq_ok_iff]
  constructor
  · rintro ⟨hlogging, hcalls, hcursors, hhealth, hevents, hnodes⟩
    exact ⟨hlogging, ⟨⟨hcalls.1, hcalls.2.2.1⟩, ⟨hcalls.2.1, hcalls.2.2.2⟩,
      ⟨hcursors.1, hcursors.2.2.1⟩, ⟨hcursors.2.1, hcursors.2.2.2⟩, ⟨hhealth.1, hhealth.2.1⟩,
      hhealth.2.2, ⟨hevents.1, hevents.2.2⟩, hevents.2.1⟩, hnodes⟩
  · rintro ⟨hlogging, h, hnodes⟩
    exact ⟨hlogging, ⟨h.requestTimeout.1, h.sessionTtl.1, h.requestTimeout.2, h.sessionTtl.2⟩,
      ⟨h.cursorTtl.1, h.reapInterval.1, h.cursorTtl.2, h.reapInterval.2⟩,
      ⟨h.pollingInterval.1, h.pollingInterval.2, h.gracePeriod⟩,
      ⟨h.heartbeat.1, h.channelCapacity, h.heartbeat.2⟩, hnodes⟩

end FilterFleet
