import FilterFleet.Proofs.Health.Trail

/-!
# When the nodes are swept

Besides the first sweep, the loop starts one at once when somebody comes while nobody is polled for,
and one whenever its tick is due while the monitor is active or draining. A tick is due after the
interval, give or take a fifth of it, counted from the end of the loop's last sweep, and nothing
moves it while the loop waits. `Trail.sweeps_exact` says so of every run.
-/

namespace FilterFleet

namespace HealthLoop.Woken

variable {grace : Span} {phase : MonitorPhase} {subscribers : Nat} {now tick tick' : Instant}
  {graceEnd graceEnd' : Option Instant} {w : HealthWake} {next : HealthLoop × MonitorPhase}

/-- What wakes the loop does not move its tick. -/
theorem tick_eq (h : Woken grace phase subscribers now tick graceEnd w next)
    (hnext : next.1 = waiting tick' graceEnd') : tick' = tick := by
  cases h with
  | stopped | opened | reopenedDue | due => simp at hnext
  | resumed | closed | deserted | unmoved | expired | reopened | early =>
    exact (waiting.inj hnext).1.symm

/-- The first sweep is not made again. -/
theorem ne_warmingUp (h : Woken grace phase subscribers now tick graceEnd w next) :
    next.1 ≠ warmingUp := by
  cases h <;> simp

/-- A loop begins to sweep when somebody comes while nobody is polled for, or when its tick is due. -/
theorem of_isSweeping (h : Woken grace phase subscribers now tick graceEnd w next)
    (hnext : next.1.isSweeping = true) :
    (phase = .idle ∧ next.2 = .active) ∨
      (w = .timer ∧ tick ≤ now ∧ (next.2 = phase ∨ next.2 = .active)) := by
  cases h with
  | opened hidle => exact .inl ⟨hidle, rfl⟩
  | stopped | resumed | closed | deserted | unmoved | expired | reopened | early =>
    simp [isSweeping] at hnext
  | reopenedDue hend hover hsome hdue => exact .inr ⟨rfl, hdue, .inr rfl⟩
  | due hnot hdue => exact .inr ⟨rfl, hdue, .inl rfl⟩

/-- The timer starts a sweep that is due, unless the grace period is over and nobody is there. -/
theorem isSweeping_of_due (h : Woken grace phase subscribers now tick graceEnd .timer next)
    (hdue : tick ≤ now) (hnobody : subscribers = 0 → ∀ g, graceEnd = some g → now < g) :
    next.1.isSweeping = true := by
  cases h with
  | expired hend hover hzero => exact absurd hover (Nat.not_le.mpr (hnobody hzero _ hend))
  | reopened _ _ _ hearly | early _ hearly => exact absurd hdue (Nat.not_le.mpr hearly)
  | reopenedDue | due => rfl

/-- A monitor that was idle becomes active only with a sweep. -/
theorem sweeping_of_opened (h : Woken grace phase subscribers now tick graceEnd w next)
    (hidle : phase = .idle) (htimer : w ≠ .timer) (hactive : next.2 = .active) :
    next.1.isSweeping = true := by
  subst hidle
  cases h with
  | opened => rfl
  | resumed hphase | closed hphase | deserted hphase => simp at hphase
  | stopped | unmoved => simp at hactive
  | expired | reopened | reopenedDue | early | due => exact absurd rfl htimer

/-- Somebody who comes while the monitor drains leaves the tick as it is. A sweep is started only
when the tick is due. -/
theorem resumed_cases (h : Woken grace phase subscribers now tick graceEnd w next)
    (hdraining : phase = .draining) (hactive : next.2 = .active) :
    next.1 = waiting tick none ∨ tick ≤ now ∧ next.1 = sweeping none := by
  subst hdraining
  cases h with
  | resumed | reopened => exact .inl rfl
  | reopenedDue hend hover hsome hdue => exact .inr ⟨hdue, rfl⟩
  | opened hphase | closed hphase | deserted hphase => simp at hphase
  | stopped | unmoved | expired | early | due => simp at hactive

end HealthLoop.Woken

namespace Polling

/-- The time from one sweep to the next is the interval, give or take a fifth of it. -/
def Move.IsJittered (interval : Span) : Move → Prop
  | .landed _ _ period => 4 * interval ≤ 5 * period ∧ 5 * period ≤ 6 * interval
  | _ => True

end Polling

namespace Trail

open Polling (Move)

variable {p q r : Polling} {past : Trail} {m : Move} {interval : Span}

/-- The tick comes after the interval, give or take a fifth of it, after the end of a sweep. -/
structure TickAfter (interval : Span) (swept tick : Instant) : Prop where
  early : 5 * swept + 4 * interval ≤ 5 * tick
  late : 5 * tick ≤ 5 * swept + 6 * interval

/-- What the tick of a loop has to do with its trail. -/
structure Scheduled (interval : Span) (p : Polling) (past : Trail) : Prop where
  attuned : p.IsAttuned
  same : p.interval = interval
  tick : ∀ tick graceEnd, p.loop = .waiting tick graceEnd →
    ∃ swept, sweptAt? (p :: past) = some swept ∧ TickAfter interval swept tick

theorem scheduled_of_starting (h : p.Starting) : Scheduled p.interval p [] where
  attuned := h.isAttuned
  same := rfl
  tick tick graceEnd hloop := by simp [h.warmingUp] at hloop

/-- **Every move keeps the tick.** Only at the end of a sweep the loop gets a new one. -/
theorem Scheduled.step (h : Scheduled interval p past) (hm : m.IsJittered interval)
    (hstep : p.step? m = some q) : Scheduled interval q (p :: past) where
  attuned := h.attuned.step hstep
  same := (Polling.interval_step hstep).trans h.same
  tick tick graceEnd hloop := by
    rcases Polling.step?_cases hstep with haside |
      ⟨w, tickBefore, endBefore, next, rfl, -, hbefore, hwoken, hon⟩ |
      ⟨results, stamp, period, rfl, hsweeping, hon⟩
    · have hbefore : p.loop = .waiting tick graceEnd := haside.loop.symm.trans hloop
      obtain ⟨swept, hswept, hafter⟩ := h.tick tick graceEnd hbefore
      refine ⟨swept, ?_, hafter⟩
      rw [sweptAt?_of_not_landed (.inl (by rw [hbefore]; rfl)), hswept]
    · obtain rfl : tick = tickBefore := hwoken.tick_eq (hon.loop.symm.trans hloop)
      obtain ⟨swept, hswept, hafter⟩ := h.tick tick endBefore hbefore
      refine ⟨swept, ?_, hafter⟩
      rw [sweptAt?_of_not_landed (.inl (by rw [hbefore]; rfl)), hswept]
    · obtain ⟨hearly, hlate⟩ : 4 * interval ≤ 5 * period ∧ 5 * period ≤ 6 * interval := hm
      have htick : tick = q.now + period := by
        have hnext := hon.loop.symm.trans hloop
        rw [hon.now]
        rcases HealthLoop.afterSweep_cases hsweeping period with ⟨-, heq⟩ | ⟨_, -, heq⟩ <;>
          (rw [heq] at hnext; exact (HealthLoop.waiting.inj hnext).1.symm)
      refine ⟨q.now, sweptAt?_of_landed hsweeping (by rw [hloop]; rfl), ?_, ?_⟩
      · rw [htick, Nat.mul_add]
        exact Nat.add_le_add_left hearly _
      · rw [htick, Nat.mul_add]
        exact Nat.add_le_add_left hlate _

/-- What a whole run preserves. -/
theorem Scheduled.run {moves : List Move} (hp : p.Starting)
    (hmoves : ∀ m ∈ moves, m.IsJittered p.interval)
    (hrun : run? p moves = some (q :: past)) : Scheduled p.interval q past :=
  run?_induction (scheduled_of_starting hp) (fun _ _ _ _ hq hm hr => hq.step hm hr) hmoves hrun

/-! ## What starts a sweep -/

/-- What a move from `q` to `r` may do to the sweeps of the loop. -/
structure SweepRules (q : Polling) (past : Trail) (r : Polling) : Prop where
  /-- A sweep starts at once when an idle monitor becomes active, or while the monitor is active or
  draining, and then not before four fifths of the interval since the last sweep. -/
  starts : q.loop.isSweeping = false → r.loop.isSweeping = true →
    (q.phase = .idle ∧ r.phase = .active) ∨
    (q.phase ≠ .idle ∧ r.phase ≠ .idle ∧ ∃ swept, sweptAt? (q :: past) = some swept ∧
      5 * swept + 4 * q.interval ≤ 5 * r.now)
  /-- Past the first sweep, no idle monitor becomes active without a sweep. -/
  opens : q.loop.isOn = true → q.phase = .idle → r.phase = .active →
    q.loop.isSweeping = false ∧ r.loop.isSweeping = true
  /-- Nothing else is done before a sweep is done. -/
  single : q.loop.isSweeping = true → (r.loop = q.loop ∧ r.phase = q.phase) ∨
    ∃ tick graceEnd, r.loop = .waiting tick graceEnd
  /-- The first sweep is not made again. -/
  first : r.loop = .warmingUp → q.loop = .warmingUp
  /-- After the shutdown nothing is done. -/
  stays : q.loop = .stopped → r.loop = .stopped
  /-- A waiting loop keeps its tick. -/
  keeps : ∀ tick tick' graceEnd graceEnd', q.loop = .waiting tick graceEnd →
    r.loop = .waiting tick' graceEnd' → tick' = tick
  /-- A monitor that drained and is active again keeps its tick, unless it is due. -/
  resumes : q.phase = .draining → r.phase = .active → ∃ tick graceEnd,
    q.loop = .waiting tick graceEnd ∧
      (r.loop = .waiting tick none ∨ tick ≤ q.now ∧ r.loop = .sweeping none)

/-- A move that leaves the loop alone follows the rules. -/
theorem sweepRules_of_aside (h : q.Aside r) : SweepRules q past r where
  starts hbefore hafter := by
    rw [h.loop, hbefore] at hafter
    exact absurd hafter (by decide)
  opens _ hidle hactive := by
    rw [h.phase, hidle] at hactive
    exact absurd hactive (by decide)
  single _ := .inl ⟨h.loop, h.phase⟩
  first hafter := h.loop.symm.trans hafter
  stays hstopped := h.loop.trans hstopped
  keeps tick tick' graceEnd graceEnd' hbefore hafter := by
    rw [h.loop, hbefore] at hafter
    exact (HealthLoop.waiting.inj hafter).1.symm
  resumes hdraining hactive := by
    rw [h.phase, hdraining] at hactive
    exact absurd hactive (by decide)

/-- Waking the loop follows the rules. -/
theorem sweepRules_of_woken {tick : Instant} {graceEnd : Option Instant} {w : HealthWake}
    {next : HealthLoop × MonitorPhase} (h : Scheduled interval q past) (hready : q.isReady w = true)
    (hloop : q.loop = .waiting tick graceEnd)
    (hwoken : HealthLoop.Woken q.grace q.phase q.subscribers q.now tick graceEnd w next)
    (hon : q.GoesOn next r) : SweepRules q past r where
  starts _ hafter := by
    rw [hon.loop] at hafter
    rcases hwoken.of_isSweeping hafter with ⟨hidle, hactive⟩ | ⟨rfl, hdue, hphase⟩
    · exact .inl ⟨hidle, hon.phase.trans hactive⟩
    · obtain ⟨swept, hswept, htick⟩ := h.tick tick graceEnd hloop
      have hbefore : q.phase ≠ .idle := HealthLoop.ne_idle_of_isReady_timer hready
      have hthen : r.phase ≠ .idle := by
        rw [hon.phase]
        rcases hphase with hsame | hactive
        · rw [hsame]
          exact hbefore
        · simp [hactive]
      refine .inr ⟨hbefore, hthen, swept, hswept, ?_⟩
      rw [h.same, hon.now]
      exact Nat.le_trans htick.early (Nat.mul_le_mul_left 5 hdue)
  opens _ hidle hactive := by
    have htimer : w ≠ .timer := by
      rintro rfl
      exact HealthLoop.ne_idle_of_isReady_timer hready hidle
    rw [hloop, hon.loop]
    exact ⟨rfl, hwoken.sweeping_of_opened hidle htimer (hon.phase.symm.trans hactive)⟩
  single hsweeping := by
    simp [hloop, HealthLoop.isSweeping] at hsweeping
  first hafter := absurd (hon.loop.symm.trans hafter) hwoken.ne_warmingUp
  stays hstopped := nomatch hloop.symm.trans hstopped
  keeps tick₀ tick' graceEnd₀ graceEnd' hbefore hafter := by
    obtain ⟨rfl, rfl⟩ := HealthLoop.waiting.inj (hloop.symm.trans hbefore)
    exact hwoken.tick_eq (hon.loop.symm.trans hafter)
  resumes hdraining hactive := by
    refine ⟨tick, graceEnd, hloop, ?_⟩
    rw [hon.loop]
    exact hwoken.resumed_cases hdraining (hon.phase.symm.trans hactive)

/-- The end of a sweep follows the rules. -/
theorem sweepRules_of_landed {period : Span} (h : Scheduled interval q past)
    (hsweeping : q.loop.isSweeping = true)
    (hon : q.GoesOn (q.loop.afterSweep q.phase q.subscribers q.now period) r) :
    SweepRules q past r := by
  obtain ⟨tick, graceEnd, hthen⟩ : ∃ tick graceEnd, r.loop = .waiting tick graceEnd := by
    rw [hon.loop]
    rcases HealthLoop.afterSweep_cases hsweeping period with ⟨-, heq⟩ | ⟨graceEnd, -, heq⟩
    · exact ⟨_, none, by rw [heq]⟩
    · exact ⟨_, graceEnd, by rw [heq]⟩
  have hphase : q.loop = .warmingUp ∧ q.phase = .idle ∨ r.phase = q.phase := by
    rw [hon.phase]
    rcases HealthLoop.afterSweep_cases hsweeping period with ⟨hloop, -⟩ | ⟨graceEnd, -, heq⟩
    · exact .inl ⟨hloop, h.attuned.off (by rw [hloop]; rfl)⟩
    · exact .inr (by rw [heq])
  constructor
  case starts =>
    intro hbefore
    simp [hsweeping] at hbefore
  case opens =>
    intro hon hidle hactive
    rcases hphase with ⟨hloop, -⟩ | hsame
    · rw [hloop] at hon
      exact absurd hon (by decide)
    · rw [hsame, hidle] at hactive
      exact absurd hactive (by decide)
  case single => exact fun _ => .inr ⟨tick, graceEnd, hthen⟩
  case first =>
    intro hafter
    simp [hthen] at hafter
  case stays =>
    intro hstopped
    simp [hstopped, HealthLoop.isSweeping] at hsweeping
  case keeps =>
    intro tick₀ tick' graceEnd₀ graceEnd' hbefore
    simp [hbefore, HealthLoop.isSweeping] at hsweeping
  case resumes =>
    intro hdraining hactive
    rcases hphase with ⟨-, hidle⟩ | hsame
    · simp [hidle] at hdraining
    · rw [hsame, hdraining] at hactive
      exact absurd hactive (by decide)

/-- When the sweeps of a loop in the state `q` start. -/
structure SweepsExact (q : Polling) (past : Trail) : Prop where
  /-- The next sweep is due after the interval, give or take a fifth of it, since the last one. -/
  tick : ∀ tick graceEnd, q.loop = .waiting tick graceEnd →
    ∃ swept, sweptAt? (q :: past) = some swept ∧ TickAfter q.interval swept tick
  /-- When it is due, the timer starts it, unless the monitor is idle or the grace period is over and
  nobody is there. -/
  due : ∀ tick graceEnd, q.loop = .waiting tick graceEnd → q.phase ≠ .idle → tick ≤ q.now →
    (q.subscribers = 0 → ∀ g, graceEnd = some g → q.now < g) →
    ∃ r, q.step? (.woken .timer) = some r ∧ r.loop.isSweeping = true
  rules : ∀ m r, q.step? m = some r → SweepRules q past r

/-- A tick that is due wakes a loop that polls. -/
theorem isReady_of_due {tick : Instant} {graceEnd : Option Instant} (h : q.IsAttuned)
    (hloop : q.loop = .waiting tick graceEnd) (hphase : q.phase ≠ .idle) (hdue : tick ≤ q.now) :
    q.isReady .timer = true := by
  unfold Polling.isReady
  rw [hloop]
  cases hcase : q.phase with
  | idle => exact absurd hcase hphase
  | active => simpa [HealthLoop.isReady, HealthLoop.timer?] using hdue
  | draining =>
    have hrunning : q.loop.graceEnd?.isSome = true := h.draining.mp hcase
    rw [hloop] at hrunning
    obtain ⟨g, rfl⟩ := Option.isSome_iff_exists.mp hrunning
    have hmin : min tick g ≤ q.now := Nat.le_trans (Nat.min_le_left _ _) hdue
    simpa [HealthLoop.isReady, HealthLoop.timer?] using hmin

/-- **Sweeps start exactly when they should.** In every run of the loop whose ticks are spread by at
most a fifth of the interval, a sweep starts only as the rules say, and it does start when it is
due. -/
theorem sweeps_exact {moves : List Move} (hp : p.Starting)
    (hmoves : ∀ m ∈ moves, m.IsJittered p.interval)
    (hrun : run? p moves = some (q :: past)) : SweepsExact q past := by
  have h : Scheduled p.interval q past := .run hp hmoves hrun
  constructor
  case tick =>
    rw [h.same]
    exact h.tick
  case due =>
    intro tick graceEnd hloop hphase hdue hnobody
    have hready : q.isReady .timer = true := isReady_of_due h.attuned hloop hphase hdue
    refine ⟨_, if_pos hready, ?_⟩
    show (q.loop.wake q.grace q.phase q.subscribers q.now .timer).1.isSweeping = true
    rw [hloop]
    exact (HealthLoop.woken_wake .timer).isSweeping_of_due hdue hnobody
  case rules =>
    intro m r hstep
    rcases Polling.step?_cases hstep with haside |
      ⟨w, tick, graceEnd, next, -, hready, hloop, hwoken, hon⟩ |
      ⟨results, stamp, period, -, hsweeping, hon⟩
    · exact sweepRules_of_aside haside
    · exact sweepRules_of_woken h hready hloop hwoken hon
    · exact sweepRules_of_landed h hsweeping hon

/-- Somebody comes after the first sweep and stays until the tick is due. -/
def stay : List Move :=
  [.landed .empty ⟨0⟩ (Span.ofSecs 6), .called (.subscribe [nodeHealthTopic]), .woken .change,
    .landed .empty ⟨0⟩ (Span.ofSecs 4), .passed (Span.ofSecs 4)]

/-- Four fifths of an interval after the sweep with which the monitor became active, the next one is
due. -/
theorem sweeps_exact_of_stay :
    ∃ q past, Polling.alone.Starting ∧ (∀ m ∈ stay, m.IsJittered Polling.alone.interval) ∧
      run? Polling.alone stay = some (q :: past) ∧ q.loop = .waiting (Span.ofSecs 4) none ∧
      q.now = Span.ofSecs 4 ∧ SweepsExact q past := by
  have hstarting : Polling.alone.Starting := ⟨rfl, rfl⟩
  have hmoves : ∀ m ∈ stay, m.IsJittered Polling.alone.interval := by
    simp [stay, Move.IsJittered]
    decide
  have hview : (run? Polling.alone stay).map
      (fun trail => (trail.take 2).map fun p => (p.loop, p.now)) =
        some [(.waiting (Span.ofSecs 4) none, Span.ofSecs 4),
          (.waiting (Span.ofSecs 4) none, 0)] := rfl
  obtain ⟨q, before, past, hrun, hq, -⟩ := exists_last_of_view hview
  obtain ⟨hloop, hnow⟩ := Prod.mk.inj hq
  exact ⟨q, before :: past, hstarting, hmoves, hrun, hloop, hnow,
    sweeps_exact hstarting hmoves hrun⟩

end Trail

end FilterFleet
