import FilterFleet.Proofs.Health.Polling

/-!
# Trails of a polling loop

A move of a `Polling` leaves the loop alone, wakes it or ends its sweep (`Polling.step?_cases`), and
`HealthLoop.Woken` says all the ways in which a waiting loop goes on when it is woken. The `Trail` of
a run lists the states that it has been through, latest first, and tells what the loop itself does
not keep: since when there has been nobody to poll for, since when the monitor has been draining
(`Trail.since?`), and when the loop was done with its last sweep (`Trail.sweptAt?`).
-/

namespace FilterFleet

namespace HealthLoop

/-! ## How a waiting loop goes on -/

/-- The ways in which a loop goes on that waits for `tick` and for the end of the grace period. -/
inductive Woken (grace : Span) (phase : MonitorPhase) (subscribers : Nat) (now tick : Instant)
    (graceEnd : Option Instant) : HealthWake → HealthLoop × MonitorPhase → Prop where
  | stopped : Woken grace phase subscribers now tick graceEnd .shutdown (.stopped, .idle)
  /-- Somebody came while nobody was polled for. -/
  | opened (hphase : phase = .idle) (hsome : 0 < subscribers) :
    Woken grace phase subscribers now tick graceEnd .change (sweeping graceEnd, .active)
  /-- Somebody came during the grace period. -/
  | resumed (hphase : phase = .draining) (hsome : 0 < subscribers) :
    Woken grace phase subscribers now tick graceEnd .change (waiting tick none, .active)
  /-- Nobody is left, and there is no grace period. -/
  | closed (hphase : phase = .active) (hnobody : subscribers = 0) (hgrace : grace = 0) :
    Woken grace phase subscribers now tick graceEnd .change (waiting tick graceEnd, .idle)
  /-- Nobody is left, and the grace period begins. -/
  | deserted (hphase : phase = .active) (hnobody : subscribers = 0) (hgrace : grace ≠ 0) :
    Woken grace phase subscribers now tick graceEnd .change
      (waiting tick (some (now + grace)), .draining)
  /-- The change is none that matters. -/
  | unmoved (hsame : phase = .active ↔ 0 < subscribers) :
    Woken grace phase subscribers now tick graceEnd .change (waiting tick graceEnd, phase)
  /-- The grace period is over, and nobody is there. -/
  | expired {g : Instant} (hend : graceEnd = some g) (hover : g ≤ now) (hnobody : subscribers = 0) :
    Woken grace phase subscribers now tick graceEnd .timer (waiting tick none, .idle)
  /-- The grace period is over, and somebody is there. -/
  | reopened {g : Instant} (hend : graceEnd = some g) (hover : g ≤ now) (hsome : 0 < subscribers)
    (hearly : now < tick) :
    Woken grace phase subscribers now tick graceEnd .timer (waiting tick none, .active)
  /-- The same, and the tick is due. -/
  | reopenedDue {g : Instant} (hend : graceEnd = some g) (hover : g ≤ now) (hsome : 0 < subscribers)
    (hdue : tick ≤ now) :
    Woken grace phase subscribers now tick graceEnd .timer (sweeping none, .active)
  /-- No grace period is over, and the tick is not due. -/
  | early (hnot : ∀ g, graceEnd = some g → now < g) (hearly : now < tick) :
    Woken grace phase subscribers now tick graceEnd .timer (waiting tick graceEnd, phase)
  /-- No grace period is over, and the tick is due. -/
  | due (hnot : ∀ g, graceEnd = some g → now < g) (hdue : tick ≤ now) :
    Woken grace phase subscribers now tick graceEnd .timer (sweeping graceEnd, phase)

variable {grace : Span} {phase : MonitorPhase} {subscribers : Nat} {now tick : Instant}
  {graceEnd : Option Instant}

theorem woken_onChange : Woken grace phase subscribers now tick graceEnd .change
    (onChange grace phase subscribers now tick graceEnd) := by
  unfold onChange
  by_cases hsome : 0 < subscribers
  · have hdecide : decide (0 < subscribers) = true := decide_eq_true hsome
    cases phase with
    | idle => simpa [hdecide] using Woken.opened rfl hsome
    | active => simpa [hdecide] using Woken.unmoved (by simp [hsome])
    | draining => simpa [hdecide] using Woken.resumed rfl hsome
  · have hdecide : decide (0 < subscribers) = false := decide_eq_false hsome
    have hnobody : subscribers = 0 := by omega
    cases phase with
    | idle => simpa [hdecide] using Woken.unmoved (by simp [hsome])
    | draining => simpa [hdecide] using Woken.unmoved (by simp [hsome])
    | active =>
      by_cases hzero : grace = 0
      · simpa [hdecide, hzero] using Woken.closed rfl hnobody rfl
      · simpa [hdecide, hzero] using Woken.deserted rfl hnobody hzero

theorem sweepIfDue_cases (phase : MonitorPhase) (now tick : Instant) (graceEnd : Option Instant) :
    (tick ≤ now ∧ sweepIfDue phase now tick graceEnd = (sweeping graceEnd, phase)) ∨
      (now < tick ∧ sweepIfDue phase now tick graceEnd = (waiting tick graceEnd, phase)) := by
  by_cases hdue : tick ≤ now
  · exact .inl ⟨hdue, if_pos hdue⟩
  · exact .inr ⟨Nat.lt_of_not_le hdue, if_neg hdue⟩

/-- A timer that goes off before any grace period is over. -/
theorem woken_sweepIfDue (hnot : ∀ g, graceEnd = some g → now < g) :
    Woken grace phase subscribers now tick graceEnd .timer
      (sweepIfDue phase now tick graceEnd) := by
  rcases sweepIfDue_cases phase now tick graceEnd with ⟨hdue, heq⟩ | ⟨hearly, heq⟩
  · rw [heq]
    exact .due hnot hdue
  · rw [heq]
    exact .early hnot hearly

theorem woken_onTimer : Woken grace phase subscribers now tick graceEnd .timer
    (onTimer phase subscribers now tick graceEnd) := by
  unfold onTimer
  cases graceEnd with
  | none => exact woken_sweepIfDue nofun
  | some g =>
    by_cases hover : g ≤ now
    · by_cases hnobody : subscribers = 0
      · simpa [hover, hnobody] using Woken.expired rfl hover rfl
      · have hsome : 0 < subscribers := Nat.pos_of_ne_zero hnobody
        simp only [Option.any_some, hover, decide_true, if_true, hnobody, if_false]
        rcases sweepIfDue_cases .active now tick none with ⟨hdue, heq⟩ | ⟨hearly, heq⟩
        · rw [heq]
          exact .reopenedDue rfl hover hsome hdue
        · rw [heq]
          exact .reopened rfl hover hsome hearly
    · have hnot : ∀ g', some g = some g' → now < g' := by
        rintro g' hg
        obtain rfl := Option.some.inj hg
        exact Nat.lt_of_not_le hover
      simpa [hover] using woken_sweepIfDue hnot

theorem woken_wake (w : HealthWake) : Woken grace phase subscribers now tick graceEnd w
    ((waiting tick graceEnd).wake grace phase subscribers now w) := by
  cases w with
  | shutdown => exact .stopped
  | change => exact woken_onChange
  | timer => exact woken_onTimer

/-- Only a waiting loop can be woken. -/
theorem exists_waiting_of_isReady {loop : HealthLoop} {changed shutdown : Bool} {w : HealthWake}
    (h : loop.isReady phase changed shutdown now w = true) :
    ∃ tick graceEnd, loop = waiting tick graceEnd := by
  cases loop with
  | waiting tick graceEnd => exact ⟨tick, graceEnd, rfl⟩
  | warmingUp | sweeping _ | stopped => cases w <;> simp [isReady] at h

/-- An idle monitor has no timer. -/
theorem ne_idle_of_isReady_timer {loop : HealthLoop} {changed shutdown : Bool}
    (h : loop.isReady phase changed shutdown now .timer = true) : phase ≠ .idle := by
  rintro rfl
  obtain ⟨tick, graceEnd, rfl⟩ := exists_waiting_of_isReady h
  simp [isReady, timer?] at h

/-- What a loop does that is done with a sweep. -/
theorem afterSweep_cases {loop : HealthLoop} (h : loop.isSweeping = true) (period : Span) :
    (loop = warmingUp ∧ loop.afterSweep phase subscribers now period =
      (waiting (now + period) none, if 0 < subscribers then .active else phase)) ∨
    ∃ graceEnd, loop = sweeping graceEnd ∧ loop.afterSweep phase subscribers now period =
      (waiting (now + period) graceEnd, phase) := by
  cases loop with
  | warmingUp => exact .inl ⟨rfl, rfl⟩
  | sweeping graceEnd => exact .inr ⟨graceEnd, rfl, rfl⟩
  | waiting _ _ | stopped => simp [isSweeping] at h

end HealthLoop

namespace Polling

/-! ## What a move does to the loop -/

/-- The number of live subscriptions. -/
def subscribers (p : Polling) : Nat := p.fleet.broker.subscribers

/-- The time between sweeps, before it is spread. -/
def interval (p : Polling) : Span := p.fleet.monitor.interval

/-- How long the monitor drains. -/
def grace (p : Polling) : Span := p.fleet.monitor.grace

/-- The loop is left alone. Time may pass or the subscribers may change, but not both at once. -/
structure Aside (p q : Polling) : Prop where
  loop : q.loop = p.loop
  phase : q.phase = p.phase
  interval : q.interval = p.interval
  grace : q.grace = p.grace
  later : p.now ≤ q.now
  still : q.now = p.now ∨ q.subscribers = p.subscribers

/-- The loop goes on at once to a state and a phase. -/
structure GoesOn (p : Polling) (next : HealthLoop × MonitorPhase) (q : Polling) : Prop where
  loop : q.loop = next.1
  phase : q.phase = next.2
  interval : q.interval = p.interval
  grace : q.grace = p.grace
  now : q.now = p.now
  subscribers : q.subscribers = p.subscribers

variable {p q : Polling} {m : Move}

theorem aside_forget (p : Polling) (id : NodeId) (stamp : Timestamp) :
    p.Aside { p with fleet := p.fleet.forget id stamp } := by
  have hsame : (p.fleet.forget id stamp).monitor.phase = p.fleet.monitor.phase ∧
      (p.fleet.forget id stamp).monitor.interval = p.fleet.monitor.interval ∧
      (p.fleet.forget id stamp).monitor.grace = p.fleet.monitor.grace := by
    unfold Fleet.forget HealthMonitor.forget
    cases p.fleet.monitor.board.forget? id stamp <;> exact ⟨rfl, rfl, rfl⟩
  exact ⟨rfl, hsame.1, hsame.2.1, hsame.2.2, Nat.le_refl _, .inl rfl⟩

/-- **What a move does to the loop.** It is left alone, it waits and is woken by something that is
ready, or its sweep is done. -/
theorem step?_cases (h : p.step? m = some q) :
    p.Aside q ∨
    (∃ w tick graceEnd next, m = .woken w ∧ p.isReady w = true ∧ p.loop = .waiting tick graceEnd ∧
      HealthLoop.Woken p.grace p.phase p.subscribers p.now tick graceEnd w next ∧
      p.GoesOn next q) ∨
    ∃ results stamp period, m = .landed results stamp period ∧ p.loop.isSweeping = true ∧
      p.GoesOn (p.loop.afterSweep p.phase p.subscribers p.now period) q := by
  cases m with
  | called c =>
    obtain ⟨-, hq⟩ := Option.ite_none_left_eq_some.mp h
    obtain rfl := Option.some.inj hq
    exact .inl ⟨rfl, rfl, rfl, rfl, Nat.le_refl _, .inl rfl⟩
  | signalled | regrouped _ | announced _ | swept _ _ =>
    obtain rfl := Option.some.inj h
    exact .inl ⟨rfl, rfl, rfl, rfl, Nat.le_refl _, .inl rfl⟩
  | forgot id stamp =>
    obtain rfl := Option.some.inj h
    exact .inl (p.aside_forget id stamp)
  | passed time =>
    obtain rfl := Option.some.inj h
    exact .inl ⟨rfl, rfl, rfl, rfl, Nat.le_add_right _ _, .inr rfl⟩
  | woken w =>
    obtain ⟨hready, hq⟩ := Option.ite_none_right_eq_some.mp h
    obtain rfl := Option.some.inj hq
    obtain ⟨tick, graceEnd, hloop⟩ := HealthLoop.exists_waiting_of_isReady hready
    refine .inr (.inl ⟨w, tick, graceEnd, _, rfl, hready, hloop, HealthLoop.woken_wake w, ?_⟩)
    rw [← hloop]
    refine ⟨rfl, rfl, rfl, rfl, rfl, ?_⟩
    show (if w = .change then p.fleet.broker.acknowledge else p.fleet.broker).subscribers = _
    split <;> rfl
  | landed results stamp period =>
    obtain ⟨hsweeping, hq⟩ := Option.ite_none_right_eq_some.mp h
    obtain rfl := Option.some.inj hq
    exact .inr (.inr ⟨results, stamp, period, rfl, hsweeping, rfl, rfl, rfl, rfl, rfl, rfl⟩)

theorem interval_step (h : p.step? m = some q) : q.interval = p.interval := by
  rcases step?_cases h with haside | ⟨_, _, _, _, -, -, -, -, hon⟩ | ⟨_, _, _, -, -, hon⟩
  · exact haside.interval
  · exact hon.interval
  · exact hon.interval

theorem grace_step (h : p.step? m = some q) : q.grace = p.grace := by
  rcases step?_cases h with haside | ⟨_, _, _, _, -, -, -, -, hon⟩ | ⟨_, _, _, -, -, hon⟩
  · exact haside.grace
  · exact hon.grace
  · exact hon.grace

theorem now_le_step (h : p.step? m = some q) : p.now ≤ q.now := by
  rcases step?_cases h with haside | ⟨_, _, _, _, -, -, -, -, hon⟩ | ⟨_, _, _, -, -, hon⟩
  · exact haside.later
  · exact Nat.le_of_eq hon.now.symm
  · exact Nat.le_of_eq hon.now.symm

end Polling

/-! ## Trails -/

/-- The states that a run has been through, latest first. -/
abbrev Trail := List Polling

namespace Trail

open Polling (Move)

/-- One move more. -/
def step? : Trail → Move → Option Trail
  | [], _ => none
  | p :: past, m => (p.step? m).map fun q => q :: p :: past

/-- The trail of a run. -/
def run? (p : Polling) (moves : List Move) : Option Trail := runMoves? step? [p] moves

/-- What holds at the start and is kept by every move holds of the trail of a run. The moves of the
run may be of a certain kind. -/
theorem run?_induction {P : Polling → Trail → Prop} {Q : Move → Prop} {p : Polling} (hstart : P p [])
    (hstep : ∀ q past m r, P q past → Q m → q.step? m = some r → P r (q :: past))
    {moves : List Move} (hmoves : ∀ m ∈ moves, Q m) {q : Polling} {past : Trail}
    (hrun : run? p moves = some (q :: past)) : P q past := by
  have hall : ∃ q' past', q :: past = q' :: past' ∧ P q' past' := by
    refine runMoves?_induction_of_kind (P := fun trail => ∃ q past, trail = q :: past ∧ P q past)
      ?_ ⟨p, [], rfl, hstart⟩ hmoves hrun
    rintro _ m _ ⟨q, past, rfl, hq⟩ hm hnext
    obtain ⟨r, hr, rfl⟩ := Option.map_eq_some_iff.mp hnext
    exact ⟨r, q :: past, rfl, hstep q past m r hq hm hr⟩
  obtain ⟨q', past', heq, hq⟩ := hall
  obtain ⟨rfl, rfl⟩ := List.cons.inj heq
  exact hq

/-- The last two states of a trail are those before and after the last move. -/
theorem run?_eq_some_cons_cons {p q r : Polling} {past : Trail} {moves : List Move}
    (hrun : run? p moves = some (r :: q :: past)) :
    ∃ m ∈ moves, ∃ before, (∀ x ∈ before, x ∈ moves) ∧ run? p before = some (q :: past) ∧
      q.step? m = some r := by
  rcases List.eq_nil_or_concat moves with rfl | ⟨before, m, rfl⟩
  · exact nomatch hrun
  · rw [List.concat_eq_append] at hrun ⊢
    obtain ⟨trail, htrail, hlast⟩ := runMoves?_snoc hrun
    cases trail with
    | nil => exact nomatch hlast
    | cons p past =>
      obtain ⟨next, hnext, heq⟩ := Option.map_eq_some_iff.mp hlast
      obtain ⟨rfl, h⟩ := List.cons.inj heq
      obtain ⟨rfl, rfl⟩ := List.cons.inj h
      exact ⟨m, by simp, before, fun x hx => List.mem_append_left _ hx, htrail, hnext⟩

/-- What the last two states of a computed trail look like. -/
theorem exists_last_of_view {β : Type} {view : Polling → β} {p : Polling} {moves : List Move}
    {a b : β} (h : (run? p moves).map (fun trail => (trail.take 2).map view) = some [a, b]) :
    ∃ r q past, run? p moves = some (r :: q :: past) ∧ view r = a ∧ view q = b := by
  obtain ⟨trail, hrun, hview⟩ := Option.map_eq_some_iff.mp h
  match trail with
  | [] | [_] => simp at hview
  | r :: q :: past =>
    obtain ⟨hr, hq⟩ : view r = a ∧ view q = b := by simpa using hview
    exact ⟨r, q, past, hrun, hr, hq⟩

/-! ## What a trail tells -/

/-- The first of the states since which something has held without a break. -/
def since? (P : Polling → Bool) : Trail → Option Polling
  | [] => none
  | p :: past => if P p then some ((since? P past).getD p) else none

/-- When the sweep of the loop that was done last was done. -/
def sweptAt? : Trail → Option Instant
  | [] => none
  | [_] => none
  | q :: p :: past =>
    if p.loop.isSweeping = true ∧ q.loop.isSweeping = false then some q.now
    else sweptAt? (p :: past)

variable {P : Polling → Bool} {p q first : Polling} {past : Trail}

theorem since?_eq_none (h : P p = false) : since? P (p :: past) = none := by
  simp [since?, h]

theorem exists_since? (past : Trail) (h : P p = true) : ∃ first, since? P (p :: past) = some first :=
  ⟨_, if_pos h⟩

theorem mem_of_since? {trail : Trail} (h : since? P trail = some first) : first ∈ trail := by
  induction trail generalizing first with
  | nil => exact nomatch h
  | cons p past ih =>
    obtain ⟨-, h⟩ := Option.ite_none_right_eq_some.mp h
    obtain rfl := Option.some.inj h
    cases hpast : since? P past with
    | none => exact List.mem_cons_self
    | some first => exact List.mem_cons_of_mem _ (ih hpast)

/-- What holds now and did not hold before holds since now. -/
theorem since?_of_new (h : P q = true) (hbefore : P p = false) :
    since? P (q :: p :: past) = some q := by
  simp [since?, h, hbefore]

/-- What held before and holds still holds since it did. -/
theorem since?_of_old (h : P q = true) (hbefore : since? P (p :: past) = some first) :
    since? P (q :: p :: past) = some first := by
  rw [since?, if_pos h, hbefore, Option.getD_some]

theorem since?_eq_some (h : since? P (q :: p :: past) = some first) :
    P q = true ∧ (P p = false ∧ first = q ∨ since? P (p :: past) = some first) := by
  obtain ⟨hq, h⟩ := Option.ite_none_right_eq_some.mp h
  refine ⟨hq, ?_⟩
  cases hp : P p with
  | false =>
    rw [since?_eq_none hp] at h
    exact .inl ⟨rfl, (Option.some.inj h).symm⟩
  | true =>
    have hsome : since? P (p :: past) = some ((since? P past).getD p) := by simp [since?, hp]
    rw [hsome, Option.getD_some] at h
    exact .inr (hsome.trans h)

theorem sweptAt?_of_landed (hbefore : p.loop.isSweeping = true) (hafter : q.loop.isSweeping = false) :
    sweptAt? (q :: p :: past) = some q.now := by
  rw [sweptAt?, if_pos ⟨hbefore, hafter⟩]

theorem sweptAt?_of_not_landed (h : p.loop.isSweeping = false ∨ q.loop.isSweeping = true) :
    sweptAt? (q :: p :: past) = sweptAt? (p :: past) := by
  rw [sweptAt?, if_neg]
  rintro ⟨hbefore, hafter⟩
  rcases h with h | h
  · simp [hbefore] at h
  · simp [hafter] at h

end Trail

end FilterFleet
