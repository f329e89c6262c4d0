import FilterFleet.Proofs.Events.Signal
import FilterFleet.Proofs.Lists
import FilterFleet.Server.Fleet

/-!
# Runs of the polling loop

A polling loop works while everything around it changes. A `Polling` is a fleet with its polling loop
at a time; its `Move`s are what the loop does, woken by any of the things that it waits for that are
ready (`woken`) or at the end of its sweep (`landed`), and what others do in between: they ask
something of the broker, sweep on their own, remove nodes, let time pass. The loop is the only one
that takes notice of changes in the number of subscribers.

`Attuned` says how the loop, the phase of the monitor and the subscribers go together. It holds of
every run (`IsAttuned.run`), so that a waiting loop drains iff its grace period is running, and one that
has no change to take notice of is active iff there are subscribers (`in_step_while_waiting`).
-/

namespace FilterFleet

/-! ## What a broker signals -/

namespace Broker

/-- From one broker to a later one the number of live subscriptions stays as it is, unless the later
one has a change pending. -/
def Signals (b b' : Broker) : Prop :=
  b'.changed = true ∨ b'.subscribers = b.subscribers ∧ b'.changed = b.changed

theorem Signals.of_same {b b' : Broker} (hcount : b'.subscribers = b.subscribers)
    (hchanged : b'.changed = b.changed) : Signals b b' := .inr ⟨hcount, hchanged⟩

theorem Signals.of_give {b b' : Broker} (h : b'.signal = b.signal.give) : Signals b b' :=
  .inl (by rw [changed, h, ChangeSignal.isPending_give])

theorem signals_cancel (b : Broker) (id : Nat) : Signals b (b.cancel id) := by
  unfold cancel
  split
  · exact .of_same rfl rfl
  · split
    · exact .of_same rfl rfl
    · exact .of_give rfl

/-- Only who waits for a change takes it away. -/
theorem signals_perform (b : Broker) {c : Call} (hc : c ≠ .awaitChange) :
    Signals b (b.perform c).2 := by
  cases c with
  | subscribe topics =>
    by_cases hlimit : queueLimit < b.capacity
    · have hrefused : b.perform (.subscribe topics) = (.refused, b) := by
        simp [perform, subscribe?, hlimit]
      rw [hrefused]
      exact .of_same rfl rfl
    · refine .of_give ?_
      simp [perform, subscribe?, hlimit]
  | publish e => exact .of_same rfl rfl
  | receive id =>
    have hsame : (b.receive id).2.subscribers = b.subscribers ∧
        (b.receive id).2.changed = b.changed := by
      unfold receive
      split
      · exact ⟨rfl, rfl⟩
      · split <;> exact ⟨rfl, rfl⟩
    exact .inr hsame
  | cancel id => exact signals_cancel b id
  | drop id => exact signals_cancel b id
  | awaitChange => exact absurd rfl hc
  | stopWaiting => exact .of_same rfl b.signal.isPending_leave

end Broker

theorem HealthBoard.signals_publish (board : HealthBoard) (b : Broker) :
    b.Signals (board.publish b) := .of_same rfl rfl

/-! ## Polling in a changing fleet -/

/-- A fleet with its polling loop, at a time. -/
structure Polling where
  fleet : Fleet
  loop : HealthLoop
  /-- How the loop learns of the shutdown. -/
  listener : ShutdownListener
  now : Instant

/-- A sweep of the loop is in flight. -/
def HealthLoop.isSweeping : HealthLoop → Bool
  | .warmingUp | .sweeping _ => true
  | .waiting _ _ | .stopped => false

namespace Polling

/-- What happens to a fleet and its polling loop. -/
inductive Move where
  /-- Something is asked of the broker or of a subscription. -/
  | called (c : Broker.Call)
  /-- One more signal of a change is given: of two changes that come while the loop waits, one calls
  it and the other one is left behind. -/
  | signalled
  /-- Nodes come and go, and searches are made. -/
  | regrouped (cluster : Cluster)
  /-- The shutdown signal is sent, or nobody can send it any more. -/
  | announced (signal : ShutdownSignal)
  /-- A sweep is done that the loop did not start. -/
  | swept (results : FanOut AuthStatus) (stamp : Timestamp)
  /-- The health record of a node is dropped. -/
  | forgot (id : NodeId) (stamp : Timestamp)
  | passed (time : Span)
  /-- The loop is woken. -/
  | woken (w : HealthWake)
  /-- The sweep of the loop is done; the next one is due after the period. -/
  | landed (results : FanOut AuthStatus) (stamp : Timestamp) (period : Span)

/-- The phase of the monitor. -/
def phase (p : Polling) : MonitorPhase := p.fleet.monitor.phase

/-- Whether the loop can be woken now. -/
def isReady (p : Polling) (w : HealthWake) : Bool :=
  p.loop.isReady p.phase p.fleet.broker.changed (p.fleet.signal.reaches p.listener) p.now w

/-- What a move does, if it can be made. -/
def step? (p : Polling) : Move → Option Polling
  | .called c =>
    if c = .awaitChange then none
    else some { p with fleet := { p.fleet with broker := (p.fleet.broker.perform c).2 } }
  | .signalled =>
    some { p with fleet.broker.signal := p.fleet.broker.signal.give }
  | .regrouped cluster => some { p with fleet := { p.fleet with cluster } }
  | .announced signal => some { p with fleet := { p.fleet with signal } }
  | .swept results stamp => some { p with fleet := p.fleet.landSweep results stamp }
  | .forgot id stamp => some { p with fleet := p.fleet.forget id stamp }
  | .passed time => some { p with now := p.now + time }
  | .woken w =>
    if p.isReady w then
      let (loop, fleet) := p.fleet.wakeHealth p.loop p.now w
      some { p with loop, fleet }
    else none
  | .landed results stamp period =>
    if p.loop.isSweeping then
      let (loop, fleet) := (p.fleet.landSweep results stamp).afterSweep p.loop p.now period
      some { p with loop, fleet }
    else none

/-- Make moves one after another. -/
def run? (p : Polling) (moves : List Move) : Option Polling := runMoves? step? p moves

/-- A loop that was just started. -/
structure Starting (p : Polling) : Prop where
  warmingUp : p.loop = .warmingUp
  idle : p.phase = .idle

end Polling

/-! ## The loop, the phase and the subscribers -/

namespace HealthLoop

/-- When the grace period that is running ends. -/
def graceEnd? : HealthLoop → Option Instant
  | waiting _ graceEnd | sweeping graceEnd => graceEnd
  | warmingUp | stopped => none

/-- The loop is past its first sweep, and not stopped. -/
def isOn : HealthLoop → Bool
  | waiting _ _ | sweeping _ => true
  | warmingUp | stopped => false

end HealthLoop

/-- How the loop, the phase, the number of subscribers and the pending change go together. -/
structure Attuned (grace : Span) (subscribers : Nat) (changed : Bool) (loop : HealthLoop)
    (phase : MonitorPhase) : Prop where
  /-- The monitor drains as long as there is an end to it. -/
  draining : phase = .draining ↔ loop.graceEnd?.isSome = true
  off : loop.isOn = false → phase = .idle
  /-- What the loop took notice of last is how it is, or there is a change to take notice of. -/
  active : loop.isOn = true → changed = false → (phase = .active ↔ 0 < subscribers)
  grace : grace = 0 → phase ≠ .draining

namespace Attuned

open HealthLoop

variable {grace : Span} {subscribers : Nat} {changed : Bool} {loop : HealthLoop}
  {phase : MonitorPhase}

/-- Whatever else happens to the subscribers, the loop is told. -/
theorem signals {b b' : Broker} (h : Attuned grace b.subscribers b.changed loop phase)
    (hb : b.Signals b') : Attuned grace b'.subscribers b'.changed loop phase := by
  refine ⟨h.draining, h.off, fun hon hnews => ?_, h.grace⟩
  rcases hb with hnews' | ⟨hcount, hsame⟩
  · simp [hnews'] at hnews
  · rw [hcount]
    exact h.active hon (hsame ▸ hnews)

/-- Another change may come before the loop looks again. -/
theorem of_noticed (h : Attuned grace subscribers false loop phase) (changed : Bool) :
    Attuned grace subscribers changed loop phase :=
  ⟨h.draining, h.off, fun hon _ => h.active hon rfl, h.grace⟩

/-- The loop may begin a sweep. -/
theorem sweepIfDue {tick : Instant} {graceEnd : Option Instant}
    (h : Attuned grace subscribers changed (.waiting tick graceEnd) phase) (now : Instant) :
    Attuned grace subscribers changed (sweepIfDue phase now tick graceEnd).1
      (HealthLoop.sweepIfDue phase now tick graceEnd).2 := by
  unfold HealthLoop.sweepIfDue
  split
  · exact ⟨h.draining, fun hoff => by simp [isOn] at hoff, fun _ => h.active rfl, h.grace⟩
  · exact h

/-- When it takes notice of a change, the loop counts the subscribers. -/
theorem onChange {tick : Instant} {graceEnd : Option Instant}
    (h : Attuned grace subscribers changed (.waiting tick graceEnd) phase) (now : Instant) :
    Attuned grace subscribers false (onChange grace phase subscribers now tick graceEnd).1
      (HealthLoop.onChange grace phase subscribers now tick graceEnd).2 := by
  have hend : graceEnd.isSome = true ↔ phase = .draining := h.draining.symm
  have hgrace := h.grace
  unfold HealthLoop.onChange
  by_cases hsome : 0 < subscribers
  · -- somebody listens: the monitor becomes active, or stays so
    cases phase with
    | idle | active =>
      have hnone : graceEnd = none := by simpa using hend
      constructor <;> simp [hsome, hnone, graceEnd?, isOn]
    | draining => constructor <;> simp [hsome, graceEnd?, isOn]
  · -- nobody listens any more: the monitor drains, if there is a grace period
    cases phase with
    | idle =>
      have hnone : graceEnd = none := by simpa using hend
      constructor <;> simp [hsome, hnone, graceEnd?, isOn]
    | draining =>
      have hrunning : graceEnd.isSome = true := by simpa using hend
      have hpositive : grace ≠ 0 := fun hzero => hgrace hzero rfl
      constructor <;> simp [hsome, hrunning, hpositive, graceEnd?, isOn]
    | active =>
      have hnone : graceEnd = none := by simpa using hend
      by_cases hzero : grace = 0
      · constructor <;> simp [hsome, hzero, hnone, graceEnd?, isOn]
      · constructor <;> simp [hsome, hzero, graceEnd?, isOn]

/-- When its timer goes off the loop may end the grace period, and counts the subscribers again. -/
theorem onTimer {tick : Instant} {graceEnd : Option Instant}
    (h : Attuned grace subscribers changed (.waiting tick graceEnd) phase) (now : Instant) :
    Attuned grace subscribers changed (onTimer phase subscribers now tick graceEnd).1
      (HealthLoop.onTimer phase subscribers now tick graceEnd).2 := by
  unfold HealthLoop.onTimer
  split
  · split
    · next hnobody => constructor <;> simp [hnobody, graceEnd?]
    · next hsome =>
      have hpositive : 0 < subscribers := by omega
      have hactive : Attuned grace subscribers changed (.waiting tick none) .active := by
        constructor <;> simp [hpositive, graceEnd?, isOn]
      exact hactive.sweepIfDue now
  · exact h.sweepIfDue now

/-- **Waking the loop.** Only when it is woken by a change it takes notice of it. -/
theorem wake {shutdown : Bool} {now : Instant} {w : HealthWake}
    (h : Attuned grace subscribers changed loop phase)
    (hready : loop.isReady phase changed shutdown now w = true) :
    Attuned grace subscribers (if w = .change then false else changed)
      (loop.wake grace phase subscribers now w).1 (loop.wake grace phase subscribers now w).2 := by
  cases loop with
  | warmingUp | sweeping _ | stopped => cases w <;> simp [isReady] at hready
  | waiting tick graceEnd =>
    cases w with
    | shutdown => constructor <;> simp [HealthLoop.wake, graceEnd?, isOn]
    | change => exact h.onChange now
    | timer => exact h.onTimer now

/-- **The end of a sweep.** After its first sweep the loop counts the subscribers. -/
theorem afterSweep (h : Attuned grace subscribers changed loop phase) (now : Instant)
    (period : Span) :
    Attuned grace subscribers changed (loop.afterSweep phase subscribers now period).1
      (loop.afterSweep phase subscribers now period).2 := by
  cases loop with
  | warmingUp =>
    have hidle : phase = .idle := h.off rfl
    by_cases hsome : 0 < subscribers
    · constructor <;> simp [HealthLoop.afterSweep, hsome, graceEnd?, isOn]
    · constructor <;> simp [HealthLoop.afterSweep, hsome, hidle, graceEnd?]
  | sweeping graceEnd =>
    have hoff : (HealthLoop.waiting (now + period) graceEnd).isOn = false → phase = .idle := by
      simp [isOn]
    exact ⟨h.draining, hoff, fun _ => h.active rfl, h.grace⟩
  | waiting _ _ | stopped => exact h

end Attuned

/-! ## Whole runs -/

namespace Polling

/-- The loop of a fleet goes with its phase and its subscribers. -/
def IsAttuned (p : Polling) : Prop :=
  Attuned p.fleet.monitor.grace p.fleet.broker.subscribers p.fleet.broker.changed p.loop p.phase

theorem Starting.isAttuned {p : Polling} (h : p.Starting) : p.IsAttuned := by
  unfold IsAttuned
  rw [h.warmingUp, h.idle]
  constructor <;> simp [HealthLoop.graceEnd?, HealthLoop.isOn]

/-- Sweeps and removals leave the phase, the grace period and the subscribers alone. -/
theorem IsAttuned.landSweep {p : Polling} (h : p.IsAttuned) (results : FanOut AuthStatus)
    (stamp : Timestamp) : IsAttuned { p with fleet := p.fleet.landSweep results stamp } :=
  h.signals (HealthBoard.signals_publish _ _)

theorem IsAttuned.forget {p : Polling} (h : p.IsAttuned) (id : NodeId) (stamp : Timestamp) :
    IsAttuned { p with fleet := p.fleet.forget id stamp } := by
  unfold IsAttuned phase Fleet.forget HealthMonitor.forget
  cases hforget : p.fleet.monitor.board.forget? id stamp with
  | none => exact h
  | some board => exact h.signals (HealthBoard.signals_publish _ _)

/-- **Every move keeps the loop attuned to its subscribers.** -/
theorem IsAttuned.step {p q : Polling} {m : Move} (h : p.IsAttuned) (hstep : p.step? m = some q) :
    q.IsAttuned := by
  cases m with
  | called c =>
    obtain ⟨hc, hq⟩ := Option.ite_none_left_eq_some.mp hstep
    obtain rfl := Option.some.inj hq
    exact h.signals (p.fleet.broker.signals_perform hc)
  | signalled =>
    obtain rfl := Option.some.inj hstep
    exact h.signals (.of_give rfl)
  | regrouped _ | announced _ | passed _ =>
    obtain rfl := Option.some.inj hstep
    exact h
  | swept results stamp =>
    obtain rfl := Option.some.inj hstep
    exact h.landSweep results stamp
  | forgot id stamp =>
    obtain rfl := Option.some.inj hstep
    exact h.forget id stamp
  | woken w =>
    obtain ⟨hready, hq⟩ := Option.ite_none_right_eq_some.mp hstep
    obtain rfl := Option.some.inj hq
    have hwake := h.wake hready
    by_cases hw : w = .change
    · subst hw
      exact hwake.of_noticed _
    · have hbroker : (p.fleet.wakeHealth p.loop p.now w).2.broker = p.fleet.broker := if_neg hw
      rw [if_neg hw] at hwake
      show Attuned _ (p.fleet.wakeHealth p.loop p.now w).2.broker.subscribers
        (p.fleet.wakeHealth p.loop p.now w).2.broker.changed _ _
      rw [hbroker]
      exact hwake
  | landed results stamp period =>
    obtain ⟨-, hq⟩ := Option.ite_none_right_eq_some.mp hstep
    obtain rfl := Option.some.inj hq
    exact (h.landSweep results stamp).afterSweep p.now period

/-- What a whole run preserves. -/
theorem IsAttuned.run {p q : Polling} {moves : List Move} (h : p.IsAttuned)
    (hrun : p.run? moves = some q) : q.IsAttuned :=
  runMoves?_induction (fun _ _ _ hp hstep => hp.step hstep) h hrun

/-- What the phase of a waiting loop says about its subscribers. -/
structure InStep (p : Polling) (graceEnd : Option Instant) : Prop where
  draining : p.phase = .draining ↔ graceEnd.isSome = true
  active : p.fleet.broker.changed = false →
    (p.phase = .active ↔ 0 < p.fleet.broker.subscribers)
  deserted : p.fleet.broker.changed = false →
    (p.phase = .idle ∨ p.phase = .draining ↔ p.fleet.broker.subscribers = 0)
  idle : p.fleet.broker.changed = false → p.fleet.monitor.grace = 0 →
    (p.phase = .idle ↔ p.fleet.broker.subscribers = 0)

/-- **The loop never loses track of its subscribers.** Whenever it waits, the monitor drains iff a
grace period is running; and unless there is a change to take notice of, it is active iff there are
subscribers, and without a grace period it is idle otherwise. -/
theorem in_step_while_waiting {p q : Polling} {moves : List Move} {tick : Instant}
    {graceEnd : Option Instant} (hp : p.Starting) (hrun : p.run? moves = some q)
    (hwaiting : q.loop = .waiting tick graceEnd) : q.InStep graceEnd := by
  have h : q.IsAttuned := hp.isAttuned.run hrun
  unfold IsAttuned at h
  rw [hwaiting] at h
  have hactive : q.fleet.broker.changed = false →
      (q.phase = .active ↔ 0 < q.fleet.broker.subscribers) := h.active rfl
  have hgrace := h.grace
  refine ⟨h.draining, hactive, fun hnews => ?_, fun hnews hzero => ?_⟩
  · have hphase := hactive hnews
    cases hcase : q.phase <;> simp [hcase] at hphase ⊢ <;> omega
  · have hphase := hactive hnews
    have hnot := hgrace hzero
    cases hcase : q.phase <;> simp [hcase] at hphase hnot ⊢ <;> omega

/-- A loop that starts in a fleet without members and subscribers. -/
def alone : Polling where
  fleet := ⟨.empty 1 1, .new 8, .new (Span.ofSecs 5) (Span.ofSecs 10), .new⟩
  loop := .warmingUp
  listener := ShutdownSignal.new.listen
  now := 0

/-- Somebody comes after the first sweep, and leaves while the second one is in flight. -/
def shortVisit : List Move :=
  [.landed .empty ⟨0⟩ (Span.ofSecs 5), .called (.subscribe [nodeHealthTopic]), .woken .change,
    .called (.cancel 1), .landed .empty ⟨0⟩ (Span.ofSecs 5), .woken .change]

/-- After a short visit the monitor drains. -/
theorem in_step_after_shortVisit :
    ∃ q, alone.Starting ∧ alone.run? shortVisit = some q ∧
      q.loop = .waiting (Span.ofSecs 5) (some (Span.ofSecs 10)) ∧ q.phase = .draining ∧
      q.InStep (some (Span.ofSecs 10)) := by
  have hstarting : alone.Starting := ⟨rfl, rfl⟩
  have hloop : (alone.run? shortVisit).map (·.loop) =
      some (.waiting (Span.ofSecs 5) (some (Span.ofSecs 10))) := rfl
  have hphase : (alone.run? shortVisit).map phase = some .draining := rfl
  obtain ⟨q, hq⟩ : ∃ q, alone.run? shortVisit = some q := ⟨_, rfl⟩
  rw [hq] at hloop hphase
  have hwaiting := Option.some.inj hloop
  exact ⟨q, hstarting, hq, hwaiting, Option.some.inj hphase,
    in_step_while_waiting hstarting hq hwaiting⟩

end Polling

end FilterFleet
