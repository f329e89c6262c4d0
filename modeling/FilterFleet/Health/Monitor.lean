import FilterFleet.Health.Record
import FilterFleet.Time.Ticker

/-! # The polling of nodes

Nodes are polled while somebody listens.  The monitor is idle without subscribers; it is active
while there are some, and drains for a grace period after the last one left.  The loop waits for
the shutdown, for a change in the number of subscribers, and for its timer; `HealthLoop.wake` says
what each of these does.
-/

namespace FilterFleet

/-- Whether nodes are polled, and for whom. -/
inductive MonitorPhase where
  /-- No subscribers, no polling. -/
  | idle
  /-- Polling for subscribers that are present. -/
  | active
  /-- Polling until the grace period ends. -/
  | draining
deriving DecidableEq, Repr

/-- The name of a phase in diagnostics. -/
def MonitorPhase.debug : MonitorPhase → String
  | idle => "Idle"
  | active => "Active"
  | draining => "Draining"

/-- The monitor of the nodes' health. -/
structure HealthMonitor where
  /-- The time between sweeps. -/
  interval : Span
  /-- How long polling goes on without subscribers. -/
  grace : Span
  board : HealthBoard
  phase : MonitorPhase
  /-- The number of sweeps done. -/
  sweeps : Nat

namespace HealthMonitor

/-- The part of the interval by which a sweep may come early or late. -/
def jitterFraction : Float := 0.2

/-- An idle monitor; the interval is at least a second. -/
def new (interval grace : Span) : HealthMonitor :=
  ⟨max interval (Span.ofSecs 1), grace, .empty, .idle, 0⟩

/-- Take in the answers of a sweep and publish them. -/
def landSweep (m : HealthMonitor) (broker : Broker) (results : FanOut AuthStatus)
    (isMember : NodeId → Bool) (stamp : Timestamp) : HealthMonitor × Broker :=
  let board := m.board.absorb results isMember stamp
  ({ m with board, sweeps := m.sweeps + 1 }, board.publish broker)

/-- Drop the record of a node that left, and publish the change if there was one. -/
def forget (m : HealthMonitor) (broker : Broker) (id : NodeId) (stamp : Timestamp) :
    HealthMonitor × Broker :=
  match m.board.forget? id stamp with
  | none => (m, broker)
  | some board => ({ m with board }, board.publish broker)

/-- The form for diagnostics, without the time of the summary. -/
def debugHead (m : HealthMonitor) : String :=
  "HealthMonitor \x7b interval: " ++ Span.text m.interval ++ ", grace: " ++ Span.text m.grace ++
    ", phase: " ++ m.phase.debug ++ ", summary: HealthSummary \x7b online: " ++
    toString m.board.summary.online ++ ", total: " ++ toString m.board.summary.total ++ ", "

end HealthMonitor

/-! ## The loop -/

/-- Where the polling loop is. -/
inductive HealthLoop where
  /-- The first sweep is in flight. -/
  | warmingUp
  /-- Waiting; the next sweep is due at `tick`, and the grace period ends at `graceEnd`. -/
  | waiting (tick : Instant) (graceEnd : Option Instant)
  /-- A later sweep is in flight. -/
  | sweeping (graceEnd : Option Instant)
  | stopped
deriving DecidableEq

/-- What wakes the loop. -/
inductive HealthWake where
  | shutdown
  /-- The number of subscribers changed. -/
  | change
  | timer
deriving DecidableEq

namespace HealthLoop

/-- When the timer of a waiting loop goes off, if ever. -/
def timer? (phase : MonitorPhase) (tick : Instant) (graceEnd : Option Instant) : Option Instant :=
  match phase with
  | .idle => none
  | .active => some tick
  | .draining => graceEnd.map (min tick)

/-- A sweep is done: the next one is due after `period`.  After the first sweep, subscribers that
are present already make the monitor active. -/
def afterSweep (loop : HealthLoop) (phase : MonitorPhase) (subscribers : Nat) (now : Instant)
    (period : Span) : HealthLoop × MonitorPhase :=
  match loop with
  | warmingUp =>
    (waiting (now + period) none, if 0 < subscribers then .active else phase)
  | sweeping graceEnd => (waiting (now + period) graceEnd, phase)
  | loop => (loop, phase)

/-- The number of subscribers changed. -/
def onChange (grace : Span) (phase : MonitorPhase) (subscribers : Nat) (now tick : Instant)
    (graceEnd : Option Instant) : HealthLoop × MonitorPhase :=
  match phase, decide (0 < subscribers) with
  | .idle, true => (sweeping graceEnd, .active)
  | .draining, true => (waiting tick none, .active)
  | .active, false =>
    if grace = 0 then (waiting tick graceEnd, .idle)
    else (waiting tick (some (now + grace)), .draining)
  | phase, _ => (waiting tick graceEnd, phase)

/-- Sweep if the next sweep is due. -/
def sweepIfDue (phase : MonitorPhase) (now tick : Instant) (graceEnd : Option Instant) :
    HealthLoop × MonitorPhase :=
  if tick ≤ now then (sweeping graceEnd, phase) else (waiting tick graceEnd, phase)

/-- The timer went off: the grace period may be over, and a sweep may be due. -/
def onTimer (phase : MonitorPhase) (subscribers : Nat) (now tick : Instant)
    (graceEnd : Option Instant) : HealthLoop × MonitorPhase :=
  if graceEnd.any (decide <| · ≤ now) then
    if subscribers = 0 then (waiting tick none, .idle)
    else sweepIfDue .active now tick none
  else sweepIfDue phase now tick graceEnd

/-- Whether a wake-up of a waiting loop is possible now. -/
def isReady (loop : HealthLoop) (phase : MonitorPhase) (changed shutdown : Bool) (now : Instant) :
    HealthWake → Bool :=
  fun wake =>
    match loop, wake with
    | waiting _ _, .shutdown => shutdown
    | waiting _ _, .change => changed
    | waiting tick graceEnd, .timer =>
      (timer? phase tick graceEnd).any (decide <| · ≤ now)
    | _, _ => false

/-- Wake a waiting loop.  When it is `sweeping` afterwards, a sweep has to be started. -/
def wake (loop : HealthLoop) (grace : Span) (phase : MonitorPhase) (subscribers : Nat)
    (now : Instant) (w : HealthWake) : HealthLoop × MonitorPhase :=
  match loop, w with
  | waiting _ _, .shutdown => (stopped, .idle)
  | waiting tick graceEnd, .change => onChange grace phase subscribers now tick graceEnd
  | waiting tick graceEnd, .timer => onTimer phase subscribers now tick graceEnd
  | loop, _ => (loop, phase)

end HealthLoop

end FilterFleet
