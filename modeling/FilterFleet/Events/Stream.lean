import FilterFleet.Events.Frame
import FilterFleet.Time.Ticker

/-! # Event streams

A stream hands the events of a subscription to a push connection, with heartbeats in between.  It
ends when the fleet shuts down or the subscription is cancelled; an ended stream has cancelled its
subscription and stays ended.
-/

namespace FilterFleet

/-- A subscription paced for a push connection. -/
structure EventStream where
  subscription : Nat
  topics : List String
  heartbeat : Ticker
  listener : ShutdownListener
  finished : Bool

/-- What may wake a stream. -/
inductive StreamWake where
  | shutdown
  | mail
  | heartbeat
deriving DecidableEq

namespace EventStream

/-- Open a stream on topics.  There is none if the broker takes no subscription or heartbeats have
no distance. -/
def open? (b : Broker) (topics : List String) (period : Span) (signal : ShutdownSignal)
    (now : Instant) : Option (EventStream × Broker) := do
  let (id, b) ← b.subscribe? topics
  let heartbeat ← Ticker.startingAt? (now + period) period
  some (⟨id, topicSet topics, heartbeat, signal.listen, false⟩, b)

/-- Whether a wake-up is possible now. -/
def isReady (s : EventStream) (b : Broker) (signal : ShutdownSignal) (now : Instant) :
    StreamWake → Bool
  | .shutdown => signal.reaches s.listener
  | .mail => (b.receive s.subscription).1 != .pending
  | .heartbeat => s.heartbeat.isDue now

/-- End the stream. -/
def finish (s : EventStream) (b : Broker) : EventStream × Broker :=
  ({ s with finished := true }, b.cancel s.subscription)

/-- The next frame after a wake-up; none if the stream has ended. -/
def wake (s : EventStream) (b : Broker) (now : Instant) :
    StreamWake → Option Frame × EventStream × Broker
  | .shutdown => (none, s.finish b)
  | .mail =>
    match b.receive s.subscription with
    | (.event e, b) => (some (.event e), s, b)
    | (_, b) => (none, s.finish b)
  | .heartbeat => (some .heartbeat, { s with heartbeat := s.heartbeat.take now }, b)

/-- The wake-ups in the order in which they are tried. -/
def wakes : List StreamWake := [.shutdown, .mail, .heartbeat]

/-- The next frame: at once for an ended stream, else after the first wake-up that is possible.
There is no result while the stream has to wait. -/
def next? (s : EventStream) (b : Broker) (signal : ShutdownSignal) (now : Instant) :
    Option (Option Frame × EventStream × Broker) :=
  if s.finished then some (none, s, b)
  else (wakes.find? (s.isReady b signal now)).map (s.wake b now)

/-- Give the stream up. -/
def drop (s : EventStream) (b : Broker) : Broker := b.drop s.subscription

/-- The form for diagnostics. -/
def debug (s : EventStream) : String :=
  "EventStream \x7b topics: " ++ Text.quotedList s.topics ++ ", finished: " ++
    toString s.finished ++ ", .. \x7d"

end EventStream

end FilterFleet
