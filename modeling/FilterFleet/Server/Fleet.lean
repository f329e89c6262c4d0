import FilterFleet.Cluster.Search
import FilterFleet.Events.Stream
import FilterFleet.Health.Monitor

/-! # The parts of a running fleet

The members and their searches, the topics and their subscribers, the monitor of the nodes' health
and the signal that shuts everything down.  All activities of the fleet share these parts.
-/

namespace FilterFleet

/-- The parts that all activities share. -/
structure Fleet where
  cluster : Cluster
  broker : Broker
  monitor : HealthMonitor
  signal : ShutdownSignal

namespace Fleet

/-- Publish an event. -/
def publish (f : Fleet) (e : Event) : Nat × Fleet :=
  let (delivered, broker) := f.broker.publish e
  (delivered, { f with broker })

/-- Take in the answers of a sweep. -/
def landSweep (f : Fleet) (results : FanOut AuthStatus) (stamp : Timestamp) : Fleet :=
  let (monitor, broker) := f.monitor.landSweep f.broker results f.cluster.contains stamp
  { f with monitor, broker }

/-- Drop the health record of a node. -/
def forget (f : Fleet) (id : NodeId) (stamp : Timestamp) : Fleet :=
  let (monitor, broker) := f.monitor.forget f.broker id stamp
  { f with monitor, broker }

/-- A sweep of the polling loop is done. -/
def afterSweep (f : Fleet) (loop : HealthLoop) (now : Instant) (period : Span) :
    HealthLoop × Fleet :=
  let (loop, phase) := loop.afterSweep f.monitor.phase f.broker.subscribers now period
  (loop, { f with monitor := { f.monitor with phase } })

/-- The wake-ups of the polling loop in the order in which they are tried. -/
def healthWakes : List HealthWake := [.shutdown, .change, .timer]

/-- The first wake-up of the polling loop that is possible now. -/
def healthWake? (f : Fleet) (loop : HealthLoop) (listener : ShutdownListener) (now : Instant) :
    Option HealthWake :=
  healthWakes.find?
    (loop.isReady f.monitor.phase f.broker.changed (f.signal.reaches listener) now)

/-- Wake the polling loop.  By a change it is woken as one who waits for changes. -/
def wakeHealth (f : Fleet) (loop : HealthLoop) (now : Instant) (w : HealthWake) :
    HealthLoop × Fleet :=
  let (loop, phase) := loop.wake f.monitor.grace f.monitor.phase f.broker.subscribers now w
  let broker := if w = .change then f.broker.acknowledge else f.broker
  (loop, { f with broker, monitor := { f.monitor with phase } })

end Fleet

end FilterFleet
