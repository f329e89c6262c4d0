import FilterFleet.Trial.Begin

/-! # Running a trial

A step and the background tasks go on as far as they can at the present time; then the clock moves
to the next moment at which one of them can go on.  The step that the trial waits for comes first,
then the tasks in the order in which they were started.
-/

namespace FilterFleet.Trial

namespace World

/-! ## Steps -/

/-- Go on with a voyage. -/
def sail? {kind : CallKind} (w : World) (v : Voyage kind) : Option (World × Voyage kind) :=
  (v.advance? w.moment w.nodes).map fun (v, nodes) => ({ w with nodes }, v)

/-- Go on with a voyage; what is done with its results goes on when it has landed. -/
def sailThen? {kind : CallKind} (w : World) (v : Voyage kind) (wait : Voyage kind → Job)
    (land : FanOut kind.Reply → World × Job) : Option (World × Job) :=
  match v.flight.results? with
  | some results => some (land results)
  | none => (w.sail? v).map fun (w, v) => (w, wait v)

/-- Put a page together and store its cursor. -/
def landPage (w : World) (page : OpenPage) (results : FanOut QueryPage) : World × Job :=
  match w.fleet.cluster.landPage? page results w.draws w.now with
  | none => w.done .broken
  | some (page, cluster) =>
    let w := { w.withCluster cluster with drawn := w.drawn + w.draws.length }
    (w.withAnswered page.cursor).done (.page page)

/-- The nodes have been logged out of: the stop is complete. -/
def endStop (w : World) : World :=
  match w.site with
  | .server s => w.withServer s.endStop
  | .parts _ => w

/-- Log out of all nodes. -/
def logOutAll (w : World) (answer : Answer) : World × Job :=
  let (w, voyage) := w.departAll .logout fun _ => ()
  (w, .loggingOut voyage answer)

/-- The next frame of a stream, if it can be given now. -/
def nextFrame? (w : World) (name : String) (startedAt : Instant) : Option (World × Job) :=
  match named? w.streams name with
  | some (some s) =>
    (s.next? w.fleet.broker w.fleet.signal w.now).map fun (frame, s, broker) =>
      let w := { w.withBroker broker with streams := rename w.streams name (some s) }
      w.done (match frame with
        | some f => .frame f (w.now - startedAt)
        | none => .nothing)
  | _ => some (w.refuse .droppedStream)

/-- Give up waiting at the deadline. -/
def giveUp? (w : World) (deadline : Instant) (a : Answer) : Option (World × Job) :=
  if deadline ≤ w.now then some (w.done a) else none

/-- Go on with a job; there is no result while it has to wait. -/
def goOn? (w : World) : Job → Option (World × Job)
  | .begin step => some (w.begin step)
  | .finished _ => none
  | .sleeping wakeAt => if wakeAt ≤ w.now then some (w.done (.count (Span.millis w.now))) else none
  | .joining name deadline =>
    match (w.task? (.named name)).bind Task.answer? with
    | some a => some ((w.removeTask (.named name)).done a)
    | none => w.giveUp? deadline .timedOut
  | .asking kind v => w.sailThen? v (.asking kind) fun results => w.done (.results kind results)
  | .paging page v => w.sailThen? v (.paging page) (w.landPage page)
  | .sweeping v =>
    w.sailThen? v .sweeping fun results =>
      (w.withFleet (w.fleet.landSweep results w.stamp)).done .nothing
  | .leaving handle call =>
    if call.due ≤ w.now then
      let (callEnd, nodes) := w.nodes.finish handle call w.stamp
      let w := { w with nodes }
      match callEnd with
      | .answered _ => some (w.done .ok)
      | .broken => some (w.done .broken)
    else none
  | .awaitingChange deadline =>
    if w.fleet.broker.changed then
      some ((w.withBroker w.fleet.broker.acknowledge).done (.flag true))
    else (w.withBroker w.fleet.broker.leave).giveUp? deadline (.flag false)
  | .awaitingEvent id deadline =>
    match w.fleet.broker.receive id with
    | (.event e, broker) => some ((w.withBroker broker).done (.event (some e)))
    | (.ended, _) => some (w.done (.event none))
    | (.pending, _) => w.giveUp? deadline .timedOut
  | .awaitingFrame name startedAt deadline =>
    (w.nextFrame? name startedAt).or (w.giveUp? deadline .timedOut)
  | .running listener =>
    match w.site with
    | .server s => if s.signal.reaches listener then some (w.beginStop s .ok) else none
    | .parts _ => some (w.refuse .server)
  | .stopping [] _ answer => some (w.logOutAll answer)
  | .stopping (n :: rest) deadline answer =>
    match (w.task? (.background n)).bind Task.answer? with
    | some _ => some (w, .stopping rest (w.now + Server.stopTimeout) answer)
    | none =>
      if deadline ≤ w.now then some (w, .stopping rest (w.now + Server.stopTimeout) answer)
      else none
  | .loggingOut v answer =>
    w.sailThen? v (.loggingOut · answer) fun _ => w.endStop.done answer
  | .batch answers current rest =>
    match current with
    | .finished a =>
      match rest with
      | [] => some (w.done (.many (a :: answers).reverse))
      | step :: rest => some (w, .batch (a :: answers) (.begin step) rest)
    | current =>
      (w.goOn? current).map fun (w, current) => (w, .batch answers current rest)

/-- The times at which a job may go on. -/
def timers (w : World) : Job → List Instant
  | .begin _ => []
  | .finished _ => []
  | .sleeping wakeAt => [wakeAt]
  | .joining _ deadline => [deadline]
  | .asking _ v => v.timers
  | .paging _ v => v.timers
  | .sweeping v => v.timers
  | .leaving _ call => [call.due]
  | .awaitingChange deadline => [deadline]
  | .awaitingEvent _ deadline => [deadline]
  | .awaitingFrame name _ deadline =>
    match named? w.streams name with
    | some (some s) => [s.heartbeat.due, deadline]
    | _ => [deadline]
  | .running _ => []
  | .stopping _ deadline _ => [deadline]
  | .loggingOut v _ => v.timers
  | .batch _ current _ => timers w current

/-! ## Tasks -/

/-- Go on with the polling of the nodes. -/
def poll? (w : World) (loop : HealthLoop) (listener : ShutdownListener)
    (sweep : Option (Voyage .authStatus)) : Option (World × Task) :=
  match loop, sweep with
  | .stopped, _ => none
  | .waiting _ _, _ =>
    (w.fleet.healthWake? loop listener w.now).map fun wake =>
      let (loop, fleet) := w.fleet.wakeHealth loop w.now wake
      (w.withFleet fleet, .polling loop listener none)
  | loop, none =>
    let (w, v) := w.departAll .authStatus fun _ => ()
    some (w, .polling loop listener (some v))
  | loop, some v =>
    match v.flight.results? with
    | none => (w.sail? v).map fun (w, v) => (w, .polling loop listener (some v))
    | some results =>
      let (loop, fleet) := (w.fleet.landSweep results w.stamp).afterSweep loop w.now w.period
      some (w.withFleet fleet, .polling loop listener none)

/-- The wake-ups of the reaper in the order in which they are tried. -/
def reaperWakes : List ReaperWake := [.shutdown, .tick]

/-- Go on with a task; there is no result while it has to wait. -/
def goOnTask? (w : World) : Task → Option (World × Task)
  | .job job => (w.goOn? job).map fun (w, job) => (w, .job job)
  | .polling loop listener sweep => w.poll? loop listener sweep
  | .reaping reaper =>
    (reaperWakes.find? (reaper.isReady w.fleet.signal w.now)).map fun wake =>
      let (reaper, cursors) := reaper.wake w.fleet.cluster.cursors w.now wake
      (w.withCursors cursors, .reaping reaper)

/-- The times at which a task may go on. -/
def taskTimers (w : World) : Task → List Instant
  | .job job => w.timers job
  | .polling loop _ sweep =>
    match loop, sweep with
    | .waiting tick graceEnd, _ =>
      (HealthLoop.timer? w.fleet.monitor.phase tick graceEnd).toList
    | _, some v => v.timers
    | _, none => []
  | .reaping (.waiting ticker _) => [ticker.due]
  | .reaping .stopped => []

/-- Go on once with each of some tasks that can; it is said whether one could. -/
def pass : List TaskKey → World × Bool → World × Bool
  | [], s => s
  | key :: rest, (w, moved) =>
    match (w.task? key).bind w.goOnTask? with
    | some (w, task) => pass rest (w.setTask key task, true)
    | none => pass rest (w, moved)

/-- Go on with all tasks until all have to wait. -/
def settle : (fuel : Nat) → World → World
  | 0, w => w
  | fuel + 1, w =>
    match pass (w.tasks.map (·.1)) (w, false) with
    | (w, true) => settle fuel w
    | (w, false) => w

/-- Go on with a job until it has to wait or is over; it is said whether it moved. -/
def push : (fuel : Nat) → World × Job → Bool → (World × Job) × Bool
  | 0, s, moved => (s, moved)
  | fuel + 1, (w, job), moved =>
    match w.goOn? job with
    | some s => push fuel s true
    | none => ((w, job), moved)

/-- The next time after now at which something may go on. -/
def nextTime? (w : World) (job : Job) : Option Instant :=
  let all := w.timers job ++ w.tasks.flatMap fun t => w.taskTimers t.2
  (all.filter (w.now < ·)).min?

/-- Carry out a job to its end. -/
def finishJob : (fuel : Nat) → World × Job → World × Answer
  | 0, (w, _) => (w, .timedOut)
  | fuel + 1, s =>
    let ((w, job), moved) := push fuel s false
    match job with
    | .finished a => (w, a)
    | job =>
      match pass (w.tasks.map (·.1)) (w, false) with
      | (w, true) => finishJob fuel (w, job)
      | (w, false) =>
        if moved then finishJob fuel (w, job)
        else
          match w.nextTime? job with
          | some now => finishJob fuel ({ w with now }, job)
          | none => (w, .timedOut)

/-- The greatest number of moves between two steps. -/
def fuel : Nat := 1000000

/-- Carry out a step; afterwards all tasks go on until they have to wait for time. -/
def perform (w : World) (step : Step) : World × Answer :=
  let (w, a) := finishJob fuel (w, .begin step)
  (settle fuel w, a)

end World

end FilterFleet.Trial
