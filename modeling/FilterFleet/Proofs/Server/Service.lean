import FilterFleet.Proofs.Health.Polling
import FilterFleet.Proofs.Server.Run

/-!
# A server at work

A `Service` is a server with what goes on around it: the polling loops and the reapers that were
started, and the streams that are open. A run goes on by `Move`s, in any order: the server is
started, told to shut down, stopped; a background task or a stream is woken by something that is
ready; events are published and read, nodes come and go, pages of searches are asked for and put
together. What the nodes answer is up to them, so that a move which takes in answers takes any.

Few of the moves have to do with the background tasks (`Move.isOfTasks`); `Aside` says what all the
others leave alone.
-/

namespace FilterFleet

/-- A polling loop that was started, and how it learns of the shutdown. -/
structure Poller where
  loop : HealthLoop
  listener : ShutdownListener

/-- A server with everything that was started around it. -/
structure Service where
  server : Server
  now : Instant
  /-- The polling loops, in the order in which they were started. -/
  pollers : List Poller
  /-- The reapers, in the same order. -/
  reapers : List Reaper
  /-- The streams that have not been given up. -/
  streams : List EventStream

namespace Service

/-- A server around which nothing was started. -/
def opened (server : Server) (now : Instant) : Service := ⟨server, now, [], [], []⟩

/-- What happens to a server and around it. -/
inductive Move where
  | passed (time : Span)
  /-- The background tasks are started, unless they were started already. -/
  | started
  /-- All tasks are told to stop. -/
  | announced
  /-- The server begins to stop, -/
  | stopping
  /-- and has stopped. -/
  | stopped
  /-- Somebody waits for the shutdown. -/
  | listened
  /-- A polling loop is woken. -/
  | woken (poller : Nat) (w : HealthWake)
  /-- The sweep of a polling loop is done; the next one is due after the period. -/
  | swept (poller : Nat) (results : FanOut AuthStatus) (stamp : Timestamp) (period : Span)
  /-- A reaper is woken. -/
  | reaped (reaper : Nat) (w : ReaperWake)
  /-- A sweep is done that no polling loop started. -/
  | examined (results : FanOut AuthStatus) (stamp : Timestamp)
  /-- A stream is opened. -/
  | subscribed (topics : List String)
  /-- A stream is woken and hands out its next frame. -/
  | framed (stream : Nat) (w : StreamWake)
  /-- A stream is given up. -/
  | left (stream : Nat)
  /-- Something is asked of the broker or of a subscription. -/
  | called (c : Broker.Call)
  | added (connect : Connector) (settings : NodeSettings)
  | updated (settings : NodeSettings)
  | removed (id : NodeId) (stamp : Timestamp)
  /-- The client of a node keeps the session of a login. -/
  | loggedIn (validity : Span)
  /-- A page of a search is asked for. -/
  | asked (r : FetchRequest)
  /-- The answers for a page are there. -/
  | answered (page : OpenPage) (results : FanOut QueryPage) (draws : List CursorId)

/-! ## What a move does -/

variable {s t : Service} {m : Move}

/-- Replace the parts of the fleet. -/
def withFleet (s : Service) (fleet : Fleet) : Service :=
  { s with server := { s.server with toFleet := fleet } }

/-- Replace the broker. -/
def withBroker (s : Service) (broker : Broker) : Service :=
  s.withFleet { s.server.toFleet with broker }

/-- Replace the cluster. -/
def withCluster (s : Service) (cluster : Cluster) : Service :=
  s.withFleet { s.server.toFleet with cluster }

/-- Start the background tasks. A reaper without an interval breaks down at once. -/
def start (s : Service) : Service :=
  match s.server.start with
  | (none, _) => s
  | (some _, server) =>
    { s with
      server
      pollers := s.pollers ++ [⟨.warmingUp, server.signal.listen⟩]
      reapers := s.reapers ++
        (Reaper.start? s.now server.config.reapInterval server.signal.listen).toList }

/-- A polling loop goes on, with the fleet that it leaves. -/
def movePoller (s : Service) (i : Nat) (p : Poller) (next : HealthLoop × Fleet) : Service :=
  { s.withFleet next.2 with pollers := s.pollers.set i { p with loop := next.1 } }

/-- Wake a polling loop. -/
def wakePoller (s : Service) (i : Nat) (p : Poller) (w : HealthWake) : Service :=
  s.movePoller i p (s.server.wakeHealth p.loop s.now w)

/-- A polling loop is done with its sweep. -/
def restPoller (s : Service) (i : Nat) (p : Poller) (results : FanOut AuthStatus)
    (stamp : Timestamp) (period : Span) : Service :=
  s.movePoller i p ((s.server.landSweep results stamp).afterSweep p.loop s.now period)

/-- Wake a reaper. -/
def wakeReaper (s : Service) (i : Nat) (r : Reaper) (w : ReaperWake) : Service :=
  let next := r.wake s.server.cluster.cursors s.now w
  { s.withCluster { s.server.cluster with cursors := next.2 } with
    reapers := s.reapers.set i next.1 }

/-- Open a stream. -/
def subscribe (s : Service) (topics : List String) : Service :=
  match EventStream.open? s.server.broker topics s.server.config.heartbeat s.server.signal
      s.now with
  | some (stream, broker) => { s.withBroker broker with streams := s.streams ++ [stream] }
  | none => s

/-- Wake a stream. -/
def wakeStream (s : Service) (i : Nat) (x : EventStream) (w : StreamWake) : Service :=
  let (_, stream, broker) := x.wake s.server.broker s.now w
  { s.withBroker broker with streams := s.streams.set i stream }

/-- What a move does, if it can be made. The time between two sweeps is the interval spread to both
sides, which leaves it at most twice as long. -/
def step? (s : Service) : Move → Option Service
  | .passed time => some { s with now := s.now + time }
  | .started => some s.start
  | .announced => some { s with server := s.server.shutdown }
  | .stopping => some { s with server := s.server.beginStop.2 }
  | .stopped => some { s with server := s.server.endStop }
  | .listened => some { s with server := s.server.takeListener.2 }
  | .woken i w => do
    let p ← s.pollers[i]?
    if p.loop.isReady s.server.monitor.phase s.server.broker.changed
        (s.server.signal.reaches p.listener) s.now w then
      some (s.wakePoller i p w)
    else none
  | .swept i results stamp period => do
    let p ← s.pollers[i]?
    if p.loop.isSweeping ∧ period ≤ 2 * s.server.monitor.interval then
      some (s.restPoller i p results stamp period)
    else none
  | .reaped i w => do
    let r ← s.reapers[i]?
    if r.isReady s.server.signal s.now w then some (s.wakeReaper i r w) else none
  | .examined results stamp => some (s.withFleet (s.server.landSweep results stamp))
  | .subscribed topics => some (s.subscribe topics)
  | .framed i w => do
    let x ← s.streams[i]?
    if !x.finished && x.isReady s.server.broker s.server.signal s.now w then
      some (s.wakeStream i x w)
    else none
  | .left i => do
    let x ← s.streams[i]?
    some { s.withBroker (x.drop s.server.broker) with streams := s.streams.eraseIdx i }
  | .called c => some (s.withBroker (s.server.broker.perform c).2)
  | .added connect settings => some { s with server := (s.server.addNode connect settings).2 }
  | .updated settings => some { s with server := (s.server.updateNode settings).2 }
  | .removed id stamp => some { s with server := (s.server.removeNode id stamp).2 }
  | .loggedIn _ => some s
  | .asked r => some (s.withCluster (s.server.cluster.openPage r s.now).2)
  | .answered page results draws =>
    (s.server.cluster.landPage? page results draws s.now).map fun landed => s.withCluster landed.2

/-- Make moves one after another. -/
def run? (s : Service) (moves : List Move) : Option Service := runMoves? step? s moves

/-! ## Moves that have nothing to do with the background tasks -/

/-- Whether a move starts background tasks, tells them to stop or is one of their own. -/
def Move.isOfTasks : Move → Bool
  | .started | .announced | .stopping | .woken _ _ | .swept _ _ _ _ | .reaped _ _ => true
  | _ => false

/-- The background tasks are left alone. -/
structure Aside (s t : Service) : Prop where
  config : t.server.config = s.server.config
  signal : t.server.signal = s.server.signal
  tasks : t.server.tasks = s.server.tasks
  pollers : t.pollers = s.pollers
  reapers : t.reapers = s.reapers

theorem aside_of_step (h : s.step? m = some t) (hm : m.isOfTasks = false) : Aside s t := by
  cases m with
  | started | announced | stopping | woken _ _ | swept _ _ _ _ | reaped _ _ =>
    simp [Move.isOfTasks] at hm
  | passed _ | stopped | listened | examined _ _ | called _ | loggedIn _ | asked _ =>
    obtain rfl := Option.some.inj h
    exact ⟨rfl, rfl, rfl, rfl, rfl⟩
  | subscribed topics =>
    obtain rfl := Option.some.inj h
    unfold subscribe
    split <;> exact ⟨rfl, rfl, rfl, rfl, rfl⟩
  | framed i w =>
    obtain ⟨x, -, h⟩ := Option.bind_eq_some_iff.mp h
    split at h
    · obtain rfl := Option.some.inj h
      exact ⟨rfl, rfl, rfl, rfl, rfl⟩
    · cases h
  | left i =>
    obtain ⟨x, -, h⟩ := Option.bind_eq_some_iff.mp h
    obtain rfl := Option.some.inj h
    exact ⟨rfl, rfl, rfl, rfl, rfl⟩
  | added connect settings =>
    obtain rfl := Option.some.inj h
    rcases s.server.addNode_cases connect settings with ⟨e, h⟩ | ⟨-, -, member, -, -, h⟩ <;>
    · rw [h]
      exact ⟨rfl, rfl, rfl, rfl, rfl⟩
  | updated settings =>
    obtain rfl := Option.some.inj h
    rcases s.server.updateNode_cases settings with ⟨e, h⟩ | ⟨-, -, member, -, h⟩ <;>
    · rw [h]
      exact ⟨rfl, rfl, rfl, rfl, rfl⟩
  | removed id stamp =>
    obtain rfl := Option.some.inj h
    rcases s.server.removeNode_cases id stamp with ⟨-, h⟩ | ⟨-, h⟩ <;>
    · rw [h]
      exact ⟨rfl, rfl, rfl, rfl, rfl⟩
  | answered page results draws =>
    obtain ⟨landed, -, rfl⟩ := Option.map_eq_some_iff.mp h
    exact ⟨rfl, rfl, rfl, rfl, rfl⟩

end Service

end FilterFleet
