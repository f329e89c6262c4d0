import FilterFleet.Trial.Step

/-! # The state of a trial

The fleet, its nodes, the steps and background tasks that are under way, and the clock.
-/

namespace FilterFleet.Trial

/-- The fleet of a trial: its parts alone, or a server. -/
inductive Site where
  | parts (fleet : Fleet)
  | server (server : Server)

namespace Site

/-- The parts of the fleet. -/
def fleet : Site → Fleet
  | parts f => f
  | server s => s.toFleet

/-- Replace the parts of the fleet. -/
def withFleet (s : Site) (f : Fleet) : Site :=
  match s with
  | parts _ => parts f
  | server s => server { s with toFleet := f }

end Site

/-- How nodes are built. -/
inductive Construction where
  /-- In memory, except those that are refused. -/
  | memory (refused : List NodeId)
  /-- As clients. -/
  | remote

/-- A step that is being carried out. -/
inductive Job where
  | begin (step : Step)
  | finished (answer : Answer)
  | sleeping (wakeAt : Instant)
  | joining (name : String) (deadline : Instant)
  | asking (kind : CallKind) (voyage : Voyage kind)
  | paging (page : OpenPage) (voyage : Voyage .fetchQueries)
  | sweeping (voyage : Voyage .authStatus)
  /-- A removed node is being logged out of. -/
  | leaving (handle : Nat) (call : MemoryCall .logout)
  | awaitingChange (deadline : Instant)
  | awaitingEvent (subscription : Nat) (deadline : Instant)
  | awaitingFrame (name : String) (startedAt deadline : Instant)
  /-- Running until the shutdown. -/
  | running (listener : ShutdownListener)
  /-- Waiting for background tasks to stop, for each until a deadline. -/
  | stopping (tasks : List Nat) (deadline : Instant) (answer : Answer)
  /-- The nodes are being logged out of. -/
  | loggingOut (voyage : Voyage .logout) (answer : Answer)
  /-- A batch: the answers so far, latest first, the step under way and the steps to come. -/
  | batch (answers : List Answer) (current : Job) (rest : List Step)

/-- What a task is known by. -/
inductive TaskKey where
  | named (name : String)
  /-- A background task of the server. -/
  | background (number : Nat)
  /-- A task whose name was given to another one. -/
  | orphan (number : Nat)
deriving DecidableEq

/-- What runs in the background. -/
inductive Task where
  | job (job : Job)
  | polling (loop : HealthLoop) (listener : ShutdownListener) (sweep : Option (Voyage .authStatus))
  | reaping (reaper : Reaper)

namespace Task

/-- The answer of a task that is over. -/
def answer? : Task → Option Answer
  | job (.finished a) => some a
  | job _ => none
  | polling .stopped _ _ => some .stopped
  | polling _ _ _ => none
  | reaping .stopped => some .stopped
  | reaping _ => none

end Task

/-- The state of a trial. -/
structure World where
  now : Instant
  site : Site
  construction : Construction
  network : NodeClient.Network
  /-- The time between heartbeats of streams. -/
  heartbeat : Span
  nodes : Nodes
  /-- The latest node in memory that was built under an id. -/
  registry : NodeMap Nat
  nextHandle : Nat
  /-- How many cursor ids have been drawn. -/
  drawn : Nat
  /-- The cursors that were answered, in order. -/
  answered : List CursorId
  tasks : List (TaskKey × Task)
  nextOrphan : Nat
  /-- Subscriptions by name; those dropped have none. -/
  subscriptions : List (String × Option Nat)
  /-- Streams by name; those dropped have none. -/
  streams : List (String × Option EventStream)

namespace World

/-- When the trial started, as a timestamp. -/
def epoch : Timestamp := ⟨1764000000000⟩

/-- The present moment. -/
def moment (w : World) : Moment := ⟨w.now, epoch.later w.now⟩

/-- The present time as a timestamp. -/
def stamp (w : World) : Timestamp := w.moment.stamp

/-- The parts of the fleet. -/
def fleet (w : World) : Fleet := w.site.fleet

/-- Replace the parts of the fleet. -/
def withFleet (w : World) (f : Fleet) : World := { w with site := w.site.withFleet f }

/-- Replace the broker. -/
def withBroker (w : World) (broker : Broker) : World := w.withFleet { w.fleet with broker }

/-- Replace the cluster. -/
def withCluster (w : World) (cluster : Cluster) : World := w.withFleet { w.fleet with cluster }

/-- Replace the server. -/
def withServer (w : World) (s : Server) : World := { w with site := .server s }

/-- A number between 0 and 2 ^ 128, different for each `n` below that. -/
def scatter (n : Nat) : Nat :=
  (n + 1) * 0x2545f4914f6cdd1d9e3779b97f4a7c15 % Nat.pow 2 128

/-- The ids that are drawn for a new cursor: one more than there are cursors. -/
def draws (w : World) : List CursorId :=
  (List.range (w.fleet.cluster.cursors.size + 1)).map fun i =>
    CursorId.ofNat (scatter (w.drawn + i))

/-- A cursor was answered. -/
def withAnswered (w : World) (id : CursorId) : World :=
  if w.answered.contains id then w else { w with answered := w.answered ++ [id] }

/-- The time between two sweeps, with the spread at its middle. -/
def period (w : World) : Span :=
  (Span.spread? w.fleet.monitor.interval HealthMonitor.jitterFraction 0.5).getD
    w.fleet.monitor.interval

/-- The value of a name. -/
def named? (names : List (String × α)) (name : String) : Option α :=
  (names.find? fun n => n.1 == name).map (·.2)

/-- Give a name a value. -/
def rename (names : List (String × α)) (name : String) (a : α) : List (String × α) :=
  (name, a) :: names.filter fun n => n.1 != name

/-- The node in memory of an id. -/
def memoryNode? (w : World) (id : NodeId) : Option (Nat × MemoryNode) := do
  let handle ← w.registry.find? id
  match ← w.nodes.get? handle with
  | .memory m => some (handle, m)
  | .remote _ => none

/-- Build a node in memory. -/
def addMemoryNode (w : World) (id : NodeId) (name : String) : World :=
  { w with
    nodes := w.nodes ++ [(w.nextHandle, .memory (.new id name))]
    registry := w.registry.insert id w.nextHandle
    nextHandle := w.nextHandle + 1 }

/-- How a server connects to a node, which would be the next one to be built. -/
def connector (w : World) (options : ClientOptions) (handle : NodeSettings → Nat) : Connector :=
  fun settings =>
    match w.construction with
    | .memory refused =>
      if refused.contains settings.id then .error (.node (.unknown "cannot connect"))
      else .ok ⟨handle settings, (MemoryNode.new settings.id settings.name).identity, none⟩
    | .remote =>
      match NodeClient.new? settings options with
      | .error e => .error (.node e)
      | .ok client => .ok ⟨handle settings, client.identity, some settings⟩

/-- Build the node of settings that a server has connected to. -/
def addConnected (w : World) (options : ClientOptions) (settings : NodeSettings) : World :=
  match w.construction with
  | .memory _ => w.addMemoryNode settings.id settings.name
  | .remote =>
    match NodeClient.new? settings options with
    | .error _ => w
    | .ok client =>
      { w with
        nodes := w.nodes ++ [(w.nextHandle, .remote client)]
        nextHandle := w.nextHandle + 1 }

/-! ## Tasks -/

/-- Add a task under a key; a task that has the key already goes on without it. -/
def addTask (w : World) (key : TaskKey) (task : Task) : World :=
  let tasks := w.tasks.map fun t => if t.1 = key then (.orphan w.nextOrphan, t.2) else t
  { w with tasks := tasks ++ [(key, task)], nextOrphan := w.nextOrphan + 1 }

/-- The task of a key. -/
def task? (w : World) (key : TaskKey) : Option Task :=
  (w.tasks.find? fun t => t.1 = key).map (·.2)

/-- Put a task in the place of the one with its key. -/
def setTask (w : World) (key : TaskKey) (task : Task) : World :=
  { w with tasks := w.tasks.map fun t => if t.1 = key then (key, task) else t }

/-- Take a task out. -/
def removeTask (w : World) (key : TaskKey) : World :=
  { w with tasks := w.tasks.filter fun t => t.1 ≠ key }

/-! ## Building -/

/-- A trial of the parts of a fleet, with nodes in memory. -/
def ofParts (fleet : Fleet) (heartbeat : Span) : World :=
  { now := 0
    site := .parts fleet
    construction := .memory []
    network := NodeClient.unreachable
    heartbeat
    nodes := []
    registry := .empty
    nextHandle := 0
    drawn := 0
    answered := []
    tasks := []
    nextOrphan := 0
    subscriptions := []
    streams := [] }

/-- Add a node in memory to the cluster. -/
def join (w : World) (id : NodeId) (name : String) : Except FleetError World :=
  match w.fleet.cluster.add ⟨w.nextHandle, (MemoryNode.new id name).identity, none⟩ with
  | (.error e, _) => .error e
  | (.ok (), cluster) => .ok ((w.withCluster cluster).addMemoryNode id name)

/-- A trial of a server. -/
def ofServer (config : FleetConfig) (construction : Construction) : Except FleetError World :=
  let w : World :=
    { ofParts (Server.bare config).toFleet config.heartbeat with construction }
  let position := fun (settings : NodeSettings) => config.nodes.findIdx fun n => n.id = settings.id
  match Server.build config (w.connector config.clientOptions position) with
  | .error e => .error e
  | .ok server =>
    .ok (config.nodes.foldl (fun w settings => w.addConnected config.clientOptions settings)
      (w.withServer server))

end World

end FilterFleet.Trial
