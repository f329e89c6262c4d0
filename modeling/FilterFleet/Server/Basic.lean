import FilterFleet.Server.Fleet

/-! # The server

The server keeps the settings of its members beside the members themselves, so that no two members
have the same address.  It starts and stops the background tasks: the polling of the nodes' health
and the removal of expired cursors.
-/

namespace FilterFleet

/-- How a node is built from its settings. -/
abbrev Connector := NodeSettings → Except FleetError Member

/-- The numbers of the background tasks: polling, then the removal of cursors. -/
structure BackgroundTasks where
  health : Nat
  reaper : Nat
deriving DecidableEq

/-- The server. -/
structure Server extends Fleet where
  config : FleetConfig
  /-- The settings of the members. -/
  settings : NodeMap NodeSettings
  /-- The listener that was there before anybody could shut the server down. -/
  mainListener : Option ShutdownListener
  /-- The background tasks that were started and not yet stopped. -/
  tasks : Option BackgroundTasks
  nextTask : Nat

namespace Server

/-! ## Building -/

/-- Build one node and add it. -/
def addFirst (connect : Connector) (s : Server) (settings : NodeSettings) :
    Except FleetError Server :=
  match connect settings with
  | .error e => .error (.startupFailed ("node " ++ settings.id.text ++ ": " ++ e.message))
  | .ok member =>
    match s.cluster.add member with
    | (.error e, _) => .error e
    | (.ok (), cluster) =>
      .ok { s with cluster, settings := s.settings.insert settings.id settings }

/-- The server of a configuration, without its nodes. -/
def bare (config : FleetConfig) : Server :=
  { cluster := .empty config.requestTimeout config.cursorTtl
    broker := .new config.events.channelCapacity
    monitor := .new config.pollingInterval config.gracePeriod
    signal := .new
    config
    settings := .empty
    mainListener := some ShutdownSignal.new.listen
    tasks := none
    nextTask := 1 }

/-- The server of a configuration. -/
def build (config : FleetConfig) (connect : Connector) : Except FleetError Server := do
  config.validate
  config.nodes.foldlM (addFirst connect) (bare config)

/-! ## Membership

A call about the membership is answered, and leaves a server whether it is accepted or not. -/

/-- Add a node. -/
def addNode (s : Server) (connect : Connector) (settings : NodeSettings) :
    Except FleetError Unit × Server :=
  if s.settings.contains settings.id then (.error (.nodeExists settings.id), s)
  else
    match validateNodes (s.settings.values ++ [settings]) with
    | .error e => (.error e, s)
    | .ok () =>
      match connect settings with
      | .error e => (.error e, s)
      | .ok member =>
        let (added, cluster) := s.cluster.add member
        let s := { s with cluster }
        match added with
        | .error e => (.error e, s)
        | .ok () => (.ok (), { s with settings := s.settings.insert settings.id settings })

/-- Give a member new settings; its handle is returned. -/
def updateNode (s : Server) (settings : NodeSettings) : Except FleetError Nat × Server :=
  if !s.settings.contains settings.id then (.error (.nodeNotFound settings.id), s)
  else
    let others := s.settings.values.map fun n => if n.id = settings.id then settings else n
    match validateNodes others with
    | .error e => (.error e, s)
    | .ok () =>
      let (updated, cluster) := s.cluster.update settings.id settings
      let s := { s with cluster }
      match updated with
      | .error e => (.error e, s)
      | .ok handle => (.ok handle, { s with settings := s.settings.insert settings.id settings })

/-- Remove a node and its health record; the node is returned, for its session to be ended. -/
def removeNode (s : Server) (id : NodeId) (stamp : Timestamp) :
    Except FleetError (Option Member) × Server :=
  if !s.settings.contains id then (.error (.nodeNotFound id), s)
  else
    let (member, cluster) := s.cluster.remove id
    let fleet := { s.toFleet with cluster }.forget id stamp
    (.ok member, { s with toFleet := fleet, settings := s.settings.erase id })

/-! ## Start and stop -/

/-- How long the server waits for each background task to stop. -/
def stopTimeout : Span := Span.ofSecs 5

/-- Start the background tasks, unless they were started already; the new ones are returned. -/
def start (s : Server) : Option BackgroundTasks × Server :=
  match s.tasks with
  | some _ => (none, s)
  | none =>
    let tasks : BackgroundTasks := ⟨s.nextTask, s.nextTask + 1⟩
    (some tasks, { s with tasks := some tasks, nextTask := s.nextTask + 2 })

/-- Tell all tasks to stop. -/
def shutdown (s : Server) : Server := { s with signal := s.signal.send }

/-- Begin to stop: the tasks to wait for are returned. -/
def beginStop (s : Server) : Option BackgroundTasks × Server :=
  (s.tasks, { s.shutdown with tasks := none })

/-- End the stop, when the nodes have been logged out of. -/
def endStop (s : Server) : Server :=
  { s with cluster := { s.cluster with cursors := s.cluster.cursors.clear } }

/-- The listener that waits for the shutdown: the first one, while nobody has taken it. -/
def takeListener (s : Server) : ShutdownListener × Server :=
  (s.mainListener.getD s.signal.listen, { s with mainListener := none })

/-- The form for diagnostics. -/
def debug (s : Server) : String :=
  "Server \x7b nodes: [" ++
    ", ".intercalate (s.cluster.members.ids.map fun id => "NodeId(" ++ id.text ++ ")") ++
    "], subscribers: " ++ toString s.broker.subscribers ++ ", .. \x7d"

end Server

end FilterFleet
