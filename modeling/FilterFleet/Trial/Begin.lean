import FilterFleet.Trial.World

/-! # Beginning a step

`World.begin` carries out what a step does before it first waits, and says how it goes on.  Most
steps are over at once.
-/

namespace FilterFleet.Trial

namespace World

/-- The step is over. -/
def done (w : World) (a : Answer) : World × Job := (w, .finished a)

/-- The step names something that is not there. -/
def refuse (w : World) (what : Missing) : World × Job := w.done (.fault (.missing what))

/-- Call all members. -/
def departAll (w : World) (kind : CallKind) (request : NodeId → kind.Request) :
    World × Voyage kind :=
  let flight := w.fleet.cluster.depart kind.Reply w.now
  let (voyage, nodes) := Voyage.depart flight request w.network w.moment w.nodes
  ({ w with nodes }, voyage)

/-- Carry out a step on a node in memory. -/
def onNode (w : World) (id : NodeId) (f : Nat → MemoryNode → World × Job) : World × Job :=
  match w.memoryNode? id with
  | some (handle, m) => f handle m
  | none => w.refuse .node

/-- Carry out a step on the server. -/
def onServer (w : World) (f : Server → World × Job) : World × Job :=
  match w.site with
  | .server s => f s
  | .parts _ => w.refuse .server

/-- Carry out a step on a subscription. -/
def onSubscription (w : World) (name : String) (f : Nat → World × Job) : World × Job :=
  match named? w.subscriptions name with
  | some (some id) => f id
  | some none => w.refuse .droppedSubscription
  | none => w.refuse .subscription

/-- Carry out a step on a stream. -/
def onStream (w : World) (name : String) (f : EventStream → World × Job) : World × Job :=
  match named? w.streams name with
  | some (some s) => f s
  | some none => w.refuse .droppedStream
  | none => w.refuse .stream

/-! ## Membership -/

/-- Add a node to the server. -/
def beginAddNode (w : World) (settings : NodeSettings) : World × Job :=
  w.onServer fun s =>
    let options := s.config.clientOptions
    match s.addNode (w.connector options fun _ => w.nextHandle) settings with
    | (.error e, s) => (w.withServer s).done (.failed e)
    | (.ok (), s) => ((w.withServer s).addConnected options settings).done .ok

/-- Give a node of the server new settings. -/
def beginUpdateNode (w : World) (settings : NodeSettings) : World × Job :=
  w.onServer fun s =>
    match s.updateNode settings with
    | (.error e, s) => (w.withServer s).done (.failed e)
    | (.ok handle, s) =>
      let w := w.withServer s
      { w with nodes := w.nodes.configure handle settings w.moment }.done .ok

/-- Remove a node from the server; it is then logged out of. -/
def beginRemoveNode (w : World) (id : NodeId) : World × Job :=
  w.onServer fun s =>
    match s.removeNode id w.stamp with
    | (.error e, s) => (w.withServer s).done (.failed e)
    | (.ok none, s) => (w.withServer s).done .ok
    | (.ok (some member), s) =>
      let w := w.withServer s
      match w.nodes.begin member.handle .logout () w.network w.moment with
      | (.underway call, nodes) => ({ w with nodes }, .leaving member.handle call)
      | (.over _, nodes) => { w with nodes }.done .ok

/-- Add a node in memory to the cluster. -/
def beginAddClient (w : World) (id : NodeId) (name : String) : World × Job :=
  match w.join id name with
  | .error e => w.done (.failed e)
  | .ok w => w.done .ok

/-- Give a member new settings. -/
def beginUpdateClient (w : World) (id : NodeId) (settings : NodeSettings) : World × Job :=
  match w.fleet.cluster.update id settings with
  | (.error e, cluster) => (w.withCluster cluster).done (.failed e)
  | (.ok handle, cluster) =>
    let w := w.withCluster cluster
    { w with nodes := w.nodes.configure handle settings w.moment }.done .ok

/-- Remove a member from the cluster. -/
def beginRemoveClient (w : World) (id : NodeId) : World × Job :=
  let (member, cluster) := w.fleet.cluster.remove id
  (w.withCluster cluster).done
    (match member with
      | some m => .identity m.identity
      | none => .nothing)

/-! ## Searches -/

/-- Ask for a page. -/
def beginFetch (w : World) (r : FetchRequest) : World × Job :=
  let (opened, cluster) := w.fleet.cluster.openPage r w.now
  let w := w.withCluster cluster
  match opened with
  | .error e => w.done (.failed e)
  | .ok page =>
    let (w, voyage) := w.departAll .fetchQueries page.request
    (w, .paging page voyage)

/-- Store a cursor. -/
def beginCreateCursor (w : World) (params : SearchParams) (offsets : NodeMap Int64) :
    World × Job :=
  let cluster := w.fleet.cluster
  match cluster.cursors.create? w.draws w.now ⟨params, offsets⟩ with
  | none => w.done .broken
  | some (id, cursors) =>
    let drawn := w.drawn + w.draws.length
    let w := { w.withCluster { cluster with cursors } with drawn }
    (w.withAnswered id).done (.cursor id)

/-- Replace the table of cursors. -/
def withCursors (w : World) (cursors : CursorTable SearchParams) : World :=
  w.withCluster { w.fleet.cluster with cursors }

/-! ## Topics -/

/-- Subscribe under a name; the subscription that had the name is dropped. -/
def beginSubscribe (w : World) (name : String) (topics : List String) : World × Job :=
  match w.fleet.broker.subscribe? topics with
  | none => w.done .broken
  | some (id, broker) =>
    let broker :=
      match named? w.subscriptions name with
      | some (some old) => broker.drop old
      | _ => broker
    let w := { w.withBroker broker with subscriptions := rename w.subscriptions name (some id) }
    match broker.subscription? id with
    | some s => w.done (.listening s.topics s.debug)
    | none => w.done .broken

/-- Open a stream under a name; the stream that had the name is dropped. -/
def beginStream (w : World) (name : String) (topics : List String) : World × Job :=
  match EventStream.open? w.fleet.broker topics w.heartbeat w.fleet.signal w.now with
  | none => w.done .broken
  | some (stream, broker) =>
    let broker :=
      match named? w.streams name with
      | some (some old) => old.drop broker
      | _ => broker
    let w := { w.withBroker broker with streams := rename w.streams name (some stream) }
    w.done (.listening stream.topics stream.debug)

/-! ## Start and stop -/

/-- Start the background tasks of the server. -/
def startServer (w : World) (s : Server) : World :=
  let (started, s) := s.start
  let w := w.withServer s
  match started with
  | none => w
  | some tasks =>
    let listener := s.signal.listen
    let w := w.addTask (.background tasks.health) (.polling .warmingUp listener none)
    match Reaper.start? w.now s.config.reapInterval listener with
    | some reaper => w.addTask (.background tasks.reaper) (.reaping reaper)
    | none => w.addTask (.background tasks.reaper) (.job (.finished .broken))

/-- Start the background tasks of the parts of a fleet. -/
def startParts (w : World) (reap : Option Span) : World :=
  let listener := w.fleet.signal.listen
  let w := w.addTask (.named "health") (.polling .warmingUp listener none)
  match reap with
  | none => w
  | some interval =>
    match Reaper.start? w.now interval listener with
    | some reaper => w.addTask (.named "reaper") (.reaping reaper)
    | none => w.addTask (.named "reaper") (.job (.finished .broken))

/-- Begin to stop the server; `answer` is given in the end. -/
def beginStop (w : World) (s : Server) (answer : Answer) : World × Job :=
  let (tasks, s) := s.beginStop
  let numbers :=
    match tasks with
    | some t => [t.health, t.reaper]
    | none => []
  (w.withServer s, .stopping numbers (w.now + Server.stopTimeout) answer)

/-- The diagnostics of a part. -/
def beginDebug (w : World) : Subject → World × Job
  | .cluster => w.done (.text w.fleet.cluster.debug)
  | .broker => w.done (.text w.fleet.broker.debug)
  | .cursors => w.done (.text w.fleet.cluster.cursors.debug)
  | .health => w.done (.text w.fleet.monitor.debugHead)
  | .server => w.onServer fun s => w.done (.text s.debug)

/-! ## All steps -/

/-- Begin a step. -/
def begin (w : World) : Step → World × Job
  | .refused fault => w.done (.fault fault)
  | .named step => (w, .begin (step w.answered))
  | .sleep d => (w, .sleeping (w.now + d))
  | .batch [] => w.done (.many [])
  | .batch (step :: rest) => (w, .batch [] (.begin step) rest)
  | .spawn name step => (w.addTask (.named name) (.job (.begin step))).done .nothing
  | .isDone name =>
    match w.task? (.named name) with
    | some task => w.done (.flag task.answer?.isSome)
    | none => w.done .nothing
  | .join name timeout =>
    match w.task? (.named name) with
    | some _ => (w, .joining name (w.now + timeout))
    | none => w.refuse .task
  | .behave node changes fault =>
    w.onNode node fun handle m =>
      let w := { w with nodes := w.nodes.set handle (.memory (changes.foldl Behaviour.apply m)) }
      match fault with
      | some fault => w.done (.fault fault)
      | none => w.done .ok
  | .calls node => w.onNode node fun _ m => w.done (.calls m.calls)
  | .queryRequests node => w.onNode node fun _ m => w.done (.requests m.queryRequests)
  | .nodeState node => w.onNode node fun _ m => w.done (.nodeState m)
  | .addNode settings => w.beginAddNode settings
  | .updateNode settings => w.beginUpdateNode settings
  | .removeNode id => w.beginRemoveNode id
  | .addClient id name => w.beginAddClient id name
  | .updateClient id settings => w.beginUpdateClient id settings
  | .removeClient id => w.beginRemoveClient id
  | .hasClient id => w.done (.flag (w.fleet.cluster.contains id))
  | .members =>
    w.done (.members w.fleet.cluster.members.ids w.fleet.cluster.callTimeout)
  | .ask call =>
    let (w, voyage) := w.departAll call.kind fun _ => call.request
    (w, .asking call.kind voyage)
  | .fetch r => w.beginFetch r
  | .createCursor params offsets => w.beginCreateCursor params offsets
  | .getCursor id =>
    let (state, cursors) := w.fleet.cluster.cursors.lookup id w.now
    (w.withCursors cursors).done (.cursorState state)
  | .cursors =>
    w.done (.cursors w.fleet.cluster.cursors.size w.fleet.cluster.cursors.ttl)
  | .reap =>
    let before := w.fleet.cluster.cursors
    let after := before.reap w.now
    (w.withCursors after).done (.count (before.size - after.size))
  | .clearCursors => (w.withCursors w.fleet.cluster.cursors.clear).done .nothing
  | .sweep =>
    let (w, voyage) := w.departAll .authStatus fun _ => ()
    (w, .sweeping voyage)
  | .forget id => (w.withFleet (w.fleet.forget id w.stamp)).done .nothing
  | .health => w.done (.board w.fleet.monitor.board)
  | .phase => w.done (.text w.fleet.monitor.phase.debug)
  | .sweeps => w.done (.count w.fleet.monitor.sweeps)
  | .subscribe name topics => w.beginSubscribe name topics
  | .publish event =>
    let (delivered, fleet) := w.fleet.publish event
    (w.withFleet fleet).done (.count delivered)
  | .counts topics =>
    w.done (.counts w.fleet.broker.subscribers (topics.map w.fleet.broker.topicSubscribers))
  | .changed timeout =>
    let broker := w.fleet.broker
    if broker.changed then (w.withBroker broker.acknowledge).done (.flag true)
    else (w.withBroker broker.await, .awaitingChange (w.now + timeout))
  | .tryReceive name =>
    w.onSubscription name fun id =>
      match w.fleet.broker.receive id with
      | (.event e, broker) => (w.withBroker broker).done (.event (some e))
      | (_, _) => w.done (.event none)
  | .receive name timeout =>
    w.onSubscription name fun id => (w, .awaitingEvent id (w.now + timeout))
  | .cancel name =>
    w.onSubscription name fun id =>
      let broker := w.fleet.broker.cancel id
      (w.withBroker broker).done
        (.cancelled ((broker.subscription? id).any fun s => s.cancelled))
  | .drop name =>
    match named? w.subscriptions name with
    | some (some id) =>
      { w.withBroker (w.fleet.broker.drop id) with
        subscriptions := rename w.subscriptions name none }.done .nothing
    | some none => w.refuse .droppedSubscription
    | none => w.refuse .subscription
  | .subscription name =>
    w.onSubscription name fun id =>
      match w.fleet.broker.subscription? id with
      | some s => w.done (.subscription s)
      | none => w.done .broken
  | .openStream name topics => w.beginStream name topics
  | .next name timeout =>
    w.onStream name fun _ => (w, .awaitingFrame name w.now (w.now + timeout))
  | .dropStream name =>
    w.onStream name fun s =>
      { w.withBroker (s.drop w.fleet.broker) with
        streams := rename w.streams name none }.done .nothing
  | .start reap =>
    match w.site with
    | .server s => (w.startServer s).done .nothing
    | .parts _ => (w.startParts reap).done .nothing
  | .run =>
    w.onServer fun s =>
      let w := w.startServer s
      match w.site with
      | .server s =>
        let (listener, s) := s.takeListener
        (w.withServer s, .running listener)
      | .parts _ => w.refuse .server
  | .stop => w.onServer fun s => w.beginStop s .nothing
  | .shutdown =>
    (w.withFleet { w.fleet with signal := w.fleet.signal.send }).done .nothing
  | .debug subject => w.beginDebug subject

end World

end FilterFleet.Trial
