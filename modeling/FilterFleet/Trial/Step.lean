import FilterFleet.Server.Basic
import FilterFleet.Trial.Voyage

/-! # Steps of a trial and their answers

A trial is a list of steps.  Most act on the fleet at once; some wait for nodes, for events or for
the clock, and a step may be left to run in the background under a name.
-/

namespace FilterFleet.Trial

/-- What a step may name that is not there. -/
inductive Missing where
  | step (name : String)
  | cursor
  | node
  | task
  | subscription
  | stream
  /-- The subscription was there, but was dropped. -/
  | droppedSubscription
  | droppedStream
  | server

/-- Why a step cannot be carried out. -/
inductive Fault where
  /-- What the step was given cannot be read. -/
  | unreadable
  | missing (what : Missing)
deriving Inhabited

/-- A change of how a node in memory behaves. -/
inductive Behaviour where
  | failure (error : Option NodeError)
  | delay (d : Option Span)
  | breaks (b : Bool)
  | authValid (b : Bool)
  | took (secs : Float)
  | blocking (state : BlockingState)
  | pages (source : PageSource)

/-- Change how a node behaves. -/
def Behaviour.apply (n : MemoryNode) : Behaviour → MemoryNode
  | failure error => { n with failure := error }
  | delay d => { n with delay := d }
  | breaks b => { n with breaks := b }
  | authValid b => { n with authValid := b }
  | took secs => { n with tookSecs := secs }
  | blocking state => { n with blocking := state }
  | pages source => { n with pages := source }

/-- What the diagnostics are asked for. -/
inductive Subject where
  | cluster
  | broker
  | cursors
  | server
  | health

/-- A step of a trial. -/
inductive Step where
  /-- A step that cannot be carried out. -/
  | refused (fault : Fault)
  /-- A step that names cursors by the order in which they were answered. -/
  | named (step : List CursorId → Step)
  | sleep (d : Span)
  /-- Steps with no background work in between. -/
  | batch (steps : List Step)
  | spawn (name : String) (step : Step)
  | isDone (name : String)
  | join (name : String) (timeout : Span)
  /-- Change how a node behaves; `fault` is what is wrong with the change after that. -/
  | behave (node : NodeId) (changes : List Behaviour) (fault : Option Fault)
  | calls (node : NodeId)
  | queryRequests (node : NodeId)
  | nodeState (node : NodeId)
  | addNode (settings : NodeSettings)
  | updateNode (settings : NodeSettings)
  | removeNode (id : NodeId)
  | addClient (id : NodeId) (name : String)
  | updateClient (id : NodeId) (settings : NodeSettings)
  | removeClient (id : NodeId)
  | hasClient (id : NodeId)
  | members
  | ask (call : NodeCall)
  | fetch (request : FetchRequest)
  | createCursor (params : SearchParams) (offsets : NodeMap Int64)
  | getCursor (id : CursorId)
  | cursors
  | reap
  | clearCursors
  | sweep
  | forget (id : NodeId)
  | health
  | phase
  | sweeps
  | subscribe (name : String) (topics : List String)
  | publish (event : Event)
  | counts (topics : List String)
  | changed (timeout : Span)
  | tryReceive (name : String)
  | receive (name : String) (timeout : Span)
  | cancel (name : String)
  | drop (name : String)
  | subscription (name : String)
  | openStream (name : String) (topics : List String)
  | next (name : String) (timeout : Span)
  | dropStream (name : String)
  /-- Start the background tasks; without a server, the reaper only if it is given an interval. -/
  | start (reap : Option Span)
  | run
  | stop
  | shutdown
  | debug (subject : Subject)
deriving Inhabited

/-- The answer of a step. -/
inductive Answer where
  | nothing
  | ok
  | stopped
  | timedOut
  | fault (fault : Fault)
  | failed (error : FleetError)
  /-- The step broke down. -/
  | broken
  | flag (b : Bool)
  /-- Whether a subscription is cancelled. -/
  | cancelled (b : Bool)
  | count (n : Nat)
  | text (s : String)
  | identity (n : NodeIdentity)
  | members (ids : List NodeId) (callTimeout : Span)
  | calls (calls : List NodeCall)
  | requests (requests : List QueryRequest)
  | nodeState (node : MemoryNode)
  | results (kind : CallKind) (results : FanOut kind.Reply)
  | page (page : FleetPage)
  | cursor (id : CursorId)
  | cursorState (state : Option (CursorState SearchParams))
  | cursors (size : Nat) (ttl : Span)
  | board (board : HealthBoard)
  | listening (topics : List String) (debug : String)
  | subscription (s : Subscription)
  | counts (subscribers : Nat) (topics : List Nat)
  | event (e : Option Event)
  | frame (f : Frame) (waited : Span)
  | many (answers : List Answer)

end FilterFleet.Trial
