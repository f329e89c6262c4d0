import FilterFleet.Text.Quoted

/-! # Topics and subscribers

Events are published on topics.  A subscription listens on a set of topics and has a queue of
bounded length; an event that finds the queue full is lost to that subscription alone.  The broker
keeps, beside the queues, the subscribers of each topic, the number of live subscriptions, and a
signal that is given whenever that number changes, for one who waits for changes.
-/

namespace FilterFleet

/-- A published message. -/
structure Event where
  topic : String
  payload : String
deriving DecidableEq, Repr

/-- One subscription: what it listens on, and the events waiting for it, oldest first. -/
structure Subscription where
  id : Nat
  topics : List String
  queue : List Event
  cancelled : Bool
deriving DecidableEq

namespace Subscription

/-- Nothing more can arrive: the subscription is cancelled, or listens on nothing. -/
def isClosed (s : Subscription) : Bool := s.cancelled || s.topics.isEmpty

/-- The form for diagnostics. -/
def debug (s : Subscription) : String :=
  "Subscription \x7b id: " ++ toString s.id ++ ", topics: " ++ Text.quotedList s.topics ++
    ", cancelled: " ++ toString s.cancelled ++ " \x7d"

end Subscription

/-- Insert a text into an ascending list without repetitions. -/
def insertTopic (topic : String) : List String → List String
  | [] => [topic]
  | t :: rest =>
    if topic < t then topic :: t :: rest
    else if topic = t then t :: rest
    else t :: insertTopic topic rest

/-- The topics of a list, each once, in ascending order. -/
def topicSet (topics : List String) : List String := topics.foldr insertTopic []

/-- The one who waits for a change. -/
inductive Waiter where
  /-- Nobody waits. -/
  | absent
  | waiting
  /-- A signal has come, and the waiter has not gone on yet. -/
  | called
deriving DecidableEq, Repr

/-- The signal of a change, for one who waits for it.  A signal calls the waiter; where there is none
to be called it is stored, and no more than one is. -/
structure ChangeSignal where
  stored : Bool
  waiter : Waiter
deriving DecidableEq, Repr

namespace ChangeSignal

/-- No signal has been given, and nobody waits. -/
def new : ChangeSignal := ⟨false, .absent⟩

/-- Give a signal. -/
def give (s : ChangeSignal) : ChangeSignal :=
  match s.waiter with
  | .waiting => { s with waiter := .called }
  | _ => { s with stored := true }

/-- Whether one who waits can go on at once. -/
def isPending (s : ChangeSignal) : Bool := s.stored || s.waiter == .called

/-- Begin to wait. -/
def await (s : ChangeSignal) : ChangeSignal := { s with waiter := .waiting }

/-- The waiter goes on, with the signal that has called it or else with the stored one. -/
def take (s : ChangeSignal) : ChangeSignal :=
  match s.waiter with
  | .called => { s with waiter := .absent }
  | _ => ⟨false, .absent⟩

/-- Give up waiting; a signal that has called the waiter is passed on. -/
def leave (s : ChangeSignal) : ChangeSignal := ⟨s.isPending, .absent⟩

end ChangeSignal

/-- The state of all topics and subscriptions. -/
structure Broker where
  /-- The length of every queue. -/
  capacity : Nat
  nextId : Nat
  /-- The subscribers of each topic that has any. -/
  channels : List (String × List Nat)
  /-- The number of live subscriptions. -/
  subscribers : Nat
  /-- The signal that the number of live subscriptions changed. -/
  signal : ChangeSignal
  /-- Every subscription that has not been dropped. -/
  subscriptions : List Subscription

/-- What a subscription finds when it looks for an event. -/
inductive Receipt where
  | event (e : Event)
  /-- The queue is empty and nothing more can arrive. -/
  | ended
  /-- The queue is empty for now. -/
  | pending
deriving DecidableEq

namespace Broker

/-- A broker without subscriptions; queues hold at least one event. -/
def new (capacity : Nat) : Broker := ⟨max capacity 1, 1, [], 0, .new, []⟩

/-- The greatest length of a queue: `2 ^ 61 - 1`. -/
def queueLimit : Nat := 0x1fffffffffffffff

/-- The subscription of an id, unless it was dropped. -/
def subscription? (b : Broker) (id : Nat) : Option Subscription :=
  b.subscriptions.find? fun s => s.id == id

/-- The subscribers of a topic. -/
def subscribersOf (b : Broker) (topic : String) : List Nat :=
  match b.channels.find? fun c => c.1 == topic with
  | some c => c.2
  | none => []

/-- The number of subscribers of a topic. -/
def topicSubscribers (b : Broker) (topic : String) : Nat := (b.subscribersOf topic).length

/-- Add a subscriber to a topic. -/
def addSubscriber (id : Nat) (channels : List (String × List Nat)) (topic : String) :
    List (String × List Nat) :=
  if channels.any fun c => c.1 == topic then
    channels.map fun c => if c.1 == topic then (c.1, c.2 ++ [id]) else c
  else channels ++ [(topic, [id])]

/-- Take a subscriber from a topic; a topic without subscribers is not kept. -/
def removeSubscriber (id : Nat) (channels : List (String × List Nat)) (topic : String) :
    List (String × List Nat) :=
  (channels.map fun c => if c.1 == topic then (c.1, c.2.filter (· != id)) else c).filter
    fun c => !(c.1 == topic && c.2.isEmpty)

/-- Listen on topics; the id of the new subscription is returned.  There is no queue of more than
`queueLimit` events, so that a broker of greater capacity takes no subscriptions. -/
def subscribe? (b : Broker) (topics : List String) : Option (Nat × Broker) :=
  if queueLimit < b.capacity then none
  else
    let topics := topicSet topics
    let id := b.nextId
    some (id, { b with
      nextId := id + 1
      channels := topics.foldl (addSubscriber id) b.channels
      subscribers := b.subscribers + 1
      signal := b.signal.give
      subscriptions := b.subscriptions ++ [⟨id, topics, [], false⟩] })

/-- Whether an event published on the topic of `ids` reaches a subscription. -/
def accepts (b : Broker) (ids : List Nat) (s : Subscription) : Bool :=
  ids.contains s.id && decide (s.queue.length < b.capacity)

/-- Publish an event; the number of subscriptions that it reached is returned. -/
def publish (b : Broker) (e : Event) : Nat × Broker :=
  let ids := b.subscribersOf e.topic
  ((b.subscriptions.filter (b.accepts ids)).length,
    { b with
      subscriptions := b.subscriptions.map fun s =>
        if b.accepts ids s then { s with queue := s.queue ++ [e] } else s })

/-- Change one subscription. -/
def modify (b : Broker) (id : Nat) (f : Subscription → Subscription) : Broker :=
  { b with subscriptions := b.subscriptions.map fun s => if s.id == id then f s else s }

/-- Take the oldest waiting event of a subscription. -/
def receive (b : Broker) (id : Nat) : Receipt × Broker :=
  match b.subscription? id with
  | none => (.ended, b)
  | some s =>
    match s.queue with
    | e :: rest => (.event e, b.modify id fun s => { s with queue := rest })
    | [] => (if s.isClosed then .ended else .pending, b)

/-- Stop listening; events that wait already can still be received.  A second time changes
nothing. -/
def cancel (b : Broker) (id : Nat) : Broker :=
  match b.subscription? id with
  | none => b
  | some s =>
    if s.cancelled then b
    else
      { b.modify id fun s => { s with cancelled := true } with
        channels := s.topics.foldl (removeSubscriber id) b.channels
        subscribers := b.subscribers - 1
        signal := b.signal.give }

/-- Stop listening and give the queue up. -/
def drop (b : Broker) (id : Nat) : Broker :=
  let b := b.cancel id
  { b with subscriptions := b.subscriptions.filter fun s => s.id != id }

/-- Whether one who waits for a change can go on at once. -/
def changed (b : Broker) : Bool := b.signal.isPending

/-- Wait for a change. -/
def await (b : Broker) : Broker := { b with signal := b.signal.await }

/-- Take notice of a change. -/
def acknowledge (b : Broker) : Broker := { b with signal := b.signal.take }

/-- Give up waiting for a change. -/
def leave (b : Broker) : Broker := { b with signal := b.signal.leave }

/-- The form for diagnostics. -/
def debug (b : Broker) : String :=
  "EventBroker \x7b subscribers: " ++ toString b.subscribers ++ ", capacity: " ++
    toString b.capacity ++ " \x7d"

end Broker

end FilterFleet
