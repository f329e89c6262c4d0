import FilterFleet.Cluster.Result
import FilterFleet.Events.Frame
import FilterFleet.Json.Writer
import FilterFleet.Session.Status

/-! # Health records

The latest observation of each node, and the counts over all of them.  A sweep replaces the records
by what the nodes answered; whenever the records change, both are published.
-/

namespace FilterFleet

/-- How a node is doing. -/
inductive HealthStatus where
  /-- It answers and its session is valid. -/
  | online
  /-- It answers, but its session is not valid. -/
  | degraded
  /-- It does not answer, or with an error. -/
  | offline
deriving DecidableEq, Repr

namespace HealthStatus

/-- The word for a status. -/
def text : HealthStatus → String
  | online => "online"
  | degraded => "degraded"
  | offline => "offline"

/-- The status that a word names. -/
def ofText? (s : String) : Option HealthStatus :=
  [online, degraded, offline].find? fun x => x.text == s

/-- A status is written as its word. -/
def toJson (s : HealthStatus) : Json := .str s.text

/-- A status is read from its word. -/
def ofJson? (v : Json) : Option HealthStatus := v.choice?.bind ofText?

end HealthStatus

/-- The latest observation of a node. -/
structure HealthRecord where
  node : NodeIdentity
  status : HealthStatus
  /-- The processing time of the answer. -/
  latencyMs : Option Float
  /-- What went wrong, of a node that is offline. -/
  lastError : Option String
  updatedAt : Timestamp

namespace HealthRecord

/-- The record of a result. -/
def ofResult (now : Timestamp) (r : NodeResult AuthStatus) : HealthRecord :=
  match r.outcome with
  | .ok auth =>
    { node := r.node
      status := if auth.valid then .online else .degraded
      latencyMs := some auth.tookMs
      lastError := none
      updatedAt := now }
  | .error e =>
    { node := r.node
      status := .offline
      latencyMs := none
      lastError := some e.text
      updatedAt := now }

/-- A record is written with the members of the identity first. -/
def toJson (r : HealthRecord) : Json :=
  .obj (r.node.members ++ [("status", r.status.toJson),
    ("latencyMs", Json.optional Json.float r.latencyMs),
    ("lastError", Json.optional Json.str r.lastError), ("updatedAt", r.updatedAt.toJson)])

end HealthRecord

/-- Counts over all records. -/
structure HealthSummary where
  online : Nat
  total : Nat
  updatedAt : Timestamp
deriving DecidableEq

namespace HealthSummary

/-- The summary before any sweep. -/
def none : HealthSummary := ⟨0, 0, ⟨0⟩⟩

/-- A summary is written as an object. -/
def toJson (s : HealthSummary) : Json :=
  .obj [("online", Json.ofNat s.online), ("total", Json.ofNat s.total),
    ("updatedAt", s.updatedAt.toJson)]

end HealthSummary

/-- The records and their summary. -/
structure HealthBoard where
  records : NodeMap HealthRecord
  summary : HealthSummary

namespace HealthBoard

/-- The board before any sweep. -/
def empty : HealthBoard := ⟨.empty, .none⟩

/-- The board of given records. -/
def ofRecords (now : Timestamp) (records : NodeMap HealthRecord) : HealthBoard :=
  { records
    summary :=
      { online := (records.values.filter fun r => r.status = .online).length
        total := records.size
        updatedAt := now } }

/-- The board after a sweep.  Records of nodes that were not asked or are no longer members are
dropped, and answers of nodes that are no longer members are ignored. -/
def absorb (b : HealthBoard) (results : FanOut AuthStatus) (isMember : NodeId → Bool)
    (now : Timestamp) : HealthBoard :=
  let kept := b.records.filterIds fun id => results.contains id && isMember id
  let answered := results.entries.filter fun e => isMember e.1
  ofRecords now
    (answered.foldl (fun rs e => rs.insert e.1 (HealthRecord.ofResult now e.2)) kept)

/-- The board without the record of a node; none if there is no such record. -/
def forget? (b : HealthBoard) (id : NodeId) (now : Timestamp) : Option HealthBoard :=
  if b.records.contains id then some (ofRecords now (b.records.erase id)) else none

/-- The events that describe a board: the records, then the summary. -/
def events (b : HealthBoard) : List Event :=
  [⟨nodeHealthTopic, (Json.arr (b.records.values.map HealthRecord.toJson)).text⟩,
    ⟨healthSummaryTopic, b.summary.toJson.text⟩]

/-- Publish a board. -/
def publish (b : HealthBoard) (broker : Broker) : Broker :=
  b.events.foldl (fun broker e => (broker.publish e).2) broker

end HealthBoard

end FilterFleet
