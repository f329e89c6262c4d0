import FilterFleet.Json.Record

/-! # Query log requests

A request to one node's query log: filters, and either where a fresh search starts or the node's
own cursor to go on from.  It is sent as key and value pairs; a filter that is an empty text is
left out.
-/

namespace FilterFleet

/-- Which queries to report.  A part that is absent does not restrict. -/
structure QueryFilters where
  /-- Unix time in seconds, inclusive. -/
  since : Option Int64
  /-- Unix time in seconds, exclusive. -/
  before : Option Int64
  domain : Option String
  clientIp : Option String
  clientName : Option String
  /-- The resolver that a query was passed on to. -/
  resolver : Option String
  type : Option String
  status : Option String
  reply : Option String
  dnssec : Option String
  /-- Whether to read from disk instead of memory. -/
  disk : Option Bool
deriving DecidableEq, Inhabited

namespace QueryFilters

/-- The filters that every query passes. -/
def none : QueryFilters :=
  ⟨.none, .none, .none, .none, .none, .none, .none, .none, .none, .none, .none⟩

/-- Whether no filter is set. -/
def isEmpty (f : QueryFilters) : Bool := f == none

/-- The pair of a text filter, unless it is absent or empty. -/
def textPair (key : String) (value : Option String) : List (String × String) :=
  match value with
  | some v => if v.isEmpty then [] else [(key, v)]
  | .none => []

/-- The pairs of the filters: times, texts, then where to read from. -/
def pairs (f : QueryFilters) : List (String × String) :=
  (f.since.map fun t => ("from", toString t.toInt)).toList ++
    (f.before.map fun t => ("until", toString t.toInt)).toList ++
    textPair "domain" f.domain ++ textPair "client_ip" f.clientIp ++
    textPair "client_name" f.clientName ++ textPair "upstream" f.resolver ++
    textPair "type" f.type ++ textPair "status" f.status ++ textPair "reply" f.reply ++
    textPair "dnssec" f.dnssec ++
    (f.disk.map fun d => ("disk", if d then "true" else "false")).toList

/-- Absent parts are left out. -/
def toJson (f : QueryFilters) : Json :=
  .obj (Json.member? "from" Json.ofInt64 f.since ++ Json.member? "until" Json.ofInt64 f.before ++
    Json.member? "domain" Json.str f.domain ++ Json.member? "client_ip" Json.str f.clientIp ++
    Json.member? "client_name" Json.str f.clientName ++
    Json.member? "upstream" Json.str f.resolver ++ Json.member? "type" Json.str f.type ++
    Json.member? "status" Json.str f.status ++ Json.member? "reply" Json.str f.reply ++
    Json.member? "dnssec" Json.str f.dnssec ++ Json.member? "disk" Json.bool f.disk)

/-- The names of the fields in the order of declaration. -/
def fieldNames : List String :=
  ["from", "until", "domain", "client_ip", "client_name", "upstream", "type", "status", "reply",
    "dnssec", "disk"]

/-- Every part may be absent. -/
def ofJson? (v : Json) : Option QueryFilters := do
  match ← v.fields? fieldNames with
  | [since, before, domain, clientIp, clientName, resolver, type, status, reply, dnssec,
      disk] =>
    some {
      since := ← Json.maybe Json.int64? since
      before := ← Json.maybe Json.int64? before
      domain := ← Json.maybe Json.str? domain
      clientIp := ← Json.maybe Json.str? clientIp
      clientName := ← Json.maybe Json.str? clientName
      resolver := ← Json.maybe Json.str? resolver
      type := ← Json.maybe Json.str? type
      status := ← Json.maybe Json.str? status
      reply := ← Json.maybe Json.str? reply
      dnssec := ← Json.maybe Json.str? dnssec
      disk := ← Json.maybe Json.bool? disk }
  | _ => .none

end QueryFilters

/-- One request to a node's query log. -/
structure QueryRequest where
  filters : QueryFilters
  /-- The node's cursor to go on from. -/
  cursor : Option Int64
  /-- The page size. -/
  length : Option UInt32
  /-- The offset of the first record of a fresh search. -/
  start : Option UInt32
deriving DecidableEq, Inhabited

namespace QueryRequest

/-- A request for a first page. -/
def fresh (filters : QueryFilters) (length start : Option UInt32) : QueryRequest :=
  { filters, cursor := none, length, start }

/-- A request that goes on from a cursor. -/
def continuation (filters : QueryFilters) (cursor : Int64) (length : Option UInt32) :
    QueryRequest :=
  { filters, cursor := some cursor, length, start := none }

/-- The pairs of a request: cursor, length and start, then the filters. -/
def pairs (r : QueryRequest) : List (String × String) :=
  (r.cursor.map fun c => ("cursor", toString c.toInt)).toList ++
    (r.length.map fun n => ("length", toString n.toNat)).toList ++
    (r.start.map fun n => ("start", toString n.toNat)).toList ++ r.filters.pairs

end QueryRequest

end FilterFleet
