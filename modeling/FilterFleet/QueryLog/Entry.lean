import FilterFleet.Json.Record

/-! # Pages of a query log

A node answers a query log request with a page: logged queries, newest first, and the cursor of the
next page.
-/

namespace FilterFleet

/-- How a query was answered. -/
structure ReplyInfo where
  type : Option String
  /-- Seconds. -/
  time : Float
deriving Inhabited

namespace ReplyInfo

/-- No answer. -/
def none : ReplyInfo := ⟨.none, 0.0⟩

/-- A reply is written as an object. -/
def toJson (r : ReplyInfo) : Json :=
  .obj [("type", Json.optional .str r.type), ("time", .float r.time)]

/-- Both parts may be missing. -/
def ofJson? (v : Json) : Option ReplyInfo := do
  match ← v.fields? ["type", "time"] with
  | [type, time] =>
    some { type := ← Json.maybe Json.str? type, time := ← Json.orElse 0.0 Json.float? time }
  | _ => .none

end ReplyInfo

/-- Who asked. -/
structure ClientInfo where
  ip : String
  name : Option String
deriving DecidableEq, Repr, Inhabited

namespace ClientInfo

/-- A client is written as an object. -/
def toJson (c : ClientInfo) : Json :=
  .obj [("ip", .str c.ip), ("name", Json.optional .str c.name)]

/-- Both parts may be missing. -/
def ofJson? (v : Json) : Option ClientInfo := do
  match ← v.fields? ["ip", "name"] with
  | [ip, name] => some { ip := ← Json.orElse "" Json.str? ip, name := ← Json.maybe Json.str? name }
  | _ => none

end ClientInfo

/-- An extended DNS error. -/
structure ExtendedError where
  code : Int64
  text : Option String
deriving DecidableEq, Inhabited

namespace ExtendedError

/-- An extended error is written as an object. -/
def toJson (e : ExtendedError) : Json :=
  .obj [("code", Json.ofInt64 e.code), ("text", Json.optional .str e.text)]

/-- Both parts may be missing. -/
def ofJson? (v : Json) : Option ExtendedError := do
  match ← v.fields? ["code", "text"] with
  | [code, text] =>
    some { code := ← Json.orElse 0 Json.int64? code, text := ← Json.maybe Json.str? text }
  | _ => none

end ExtendedError

/-- One logged query. -/
structure QueryEntry where
  id : Int64
  /-- Unix time with a fraction. -/
  time : Float
  type : String
  status : Option String
  dnssec : Option String
  domain : String
  resolver : Option String
  reply : ReplyInfo
  client : ClientInfo
  listId : Option Int64
  ede : ExtendedError
  cname : Option String
deriving Inhabited

namespace QueryEntry

/-- An entry is written as an object, absent parts as `null`. -/
def toJson (e : QueryEntry) : Json :=
  .obj [("id", Json.ofInt64 e.id), ("time", .float e.time), ("type", .str e.type),
    ("status", Json.optional .str e.status), ("dnssec", Json.optional .str e.dnssec),
    ("domain", .str e.domain), ("upstream", Json.optional .str e.resolver),
    ("reply", e.reply.toJson), ("client", e.client.toJson),
    ("list_id", Json.optional Json.ofInt64 e.listId), ("ede", e.ede.toJson),
    ("cname", Json.optional .str e.cname)]

/-- Id and time must be given. -/
def ofJson? (v : Json) : Option QueryEntry := do
  match ← v.fields? ["id", "time", "type", "status", "dnssec", "domain", "upstream", "reply",
      "client", "list_id", "ede", "cname"] with
  | [id, time, type, status, dnssec, domain, resolver, reply, client, listId, ede, cname] =>
    some {
      id := ← Json.required Json.int64? id
      time := ← Json.required Json.float? time
      type := ← Json.orElse "" Json.str? type
      status := ← Json.maybe Json.str? status
      dnssec := ← Json.maybe Json.str? dnssec
      domain := ← Json.orElse "" Json.str? domain
      resolver := ← Json.maybe Json.str? resolver
      reply := ← Json.orElse .none ReplyInfo.ofJson? reply
      client := ← Json.orElse ⟨"", none⟩ ClientInfo.ofJson? client
      listId := ← Json.maybe Json.int64? listId
      ede := ← Json.orElse ⟨0, none⟩ ExtendedError.ofJson? ede
      cname := ← Json.maybe Json.str? cname }
  | _ => none

end QueryEntry

/-- A page of a node's query log. -/
structure QueryPage where
  queries : List QueryEntry
  /-- The node's cursor of the next page. -/
  cursor : Option Int64
  recordsTotal : Int64
  recordsFiltered : Int64
  draw : Int64
  /-- Processing time in seconds. -/
  took : Float
deriving Inhabited

namespace QueryPage

/-- A page without queries that holds a cursor. -/
def blank (cursor : Option Int64) : QueryPage :=
  { queries := [], cursor, recordsTotal := 0, recordsFiltered := 0, draw := 0, took := 0.0 }

/-- A page is written as an object. -/
def toJson (p : QueryPage) : Json :=
  .obj [("queries", .arr (p.queries.map QueryEntry.toJson)),
    ("cursor", Json.optional Json.ofInt64 p.cursor),
    ("recordsTotal", Json.ofInt64 p.recordsTotal),
    ("recordsFiltered", Json.ofInt64 p.recordsFiltered), ("draw", Json.ofInt64 p.draw),
    ("took", .float p.took)]

/-- Every part may be missing. -/
def ofJson? (v : Json) : Option QueryPage := do
  match ← v.fields? ["queries", "cursor", "recordsTotal", "recordsFiltered", "draw", "took"] with
  | [queries, cursor, recordsTotal, recordsFiltered, draw, took] =>
    some {
      queries := ← Json.orElse [] (Json.list? QueryEntry.ofJson?) queries
      cursor := ← Json.maybe Json.int64? cursor
      recordsTotal := ← Json.orElse 0 Json.int64? recordsTotal
      recordsFiltered := ← Json.orElse 0 Json.int64? recordsFiltered
      draw := ← Json.orElse 0 Json.int64? draw
      took := ← Json.orElse 0.0 Json.float? took }
  | _ => none

end QueryPage

end FilterFleet
