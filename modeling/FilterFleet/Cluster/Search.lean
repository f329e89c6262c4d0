import FilterFleet.Cluster.Basic

/-! # Searching the query logs of all nodes

A search gives one page after another.  A first page asks every node afresh; a page that follows
asks each node to go on from the cursor it answered with last, and afresh those that have not
answered with one.  The filters of a search are those of its first call.
-/

namespace FilterFleet

/-- A request for a page of the whole fleet. -/
structure FetchRequest where
  /-- The cursor of the page before; none starts a search. -/
  cursor : Option CursorId
  /-- Used only without a cursor. -/
  filters : QueryFilters
  length : Option UInt32
  /-- Used only without a cursor. -/
  start : Option UInt32
deriving DecidableEq

namespace FetchRequest

/-- A new search. -/
def search (filters : QueryFilters) (length : Option UInt32) : FetchRequest :=
  ⟨none, filters, length, none⟩

/-- The page after the one that `cursor` was returned with. -/
def nextPage (cursor : CursorId) : FetchRequest := ⟨some cursor, .none, none, none⟩

/-- The greatest depth of values under unknown names. -/
def depthLimit : Nat := 126

/-- A request is an object with the filters among its members; every part may be absent.  Members
of other names must hold values that can be kept until all members are read. -/
def ofJson? (v : Json) : Option FetchRequest := do
  match v with
  | .obj members =>
    let own ← v.fields? ["cursor", "length", "start"]
    let others := members.filter fun m => !(["cursor", "length", "start"].contains m.1)
    if others.any fun m => depthLimit < m.2.depth || !m.2.isSound then none
    else
      match own with
      | [cursor, length, start] =>
        some {
          cursor := ← Json.maybe CursorId.ofJson? cursor
          filters := ← QueryFilters.ofJson? (.obj others)
          length := ← Json.maybe Json.uint32? length
          start := ← Json.maybe Json.uint32? start }
      | _ => none
  | _ => none

end FetchRequest

/-- A page of the whole fleet. -/
structure FleetPage where
  /-- The cursor of the next page. -/
  cursor : CursorId
  results : FanOut QueryPage
  /-- No node has come any further. -/
  endOfResults : Bool

namespace FleetPage

/-- A page is written as an object. -/
def toJson (p : FleetPage) : Json :=
  .obj [("cursor", p.cursor.toJson), ("results", FanOut.toJson QueryPage.toJson p.results),
    ("endOfResults", .bool p.endOfResults)]

end FleetPage

/-- A page that has been asked for. -/
structure OpenPage where
  /-- The cursor that the page follows; none for a first page. -/
  cursor : Option CursorId
  params : SearchParams
  /-- The page size of this page. -/
  length : Option UInt32
  /-- How far each node has come before this page. -/
  offsets : NodeMap Int64

namespace OpenPage

/-- What a node is asked. -/
def request (p : OpenPage) (id : NodeId) : QueryRequest :=
  match p.offsets.find? id with
  | some offset => .continuation p.params.filters offset p.length
  | none => .fresh p.params.filters p.length p.params.start

/-- The cursor value that a node answered with, if it did. -/
def answered? (results : FanOut QueryPage) (id : NodeId) : Option Int64 :=
  ((results.find? id).bind NodeResult.response?).bind QueryPage.cursor

/-- How far each node has come after answers. -/
def advance (offsets : NodeMap Int64) (results : FanOut QueryPage) : NodeMap Int64 :=
  results.responses.foldl
    (fun offsets e => match e.2.cursor with
      | some o => offsets.insert e.1 o
      | none => offsets)
    offsets

end OpenPage

namespace Cluster

/-- Ask for a page: the search is started, or the cursor looked up. -/
def openPage (c : Cluster) (r : FetchRequest) (now : Instant) :
    Except FleetError OpenPage × Cluster :=
  match r.cursor with
  | none => (.ok ⟨none, ⟨r.filters, r.length, r.start⟩, r.length, .empty⟩, c)
  | some id =>
    let (found, cursors) := c.cursors.lookup id now
    let c := { c with cursors }
    match found with
    | none => (.error (.cursorNotFound id), c)
    | some state => (.ok ⟨some id, state.params, r.length.or state.params.length, state.offsets⟩, c)

/-- Put a page together.  A page on which no node has come any further repeats its cursor and ends
the search; any other page gets a new cursor, the first of the drawn ids that is free.  Without a
free id there is no result. -/
def landPage? (c : Cluster) (p : OpenPage) (results : FanOut QueryPage) (draws : List CursorId)
    (now : Instant) : Option (FleetPage × Cluster) :=
  let offsets := OpenPage.advance p.offsets results
  let atEnd := p.cursor.filter fun _ => offsets.entries == p.offsets.entries
  match atEnd with
  | some id => some (⟨id, results, true⟩, c)
  | none =>
    (c.cursors.create? draws now ⟨p.params, offsets⟩).map fun (id, cursors) =>
      (⟨id, results, false⟩, { c with cursors })

end Cluster

end FilterFleet
