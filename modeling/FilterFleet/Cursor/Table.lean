import FilterFleet.Cursor.Id
import FilterFleet.Node.Map
import FilterFleet.Time.Ticker

/-! # The table of cursors

A cursor remembers the parameters of a search and how far each node has come.  It lives for a
fixed time from its creation, however often it is looked up.  Expired cursors are removed when they
are looked up, and by a reaper that comes by at intervals; `lookup` treats an expired cursor as
missing in either case.
-/

namespace FilterFleet

/-- What a cursor remembers. -/
structure CursorState (π : Type) where
  /-- The parameters of the first call of the search. -/
  params : π
  /-- The last known offset of each node. -/
  offsets : NodeMap Int64

/-- A stored cursor. -/
structure CursorEntry (π : Type) where
  id : CursorId
  state : CursorState π
  expiresAt : Instant

/-- All stored cursors. -/
structure CursorTable (π : Type) where
  ttl : Span
  entries : List (CursorEntry π)

namespace CursorTable

variable {π : Type}

/-- The table without cursors. -/
def empty (ttl : Span) : CursorTable π := ⟨ttl, []⟩

/-- The stored cursor of an id, expired or not. -/
def find? (t : CursorTable π) (id : CursorId) : Option (CursorEntry π) :=
  t.entries.find? fun e => e.id = id

/-- Whether a cursor is stored under an id, expired or not. -/
def stores (t : CursorTable π) (id : CursorId) : Bool := (t.find? id).isSome

/-- The number of stored cursors, expired ones included. -/
def size (t : CursorTable π) : Nat := t.entries.length

/-- Store a new cursor under the first of the drawn ids that is free.  Without a free id among
them there is no result. -/
def create? (t : CursorTable π) (draws : List CursorId) (now : Instant) (state : CursorState π) :
    Option (CursorId × CursorTable π) :=
  (draws.find? fun id => !t.stores id).map fun id =>
    (id, { t with entries := ⟨id, state, now + t.ttl⟩ :: t.entries })

/-- Take a cursor out. -/
def erase (t : CursorTable π) (id : CursorId) : CursorTable π :=
  { t with entries := t.entries.filter fun e => e.id ≠ id }

/-- Look a cursor up; an expired one is taken out and counts as missing. -/
def lookup (t : CursorTable π) (id : CursorId) (now : Instant) :
    Option (CursorState π) × CursorTable π :=
  match t.find? id with
  | none => (none, t)
  | some e => if e.expiresAt ≤ now then (none, t.erase id) else (some e.state, t)

/-- Take out every expired cursor. -/
def reap (t : CursorTable π) (now : Instant) : CursorTable π :=
  { t with entries := t.entries.filter fun e => now < e.expiresAt }

/-- Take out every cursor. -/
def clear (t : CursorTable π) : CursorTable π := { t with entries := [] }

/-- The form for diagnostics. -/
def debug (t : CursorTable π) : String :=
  "CursorManager \x7b live: " ++ toString t.size ++ ", ttl: " ++ Span.text t.ttl ++ " \x7d"

end CursorTable

/-! ## The reaper -/

/-- The reaper between two visits. -/
inductive Reaper where
  | waiting (ticker : Ticker) (listener : ShutdownListener)
  | stopped

/-- What wakes the reaper. -/
inductive ReaperWake where
  | shutdown
  | tick

namespace Reaper

/-- A reaper that comes by at once and then at intervals. -/
def start? (now : Instant) (interval : Span) (listener : ShutdownListener) : Option Reaper :=
  (Ticker.startingAt? now interval).map (waiting · listener)

/-- Whether a wake-up is possible now. -/
def isReady (r : Reaper) (signal : ShutdownSignal) (now : Instant) : ReaperWake → Bool
  | .shutdown =>
    match r with
    | waiting _ listener => signal.reaches listener
    | stopped => false
  | .tick =>
    match r with
    | waiting ticker _ => ticker.isDue now
    | stopped => false

/-- Wake the reaper: it stops, or takes out the expired cursors and waits for the next tick. -/
def wake (r : Reaper) (table : CursorTable π) (now : Instant) :
    ReaperWake → Reaper × CursorTable π
  | .shutdown => (stopped, table)
  | .tick =>
    match r with
    | waiting ticker listener => (waiting (ticker.take now) listener, table.reap now)
    | stopped => (stopped, table)

end Reaper

end FilterFleet
