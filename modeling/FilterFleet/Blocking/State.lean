import FilterFleet.Session.Status

/-! # Blocking states

Whether a node filters at the moment, and requests to change that, for good or for a while.
-/

namespace FilterFleet

/-- Whether a node filters. -/
inductive BlockingStatus where
  | enabled
  | disabled
  /-- The node could not apply its state. -/
  | failed
  /-- Anything else. -/
  | unknown
deriving DecidableEq, Repr, Inhabited

namespace BlockingStatus

/-- The word for a status. -/
def text : BlockingStatus → String
  | enabled => "enabled"
  | disabled => "disabled"
  | failed => "failed"
  | unknown => "unknown"

/-- The status that a word names; words of no other status name `unknown`. -/
def ofText (s : String) : BlockingStatus :=
  ([enabled, disabled, failed].find? fun x => x.text == s).getD unknown

/-- A status is written as its word. -/
def toJson (s : BlockingStatus) : Json := .str s.text

/-- A status is read from its word. -/
def ofJson? (v : Json) : Option BlockingStatus := v.choice?.map ofText

end BlockingStatus

/-- The blocking state of a node, with amounts of time as numbers of type `ν`. -/
structure BlockingReading (ν : Type) where
  status : BlockingStatus
  /-- Seconds until the state flips back, while a timer runs. -/
  timerSecs : Option ν
  tookMs : ν
deriving Inhabited

/-- The blocking state of a node, as it is reported. -/
abbrev BlockingState := BlockingReading Float

namespace BlockingState

/-- A state is written as an object; an absent timer is left out. -/
def toJson (s : BlockingState) : Json :=
  .obj ([("status", s.status.toJson)] ++ Json.member? "timerSecs" Json.float s.timerSecs ++
    [("tookMs", .float s.tookMs)])

/-- Only the timer may be absent. -/
def ofJson? (v : Json) : Option BlockingState := do
  match ← v.fields? ["status", "timerSecs", "tookMs"] with
  | [status, timerSecs, tookMs] =>
    some {
      status := ← Json.required BlockingStatus.ofJson? status
      timerSecs := ← Json.maybe Json.float? timerSecs
      tookMs := ← Json.required Json.float? tookMs }
  | _ => none

end BlockingState

/-- A node's own report of its blocking state. -/
structure BlockingReport where
  blocking : BlockingStatus
  /-- Seconds. -/
  timer : Option Float
  /-- Processing time in seconds. -/
  took : Float
deriving Inhabited

namespace BlockingReport

/-- Only the status must be given. -/
def ofJson? (v : Json) : Option BlockingReport := do
  match ← v.fields? ["blocking", "timer", "took"] with
  | [blocking, timer, took] =>
    some {
      blocking := ← Json.required BlockingStatus.ofJson? blocking
      timer := ← Json.maybe Json.float? timer
      took := ← Json.orElse 0.0 Json.float? took }
  | _ => none

/-- The state that a report describes; a timer that is not positive is none. -/
def state (r : BlockingReport) : BlockingState :=
  { status := r.blocking
    timerSecs := r.timer.filter fun t => t > 0.0
    tookMs := tookMillis r.took }

end BlockingReport

/-- A change of the blocking state. -/
structure BlockingChange where
  /-- Whether to filter. -/
  blocking : Bool
  /-- Seconds after which to go back. -/
  timer : Option UInt64
deriving DecidableEq, Inhabited

namespace BlockingChange

/-- Filter from now on. -/
def enable : BlockingChange := ⟨true, none⟩

/-- Stop filtering, for a while if a span is given; only its whole seconds count. -/
def disable (timer : Option Span) : BlockingChange :=
  ⟨false, timer.map fun d => UInt64.ofNat (Span.secs d)⟩

/-- A change is written as an object; an absent timer is left out. -/
def toJson (c : BlockingChange) : Json :=
  .obj ([("blocking", .bool c.blocking)] ++
    Json.member? "timer" (fun t => .ofNat t.toNat) c.timer)

/-- The timer may be absent. -/
def ofJson? (v : Json) : Option BlockingChange := do
  match ← v.fields? ["blocking", "timer"] with
  | [blocking, timer] =>
    some {
      blocking := ← Json.required Json.bool? blocking
      timer := ← Json.maybe Json.uint64? timer }
  | _ => none

end BlockingChange

end FilterFleet
