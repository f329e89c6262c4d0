import FilterFleet.Time.Timestamp

/-! # Sessions as a node reports them

A node answers a login and a check of the session with the same body.  What callers of the fleet
see of it is the status: whether the session is valid, and until when.
-/

namespace FilterFleet

/-- A processing time in seconds as milliseconds. -/
def tookMillis (secs : Float) : Float := secs * 1000.0

/-- The session part of an answer. -/
structure SessionInfo where
  valid : Bool
  sid : Option String
  csrf : Option String
  /-- Remaining seconds. -/
  validity : Int64
deriving DecidableEq, Inhabited

namespace SessionInfo

/-- The form for diagnostics hides the session id. -/
def debug (s : SessionInfo) : String :=
  "SessionInfo \x7b valid: " ++ toString s.valid ++ ", validity: " ++ toString s.validity.toInt ++
    ", .. \x7d"

/-- Only the validity flag must be given. -/
def ofJson? (v : Json) : Option SessionInfo := do
  match ← v.fields? ["valid", "sid", "csrf", "validity"] with
  | [valid, sid, csrf, validity] =>
    some {
      valid := ← Json.required Json.bool? valid
      sid := ← Json.maybe Json.str? sid
      csrf := ← Json.maybe Json.str? csrf
      validity := ← Json.orElse 0 Json.int64? validity }
  | _ => none

/-- The remaining seconds, none when the report is negative. -/
def secondsLeft (s : SessionInfo) : Nat := s.validity.toInt.toNat

end SessionInfo

/-- A node's answer to a login or to a check of the session. -/
structure AuthAnswer where
  session : SessionInfo
  /-- Processing time in seconds. -/
  took : Float
deriving Inhabited

/-- The session must be given. -/
def AuthAnswer.ofJson? (v : Json) : Option AuthAnswer := do
  match ← v.fields? ["session", "took"] with
  | [session, took] =>
    some {
      session := ← Json.required SessionInfo.ofJson? session
      took := ← Json.orElse 0.0 Json.float? took }
  | _ => none

/-- The outcome of a session check. -/
structure AuthStatus where
  valid : Bool
  /-- Remaining seconds. -/
  validitySeconds : Int64
  validUntil : Timestamp
  tookMs : Float
deriving Inhabited

namespace AuthStatus

/-- The status that an answer received at `now` reports. -/
def ofAnswer (now : Timestamp) (answer : AuthAnswer) : AuthStatus :=
  let left := answer.session.secondsLeft
  { valid := answer.session.valid
    validitySeconds := Int64.ofNat left
    validUntil := now.later (Span.ofSecs left)
    tookMs := tookMillis answer.took }

/-- A status is written as an object. -/
def toJson (s : AuthStatus) : Json :=
  .obj [("valid", .bool s.valid), ("validitySeconds", Json.ofInt64 s.validitySeconds),
    ("validUntil", s.validUntil.toJson), ("tookMs", .float s.tookMs)]

/-- Every part must be given. -/
def ofJson? (v : Json) : Option AuthStatus := do
  match ← v.fields? ["valid", "validitySeconds", "validUntil", "tookMs"] with
  | [valid, validitySeconds, validUntil, tookMs] =>
    some {
      valid := ← Json.required Json.bool? valid
      validitySeconds := ← Json.required Json.int64? validitySeconds
      validUntil := ← Json.required Timestamp.ofJson? validUntil
      tookMs := ← Json.required Json.float? tookMs }
  | _ => none

end AuthStatus

end FilterFleet
