import FilterFleet.Json.Record

/-! # Failures

`InputError` is a value that was given and is not acceptable; `NodeError` is the classified failure
of one call to a node.  The class says whether a later attempt may succeed.
-/

namespace FilterFleet

/-- An unacceptable input. -/
inductive InputError where
  | invalid (field reason : String)
  | length (expected actual : Nat)
  | decoding (context details : String)
deriving DecidableEq, Repr

/-- The wording of an unacceptable input. -/
def InputError.message : InputError → String
  | invalid field reason => "Invalid input for '" ++ field ++ "': " ++ reason
  | length expected actual =>
    "Invalid length: expected " ++ toString expected ++ ", got " ++ toString actual
  | decoding context details => "Decoding error: " ++ context ++ ": " ++ details

/-! ## Classes of node failures -/

/-- The class of a node failure. -/
inductive ErrorKind where
  /-- The call was not complete by its deadline. -/
  | timeout
  /-- The network failed. -/
  | transport
  /-- The node answered with an unexpected status. -/
  | protocol
  /-- The node rejected the credentials or the session. -/
  | auth
  /-- The answer could not be read. -/
  | decode
  /-- Anything else. -/
  | unknown
deriving DecidableEq, Repr, Inhabited

namespace ErrorKind

/-- The word for a class. -/
def text : ErrorKind → String
  | timeout => "timeout"
  | transport => "transport"
  | protocol => "protocol"
  | auth => "auth"
  | decode => "decode"
  | unknown => "unknown"

/-- The class that a word names. -/
def ofText? (s : String) : Option ErrorKind :=
  [timeout, transport, protocol, auth, decode, unknown].find? fun k => k.text == s

/-- A class is written as its word. -/
def toJson (k : ErrorKind) : Json := .str k.text

/-- A class is read from its word. -/
def ofJson? (v : Json) : Option ErrorKind := v.choice?.bind ofText?

end ErrorKind

/-! ## Node failures -/

/-- The classified failure of a call to a node. -/
structure NodeError where
  kind : ErrorKind
  message : String
  /-- The status, when the node answered at all. -/
  httpStatus : Option UInt16
  /-- Whether a later attempt may succeed. -/
  retryable : Bool
deriving DecidableEq, Repr, Inhabited

namespace NodeError

/-- The deadline passed. -/
def timeout (message : String) : NodeError := ⟨.timeout, message, none, true⟩

/-- The network failed. -/
def transport (message : String) : NodeError := ⟨.transport, message, none, true⟩

/-- The answer could not be read. -/
def decode (message : String) : NodeError := ⟨.decode, message, none, false⟩

/-- Anything else. -/
def unknown (message : String) : NodeError := ⟨.unknown, message, none, false⟩

/-- The node did not accept the login. -/
def loginRejected : NodeError := ⟨.auth, "node rejected the login", none, false⟩

/-- An unexpected status.  401 and 403 are about credentials; of the others only the 5xx may
pass. -/
def ofStatus (status : UInt16) : NodeError :=
  if status == 401 || status == 403 then
    ⟨.auth, "authentication failed", some status, false⟩
  else
    ⟨.protocol, "node returned HTTP " ++ toString status.toNat, some status,
      decide (500 ≤ status) && decide (status ≤ 599)⟩

/-- The greatest number of characters of an answer that a message repeats. -/
def maxBody : Nat := 256

/-- An unexpected status with the answer that came with it.  The answer is repeated only up to a
bound, and never when it is about credentials. -/
def ofStatusAndBody (status : UInt16) (body : String) : NodeError :=
  let kept := String.ofList (body.toList.take maxBody)
  let e := ofStatus status
  if kept.isEmpty || e.kind == .auth then e else { e with message := e.message ++ ": " ++ kept }

/-- Whether the failure is a timeout. -/
def isTimeout (e : NodeError) : Bool := e.kind == .timeout

/-- Class and message. -/
def text (e : NodeError) : String := e.kind.text ++ ": " ++ e.message

/-- A failure is written as an object; the status is left out when there is none. -/
def toJson (e : NodeError) : Json :=
  .obj ([("kind", e.kind.toJson), ("message", .str e.message)] ++
    Json.member? "httpStatus" (fun s => .ofNat s.toNat) e.httpStatus ++
    [("retryable", .bool e.retryable)])

/-- Only the status may be missing. -/
def ofJson? (v : Json) : Option NodeError := do
  match ← v.fields? ["kind", "message", "httpStatus", "retryable"] with
  | [kind, message, httpStatus, retryable] =>
    some {
      kind := ← Json.required ErrorKind.ofJson? kind
      message := ← Json.required Json.str? message
      httpStatus := ← Json.maybe Json.uint16? httpStatus
      retryable := ← Json.required Json.bool? retryable }
  | _ => none

end NodeError

end FilterFleet
