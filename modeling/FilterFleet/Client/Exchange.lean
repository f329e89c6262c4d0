import FilterFleet.Address.Url
import FilterFleet.Json.Reader
import FilterFleet.Json.Writer
import FilterFleet.Node.Call
import FilterFleet.Text.Utf8

/-! # Requests to a node and what comes back

A request names its method, its address, the session it belongs to and its body.  What comes back
to a call is a status followed by a body, or a failure on the way; every failure has one class of
`NodeError`.
-/

namespace FilterFleet

open Address

/-- The methods of requests. -/
inductive Method where
  | get
  | post
  | delete
deriving DecidableEq, Repr

/-- A request to a node. -/
structure HttpRequest where
  method : Method
  url : Url
  /-- The session that the request belongs to; a login has none. -/
  sid : Option String
  /-- The node, which the random name of the request ends with. -/
  node : NodeId
  body : Option Json

/-- What a network does with a request that gets no answer. -/
inductive Outage where
  /-- The time of the request was over. -/
  | late
  /-- There was no connection. -/
  | unreachable
  /-- The connection ended before a status came. -/
  | cutOff
deriving DecidableEq, Repr

/-- Why no status came back to a call. -/
inductive SendFailure where
  /-- The network failed the request to an address. -/
  | outage (outage : Outage) (address : String)
  /-- Redirects went on for too long, the last one from an address. -/
  | tooManyRedirects (address : String)
  /-- A redirect led to an address of another scheme. -/
  | foreignRedirect (address : String)
deriving DecidableEq, Repr

/-- Why no complete body came back. -/
inductive BodyFailure where
  | late
  | cutOff
deriving DecidableEq, Repr

/-- A body that has come back. -/
structure Content where
  bytes : List UInt8
  /-- What a reader of JSON says when the bytes are not what was asked for; the wording is its
  own. -/
  complaint : String
deriving DecidableEq

/-- What comes behind a status: a body, or a failure. -/
abbrev AnswerBody := Except BodyFailure Content

/-- A body without bytes. -/
def Content.empty : Content := ⟨[], ""⟩

/-- The failure of a request to an address. -/
def Outage.error (address : String) : Outage → NodeError
  | late => .timeout "request timed out"
  | unreachable =>
    .transport ("connection failed: error sending request for url (" ++ address ++ ")")
  | cutOff => .transport ("request failed: error sending request for url (" ++ address ++ ")")

/-- The failure of a call that got no status. -/
def SendFailure.error : SendFailure → NodeError
  | outage o address => o.error address
  | tooManyRedirects address => .unknown ("error following redirect for url (" ++ address ++ ")")
  | foreignRedirect address => .unknown ("builder error for url (" ++ address ++ ")")

/-- The failure of reading a body. -/
def BodyFailure.error : BodyFailure → NodeError
  | late => .timeout "request timed out"
  | cutOff => .decode "invalid response body: error decoding response body"

/-- The failure of a node whose address cannot be used. -/
def AddressFault.error (fault : AddressFault) : NodeError :=
  .unknown ("invalid node address: " ++ fault.message)

/-- The failure of a request that cannot be written. -/
def unwritableError : NodeError := .unknown "builder error"

/-- The failure of a request to an address that it cannot name. -/
def unnamedError (url : Url) : NodeError := .unknown ("builder error for url (" ++ url.text ++ ")")

/-- The failure of an answer that is not what was asked for. -/
def unexpectedJson (context complaint : String) : NodeError :=
  .decode ("unexpected JSON in " ++ context ++ ": " ++ complaint)

/-- Whether a text can stand in the head of a request: it has no control characters but tabs. -/
def isHeaderValue (s : String) : Bool :=
  s.toList.all fun c => (0x20 ≤ c.toNat && c.toNat != 0x7f) || c == '\t'

/-- Why a request to an address with a session cannot be written, if so. -/
def writeFault? (url : Url) (sid : Option String) : Option NodeError :=
  if !sid.all isHeaderValue then some unwritableError
  else if !url.canBeNamed then some (unnamedError url)
  else none

/-- The failure of an unexpected status, with the body as far as it could be read. -/
def statusError (status : UInt16) (body : AnswerBody) : NodeError :=
  .ofStatusAndBody status
    (match body with
      | .ok content => Text.lossyText content.bytes
      | .error _ => "")

/-- Read a body as JSON. -/
def decodeBody (context : String) (decode : Json → Option α) (body : AnswerBody) :
    Except NodeError α :=
  match body with
  | .error failure => .error failure.error
  | .ok content =>
    match (Json.ofBytes? content.bytes).bind decode with
    | some a => .ok a
    | none => .error (unexpectedJson context content.complaint)

/-! ## Calls as requests -/

/-- How a call other than a logout is asked for. -/
structure RequestForm where
  method : Method
  segments : List String
  pairs : List (String × String)
  body : Option Json
  /-- The status of a good answer. -/
  expected : UInt16

/-- The form of a call; a logout has none, as it depends on the session. -/
def NodeCall.form? : NodeCall → Option RequestForm
  | ⟨.fetchQueries, r⟩ => some ⟨.get, ["queries"], r.pairs, none, 200⟩
  | ⟨.listRules, f⟩ => some ⟨.get, f.segments, [], none, 200⟩
  | ⟨.addRules, a⟩ => some ⟨.post, a.segments, [], some a.body, 201⟩
  | ⟨.removeRule, r⟩ => some ⟨.delete, r.segments, [], none, 204⟩
  | ⟨.authStatus, ()⟩ => some ⟨.get, ["auth"], [], none, 200⟩
  | ⟨.blockingStatus, ()⟩ => some ⟨.get, ["dns", "blocking"], [], none, 200⟩
  | ⟨.setBlocking, c⟩ => some ⟨.post, ["dns", "blocking"], [], some c.toJson, 200⟩
  | ⟨.logout, ()⟩ => none

/-- The reply that a body stands for, at time `stamp`. -/
def readReply (stamp : Timestamp) (body : AnswerBody) : (kind : CallKind) → Outcome kind
  | .fetchQueries => decodeBody "query log" QueryPage.ofJson? body
  | .listRules => decodeBody "domain rules" RuleListing.ofJson? body
  | .addRules => decodeBody "added domain rule" AdditionAnswer.ofJson? body
  | .removeRule => .ok ()
  | .authStatus =>
    (decodeBody "auth status" AuthAnswer.ofJson? body).map (AuthStatus.ofAnswer stamp)
  | .blockingStatus =>
    (decodeBody "blocking status" BlockingReport.ofJson? body).map BlockingReport.state
  | .setBlocking =>
    (decodeBody "blocking status" BlockingReport.ofJson? body).map BlockingReport.state
  | .logout => .ok ()

/-- Whether a good answer has a body that is read. -/
def CallKind.readsBody : CallKind → Bool
  | .removeRule => false
  | .logout => false
  | _ => true

end FilterFleet
