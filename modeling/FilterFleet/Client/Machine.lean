import FilterFleet.Client.Exchange
import FilterFleet.Client.Session
import FilterFleet.Config.Basic

/-! # The client of a node

A client logs in when it has to and sends requests with the session it has.  Calls run side by
side; each is at one of a few points where it waits, and `NodeClient.step` says what every event
does to the client and which requests it sends:

* a call starts: with a usable session it sends its request, else it goes to the gate;
* the call at the front of the gate goes on: it uses a session that has appeared meanwhile, or
  logs in, and stays at the front until the login is over;
* a status, a body or a failure comes back to a call;
* a call is given up;
* the settings are replaced, which gives up the session.

A call keeps the settings it started with.
-/

namespace FilterFleet

open Address

/-- Settings with their generation: the number of times they were replaced. -/
structure Snapshot where
  generation : Nat
  settings : NodeSettings
deriving DecidableEq

/-- Where a call waits. -/
inductive Progress (kind : CallKind) where
  /-- At the gate, until the calls before it are through. -/
  | atGate
  /-- At the front of the gate: for the status of its login. -/
  | loginSent
  /-- At the front of the gate: for the body that comes with the status. -/
  | loginAnswered (status : UInt16)
  /-- For the status of its request. -/
  | sent (sid : String)
  /-- For the body that comes with the status. -/
  | answered (status : UInt16)
  | finished (outcome : Outcome kind)

/-- A call of a client. -/
structure LiveCall where
  id : Nat
  call : NodeCall
  /-- The settings when the call started. -/
  snapshot : Snapshot
  progress : Progress call.kind

/-- A client, with all its calls. -/
structure NodeClient where
  options : ClientOptions
  current : Snapshot
  session : SessionCache
  /-- The calls at the gate; the first may log in. -/
  gate : List Nat
  calls : List LiveCall

/-- What happens to a client. -/
inductive ClientEvent where
  | start (id : Nat) (call : NodeCall)
  | proceed (id : Nat)
  /-- The status of the answer that a call is handed, behind all redirects. -/
  | status (id : Nat) (status : UInt16)
  | body (id : Nat) (body : AnswerBody)
  | failure (id : Nat) (failure : SendFailure)
  | abandon (id : Nat)
  | configure (settings : NodeSettings)

/-- The call that an event is about. -/
def ClientEvent.about? : ClientEvent → Option Nat
  | start id _ => some id
  | proceed id => some id
  | status id _ => some id
  | body id _ => some id
  | failure id _ => some id
  | abandon id => some id
  | configure _ => none

/-- The present time: on the clock, and as a timestamp. -/
structure Moment where
  now : Instant
  stamp : Timestamp

namespace NodeClient

/-- A client without a session; there is none if the name of the program cannot be sent. -/
def new? (settings : NodeSettings) (options : ClientOptions) : Except NodeError NodeClient :=
  if isHeaderValue options.userAgent then .ok ⟨options, ⟨0, settings⟩, none, [], []⟩
  else .error unwritableError

/-- The identity of the node. -/
def identity (c : NodeClient) : NodeIdentity := c.current.settings.identity

/-- The form for diagnostics. -/
def debug (c : NodeClient) : String :=
  "NodeClient \x7b config: " ++ c.current.settings.debug ++ ", generation: " ++
    toString c.current.generation ++ ", .. \x7d"

/-- The call of an id. -/
def call? (c : NodeClient) (id : Nat) : Option LiveCall := c.calls.find? fun l => l.id == id

/-- Put a call in the place of the one with its id. -/
def put (c : NodeClient) (l : LiveCall) : NodeClient :=
  { c with calls := l :: c.calls.filter fun x => x.id != l.id }

/-- Take a call from the gate. -/
def leaveGate (c : NodeClient) (id : Nat) : NodeClient :=
  { c with gate := c.gate.filter (· != id) }

/-- A call is over. -/
def finish (c : NodeClient) (l : LiveCall) (outcome : Outcome l.call.kind) : NodeClient :=
  c.put { l with progress := .finished outcome }

/-! ## Sending -/

/-- The login under given settings. -/
def loginRequest (settings : NodeSettings) (url : Url) : HttpRequest :=
  { method := .post
    url
    sid := none
    node := settings.id
    body := some (.obj [("password", .str settings.password.value)]) }

/-- Send the request of a call with a session. -/
def sendRequest (c : NodeClient) (l : LiveCall) (sid : String) : NodeClient × List HttpRequest :=
  match l.call.form? with
  | none => (c, [])
  | some form =>
    match l.snapshot.settings.endpoint form.segments with
    | .error fault => (c.finish l (.error (AddressFault.error fault)), [])
    | .ok url =>
      let url := url.withPairs form.pairs
      match writeFault? url (some sid) with
      | some e => (c.finish l (.error e), [])
      | none =>
        (c.put { l with progress := .sent sid },
          [{ method := form.method
             url
             sid := some sid
             node := l.snapshot.settings.id
             body := form.body }])

/-- Send the login of a call at the front of the gate. -/
def sendLogin (c : NodeClient) (l : LiveCall) : NodeClient × List HttpRequest :=
  match l.snapshot.settings.endpoint ["auth"] with
  | .error fault => ((c.leaveGate l.id).finish l (.error (AddressFault.error fault)), [])
  | .ok url =>
    match writeFault? url none with
    | some e => ((c.leaveGate l.id).finish l (.error e), [])
    | none => (c.put { l with progress := .loginSent }, [loginRequest l.snapshot.settings url])

/-- A call at the gate goes on if it stands at the front. -/
def proceed (c : NodeClient) (l : LiveCall) (now : Instant) : NodeClient × List HttpRequest :=
  if c.gate.head? = some l.id then
    match c.session.lookup l.snapshot.generation now with
    | some sid => (c.leaveGate l.id).sendRequest l sid
    | none => c.sendLogin l
  else (c, [])

/-- End the session at the node: whatever session is cached is taken and sent. -/
def startLogout (c : NodeClient) (id : Nat) : NodeClient × List HttpRequest :=
  let l : LiveCall := ⟨id, ⟨.logout, ()⟩, c.current, .atGate⟩
  match c.session with
  | none => (c.put ⟨id, ⟨.logout, ()⟩, c.current, .finished (.ok ())⟩, [])
  | some session =>
    let c := { c with session := none }
    match c.current.settings.endpoint ["auth"] with
    | .error fault => (c.finish l (.error (AddressFault.error fault)), [])
    | .ok url =>
      match writeFault? url (some session.sid) with
      | some e => (c.finish l (.error e), [])
      | none =>
        (c.put { l with progress := .sent session.sid },
          [{ method := .delete
             url
             sid := some session.sid
             node := c.current.settings.id
             body := none }])

/-- Start a call: with a usable session it sends its request, else it goes to the gate, and on at
once if nobody is there. -/
def start (c : NodeClient) (id : Nat) (call : NodeCall) (now : Instant) :
    NodeClient × List HttpRequest :=
  match call.form? with
  | none => c.startLogout id
  | some form =>
    let l : LiveCall := ⟨id, call, c.current, .atGate⟩
    match c.current.settings.endpoint form.segments with
    | .error fault => (c.finish l (.error (AddressFault.error fault)), [])
    | .ok _ =>
      match c.session.lookup c.current.generation now with
      | some sid => c.sendRequest l sid
      | none =>
        let c := { c.put l with gate := c.gate ++ [id] }
        c.proceed l now

/-! ## Answers -/

/-- The session of a login: its id, and how long it is trusted. -/
def acceptLogin (options : ClientOptions) (answer : AuthAnswer) :
    Except NodeError (String × Span) :=
  match answer.session.sid with
  | some sid =>
    if answer.session.valid && !sid.isEmpty then
      .ok (sid, min (Span.ofSecs answer.session.secondsLeft) options.sessionTtl)
    else .error .loginRejected
  | none => .error .loginRejected

/-- A login is over. -/
def endLogin (c : NodeClient) (l : LiveCall) (result : Except NodeError (String × Span))
    (now : Instant) : NodeClient × List HttpRequest :=
  let c := c.leaveGate l.id
  match result with
  | .error e => (c.finish l (.error e), [])
  | .ok (sid, validity) =>
    let c := { c with session := c.session.store sid validity l.snapshot.generation now }
    c.sendRequest l sid

/-- The status of a good answer. -/
def isExpected (call : NodeCall) (status : UInt16) : Bool :=
  match call.form? with
  | some form => status == form.expected
  | none => status == 204 || status == 200 || status == 401

/-- A status came back for a request that carried a session.  A session that the node rejects is
given up; a good answer without a body is complete. -/
def onStatus (c : NodeClient) (l : LiveCall) (sid : String) (status : UInt16) (stamp : Timestamp) :
    NodeClient :=
  let rejected := l.call.form?.isSome && (status == 401 || status == 403)
  let c := if rejected then { c with session := c.session.invalidate sid } else c
  if isExpected l.call status && !l.call.kind.readsBody then
    c.finish l (readReply stamp (.ok .empty) l.call.kind)
  else c.put { l with progress := .answered status }

/-- The outcome of a call whose body came, or did not. -/
def outcomeOf (call : NodeCall) (status : UInt16) (body : AnswerBody) (stamp : Timestamp) :
    Outcome call.kind :=
  if isExpected call status then readReply stamp body call.kind
  else .error (statusError status body)

/-- What a login comes to. -/
def loginResult (options : ClientOptions) (status : UInt16) (body : AnswerBody) :
    Except NodeError (String × Span) :=
  if status == 200 then
    (decodeBody "login response" AuthAnswer.ofJson? body).bind (acceptLogin options)
  else .error (statusError status body)

/-! ## The step -/

/-- What an event does to a client, and which requests it sends. -/
def step (c : NodeClient) (t : Moment) : ClientEvent → NodeClient × List HttpRequest
  | .start id call => c.start id call t.now
  | .proceed id =>
    match c.call? id with
    | some l =>
      match l.progress with
      | .atGate => c.proceed l t.now
      | _ => (c, [])
    | none => (c, [])
  | .status id status =>
    match c.call? id with
    | some l =>
      match l.progress with
      | .loginSent => (c.put { l with progress := .loginAnswered status }, [])
      | .sent sid => (c.onStatus l sid status t.stamp, [])
      | _ => (c, [])
    | none => (c, [])
  | .body id body =>
    match c.call? id with
    | some l =>
      match l.progress with
      | .loginAnswered status => c.endLogin l (loginResult c.options status body) t.now
      | .answered status => (c.finish l (outcomeOf l.call status body t.stamp), [])
      | _ => (c, [])
    | none => (c, [])
  | .failure id failure =>
    match c.call? id with
    | some l =>
      match l.progress with
      | .loginSent => c.endLogin l (.error failure.error) t.now
      | .sent _ => (c.finish l (.error failure.error), [])
      | _ => (c, [])
    | none => (c, [])
  | .abandon id =>
    ({ c.leaveGate id with calls := c.calls.filter fun l => l.id != id }, [])
  | .configure settings =>
    ({ c with current := ⟨c.current.generation + 1, settings⟩, session := none }, [])

end NodeClient

end FilterFleet
