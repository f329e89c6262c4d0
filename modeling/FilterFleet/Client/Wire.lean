import FilterFleet.Client.Machine

/-! # A client and its requests under way

What a client sends goes out as a request that is under way until a status is handed back to its
call.  An answer that redirects is not handed back: the request is sent again to the address that
the answer names, up to ten times, with the same session.  Whether method and body stay is a matter
of the status: 307 and 308 keep both, 301, 302 and 303 turn the request into a plain `GET`.

`WiredClient.step` says what everything that happens does to a client with its requests under way.
-/

namespace FilterFleet

open Address

/-- Where an answer leads: what its `Location` comes to, read from the address of the request. -/
inductive Location where
  | resource (url : Url)
  /-- An address of another scheme. -/
  | foreign (address : String)

/-- Whether a request can name the place. -/
def Location.canBeNamed : Location → Bool
  | resource url => url.canBeNamed
  | foreign _ => true

/-- The statuses of redirects. -/
def redirects (status : UInt16) : Bool := [301, 302, 303, 307, 308].contains status

/-- The most redirects that are followed for one request. -/
def maxRedirects : Nat := 10

/-- The request that a redirect makes of a request. -/
def HttpRequest.redirected (r : HttpRequest) (status : UInt16) (url : Url) : HttpRequest :=
  if status == 307 || status == 308 then { r with url }
  else { r with method := .get, url, body := none }

/-- A request under way for a call, and how many redirects have led to it. -/
structure Dispatch where
  call : Nat
  request : HttpRequest
  followed : Nat

/-- What happens to a client on the wire. -/
inductive WireEvent where
  | start (id : Nat) (call : NodeCall)
  | proceed (id : Nat)
  /-- The request under way for a call is answered. -/
  | answer (id : Nat) (status : UInt16) (location : Option Location)
  | body (id : Nat) (body : AnswerBody)
  | outage (id : Nat) (outage : Outage)
  | abandon (id : Nat)
  | configure (settings : NodeSettings)

/-- What comes of an event: the client is told something, a request is sent again, or nothing. -/
inductive Handling where
  | tell (event : ClientEvent)
  | resend (dispatch : Dispatch)
  | ignore

namespace Dispatch

/-- The address of the request, as failures name it. -/
def address (d : Dispatch) : String :=
  if d.followed == 0 then d.request.url.text else d.request.url.fullText

/-- What comes of an answer.  One that redirects is followed where it leads to a place that a
request can name; any other is handed to the call. -/
def answered (d : Dispatch) (status : UInt16) (location : Option Location) : Handling :=
  match location.filter fun place => redirects status && place.canBeNamed with
  | none => .tell (.status d.call status)
  | some place =>
    if maxRedirects ≤ d.followed then .tell (.failure d.call (.tooManyRedirects d.address))
    else
      match place with
      | .resource url => .resend ⟨d.call, d.request.redirected status url, d.followed + 1⟩
      | .foreign address => .tell (.failure d.call (.foreignRedirect address))

end Dispatch

/-- The call whose request is not under way any more after an event. -/
def ClientEvent.settles? : ClientEvent → Option Nat
  | start id _ => some id
  | status id _ => some id
  | failure id _ => some id
  | abandon id => some id
  | _ => none

/-- A client with its requests under way. -/
structure WiredClient where
  client : NodeClient
  underway : List Dispatch

namespace WiredClient

/-- The request under way for a call. -/
def dispatch? (w : WiredClient) (id : Nat) : Option Dispatch :=
  w.underway.find? fun d => d.call == id

/-- What comes of an event. -/
def handle (w : WiredClient) : WireEvent → Handling
  | .start id call => .tell (.start id call)
  | .proceed id => .tell (.proceed id)
  | .answer id status location =>
    match w.dispatch? id with
    | some d => d.answered status location
    | none => .ignore
  | .body id body => .tell (.body id body)
  | .outage id outage =>
    match w.dispatch? id with
    | some d => .tell (.failure id (.outage outage d.address))
    | none => .ignore
  | .abandon id => .tell (.abandon id)
  | .configure settings => .tell (.configure settings)

/-- Tell the client of an event.  What it sends then is under way, in the place of what was under
way for the same call. -/
def tell (w : WiredClient) (t : Moment) (e : ClientEvent) : WiredClient × List HttpRequest :=
  let (client, sent) := w.client.step t e
  let own := e.about?.toList.flatMap fun id => sent.map fun r => (⟨id, r, 0⟩ : Dispatch)
  let kept := w.underway.filter fun d =>
    e.settles? != some d.call && (sent.isEmpty || e.about? != some d.call)
  (⟨client, own ++ kept⟩, sent)

/-- Send the request of a call again. -/
def resend (w : WiredClient) (d : Dispatch) : WiredClient :=
  { w with underway := d :: w.underway.filter fun x => x.call != d.call }

/-- What an event does to a client on the wire, and which requests are sent. -/
def step (w : WiredClient) (t : Moment) (e : WireEvent) : WiredClient × List HttpRequest :=
  match w.handle e with
  | .tell e => w.tell t e
  | .resend d => (w.resend d, [d.request])
  | .ignore => (w, [])

end WiredClient

/-! ## Alone with a network -/

/-- The answer of a network to a request. -/
structure NetworkAnswer where
  status : UInt16
  location : Option Location
  body : AnswerBody

namespace NodeClient

/-- What a network does with a request. -/
abbrev Network := HttpRequest → Except Outage NetworkAnswer

/-- The network on which no node can be reached. -/
def unreachable : Network := fun _ => .error .unreachable

/-- Let a network answer the requests of a call, at most `fuel` of them. -/
def answerAll (network : Network) (t : Moment) (id : Nat) : (fuel : Nat) → WiredClient → WiredClient
  | 0, w => w
  | fuel + 1, w =>
    match w.dispatch? id with
    | none => w
    | some d =>
      match network d.request with
      | .error outage => answerAll network t id fuel (w.step t (.outage id outage)).1
      | .ok answer =>
        let w := (w.step t (.answer id answer.status answer.location)).1
        answerAll network t id fuel (w.step t (.body id answer.body)).1

/-- The most requests of one call: a login and the request itself, each with its redirects. -/
def maxRequests : Nat := 2 * (maxRedirects + 1)

/-- Make a call while nothing else happens. -/
def perform (c : NodeClient) (network : Network) (t : Moment) (call : NodeCall) :
    Outcome call.kind × NodeClient :=
  let id := (c.calls.map (·.id)).foldl max 0 + 1
  let w := answerAll network t id maxRequests (WiredClient.step ⟨c, []⟩ t (.start id call)).1
  let outcome : Outcome call.kind :=
    match w.client.call? id with
    | some l =>
      if h : l.call.kind = call.kind then
        match l.progress with
        | .finished outcome => h ▸ outcome
        | _ => .error (.unknown "no answer")
      else .error (.unknown "no answer")
    | none => .error (.unknown "no answer")
  (outcome, (w.client.step t (.abandon id)).1)

end NodeClient

end FilterFleet
