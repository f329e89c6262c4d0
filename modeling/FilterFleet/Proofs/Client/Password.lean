import FilterFleet.Proofs.Client.Generations

/-!
# What a password leaves no trace in

The password of a node is in its settings, and settings are in every call of a client. To *redact*
is to take every password out: of settings, of a client with its calls, of what happens to it, and
of what goes out, where the only place for a password is the body of a request without a session. A
step of a redacted client is the step of the client, redacted (`NodeClient.redacts_step`): none of
the functions that a step is made of looks at a password, but the one that writes logins. And what
becomes of requests under way is no matter of their bodies (`WiredClient.redacts_step`).

So clients whose settings differ in nothing but passwords go through the same states but for the
passwords, whatever happens to both of them, and what can be seen of them is the same
(`LoggedWire.password_unseen`). The requests whose bodies are left out are logins, and what redirects
make of them: these carry the password to where a node leads (`LoggedWire.redirect_tells_password`).
-/

namespace FilterFleet

open Address ClientLog WireLog

/-! ## Without passwords -/

/-- Settings without their password. Two settings differ in nothing but the password iff they are
the same without it. -/
def NodeSettings.redact (s : NodeSettings) : NodeSettings := { s with password := ⟨""⟩ }

def Snapshot.redact (s : Snapshot) : Snapshot := { s with settings := s.settings.redact }

def LiveCall.redact (l : LiveCall) : LiveCall := { l with snapshot := l.snapshot.redact }

def NodeClient.redact (c : NodeClient) : NodeClient :=
  { c with current := c.current.redact, calls := c.calls.map LiveCall.redact }

/-- An event without the password of new settings. -/
def ClientEvent.redact : ClientEvent → ClientEvent
  | configure settings => configure settings.redact
  | e => e

/-- A request without its body if it has no session: then it is for a new one. -/
def HttpRequest.redact (r : HttpRequest) : HttpRequest :=
  if r.sid.isNone then { r with body := none } else r

theorem NodeSettings.validate_redact (s : NodeSettings) : s.redact.validate = s.validate := rfl

theorem NodeSettings.identity_redact (s : NodeSettings) : s.redact.identity = s.identity := rfl

theorem NodeSettings.debug_redact (s : NodeSettings) : s.redact.debug = s.debug := rfl

@[simp] theorem NodeSettings.endpoint_redact (s : NodeSettings) (segments : List String) :
    s.redact.endpoint segments = s.endpoint segments := rfl

@[simp] theorem Snapshot.settings_redact (s : Snapshot) :
    s.redact.settings = s.settings.redact := rfl

@[simp] theorem LiveCall.id_redact (l : LiveCall) : l.redact.id = l.id := rfl

@[simp] theorem LiveCall.snapshot_redact (l : LiveCall) :
    l.redact.snapshot = l.snapshot.redact := rfl

@[simp] theorem HttpRequest.redact_redact (r : HttpRequest) : r.redact.redact = r.redact := by
  by_cases h : r.sid.isNone = true
  · simp [redact, h]
  · simp [redact, h]

@[simp] theorem HttpRequest.url_redact (r : HttpRequest) : r.redact.url = r.url := by
  unfold redact
  split <;> rfl

/-- A redirect makes the same of a request, with its body or without. -/
theorem HttpRequest.redirected_redact (r : HttpRequest) (status : UInt16) (url : Url) :
    r.redact.redirected status url = (r.redirected status url).redact := by
  by_cases hsid : r.sid.isNone = true
  · by_cases hkeeps : (status == 307 || status == 308) = true
    · simp [redact, redirected, hsid, hkeeps]
    · simp [redact, redirected, hsid, hkeeps]
  · by_cases hkeeps : (status == 307 || status == 308) = true
    · simp [redact, redirected, hsid, hkeeps]
    · simp [redact, redirected, hsid, hkeeps]

namespace NodeClient

theorem call?_redact (c : NodeClient) (id : Nat) :
    c.redact.call? id = (c.call? id).map LiveCall.redact := by
  rw [call?, redact, List.find?_map]
  rfl

theorem redact_put (c : NodeClient) (l : LiveCall) : (c.put l).redact = c.redact.put l.redact := by
  simp only [put, redact, List.map_cons, List.filter_map]
  rfl

/-! ## Every step -/

/-- What a client comes to and what it sends, against what it comes to and sends after redaction. -/
structure Redacts (out out' : NodeClient × List HttpRequest) : Prop where
  client : out'.1 = out.1.redact
  sent : out'.2.map HttpRequest.redact = out.2.map HttpRequest.redact

theorem redacts_idle (c : NodeClient) : Redacts (c, []) (c.redact, []) := ⟨rfl, rfl⟩

theorem redacts_put (c : NodeClient) (l : LiveCall) (sent : List HttpRequest) :
    Redacts (c.put l, sent) (c.redact.put l.redact, sent) :=
  ⟨(c.redact_put l).symm, rfl⟩

theorem redacts_finish (c : NodeClient) (l : LiveCall) (outcome : Outcome l.call.kind) :
    Redacts (c.finish l outcome, []) (c.redact.finish l.redact outcome, []) :=
  c.redacts_put { l with progress := .finished outcome } []

theorem redacts_sendRequest (c : NodeClient) (l : LiveCall) (sid : String) :
    Redacts (c.sendRequest l sid) (c.redact.sendRequest l.redact sid) := by
  cases hform : l.call.form? with
  | none =>
    have hform' : l.redact.call.form? = none := hform
    simp only [sendRequest, hform, hform']
    exact c.redacts_idle
  | some form =>
    have hform' : l.redact.call.form? = some form := hform
    simp only [sendRequest, hform, hform', LiveCall.snapshot_redact, Snapshot.settings_redact,
      NodeSettings.endpoint_redact]
    cases l.snapshot.settings.endpoint form.segments with
    | error fault => exact c.redacts_finish l _
    | ok url =>
      dsimp only
      cases writeFault? (url.withPairs form.pairs) (some sid) with
      | some e => exact c.redacts_finish l _
      | none => exact c.redacts_put { l with progress := .sent sid } _

/-- Logins are written with the password, in their bodies. -/
theorem redacts_sendLogin (c : NodeClient) (l : LiveCall) :
    Redacts (c.sendLogin l) (c.redact.sendLogin l.redact) := by
  simp only [sendLogin, LiveCall.snapshot_redact, LiveCall.id_redact, Snapshot.settings_redact,
    NodeSettings.endpoint_redact]
  cases l.snapshot.settings.endpoint ["auth"] with
  | error fault => exact (c.leaveGate l.id).redacts_finish l _
  | ok url =>
    dsimp only
    cases writeFault? url none with
    | some e => exact (c.leaveGate l.id).redacts_finish l _
    | none => exact ⟨(c.redact_put { l with progress := .loginSent }).symm, rfl⟩

theorem redacts_proceed (c : NodeClient) (l : LiveCall) (now : Instant) :
    Redacts (c.proceed l now) (c.redact.proceed l.redact now) := by
  unfold proceed
  by_cases hfront : c.gate.head? = some l.id
  · have hfront' : c.redact.gate.head? = some l.redact.id := hfront
    rw [if_pos hfront, if_pos hfront']
    have hsession : c.redact.session.lookup l.redact.snapshot.generation now =
      c.session.lookup l.snapshot.generation now := rfl
    rw [hsession]
    cases c.session.lookup l.snapshot.generation now with
    | none => exact c.redacts_sendLogin l
    | some sid => exact (c.leaveGate l.id).redacts_sendRequest l sid
  · have hfront' : ¬ c.redact.gate.head? = some l.redact.id := hfront
    rw [if_neg hfront, if_neg hfront']
    exact c.redacts_idle

theorem redacts_startLogout (c : NodeClient) (id : Nat) :
    Redacts (c.startLogout id) (c.redact.startLogout id) := by
  have hsession : c.redact.session = c.session := rfl
  have hendpoint : ∀ segments,
      c.redact.current.settings.endpoint segments = c.current.settings.endpoint segments :=
    fun _ => rfl
  unfold startLogout
  dsimp only
  rw [hsession]
  cases c.session with
  | none => exact c.redacts_put ⟨id, ⟨.logout, ()⟩, c.current, .finished (.ok ())⟩ []
  | some session =>
    dsimp only
    rw [hendpoint]
    cases c.current.settings.endpoint ["auth"] with
    | error fault =>
      exact redacts_finish { c with session := none } ⟨id, ⟨.logout, ()⟩, c.current, .atGate⟩ _
    | ok url =>
      dsimp only
      cases writeFault? url (some session.sid) with
      | some e =>
        exact redacts_finish { c with session := none } ⟨id, ⟨.logout, ()⟩, c.current, .atGate⟩ _
      | none =>
        exact redacts_put { c with session := none }
          ⟨id, ⟨.logout, ()⟩, c.current, .sent session.sid⟩ _

theorem redacts_start (c : NodeClient) (id : Nat) (call : NodeCall) (now : Instant) :
    Redacts (c.start id call now) (c.redact.start id call now) := by
  have hsession : c.redact.session.lookup c.redact.current.generation now =
      c.session.lookup c.current.generation now := rfl
  have hendpoint : ∀ segments,
      c.redact.current.settings.endpoint segments = c.current.settings.endpoint segments :=
    fun _ => rfl
  unfold start
  cases call.form? with
  | none => exact c.redacts_startLogout id
  | some form =>
    dsimp only
    rw [hendpoint]
    cases c.current.settings.endpoint form.segments with
    | error fault => exact c.redacts_finish ⟨id, call, c.current, .atGate⟩ _
    | ok url =>
      dsimp only
      rw [hsession]
      cases c.session.lookup c.current.generation now with
      | some sid => exact c.redacts_sendRequest _ sid
      | none =>
        have hgate := redacts_proceed
          { c.put ⟨id, call, c.current, .atGate⟩ with gate := c.gate ++ [id] }
          ⟨id, call, c.current, .atGate⟩ now
        have hput : ({ c.put ⟨id, call, c.current, .atGate⟩ with
              gate := c.gate ++ [id] } : NodeClient).redact =
            { c.redact.put (LiveCall.redact ⟨id, call, c.current, .atGate⟩) with
              gate := c.redact.gate ++ [id] } := by
          rw [← redact_put]
          rfl
        rwa [hput] at hgate

theorem redacts_endLogin (c : NodeClient) (l : LiveCall)
    (result : Except NodeError (String × Span)) (now : Instant) :
    Redacts (c.endLogin l result now) (c.redact.endLogin l.redact result now) := by
  cases result with
  | error e => exact (c.leaveGate l.id).redacts_finish l (.error e)
  | ok login =>
    exact redacts_sendRequest
      { c.leaveGate l.id with
        session := c.session.store login.1 login.2 l.snapshot.generation now } l login.1

theorem redacts_onStatus (c : NodeClient) (l : LiveCall) (sid : String) (status : UInt16)
    (stamp : Timestamp) :
    Redacts (c.onStatus l sid status stamp, [])
      (c.redact.onStatus l.redact sid status stamp, []) := by
  obtain ⟨id, call, snapshot, progress⟩ := l
  unfold onStatus
  dsimp only [LiveCall.redact]
  split
  · split
    · exact redacts_finish { c with session := c.session.invalidate sid }
        ⟨id, call, snapshot, progress⟩ _
    · exact c.redacts_finish ⟨id, call, snapshot, progress⟩ _
  · split
    · exact redacts_put { c with session := c.session.invalidate sid }
        ⟨id, call, snapshot, .answered status⟩ []
    · exact c.redacts_put ⟨id, call, snapshot, .answered status⟩ []

/-- A step of a redacted client is the step of the client, redacted. -/
theorem redacts_step (c : NodeClient) (t : Moment) (e : ClientEvent) :
    Redacts (c.step t e) (c.redact.step t e.redact) := by
  cases e with
  | start id call => exact c.redacts_start id call t.now
  | abandon id =>
    refine ⟨?_, rfl⟩
    simp only [step, ClientEvent.redact, leaveGate, redact, List.filter_map]
    rfl
  | configure settings => exact ⟨rfl, rfl⟩
  | proceed id =>
    simp only [step, ClientEvent.redact, call?_redact]
    cases c.call? id with
    | none => exact c.redacts_idle
    | some l =>
      obtain ⟨i, call, snapshot, progress⟩ := l
      cases progress with
      | atGate => exact c.redacts_proceed _ t.now
      | _ => exact c.redacts_idle
  | status id status =>
    simp only [step, ClientEvent.redact, call?_redact]
    cases c.call? id with
    | none => exact c.redacts_idle
    | some l =>
      obtain ⟨i, call, snapshot, progress⟩ := l
      cases progress with
      | loginSent => exact c.redacts_put ⟨i, call, snapshot, .loginAnswered status⟩ []
      | sent sid => exact c.redacts_onStatus _ sid status t.stamp
      | _ => exact c.redacts_idle
  | body id body =>
    simp only [step, ClientEvent.redact, call?_redact]
    cases c.call? id with
    | none => exact c.redacts_idle
    | some l =>
      obtain ⟨i, call, snapshot, progress⟩ := l
      cases progress with
      | loginAnswered status => exact c.redacts_endLogin _ _ t.now
      | answered status => exact c.redacts_finish ⟨i, call, snapshot, .answered status⟩ _
      | _ => exact c.redacts_idle
  | failure id failure =>
    simp only [step, ClientEvent.redact, call?_redact]
    cases c.call? id with
    | none => exact c.redacts_idle
    | some l =>
      obtain ⟨i, call, snapshot, progress⟩ := l
      cases progress with
      | loginSent => exact c.redacts_endLogin ⟨i, call, snapshot, .loginSent⟩ _ t.now
      | sent sid => exact c.redacts_finish ⟨i, call, snapshot, .sent sid⟩ _
      | _ => exact c.redacts_idle

end NodeClient

/-! ## On the wire -/

def Dispatch.redact (d : Dispatch) : Dispatch := { d with request := d.request.redact }

def WiredClient.redact (w : WiredClient) : WiredClient :=
  ⟨w.client.redact, w.underway.map Dispatch.redact⟩

/-- An event on the wire without the password of new settings. -/
def WireEvent.redact : WireEvent → WireEvent
  | configure settings => configure settings.redact
  | e => e

def Handling.redact : Handling → Handling
  | tell e => tell e.redact
  | resend d => resend d.redact
  | ignore => ignore

@[simp] theorem ClientEvent.about?_redact (e : ClientEvent) : e.redact.about? = e.about? := by
  cases e <;> rfl

@[simp] theorem ClientEvent.settles?_redact (e : ClientEvent) :
    e.redact.settles? = e.settles? := by
  cases e <;> rfl

@[simp] theorem Dispatch.redact_redact (d : Dispatch) : d.redact.redact = d.redact := by
  simp [redact]

theorem Dispatch.address_redact (d : Dispatch) : d.redact.address = d.address := by
  simp [address, redact]

/-- What comes of an answer is no matter of the body of the request. -/
theorem Dispatch.answered_redact (d : Dispatch) (status : UInt16) (location : Option Location) :
    d.redact.answered status location = (d.answered status location).redact := by
  unfold answered
  rw [address_redact]
  cases location.filter fun place => redirects status && place.canBeNamed with
  | none => rfl
  | some place =>
    by_cases hmany : maxRedirects ≤ d.followed
    · have hmany' : maxRedirects ≤ d.redact.followed := hmany
      simp only [if_pos hmany, if_pos hmany']
      rfl
    · have hmany' : ¬ maxRedirects ≤ d.redact.followed := hmany
      simp only [if_neg hmany, if_neg hmany']
      cases place with
      | foreign address => rfl
      | resource url =>
        simp only [Handling.redact, redact, d.request.redirected_redact status url]

namespace WiredClient

theorem dispatch?_redact (w : WiredClient) (id : Nat) :
    w.redact.dispatch? id = (w.dispatch? id).map Dispatch.redact := by
  rw [dispatch?, redact, List.find?_map]
  rfl

theorem handle_redact (w : WiredClient) (e : WireEvent) :
    w.redact.handle e.redact = (w.handle e).redact := by
  cases e with
  | answer id status location =>
    simp only [handle, WireEvent.redact, dispatch?_redact]
    cases w.dispatch? id with
    | none => rfl
    | some d => exact d.answered_redact status location
  | outage id outage =>
    simp only [handle, WireEvent.redact, dispatch?_redact]
    cases w.dispatch? id with
    | none => rfl
    | some d =>
      simp only [Option.map_some, d.address_redact]
      rfl
  | _ => rfl

/-- What a client on the wire comes to and what goes out, against what it comes to and what goes out
after redaction. -/
structure Redacts (out out' : WiredClient × List HttpRequest) : Prop where
  client : out'.1.client = out.1.client.redact
  underway : out'.1.underway.map Dispatch.redact = out.1.underway.map Dispatch.redact
  sent : out'.2.map HttpRequest.redact = out.2.map HttpRequest.redact

/-- What was under way is so with its body or without. -/
theorem redact_filter (p : Nat → Bool) (ds : List Dispatch) :
    ((ds.map Dispatch.redact).filter fun d => p d.call).map Dispatch.redact =
      (ds.filter fun d => p d.call).map Dispatch.redact := by
  rw [List.filter_map, List.map_map]
  refine List.map_congr_left fun d _ => ?_
  simp [Dispatch.redact]

theorem redacts_tell (w : WiredClient) (t : Moment) (e : ClientEvent) :
    Redacts (w.tell t e) (w.redact.tell t e.redact) := by
  have hstep := w.client.redacts_step t e
  have hnone : (w.redact.client.step t e.redact).2.isEmpty = (w.client.step t e).2.isEmpty := by
    have hlength := congrArg List.isEmpty hstep.sent
    rwa [List.isEmpty_map, List.isEmpty_map] at hlength
  refine ⟨hstep.client, ?_, hstep.sent⟩
  simp only [tell, List.map_append, List.map_flatMap, List.map_map, ClientEvent.about?_redact,
    ClientEvent.settles?_redact, hnone]
  congr 1
  · congr 1
    funext id
    have hown : ∀ sent : List HttpRequest,
        sent.map (Dispatch.redact ∘ fun r => (⟨id, r, 0⟩ : Dispatch)) =
          (sent.map HttpRequest.redact).map fun r => ⟨id, r, 0⟩ := fun sent => by
      rw [List.map_map]
      rfl
    rw [hown, hown]
    exact congrArg (List.map fun r => (⟨id, r, 0⟩ : Dispatch)) hstep.sent
  · exact redact_filter (fun id => e.settles? != some id &&
      ((w.client.step t e).2.isEmpty || e.about? != some id)) w.underway

/-- A step of a redacted client on the wire is the step of the client, redacted. -/
theorem redacts_step (w : WiredClient) (t : Moment) (e : WireEvent) :
    Redacts (w.step t e) (w.redact.step t e.redact) := by
  unfold step
  rw [handle_redact]
  cases w.handle e with
  | tell e => exact w.redacts_tell t e
  | ignore =>
    refine ⟨rfl, ?_, rfl⟩
    simp [Handling.redact, redact]
  | resend d =>
    refine ⟨rfl, ?_, by simp [Handling.redact, Dispatch.redact]⟩
    simp only [Handling.redact, resend, List.map_cons]
    congr 1
    · simp [Dispatch.redact]
    · exact redact_filter (· != d.call) w.underway

end WiredClient

/-! ## Every run -/

def WireEntry.redact (x : WireEntry) : WireEntry :=
  ⟨x.moment, x.event.redact, x.handling.redact, x.sent.map HttpRequest.redact⟩

/-- What a call has returned, once it has. -/
def LiveCall.returned? (l : LiveCall) : Option ((kind : CallKind) × Outcome kind) :=
  match l.progress with
  | .finished outcome => some ⟨l.call.kind, outcome⟩
  | _ => none

theorem LiveCall.returned?_redact (l : LiveCall) : l.redact.returned? = l.returned? := by
  obtain ⟨id, call, snapshot, progress⟩ := l
  cases progress <;> rfl

namespace LoggedWire

def redact (s : LoggedWire) : LoggedWire := ⟨s.wire.redact, s.log.map WireEntry.redact⟩

/-- Clients that are the same without passwords stay so, whatever happens to both of them. -/
theorem redact_step {s s' : LoggedWire} (hs : s.redact = s'.redact) (t : Moment)
    {e e' : WireEvent} (he : e.redact = e'.redact) :
    (s.step t e).redact = (s'.step t e').redact := by
  obtain ⟨w, log⟩ := s
  obtain ⟨w', log'⟩ := s'
  obtain ⟨hw, hlog⟩ := LoggedWire.mk.inj hs
  have hstep := w.redacts_step t e
  have hstep' := w'.redacts_step t e'
  have hhandle := w.handle_redact e
  have hhandle' := w'.handle_redact e'
  rw [← hw, ← he] at hstep' hhandle'
  have hclient := hstep.client.symm.trans hstep'.client
  have hunderway := hstep.underway.symm.trans hstep'.underway
  have hsent := hstep.sent.symm.trans hstep'.sent
  have hhandled := hhandle.symm.trans hhandle'
  simp only [step, redact, WiredClient.redact, List.map_cons, WireEntry.redact, hclient, hunderway,
    hsent, hhandled, hlog, he]

theorem redact_run {s s' : LoggedWire} (hs : s.redact = s'.redact)
    {events events' : List (Moment × WireEvent)}
    (he : events.map (fun x => (x.1, x.2.redact)) = events'.map fun x => (x.1, x.2.redact)) :
    (s.run events).redact = (s'.run events').redact := by
  induction events generalizing s s' events' with
  | nil =>
    obtain rfl := List.map_eq_nil_iff.mp he.symm
    exact hs
  | cons x rest ih =>
    obtain ⟨⟨t, e'⟩, rest', rfl, hx, hrest⟩ := List.map_eq_cons_iff.mp he.symm
    obtain ⟨rfl, hevent⟩ := Prod.mk.inj hx
    exact ih (redact_step hs x.1 hevent.symm) hrest.symm

/-! ## What can be seen -/

/-- What can be seen of a client from outside: its identity, its forms for diagnostics, what its
calls have returned, and the requests that went out, without the bodies of those that have no
session. -/
structure View where
  identity : NodeIdentity
  debug : String
  settingsDebug : String
  returned : Nat → Option ((kind : CallKind) × Outcome kind)
  sent : List (Moment × List HttpRequest)

/-- What can be seen of a client. -/
def view (s : LoggedWire) : View where
  identity := s.wire.client.identity
  debug := s.wire.client.debug
  settingsDebug := s.wire.client.current.settings.debug
  returned id := (s.wire.client.call? id).bind LiveCall.returned?
  sent := s.log.map fun x => (x.moment, x.sent.map HttpRequest.redact)

/-- Nothing that can be seen of a client tells its passwords. -/
theorem view_redact (s : LoggedWire) : s.redact.view = s.view := by
  have hreturned : (fun id => (s.redact.wire.client.call? id).bind LiveCall.returned?) =
      fun id => (s.wire.client.call? id).bind LiveCall.returned? := by
    funext id
    rw [redact, WiredClient.redact, NodeClient.call?_redact, Option.bind_map]
    congr 1
    funext l
    exact l.returned?_redact
  have hsent : (s.redact.log.map fun x => (x.moment, x.sent.map HttpRequest.redact)) =
      s.log.map fun x => (x.moment, x.sent.map HttpRequest.redact) := by
    simp [redact, WireEntry.redact, Function.comp_def]
  rw [view, hreturned, hsent]
  rfl

/-- **A password influences nothing but the bodies of logins.**  Settings that differ in nothing but
the password pass the same checks and have the same identity and the same form for diagnostics, as
have the passwords. Two clients that are built with such settings, both or none, and are given new
settings that differ in nothing but the password, look the same from outside when the same happens
to both of them on the wire: in their identities, in the forms for diagnostics of themselves and of
their settings, in what their calls return, and in the requests that go out at each event, in their
order, with methods, addresses, sessions and bodies, but for the bodies of requests that have no
session. And such a request is a login, sent with `POST` to the settings' own resource for logins, or
redirects have made it of a login. -/
theorem password_unseen (options : ClientOptions) {a b : NodeSettings} (hab : a.redact = b.redact)
    {events events' : List (Moment × WireEvent)}
    (he : events.map (fun x => (x.1, x.2.redact)) = events'.map fun x => (x.1, x.2.redact)) :
    (a.validate = b.validate ∧ a.identity = b.identity ∧ a.debug = b.debug ∧
      a.password.debug = b.password.debug) ∧
    (NodeClient.new? a options).map (fun c => ((fresh c).run events).view) =
      (NodeClient.new? b options).map (fun c => ((fresh c).run events').view) ∧
    ∀ c, NodeClient.new? a options = .ok c → ∀ later x before,
      ((fresh c).run events).log = later ++ x :: before → ∀ r ∈ x.sent, r.sid = none →
        ∃ id origin settings, x.StemsFrom id origin r ∧ NodeClient.IsLogin settings origin := by
  refine ⟨⟨?_, ?_, ?_, rfl⟩, ?_, fun c hnew later x before hlog r hr hsid => ?_⟩
  · rw [← a.validate_redact, hab, b.validate_redact]
  · rw [← a.identity_redact, hab, b.identity_redact]
  · rw [← a.debug_redact, hab, b.debug_redact]
  · unfold NodeClient.new?
    split
    · have hnew : (fresh ⟨options, ⟨0, a⟩, none, [], []⟩).redact =
          (fresh ⟨options, ⟨0, b⟩, none, [], []⟩).redact := by
        simp [fresh, redact, WiredClient.redact, NodeClient.redact, Snapshot.redact, hab]
      have hrun := congrArg view (redact_run hnew he)
      rw [view_redact, view_redact] at hrun
      exact congrArg Except.ok hrun
    · rfl
  · obtain ⟨id, origin, horigin, hstems⟩ := (stems_run c events).of_split hlog r hr
    obtain ⟨call, snapshot, -, hlogin, -⟩ := proper_of_exchange hnew hlog horigin
    exact ⟨id, origin, snapshot.settings, hstems, hlogin (hstems.follows.sid ▸ hsid)⟩

/-! ## Other passwords -/

/-- A call logs in and gets its reply; then the password of the node is replaced, and the login of
the next call is late. -/
def twoLogins (password : String) : List (Moment × WireEvent) :=
  [(⟨0, ⟨0⟩⟩, .start 0 ⟨.blockingStatus, ()⟩),
    (⟨1, ⟨1⟩⟩, .answer 0 200 none),
    (⟨1, ⟨1⟩⟩, .body 0 (loginAnswer "x" 60)),
    (⟨2, ⟨2⟩⟩, .answer 0 500 none),
    (⟨2, ⟨2⟩⟩, .body 0 (.ok .empty)),
    (⟨3, ⟨3⟩⟩, .configure (.basic ⟨1⟩ "a" "a.lan" password)),
    (⟨4, ⟨4⟩⟩, .start 1 ⟨.authStatus, ()⟩),
    (⟨9, ⟨9⟩⟩, .outage 1 .late)]

/-- The requests without a session that went out. -/
def loginsOut (s : LoggedWire) : List (Option String × Method × String × Option String) :=
  s.requestsOut.filter (·.1.isNone)

/-- The logins of a client have other bodies with other passwords, and nothing else that can be seen
is other. -/
theorem password_unseen_of_two_logins :
    let first : NodeSettings := .basic ⟨1⟩ "a" "a.lan" "one"
    let second : NodeSettings := .basic ⟨1⟩ "a" "a.lan" "two"
    let c : NodeClient := ⟨.standard, ⟨0, first⟩, none, [], []⟩
    let c' : NodeClient := ⟨.standard, ⟨0, second⟩, none, [], []⟩
    let s := (fresh c).run (twoLogins "three")
    let s' := (fresh c').run (twoLogins "four")
    s.view = s'.view ∧
      s.loginsOut =
        [(none, .post, "http://a.lan/api/auth", some "\x7b\"password\":\"one\"\x7d"),
          (none, .post, "http://a.lan/api/auth", some "\x7b\"password\":\"three\"\x7d")] ∧
      s'.loginsOut =
        [(none, .post, "http://a.lan/api/auth", some "\x7b\"password\":\"two\"\x7d"),
          (none, .post, "http://a.lan/api/auth", some "\x7b\"password\":\"four\"\x7d")] := by
  intro first second c c' s s'
  have hnew : NodeClient.new? first .standard = .ok c := if_pos (by decide +kernel)
  have hnew' : NodeClient.new? second .standard = .ok c' := if_pos (by decide +kernel)
  have hviews :=
    (@password_unseen .standard first second rfl (twoLogins "three") (twoLogins "four") rfl).2.1
  rw [hnew, hnew'] at hviews
  exact ⟨Except.ok.inj hviews, by decide +kernel, by decide +kernel⟩

/-! ## A login that is redirected -/

/-- **A redirected login tells the password to where it is led.**  Of two clients that differ in
nothing but the password, to whom the same happens, each sends its own password to a resource that
is not the one for logins. -/
theorem redirect_tells_password :
    let first : NodeSettings := .basic ⟨1⟩ "a" "a.lan" "one"
    let second : NodeSettings := .basic ⟨1⟩ "a" "a.lan" "two"
    let c : NodeClient := ⟨.standard, ⟨0, first⟩, none, [], []⟩
    let c' : NodeClient := ⟨.standard, ⟨0, second⟩, none, [], []⟩
    let others := fun s : LoggedWire =>
      s.requestsOut.filter fun r => r.2.2.1 != "http://a.lan/api/auth"
    first.redact = second.redact ∧ NodeClient.new? first .standard = .ok c ∧
      NodeClient.new? second .standard = .ok c' ∧
      others ((fresh c).run beingRedirected) =
        [(none, .post, "http://b.lan/in", some "\x7b\"password\":\"one\"\x7d")] ∧
      others ((fresh c').run beingRedirected) =
        [(none, .post, "http://b.lan/in", some "\x7b\"password\":\"two\"\x7d")] := by
  intro first second c c' others
  exact ⟨rfl, if_pos (by decide +kernel), if_pos (by decide +kernel), by decide +kernel,
    by decide +kernel⟩

end LoggedWire

end FilterFleet
