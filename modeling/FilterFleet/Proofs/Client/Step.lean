import FilterFleet.Client.Machine
import FilterFleet.Proofs.Lists

/-!
# What the parts of a step do to a client

A step of a client looks at one call and puts it in another place; it may give up or store a
session, and send one request. `Placed` says the first part: one call was put, and nothing else
about the calls, the settings and the session has changed. Each function of the client that a step
is made of has one lemma that says how it places its call and what it sends. `StepCase` lists the
ways in which a step can go; that there are no others is said once (`step_cases`), so that nothing
else has to take the step apart.
-/

namespace FilterFleet

open Address

/-! ## Addresses under settings -/

/-- An address lies below the base address of settings: it has the scheme, the host and the port of
the base address, and a path behind the path of the base address. -/
def NodeSettings.Reaches (s : NodeSettings) (url : Url) : Prop :=
  ∃ base segments pairs, s.baseAddress = .ok base ∧ url = (base.below segments).withPairs pairs ∧
    url.scheme = base.scheme ∧ url.credentials = base.credentials ∧ url.host = base.host ∧
    url.port = base.port

theorem NodeSettings.reaches_of_endpoint {s : NodeSettings} {segments : List String} {url : Url}
    (h : s.endpoint segments = .ok url) (pairs : List (String × String)) :
    s.Reaches (url.withPairs pairs) := by
  unfold NodeSettings.endpoint at h
  cases hbase : s.baseAddress with
  | error fault =>
    rw [hbase] at h
    cases h
  | ok base =>
    rw [hbase] at h
    obtain rfl := Except.ok.inj h
    refine ⟨base, segments, pairs, hbase, rfl, ?_⟩
    unfold Url.withPairs
    split <;> exact ⟨rfl, rfl, rfl, rfl⟩

/-! ## Where a call waits -/

/-- The call has not come to its own request. -/
def Progress.IsBefore {kind : CallKind} : Progress kind → Prop
  | .atGate => True
  | .loginSent => True
  | .loginAnswered _ => True
  | .sent _ => False
  | .answered _ => False
  | .finished _ => False

theorem NodeCall.eq_logout {call : NodeCall} (h : call.form? = none) : call = ⟨.logout, ()⟩ := by
  obtain ⟨kind, request⟩ := call
  cases kind with
  | logout => rfl
  | _ => cases h

/-- The body of a good answer to a login. -/
def loginAnswer (sid : String) (validity : Nat) : AnswerBody :=
  .ok ⟨("\x7b\"session\":\x7b\"valid\":true,\"sid\":\"" ++ sid ++ "\",\"validity\":" ++
    toString validity ++ "\x7d\x7d").toUTF8.toList, ""⟩

namespace NodeClient

/-- One call of a client was put in its place, and nothing else has changed but the gate. -/
structure Placed (c c' : NodeClient) (l : LiveCall) : Prop where
  options : c'.options = c.options
  current : c'.current = c.current
  session : c'.session = c.session
  call : ∀ id, c'.call? id = if l.id = id then some l else c.call? id

theorem placed_put (c : NodeClient) (l : LiveCall) : Placed c (c.put l) l := by
  refine ⟨rfl, rfl, rfl, fun id => ?_⟩
  rw [call?, put, List.find?_cons]
  by_cases h : l.id = id
  · simp [h]
  · have hne : (l.id == id) = false := by simpa using h
    rw [hne, if_neg h]
    exact (find?_filter_key LiveCall.id l.id id c.calls).trans (if_neg h)

theorem Placed.call_self {c c' : NodeClient} {l : LiveCall} (h : Placed c c' l) :
    c'.call? l.id = some l :=
  (h.call l.id).trans (if_pos rfl)

theorem Placed.of_put {c c' : NodeClient} {l : LiveCall} (h : c' = c.put l) : Placed c c' l :=
  h ▸ placed_put c l

theorem Placed.of_leaveGate {c c' : NodeClient} {l : LiveCall} {id : Nat}
    (h : Placed (c.leaveGate id) c' l) : Placed c c' l :=
  ⟨h.options, h.current, h.session, h.call⟩

/-- Putting a call again in another place is putting it there at once. -/
theorem Placed.trans {c c₁ c₂ : NodeClient} {l l' : LiveCall} (h : Placed c c₁ l)
    (h' : Placed c₁ c₂ l') (hid : l'.id = l.id) : Placed c c₂ l' := by
  refine ⟨h'.options.trans h.options, h'.current.trans h.current, h'.session.trans h.session, ?_⟩
  intro id
  rw [h'.call, h.call, hid]
  split <;> rfl

/-! ## Sending -/

/-- A login under settings: it carries their password to their address. -/
structure IsLogin (s : NodeSettings) (r : HttpRequest) : Prop where
  method : r.method = .post
  sid : r.sid = none
  endpoint : s.endpoint ["auth"] = .ok r.url
  address : s.Reaches r.url
  body : r.body = some (.obj [("password", .str s.password.value)])

/-- The request of a call under settings, with a session. -/
structure IsRequest (s : NodeSettings) (call : NodeCall) (sid : String) (r : HttpRequest) :
    Prop where
  form : ∃ form, call.form? = some form ∧ r.method = form.method ∧ r.body = form.body
  sid : r.sid = some sid
  address : s.Reaches r.url

/-- What a logout sends: the request that ends a session. -/
structure IsEnding (s : NodeSettings) (sid : String) (r : HttpRequest) : Prop where
  method : r.method = .delete
  sid : r.sid = some sid
  address : s.Reaches r.url
  body : r.body = none

/-- Sending the request of a call puts the call in a place behind that of its request. -/
theorem sendRequest_eq (c : NodeClient) (l : LiveCall) (sid : String)
    (hform : l.call.form?.isSome) :
    ∃ p : Progress l.call.kind, ¬ p.IsBefore ∧
      (c.sendRequest l sid).1 = c.put { l with progress := p } ∧
      ∀ r ∈ (c.sendRequest l sid).2, IsRequest l.snapshot.settings l.call sid r := by
  obtain ⟨form, hform⟩ := Option.isSome_iff_exists.mp hform
  unfold sendRequest
  rw [hform]
  dsimp only
  split
  · next fault _ => exact ⟨.finished _, id, rfl, by simp⟩
  · next url hurl =>
    split
    · next e _ => exact ⟨.finished _, id, rfl, by simp⟩
    · refine ⟨.sent sid, id, rfl, fun r hr => ?_⟩
      obtain rfl := List.mem_singleton.mp hr
      exact ⟨⟨form, hform, rfl, rfl⟩, rfl, NodeSettings.reaches_of_endpoint hurl form.pairs⟩

theorem sendRequest_spec (c : NodeClient) (l : LiveCall) (sid : String)
    (hform : l.call.form?.isSome) :
    ∃ p : Progress l.call.kind, ¬ p.IsBefore ∧
      Placed c (c.sendRequest l sid).1 { l with progress := p } ∧
      ∀ r ∈ (c.sendRequest l sid).2, IsRequest l.snapshot.settings l.call sid r := by
  obtain ⟨p, hp, heq, hsent⟩ := c.sendRequest_eq l sid hform
  exact ⟨p, hp, .of_put heq, hsent⟩

/-- Sending the login of a call leaves the call waiting for the status, or ends it without a
request. -/
theorem sendLogin_eq (c : NodeClient) (l : LiveCall) :
    (∃ r, c.sendLogin l = (c.put { l with progress := .loginSent }, [r]) ∧
      IsLogin l.snapshot.settings r) ∨
      ∃ e, c.sendLogin l = ((c.leaveGate l.id).finish l (.error e), []) := by
  unfold sendLogin
  split
  · exact .inr ⟨_, rfl⟩
  · next url hurl =>
    split
    · exact .inr ⟨_, rfl⟩
    · exact .inl ⟨_, rfl, rfl, rfl, hurl, NodeSettings.reaches_of_endpoint hurl [], rfl⟩

theorem sendLogin_spec (c : NodeClient) (l : LiveCall) :
    ∃ p : Progress l.call.kind, Placed c (c.sendLogin l).1 { l with progress := p } ∧
      (∀ r ∈ (c.sendLogin l).2, IsLogin l.snapshot.settings r) ∧
      (p.IsBefore → p = .loginSent ∧ ∃ r ∈ (c.sendLogin l).2, r.sid = none) := by
  rcases c.sendLogin_eq l with ⟨r, heq, hr⟩ | ⟨e, heq⟩
  · rw [heq]
    exact ⟨.loginSent, placed_put c _, by simpa using hr, fun _ =>
      ⟨rfl, r, List.mem_singleton_self r, hr.sid⟩⟩
  · rw [heq]
    exact ⟨.finished _, (placed_put _ _).of_leaveGate, by simp, False.elim⟩

/-! ## Calls that come to the gate -/

/-- A session that a call may use is the cached one, and of the generation of the call. -/
theorem eq_some_of_lookup {session : SessionCache} {generation : Nat} {now : Instant} {sid : String}
    (h : session.lookup generation now = some sid) :
    ∃ s, session = some s ∧ s.generation = generation ∧ s.sid = sid := by
  obtain ⟨s, hs, rfl⟩ := Option.map_eq_some_iff.mp h
  obtain ⟨hsome, huse⟩ := Option.filter_eq_some_iff.mp hs
  refine ⟨s, hsome, ?_, rfl⟩
  simp only [CachedSession.isUsable, Bool.and_eq_true, beq_iff_eq] at huse
  exact huse.1

/-- What comes of a call that goes on from the gate, or comes there: it is put in a place, and what
it sends is its login, or its request with the cached session of its generation. If it waits for a
login then, it has just sent this login. -/
def Goes (c : NodeClient) (l : LiveCall) (out : NodeClient × List HttpRequest) : Prop :=
  ∃ p : Progress l.call.kind, Placed c out.1 { l with progress := p } ∧
    (∀ r ∈ out.2, IsLogin l.snapshot.settings r ∨
      ∃ s, c.session = some s ∧ s.generation = l.snapshot.generation ∧
        IsRequest l.snapshot.settings l.call s.sid r) ∧
    (p.IsBefore → p = .atGate ∨ p = .loginSent ∧ ∃ r ∈ out.2, r.sid = none)

theorem goes_sendRequest {c : NodeClient} {l : LiveCall} {now : Instant} {sid : String}
    (hform : l.call.form?.isSome)
    (hsid : c.session.lookup l.snapshot.generation now = some sid) :
    Goes c l (c.sendRequest l sid) := by
  obtain ⟨s, hs, hgen, rfl⟩ := eq_some_of_lookup hsid
  obtain ⟨p, hp, hplaced, hsent⟩ := c.sendRequest_spec l s.sid hform
  exact ⟨p, hplaced, fun r hr => .inr ⟨s, hs, hgen, hsent r hr⟩, fun h => absurd h hp⟩

theorem goes_sendLogin (c : NodeClient) (l : LiveCall) : Goes c l (c.sendLogin l) := by
  obtain ⟨p, hplaced, hsent, hp⟩ := c.sendLogin_spec l
  exact ⟨p, hplaced, fun r hr => .inl (hsent r hr), fun h => .inr (hp h)⟩

theorem Goes.of_placed {c c₁ : NodeClient} {l : LiveCall} {out : NodeClient × List HttpRequest}
    (hc : Placed c c₁ l) (h : Goes c₁ l out) : Goes c l out := by
  obtain ⟨p, hplaced, hsent, hp⟩ := h
  exact ⟨p, hc.trans hplaced rfl, hc.session ▸ hsent, hp⟩

theorem Goes.of_leaveGate {c : NodeClient} {l : LiveCall} {id : Nat}
    {out : NodeClient × List HttpRequest} (h : Goes (c.leaveGate id) l out) : Goes c l out := by
  obtain ⟨p, hplaced, hsent, hp⟩ := h
  exact ⟨p, hplaced.of_leaveGate, hsent, hp⟩

theorem placed_self {c : NodeClient} {l : LiveCall} (h : c.call? l.id = some l) :
    Placed c c l := by
  refine ⟨rfl, rfl, rfl, fun id => ?_⟩
  split
  · next hid => rw [← hid, h]
  · rfl

/-- A call at the gate goes on when it is at the front, and stays where it is otherwise. -/
theorem goes_proceed {c : NodeClient} {l : LiveCall} (now : Instant)
    (hcall : c.call? l.id = some l) (hgate : l.progress = .atGate)
    (hform : l.call.form?.isSome) : Goes c l (c.proceed l now) := by
  unfold proceed
  split
  · split
    · next sid hsid => exact (goes_sendRequest (c := c.leaveGate l.id) hform hsid).of_leaveGate
    · exact goes_sendLogin c l
  · have hl : { l with progress := .atGate } = l := by rw [← hgate]
    refine ⟨.atGate, ?_, by simp, fun _ => .inl rfl⟩
    rw [hl]
    exact placed_self hcall

/-- A call that starts, a logout apart. -/
theorem goes_start (c : NodeClient) (id : Nat) (call : NodeCall) (now : Instant)
    (hform : call.form?.isSome) :
    Goes c ⟨id, call, c.current, .atGate⟩ (c.start id call now) := by
  unfold start
  split
  · next h =>
    rw [h] at hform
    cases hform
  · next form h =>
    dsimp only
    split
    · next fault _ => exact ⟨.finished _, placed_put c _, by simp, False.elim⟩
    · split
      · next sid hsid => exact goes_sendRequest hform hsid
      · have hput := placed_put c ⟨id, call, c.current, .atGate⟩
        have hself : (c.put ⟨id, call, c.current, .atGate⟩).call? id =
            some ⟨id, call, c.current, .atGate⟩ := (hput.call id).trans (if_pos rfl)
        have hgate : Placed c
            { c.put ⟨id, call, c.current, .atGate⟩ with gate := c.gate ++ [id] }
            ⟨id, call, c.current, .atGate⟩ := ⟨rfl, rfl, rfl, hput.call⟩
        exact (goes_proceed now hself rfl hform).of_placed hgate

/-! ## Answers -/

/-- A session that a login brought is stored, unless one of later settings stays. -/
theorem eq_or_of_store {session : SessionCache} {sid : String} {validity : Span} {generation : Nat}
    {now : Instant} {s : CachedSession}
    (h : session.store sid validity generation now = some s) :
    session = some s ∨ s.sid = sid ∧ s.generation = generation := by
  unfold SessionCache.store at h
  split at h
  · exact .inl h
  · obtain rfl := Option.some.inj h
    exact .inr ⟨rfl, rfl⟩

/-- What a login must come back with to bring a session. -/
theorem loginResult_eq_ok {options : ClientOptions} {status : UInt16}
    {body : AnswerBody} {sid : String} {validity : Span}
    (h : loginResult options status body = .ok (sid, validity)) :
    status = 200 ∧ ∃ answer, decodeBody "login response" AuthAnswer.ofJson? body = .ok answer ∧
      answer.session.sid = some sid ∧ answer.session.valid = true := by
  unfold loginResult at h
  split at h
  · next hstatus =>
    refine ⟨by simpa using hstatus, ?_⟩
    cases hbody : decodeBody "login response" AuthAnswer.ofJson? body with
    | error e =>
      rw [hbody] at h
      cases h
    | ok answer =>
      rw [hbody] at h
      refine ⟨answer, rfl, ?_⟩
      simp only [Except.bind, acceptLogin] at h
      split at h
      · next sid' hsid =>
        split at h
        · next hvalid =>
          obtain ⟨rfl, -⟩ := Prod.mk.inj (Except.ok.inj h)
          exact ⟨hsid, (Bool.and_eq_true_iff.mp hvalid).1⟩
        · cases h
      · cases h
  · cases h

/-- A login that fails ends its call, which leaves the gate. -/
theorem endLogin_error (c : NodeClient) (l : LiveCall) (e : NodeError) (now : Instant) :
    c.endLogin l (.error e) now = ((c.leaveGate l.id).finish l (.error e), []) := rfl

/-- A login that brings a session stores it; its call leaves the gate and sends its request with the
session. -/
theorem endLogin_ok (c : NodeClient) (l : LiveCall) (sid : String) (validity : Span)
    (now : Instant) :
    c.endLogin l (.ok (sid, validity)) now =
      (({ c with
          session := c.session.store sid validity l.snapshot.generation now }.leaveGate
        l.id).sendRequest l sid) := rfl

theorem endLogin_spec (c : NodeClient) (l : LiveCall) (result : Except NodeError (String × Span))
    (now : Instant) (hform : l.call.form?.isSome) :
    ∃ (session : SessionCache) (p : Progress l.call.kind), ¬ p.IsBefore ∧
      Placed { c with session } (c.endLogin l result now).1 { l with progress := p } ∧
      (∀ s, session = some s → c.session = some s ∨
        ∃ validity, result = .ok (s.sid, validity) ∧ s.generation = l.snapshot.generation) ∧
      ∀ r ∈ (c.endLogin l result now).2, ∃ sid validity, result = .ok (sid, validity) ∧
        IsRequest l.snapshot.settings l.call sid r := by
  cases result with
  | error e =>
    rw [endLogin_error]
    exact ⟨c.session, .finished _, id, (placed_put _ _).of_leaveGate, fun s hs => .inl hs, by simp⟩
  | ok login =>
    obtain ⟨sid, validity⟩ := login
    rw [endLogin_ok]
    obtain ⟨p, hp, hplaced, hsent⟩ := sendRequest_spec _ l sid hform
    refine ⟨_, p, hp, hplaced.of_leaveGate, fun s hs => ?_,
      fun r hr => ⟨sid, validity, rfl, hsent r hr⟩⟩
    rcases eq_or_of_store hs with h | ⟨rfl, hgen⟩
    · exact .inl h
    · exact .inr ⟨validity, rfl, hgen⟩

/-- The status of a request settles its call; a session that was rejected is given up. -/
theorem onStatus_eq (c : NodeClient) (l : LiveCall) (sid : String) (status : UInt16)
    (stamp : Timestamp) :
    ∃ (session : SessionCache) (p : Progress l.call.kind), ¬ p.IsBefore ∧
      c.onStatus l sid status stamp = { c with session }.put { l with progress := p } ∧
      (session = c.session ∨ session = c.session.invalidate sid) := by
  unfold onStatus
  dsimp only
  split
  · split
    · exact ⟨_, .finished _, id, rfl, .inr rfl⟩
    · exact ⟨_, .finished _, id, rfl, .inl rfl⟩
  · split
    · exact ⟨_, .answered _, id, rfl, .inr rfl⟩
    · exact ⟨_, .answered _, id, rfl, .inl rfl⟩

theorem onStatus_spec (c : NodeClient) (l : LiveCall) (sid : String) (status : UInt16)
    (stamp : Timestamp) :
    ∃ (session : SessionCache) (p : Progress l.call.kind), ¬ p.IsBefore ∧
      Placed { c with session } (c.onStatus l sid status stamp) { l with progress := p } ∧
      ∀ s, session = some s → c.session = some s := by
  obtain ⟨session, p, hp, heq, rfl | rfl⟩ := c.onStatus_eq l sid status stamp
  · exact ⟨_, p, hp, .of_put heq, fun s hs => hs⟩
  · exact ⟨_, p, hp, .of_put heq, fun s hs => (Option.filter_eq_some_iff.mp hs).1⟩

/-- A logout gives up the session, and what it sends ends this session under the settings in
force. -/
theorem startLogout_eq (c : NodeClient) (id : Nat) :
    ∃ p : Progress .logout, ¬ p.IsBefore ∧
      (c.startLogout id).1 = { c with session := none }.put ⟨id, ⟨.logout, ()⟩, c.current, p⟩ ∧
      ∀ r ∈ (c.startLogout id).2, ∃ s, c.session = some s ∧
        IsEnding c.current.settings s.sid r := by
  unfold startLogout
  dsimp only
  split
  · next hnone => exact ⟨.finished (.ok ()), fun h => h, by rw [← hnone], by simp⟩
  · next session hsession =>
    split
    · exact ⟨.finished _, fun h => h, rfl, by simp⟩
    · next url hurl =>
      split
      · exact ⟨.finished _, fun h => h, rfl, by simp⟩
      · refine ⟨.sent _, fun h => h, rfl, fun r hr => ?_⟩
        obtain rfl := List.mem_singleton.mp hr
        exact ⟨session, hsession, rfl, rfl, NodeSettings.reaches_of_endpoint hurl [], rfl⟩

theorem startLogout_spec (c : NodeClient) (id : Nat) :
    ∃ p : Progress .logout, ¬ p.IsBefore ∧
      Placed { c with session := none } (c.startLogout id).1 ⟨id, ⟨.logout, ()⟩, c.current, p⟩ ∧
      ∀ r ∈ (c.startLogout id).2, r.sid ≠ none := by
  obtain ⟨p, hp, heq, hsent⟩ := c.startLogout_eq id
  refine ⟨p, hp, .of_put heq, fun r hr hnone => ?_⟩
  obtain ⟨s, -, hends⟩ := hsent r hr
  cases hnone.symm.trans hends.sid

/-! ## The end of a login -/

/-- At an event the login of a call ends with a result. -/
inductive EndsLogin (c : NodeClient) :
    ClientEvent → LiveCall → Except NodeError (String × Span) → Prop where
  | body {id : Nat} {l : LiveCall} {status : UInt16} (hcall : c.call? id = some l)
      (hread : l.progress = .loginAnswered status) (body : AnswerBody) :
      EndsLogin c (.body id body) l (loginResult c.options status body)
  | failure {id : Nat} {l : LiveCall} (hcall : c.call? id = some l)
      (hsent : l.progress = .loginSent) (failure : SendFailure) :
      EndsLogin c (.failure id failure) l (.error failure.error)

theorem step_of_endsLogin {c : NodeClient} {e : ClientEvent} {l : LiveCall}
    {result : Except NodeError (String × Span)} (h : c.EndsLogin e l result) (t : Moment) :
    c.step t e = c.endLogin l result t.now := by
  cases h with
  | body hcall hread body => simp only [step, hcall, hread]
  | failure hcall hsent failure => simp only [step, hcall, hsent]

/-! ## Every step -/

theorem id_of_call? {c : NodeClient} {id : Nat} {l : LiveCall} (h : c.call? id = some l) :
    l.id = id := by
  simpa using List.find?_some h

/-- A call that waits at the gate, or logs in, has a request of its own: it is no logout. -/
def Formed (c : NodeClient) : Prop :=
  ∀ id l, c.call? id = some l → l.progress.IsBefore → l.call.form?.isSome

/-- At an event a call looks for a session: it starts, or its turn at the gate has come. -/
inductive Checks (c : NodeClient) : ClientEvent → LiveCall → Prop where
  | start {id : Nat} {call : NodeCall} {form : RequestForm} {url : Url}
      (hform : call.form? = some form)
      (hurl : c.current.settings.endpoint form.segments = .ok url) :
      Checks c (.start id call) ⟨id, call, c.current, .atGate⟩
  | turn {l : LiveCall} (hcall : c.call? l.id = some l) (hgate : l.progress = .atGate)
      (hfront : c.gate.head? = some l.id) : Checks c (.proceed l.id) l

/-- The ways in which a step can go. -/
inductive StepCase (c : NodeClient) (t : Moment) : ClientEvent → Prop where
  /-- Nobody waits for what has happened. -/
  | idle {e : ClientEvent} (hstep : c.step t e = (c, [])) : StepCase c t e
  | logout (id : Nat) (hstep : c.step t (.start id ⟨.logout, ()⟩) = c.startLogout id) :
      StepCase c t (.start id ⟨.logout, ()⟩)
  /-- A call starts under settings that make no address. -/
  | refused {id : Nat} {call : NodeCall} (error : NodeError)
      (hstep : c.step t (.start id call) =
        (c.put ⟨id, call, c.current, .finished (.error error)⟩, [])) :
      StepCase c t (.start id call)
  | checks {e : ClientEvent} {l : LiveCall} (h : c.Checks e l) : StepCase c t e
  /-- The status of a login has come. -/
  | loginAnswered {id : Nat} {l : LiveCall} {status : UInt16} (hcall : c.call? id = some l)
      (hsent : l.progress = .loginSent)
      (hstep : c.step t (.status id status) =
        (c.put { l with progress := .loginAnswered status }, [])) :
      StepCase c t (.status id status)
  | endsLogin {e : ClientEvent} {l : LiveCall} {result : Except NodeError (String × Span)}
      (h : c.EndsLogin e l result) : StepCase c t e
  /-- The status of a request has come. -/
  | answered {id : Nat} {l : LiveCall} {sid : String} {status : UInt16}
      (hcall : c.call? id = some l) (hsent : l.progress = .sent sid)
      (hstep : c.step t (.status id status) = (c.onStatus l sid status t.stamp, [])) :
      StepCase c t (.status id status)
  /-- A call is over that has sent its own request. -/
  | finished {e : ClientEvent} {id : Nat} {l : LiveCall} {outcome : Outcome l.call.kind}
      (hcall : c.call? id = some l) (hbefore : ¬ l.progress.IsBefore)
      (hstep : c.step t e = (c.finish l outcome, [])) : StepCase c t e
  | abandon (id : Nat) : StepCase c t (.abandon id)
  | configure (settings : NodeSettings) : StepCase c t (.configure settings)

theorem step_cases (c : NodeClient) (t : Moment) (e : ClientEvent) : c.StepCase t e := by
  cases e with
  | start id call =>
    cases hform : call.form? with
    | none =>
      obtain rfl := NodeCall.eq_logout hform
      exact .logout id rfl
    | some form =>
      cases hurl : c.current.settings.endpoint form.segments with
      | error fault => exact .refused _ (by simp only [step, start, hform, hurl]; rfl)
      | ok url => exact .checks (.start hform hurl)
  | proceed id =>
    cases hcall : c.call? id with
    | none => exact .idle (by simp only [step, hcall])
    | some l =>
      obtain rfl := id_of_call? hcall
      cases hprogress : l.progress with
      | atGate =>
        by_cases hfront : c.gate.head? = some l.id
        · exact .checks (.turn hcall hprogress hfront)
        · exact .idle (by simp only [step, hcall, hprogress, proceed, if_neg hfront])
      | _ => exact .idle (by simp only [step, hcall, hprogress])
  | status id status =>
    cases hcall : c.call? id with
    | none => exact .idle (by simp only [step, hcall])
    | some l =>
      cases hprogress : l.progress with
      | loginSent => exact .loginAnswered hcall hprogress (by simp only [step, hcall, hprogress])
      | sent sid => exact .answered hcall hprogress (by simp only [step, hcall, hprogress])
      | _ => exact .idle (by simp only [step, hcall, hprogress])
  | body id body =>
    cases hcall : c.call? id with
    | none => exact .idle (by simp only [step, hcall])
    | some l =>
      cases hprogress : l.progress with
      | loginAnswered status => exact .endsLogin (.body hcall hprogress body)
      | answered status =>
        exact .finished hcall (by rw [hprogress]; exact fun h => h)
          (by simp only [step, hcall, hprogress]; rfl)
      | _ => exact .idle (by simp only [step, hcall, hprogress])
  | failure id failure =>
    cases hcall : c.call? id with
    | none => exact .idle (by simp only [step, hcall])
    | some l =>
      cases hprogress : l.progress with
      | loginSent => exact .endsLogin (.failure hcall hprogress failure)
      | sent sid =>
        have hbefore : ¬ l.progress.IsBefore := by
          rw [hprogress]
          exact fun h => h
        exact .finished hcall hbefore (by simp only [step, hcall, hprogress]; rfl)
      | _ => exact .idle (by simp only [step, hcall, hprogress])
  | abandon id => exact .abandon id
  | configure settings => exact .configure settings

theorem Checks.form {c : NodeClient} {e : ClientEvent} {l : LiveCall} (h : c.Checks e l)
    (hform : c.Formed) : l.call.form?.isSome := by
  cases h with
  | start hsome _ => exact Option.isSome_iff_exists.mpr ⟨_, hsome⟩
  | turn hcall hgate _ => exact hform _ l hcall (by rw [hgate]; trivial)

theorem EndsLogin.form {c : NodeClient} {e : ClientEvent} {l : LiveCall}
    {result : Except NodeError (String × Span)} (h : c.EndsLogin e l result)
    (hform : c.Formed) : l.call.form?.isSome := by
  cases h with
  | body hcall hread _ => exact hform _ l hcall (by rw [hread]; trivial)
  | failure hcall hsent _ => exact hform _ l hcall (by rw [hsent]; trivial)

theorem Checks.goes {c : NodeClient} {e : ClientEvent} {l : LiveCall} (h : c.Checks e l)
    (hform : l.call.form?.isSome) (t : Moment) : Goes c l (c.step t e) := by
  cases h with
  | @start id call form url _ _ => exact c.goes_start id call t.now hform
  | turn hcall hgate _ =>
    simp only [step, hcall, hgate]
    exact goes_proceed t.now hcall hgate hform

/-- What a step can do to the session: nothing, take it, give it up because it was rejected, or
store the one that a login has brought. -/
theorem session_cases {c : NodeClient} (hform : c.Formed) (t : Moment) (e : ClientEvent) :
    (c.step t e).1.session = c.session ∨ (c.step t e).1.session = none ∨
      (∃ sid, (c.step t e).1.session = c.session.invalidate sid) ∨
      ∃ l sid validity, c.EndsLogin e l (.ok (sid, validity)) ∧
        (c.step t e).1.session = c.session.store sid validity l.snapshot.generation t.now := by
  cases c.step_cases t e with
  | idle hstep | refused _ hstep | loginAnswered _ _ hstep | finished _ _ hstep =>
    rw [hstep]
    exact .inl rfl
  | logout id hstep =>
    obtain ⟨p, -, hplaced, -⟩ := c.startLogout_spec id
    rw [hstep]
    exact .inr (.inl hplaced.session)
  | @checks e l h =>
    obtain ⟨p, hplaced, -⟩ := h.goes (h.form hform) t
    exact .inl hplaced.session
  | @endsLogin e l result h =>
    rw [step_of_endsLogin h]
    cases result with
    | error e => exact .inl rfl
    | ok login =>
      obtain ⟨sid, validity⟩ := login
      rw [endLogin_ok]
      obtain ⟨p, -, hplaced, -⟩ := sendRequest_spec _ l sid (h.form hform)
      exact .inr (.inr (.inr ⟨l, sid, validity, h, hplaced.session⟩))
  | @answered id l sid status _ _ hstep =>
    obtain ⟨session, p, -, heq, hsession⟩ := c.onStatus_eq l sid status t.stamp
    rw [hstep, heq]
    exact hsession.imp_right fun hrejected => .inr (.inl ⟨sid, hrejected⟩)
  | abandon id => exact .inl rfl
  | configure settings => exact .inr (.inl rfl)

end NodeClient

end FilterFleet
