import FilterFleet.Proofs.Client.Advance
import FilterFleet.Proofs.Client.Generations

/-!
# The exchanges of a call

The log tells which requests a call has sent and what has come back for them (`exchanges`), and
whether the call has found a session in the cache (`Found`). A call has a session when it has found
one, or when its login has come back with one (`HasSession`).

`Account` lists what the exchanges of a call can be, and `Stand` where a call stands by them. Every
event that a call waits for moves it from one stand to another (`Stand.advance`), and no other event
does (`Stand.deaf`).
-/

namespace FilterFleet

/-! ## Sessions of calls -/

/-- The exchange was a login, and it has come back with a session: it was answered 200, with a body
that can be read, and the session is valid and has an id. -/
def Exchange.LogsIn (x : Exchange) (sid : String) : Prop :=
  x.request.sid = none ∧ ∃ body answer, x.response = .complete 200 body ∧
    decodeBody "login response" AuthAnswer.ofJson? body = .ok answer ∧
    answer.session.sid = some sid ∧ answer.session.valid = true ∧ sid.isEmpty = false

namespace ClientLog

/-- The client that a log has led to. -/
def client (first : NodeClient) : ClientLog → NodeClient
  | [] => first
  | x :: before => ((client first before).step x.moment x.event).1

/-- The call that was started last under an id has found a session in the cache. -/
inductive Found (first : NodeClient) (id : Nat) (sid : String) : ClientLog → Prop where
  | now {x : LogEntry} {before : ClientLog} {l : LiveCall} (hid : l.id = id)
      (h : (client first before).Finds x.moment x.event l sid) : Found first id sid (x :: before)
  | later {x : LogEntry} {before : ClientLog} (hx : ∀ call, x.event ≠ .start id call)
      (h : Found first id sid before) : Found first id sid (x :: before)

/-- The call that was started last under an id has got a session: it has found one in the cache, or
its login has come back with one. -/
def HasSession (first : NodeClient) (log : ClientLog) (id : Nat) (sid : String) : Prop :=
  Found first id sid log ∨ ∃ x ∈ exchanges log id, x.LogsIn sid

end ClientLog

open ClientLog

/-! ## What a login comes to -/

/-- A login brings a session just when it has come back with one. -/
theorem Exchange.logsIn_complete_iff {r : HttpRequest} {status : UInt16}
    {body : AnswerBody} {sid : String} (options : ClientOptions) :
    (⟨r, .complete status body⟩ : Exchange).LogsIn sid ↔ r.sid = none ∧
      ∃ validity, NodeClient.loginResult options status body = .ok (sid, validity) := by
  refine and_congr_right fun _ => ⟨?_, ?_⟩
  · rintro ⟨body', answer, hcomplete, hanswer, hsid, hvalid, hne⟩
    obtain ⟨rfl, rfl⟩ := Response.complete.inj hcomplete
    refine ⟨min (Span.ofSecs answer.session.secondsLeft) options.sessionTtl, ?_⟩
    simp [NodeClient.loginResult, hanswer, Except.bind, NodeClient.acceptLogin, hsid, hvalid, hne]
  · rintro ⟨validity, hresult⟩
    obtain ⟨rfl, answer, hanswer, hsid, hvalid⟩ := NodeClient.loginResult_eq_ok hresult
    refine ⟨body, answer, rfl, hanswer, hsid, hvalid, ?_⟩
    cases hempty : sid.isEmpty with
    | false => rfl
    | true =>
      simp [NodeClient.loginResult, hanswer, Except.bind, NodeClient.acceptLogin, hsid, hempty]
        at hresult

theorem Exchange.not_logsIn {r : HttpRequest} {response : Response} {sid : String}
    (h : ∀ status body, response ≠ .complete status body) :
    ¬ (⟨r, response⟩ : Exchange).LogsIn sid := by
  rintro ⟨-, body, answer, hcomplete, -⟩
  exact h 200 body hcomplete

/-! ## The account of a call -/

/-- How a call has come to its session: it has found it and sent no login, or its login has come
back with it. -/
inductive Brought (options : ClientOptions) (s : NodeSettings) :
    Option String → List Exchange → String → Prop where
  | found (sid : String) : Brought options s (some sid) [] sid
  | login {r : HttpRequest} {status : UInt16} {body : AnswerBody}
      {sid : String} {validity : Span} (hr : s.login = .ok r)
      (hresult : NodeClient.loginResult options status body = .ok (sid, validity)) :
      Brought options s none [⟨r, .complete status body⟩] sid

/-- What the exchanges of a call can be, by the session that it has found. -/
inductive Account (options : ClientOptions) (s : NodeSettings) (call : NodeCall) :
    Option String → List Exchange → Prop where
  | idle : Account options s call none []
  | login {r : HttpRequest} {response : Response} (hr : s.login = .ok r)
      (hnone : ∀ sid, ¬ (⟨r, response⟩ : Exchange).LogsIn sid) :
      Account options s call none [⟨r, response⟩]
  /-- The request of the call cannot be written. -/
  | unwritten {found : Option String} {logins : List Exchange} {sid : String} {form : RequestForm}
      {error : NodeError} (h : Brought options s found logins sid) (hform : call.form? = some form)
      (hrequest : form.request s sid = .error error) : Account options s call found logins
  | asked {found : Option String} {logins : List Exchange} {sid : String} {form : RequestForm}
      {r : HttpRequest} (h : Brought options s found logins sid) (hform : call.form? = some form)
      (hrequest : form.request s sid = .ok r) (response : Response) :
      Account options s call found (⟨r, response⟩ :: logins)

/-- Where a call stands that has no session. -/
inductive Seeks (options : ClientOptions) (s : NodeSettings) {kind : CallKind} :
    List Exchange → Progress kind → Prop where
  | atGate : Seeks options s [] .atGate
  | unable {error : NodeError} (h : s.login = .error error) :
      Seeks options s [] (.finished (.error error))
  | loginSent {r : HttpRequest} (hr : s.login = .ok r) : Seeks options s [⟨r, .awaited⟩] .loginSent
  | loginAnswered {r : HttpRequest} (hr : s.login = .ok r) (status : UInt16) :
      Seeks options s [⟨r, .status status⟩] (.loginAnswered status)
  | failed {r : HttpRequest} (hr : s.login = .ok r) (failure : SendFailure) :
      Seeks options s [⟨r, .failed failure⟩] (.finished (.error failure.error))
  | refused {r : HttpRequest} {status : UInt16} {body : AnswerBody}
      {error : NodeError} (hr : s.login = .ok r)
      (hresult : NodeClient.loginResult options status body = .error error) :
      Seeks options s [⟨r, .complete status body⟩] (.finished (.error error))

/-- Where a call stands that has sent its request, by what has come back for the request. -/
inductive Asks (call : NodeCall) (sid : String) (r : HttpRequest) :
    Response → Progress call.kind → Prop where
  | sent : Asks call sid r .awaited (.sent sid)
  | answered {status : UInt16}
      (hmore : NodeClient.isExpected call status = true → call.kind.readsBody = true) :
      Asks call sid r (.status status) (.answered status)
  | failed (failure : SendFailure) :
      Asks call sid r (.failed failure) (.finished (.error failure.error))
  | done {response : Response} {status : UInt16} (hstatus : response.status? = some status)
      (hexpected : NodeClient.isExpected call status = true) (hread : call.kind.readsBody = false)
      (stamp : Timestamp) :
      Asks call sid r response (.finished (readReply stamp (.ok .empty) call.kind))
  | complete {status : UInt16}
      (hmore : NodeClient.isExpected call status = true → call.kind.readsBody = true)
      (body : AnswerBody) (stamp : Timestamp) :
      Asks call sid r (.complete status body)
        (.finished (NodeClient.outcomeOf call status body stamp))

/-- Where a call stands by its exchanges. -/
inductive Stand (options : ClientOptions) (s : NodeSettings) (call : NodeCall) :
    Option String → List Exchange → Progress call.kind → Prop where
  | seeks {exchanges : List Exchange} {p : Progress call.kind} (h : Seeks options s exchanges p) :
      Stand options s call none exchanges p
  | unwritten {found : Option String} {logins : List Exchange} {sid : String} {form : RequestForm}
      {error : NodeError} (h : Brought options s found logins sid) (hform : call.form? = some form)
      (hrequest : form.request s sid = .error error) :
      Stand options s call found logins (.finished (.error error))
  | asks {found : Option String} {logins : List Exchange} {sid : String} {form : RequestForm}
      {r : HttpRequest} {response : Response} {p : Progress call.kind}
      (h : Brought options s found logins sid) (hform : call.form? = some form)
      (hrequest : form.request s sid = .ok r) (hp : Asks call sid r response p) :
      Stand options s call found (⟨r, response⟩ :: logins) p

variable {options : ClientOptions} {s : NodeSettings} {call : NodeCall} {found : Option String}
  {exchanges : List Exchange} {sid : String}

/-- The exchanges that have brought a session change no more. -/
theorem Brought.hear (h : Brought options s found exchanges sid) (e : ClientEvent) :
    exchanges.map (·.hear e) = exchanges := by
  cases h <;> rfl

theorem Brought.heard (h : Brought options s found exchanges sid) (e : ClientEvent) :
    Brought options s found (exchanges.map (·.hear e)) sid := by
  rwa [h.hear]

/-- A call that has got a session has got no other. -/
theorem Brought.hasSession_iff (h : Brought options s found exchanges sid) (sid' : String) :
    (found = some sid' ∨ ∃ x ∈ exchanges, x.LogsIn sid') ↔ sid' = sid := by
  cases h with
  | found => simp [eq_comm]
  | @login r status body _ validity hr hresult =>
    have hsid : r.sid = none := (NodeSettings.isLogin_of_login hr).sid
    simp only [reduceCtorEq, List.mem_singleton, exists_eq_left, false_or,
      Exchange.logsIn_complete_iff options, hsid, true_and, hresult, Except.ok.injEq,
      Prod.mk.injEq, exists_and_left, exists_eq', and_true]
    exact eq_comm

/-- The account of a call that stands somewhere. -/
theorem Stand.account {p : Progress call.kind} (h : Stand options s call found exchanges p) :
    Account options s call found exchanges := by
  cases h with
  | seeks h =>
    cases h with
    | atGate | unable _ => exact .idle
    | loginSent hr | loginAnswered hr _ | failed hr _ =>
      exact .login hr fun sid => Exchange.not_logsIn (by simp)
    | refused hr hresult =>
      refine .login hr fun sid => ?_
      rw [Exchange.logsIn_complete_iff options, hresult]
      simp
  | unwritten h hform hrequest => exact .unwritten h hform hrequest
  | asks h hform hrequest _ => exact .asked h hform hrequest _

/-- Giving up a call leaves its account in order. -/
theorem Account.abandon (h : Account options s call found exchanges) (id : Nat) :
    Account options s call found (exchanges.map (·.hear (.abandon id))) := by
  cases h with
  | idle => exact .idle
  | @login r response hr hnone =>
    refine .login hr fun sid => ?_
    cases response with
    | complete status body => exact hnone sid
    | awaited | failed _ | status _ | lost => exact Exchange.not_logsIn (by simp [Response.hear])
  | unwritten h hform hrequest =>
    rw [h.hear]
    exact .unwritten h hform hrequest
  | asked h hform hrequest response =>
    rw [List.map_cons, h.hear]
    exact .asked h hform hrequest _

/-- An event that a call does not wait for leaves it where it stands. -/
theorem Stand.deaf {p : Progress call.kind} (h : Stand options s call found exchanges p)
    {e : ClientEvent} (hdeaf : ¬ p.Hears e) (he : ∀ id, e ≠ .abandon id) :
    Stand options s call found (exchanges.map (·.hear e)) p := by
  -- A request that is awaited, or that has only a status, may hear nothing else.
  have hawaited : ∀ {q : Progress call.kind}, (q = .loginSent ∨ ∃ sid, q = .sent sid) →
      ¬ q.Hears e → Response.hear .awaited e = .awaited := by
    rintro q (rfl | ⟨sid, rfl⟩) hq
    all_goals
      cases e with
      | status _ _ | failure _ _ => exact absurd trivial hq
      | abandon id => exact absurd rfl (he id)
      | _ => rfl
  have hstatus : ∀ {q : Progress call.kind} {status : UInt16},
      (q = .loginAnswered status ∨ q = .answered status) → ¬ q.Hears e →
      Response.hear (.status status) e = .status status := by
    rintro q status (rfl | rfl) hq
    all_goals
      cases e with
      | body _ _ => exact absurd trivial hq
      | abandon id => exact absurd rfl (he id)
      | _ => rfl
  cases h with
  | seeks h =>
    refine .seeks ?_
    cases h with
    | atGate => exact .atGate
    | unable h => exact .unable h
    | loginSent hr =>
      rw [List.map_singleton, Exchange.hear, hawaited (.inl rfl) hdeaf]
      exact .loginSent hr
    | loginAnswered hr status =>
      rw [List.map_singleton, Exchange.hear, hstatus (.inl rfl) hdeaf]
      exact .loginAnswered hr status
    | failed hr failure => exact .failed hr failure
    | refused hr hresult => exact .refused hr hresult
  | unwritten h hform hrequest =>
    rw [h.hear]
    exact .unwritten h hform hrequest
  | asks h hform hrequest hp =>
    rw [List.map_cons, h.hear]
    refine .asks h hform hrequest ?_
    cases hp with
    | sent =>
      rw [hawaited (.inr ⟨_, rfl⟩) hdeaf]
      exact .sent
    | answered hmore =>
      rw [hstatus (.inr rfl) hdeaf]
      exact .answered hmore
    | failed failure => exact .failed failure
    | done hstatus hexpected hread stamp =>
      exact .done (Response.status?_hear hstatus he) hexpected hread stamp
    | complete hmore body stamp => exact .complete hmore body stamp

/-! ## Where a call stood -/

theorem Stand.of_atGate (h : Stand options s call found exchanges .atGate) :
    found = none ∧ exchanges = [] := by
  cases h with
  | seeks h =>
    cases h
    exact ⟨rfl, rfl⟩
  | asks _ _ _ hp => cases hp

theorem Stand.of_loginSent (h : Stand options s call found exchanges .loginSent) :
    found = none ∧ ∃ r, s.login = .ok r ∧ exchanges = [⟨r, .awaited⟩] := by
  cases h with
  | seeks h =>
    cases h with
    | loginSent hr => exact ⟨rfl, _, hr, rfl⟩
  | asks _ _ _ hp => cases hp

theorem Stand.of_loginAnswered {status : UInt16}
    (h : Stand options s call found exchanges (.loginAnswered status)) :
    found = none ∧ ∃ r, s.login = .ok r ∧ exchanges = [⟨r, .status status⟩] := by
  cases h with
  | seeks h =>
    cases h with
    | loginAnswered hr => exact ⟨rfl, _, hr, rfl⟩
  | asks _ _ _ hp => cases hp

theorem Stand.of_sent (h : Stand options s call found exchanges (.sent sid)) :
    ∃ logins form r, Brought options s found logins sid ∧ call.form? = some form ∧
      form.request s sid = .ok r ∧ exchanges = ⟨r, .awaited⟩ :: logins := by
  cases h with
  | seeks h => cases h
  | asks h hform hrequest hp =>
    cases hp with
    | sent => exact ⟨_, _, _, h, hform, hrequest, rfl⟩

theorem Stand.of_answered {status : UInt16}
    (h : Stand options s call found exchanges (.answered status)) :
    ∃ logins form r sid, Brought options s found logins sid ∧ call.form? = some form ∧
      form.request s sid = .ok r ∧ exchanges = ⟨r, .status status⟩ :: logins ∧
      (NodeClient.isExpected call status = true → call.kind.readsBody = true) := by
  cases h with
  | seeks h => cases h
  | asks h hform hrequest hp =>
    cases hp with
    | answered hmore => exact ⟨_, _, _, _, h, hform, hrequest, rfl, hmore⟩

/-- A login that has brought a session is not awaited any more. -/
theorem Brought.not_awaited (h : Brought options s found exchanges sid) (r : HttpRequest) :
    ⟨r, .awaited⟩ ∉ exchanges := by
  cases h <;> simp

/-- A call whose request is awaited waits for the status. -/
theorem Stand.eq_sent {p : Progress call.kind} {r : HttpRequest}
    (h : Stand options s call found exchanges p) (hr : ⟨r, .awaited⟩ ∈ exchanges)
    (hsid : r.sid = some sid) : p = .sent sid := by
  cases h with
  | seeks h =>
    cases h with
    | loginSent hlogin =>
      obtain ⟨rfl, -⟩ := Exchange.mk.inj (List.mem_singleton.mp hr)
      cases hsid.symm.trans (NodeSettings.isLogin_of_login hlogin).sid
    | atGate | unable _ | loginAnswered _ _ | failed _ _ | refused _ _ => simp at hr
  | unwritten h _ _ => exact absurd hr (h.not_awaited r)
  | asks h _ hrequest hp =>
    obtain ⟨rfl, rfl⟩ := Exchange.mk.inj
      ((List.mem_cons.mp hr).resolve_right (h.not_awaited r))
    cases hp with
    | sent => rw [Option.some.inj ((RequestForm.sid_of_request hrequest).symm.trans hsid)]
    | done hstatus _ _ _ => cases hstatus

/-! ## Moving on -/

namespace NodeClient

variable {c : NodeClient} {t : Moment} {e : ClientEvent} {l : LiveCall}

theorem Checks.not_endsLogin (h : c.Checks e l) {l' : LiveCall}
    {result : Except NodeError (String × Span)} : ¬ c.EndsLogin e l' result := by
  intro hends
  cases hends <;> cases h

/-- What a call has sent and heard after an event that is about it. -/
def sentAndHeard (sent : List HttpRequest) (e : ClientEvent) (exchanges : List Exchange) :
    List Exchange :=
  sent.reverse.map (⟨·, .awaited⟩) ++ exchanges.map (·.hear e)

/-- A call that has looked for a session in vain goes on without one. -/
theorem stand_of_quiet {sent : List HttpRequest} {p : Progress l.call.kind}
    (hquiet : ∀ sid, ¬ c.Finds t e l sid)
    (h : Stand options s l.call found (sentAndHeard sent e exchanges) p) :
    ∃ found', (∀ sid, found' = some sid ↔ found = some sid ∨ c.Finds t e l sid) ∧
      Stand options s l.call found' (sentAndHeard sent e exchanges) p :=
  ⟨found, fun sid => by simp [hquiet sid], h⟩

/-- A call that looks into the cache and finds nothing seeks a session, by what it sends. -/
theorem stand_of_none {sent : List HttpRequest} {p : Progress l.call.kind}
    (h : Stand options l.snapshot.settings l.call found exchanges l.progress)
    (hchecks : c.Checks e l) (hnone : c.session.lookup l.snapshot.generation t.now = none)
    (hseeks : Seeks options l.snapshot.settings (sent.reverse.map (⟨·, .awaited⟩)) p) :
    ∃ found', (∀ sid, found' = some sid ↔ found = some sid ∨ c.Finds t e l sid) ∧
      Stand options l.snapshot.settings l.call found' (sentAndHeard sent e exchanges) p := by
  rw [hchecks.progress] at h
  obtain ⟨rfl, rfl⟩ := h.of_atGate
  refine stand_of_quiet (fun sid hfinds => by cases hnone.symm.trans hfinds.usable) (.seeks ?_)
  rwa [sentAndHeard, List.map_nil, List.append_nil]

/-- A call that comes to have a session has come to it in one of two ways. -/
theorem Obtains.brought (h : c.Obtains t e l sid) (hoptions : c.options = options)
    (hstand : Stand options l.snapshot.settings l.call found exchanges l.progress) :
    ∃ found', (∀ sid, found' = some sid ↔ found = some sid ∨ c.Finds t e l sid) ∧
      Brought options l.snapshot.settings found' (exchanges.map (·.hear e)) sid := by
  cases h with
  | found h =>
    rw [h.checks.progress] at hstand
    obtain ⟨rfl, rfl⟩ := hstand.of_atGate
    refine ⟨some sid, fun sid' => ?_, .found sid⟩
    simp only [reduceCtorEq, false_or, Option.some.injEq]
    refine ⟨fun heq => heq ▸ h, fun h' => ?_⟩
    exact Option.some.inj (h.usable.symm.trans h'.usable)
  | login h =>
    refine ⟨found, fun sid' => ?_, ?_⟩
    · exact (or_iff_left fun hfinds : c.Finds t e l sid' =>
        hfinds.checks.not_endsLogin h).symm
    · generalize hlogin : Except.ok (sid, _) = result at h
      cases h with
      | failure => cases hlogin
      | @body id l status hcall hread body =>
        rw [hread] at hstand
        obtain ⟨rfl, r, hr, rfl⟩ := hstand.of_loginAnswered
        exact .login hr (hoptions ▸ hlogin.symm)

end NodeClient

open NodeClient

/-- A call that an event moves stands where its exchanges say. -/
theorem Stand.advance {c : NodeClient} {t : Moment} {e : ClientEvent} {l : LiveCall}
    {p : Progress l.call.kind} {sent : List HttpRequest}
    (h : Stand options l.snapshot.settings l.call found exchanges l.progress)
    (hoptions : c.options = options) (hadvance : c.Advance t e l p sent) :
    ∃ found', (∀ sid, found' = some sid ↔ found = some sid ∨ c.Finds t e l sid) ∧
      Stand options l.snapshot.settings l.call found' (sentAndHeard sent e exchanges) p := by
  cases hadvance with
  | refused hform hfault =>
    obtain ⟨rfl, rfl⟩ := h.of_atGate
    refine stand_of_quiet (fun sid hfinds => ?_)
      (.seeks (.unable (NodeSettings.login_of_fault hfault)))
    cases hfinds.checks with
    | start hform' hurl =>
      obtain rfl := Option.some.inj (hform.symm.trans hform')
      cases hfault.symm.trans hurl
  | waits hchecks hnone => exact stand_of_none h hchecks hnone .atGate
  | logsIn hchecks hnone hlogin => exact stand_of_none h hchecks hnone (.loginSent hlogin)
  | unable hchecks hnone hlogin => exact stand_of_none h hchecks hnone (.unable hlogin)
  | asks hobtains hform hrequest =>
    obtain ⟨found', hfound, hbrought⟩ := hobtains.brought hoptions h
    exact ⟨found', hfound, .asks hbrought hform hrequest .sent⟩
  | unwritten hobtains hform hrequest =>
    obtain ⟨found', hfound, hbrought⟩ := hobtains.brought hoptions h
    exact ⟨found', hfound, .unwritten hbrought hform hrequest⟩
  | @loginAnswered l status hcall hsent =>
    rw [hsent] at h
    obtain ⟨rfl, r, hr, rfl⟩ := h.of_loginSent
    exact stand_of_quiet (fun sid hfinds => by cases hfinds.checks)
      (.seeks (.loginAnswered hr status))
  | loginEnded hends =>
    refine stand_of_quiet (fun sid hfinds => hfinds.checks.not_endsLogin hends) ?_
    generalize hresult : Except.error _ = result at hends
    cases hends with
    | body hcall hread body =>
      rw [hread] at h
      obtain ⟨rfl, r, hr, rfl⟩ := h.of_loginAnswered
      exact .seeks (.refused hr (hoptions ▸ hresult.symm))
    | failure hcall hsent failure =>
      rw [hsent] at h
      obtain ⟨rfl, r, hr, rfl⟩ := h.of_loginSent
      obtain rfl := Except.error.inj hresult
      exact .seeks (.failed hr failure)
  | @answered l sid status hcall hsent hmore =>
    rw [hsent] at h
    obtain ⟨logins, form, r, hbrought, hform, hrequest, rfl⟩ := h.of_sent
    refine stand_of_quiet (fun sid hfinds => by cases hfinds.checks) ?_
    exact .asks (hbrought.heard _) hform hrequest (.answered hmore)
  | @done l sid status hcall hsent hexpected hread =>
    rw [hsent] at h
    obtain ⟨logins, form, r, hbrought, hform, hrequest, rfl⟩ := h.of_sent
    refine stand_of_quiet (fun sid hfinds => by cases hfinds.checks) ?_
    exact .asks (hbrought.heard _) hform hrequest
      (.done rfl hexpected hread t.stamp)
  | @failed l sid hcall hsent failure =>
    rw [hsent] at h
    obtain ⟨logins, form, r, hbrought, hform, hrequest, rfl⟩ := h.of_sent
    refine stand_of_quiet (fun sid hfinds => by cases hfinds.checks) ?_
    exact .asks (hbrought.heard _) hform hrequest (.failed failure)
  | @concluded l status hcall hread body =>
    rw [hread] at h
    obtain ⟨logins, form, r, sid, hbrought, hform, hrequest, rfl, hmore⟩ := h.of_answered
    refine stand_of_quiet (fun sid hfinds => by cases hfinds.checks) ?_
    exact .asks (hbrought.heard _) hform hrequest
      (.complete hmore body t.stamp)

end FilterFleet
