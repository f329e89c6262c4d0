import FilterFleet.Proofs.Client.Records
import FilterFleet.Proofs.Client.SingleFlight
import FilterFleet.Proofs.Events.Needs

/-!
# Sessions are not used past their time

A session is trusted as long as the node says, but no longer than the options allow and no longer
than a week (`trustedFor`). A cached session ends when it is not trusted any more, counted from the
login that has brought it (`Dated`), whoever has stored it and whatever it has replaced. So a call
goes on with the session of another one only while more than five seconds are left
(`LoggedClient.sessions_within_life`).
-/

namespace FilterFleet

open ClientLog NodeClient

/-- How long the session of a login is trusted. -/
def trustedFor (options : ClientOptions) (answer : AuthAnswer) : Span :=
  min (Span.ofSecs (max answer.session.validity.toInt 0).toNat)
    (min options.sessionTtl (Span.ofSecs (7 * 24 * 60 * 60)))

/-- At an entry a login that was sent under a generation comes back with the session of an
answer. -/
structure ClientLog.Returns (first : NodeSettings) (x : LogEntry) (before : ClientLog)
    (generation : Nat) (sid : String) (answer : AuthAnswer) : Prop where
  returned : ∃ id body, x.event = .body id body ∧ LoginAnswered first id generation 200 before ∧
    decodeBody "login response" AuthAnswer.ofJson? body = .ok answer
  sid : answer.session.sid = some sid
  valid : answer.session.valid = true

/-! ## What time computations rely on -/

/-- What storing the session of a login relies on: the seconds that are left are a number and a
span, and the session ends at a time that the clock can show. -/
def loginNeeds (options : ClientOptions) (status : UInt16)
    (body : AnswerBody) : List Need :=
  match loginResult options status body, decodeBody "login response" AuthAnswer.ofJson? body with
  | .ok (_, validity), .ok answer =>
    [.count answer.session.secondsLeft, .span (Span.ofSecs answer.session.secondsLeft),
      .ahead (min validity CachedSession.maxValidity)]
  | _, _ => []

/-- What an event relies on in a client: a call that looks into the cache asks for the time after
the leeway. -/
def NodeClient.needs (c : NodeClient) : ClientEvent → List Need
  | .start _ _ => [.ahead CachedSession.leeway]
  | .proceed _ => [.ahead CachedSession.leeway]
  | .body id body =>
    match c.call? id with
    | some l =>
      match l.progress with
      | .loginAnswered status => loginNeeds c.options status body
      | _ => []
    | none => []
  | _ => []

theorem SessionInfo.secondsLeft_lt (s : SessionInfo) : s.secondsLeft < UInt64.size := by
  have hle : s.validity.toInt ≤ Int64.maxValue.toInt := Int64.toInt_le s.validity
  have hmax : Int64.maxValue.toInt < UInt64.size := by decide
  have hpos : 0 < UInt64.size := by decide
  unfold secondsLeft
  omega

theorem met_loginNeeds {longest : Span} (hlong : CachedSession.maxValidity ≤ longest)
    (options : ClientOptions) (status : UInt16) (body : AnswerBody) :
    ∀ need ∈ loginNeeds options status body, need.Met longest := by
  unfold loginNeeds
  split
  · next validity answer _ _ =>
    have hleft := answer.session.secondsLeft_lt
    have hspan : Span.ofSecs answer.session.secondsLeft < Span.ofSecs UInt64.size :=
      Nat.mul_lt_mul_of_pos_right hleft (by decide)
    have hahead : min validity CachedSession.maxValidity ≤ longest :=
      Nat.le_trans (Nat.min_le_right _ _) hlong
    simp only [List.mem_cons, List.not_mem_nil, or_false]
    rintro need (rfl | rfl | rfl)
    · exact hleft
    · exact hspan
    · exact hahead
  · simp

theorem NodeClient.met_needs {longest : Span} (hlong : CachedSession.maxValidity ≤ longest)
    (c : NodeClient) (e : ClientEvent) : ∀ need ∈ c.needs e, need.Met longest := by
  have hleeway : CachedSession.leeway ≤ longest := Nat.le_trans (by decide) hlong
  cases e with
  | start _ _ | proceed _ => simpa [NodeClient.needs, Need.Met] using hleeway
  | body id body =>
    rw [NodeClient.needs]
    split
    · split
      · exact met_loginNeeds hlong _ _ _
      · simp
    · simp
  | status _ _ | failure _ _ | abandon _ | configure _ => simp [NodeClient.needs]

/-! ## When sessions end -/

/-- How long a session is stored for. -/
theorem min_validity_of_loginResult {options : ClientOptions} {status : UInt16}
    {body : AnswerBody} {sid : String} {validity : Span} {answer : AuthAnswer}
    (h : loginResult options status body = .ok (sid, validity))
    (hanswer : decodeBody "login response" AuthAnswer.ofJson? body = .ok answer) :
    min validity CachedSession.maxValidity = trustedFor options answer := by
  obtain ⟨rfl, answer', hanswer', hsid, hvalid⟩ := loginResult_eq_ok h
  obtain rfl := Except.ok.inj (hanswer.symm.trans hanswer')
  have hleft : answer.session.secondsLeft = (max answer.session.validity.toInt 0).toNat := by
    unfold SessionInfo.secondsLeft
    omega
  simp only [loginResult, beq_self_eq_true, if_true, hanswer, Except.bind, acceptLogin, hsid,
    hvalid, Bool.true_and] at h
  split at h
  · obtain ⟨-, rfl⟩ := Prod.mk.inj (Except.ok.inj h)
    rw [trustedFor, ← hleft, Nat.min_assoc]
    rfl
  · cases h

namespace LoggedClient

variable {settings : NodeSettings} {first : NodeClient} {s : LoggedClient} {t : Moment}
  {e : ClientEvent} {l : LiveCall} {sid : String}

/-- A login under a generation has come back with a session that is trusted until some time. -/
def Issued (settings : NodeSettings) (options : ClientOptions) (log : ClientLog)
    (generation : Nat) (sid : String) (ends : Instant) : Prop :=
  ∃ newer x before answer, log = newer ++ x :: before ∧
    Returns settings x before generation sid answer ∧
    ends = x.moment.now + trustedFor options answer

/-- The cached session ends when it is not trusted any more. -/
def Dated (settings : NodeSettings) (options : ClientOptions) (s : LoggedClient) : Prop :=
  ∀ cached, s.client.session = some cached →
    Issued settings options s.log cached.generation cached.sid cached.validUntil

theorem Issued.cons {options : ClientOptions} {log : ClientLog} {generation : Nat}
    {ends : Instant} (h : Issued settings options log generation sid ends) (x : LogEntry) :
    Issued settings options (x :: log) generation sid ends := by
  obtain ⟨newer, y, before, answer, rfl, hreturns, hends⟩ := h
  exact ⟨x :: newer, y, before, answer, rfl, hreturns, hends⟩

/-- The login of a call comes back with a session. -/
theorem Recorded.issued (h : s.Recorded settings first) {validity : Span}
    (hends : s.client.EndsLogin e l (.ok (sid, validity))) :
    Issued settings first.options (s.step t e).log l.snapshot.generation sid
      (t.now + min validity CachedSession.maxValidity) := by
  generalize hresult : Except.ok (sid, validity) = result at hends
  cases hends with
  | failure => cases hresult
  | @body id l status hcall hread body =>
    obtain ⟨rfl, answer, hanswer, hsid, hvalid⟩ := loginResult_eq_ok hresult.symm
    have hlogin := (h.consistent.calls id l hcall).loginAnswered 200 hread
    refine ⟨[], ⟨t, .body id body, _⟩, s.log, answer, rfl, ⟨⟨id, body, rfl, hlogin, hanswer⟩,
      hsid, hvalid⟩, ?_⟩
    rw [min_validity_of_loginResult hresult.symm hanswer, h.options]

theorem Dated.step (hdated : s.Dated settings first.options) (h : s.Recorded settings first)
    (t : Moment) (e : ClientEvent) : (s.step t e).Dated settings first.options := by
  intro cached hcached
  obtain hsame | hnone | ⟨sid, hinvalidated⟩ | ⟨l, sid, validity, hends, hstored⟩ :=
    session_cases h.formed t e
  · exact (hdated cached (hsame.symm.trans hcached)).cons _
  · cases hnone.symm.trans hcached
  · have hkept := (Option.filter_eq_some_iff.mp (hinvalidated.symm.trans hcached)).1
    exact (hdated cached hkept).cons _
  · rcases store_cases s.client.session sid validity l.snapshot.generation t.now with
      hnew | ⟨hkept, -⟩
    · obtain rfl := Option.some.inj (hnew.symm.trans (hstored.symm.trans hcached))
      exact h.issued hends
    · exact (hdated cached (hkept.symm.trans (hstored.symm.trans hcached))).cons _

/-- What a whole run keeps. -/
theorem dated_run {options : ClientOptions} {c : NodeClient}
    (hnew : NodeClient.new? settings options = .ok c) (events : List (Moment × ClientEvent)) :
    ((⟨c, []⟩ : LoggedClient).run events).Dated settings options := by
  have hrecorded : Recorded settings c ⟨c, []⟩ := recorded_run hnew []
  unfold NodeClient.new? at hnew
  split at hnew
  · obtain rfl := Except.ok.inj hnew
    refine hrecorded.run_induction (fun cached hcached => ?_)
      (fun s h hdated t e => Dated.step hdated h t e) events
    cases hcached
  · cases hnew

/-! ## Sessions that calls go on with -/

/-- A request that carries a session is a logout's, or it is sent by a call that comes to have the
session then. -/
theorem obtains_of_sent {c : NodeClient} (hform : c.Formed) {r : HttpRequest}
    (hr : r ∈ (c.step t e).2) (hsid : r.sid = some sid) :
    (∃ id, e = .start id ⟨.logout, ()⟩) ∨ ∃ l, c.Obtains t e l sid := by
  -- What a call sends with a session carries this session.
  have hsame : ∀ {c₁ : NodeClient} {l : LiveCall} {sid' : String}, l.call.form?.isSome →
      r ∈ (c₁.sendRequest l sid').2 → sid' = sid := by
    intro c₁ l sid' hcall hmem
    obtain ⟨-, -, -, hsent⟩ := c₁.sendRequest_eq l sid' hcall
    exact Option.some.inj ((hsent r hmem).sid.symm.trans hsid)
  cases c.step_cases t e with
  | idle hstep | refused _ hstep | loginAnswered _ _ hstep | answered _ _ hstep
  | finished _ _ hstep =>
    rw [hstep] at hr
    cases hr
  | logout id hstep => exact .inl ⟨id, rfl⟩
  | @checks e l hchecks =>
    refine .inr ⟨l, ?_⟩
    cases hlookup : c.session.lookup l.snapshot.generation t.now with
    | some sid' =>
      have hobtains : c.Obtains t e l sid' := .found ⟨hchecks, hlookup⟩
      obtain ⟨c₁, hstep⟩ := hobtains.step
      rw [hstep] at hr
      exact hsame (hchecks.form hform) hr ▸ hobtains
    | none =>
      obtain ⟨c₁, -, hstep | hstep⟩ := hchecks.step_of_none hlookup
      · rw [hstep] at hr
        cases hr
      · rw [hstep] at hr
        rcases c₁.sendLogin_eq l with ⟨r', hsend, hlogin⟩ | ⟨error, hsend⟩
        · rw [hsend] at hr
          obtain rfl := List.mem_singleton.mp hr
          cases hsid.symm.trans hlogin.sid
        · rw [hsend] at hr
          cases hr
  | @endsLogin e l result hends =>
    rw [step_of_endsLogin hends] at hr
    cases result with
    | error error =>
      rw [endLogin_error] at hr
      cases hr
    | ok login =>
      obtain ⟨sid', validity⟩ := login
      rw [endLogin_ok] at hr
      exact .inr ⟨l, .login (hsame (hends.form hform) hr ▸ hends)⟩
  | abandon id => cases hr
  | configure settings => cases hr

/-- **Sessions are never used past the time they are trusted for.**  In every run of a client,
whatever the logins answer and however time passes: a session that a call comes to have was brought
by the login of this very call, or by an earlier login under the generation of the call, which came
back at a time from which the session is trusted for more than five seconds beyond the present.
Every request that carries a session, a logout apart, is sent by a call that comes to have it then.
No computation of these times goes beyond what there is, where the clock goes on for a week. -/
theorem sessions_within_life {options : ClientOptions} {c : NodeClient}
    (hnew : NodeClient.new? settings options = .ok c) {longest : Span}
    (hlong : Span.ofSecs (7 * 24 * 60 * 60) ≤ longest) (events : List (Moment × ClientEvent))
    (t : Moment) (e : ClientEvent) :
    let s := (⟨c, []⟩ : LoggedClient).run events
    (∀ l sid, s.client.Obtains t e l sid →
      (∃ validity, s.client.EndsLogin e l (.ok (sid, validity))) ∨
        ∃ newer x before answer, s.log = newer ++ x :: before ∧
          Returns settings x before l.snapshot.generation sid answer ∧
          t.now + Span.ofSecs 5 < x.moment.now + trustedFor options answer) ∧
      (∀ r ∈ (s.client.step t e).2, ∀ sid, r.sid = some sid →
        (∃ id, e = .start id ⟨.logout, ()⟩) ∨ ∃ l, s.client.Obtains t e l sid) ∧
      ∀ need ∈ s.client.needs e, need.Met longest := by
  intro s
  have h : s.Recorded settings c := recorded_run hnew events
  have hdated : s.Dated settings options := dated_run hnew events
  refine ⟨fun l sid hobtains => ?_, fun r hr sid hsid => obtains_of_sent h.formed hr hsid,
    s.client.met_needs hlong e⟩
  cases hobtains with
  | login hends => exact .inl ⟨_, hends⟩
  | found hfinds =>
    obtain ⟨cached, hcached, rfl, hgeneration, hlives⟩ :=
      (lookup_eq_some_iff _ _ _ _).mp hfinds.usable
    obtain ⟨newer, x, before, answer, hlog, hreturns, hends⟩ := hdated cached hcached
    exact .inr ⟨newer, x, before, answer, hlog, hgeneration ▸ hreturns, hends ▸ hlives⟩

/-! ## A session without an end -/

/-- A login brings a session that the node gives no end. -/
def longSession : List (Moment × ClientEvent) :=
  [(⟨0, ⟨0⟩⟩, .start 0 ⟨.blockingStatus, ()⟩), (⟨1, ⟨1⟩⟩, .status 0 200),
    (⟨2, ⟨2⟩⟩, .body 0 (loginAnswer "x" 9223372036854775807))]

/-- It is used up to half an hour later, as the options have it, but for the last five seconds. -/
theorem sessions_within_life_of_longSession :
    let settings : NodeSettings := .basic ⟨1⟩ "a" "a.lan" "one"
    let c : NodeClient := ⟨.standard, ⟨0, settings⟩, none, [], []⟩
    let s := (⟨c, []⟩ : LoggedClient).run longSession
    NodeClient.new? settings .standard = .ok c ∧
      ∃ l, s.client.Obtains ⟨1 + Span.ofSecs 1795, ⟨3⟩⟩ (.start 1 ⟨.authStatus, ()⟩) l "x" ∧
        ∃ newer x before answer, s.log = newer ++ x :: before ∧
          Returns settings x before 0 "x" answer ∧
          1 + Span.ofSecs 1795 + Span.ofSecs 5 < x.moment.now + trustedFor .standard answer := by
  intro settings c s
  have hnew : NodeClient.new? settings .standard = .ok c := if_pos (by decide +kernel)
  have hcurrent : s.client.current = ⟨0, settings⟩ :=
    (recorded_run hnew longSession).consistent.current.trans rfl
  have husable : s.client.session.lookup 0 (1 + Span.ofSecs 1795) = some "x" := by decide +kernel
  have haddress : (settings.endpoint ["auth"]).toOption.isSome = true := by decide +kernel
  obtain ⟨url, hurl⟩ : ∃ url, settings.endpoint ["auth"] = .ok url := by
    cases hurl : settings.endpoint ["auth"] with
    | ok url => exact ⟨url, rfl⟩
    | error fault =>
      rw [hurl] at haddress
      cases haddress
  have hchecks : s.client.Checks (.start 1 ⟨.authStatus, ()⟩)
      ⟨1, ⟨.authStatus, ()⟩, ⟨0, settings⟩, .atGate⟩ := by
    have hcurrentUrl : s.client.current.settings.endpoint ["auth"] = .ok url := by
      rw [hcurrent]
      exact hurl
    rw [← hcurrent]
    exact .start rfl hcurrentUrl
  have hobtains : s.client.Obtains ⟨1 + Span.ofSecs 1795, ⟨3⟩⟩ (.start 1 ⟨.authStatus, ()⟩)
      ⟨1, ⟨.authStatus, ()⟩, ⟨0, settings⟩, .atGate⟩ "x" := .found ⟨hchecks, husable⟩
  refine ⟨hnew, _, hobtains, ?_⟩
  obtain ⟨hobtained, -, -⟩ := sessions_within_life hnew (Nat.le_refl _) longSession
    ⟨1 + Span.ofSecs 1795, ⟨3⟩⟩ (.start 1 ⟨.authStatus, ()⟩)
  rcases hobtained _ "x" hobtains with ⟨validity, hends⟩ | h
  · exact absurd hends hchecks.not_endsLogin
  · exact h

end LoggedClient

end FilterFleet
