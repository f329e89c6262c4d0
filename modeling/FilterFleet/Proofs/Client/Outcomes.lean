import FilterFleet.Proofs.Client.Failures
import FilterFleet.Proofs.Client.Records
import FilterFleet.Proofs.Cluster.Passage
import FilterFleet.Proofs.Results

/-!
# What calls come to

A call that is no logout succeeds just when it has got a session and its request was answered with
the status that it expects and, if the answer has a body that is read, with a body that can be read.
Any failure is classified consistently, it tells a status just when the call was handed one that was
not expected, and it repeats little of an answer (`FinishedCall.Exact`). An answer that redirects is
not handed to the call; where redirects lead to no answer, the failure tells no status
(`FinishedCall.fails_of_endlessRedirects`). The failures that a call to all nodes brings are those of
the calls to the nodes and two of its own, which tell no status (`outcomes_classified`).
-/

namespace FilterFleet

open Address ClientLog WireLog NodeClient

/-! ## Answers that are read -/

/-- Whether the reply of a kind can be read from a value. -/
def CallKind.accepts : CallKind → Json → Bool
  | .fetchQueries, v => (QueryPage.ofJson? v).isSome
  | .listRules, v => (RuleListing.ofJson? v).isSome
  | .addRules, v => (AdditionAnswer.ofJson? v).isSome
  | .authStatus, v => (AuthAnswer.ofJson? v).isSome
  | .blockingStatus, v => (BlockingReport.ofJson? v).isSome
  | .setBlocking, v => (BlockingReport.ofJson? v).isSome
  | .removeRule, _ => true
  | .logout, _ => true

/-- A body has come completely, it is a value in JSON, and the reply of a kind can be read from
it. -/
def CallKind.Decodes (kind : CallKind) (body : AnswerBody) : Prop :=
  ∃ content v, body = .ok content ∧ Json.ofBytes? content.bytes = some v ∧
    kind.accepts v = true

theorem decodeBody_isOk_iff {α : Type} (context : String) (decode : Json → Option α)
    (body : AnswerBody) :
    (∃ a, decodeBody context decode body = .ok a) ↔ ∃ content v, body = .ok content ∧
      Json.ofBytes? content.bytes = some v ∧ (decode v).isSome := by
  cases body with
  | error failure => simp [decodeBody]
  | ok content =>
    simp only [decodeBody, Except.ok.injEq, exists_and_left, exists_eq_left']
    cases Json.ofBytes? content.bytes with
    | none => simp
    | some v => cases hdecode : decode v <;> simp [hdecode]

/-- A reply is read just from the bodies that stand for one. -/
theorem readReply_isOk_iff {kind : CallKind} (hread : kind.readsBody = true) (stamp : Timestamp)
    (body : AnswerBody) :
    (∃ reply, readReply stamp body kind = .ok reply) ↔ kind.Decodes body := by
  cases kind with
  | fetchQueries | listRules | addRules => exact decodeBody_isOk_iff _ _ _
  | authStatus | blockingStatus | setBlocking =>
    exact (exists_map_eq_ok_iff _ _).trans (decodeBody_isOk_iff _ _ _)
  | removeRule | logout => cases hread

theorem readReply_of_not_readsBody {kind : CallKind} (hread : kind.readsBody = false)
    (stamp : Timestamp) (body : AnswerBody) :
    ∃ reply, readReply stamp body kind = .ok reply := by
  cases kind with
  | removeRule | logout => exact ⟨(), rfl⟩
  | _ => cases hread

/-! ## Finished calls -/

/-- The status that an exchange of a call should come back with: 200 for a login, and that of the
call for its own request. -/
def Exchange.expected? (x : Exchange) (call : NodeCall) : Option UInt16 :=
  if x.request.sid.isNone then some 200 else call.form?.map (·.expected)

/-- An exchange of a call has come back with a status that was not expected. -/
def Exchange.Unexpected (x : Exchange) (call : NodeCall) (status : UInt16)
    (body : AnswerBody) : Prop :=
  x.response = .complete status body ∧ x.expected? call ≠ some status

/-- The request of a call was answered well: with the expected status, and with a body that can be
read if it is read. -/
def Exchange.AnswersWell (x : Exchange) (call : NodeCall) : Prop :=
  x.request.sid.isSome ∧ ∃ status, x.response.status? = some status ∧
    x.expected? call = some status ∧ (call.kind.readsBody = true → ∃ body,
      x.response = .complete status body ∧ call.kind.Decodes body)

/-- A call of a client that is over, in some run of the client on the wire. -/
structure FinishedCall (kind : CallKind) where
  settings : NodeSettings
  options : ClientOptions
  client : NodeClient
  new : NodeClient.new? settings options = .ok client
  events : List (Moment × WireEvent)
  id : Nat
  request : kind.Request
  snapshot : Snapshot
  outcome : Outcome kind
  finished : ((LoggedWire.fresh client).run events).wire.client.call? id =
    some ⟨id, ⟨kind, request⟩, snapshot, .finished outcome⟩

namespace FinishedCall

variable {kind : CallKind}

/-- Everything that has happened on the wire. -/
def wireLog (x : FinishedCall kind) : WireLog := ((LoggedWire.fresh x.client).run x.events).log

/-- Everything that the client was told. -/
def log (x : FinishedCall kind) : ClientLog := told x.wireLog

/-- The exchanges of the call. -/
def exchanges (x : FinishedCall kind) : List Exchange := x.log.exchanges x.id

/-- The call was handed a status that was not expected, for its request or its login. -/
def Unexpected (x : FinishedCall kind) (status : UInt16) : Prop :=
  ∃ y ∈ x.exchanges, ∃ body, y.Unexpected ⟨kind, x.request⟩ status body

/-- The outcome of a call says what has happened to it. -/
structure Exact (x : FinishedCall kind) : Prop where
  ok_iff : (∃ reply, x.outcome = .ok reply) ↔ (∃ sid, HasSession x.client x.log x.id sid) ∧
    ∃ y ∈ x.exchanges, y.AnswersWell ⟨kind, x.request⟩
  classified : ∀ e, x.outcome = .error e → e.Classified
  status_iff : ∀ e, x.outcome = .error e → ∀ s, e.httpStatus = some s ↔ x.Unexpected s
  tells : ∀ e, x.outcome = .error e → ∀ y ∈ x.exchanges, ∀ s body,
    y.Unexpected ⟨kind, x.request⟩ s body → e.Tells s (answerText body)
  /-- A request without an answer fails the call: the network has failed it, or redirects. -/
  failed : ∀ y ∈ x.exchanges, ∀ f, y.response = .failed f → x.outcome = .error f.error
  /-- The statuses of the exchanges are those of answers that were handed to the call. -/
  answered : ∀ y ∈ x.exchanges, ∀ s, y.response.status? = some s → ∃ z ∈ x.wireLog, ∃ location,
    z.event = .answer x.id s location ∧ z.handling = .tell (.status x.id s)

end FinishedCall

/-! ## Where a finished call stands -/

section Stand

variable {options : ClientOptions} {s : NodeSettings} {call : NodeCall} {found : Option String}
  {xs : List Exchange} {sid : String} {outcome : Outcome call.kind}

/-- What the exchanges of a finished call say about its outcome. -/
structure Told (call : NodeCall) (found : Option String) (xs : List Exchange)
    (outcome : Outcome call.kind) : Prop where
  ok_iff : (∃ reply, outcome = .ok reply) ↔
    (∃ sid, found = some sid ∨ ∃ y ∈ xs, y.LogsIn sid) ∧ ∃ y ∈ xs, y.AnswersWell call
  error : ∀ e, outcome = .error e →
    (e.Bare ∧ ∀ y ∈ xs, ∀ s body, ¬ y.Unexpected call s body) ∨
      ∃ y ∈ xs, ∃ s body, y.Unexpected call s body ∧ e = statusError s body ∧
        ∀ y' ∈ xs, ∀ s' body', y'.Unexpected call s' body' → s' = s ∧ body' = body
  failed : ∀ y ∈ xs, ∀ f, y.response = .failed f → outcome = .error f.error

/-- An exchange was not what its call comes to: it is no good answer to the request of the call, it
has come back with no status that was not expected, and it has not failed. -/
structure Exchange.Quiet (x : Exchange) (call : NodeCall) : Prop where
  answers : ¬ x.AnswersWell call
  expected : ∀ s body, ¬ x.Unexpected call s body
  arrived : ∀ f, x.response ≠ .failed f

theorem Exchange.not_unexpected {x : Exchange} {status : UInt16}
    {body : AnswerBody} (h : ∀ s b, x.response ≠ .complete s b) :
    ¬ x.Unexpected call status body := fun hx => h _ _ hx.1

theorem Exchange.Unexpected.not_answersWell {x : Exchange} {status : UInt16}
    {body : AnswerBody} (h : x.Unexpected call status body) :
    ¬ x.AnswersWell call := by
  obtain ⟨hcomplete, hne⟩ := h
  rintro ⟨-, status', hstatus, hexpected, -⟩
  rw [hcomplete] at hstatus
  obtain rfl : status = status' := Option.some.inj hstatus
  exact hne hexpected

/-- The exchanges of a call that is over without an answer to its request worth reading. -/
theorem told_of_bare {e : NodeError} (he : e.Bare) (hxs : ∀ y ∈ xs, y.Quiet call) :
    Told call found xs (.error e) := by
  refine ⟨⟨?_, ?_⟩, ?_, fun y hy f hf => absurd hf ((hxs y hy).arrived f)⟩
  · rintro ⟨reply, hreply⟩
    cases hreply
  · rintro ⟨-, y, hy, hwell⟩
    exact absurd hwell (hxs y hy).answers
  · rintro _ ⟨⟩
    exact .inl ⟨he, fun y hy => (hxs y hy).expected⟩

/-- The exchanges of a call whose last one has failed. -/
theorem told_of_failed {r : HttpRequest} (failure : SendFailure) (hxs : ∀ y ∈ xs, y.Quiet call) :
    Told call found (⟨r, .failed failure⟩ :: xs) (.error failure.error) := by
  have hlast : ¬ (⟨r, .failed failure⟩ : Exchange).AnswersWell call := by
    rintro ⟨-, status, hstatus, -⟩
    cases hstatus
  refine ⟨⟨?_, ?_⟩, ?_, fun y hy f hf => ?_⟩
  · rintro ⟨reply, hreply⟩
    cases hreply
  · rintro ⟨-, y, hy, hwell⟩
    rcases List.mem_cons.mp hy with rfl | hy
    · exact absurd hwell hlast
    · exact absurd hwell (hxs y hy).answers
  · rintro _ ⟨⟩
    refine .inl ⟨failure.bare_error, fun y hy => ?_⟩
    rcases List.mem_cons.mp hy with rfl | hy
    · exact fun s body => Exchange.not_unexpected (by simp)
    · exact (hxs y hy).expected
  · rcases List.mem_cons.mp hy with rfl | hy
    · obtain rfl := Response.failed.inj hf
      rfl
    · exact absurd hf ((hxs y hy).arrived f)

/-- The exchanges of a call whose last one has come back with a status that was not expected. -/
theorem told_of_status {x : Exchange} {status : UInt16} {body : AnswerBody}
    (hx : x.Unexpected call status body) (hxs : ∀ y ∈ xs, y.Quiet call) :
    Told call found (x :: xs) (.error (statusError status body)) := by
  refine ⟨⟨?_, ?_⟩, ?_, fun y hy f hf => ?_⟩
  · rintro ⟨reply, hreply⟩
    cases hreply
  · rintro ⟨-, y, hy, hwell⟩
    rcases List.mem_cons.mp hy with rfl | hy
    · exact absurd hwell hx.not_answersWell
    · exact absurd hwell (hxs y hy).answers
  · rintro _ ⟨⟩
    refine .inr ⟨x, List.mem_cons_self, status, body, hx, rfl, fun y hy s' body' hy' => ?_⟩
    rcases List.mem_cons.mp hy with rfl | hy
    · obtain ⟨rfl, rfl⟩ := Response.complete.inj (hx.1.symm.trans hy'.1)
      exact ⟨rfl, rfl⟩
    · exact absurd hy' ((hxs y hy).expected s' body')
  · rcases List.mem_cons.mp hy with rfl | hy
    · cases hx.1.symm.trans hf
    · exact absurd hf ((hxs y hy).arrived f)

theorem Exchange.expected?_login {r : HttpRequest} (hr : s.login = .ok r) (response : Response)
    (call : NodeCall) : (⟨r, response⟩ : Exchange).expected? call = some 200 := by
  rw [Exchange.expected?, (NodeSettings.isLogin_of_login hr).sid]
  rfl

theorem Exchange.expected?_own {form : RequestForm} {r : HttpRequest}
    (hform : call.form? = some form) (hr : form.request s sid = .ok r) (response : Response) :
    (⟨r, response⟩ : Exchange).expected? call = some form.expected := by
  rw [Exchange.expected?, RequestForm.sid_of_request hr, hform]
  rfl

/-- A login answers no request of the call. -/
theorem Exchange.not_answersWell_login {r : HttpRequest} (hr : s.login = .ok r)
    (response : Response) : ¬ (⟨r, response⟩ : Exchange).AnswersWell call := by
  rintro ⟨hsid, -⟩
  rw [(NodeSettings.isLogin_of_login hr).sid] at hsid
  cases hsid

/-- A login that was answered with the status 200 is not what its call comes to by its status. -/
theorem Exchange.quiet_login {r : HttpRequest} (hr : s.login = .ok r) (body : AnswerBody)
    (call : NodeCall) : (⟨r, .complete 200 body⟩ : Exchange).Quiet call := by
  refine ⟨Exchange.not_answersWell_login hr _, fun s' body' => ?_, by simp⟩
  rintro ⟨hcomplete, hne⟩
  obtain ⟨rfl, -⟩ := Response.complete.inj hcomplete
  exact hne (Exchange.expected?_login hr _ call)

/-- A login that has brought a session was answered as expected. -/
theorem Brought.quiet (h : Brought options s found xs sid) (call : NodeCall) :
    ∀ y ∈ xs, y.Quiet call := by
  cases h with
  | found => simp
  | @login r status body _ validity hr hresult =>
    obtain ⟨rfl, -⟩ := loginResult_eq_ok hresult
    rintro y hy
    obtain rfl := List.mem_singleton.mp hy
    exact Exchange.quiet_login hr body call

theorem Seeks.told (h : Seeks options s xs (.finished outcome)) : Told call found xs outcome := by
  cases h with
  | unable hlogin => exact told_of_bare (s.failsBare_login _ hlogin) (by simp)
  | failed hr failure => exact told_of_failed failure (by simp)
  | @refused r status body error hr hresult =>
    by_cases hstatus : status = 200
    · subst hstatus
      refine told_of_bare (failsBare_loginResult options body _ hresult) fun y hy => ?_
      obtain rfl := List.mem_singleton.mp hy
      exact Exchange.quiet_login hr body call
    · rw [loginResult_of_ne options hstatus] at hresult
      obtain rfl := Except.error.inj hresult
      refine told_of_status ⟨rfl, ?_⟩ (by simp)
      rw [Exchange.expected?_login hr (.complete status body) call]
      exact fun heq => hstatus (Option.some.inj heq).symm

/-- A call that has got a session succeeds just when its request was answered well. -/
theorem Brought.told_of_ok {x : Exchange} {reply : call.kind.Reply}
    (h : Brought options s found xs sid) (hx : x.AnswersWell call) :
    Told call found (x :: xs) (.ok reply) := by
  refine ⟨iff_of_true ⟨reply, rfl⟩ ⟨⟨sid, ?_⟩, x, List.mem_cons_self, hx⟩, nofun,
    fun y hy f hf => ?_⟩
  · exact ((h.hasSession_iff sid).mpr rfl).imp_right fun ⟨y, hy, hlogs⟩ =>
      ⟨y, List.mem_cons_of_mem _ hy, hlogs⟩
  · rcases List.mem_cons.mp hy with rfl | hy
    · obtain ⟨-, status, hstatus, -⟩ := hx
      rw [hf] at hstatus
      cases hstatus
    · exact absurd hf ((h.quiet call y hy).arrived f)

theorem isExpected_iff {form : RequestForm} (hform : call.form? = some form) (status : UInt16) :
    isExpected call status = true ↔ form.expected = status := by
  simp only [isExpected, hform, beq_iff_eq]
  exact eq_comm

theorem Asks.told {form : RequestForm} {r : HttpRequest} {response : Response}
    (h : Brought options s found xs sid) (hform : call.form? = some form)
    (hr : form.request s sid = .ok r) (hasks : Asks call sid r response (.finished outcome)) :
    Told call found (⟨r, response⟩ :: xs) outcome := by
  have hsid : r.sid.isSome := by rw [RequestForm.sid_of_request hr]; rfl
  have hexpected := Exchange.expected?_own hform hr response
  have hquiet := h.quiet call
  cases hasks with
  | failed failure => exact told_of_failed failure hquiet
  | done hstatus hgood hread stamp =>
    obtain ⟨reply, hreply⟩ := readReply_of_not_readsBody hread stamp (.ok .empty)
    rw [hreply]
    refine h.told_of_ok ⟨hsid, _, hstatus, ?_, fun hreads => ?_⟩
    · rw [hexpected, (isExpected_iff hform _).mp hgood]
    · cases hread.symm.trans hreads
  | @complete status hmore body stamp =>
    unfold outcomeOf
    by_cases hgood : isExpected call status = true
    · have hstatus := (isExpected_iff hform status).mp hgood
      rw [if_pos hgood]
      cases hreply : readReply stamp body call.kind with
      | ok reply =>
        have hdecodes := (readReply_isOk_iff (hmore hgood) stamp body).mp ⟨reply, hreply⟩
        exact h.told_of_ok ⟨hsid, status, rfl, by rw [hexpected, hstatus],
          fun _ => ⟨body, rfl, hdecodes⟩⟩
      | error e =>
        refine told_of_bare (failsBare_readReply stamp body call.kind e hreply) fun y hy => ?_
        rcases List.mem_cons.mp hy with rfl | hy
        · refine ⟨?_, fun s' body' => ?_, by simp⟩
          · rintro ⟨-, status', -, -, hdecodes⟩
            obtain ⟨body', hcomplete, hdecodes⟩ := hdecodes (hmore hgood)
            obtain ⟨-, rfl⟩ := Response.complete.inj hcomplete
            obtain ⟨reply, hok⟩ := (readReply_isOk_iff (hmore hgood) stamp body).mpr hdecodes
            cases hreply.symm.trans hok
          · rintro ⟨hcomplete, hne⟩
            obtain ⟨rfl, -⟩ := Response.complete.inj hcomplete
            exact hne (by rw [hexpected, hstatus])
        · exact hquiet y hy
    · rw [if_neg hgood]
      refine told_of_status ⟨rfl, ?_⟩ hquiet
      rw [hexpected]
      exact fun heq => hgood ((isExpected_iff hform status).mpr (Option.some.inj heq))

/-- What a finished call has come to is what its exchanges say. -/
theorem Stand.told (h : Stand options s call found xs (.finished outcome)) :
    Told call found xs outcome := by
  cases h with
  | seeks h => exact h.told
  | unwritten h _ hrequest =>
    exact told_of_bare (RequestForm.failsBare_request _ s _ _ hrequest) (h.quiet call)
  | asks h hform hrequest hasks => exact Asks.told h hform hrequest hasks

end Stand

/-! ## Every finished call -/

namespace FinishedCall

variable {kind : CallKind}

theorem told (x : FinishedCall kind) (hkind : kind ≠ .logout) :
    ∃ found, (∀ sid, found = some sid ↔ Found x.client x.id sid x.log) ∧
      Told ⟨kind, x.request⟩ found x.exchanges x.outcome := by
  have hform : (⟨kind, x.request⟩ : NodeCall).form?.isSome := by
    cases hnone : (⟨kind, x.request⟩ : NodeCall).form? with
    | some form => rfl
    | none =>
      have hlogout := congrArg NodeCall.kind (NodeCall.eq_logout hnone)
      exact absurd hlogout hkind
  obtain ⟨events', hlogged⟩ := LoggedWire.logged_run (LoggedWire.fresh x.client) x.events
  have hrecorded : LoggedClient.Recorded x.settings x.client
      ((LoggedWire.fresh x.client).run x.events).logged :=
    hlogged ▸ LoggedClient.recorded_run x.new events'
  obtain ⟨found, hfound, hstand⟩ := hrecorded.stand x.id _ x.finished hform
  exact ⟨found, hfound, hstand.told⟩

theorem exact (x : FinishedCall kind) (hkind : kind ≠ .logout) : x.Exact := by
  obtain ⟨found, hfound, htold⟩ := x.told hkind
  have hsession : (∃ sid, HasSession x.client x.log x.id sid) ↔
      ∃ sid, found = some sid ∨ ∃ y ∈ x.exchanges, y.LogsIn sid :=
    exists_congr fun sid => or_congr_left (hfound sid).symm
  refine ⟨htold.ok_iff.trans (and_congr_left fun _ => hsession.symm), fun e he => ?_,
    fun e he s => ?_, fun e he y hy s body hun => ?_, htold.failed,
    fun y hy s hs => LoggedWire.answer_of_status? hy hs⟩
  · rcases htold.error e he with ⟨hbare, -⟩ | ⟨y, -, s, body, -, rfl, -⟩
    · exact hbare.classified
    · rw [statusError_eq]
      exact NodeError.classified_ofStatusAndBody _ _
  · rcases htold.error e he with ⟨hbare, hnone⟩ | ⟨y, hy, s', body, hun, rfl, honly⟩
    · rw [hbare.status]
      refine iff_of_false (by simp) ?_
      rintro ⟨y, hy, body, hun⟩
      exact hnone y hy s body hun
    · rw [statusError_eq, NodeError.httpStatus_ofStatusAndBody]
      constructor
      · rintro ⟨⟩
        exact ⟨y, hy, body, hun⟩
      · rintro ⟨y', hy', body', hun'⟩
        rw [(honly y' hy' s body' hun').1]
  · rcases htold.error e he with ⟨-, hnone⟩ | ⟨y', -, s', body', -, rfl, honly⟩
    · exact absurd hun (hnone y hy s body)
    · obtain ⟨rfl, rfl⟩ := honly y hy s body hun
      rw [statusError_eq]
      exact NodeError.tells_ofStatusAndBody _ _

end FinishedCall

/-! ## Calls to all nodes -/

namespace Passage

variable {kind : CallKind} {c : Cluster} {course : NodeId → Course kind.Reply} {start : Instant}
  {p : Passage kind.Reply}

/-- A failure among the results of a call to all members is that of the call to the node, which was
over in time, or it was made by the call to all members and has no status. -/
theorem error_cases (hc : c.Reachable) (hp : Runs course start (depart kind.Reply c start) p)
    {r : FanOut kind.Reply} (hr : p.flight.results? = some r) {id : NodeId}
    {res : NodeResult kind.Reply} (hres : r.find? id = some res) {e : NodeError}
    (he : res.outcome = .error e) :
    (∃ after, after ≤ c.callTimeout ∧ course id = .ends after (.answered (.error e))) ∨
      e.Bare ∧ ∀ after o, course id = .ends after (.answered o) → ¬ after ≤ c.callTimeout := by
  obtain ⟨-, hexact⟩ := (results_exact hc course start hp).1 r hr
  have hout := (hexact id res hres).outcome.symm.trans he
  have hlate : (Flight.lateError c.callTimeout).Bare := NodeError.bare_timeout _
  cases hcourse : course id with
  | never =>
    rw [hcourse] at hout
    obtain rfl := Except.error.inj hout
    exact .inr ⟨hlate, fun after o h => by cases h⟩
  | ends after callEnd =>
    rw [hcourse, Course.outcome] at hout
    by_cases hin : after ≤ c.callTimeout
    · rw [if_pos hin] at hout
      cases callEnd with
      | answered o =>
        obtain rfl : o = .error e := hout
        exact .inl ⟨after, hin, rfl⟩
      | broken =>
        obtain rfl := Except.error.inj hout
        exact .inr ⟨NodeError.bare_unknown _, fun after' o h => by cases h⟩
    · rw [if_neg hin] at hout
      obtain rfl := Except.error.inj hout
      refine .inr ⟨hlate, fun after' o h => ?_⟩
      obtain ⟨rfl, -⟩ := Course.ends.inj h
      exact hin

/-- A call to all members, each of which answers as calls of clients come out: every failure among
the results is classified consistently, and it has a status just when the call to the node was over
in time and was answered with this status, which was not expected. -/
def ClassifiesAll (c : Cluster) (course : NodeId → Course kind.Reply) (r : FanOut kind.Reply) :
    Prop :=
  ∀ id res e, r.find? id = some res → res.outcome = .error e → e.Classified ∧
    ∀ s, e.httpStatus = some s ↔ ∃ after ≤ c.callTimeout, ∃ x : FinishedCall kind,
      course id = .ends after (.answered x.outcome) ∧ x.outcome = .error e ∧ x.Unexpected s

theorem classifiesAll (hkind : kind ≠ .logout) (hc : c.Reachable)
    (hcourse : ∀ id after o, course id = .ends after (.answered o) →
      ∃ x : FinishedCall kind, x.outcome = o)
    (hp : Runs course start (depart kind.Reply c start) p) {r : FanOut kind.Reply}
    (hr : p.flight.results? = some r) : ClassifiesAll c course r := by
  intro id res e hres he
  rcases error_cases hc hp hr hres he with ⟨after, hin, hends⟩ | ⟨hbare, hlate⟩
  · obtain ⟨x, hx⟩ := hcourse id after _ hends
    have hexact := x.exact hkind
    refine ⟨hexact.classified e hx, fun s => (hexact.status_iff e hx s).trans ⟨fun hun => ?_, ?_⟩⟩
    · exact ⟨after, hin, x, hx ▸ hends, hx, hun⟩
    · rintro ⟨-, -, x', -, hx', hun⟩
      exact (hexact.status_iff e hx s).mp (((x'.exact hkind).status_iff e hx' s).mpr hun)
  · refine ⟨hbare.classified, fun s => ?_⟩
    rw [hbare.status]
    refine iff_of_false (by simp) ?_
    rintro ⟨after, hin, x, hends, -⟩
    exact hlate after _ hends hin

end Passage

/-- **Outcomes are classified consistently.**  A call of a client that is no logout succeeds just
when it has got a session and its request was answered with the expected status and, where a body is
read, with a body that can be read. Its failure has a status just when the call was handed one that
was not expected, which is that of an answer; class, status and the chances of a later attempt agree;
and of an answer the failure repeats at most 256 characters, and nothing when it is about
credentials. Where a request gets no answer that is handed to the call, because the network fails it
or redirects lead too far or to a foreign place, the failure is the one of this case, without a
status. The same holds for every failure among the results of a call to all members of a cluster
whose nodes answer as such calls come out, whenever each of them does. -/
theorem outcomes_classified {kind : CallKind} (hkind : kind ≠ .logout) :
    (∀ x : FinishedCall kind, x.Exact) ∧
      ∀ (c : Cluster), c.Reachable → ∀ (course : NodeId → Course kind.Reply),
        (∀ id after o, course id = .ends after (.answered o) →
          ∃ x : FinishedCall kind, x.outcome = o) →
        ∀ (start : Instant) (p : Passage kind.Reply),
          Passage.Runs course start (Passage.depart kind.Reply c start) p →
          ∀ r, p.flight.results? = some r → Passage.ClassifiesAll c course r :=
  ⟨fun x => x.exact hkind, fun _ hc _ hcourse _ _ hp _ hr =>
    Passage.classifiesAll hkind hc hcourse hp hr⟩

/-! ## A node that is busy -/

/-- A call logs in, and the node answers that it is busy. -/
def busyNode : List (Moment × WireEvent) :=
  [(⟨0, ⟨0⟩⟩, .start 0 ⟨.blockingStatus, ()⟩), (⟨1, ⟨1⟩⟩, .answer 0 200 none),
    (⟨2, ⟨2⟩⟩, .body 0 (loginAnswer "x" 60)),
    (⟨3, ⟨3⟩⟩, .answer 0 503 none), (⟨4, ⟨4⟩⟩, .body 0 (.ok ⟨"busy".toUTF8.toList, ""⟩))]

/-- The failure that a finished call has come to. -/
def LiveCall.failure? (l : LiveCall) : Option NodeError :=
  match l.progress with
  | .finished (.error e) => some e
  | _ => none

theorem LiveCall.eq_of_failure? {l : LiveCall} {id : Nat} {kind : CallKind} {e : NodeError}
    (hid : l.id = id) (hkind : l.call.kind = kind) (h : l.failure? = some e) :
    ∃ request snapshot, l = ⟨id, ⟨kind, request⟩, snapshot, .finished (.error e)⟩ := by
  obtain ⟨id', ⟨kind', request⟩, snapshot, progress⟩ := l
  obtain rfl : id' = id := hid
  obtain rfl : kind' = kind := hkind
  unfold failure? at h
  split at h
  · next e' hprogress =>
    obtain rfl := Option.some.inj h
    obtain rfl : progress = .finished (.error e') := hprogress
    exact ⟨request, snapshot, rfl⟩
  · cases h

/-- Its failure has the status and may pass; so it has in a call to all nodes. -/
theorem outcomes_classified_of_busyNode :
    let c := (Cluster.empty 10 0).change (.add ⟨0, ⟨⟨1⟩, "a", "a.lan"⟩, none⟩)
    ∃ (x : FinishedCall .blockingStatus) (e : NodeError), x.events = busyNode ∧ x.Exact ∧
      x.outcome = .error e ∧ e.httpStatus = some 503 ∧ e.retryable = true ∧
      e.message = "node returned HTTP 503: busy" ∧
      ∃ r, ((c.depart _ 0).report ⟨1⟩ (.answered x.outcome)).results? = some r ∧
        Passage.ClassifiesAll c (fun _ => .ends 5 (.answered x.outcome)) r := by
  intro c
  let settings : NodeSettings := .basic ⟨1⟩ "a" "a.lan" "one"
  let client : NodeClient := ⟨.standard, ⟨0, settings⟩, none, [], []⟩
  have hnew : NodeClient.new? settings .standard = .ok client := if_pos (by decide +kernel)
  let busy : NodeError := ⟨.protocol, "node returned HTTP 503: busy", some 503, true⟩
  have hview : (((LoggedWire.fresh client).run busyNode).wire.client.call? 0).map
      (fun l => (l.call.kind, l.failure?)) = some (.blockingStatus, some busy) := by
    decide +kernel
  obtain ⟨l, hcall, hl⟩ := Option.map_eq_some_iff.mp hview
  obtain ⟨hkind, hfailure⟩ := Prod.mk.inj hl
  obtain ⟨request, snapshot, rfl⟩ := LiveCall.eq_of_failure? (id_of_call? hcall) hkind hfailure
  let x : FinishedCall .blockingStatus :=
    ⟨settings, .standard, client, hnew, busyNode, 0, request, snapshot, .error busy, hcall⟩
  obtain ⟨hexact, hall⟩ := @outcomes_classified .blockingStatus (by decide)
  refine ⟨x, busy, rfl, hexact x, rfl, rfl, rfl, rfl, _, rfl, ?_⟩
  refine hall c (.change _ (.empty 10 0)) _ (fun id after o h => ?_) 0
    ⟨c, (c.depart _ 0).report ⟨1⟩ (.answered x.outcome), 5⟩ ?_ _ rfl
  · cases h
    exact ⟨x, rfl⟩
  · refine .tail (.single (.wait _ 5 ?_ ?_ ?_)) (.ended _ rfl ?_)
    · exact Nat.zero_le 5
    · exact fun _ _ => Nat.le_add_left 5 5
    · rintro id - after e' h
      cases h
      exact Nat.le_refl 5
    · exact Nat.le_refl 5

/-! ## Redirects without an end -/

/-- The login of a call is redirected from one place to the next, time and again. -/
def endlessRedirects : List (Moment × WireEvent) :=
  (⟨0, ⟨0⟩⟩, .start 0 ⟨.blockingStatus, ()⟩) ::
    List.replicate 11 (⟨1, ⟨1⟩⟩, .answer 0 302 (some (.resource elsewhere)))

/-- **Redirects without an end leave no status.**  All answers have a status that was not expected,
and the failure has none. -/
theorem FinishedCall.fails_of_endlessRedirects :
    ∃ x : FinishedCall .blockingStatus, x.events = endlessRedirects ∧
      (x.wireLog.filterMap fun z => match z.event with
        | .answer id status _ => some (id, status)
        | _ => none) = List.replicate 11 (x.id, 302) ∧
      x.outcome =
        .error ⟨.unknown, "error following redirect for url (http://b.lan/in)", none, false⟩ := by
  let settings : NodeSettings := .basic ⟨1⟩ "a" "a.lan" "one"
  let client : NodeClient := ⟨.standard, ⟨0, settings⟩, none, [], []⟩
  have hnew : NodeClient.new? settings .standard = .ok client := if_pos (by decide +kernel)
  let lost : NodeError :=
    ⟨.unknown, "error following redirect for url (http://b.lan/in)", none, false⟩
  have hview : (((LoggedWire.fresh client).run endlessRedirects).wire.client.call? 0).map
      (fun l => (l.call.kind, l.failure?)) = some (.blockingStatus, some lost) := by
    decide +kernel
  obtain ⟨l, hcall, hl⟩ := Option.map_eq_some_iff.mp hview
  obtain ⟨hkind, hfailure⟩ := Prod.mk.inj hl
  obtain ⟨request, snapshot, rfl⟩ := LiveCall.eq_of_failure? (id_of_call? hcall) hkind hfailure
  exact ⟨⟨settings, .standard, client, hnew, endlessRedirects, 0, request, snapshot, .error lost,
    hcall⟩, rfl, rfl, rfl⟩

end FilterFleet
