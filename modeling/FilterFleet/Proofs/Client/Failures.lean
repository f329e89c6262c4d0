import FilterFleet.Proofs.Client.Requests

/-!
# Failures are classified consistently

The class of a failure, its status and whether a later attempt may succeed hang together
(`NodeError.Classified`). So they do for every way in which a failure is made. A failure that is
made without a status of the node is `Bare`; a failure that is made of a status tells the status,
and of the answer no more than `NodeError.Tells` says.
-/

namespace FilterFleet

open Address NodeClient

namespace NodeError

/-- The class, the status and the chances of a later attempt agree. -/
structure Classified (e : NodeError) : Prop where
  kind_of_status : ∀ s, e.httpStatus = some s →
    e.kind = if s = 401 ∨ s = 403 then .auth else .protocol
  status_of_protocol : e.kind = .protocol → ∃ s, e.httpStatus = some s
  retryable_iff : e.retryable = true ↔ e.kind = .timeout ∨ e.kind = .transport ∨
    ∃ s, e.httpStatus = some s ∧ 500 ≤ s.toNat ∧ s.toNat ≤ 599
  /-- What is said about credentials does not depend on any answer. -/
  message_of_auth : e.kind = .auth →
    e.message = "authentication failed" ∨ e.message = "node rejected the login"

/-- What a failure tells of an answer with a status: of one about credentials nothing, of any other
the status and at most the first 256 characters. -/
def Tells (e : NodeError) (status : UInt16) (answer : String) : Prop :=
  e.kind = .auth ∧ e.message = "authentication failed" ∨
    e.kind = .protocol ∧ ∃ kept : List Char, kept <+: answer.toList ∧ kept.length ≤ 256 ∧
      e.message = "node returned HTTP " ++ toString status.toNat ++
        if kept.isEmpty then "" else ": " ++ String.ofList kept

/-- A failure without a status. -/
structure Bare (e : NodeError) : Prop where
  classified : e.Classified
  status : e.httpStatus = none

theorem bare_timeout (message : String) : (timeout message).Bare := by
  refine ⟨⟨?_, ?_, ?_, ?_⟩, rfl⟩ <;> simp [timeout]

theorem bare_transport (message : String) : (transport message).Bare := by
  refine ⟨⟨?_, ?_, ?_, ?_⟩, rfl⟩ <;> simp [transport]

theorem bare_decode (message : String) : (decode message).Bare := by
  refine ⟨⟨?_, ?_, ?_, ?_⟩, rfl⟩ <;> simp [decode]

theorem bare_unknown (message : String) : (unknown message).Bare := by
  refine ⟨⟨?_, ?_, ?_, ?_⟩, rfl⟩ <;> simp [unknown]

theorem bare_loginRejected : loginRejected.Bare := by
  refine ⟨⟨?_, ?_, ?_, ?_⟩, rfl⟩ <;> simp [loginRejected]

theorem httpStatus_ofStatus (status : UInt16) : (ofStatus status).httpStatus = some status := by
  unfold ofStatus
  split <;> rfl

theorem classified_ofStatus (status : UInt16) : (ofStatus status).Classified := by
  unfold ofStatus
  split
  · next h =>
    have h' : status = 401 ∨ status = 403 := by simpa using h
    refine ⟨?_, by simp, ?_, by simp⟩
    · rintro s ⟨⟩
      rw [if_pos h']
    · rcases h' with rfl | rfl <;> simp
  · next h =>
    have h' : ¬ (status = 401 ∨ status = 403) := by simpa using h
    refine ⟨?_, fun _ => ⟨status, rfl⟩, ?_, by simp⟩
    · rintro s ⟨⟩
      rw [if_neg h']
    · simp [UInt16.le_iff_toNat_le]

/-- The answer changes nothing but the message of a failure that is not about credentials. -/
theorem ofStatusAndBody_eq (status : UInt16) (body : String) :
    ∃ message, ofStatusAndBody status body = { ofStatus status with message } ∧
      ((ofStatus status).kind = .auth → message = (ofStatus status).message) := by
  unfold ofStatusAndBody
  dsimp only
  split
  · exact ⟨(ofStatus status).message, rfl, fun _ => rfl⟩
  · next h =>
    refine ⟨_, rfl, fun hauth => absurd ?_ h⟩
    simp [hauth]

theorem httpStatus_ofStatusAndBody (status : UInt16) (body : String) :
    (ofStatusAndBody status body).httpStatus = some status := by
  obtain ⟨message, h, -⟩ := ofStatusAndBody_eq status body
  rw [h]
  exact httpStatus_ofStatus status

theorem classified_ofStatusAndBody (status : UInt16) (body : String) :
    (ofStatusAndBody status body).Classified := by
  obtain ⟨message, h, hmessage⟩ := ofStatusAndBody_eq status body
  obtain ⟨hkind, hprotocol, hretryable, hauth⟩ := classified_ofStatus status
  rw [h]
  refine ⟨hkind, hprotocol, hretryable, fun hk => ?_⟩
  rw [hmessage hk]
  exact hauth hk

theorem tells_ofStatusAndBody (status : UInt16) (body : String) :
    (ofStatusAndBody status body).Tells status body := by
  by_cases h : status = 401 ∨ status = 403
  · have hauth : ofStatus status = ⟨.auth, "authentication failed", some status, false⟩ :=
      if_pos (by simpa using h)
    obtain ⟨message, heq, hmessage⟩ := ofStatusAndBody_eq status body
    rw [heq]
    rw [hauth] at hmessage ⊢
    exact .inl ⟨rfl, hmessage rfl⟩
  · obtain ⟨retryable, hprotocol⟩ : ∃ retryable, ofStatus status =
        ⟨.protocol, "node returned HTTP " ++ toString status.toNat, some status, retryable⟩ :=
      ⟨_, if_neg (by simpa using h)⟩
    have hempty : (String.ofList (body.toList.take maxBody)).isEmpty =
        (body.toList.take maxBody).isEmpty := by
      rw [Bool.eq_iff_iff]
      simp
    refine .inr ⟨?_, body.toList.take maxBody, List.take_prefix _ _, List.length_take_le _ _, ?_⟩
    · obtain ⟨message, heq, -⟩ := ofStatusAndBody_eq status body
      rw [heq, hprotocol]
    · rw [ofStatusAndBody, hprotocol]
      simp only [hempty]
      cases (body.toList.take maxBody).isEmpty with
      | false => simp [String.append_assoc]
      | true => simp

end NodeError

/-- Every failure of an attempt is one without a status. -/
def FailsBare {α : Type} (x : Except NodeError α) : Prop := ∀ e, x = .error e → e.Bare

theorem failsBare_error {α : Type} {e : NodeError} (h : e.Bare) :
    FailsBare (.error e : Except NodeError α) := by
  rintro _ ⟨⟩
  exact h

theorem failsBare_ok {α : Type} (a : α) : FailsBare (.ok a : Except NodeError α) := by
  rintro _ ⟨⟩

theorem FailsBare.map {α β : Type} {x : Except NodeError α} (h : FailsBare x) (f : α → β) :
    FailsBare (x.map f) := by
  cases x with
  | error e => exact failsBare_error (h e rfl)
  | ok a => exact failsBare_ok (f a)

theorem FailsBare.bind {α β : Type} {x : Except NodeError α} (h : FailsBare x)
    {f : α → Except NodeError β} (hf : ∀ a, FailsBare (f a)) : FailsBare (x.bind f) := by
  cases x with
  | error e => exact failsBare_error (h e rfl)
  | ok a => exact hf a

theorem AddressFault.bare_error (fault : AddressFault) : (AddressFault.error fault).Bare :=
  NodeError.bare_unknown _

theorem Outage.bare_error (outage : Outage) (address : String) : (outage.error address).Bare := by
  cases outage with
  | late => exact NodeError.bare_timeout _
  | unreachable | cutOff => exact NodeError.bare_transport _

theorem SendFailure.bare_error (failure : SendFailure) : failure.error.Bare := by
  cases failure with
  | outage o address => exact o.bare_error address
  | tooManyRedirects _ | foreignRedirect _ => exact NodeError.bare_unknown _

theorem bare_of_writeFault? {url : Url} {sid : Option String} {e : NodeError}
    (h : writeFault? url sid = some e) : e.Bare := by
  unfold writeFault? at h
  split at h
  · exact Option.some.inj h ▸ NodeError.bare_unknown _
  · split at h
    · exact Option.some.inj h ▸ NodeError.bare_unknown _
    · cases h

theorem failsBare_decodeBody {α : Type} (context : String) (decode : Json → Option α)
    (body : AnswerBody) : FailsBare (decodeBody context decode body) := by
  unfold decodeBody
  split
  · next failure =>
    cases failure with
    | late => exact failsBare_error (NodeError.bare_timeout _)
    | cutOff => exact failsBare_error (NodeError.bare_decode _)
  · split
    · exact failsBare_ok _
    · exact failsBare_error (NodeError.bare_decode _)

theorem failsBare_readReply (stamp : Timestamp) (body : AnswerBody)
    (kind : CallKind) : FailsBare (readReply stamp body kind) := by
  cases kind with
  | fetchQueries | listRules | addRules => exact failsBare_decodeBody _ _ _
  | authStatus | blockingStatus | setBlocking => exact (failsBare_decodeBody _ _ _).map _
  | removeRule | logout => exact failsBare_ok ()

theorem NodeSettings.failsBare_login (s : NodeSettings) : FailsBare s.login := by
  unfold NodeSettings.login
  split
  · next fault _ => exact failsBare_error (AddressFault.bare_error fault)
  · split
    · next h => exact failsBare_error (bare_of_writeFault? h)
    · exact failsBare_ok _

theorem RequestForm.failsBare_request (form : RequestForm) (s : NodeSettings) (sid : String) :
    FailsBare (form.request s sid) := by
  unfold RequestForm.request
  split
  · next fault _ => exact failsBare_error (AddressFault.bare_error fault)
  · split
    · next h => exact failsBare_error (bare_of_writeFault? h)
    · exact failsBare_ok _

theorem failsBare_acceptLogin (options : ClientOptions) (answer : AuthAnswer) :
    FailsBare (acceptLogin options answer) := by
  unfold acceptLogin
  split
  · split
    · exact failsBare_ok _
    · exact failsBare_error NodeError.bare_loginRejected
  · exact failsBare_error NodeError.bare_loginRejected

/-- A login that was answered 200 fails without a status. -/
theorem failsBare_loginResult (options : ClientOptions) (body : AnswerBody) :
    FailsBare (loginResult options 200 body) :=
  (failsBare_decodeBody _ _ _).bind (failsBare_acceptLogin options)

/-! ## Failures of a status -/

/-- The text of an answer, as far as it could be read. -/
def answerText : AnswerBody → String
  | .ok content => Text.lossyText content.bytes
  | .error _ => ""

theorem statusError_eq (status : UInt16) (body : AnswerBody) :
    statusError status body = .ofStatusAndBody status (answerText body) := by
  cases body <;> rfl

/-- Any other answer to a login is told. -/
theorem loginResult_of_ne (options : ClientOptions) {status : UInt16} (h : status ≠ 200)
    (body : AnswerBody) :
    loginResult options status body = .error (statusError status body) := by
  rw [loginResult, if_neg (by simpa using h)]

end FilterFleet
