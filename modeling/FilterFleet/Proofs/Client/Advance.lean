import FilterFleet.Proofs.Client.Log
import FilterFleet.Proofs.Client.Requests

/-!
# How an event moves a call

`Advance` lists how an event moves the call that it is about: the place that the call comes to, and
what is sent then. There are no other ways (`turn_of_about`): an event about a call that does not
move it is one that the call does not wait for (`Progress.Hears`), and no event touches the calls
that it is not about (`call?_step_of_ne`).
-/

namespace FilterFleet

open Address

/-- The call waits for an answer of this kind. -/
def Progress.Hears {kind : CallKind} : Progress kind → ClientEvent → Prop
  | .loginSent, .status _ _ => True
  | .loginSent, .failure _ _ => True
  | .loginAnswered _, .body _ _ => True
  | .sent _, .status _ _ => True
  | .sent _, .failure _ _ => True
  | .answered _, .body _ _ => True
  | _, _ => False

namespace NodeClient

variable {c : NodeClient} {t : Moment} {e : ClientEvent} {l : LiveCall} {form : RequestForm}
  {sid : String}

/-! ## Sessions for calls -/

/-- A call that looks for a session finds one that it can use. -/
structure Finds (c : NodeClient) (t : Moment) (e : ClientEvent) (l : LiveCall) (sid : String) :
    Prop where
  checks : c.Checks e l
  usable : c.session.lookup l.snapshot.generation t.now = some sid

/-- At an event a call comes to have a session: it finds one, or its login brings it. -/
inductive Obtains (c : NodeClient) (t : Moment) (e : ClientEvent) (l : LiveCall) (sid : String) :
    Prop where
  | found (h : c.Finds t e l sid)
  | login {validity : Span} (h : c.EndsLogin e l (.ok (sid, validity)))

/-- A call that comes to have a session sends its request. -/
theorem Obtains.step (h : c.Obtains t e l sid) :
    ∃ c₁ : NodeClient, c.step t e = c₁.sendRequest l sid := by
  cases h with
  | found h =>
    obtain ⟨hchecks, husable⟩ := h
    cases hchecks with
    | start hform hurl =>
      simp only at husable
      exact ⟨c, by simp only [NodeClient.step, NodeClient.start, hform, hurl, husable]⟩
    | turn hcall hgate hfront =>
      exact ⟨c.leaveGate l.id, by
        simp only [NodeClient.step, hcall, hgate, NodeClient.proceed, hfront, if_true, husable]⟩
  | login h =>
    rw [step_of_endsLogin h, endLogin_ok]
    exact ⟨_, rfl⟩

/-- A call that finds no session waits at the gate, or it stands at the front and logs in. -/
theorem Checks.step_of_none (h : c.Checks e l)
    (hnone : c.session.lookup l.snapshot.generation t.now = none) :
    ∃ c₁, Placed c c₁ l ∧ (c.step t e = (c₁, []) ∨ c.step t e = c₁.sendLogin l) := by
  cases h with
  | @start id call form url hform hurl =>
    refine ⟨{ c.put ⟨id, call, c.current, .atGate⟩ with gate := c.gate ++ [id] },
      ⟨rfl, rfl, rfl, (placed_put c _).call⟩, ?_⟩
    have hlookup : SessionCache.lookup
        (c.put ⟨id, call, c.current, .atGate⟩).session c.current.generation t.now = none := hnone
    by_cases hfront : (c.gate ++ [id]).head? = some id
    · refine .inr ?_
      simp only at hnone
      simp only [NodeClient.step, NodeClient.start, hform, hurl, hnone, NodeClient.proceed, hfront,
        if_true, hlookup]
    · refine .inl ?_
      simp only at hnone
      simp only [NodeClient.step, NodeClient.start, hform, hurl, hnone, NodeClient.proceed,
        if_neg hfront]
  | turn hcall hgate hfront =>
    refine ⟨c, placed_self hcall, .inr ?_⟩
    simp only [NodeClient.step, hcall, hgate, NodeClient.proceed, hfront, if_true, hnone]

theorem Checks.progress (h : c.Checks e l) : l.progress = .atGate := by
  cases h with
  | start _ _ => rfl
  | turn _ hgate _ => exact hgate

/-! ## Moves -/

/-- How an event moves the call that it is about: where the call waits then, and what is sent. -/
inductive Advance (c : NodeClient) (t : Moment) : (e : ClientEvent) → (l : LiveCall) →
    Progress l.call.kind → List HttpRequest → Prop where
  /-- The call starts under settings that make no address. -/
  | refused {id : Nat} {call : NodeCall} {form : RequestForm} {fault : AddressFault}
      (hform : call.form? = some form)
      (hfault : c.current.settings.endpoint form.segments = .error fault) :
      Advance c t (.start id call) ⟨id, call, c.current, .atGate⟩
        (.finished (.error (AddressFault.error fault))) []
  | waits {e : ClientEvent} {l : LiveCall} (h : c.Checks e l)
      (hnone : c.session.lookup l.snapshot.generation t.now = none) : Advance c t e l .atGate []
  | logsIn {e : ClientEvent} {l : LiveCall} {r : HttpRequest} (h : c.Checks e l)
      (hnone : c.session.lookup l.snapshot.generation t.now = none)
      (hlogin : l.snapshot.settings.login = .ok r) : Advance c t e l .loginSent [r]
  /-- The login cannot be written. -/
  | unable {e : ClientEvent} {l : LiveCall} {error : NodeError} (h : c.Checks e l)
      (hnone : c.session.lookup l.snapshot.generation t.now = none)
      (hlogin : l.snapshot.settings.login = .error error) :
      Advance c t e l (.finished (.error error)) []
  | asks {e : ClientEvent} {l : LiveCall} {sid : String} {form : RequestForm} {r : HttpRequest}
      (h : c.Obtains t e l sid) (hform : l.call.form? = some form)
      (hrequest : form.request l.snapshot.settings sid = .ok r) : Advance c t e l (.sent sid) [r]
  /-- The request cannot be written. -/
  | unwritten {e : ClientEvent} {l : LiveCall} {sid : String} {form : RequestForm}
      {error : NodeError} (h : c.Obtains t e l sid) (hform : l.call.form? = some form)
      (hrequest : form.request l.snapshot.settings sid = .error error) :
      Advance c t e l (.finished (.error error)) []
  | loginAnswered {l : LiveCall} {status : UInt16} (hcall : c.call? l.id = some l)
      (hsent : l.progress = .loginSent) :
      Advance c t (.status l.id status) l (.loginAnswered status) []
  | loginEnded {e : ClientEvent} {l : LiveCall} {error : NodeError}
      (h : c.EndsLogin e l (.error error)) : Advance c t e l (.finished (.error error)) []
  | answered {l : LiveCall} {sid : String} {status : UInt16} (hcall : c.call? l.id = some l)
      (hsent : l.progress = .sent sid)
      (hmore : isExpected l.call status = true → l.call.kind.readsBody = true) :
      Advance c t (.status l.id status) l (.answered status) []
  /-- A good answer without a body has come. -/
  | done {l : LiveCall} {sid : String} {status : UInt16} (hcall : c.call? l.id = some l)
      (hsent : l.progress = .sent sid) (hexpected : isExpected l.call status = true)
      (hread : l.call.kind.readsBody = false) :
      Advance c t (.status l.id status) l (.finished (readReply t.stamp (.ok .empty) l.call.kind)) []
  | failed {l : LiveCall} {sid : String} (hcall : c.call? l.id = some l)
      (hsent : l.progress = .sent sid) (failure : SendFailure) :
      Advance c t (.failure l.id failure) l (.finished (.error failure.error)) []
  | concluded {l : LiveCall} {status : UInt16} (hcall : c.call? l.id = some l)
      (hread : l.progress = .answered status) (body : AnswerBody) :
      Advance c t (.body l.id body) l (.finished (outcomeOf l.call status body t.stamp)) []

/-- What an event does to a call. -/
inductive Turn (c : NodeClient) (t : Moment) (e : ClientEvent) (id : Nat) : Prop where
  | moved {l : LiveCall} {p : Progress l.call.kind} (hid : l.id = id)
      (h : c.Advance t e l p (c.step t e).2)
      (hcall : (c.step t e).1.call? id = some { l with progress := p })
  | idle (hstep : c.step t e = (c, [])) (hstart : ∀ call, e ≠ .start id call)
      (hquiet : ∀ l, ¬ c.Checks e l) (hdeaf : ∀ l, c.call? id = some l → ¬ l.progress.Hears e)

/-- A step that puts a call somewhere is a turn of the call. -/
theorem turn_of_put {c₁ : NodeClient} {p : Progress l.call.kind} {sent : List HttpRequest}
    (hstep : c.step t e = (c₁.put { l with progress := p }, sent)) (h : c.Advance t e l p sent) :
    c.Turn t e l.id := by
  refine .moved rfl (p := p) ?_ ?_
  · rw [hstep]
    exact h
  · rw [hstep]
    exact (placed_put c₁ { l with progress := p }).call_self

theorem turn_of_obtains (h : c.Obtains t e l sid) (hform : l.call.form? = some form) :
    c.Turn t e l.id := by
  obtain ⟨c₁, hstep⟩ := h.step
  cases hrequest : form.request l.snapshot.settings sid with
  | ok r =>
    rw [sendRequest_of_ok hform hrequest] at hstep
    exact turn_of_put hstep (.asks h hform hrequest)
  | error error =>
    rw [sendRequest_of_error hform hrequest] at hstep
    exact turn_of_put hstep (.unwritten h hform hrequest)

theorem turn_of_checks (h : c.Checks e l) (hform : l.call.form? = some form) :
    c.Turn t e l.id := by
  cases hlookup : c.session.lookup l.snapshot.generation t.now with
  | some sid => exact turn_of_obtains (.found ⟨h, hlookup⟩) hform
  | none =>
    obtain ⟨c₁, hplaced, hstep | hstep⟩ := h.step_of_none hlookup
    · refine .moved rfl (p := .atGate) ?_ ?_
      · rw [hstep]
        exact .waits h hlookup
      · rw [hstep, ← h.progress]
        exact hplaced.call_self
    · cases hlogin : l.snapshot.settings.login with
      | ok r =>
        rw [sendLogin_of_ok hlogin] at hstep
        exact turn_of_put hstep (.logsIn h hlookup hlogin)
      | error error =>
        rw [sendLogin_of_error hlogin] at hstep
        exact turn_of_put hstep (.unable h hlookup hlogin)

theorem turn_of_endsLogin {result : Except NodeError (String × Span)} (h : c.EndsLogin e l result)
    (hform : l.call.form? = some form) : c.Turn t e l.id := by
  cases result with
  | ok login => exact turn_of_obtains (.login h) hform
  | error error =>
    have hstep := (step_of_endsLogin h t).trans (endLogin_error c l error t.now)
    exact turn_of_put hstep (.loginEnded h)

/-- The status of a request leaves its call waiting for the body, unless it is the status of a good
answer that has none. -/
theorem turn_of_answer (hcall : c.call? l.id = some l) (hsent : l.progress = .sent sid)
    (status : UInt16) : c.Turn t (.status l.id status) l.id := by
  have hstep : c.step t (.status l.id status) = (c.onStatus l sid status t.stamp, []) := by
    simp only [step, hcall, hsent]
  -- Whether the session is given up makes no difference to the call.
  obtain ⟨c₁, honStatus⟩ : ∃ c₁ : NodeClient, c.onStatus l sid status t.stamp =
      if isExpected l.call status && !l.call.kind.readsBody then
        c₁.finish l (readReply t.stamp (.ok .empty) l.call.kind)
      else c₁.put { l with progress := .answered status } := ⟨_, rfl⟩
  rw [honStatus] at hstep
  split at hstep
  · next hgood =>
    obtain ⟨hexpected, hread⟩ := Bool.and_eq_true_iff.mp hgood
    exact turn_of_put hstep (.done hcall hsent hexpected (by simpa using hread))
  · next hmore =>
    exact turn_of_put hstep (.answered hcall hsent (by simpa using hmore))

/-- A call that goes on to look for a session stands at the front of the gate. -/
theorem Checks.of_proceed {id : Nat} (h : c.Checks (.proceed id) l) :
    c.call? id = some l ∧ l.progress = .atGate ∧ c.gate.head? = some id := by
  generalize he : ClientEvent.proceed id = e at h
  cases h with
  | start _ _ => cases he
  | turn hcall hgate hfront =>
    obtain rfl := ClientEvent.proceed.inj he
    exact ⟨hcall, hgate, hfront⟩

/-- A call does not wait for an event. -/
theorem turn_of_deaf (hcall : c.call? l.id = some l) (hstep : c.step t e = (c, []))
    (hstart : ∀ call, e ≠ .start l.id call) (hquiet : ∀ l', ¬ c.Checks e l')
    (hdeaf : ¬ l.progress.Hears e) : c.Turn t e l.id :=
  .idle hstep hstart hquiet fun _ hl' => Option.some.inj (hcall.symm.trans hl') ▸ hdeaf

theorem turn_of_start (c : NodeClient) (t : Moment) (id : Nat) {call : NodeCall}
    (hform : call.form? = some form) : c.Turn t (.start id call) id := by
  cases hurl : c.current.settings.endpoint form.segments with
  | ok url => exact turn_of_checks (.start hform hurl) hform
  | error fault =>
    have hstep : c.step t (.start id call) = (c.finish ⟨id, call, c.current, .atGate⟩
        (.error (AddressFault.error fault)), []) := by
      simp only [step, start, hform, hurl]
    exact turn_of_put (l := ⟨id, call, c.current, .atGate⟩) hstep (.refused hform hurl)

theorem turn_of_proceed (hcall : c.call? l.id = some l) (hform : l.call.form? = some form) :
    c.Turn t (.proceed l.id) l.id := by
  have hstart : ∀ call, ClientEvent.proceed l.id ≠ .start l.id call := by simp
  cases hprogress : l.progress with
  | atGate =>
    by_cases hfront : c.gate.head? = some l.id
    · exact turn_of_checks (.turn hcall hprogress hfront) hform
    · exact turn_of_deaf hcall
        (by simp only [step, hcall, hprogress, NodeClient.proceed, if_neg hfront]) hstart
        (fun l' h => hfront h.of_proceed.2.2) (by rw [hprogress]; exact id)
  | _ =>
    refine turn_of_deaf hcall (by simp only [step, hcall, hprogress]) hstart (fun l' h => ?_)
      (by rw [hprogress]; exact id)
    obtain ⟨hcall', hgate, -⟩ := h.of_proceed
    obtain rfl := Option.some.inj (hcall.symm.trans hcall')
    cases hprogress.symm.trans hgate

theorem turn_of_status (hcall : c.call? l.id = some l) (status : UInt16) :
    c.Turn t (.status l.id status) l.id := by
  cases hprogress : l.progress with
  | loginSent =>
    have hstep : c.step t (.status l.id status) =
        (c.put { l with progress := .loginAnswered status }, []) := by
      simp only [step, hcall, hprogress]
    exact turn_of_put hstep (.loginAnswered hcall hprogress)
  | sent sid => exact turn_of_answer hcall hprogress status
  | _ =>
    exact turn_of_deaf hcall (by simp only [step, hcall, hprogress]) (by simp)
      (fun l' h => by cases h) (by rw [hprogress]; exact id)

theorem turn_of_body (hcall : c.call? l.id = some l) (hform : l.call.form? = some form)
    (body : AnswerBody) : c.Turn t (.body l.id body) l.id := by
  cases hprogress : l.progress with
  | loginAnswered status => exact turn_of_endsLogin (.body hcall hprogress body) hform
  | answered status =>
    have hstep : c.step t (.body l.id body) =
        (c.finish l (outcomeOf l.call status body t.stamp), []) := by
      simp only [step, hcall, hprogress]
    exact turn_of_put hstep (.concluded hcall hprogress body)
  | _ =>
    exact turn_of_deaf hcall (by simp only [step, hcall, hprogress]) (by simp)
      (fun l' h => by cases h) (by rw [hprogress]; exact id)

theorem turn_of_failure (hcall : c.call? l.id = some l) (hform : l.call.form? = some form)
    (failure : SendFailure) : c.Turn t (.failure l.id failure) l.id := by
  cases hprogress : l.progress with
  | loginSent => exact turn_of_endsLogin (.failure hcall hprogress failure) hform
  | sent sid =>
    have hstep : c.step t (.failure l.id failure) = (c.finish l (.error failure.error), []) := by
      simp only [step, hcall, hprogress]
    exact turn_of_put hstep (.failed hcall hprogress failure)
  | _ =>
    exact turn_of_deaf hcall (by simp only [step, hcall, hprogress]) (by simp)
      (fun l' h => by cases h) (by rw [hprogress]; exact id)

/-- An event about a call that is no logout, and that is not given up, moves the call, or the call
does not wait for it. -/
theorem turn_of_about {id : Nat} (habout : e.about? = some id) (habandon : e ≠ .abandon id)
    (hstart : ∀ call, e = .start id call → call.form?.isSome)
    (hcalls : ∀ l, (∀ call, e ≠ .start id call) → c.call? id = some l → l.call.form?.isSome) :
    c.Turn t e id := by
  -- Every event but a start is about a call that is there, or about nobody.
  have hthere : (∀ call, e ≠ .start id call) → (c.call? id = none → c.step t e = (c, [])) →
      (c.call? id = none → ∀ l, ¬ c.Checks e l) → (∀ l form, l.id = id →
        c.call? l.id = some l → l.call.form? = some form → c.Turn t e l.id) → c.Turn t e id := by
    intro hstart hnone hquiet hsome
    cases hcall : c.call? id with
    | none => exact .idle (hnone hcall) hstart (hquiet hcall) (by simp [hcall])
    | some l =>
      obtain rfl := id_of_call? hcall
      obtain ⟨form, hform⟩ := Option.isSome_iff_exists.mp (hcalls l hstart hcall)
      exact hsome l form rfl hcall hform
  cases e with
  | start i call =>
    obtain rfl : i = id := Option.some.inj habout
    obtain ⟨form, hform⟩ := Option.isSome_iff_exists.mp (hstart call rfl)
    exact turn_of_start c t i hform
  | proceed i =>
    obtain rfl : i = id := Option.some.inj habout
    refine hthere (by simp) (fun hnone => by simp only [step, hnone])
      (fun hnone l h => by cases hnone.symm.trans h.of_proceed.1) ?_
    rintro l form rfl hcall hform
    exact turn_of_proceed hcall hform
  | status i status =>
    obtain rfl : i = id := Option.some.inj habout
    refine hthere (by simp) (fun hnone => by simp only [step, hnone]) (fun _ l h => by cases h) ?_
    rintro l form rfl hcall -
    exact turn_of_status hcall status
  | body i body =>
    obtain rfl : i = id := Option.some.inj habout
    refine hthere (by simp) (fun hnone => by simp only [step, hnone]) (fun _ l h => by cases h) ?_
    rintro l form rfl hcall hform
    exact turn_of_body hcall hform body
  | failure i failure =>
    obtain rfl : i = id := Option.some.inj habout
    refine hthere (by simp) (fun hnone => by simp only [step, hnone]) (fun _ l h => by cases h) ?_
    rintro l form rfl hcall hform
    exact turn_of_failure hcall hform failure
  | abandon i =>
    obtain rfl : i = id := Option.some.inj habout
    exact absurd rfl habandon
  | configure settings => cases habout

/-- The call that an event is about, as it is before: it comes to the client just then, or it is
there. -/
inductive Subject (c : NodeClient) (e : ClientEvent) (l : LiveCall) : Prop where
  | comes (he : e = .start l.id l.call) (hsnapshot : l.snapshot = c.current)
      (hgate : l.progress = .atGate)
  | there (hcall : c.call? l.id = some l) (hstart : ∀ call, e ≠ .start l.id call)

theorem Subject.unique {l' : LiveCall} (h : c.Subject e l) (h' : c.Subject e l')
    (hid : l.id = l'.id) : l = l' := by
  obtain ⟨id, call, snapshot, progress⟩ := l
  obtain ⟨id', call', snapshot', progress'⟩ := l'
  obtain rfl : id = id' := hid
  cases h with
  | comes he hsnapshot hgate =>
    cases h' with
    | comes he' hsnapshot' hgate' =>
      obtain ⟨-, rfl⟩ := ClientEvent.start.inj (he.symm.trans he')
      obtain rfl : snapshot = c.current := hsnapshot
      obtain rfl : snapshot' = c.current := hsnapshot'
      obtain rfl : progress = .atGate := hgate
      obtain rfl : progress' = .atGate := hgate'
      rfl
    | there _ hstart => exact absurd he (hstart call)
  | there hcall hstart =>
    cases h' with
    | comes he' _ _ => exact absurd he' (hstart call')
    | there hcall' _ => exact Option.some.inj (hcall.symm.trans hcall')

theorem Checks.subject (h : c.Checks e l) : c.Subject e l := by
  cases h with
  | start _ _ => exact .comes rfl rfl rfl
  | turn hcall _ _ => exact .there hcall (by simp)

theorem EndsLogin.subject {result : Except NodeError (String × Span)}
    (h : c.EndsLogin e l result) : c.Subject e l := by
  cases h with
  | body hcall _ _ | failure hcall _ _ => exact .there (id_of_call? hcall ▸ hcall) (by simp)

theorem Advance.subject {p : Progress l.call.kind} {sent : List HttpRequest}
    (h : c.Advance t e l p sent) : c.Subject e l := by
  cases h with
  | refused _ _ => exact .comes rfl rfl rfl
  | waits h _ | logsIn h _ _ | unable h _ _ => exact h.subject
  | asks h _ _ | unwritten h _ _ =>
    cases h with
    | found h => exact h.checks.subject
    | login h => exact h.subject
  | loginEnded h => exact h.subject
  | loginAnswered hcall _ | answered hcall _ _ | done hcall _ _ _ | failed hcall _ _
  | concluded hcall _ _ => exact .there hcall (by simp)

/-- A call that is given up is not there any more. -/
theorem call?_step_abandon (c : NodeClient) (t : Moment) (i id : Nat) :
    (c.step t (.abandon i)).1.call? id = if i = id then none else c.call? id :=
  find?_filter_key LiveCall.id i id c.calls

theorem Placed.call_of_ne {c' : NodeClient} (h : Placed c c' l) {id : Nat} (hne : l.id ≠ id) :
    c'.call? id = c.call? id :=
  (h.call id).trans (if_neg hne)

/-- An event leaves the calls that it is not about. -/
theorem call?_step_of_ne (hc : c.Formed) (t : Moment) {id : Nat} (he : e.about? ≠ some id) :
    (c.step t e).1.call? id = c.call? id := by
  have hne : ∀ {i}, e.about? = some i → i ≠ id := fun habout hid => he (hid ▸ habout)
  cases e with
  | start i call =>
    cases hform : call.form? with
    | none =>
      obtain rfl := NodeCall.eq_logout hform
      obtain ⟨p, -, hplaced, -⟩ := c.startLogout_spec i
      exact hplaced.call_of_ne (hne rfl)
    | some form =>
      obtain ⟨p, hplaced, -⟩ := c.goes_start i call t.now (by rw [hform]; rfl)
      exact hplaced.call_of_ne (hne rfl)
  | proceed i =>
    simp only [step]
    split
    · next l hcall =>
      split
      · next hgate =>
        obtain rfl := id_of_call? hcall
        obtain ⟨p, hplaced, -⟩ := goes_proceed t.now hcall hgate
          (hc _ l hcall (by rw [hgate]; trivial))
        exact hplaced.call_of_ne (hne rfl)
      · rfl
    · rfl
  | status i status =>
    simp only [step]
    split
    · next l hcall =>
      obtain rfl := id_of_call? hcall
      split
      · exact (placed_put c { l with progress := .loginAnswered status }).call_of_ne (hne rfl)
      · next sid _ =>
        obtain ⟨session, p, -, hplaced, -⟩ := c.onStatus_spec l sid status t.stamp
        exact hplaced.call_of_ne (hne rfl)
      · rfl
    · rfl
  | body i body =>
    simp only [step]
    split
    · next l hcall =>
      obtain rfl := id_of_call? hcall
      split
      · next status hread =>
        obtain ⟨session, p, -, hplaced, -⟩ := c.endLogin_spec l
          (loginResult c.options status body) t.now (hc _ l hcall (by rw [hread]; trivial))
        exact hplaced.call_of_ne (hne rfl)
      · next status _ =>
        exact (placed_put c { l with
          progress := .finished (outcomeOf l.call status body t.stamp) }).call_of_ne (hne rfl)
      · rfl
    · rfl
  | failure i failure =>
    cases hcall : c.call? i with
    | none => simp only [step, hcall]
    | some l =>
      obtain rfl := id_of_call? hcall
      cases hprogress : l.progress with
      | loginSent =>
        rw [step_of_endsLogin (.failure hcall hprogress failure), endLogin_error]
        exact (placed_put (c.leaveGate l.id) { l with progress := .finished _ }).call_of_ne
          (hne rfl)
      | sent sid =>
        simp only [step, hcall, hprogress]
        exact (placed_put c { l with progress := .finished _ }).call_of_ne (hne rfl)
      | _ => simp only [step, hcall, hprogress]
  | abandon i => exact (call?_step_abandon c t i id).trans (if_neg (hne rfl))
  | configure settings => rfl

end NodeClient

end FilterFleet
