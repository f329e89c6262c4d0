import FilterFleet.Proofs.Client.Step
import FilterFleet.Proofs.Client.Wire

/-!
# Settings and sessions keep to their generation

Calls of a client run side by side while its settings are replaced, and logins of older settings may
come back late. Every call goes on with the settings in force when it was started: what the client
holds of it is what the log tells of it (`Consistent`). So a login that the client sends carries the
password of the settings that it is addressed to, and any other request that it sends for a call
goes to the address of the settings of the call, with a session that a login under the same
generation has brought (`LoggedWire.requests_keep_to_generation`). What a redirect makes of such a
request goes to wherever the answer leads (`LoggedWire.login_follows_redirect`).
-/

namespace FilterFleet

open ClientLog WireLog

/-- What a client holds of a call is what the log tells of it. -/
structure LiveCall.Follows (first : NodeSettings) (log : ClientLog) (id : Nat) (l : LiveCall) :
    Prop where
  id_eq : l.id = id
  started : started? first log id = some (l.call, l.snapshot)
  /-- A logout never waits for a login. -/
  form : l.progress.IsBefore → l.call.form?.isSome
  loginSent : l.progress = .loginSent → LoginSent first id l.snapshot.generation log
  loginAnswered : ∀ status, l.progress = .loginAnswered status →
    LoginAnswered first id l.snapshot.generation status log

namespace NodeClient

/-- A client holds what its log tells: the settings in force, the calls, and a session that was
obtained under its generation. -/
structure Consistent (first : NodeSettings) (log : ClientLog) (c : NodeClient) : Prop where
  current : c.current = inForce first log
  calls : ∀ id l, c.call? id = some l → l.Follows first log id
  session : ∀ s, c.session = some s → Obtained first s.generation s.sid log

variable {first : NodeSettings} {log : ClientLog} {x : LogEntry} {c : NodeClient}

/-- An event that is no start, and that the call does not wait for, leaves what the log tells of the
call. -/
theorem follows_of_stray {id : Nat} {l : LiveCall} (h : l.Follows first log id)
    (hstart : ∀ call, x.event ≠ .start id call)
    (hsent : l.progress = .loginSent → ¬ x.event.EndsSending id)
    (hread : ∀ status, l.progress = .loginAnswered status → ¬ x.event.EndsReading id) :
    l.Follows first (x :: log) id :=
  ⟨h.id_eq, (started?_cons hstart).trans h.started, h.form,
    fun hp => .later (hsent hp) (h.loginSent hp),
    fun status hp => .later (hread status hp) (h.loginAnswered status hp)⟩

/-- So does an event that is about another call, or about the settings. -/
theorem follows_cons {id : Nat} {l : LiveCall} (h : l.Follows first log id)
    (hx : x.event.about? ≠ some id) : l.Follows first (x :: log) id :=
  follows_of_stray h (fun call hcall => hx (by rw [hcall]; rfl)) (fun _ hends => hx hends.about)
    fun _ _ hends => hx hends.about

/-- Settling a call in a place behind its login. -/
theorem follows_settled {id : Nat} {l : LiveCall} (hid : l.id = id)
    (hstarted : started? first log id = some (l.call, l.snapshot)) {p : Progress l.call.kind}
    (hp : ¬ p.IsBefore) : LiveCall.Follows first log id { l with progress := p } := by
  refine ⟨hid, hstarted, fun h => absurd h hp, fun h => ?_, fun status h => ?_⟩
  · have hsent : p = .loginSent := h
    rw [hsent] at hp
    exact absurd trivial hp
  · have hanswered : p = .loginAnswered status := h
    rw [hanswered] at hp
    exact absurd trivial hp

/-- An event that is about one call keeps the client consistent, if it does so for this call and for
the session. -/
theorem Consistent.of_placed (hc : Consistent first log c) {c' : NodeClient} {l : LiveCall}
    {session : SessionCache} (habout : x.event.about? = some l.id)
    (hplaced : Placed { c with session } c' l) (hl : l.Follows first (x :: log) l.id)
    (hsession : ∀ s, session = some s → c.session = some s ∨
      Obtained first s.generation s.sid (x :: log)) : Consistent first (x :: log) c' := by
  refine ⟨?_, fun other l' hl' => ?_, fun s hs => ?_⟩
  · rw [hplaced.current, inForce_cons fun settings h => by rw [h] at habout; cases habout]
    exact hc.current
  · rw [hplaced.call] at hl'
    split at hl'
    · next hother =>
      obtain rfl := Option.some.inj hl'
      exact hother ▸ hl
    · next hother =>
      refine follows_cons (hc.calls other l' hl') fun h => ?_
      exact hother (Option.some.inj (habout.symm.trans h))
  · rw [hplaced.session] at hs
    rcases hsession s hs with h | h
    · exact .later (hc.session s h)
    · exact h

/-! ## What is sent -/

/-- A request is what a call may send: a login under the settings of the call, or a request under
them with a session of their generation. -/
def Proper (first : NodeSettings) (log : ClientLog) (id : Nat) (r : HttpRequest) : Prop :=
  ∃ call snapshot, started? first log id = some (call, snapshot) ∧
    (r.sid = none → IsLogin snapshot.settings r) ∧
    (call.form?.isSome → ∀ sid, r.sid = some sid →
      IsRequest snapshot.settings call sid r ∧ Obtained first snapshot.generation sid log)

theorem proper_login {id : Nat} {call : NodeCall} {snapshot : Snapshot} {r : HttpRequest}
    (hstarted : started? first log id = some (call, snapshot))
    (hr : IsLogin snapshot.settings r) : Proper first log id r := by
  refine ⟨call, snapshot, hstarted, fun _ => hr, fun _ sid hsid => ?_⟩
  cases hr.sid.symm.trans hsid

theorem proper_request {id : Nat} {call : NodeCall} {snapshot : Snapshot} {r : HttpRequest}
    {sid : String} (hstarted : started? first log id = some (call, snapshot))
    (hr : IsRequest snapshot.settings call sid r)
    (hobtained : Obtained first snapshot.generation sid log) : Proper first log id r := by
  refine ⟨call, snapshot, hstarted, fun hnone => ?_, fun _ sid' hsid => ?_⟩
  · cases hnone.symm.trans hr.sid
  · obtain rfl := Option.some.inj (hr.sid.symm.trans hsid)
    exact ⟨hr, hobtained⟩

/-- What an event about a call must do: the client stays consistent, and what was sent at the event
is what the call may send. -/
def Keeps (first : NodeSettings) (log : ClientLog) (t : Moment) (e : ClientEvent) (id : Nat)
    (out : NodeClient × List HttpRequest) : Prop :=
  Consistent first (⟨t, e, out.2⟩ :: log) out.1 ∧
    ∀ r ∈ out.2, Proper first (⟨t, e, out.2⟩ :: log) id r

/-- A call that comes to the gate or goes on from there. -/
theorem Consistent.goes (hc : Consistent first log c) {l : LiveCall} {t : Moment} {e : ClientEvent}
    {out : NodeClient × List HttpRequest} (h : Goes c l out) (habout : e.about? = some l.id)
    (hstarted : started? first (⟨t, e, out.2⟩ :: log) l.id = some (l.call, l.snapshot))
    (hform : l.call.form?.isSome) : Keeps first log t e l.id out := by
  obtain ⟨p, hplaced, hsent, hp⟩ := h
  have hsession : Placed { c with session := c.session } out.1 { l with progress := p } := hplaced
  refine ⟨hc.of_placed (l := { l with progress := p }) habout hsession ?_ fun s hs => .inl hs, ?_⟩
  · refine ⟨rfl, hstarted, fun _ => hform, fun hlogin => ?_, fun status hanswered => ?_⟩
    · have hsent : p = .loginSent := hlogin
      rw [hsent] at hp
      rcases hp trivial with h | ⟨-, hlogin⟩
      · cases h
      · exact .sent habout hstarted rfl hlogin
    · have hread : p = .loginAnswered status := hanswered
      rw [hread] at hp
      rcases hp trivial with h | ⟨h, -⟩ <;> cases h
  · intro r hr
    rcases hsent r hr with hlogin | ⟨s, hs, hgen, hrequest⟩
    · exact proper_login hstarted hlogin
    · exact proper_request hstarted hrequest (hgen ▸ .later (hc.session s hs))

/-! ## Every event -/

theorem keeps_quiet {t : Moment} {e : ClientEvent} {id : Nat} {c' : NodeClient}
    (h : Consistent first (⟨t, e, []⟩ :: log) c') : Keeps first log t e id (c', []) :=
  ⟨h, by simp⟩

/-- An answer that no call waits for changes nothing. -/
theorem Consistent.stray (hc : Consistent first log c) {t : Moment} {e : ClientEvent} {id : Nat}
    (habout : e.about? = some id) (hstart : ∀ call, e ≠ .start id call)
    (hcall : ∀ l, c.call? id = some l → (l.progress = .loginSent → ¬ e.EndsSending id) ∧
      ∀ status, l.progress = .loginAnswered status → ¬ e.EndsReading id) :
    Keeps first log t e id (c, []) := by
  refine keeps_quiet ⟨?_, fun other l hl => ?_, fun s hs => .later (hc.session s hs)⟩
  · rw [inForce_cons fun settings (h : e = _) => by rw [h] at habout; cases habout]
    exact hc.current
  · have hfollows := hc.calls other l hl
    by_cases hother : other = id
    · subst hother
      obtain ⟨hsent, hread⟩ := hcall l hl
      exact follows_of_stray hfollows hstart hsent hread
    · refine follows_cons hfollows fun h => ?_
      exact hother (Option.some.inj (h.symm.trans habout))

theorem Consistent.stray_none (hc : Consistent first log c) {t : Moment} {e : ClientEvent}
    {id : Nat} (habout : e.about? = some id) (hstart : ∀ call, e ≠ .start id call)
    (hnone : c.call? id = none) : Keeps first log t e id (c, []) := by
  refine hc.stray habout hstart fun l hl => ?_
  cases hnone.symm.trans hl

theorem Consistent.stray_call (hc : Consistent first log c) {t : Moment} {e : ClientEvent}
    {id : Nat} {l : LiveCall} (habout : e.about? = some id) (hstart : ∀ call, e ≠ .start id call)
    (hcall : c.call? id = some l) (hsent : l.progress = .loginSent → ¬ e.EndsSending id)
    (hread : ∀ status, l.progress = .loginAnswered status → ¬ e.EndsReading id) :
    Keeps first log t e id (c, []) := by
  refine hc.stray habout hstart fun l' hl' => ?_
  obtain rfl := Option.some.inj (hcall.symm.trans hl')
  exact ⟨hsent, hread⟩

/-- A call is settled in a place behind its login, and nothing is sent. -/
theorem Consistent.settled (hc : Consistent first log c) {t : Moment} {e : ClientEvent}
    {l : LiveCall} {c' : NodeClient} (session : SessionCache) (p : Progress l.call.kind)
    (habout : e.about? = some l.id) (hp : ¬ p.IsBefore)
    (hstarted : started? first (⟨t, e, []⟩ :: log) l.id = some (l.call, l.snapshot))
    (hplaced : Placed { c with session } c' { l with progress := p })
    (hsession : ∀ s, session = some s → c.session = some s) :
    Keeps first log t e l.id (c', []) :=
  keeps_quiet (hc.of_placed (l := { l with progress := p }) habout hplaced
    (follows_settled rfl hstarted hp) fun s hs => .inl (hsession s hs))

theorem Consistent.start (hc : Consistent first log c) (t : Moment) (id : Nat) (call : NodeCall) :
    Keeps first log t (.start id call) id (c.step t (.start id call)) := by
  have hstarted : ∀ sent, started? first (⟨t, .start id call, sent⟩ :: log) id =
      some (call, c.current) := fun sent => hc.current ▸ started?_start rfl
  rw [step]
  cases hform : call.form? with
  | some form =>
    have hsome : call.form?.isSome := by rw [hform]; rfl
    exact hc.goes (c.goes_start id call t.now hsome) rfl (hstarted _) hsome
  | none =>
    obtain rfl := NodeCall.eq_logout hform
    have hlogout : c.start id ⟨.logout, ()⟩ t.now = c.startLogout id := rfl
    rw [hlogout]
    obtain ⟨p, hp, hplaced, hsent⟩ := c.startLogout_spec id
    refine ⟨hc.of_placed rfl hplaced (follows_settled rfl (hstarted _) hp) fun s hs => ?_, ?_⟩
    · cases hs
    · intro r hr
      exact ⟨_, _, hstarted _, fun h => absurd h (hsent r hr), fun h => by cases h⟩

theorem Consistent.proceed (hc : Consistent first log c) (t : Moment) (id : Nat) :
    Keeps first log t (.proceed id) id (c.step t (.proceed id)) := by
  have hstray : Keeps first log t (.proceed id) id (c, []) :=
    hc.stray rfl (fun _ h => by cases h) fun _ _ => ⟨fun _ h => h, fun _ _ h => h⟩
  simp only [step]
  split
  · next l hcall =>
    split
    · next hgate =>
      have hl := hc.calls id l hcall
      obtain rfl := hl.id_eq
      have hform : l.call.form?.isSome := hl.form (by rw [hgate]; trivial)
      refine hc.goes (goes_proceed t.now hcall hgate hform) rfl ?_ hform
      exact (started?_cons fun _ h => by cases h).trans hl.started
    · exact hstray
  · exact hstray

theorem Consistent.status (hc : Consistent first log c) (t : Moment) (id : Nat) (status : UInt16) :
    Keeps first log t (.status id status) id (c.step t (.status id status)) := by
  have hstart : ∀ call, ClientEvent.status id status ≠ .start id call := fun _ h => by cases h
  simp only [step]
  split
  · next l hcall =>
    have hl := hc.calls id l hcall
    obtain rfl := hl.id_eq
    have hstarted : started? first (⟨t, .status l.id status, []⟩ :: log) l.id =
        some (l.call, l.snapshot) := (started?_cons hstart).trans hl.started
    split
    · next hsent =>
      have hform : l.call.form?.isSome := hl.form (by rw [hsent]; trivial)
      have hput : Placed { c with session := c.session }
          (c.put { l with progress := .loginAnswered status })
          { l with progress := .loginAnswered status } := placed_put c _
      refine keeps_quiet (hc.of_placed (l := { l with progress := .loginAnswered status }) rfl
        hput ?_ fun s hs => .inl hs)
      refine ⟨rfl, hstarted, fun _ => hform, fun h => ?_, fun status' h => ?_⟩
      · cases h
      · obtain rfl := Progress.loginAnswered.inj h
        exact .answered rfl (hl.loginSent hsent)
    · next sid _ =>
      obtain ⟨session, p, hp, hplaced, hsession⟩ := c.onStatus_spec l sid status t.stamp
      exact hc.settled session p rfl hp hstarted hplaced hsession
    · next hsent _ =>
      exact hc.stray_call rfl hstart hcall (fun hp => absurd hp hsent) fun _ _ h => h
  · next hnone => exact hc.stray_none rfl hstart hnone

theorem Consistent.body (hc : Consistent first log c) (t : Moment) (id : Nat)
    (body : AnswerBody) :
    Keeps first log t (.body id body) id (c.step t (.body id body)) := by
  have hstart : ∀ call, ClientEvent.body id body ≠ .start id call := fun _ h => by cases h
  simp only [step]
  split
  · next l hcall =>
    have hl := hc.calls id l hcall
    obtain rfl := hl.id_eq
    have hstarted : ∀ sent, started? first (⟨t, .body l.id body, sent⟩ :: log) l.id =
        some (l.call, l.snapshot) := fun _ => (started?_cons hstart).trans hl.started
    split
    · next status hread =>
      have hform : l.call.form?.isSome := hl.form (by rw [hread]; trivial)
      obtain ⟨session, p, hp, hplaced, hsession, hsent⟩ :=
        c.endLogin_spec l (loginResult c.options status body) t.now hform
      -- A session that the login has brought was obtained under the generation of the call.
      have hobtained : ∀ sid validity sent,
          loginResult c.options status body = .ok (sid, validity) →
          Obtained first l.snapshot.generation sid (⟨t, .body l.id body, sent⟩ :: log) := by
        intro sid validity sent hok
        obtain ⟨rfl, answer, hanswer, hsid, hvalid⟩ := loginResult_eq_ok hok
        exact .returned rfl (hl.loginAnswered 200 hread) hanswer hsid hvalid
      refine ⟨hc.of_placed (l := { l with progress := p }) rfl hplaced
        (follows_settled rfl (hstarted _) hp) fun s hs => ?_, fun r hr => ?_⟩
      · rcases hsession s hs with h | ⟨validity, hok, hgen⟩
        · exact .inl h
        · exact .inr (hgen ▸ hobtained s.sid validity _ hok)
      · obtain ⟨sid, validity, hok, hrequest⟩ := hsent r hr
        exact proper_request (hstarted _) hrequest (hobtained sid validity _ hok)
    · next status _ =>
      exact hc.settled c.session (.finished _) rfl (fun h => h) (hstarted []) (placed_put c _)
        fun s hs => hs
    · next hread _ =>
      exact hc.stray_call rfl hstart hcall (fun _ h => h) fun status hp => absurd hp (hread status)
  · next hnone => exact hc.stray_none rfl hstart hnone

theorem Consistent.failure (hc : Consistent first log c) (t : Moment) (id : Nat)
    (failure : SendFailure) :
    Keeps first log t (.failure id failure) id (c.step t (.failure id failure)) := by
  have hstart : ∀ call, ClientEvent.failure id failure ≠ .start id call := fun _ h => by cases h
  simp only [step]
  split
  · next l hcall =>
    have hl := hc.calls id l hcall
    obtain rfl := hl.id_eq
    have hstarted : started? first (⟨t, .failure l.id failure, []⟩ :: log) l.id =
        some (l.call, l.snapshot) := (started?_cons hstart).trans hl.started
    have hend : ∀ e, Keeps first log t (.failure l.id failure) l.id
        (c.endLogin l (.error e) t.now) := fun e =>
      hc.settled c.session (.finished _) rfl (fun h => h) hstarted
        (placed_put (c.leaveGate l.id) _).of_leaveGate fun s hs => hs
    have hfinish : ∀ outcome, Keeps first log t (.failure l.id failure) l.id
        (c.finish l outcome, []) := fun outcome =>
      hc.settled c.session (.finished _) rfl (fun h => h) hstarted (placed_put c _) fun s hs => hs
    split
    · exact hend _
    · exact hfinish _
    · next hsent _ =>
      exact hc.stray_call rfl hstart hcall (fun hp => absurd hp hsent) fun _ _ h => h
  · next hnone => exact hc.stray_none rfl hstart hnone

theorem Consistent.abandon (hc : Consistent first log c) (t : Moment) (id : Nat) :
    Keeps first log t (.abandon id) id (c.step t (.abandon id)) := by
  refine keeps_quiet ⟨hc.current, fun other l hl => ?_, fun s hs => .later (hc.session s hs)⟩
  have hcall := (find?_filter_key LiveCall.id id other c.calls).symm.trans hl
  split at hcall
  · cases hcall
  · next hother =>
    exact follows_cons (hc.calls other l hcall) fun h => hother (Option.some.inj h)

theorem Consistent.configure (hc : Consistent first log c) (t : Moment) (settings : NodeSettings) :
    Consistent first (⟨t, .configure settings, []⟩ :: log) (c.step t (.configure settings)).1 := by
  refine ⟨?_, fun id l hl => ?_, fun s hs => ?_⟩
  · simp only [NodeClient.step, hc.current]
    rfl
  · exact follows_cons (hc.calls id l hl) fun h => by cases h
  · cases hs

/-- What a step keeps, and what is sent at it. -/
theorem Consistent.step (hc : Consistent first log c) (t : Moment) (e : ClientEvent) :
    Consistent first (⟨t, e, (c.step t e).2⟩ :: log) (c.step t e).1 ∧
      ∀ r ∈ (c.step t e).2, ∃ id, e.about? = some id ∧
        Proper first (⟨t, e, (c.step t e).2⟩ :: log) id r := by
  have hkeeps : ∀ id, e.about? = some id → Keeps first log t e id (c.step t e) →
      Consistent first (⟨t, e, (c.step t e).2⟩ :: log) (c.step t e).1 ∧
        ∀ r ∈ (c.step t e).2, ∃ id, e.about? = some id ∧
          Proper first (⟨t, e, (c.step t e).2⟩ :: log) id r :=
    fun id habout h => ⟨h.1, fun r hr => ⟨id, habout, h.2 r hr⟩⟩
  cases e with
  | start id call => exact hkeeps id rfl (hc.start t id call)
  | proceed id => exact hkeeps id rfl (hc.proceed t id)
  | status id status => exact hkeeps id rfl (hc.status t id status)
  | body id body => exact hkeeps id rfl (hc.body t id body)
  | failure id failure => exact hkeeps id rfl (hc.failure t id failure)
  | abandon id => exact hkeeps id rfl (hc.abandon t id)
  | configure settings => exact ⟨hc.configure t settings, by simp [NodeClient.step]⟩

end NodeClient

/-! ## Every run -/

/-- Every request that was sent at an entry of a log is one that the call of the entry may send. -/
def LogEntry.Proper (first : NodeSettings) (x : LogEntry) (before : ClientLog) : Prop :=
  ∀ r ∈ x.sent, ∃ id, x.event.about? = some id ∧ NodeClient.Proper first (x :: before) id r

namespace LoggedClient

/-- What a whole run keeps. -/
theorem proper_run {first : NodeSettings} {s : LoggedClient}
    (hs : s.client.Consistent first s.log) (hlog : Throughout (LogEntry.Proper first) s.log)
    (events : List (Moment × ClientEvent)) :
    Throughout (LogEntry.Proper first) (s.run events).log := by
  induction events generalizing s with
  | nil => exact hlog
  | cons e rest ih =>
    obtain ⟨hstep, hsent⟩ := hs.step e.1 e.2
    exact ih (s := s.step e.1 e.2) hstep ⟨hsent, hlog⟩

theorem consistent_new {settings : NodeSettings} {options : ClientOptions} {c : NodeClient}
    (h : NodeClient.new? settings options = .ok c) : c.Consistent settings [] := by
  unfold NodeClient.new? at h
  split at h
  · obtain rfl := Except.ok.inj h
    refine ⟨rfl, fun id l hl => ?_, fun s hs => ?_⟩
    · cases hl
    · cases hs
  · cases h

end LoggedClient

/-- What a call may send it may send later, unless it is started anew. -/
theorem NodeClient.Proper.cons {first : NodeSettings} {log : ClientLog} {id : Nat} {r : HttpRequest}
    (h : NodeClient.Proper first log id r) {x : LogEntry}
    (hx : ∀ call, x.event ≠ .start id call) : NodeClient.Proper first (x :: log) id r := by
  obtain ⟨call, snapshot, hstarted, hlogin, hrequest⟩ := h
  refine ⟨call, snapshot, (started?_cons hx).trans hstarted, hlogin, fun hform sid hsid => ?_⟩
  obtain ⟨hr, hobtained⟩ := hrequest hform sid hsid
  exact ⟨hr, .later hobtained⟩

namespace LoggedWire

/-- What a client has sent for a call it may send, at any time of a run on the wire. -/
theorem proper_of_exchange {settings : NodeSettings} {options : ClientOptions} {c : NodeClient}
    (hnew : NodeClient.new? settings options = .ok c) {events : List (Moment × WireEvent)}
    {later before : WireLog} (hlog : ((fresh c).run events).log = later ++ before) {id : Nat}
    {y : Exchange} (hy : y ∈ exchanges (told before) id) :
    NodeClient.Proper settings (told before) id y.request :=
  holds_of_exchange (P := NodeClient.Proper settings) (fun _ _ _ _ hx h => h.cons hx)
    (LoggedClient.proper_run (s := ⟨c, []⟩) (LoggedClient.consistent_new hnew) trivial) hlog hy

/-- **Settings and sessions of different generations never mix.**  In every run of a client on the
wire every request stems from one that the client has sent itself for a call: it is this request, or
redirects have made it of this request, and it goes to where the latest of them leads. A login that
the client sends carries the password of the settings that it is addressed to, which were in force
when its call was started; any other request that it sends for a call but a logout is addressed to
the settings that were in force when the call was started, and its session was brought by a login
that was sent under the same generation of the settings. -/
theorem requests_keep_to_generation {settings : NodeSettings} {options : ClientOptions}
    {c : NodeClient} (hnew : NodeClient.new? settings options = .ok c)
    (events : List (Moment × WireEvent)) {later before : WireLog} {x : WireEntry}
    {r : HttpRequest} (hlog : ((fresh c).run events).log = later ++ x :: before)
    (hr : r ∈ x.sent) :
    ∃ id origin call snapshot, x.StemsFrom id origin r ∧
      started? settings (told (x :: before)) id = some (call, snapshot) ∧
      (origin.sid = none → NodeClient.IsLogin snapshot.settings origin) ∧
      (call.form?.isSome → ∀ sid, origin.sid = some sid →
        NodeClient.IsRequest snapshot.settings call sid origin ∧
          Obtained settings snapshot.generation sid (told (x :: before))) := by
  obtain ⟨id, origin, horigin, hstems⟩ := (stems_run c events).of_split hlog r hr
  obtain ⟨call, snapshot, hstarted, hlogin, hrequest⟩ := proper_of_exchange hnew hlog horigin
  exact ⟨id, origin, call, snapshot, hstems, hstarted, hlogin, hrequest⟩

/-! ## A login that comes back late -/

/-- A client logs in for a call, and moves to another address before the login has come back. -/
def moving : List (Moment × WireEvent) :=
  [(⟨0, ⟨0⟩⟩, .start 0 ⟨.blockingStatus, ()⟩),
    (⟨1, ⟨1⟩⟩, .configure (.basic ⟨1⟩ "a" "new.lan" "two")),
    (⟨2, ⟨2⟩⟩, .answer 0 200 none),
    (⟨3, ⟨3⟩⟩, .body 0 (loginAnswer "x" 60))]

/-- The call goes on at the old address, with the session of its late login. -/
theorem requests_keep_to_generation_of_late_login :
    let old : NodeSettings := .basic ⟨1⟩ "a" "old.lan" "one"
    let c : NodeClient := ⟨.standard, ⟨0, old⟩, none, [], []⟩
    NodeClient.new? old .standard = .ok c ∧
      ∃ x before, ((fresh c).run moving).log = x :: before ∧
        ∃ r ∈ x.sent, NodeClient.IsRequest old ⟨.blockingStatus, ()⟩ "x" r ∧
          Obtained old 0 "x" (told (x :: before)) := by
  intro old c
  have hnew : NodeClient.new? old .standard = .ok c := if_pos (by decide +kernel)
  have hlog : ∃ x before, ((fresh c).run moving).log = [] ++ x :: before ∧
      x.handling = .tell (.body 0 (loginAnswer "x" 60)) ∧
      started? old (told (x :: before)) 0 = some (⟨.blockingStatus, ()⟩, ⟨0, old⟩) ∧
      (x.sent.any fun r => r.sid == some "x") = true :=
    ⟨_, _, rfl, rfl, by decide +kernel, by decide +kernel⟩
  obtain ⟨x, before, hlog, hhandling, hstarted, hany⟩ := hlog
  obtain ⟨r, hr, hsid⟩ := List.any_eq_true.mp hany
  obtain ⟨id, origin, call, snapshot, hstems, hstarted', -, hrequest⟩ :=
    requests_keep_to_generation hnew moving hlog hr
  obtain ⟨rfl, habout⟩ := hstems.of_tell hhandling
  obtain rfl : 0 = id := Option.some.inj habout
  obtain ⟨rfl, rfl⟩ := Prod.mk.inj (Option.some.inj (hstarted.symm.trans hstarted'))
  exact ⟨hnew, x, before, hlog, r, hr, hrequest rfl "x" (by simpa using hsid)⟩

/-! ## A login that is redirected -/

/-- A client logs in for a call, and the node redirects the login to another host. -/
def beingRedirected : List (Moment × WireEvent) :=
  [(⟨0, ⟨0⟩⟩, .start 0 ⟨.blockingStatus, ()⟩),
    (⟨1, ⟨1⟩⟩, .answer 0 307 (some (.resource elsewhere)))]

/-- **A redirected login leaves its settings.**  The password is sent again, to a host that is in no
settings. -/
theorem login_follows_redirect :
    let settings : NodeSettings := .basic ⟨1⟩ "a" "a.lan" "one"
    let c : NodeClient := ⟨.standard, ⟨0, settings⟩, none, [], []⟩
    NodeClient.new? settings .standard = .ok c ∧
      ∃ x before, ((fresh c).run beingRedirected).log = x :: before ∧
        inForce settings (told (x :: before)) = ⟨0, settings⟩ ∧
        ∃ r ∈ x.sent, r.method = .post ∧ r.sid = none ∧
          r.body.map Json.text = some "\x7b\"password\":\"one\"\x7d" ∧
          r.url = elsewhere ∧ ¬ settings.Reaches r.url := by
  intro settings c
  have hbase : settings.baseAddress.map (·.host) = .ok ['a', '.', 'l', 'a', 'n'] := by
    decide +kernel
  have hlog : ∃ x before, ((fresh c).run beingRedirected).log = x :: before ∧
      inForce settings (told (x :: before)) = ⟨0, settings⟩ ∧
      (x.sent.any fun r => r.method == .post && r.sid == none && r.url == elsewhere &&
        r.body.map Json.text == some "\x7b\"password\":\"one\"\x7d") = true :=
    ⟨_, _, rfl, by decide +kernel, by decide +kernel⟩
  obtain ⟨x, before, hlog, hforce, hany⟩ := hlog
  obtain ⟨r, hr, hsent⟩ := List.any_eq_true.mp hany
  simp only [Bool.and_eq_true, beq_iff_eq] at hsent
  obtain ⟨⟨⟨hmethod, hsid⟩, hurl⟩, hbody⟩ := hsent
  refine ⟨if_pos (by decide +kernel), x, before, hlog, hforce, r, hr, hmethod, hsid, hbody, hurl, ?_⟩
  rintro ⟨base, -, -, hok, -, -, -, hhost, -⟩
  rw [hok] at hbase
  have hsame : base.host = ['a', '.', 'l', 'a', 'n'] := Except.ok.inj hbase
  rw [← hhost, hurl] at hsame
  exact absurd hsame (by decide)

end LoggedWire

end FilterFleet
