import FilterFleet.Proofs.Address.Configured
import FilterFleet.Proofs.Client.Generations

/-!
# Where the requests of a client go

Every request that a client sends itself is for one of its calls, and goes to what the call asks for
under the settings with which it was started (`LoggedClient.directed_run`). So it goes to the
address that is configured, unless a character of the host cuts the address short or turns it to
another place; and a call under settings whose host is none fails when it starts
(`LoggedWire.requests_reach_configured`). What redirects make of a request goes to where they lead.
-/

namespace FilterFleet

open Address ClientLog WireLog

namespace NodeClient

variable {first : NodeSettings} {log : ClientLog} {c : NodeClient}

/-! ## Every step -/

theorem sentFor_sendRequest (c : NodeClient) (l : LiveCall) (sid : String) :
    ∀ r ∈ (c.sendRequest l sid).2, SentFor l.snapshot.settings l.call r := by
  unfold sendRequest
  split
  · simp
  · next form hform =>
    split
    · simp
    · next url hurl =>
      dsimp only
      split
      · simp
      · intro r hr
        obtain rfl := List.mem_singleton.mp hr
        exact ⟨_, _, url, .own hform, hurl, rfl⟩

theorem sentFor_sendLogin (c : NodeClient) (l : LiveCall) :
    ∀ r ∈ (c.sendLogin l).2, SentFor l.snapshot.settings l.call r := by
  unfold sendLogin
  split
  · simp
  · next url hurl =>
    split
    · simp
    · intro r hr
      obtain rfl := List.mem_singleton.mp hr
      exact ⟨_, _, url, .session, hurl, rfl⟩

theorem sentFor_proceed (c : NodeClient) (l : LiveCall) (now : Instant) :
    ∀ r ∈ (c.proceed l now).2, SentFor l.snapshot.settings l.call r := by
  unfold proceed
  split
  · split
    · exact sentFor_sendRequest _ l _
    · exact sentFor_sendLogin c l
  · simp

theorem sentFor_startLogout (c : NodeClient) (id : Nat) :
    ∀ r ∈ (c.startLogout id).2, SentFor c.current.settings ⟨.logout, ()⟩ r := by
  unfold startLogout
  dsimp only
  split
  · simp
  · split
    · simp
    · next url hurl =>
      split
      · simp
      · intro r hr
        obtain rfl := List.mem_singleton.mp hr
        exact ⟨_, _, url, .session, hurl, rfl⟩

theorem sentFor_start (c : NodeClient) (id : Nat) (call : NodeCall) (now : Instant) :
    ∀ r ∈ (c.start id call now).2, SentFor c.current.settings call r := by
  unfold start
  split
  · next hform =>
    obtain rfl := NodeCall.eq_logout hform
    exact c.sentFor_startLogout id
  · dsimp only
    split
    · simp
    · split
      · exact c.sentFor_sendRequest ⟨id, call, c.current, .atGate⟩ _
      · exact sentFor_proceed _ ⟨id, call, c.current, .atGate⟩ now

theorem sentFor_endLogin (c : NodeClient) (l : LiveCall)
    (result : Except NodeError (String × Span)) (now : Instant) :
    ∀ r ∈ (c.endLogin l result now).2, SentFor l.snapshot.settings l.call r := by
  cases result with
  | error e => simp [endLogin_error]
  | ok login =>
    rw [endLogin_ok]
    exact sentFor_sendRequest _ l login.1

/-- An event is about a call that it starts, or that the client holds. -/
inductive Meets (c : NodeClient) : ClientEvent → Nat → NodeCall → Snapshot → Prop where
  | start (id : Nat) (call : NodeCall) : Meets c (.start id call) id call c.current
  | held {e : ClientEvent} {id : Nat} {l : LiveCall} (hcall : c.call? id = some l)
      (habout : e.about? = some id) (hstart : ∀ call, e ≠ .start id call) :
      Meets c e id l.call l.snapshot

/-- What is sent at an event is for the call that the event is about. -/
theorem sentFor_step (c : NodeClient) (t : Moment) (e : ClientEvent) {r : HttpRequest}
    (hr : r ∈ (c.step t e).2) :
    ∃ id call snapshot, Meets c e id call snapshot ∧ SentFor snapshot.settings call r := by
  cases c.step_cases t e with
  | idle hstep | refused _ hstep | loginAnswered _ _ hstep | answered _ _ hstep
  | finished _ _ hstep =>
    rw [hstep] at hr
    cases hr
  | abandon id => cases hr
  | configure settings => cases hr
  | logout id hstep =>
    rw [hstep] at hr
    exact ⟨id, _, _, .start id _, c.sentFor_startLogout id r hr⟩
  | checks h =>
    cases h with
    | @start id call form url hform hurl =>
      exact ⟨id, call, _, .start id call, c.sentFor_start id call t.now r hr⟩
    | turn hcall hgate hfront =>
      simp only [step, hcall, hgate] at hr
      exact ⟨_, _, _, .held hcall rfl (by simp), c.sentFor_proceed _ t.now r hr⟩
  | endsLogin h =>
    rw [step_of_endsLogin h] at hr
    have hsent := c.sentFor_endLogin _ _ t.now r hr
    cases h with
    | body hcall hread body => exact ⟨_, _, _, .held hcall rfl (by simp), hsent⟩
    | failure hcall hwait failure =>
      exact ⟨_, _, _, .held hcall rfl (by simp), hsent⟩

/-! ## Without an address -/

/-- A call is over as soon as it is started, for a fault of the address, and nothing is sent. -/
def Refuses (c : NodeClient) (t : Moment) (id : Nat) (call : NodeCall) (fault : AddressFault) :
    Prop :=
  (c.step t (.start id call)).2 = [] ∧
    (c.step t (.start id call)).1.call? id =
      some ⟨id, call, c.current, .finished (.error (AddressFault.error fault))⟩

/-- Without an address every call is refused, but for a logout that has nothing to end. -/
theorem refuses_of_baseAddress {fault : AddressFault}
    (h : c.current.settings.baseAddress = .error fault) (t : Moment) (id : Nat) {call : NodeCall}
    (hcall : call.form?.isSome ∨ c.session.isSome) : Refuses c t id call fault := by
  have hendpoint : ∀ segments, c.current.settings.endpoint segments = .error fault := fun _ => by
    rw [NodeSettings.endpoint, h]
    rfl
  unfold Refuses
  simp only [step, start]
  split
  · next hform =>
    obtain rfl := NodeCall.eq_logout hform
    obtain ⟨session, hsession⟩ := Option.isSome_iff_exists.mp (hcall.resolve_left (by simp [hform]))
    simp only [startLogout, hsession, hendpoint]
    exact ⟨trivial, (placed_put _ _).call_self⟩
  · simp only [hendpoint]
    exact ⟨trivial, (placed_put _ _).call_self⟩

end NodeClient

/-- A request is for a call that was started, under the settings with which it was started. -/
def ClientLog.Directs (first : NodeSettings) (log : ClientLog) (id : Nat) (r : HttpRequest) : Prop :=
  ∃ call snapshot, started? first log id = some (call, snapshot) ∧ SentFor snapshot.settings call r

theorem ClientLog.Directs.cons {first : NodeSettings} {log : ClientLog} {id : Nat} {r : HttpRequest}
    (h : Directs first log id r) {x : LogEntry} (hx : ∀ call, x.event ≠ .start id call) :
    Directs first (x :: log) id r := by
  obtain ⟨call, snapshot, hstarted, hsent⟩ := h
  exact ⟨call, snapshot, (started?_cons hx).trans hstarted, hsent⟩

/-- Every request that was sent at an entry of a log is for the call of the entry, under the
settings with which the call was started. -/
def LogEntry.Directed (first : NodeSettings) (x : LogEntry) (before : ClientLog) : Prop :=
  ∀ r ∈ x.sent, ∃ id, x.event.about? = some id ∧ Directs first (x :: before) id r

theorem NodeClient.Consistent.directed {first : NodeSettings} {log : ClientLog} {c : NodeClient}
    (hc : c.Consistent first log) (t : Moment) (e : ClientEvent) :
    LogEntry.Directed first ⟨t, e, (c.step t e).2⟩ log := by
  intro r hr
  obtain ⟨id, call, snapshot, hmeets, hsent⟩ := c.sentFor_step t e hr
  cases hmeets with
  | start id call => exact ⟨id, rfl, call, _, hc.current ▸ started?_start rfl, hsent⟩
  | held hcall habout hstart =>
    exact ⟨id, habout, _, _, (started?_cons hstart).trans (hc.calls id _ hcall).started, hsent⟩

/-! ## Every run -/

theorem LoggedClient.directed_run {first : NodeSettings} {s : LoggedClient}
    (hs : s.client.Consistent first s.log) (hlog : Throughout (LogEntry.Directed first) s.log)
    (events : List (Moment × ClientEvent)) :
    Throughout (LogEntry.Directed first) (s.run events).log := by
  induction events generalizing s with
  | nil => exact hlog
  | cons e rest ih =>
    exact ih (s := s.step e.1 e.2) (hs.step e.1 e.2).1 ⟨hs.directed e.1 e.2, hlog⟩

namespace LoggedWire

/-- What a client has sent for a call is for this call, at any time of a run on the wire. -/
theorem directs_of_exchange {settings : NodeSettings} {options : ClientOptions} {c : NodeClient}
    (hnew : NodeClient.new? settings options = .ok c) {events : List (Moment × WireEvent)}
    {later before : WireLog} (hlog : ((fresh c).run events).log = later ++ before) {id : Nat}
    {y : Exchange} (hy : y ∈ exchanges (told before) id) :
    Directs settings (told before) id y.request :=
  holds_of_exchange (P := Directs settings) (fun _ _ _ _ hx h => h.cons hx)
    (LoggedClient.directed_run (s := ⟨c, []⟩) (LoggedClient.consistent_new hnew) trivial) hlog hy

/-- **Requests go to the configured address.**  In every run of a client on the wire every request
stems from one that the client has sent itself for a call, and this goes to the address that is
configured in the settings with which the call was started, just if no character of their host ends
the host or cuts anything from it. Unless an answer redirects, it is the request itself. If there is
no such character, and the host has no normal form, every call is refused for a fault of the address
when it is started, and nothing is sent; only a logout without a session has nothing to ask for. -/
theorem requests_reach_configured {settings : NodeSettings} {options : ClientOptions}
    {c : NodeClient} (hnew : NodeClient.new? settings options = .ok c)
    (events : List (Moment × WireEvent)) :
    let s := (fresh c).run events
    (∀ later x before, s.log = later ++ x :: before → ∀ r ∈ x.sent,
      ∃ id origin call snapshot, x.StemsFrom id origin r ∧
        started? settings (told (x :: before)) id = some (call, snapshot) ∧
        (Addressed snapshot.settings call origin.url ↔ snapshot.settings.hostIsPlain = true)) ∧
    (s.wire.client.current.settings.hostIsPlain = true →
      (∀ host, normalHost s.wire.client.current.settings.host.toList ≠ .ok host) →
        ∃ fault, ∀ t id call, call.form?.isSome ∨ s.wire.client.session.isSome →
          s.wire.client.Refuses t id call fault) := by
  intro s
  refine ⟨fun later x before hlog r hr => ?_, fun hplain hhost => ?_⟩
  · obtain ⟨id, origin, horigin, hstems⟩ := (stems_run c events).of_split hlog r hr
    obtain ⟨call, snapshot, hstarted, hsent⟩ := directs_of_exchange hnew hlog horigin
    exact ⟨id, origin, call, snapshot, hstems, hstarted, hsent.addressed_iff⟩
  · cases hbase : s.wire.client.current.settings.baseAddress with
    | error fault =>
      exact ⟨fault, fun t id call hcall => NodeClient.refuses_of_baseAddress hbase t id hcall⟩
    | ok base =>
      obtain ⟨host, hok, -⟩ := NodeSettings.exists_host_of_baseAddress hplain hbase
      exact absurd hok (hhost host)

/-- A call is started, and nothing else happens. -/
def oneCall : List (Moment × WireEvent) := [(⟨0, ⟨0⟩⟩, .start 0 ⟨.blockingStatus, ()⟩)]

/-- The login for a call goes to the node; of a host that has a space in it nothing is asked. -/
theorem requests_reach_configured_of_name :
    let named : NodeSettings := .basic ⟨1⟩ "den" "den.lan" "correct horse"
    let spaced : NodeSettings := .basic ⟨1⟩ "den" "den lan" "correct horse"
    let c : NodeClient := ⟨.standard, ⟨0, named⟩, none, [], []⟩
    let c' : NodeClient := ⟨.standard, ⟨0, spaced⟩, none, [], []⟩
    (NodeClient.new? named .standard = .ok c ∧
      ∃ x, ((fresh c).run oneCall).log = [x] ∧
        ∃ r ∈ x.sent, Addressed named ⟨.blockingStatus, ()⟩ r.url) ∧
    NodeClient.new? spaced .standard = .ok c' ∧
      ∃ fault, c'.Refuses ⟨0, ⟨0⟩⟩ 0 ⟨.blockingStatus, ()⟩ fault := by
  intro named spaced c c'
  have hnew : NodeClient.new? named .standard = .ok c := if_pos (by decide +kernel)
  have hnew' : NodeClient.new? spaced .standard = .ok c' := if_pos (by decide +kernel)
  have hlog : ∃ x, ((fresh c).run oneCall).log = [] ++ [x] ∧
      x.handling = .tell (.start 0 ⟨.blockingStatus, ()⟩) ∧
      started? named (told [x]) 0 = some (⟨.blockingStatus, ()⟩, ⟨0, named⟩) ∧
      x.sent.isEmpty = false := ⟨_, rfl, rfl, rfl, by decide +kernel⟩
  obtain ⟨x, hlog, hhandling, hstarted, hsent⟩ := hlog
  obtain ⟨r, hr⟩ := List.isEmpty_eq_false_iff_exists_mem.mp hsent
  obtain ⟨id, origin, call, snapshot, hstems, hstarted', hiff⟩ :=
    (requests_reach_configured hnew oneCall).1 [] x [] hlog r hr
  obtain ⟨rfl, habout⟩ := hstems.of_tell hhandling
  obtain rfl : 0 = id := Option.some.inj habout
  obtain ⟨rfl, rfl⟩ := Prod.mk.inj (Option.some.inj (hstarted.symm.trans hstarted'))
  refine ⟨⟨hnew, x, hlog, r, hr, hiff.mpr (by decide +kernel)⟩, hnew', ?_⟩
  have hname : normalHost spaced.host.toList = .error .badName := by decide +kernel
  obtain ⟨fault, hrefuses⟩ := (requests_reach_configured hnew' []).2 (by decide +kernel)
    fun host hhost => by cases hname.symm.trans hhost
  exact ⟨fault, hrefuses _ _ _ (.inl rfl)⟩

/-- A question mark ends the host: the rest of it, the port and the path are read as a query. -/
theorem login_goes_astray :
    let settings : NodeSettings := .basic ⟨1⟩ "den" "h?x" "correct horse"
    let c : NodeClient := ⟨.standard, ⟨0, settings⟩, none, [], []⟩
    settings.validate = .ok () ∧ NodeClient.new? settings .standard = .ok c ∧
      ∃ x, ((fresh c).run oneCall).log = [x] ∧
        ∃ r ∈ x.sent, r.method = .post ∧ r.sid = none ∧
          r.url.text = "http://h/auth?x:80/api/" ∧
          ¬ Addressed settings ⟨.blockingStatus, ()⟩ r.url := by
  intro settings c
  have hlog : ∃ x, ((fresh c).run oneCall).log = [x] ∧
      (x.sent.any fun r => r.method == .post && r.sid == none &&
        r.url.text == "http://h/auth?x:80/api/") = true := ⟨_, rfl, by decide +kernel⟩
  obtain ⟨x, hlog, hany⟩ := hlog
  obtain ⟨r, hr, hsent⟩ := List.any_eq_true.mp hany
  simp only [Bool.and_eq_true, beq_iff_eq] at hsent
  obtain ⟨⟨hmethod, hsid⟩, htext⟩ := hsent
  refine ⟨by decide +kernel, if_pos (by decide +kernel), x, hlog, r, hr, hmethod, hsid, htext, ?_⟩
  intro haddressed
  have hmark : '?' ∈ settings.host.toList := by decide +kernel
  exact absurd (not_isStray_of_normalHost haddressed.host '?' hmark) (by decide)

end LoggedWire

end FilterFleet
