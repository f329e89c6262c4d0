import FilterFleet.Proofs.Client.Step

/-!
# The requests of a call

What a call sends is a function of its settings and its session: `NodeSettings.login` and
`RequestForm.request` say which request is written, or with which failure the call ends without
one. The latter is written just when the address is one that a request can name and the session id
can stand in the head of a request (`request_isOk_iff`). The client sends what these say
(`sendLogin_of_ok`, `sendRequest_of_ok`, and their failures).
-/

namespace FilterFleet

open Address

/-- The login under settings, or the failure of settings under which there is none. -/
def NodeSettings.login (s : NodeSettings) : Except NodeError HttpRequest :=
  match s.endpoint ["auth"] with
  | .error fault => .error (AddressFault.error fault)
  | .ok url =>
    match writeFault? url none with
    | some e => .error e
    | none => .ok (NodeClient.loginRequest s url)

namespace RequestForm

/-- The request of a form under settings with a session, or the failure of one that cannot be
written. -/
def request (form : RequestForm) (s : NodeSettings) (sid : String) : Except NodeError HttpRequest :=
  match s.endpoint form.segments with
  | .error fault => .error (AddressFault.error fault)
  | .ok url =>
    match writeFault? (url.withPairs form.pairs) (some sid) with
    | some e => .error e
    | none =>
      .ok
        { method := form.method
          url := url.withPairs form.pairs
          sid := some sid
          node := s.id
          body := form.body }

end RequestForm

/-- The settings name an address, and one that a request can name. -/
def NodeSettings.HasAddress (s : NodeSettings) : Prop :=
  ∃ base, s.baseAddress = .ok base ∧ base.canBeNamed = true

variable {s : NodeSettings} {form : RequestForm} {sid : String} {r : HttpRequest}

theorem Address.Url.canBeNamed_endpoint (base : Url) (segments : List String)
    (pairs : List (String × String)) :
    ((base.below segments).withPairs pairs).canBeNamed = base.canBeNamed := by
  unfold Url.withPairs
  split <;> rfl

theorem writeFault?_eq_none_iff {url : Url} {sid : Option String} :
    writeFault? url sid = none ↔ sid.all isHeaderValue = true ∧ url.canBeNamed = true := by
  unfold writeFault?
  cases sid.all isHeaderValue <;> cases url.canBeNamed <;> simp

theorem NodeSettings.endpoint_of_baseAddress {base : Url} (h : s.baseAddress = .ok base)
    (segments : List String) : s.endpoint segments = .ok (base.below segments) := by
  rw [NodeSettings.endpoint, h]
  rfl

theorem NodeSettings.endpoint_of_error {fault : AddressFault} (h : s.baseAddress = .error fault)
    (segments : List String) : s.endpoint segments = .error fault := by
  rw [NodeSettings.endpoint, h]
  rfl

/-- Settings that make no address for one resource make none for a login. -/
theorem NodeSettings.login_of_fault {segments : List String} {fault : AddressFault}
    (h : s.endpoint segments = .error fault) : s.login = .error (AddressFault.error fault) := by
  cases hbase : s.baseAddress with
  | ok base => cases h.symm.trans (NodeSettings.endpoint_of_baseAddress hbase segments)
  | error fault' =>
    obtain rfl := Except.error.inj (h.symm.trans (NodeSettings.endpoint_of_error hbase segments))
    simp only [NodeSettings.login, NodeSettings.endpoint_of_error hbase]

theorem RequestForm.request_isOk_iff :
    (∃ r, form.request s sid = .ok r) ↔ s.HasAddress ∧ isHeaderValue sid = true := by
  cases hbase : s.baseAddress with
  | error fault =>
    simp [RequestForm.request, NodeSettings.endpoint_of_error hbase, NodeSettings.HasAddress, hbase]
  | ok base =>
    have hnamed : writeFault? ((base.below form.segments).withPairs form.pairs) (some sid) = none ↔
        base.canBeNamed = true ∧ isHeaderValue sid = true := by
      rw [writeFault?_eq_none_iff, Url.canBeNamed_endpoint, Option.all_some]
      exact and_comm
    simp only [RequestForm.request, NodeSettings.endpoint_of_baseAddress hbase,
      NodeSettings.HasAddress, hbase, Except.ok.injEq, exists_eq_left', ← hnamed]
    split <;> simp [*]

/-- The parts of a request that is sent. -/
theorem RequestForm.request_eq_ok (h : form.request s sid = .ok r) :
    ∃ base, s.baseAddress = .ok base ∧ r =
      { method := form.method
        url := (base.below form.segments).withPairs form.pairs
        sid := some sid
        node := s.id
        body := form.body } := by
  cases hbase : s.baseAddress with
  | error fault =>
    simp only [RequestForm.request, NodeSettings.endpoint_of_error hbase] at h
    cases h
  | ok base =>
    simp only [RequestForm.request, NodeSettings.endpoint_of_baseAddress hbase] at h
    split at h
    · cases h
    · exact ⟨base, rfl, (Except.ok.inj h).symm⟩

theorem NodeSettings.login_eq_ok (h : s.login = .ok r) :
    ∃ base, s.baseAddress = .ok base ∧ r = NodeClient.loginRequest s (base.below ["auth"]) := by
  cases hbase : s.baseAddress with
  | error fault =>
    simp only [NodeSettings.login, NodeSettings.endpoint_of_error hbase] at h
    cases h
  | ok base =>
    simp only [NodeSettings.login, NodeSettings.endpoint_of_baseAddress hbase] at h
    split at h
    · cases h
    · exact ⟨base, rfl, (Except.ok.inj h).symm⟩

theorem NodeSettings.isLogin_of_login (h : s.login = .ok r) : NodeClient.IsLogin s r := by
  obtain ⟨base, hbase, rfl⟩ := NodeSettings.login_eq_ok h
  have hendpoint := NodeSettings.endpoint_of_baseAddress hbase ["auth"]
  exact ⟨rfl, rfl, hendpoint, NodeSettings.reaches_of_endpoint hendpoint [], rfl⟩

theorem RequestForm.isRequest_of_request {call : NodeCall} (hform : call.form? = some form)
    (h : form.request s sid = .ok r) : NodeClient.IsRequest s call sid r := by
  obtain ⟨base, hbase, rfl⟩ := RequestForm.request_eq_ok h
  exact ⟨⟨form, hform, rfl, rfl⟩, rfl, NodeSettings.reaches_of_endpoint
    (NodeSettings.endpoint_of_baseAddress hbase form.segments) form.pairs⟩

theorem RequestForm.sid_of_request (h : form.request s sid = .ok r) : r.sid = some sid := by
  obtain ⟨base, -, rfl⟩ := RequestForm.request_eq_ok h
  rfl

namespace NodeClient

variable {c : NodeClient} {l : LiveCall}

/-! ## What the client sends -/

theorem sendLogin_of_error {error : NodeError} (h : l.snapshot.settings.login = .error error) :
    c.sendLogin l = ((c.leaveGate l.id).finish l (.error error), []) := by
  unfold NodeSettings.login at h
  unfold sendLogin
  split at h
  · obtain rfl := Except.error.inj h
    simp only [*]
  · split at h
    · obtain rfl := Except.error.inj h
      simp only [*]
    · cases h

theorem sendLogin_of_ok (h : l.snapshot.settings.login = .ok r) :
    c.sendLogin l = (c.put { l with progress := .loginSent }, [r]) := by
  unfold NodeSettings.login at h
  unfold sendLogin
  split at h
  · cases h
  · split at h
    · cases h
    · obtain rfl := Except.ok.inj h
      simp only [*]

theorem sendRequest_of_error {error : NodeError} (hform : l.call.form? = some form)
    (h : form.request l.snapshot.settings sid = .error error) :
    c.sendRequest l sid = (c.finish l (.error error), []) := by
  unfold RequestForm.request at h
  unfold sendRequest
  split at h
  · obtain rfl := Except.error.inj h
    simp only [*]
  · split at h
    · obtain rfl := Except.error.inj h
      simp only [*]
    · cases h

theorem sendRequest_of_ok (hform : l.call.form? = some form)
    (h : form.request l.snapshot.settings sid = .ok r) :
    c.sendRequest l sid = (c.put { l with progress := .sent sid }, [r]) := by
  unfold RequestForm.request at h
  unfold sendRequest
  split at h
  · cases h
  · split at h
    · cases h
    · obtain rfl := Except.ok.inj h
      simp only [*]

end NodeClient

end FilterFleet
