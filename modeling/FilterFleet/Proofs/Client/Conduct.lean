import FilterFleet.Proofs.Client.Logout
import FilterFleet.Proofs.Client.Records

/-!
# At most one login and one request

However the calls of a client are interleaved and whatever the node answers, a call sends at most
one login and after it at most one request of its own; it sends the latter just when the settings
name an address and it has got a session that can stand in the head of a request (`Conduct`). A
session that the node rejects is given up if it is still the cached one, and from then on no call
finds it unless a login has brought it again, while a session that has replaced it stays
(`GivesUp`). Both hold in every run, and only redirects send a request again
(`LoggedWire.calls_well_conducted`); a write may be repeated so (`LoggedWire.write_is_repeated`).
-/

namespace FilterFleet

open Address ClientLog WireLog NodeClient

/-! ## The requests of one call -/

/-- How a call behaves: what it has sent, by the settings it was started with and the session it has
got. -/
structure Conduct (first : NodeClient) (log : ClientLog) (id : Nat) (call : NodeCall)
    (s : NodeSettings) : Prop where
  /-- At most one login, and then at most one request with the session. -/
  order : ∃ logins own : List HttpRequest,
    (exchanges log id).reverse.map (·.request) = logins ++ own ∧
      logins.length ≤ 1 ∧ own.length ≤ 1 ∧ (∀ r ∈ logins, IsLogin s r) ∧
      ∀ r ∈ own, ∃ sid, HasSession first log id sid ∧ IsRequest s call sid r
  /-- The request of the call is sent just when there is an address and a session for it. -/
  sent_iff : (∃ x ∈ exchanges log id, x.request.sid.isSome) ↔
    s.HasAddress ∧ ∃ sid, HasSession first log id sid ∧ isHeaderValue sid = true

section Account

variable {options : ClientOptions} {s : NodeSettings} {call : NodeCall} {found : Option String}
  {xs : List Exchange} {sid : String}

/-- The logins of a call that has got a session. -/
theorem Brought.logins (h : Brought options s found xs sid) :
    xs.length ≤ 1 ∧ ∀ x ∈ xs, IsLogin s x.request := by
  cases h with
  | found => exact ⟨Nat.zero_le 1, by simp⟩
  | login hr => exact ⟨Nat.le_refl 1, by simpa using NodeSettings.isLogin_of_login hr⟩

/-- A call that has got a session writes its request just when there is an address and the session
can stand in the head of a request. -/
theorem Brought.request_iff (h : Brought options s found xs sid) (form : RequestForm) :
    (∃ r, form.request s sid = .ok r) ↔ s.HasAddress ∧ ∃ sid',
      (found = some sid' ∨ ∃ x ∈ xs, x.LogsIn sid') ∧ isHeaderValue sid' = true := by
  simp only [h.hasSession_iff, exists_eq_left, RequestForm.request_isOk_iff]

/-- A call whose account is in order behaves well. -/
theorem Account.conduct {first : NodeClient} {log : ClientLog} {id : Nat}
    (h : Account options s call found (exchanges log id))
    (hfound : ∀ sid, found = some sid ↔ Found first id sid log) : Conduct first log id call s := by
  have hsession : ∀ sid, HasSession first log id sid ↔
      (found = some sid ∨ ∃ x ∈ exchanges log id, x.LogsIn sid) :=
    fun sid => or_congr_left (hfound sid).symm
  refine ⟨?_, ?_⟩
  · simp only [hsession]
    generalize exchanges log id = xs at h
    cases h with
    | idle => exact ⟨[], [], rfl, by simp⟩
    | @login r response hr _ =>
      exact ⟨[r], [], rfl, by simpa using NodeSettings.isLogin_of_login hr⟩
    | unwritten h _ _ =>
      obtain ⟨hlength, hlogins⟩ := h.logins
      exact ⟨xs.reverse.map (·.request), [], by simp, by simpa using hlength, by simp,
        by simpa using hlogins, by simp⟩
    | @asked _ logins sid form r h hform hrequest response =>
      obtain ⟨hlength, hlogins⟩ := h.logins
      refine ⟨logins.reverse.map (·.request), [r], by simp, by simpa using hlength, by simp,
        by simpa using hlogins, fun r' hr' => ⟨sid, ?_, ?_⟩⟩
      · exact ((h.hasSession_iff sid).mpr rfl).imp_right fun ⟨x, hx, hlogs⟩ =>
          ⟨x, List.mem_cons_of_mem _ hx, hlogs⟩
      · obtain rfl := List.mem_singleton.mp hr'
        exact RequestForm.isRequest_of_request hform hrequest
  · simp only [hsession]
    generalize exchanges log id = xs at h
    cases h with
    | idle => simp
    | login hr hnone => simp [hnone, (NodeSettings.isLogin_of_login hr).sid]
    | @unwritten _ _ sid form error h _ hrequest =>
      rw [← h.request_iff form, hrequest]
      have hlogins : ∀ x ∈ xs, x.request.sid = none := fun x hx => (h.logins.2 x hx).sid
      simpa using hlogins
    | @asked _ logins sid form r h _ hrequest response =>
      have hsid := RequestForm.sid_of_request hrequest
      have hown : ∀ sid', ¬ (⟨r, response⟩ : Exchange).LogsIn sid' := by
        rintro sid' ⟨hnone, -⟩
        cases hsid.symm.trans hnone
      have hiff := h.request_iff form
      simp only [List.mem_cons, exists_eq_or_imp, hown, false_or, hsid, Option.isSome_some,
        true_or, true_iff]
      exact hiff.mp ⟨r, hrequest⟩

end Account

/-! ## Sessions that the node rejects -/

namespace ClientLog

/-- A login has brought a session again since the log was `base`. -/
def BroughtAgain (settings : NodeSettings) (base : ClientLog) (sid : String) (log : ClientLog) :
    Prop :=
  ∃ newer x before generation, log = newer ++ x :: before ∧ base <:+ before ∧
    Brings settings x before generation sid

theorem BroughtAgain.cons {settings : NodeSettings} {base log : ClientLog} {sid : String}
    (h : BroughtAgain settings base sid log) (x : LogEntry) :
    BroughtAgain settings base sid (x :: log) := by
  obtain ⟨newer, y, before, generation, rfl, hbase, hbrings⟩ := h
  exact ⟨x :: newer, y, before, generation, rfl, hbase, hbrings⟩

end ClientLog

/-- A client gives up a session: it is not cached any more, another one stays, and from then on the
cache yields it only if a login has brought it again. -/
structure GivesUp (settings : NodeSettings) (s s' : LoggedClient) (sid : String) : Prop where
  dropped_iff : ∀ cached, s.client.session = some cached →
    (s'.client.session = none ↔ cached.sid = sid)
  kept : ∀ cached, s.client.session = some cached → cached.sid ≠ sid →
    s'.client.session = some cached
  unused : ∀ later generation now,
    (s'.run later).client.session.lookup generation now = some sid →
      BroughtAgain settings s'.log sid (s'.run later).log

theorem SessionCache.invalidate_some (cached : CachedSession) (sid : String) :
    SessionCache.invalidate (some cached) sid = if cached.sid = sid then none else some cached := by
  by_cases h : cached.sid = sid
  · simp [SessionCache.invalidate, h]
  · simp [SessionCache.invalidate, h]

theorem SessionCache.sid_ne_of_invalidate {session : SessionCache} {cached : CachedSession}
    {sid : String} (h : session.invalidate sid = some cached) : cached.sid ≠ sid := by
  simpa using (Option.filter_eq_some_iff.mp h).2

/-- A status of a rejection gives up the session that the request has carried. -/
theorem NodeClient.session_of_rejected {c : NodeClient} {t : Moment} {l : LiveCall} {sid : String}
    {status : UInt16} (hcall : c.call? l.id = some l) (hsent : l.progress = .sent sid)
    (hform : l.call.form?.isSome) (hstatus : status = 401 ∨ status = 403) :
    (c.step t (.status l.id status)).1.session = c.session.invalidate sid := by
  have hrejected : (l.call.form?.isSome && (status == 401 || status == 403)) = true := by
    simpa [hform] using hstatus
  simp only [step, hcall, hsent, onStatus, hrejected, if_true]
  split <;> rfl

namespace LoggedClient

variable {settings : NodeSettings} {first : NodeClient} {s : LoggedClient}

/-- A session that is not cached comes back only with a login. -/
theorem broughtAgain_run {base : ClientLog} {sid : String} (hc : s.client.Consistent settings s.log)
    (hbase : base <:+ s.log) (h : ∀ cached, s.client.session = some cached → cached.sid = sid →
      BroughtAgain settings base sid s.log) (later : List (Moment × ClientEvent)) :
    ∀ cached, (s.run later).client.session = some cached → cached.sid = sid →
      BroughtAgain settings base sid (s.run later).log := by
  induction later generalizing s with
  | nil => exact h
  | cons e rest ih =>
    refine ih (s := s.step e.1 e.2) (hc.step e.1 e.2).1 (hbase.trans (List.suffix_cons _ _)) ?_
    rintro cached hcached rfl
    rcases hc.session_step e.1 e.2 hcached with ⟨hsame, -⟩ | hbrings
    · exact (h cached hsame rfl).cons _
    · exact ⟨[], _, s.log, cached.generation, rfl, hbase, hbrings⟩

/-- A call whose request is awaited waits for the status. -/
theorem Recorded.sent_of_awaited (h : s.Recorded settings first) {id : Nat} {call : NodeCall}
    {snapshot : Snapshot} {r : HttpRequest} {sid : String}
    (hstarted : started? settings s.log id = some (call, snapshot)) (hform : call.form?.isSome)
    (hr : ⟨r, .awaited⟩ ∈ exchanges s.log id) (hsid : r.sid = some sid) :
    ∃ l, s.client.call? id = some l ∧ l.call = call ∧ l.progress = .sent sid := by
  cases hcall : s.client.call? id with
  | none =>
    obtain ⟨-, -, -, hsettled⟩ := h.gone id call snapshot hcall hstarted hform
    cases hsettled _ hr (.abandon id)
  | some l =>
    obtain ⟨rfl, rfl⟩ := Prod.mk.inj
      (Option.some.inj (hstarted.symm.trans (h.consistent.calls id l hcall).started))
    obtain ⟨found, -, hstand⟩ := h.stand id l hcall hform
    exact ⟨l, rfl, rfl, hstand.eq_sent hr hsid⟩

/-- A rejection gives up the session that the rejected request has carried. -/
theorem Recorded.givesUp (h : s.Recorded settings first) {id : Nat} {call : NodeCall}
    {snapshot : Snapshot} {r : HttpRequest} {sid : String} {status : UInt16}
    (hstarted : started? settings s.log id = some (call, snapshot)) (hform : call.form?.isSome)
    (hr : ⟨r, .awaited⟩ ∈ exchanges s.log id) (hsid : r.sid = some sid)
    (hstatus : status = 401 ∨ status = 403) (t : Moment) :
    GivesUp settings s (s.step t (.status id status)) sid := by
  obtain ⟨l, hcall, rfl, hsent⟩ := h.sent_of_awaited hstarted hform hr hsid
  obtain rfl := id_of_call? hcall
  have hsession : (s.step t (.status l.id status)).client.session =
      s.client.session.invalidate sid :=
    session_of_rejected hcall hsent hform hstatus
  refine ⟨fun cached hcached => ?_, fun cached hcached hne => ?_,
    fun later generation now hsome => ?_⟩
  · rw [hsession, hcached, SessionCache.invalidate_some]
    split <;> simp [*]
  · rw [hsession, hcached, SessionCache.invalidate_some, if_neg hne]
  · obtain ⟨cached, hcached, -, hcachedSid⟩ := eq_some_of_lookup hsome
    refine broughtAgain_run (h.consistent.step t _).1 List.suffix_rfl (fun cached' hc hs => ?_)
      later cached hcached hcachedSid
    exact absurd hs (SessionCache.sid_ne_of_invalidate (hsession.symm.trans hc))

end LoggedClient

namespace LoggedWire

/-- **A call sends at most one login and at most one request, and a rejected session is not used
again.**  In every run of a client on the wire, whatever the interleaving of its calls and whatever
the nodes answer: a call that is no logout sends at most one login under the settings it was started
with, and then at most one request, which it sends just when these settings name an address and it
has got a session that can stand in the head of a request. When the node rejects a request, the
session that it carried is dropped if it is the cached one, and left if another one has replaced it;
afterwards the cache does not yield the rejected session unless a login has brought it again.
Everything else that goes out are requests sent again because an answer redirects, each for a call
that still awaits the answer to it, and at most ten times. -/
theorem calls_well_conducted {settings : NodeSettings} {options : ClientOptions} {c : NodeClient}
    (hnew : NodeClient.new? settings options = .ok c) (events : List (Moment × WireEvent)) :
    let s := (fresh c).run events
    (∀ id call snapshot, started? settings (told s.log) id = some (call, snapshot) →
      call.form?.isSome → Conduct c (told s.log) id call snapshot.settings ∧
        ∀ r sid status location t, ⟨r, .awaited⟩ ∈ exchanges (told s.log) id → r.sid = some sid →
          (status = 401 ∨ status = 403) →
          GivesUp settings s.logged (s.step t (.answer id status location)).logged sid) ∧
    Throughout WireEntry.Stems s.log ∧ ∀ id, hops s.log id ≤ maxRedirects := by
  intro s
  have htraced : s.Traced := traced_run c events
  refine ⟨fun id call snapshot hstarted hform => ?_, stems_run c events, htraced.bounded⟩
  have h : s.logged.Recorded settings c := by
    obtain ⟨events', hlogged⟩ := logged_run (fresh c) events
    exact hlogged ▸ LoggedClient.recorded_run hnew events'
  refine ⟨?_, fun r sid status location t hr hsid hstatus => ?_⟩
  · obtain ⟨found, hfound, haccount⟩ := h.account hstarted hform
    exact haccount.conduct hfound
  · have hstays : redirects status = false := by rcases hstatus with rfl | rfl <;> decide
    rw [logged_step_of_tell (htraced.handle_answer hr hstays location)]
    exact h.givesUp hstarted hform hr hsid hstatus t

/-! ## A rejection that comes late -/

/-- Two calls send their requests with one session, which the node rejects for the first of them;
a third call logs in again. -/
def loggingInAgain : List (Moment × WireEvent) :=
  [(⟨0, ⟨0⟩⟩, .start 0 ⟨.blockingStatus, ()⟩), (⟨1, ⟨1⟩⟩, .answer 0 200 none),
    (⟨2, ⟨2⟩⟩, .body 0 (loginAnswer "x" 60)), (⟨3, ⟨3⟩⟩, .start 1 ⟨.authStatus, ()⟩),
    (⟨4, ⟨4⟩⟩, .answer 0 401 none), (⟨5, ⟨5⟩⟩, .start 2 ⟨.blockingStatus, ()⟩),
    (⟨6, ⟨6⟩⟩, .answer 2 200 none), (⟨7, ⟨7⟩⟩, .body 2 (loginAnswer "y" 60))]

/-- The rejection of the second request comes late, and leaves the new session. -/
theorem calls_well_conducted_of_loggingInAgain :
    let settings : NodeSettings := .basic ⟨1⟩ "a" "a.lan" "one"
    let c : NodeClient := ⟨.standard, ⟨0, settings⟩, none, [], []⟩
    let s := (fresh c).run loggingInAgain
    let s' := s.step ⟨8, ⟨8⟩⟩ (.answer 1 403 none)
    NodeClient.new? settings .standard = .ok c ∧
      Conduct c (told s.log) 1 ⟨.authStatus, ()⟩ settings ∧
      GivesUp settings s.logged s'.logged "x" ∧
      s'.logged.client.session.map (·.sid) = some "y" := by
  intro settings c s s'
  have hnew : NodeClient.new? settings .standard = .ok c := if_pos (by decide +kernel)
  have hstarted : started? settings (told s.log) 1 = some (⟨.authStatus, ()⟩, ⟨0, settings⟩) := by
    decide +kernel
  have hawaited : ∃ x ∈ exchanges (told s.log) 1,
      x.response = .awaited ∧ x.request.sid = some "x" := by decide +kernel
  have hcached : s.logged.client.session.map (·.sid) = some "y" := by decide +kernel
  obtain ⟨hconduct, hrejected⟩ := (calls_well_conducted hnew loggingInAgain).1 1 _ _ hstarted rfl
  obtain ⟨⟨r, response⟩, hr, rfl, hsid⟩ := hawaited
  have hgivesUp : GivesUp settings s.logged s'.logged "x" :=
    hrejected r "x" 403 none ⟨8, ⟨8⟩⟩ hr hsid (.inr rfl)
  obtain ⟨cached, hcached, hy⟩ := Option.map_eq_some_iff.mp hcached
  refine ⟨hnew, hconduct, hgivesUp, ?_⟩
  rw [hgivesUp.kept cached hcached (by rw [hy]; decide), Option.map_some, hy]

/-! ## A write that is redirected -/

/-- A call that stops filtering logs in, and the node redirects its request to another host. -/
def beingSentAway : List (Moment × WireEvent) :=
  [(⟨0, ⟨0⟩⟩, .start 0 ⟨.setBlocking, .disable none⟩), (⟨1, ⟨1⟩⟩, .answer 0 200 none),
    (⟨2, ⟨2⟩⟩, .body 0 (loginAnswer "x" 60)),
    (⟨3, ⟨3⟩⟩, .answer 0 307 (some (.resource elsewhere)))]

/-- **A redirected write is repeated.**  One call sends its write twice, with the same body and the
same session. -/
theorem write_is_repeated :
    let settings : NodeSettings := .basic ⟨1⟩ "a" "a.lan" "one"
    let c : NodeClient := ⟨.standard, ⟨0, settings⟩, none, [], []⟩
    let s := (fresh c).run beingSentAway
    NodeClient.new? settings .standard = .ok c ∧ s.wire.client.calls.map (·.id) = [0] ∧
      s.requestsOut =
        [(none, .post, "http://a.lan/api/auth", some "\x7b\"password\":\"one\"\x7d"),
          (some "x", .post, "http://a.lan/api/dns/blocking", some "\x7b\"blocking\":false\x7d"),
          (some "x", .post, "http://b.lan/in", some "\x7b\"blocking\":false\x7d")] ∧
      ¬ (s.requestsOut.filter (·.1.isSome)).length ≤ 1 := by
  intro settings c s
  exact ⟨if_pos (by decide +kernel), by decide +kernel, by decide +kernel, by decide +kernel⟩

end LoggedWire

end FilterFleet
