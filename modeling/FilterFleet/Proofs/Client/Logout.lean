import FilterFleet.Proofs.Client.Generations

/-!
# Where a logout ends a session

A logout takes whatever session is cached and sends it to the address of the settings in force. A
new configuration empties the cache, so that the session was brought by a login that has come back
since the settings were replaced last (`BroughtSince`); but this login may have been *sent* before,
under older settings. The session is ended where it was obtained if its login was sent under the
settings in force (`LoggedWire.logout_ends_latest`), and it is sent to an address that has never
issued it if the login has come back late (`LoggedWire.logout_discloses_late_session`).
-/

namespace FilterFleet

namespace ClientLog

/-- At an entry a login that was sent under a generation comes back with a session. -/
structure Brings (first : NodeSettings) (x : LogEntry) (before : ClientLog) (generation : Nat)
    (sid : String) : Prop where
  returned : ∃ id body, x.event = .body id body ∧ LoginAnswered first id generation 200 before ∧
    ∃ answer, decodeBody "login response" AuthAnswer.ofJson? body = .ok answer ∧
      answer.session.sid = some sid ∧ answer.session.valid = true

/-- A login that was sent under a generation has come back with a session since the settings were
replaced last. -/
inductive BroughtSince (first : NodeSettings) (generation : Nat) (sid : String) :
    ClientLog → Prop where
  | returned {x : LogEntry} {before : ClientLog} (hx : Brings first x before generation sid) :
      BroughtSince first generation sid (x :: before)
  | later {x : LogEntry} {before : ClientLog} (hx : ∀ settings, x.event ≠ .configure settings)
      (h : BroughtSince first generation sid before) :
      BroughtSince first generation sid (x :: before)

/-- The settings were in force at some time. -/
def WasInForce (first : NodeSettings) (log : ClientLog) (snapshot : Snapshot) : Prop :=
  ∃ before, before <:+ log ∧ inForce first before = snapshot

/-- A request carries its session to the address of the settings under which a login has obtained
the session. -/
def EndedWhereObtained (first : NodeSettings) (log : ClientLog) (r : HttpRequest) : Prop :=
  ∃ snapshot sid, WasInForce first log snapshot ∧ r.sid = some sid ∧
    Obtained first snapshot.generation sid log ∧ snapshot.settings.Reaches r.url

variable {first : NodeSettings} {log : ClientLog} {generation : Nat} {sid : String}

theorem obtained_cons_iff {x : LogEntry} {before : ClientLog} :
    Obtained first generation sid (x :: before) ↔
      Brings first x before generation sid ∨ Obtained first generation sid before := by
  constructor
  · rintro (⟨hx, hlogin, hanswer, hsid, hvalid⟩ | h)
    · exact .inl ⟨_, _, hx, hlogin, _, hanswer, hsid, hvalid⟩
    · exact .inr h
  · rintro (⟨id, body, hx, hlogin, answer, hanswer, hsid, hvalid⟩ | h)
    · exact .returned hx hlogin hanswer hsid hvalid
    · exact .later h

theorem Obtained.of_cons {x : LogEntry} {before : ClientLog}
    (h : Obtained first generation sid (x :: before)) (hx : ∀ id body, x.event ≠ .body id body) :
    Obtained first generation sid before := by
  refine (obtained_cons_iff.mp h).resolve_left fun hbrings => ?_
  obtain ⟨id, body, hbody, -⟩ := hbrings.returned
  exact hx id body hbody

theorem BroughtSince.obtained (h : BroughtSince first generation sid log) :
    Obtained first generation sid log := by
  induction h with
  | returned hx => exact obtained_cons_iff.mpr (.inl hx)
  | later _ _ ih => exact .later ih

/-! ### Generations -/

theorem inForce_generation_le (x : LogEntry) (before : ClientLog) :
    (inForce first before).generation ≤ (inForce first (x :: before)).generation := by
  rw [inForce]
  split
  · exact Nat.le_succ _
  · exact Nat.le_refl _

/-- Settings of the same generation are the same. -/
theorem inForce_eq_of_suffix {before : ClientLog} (h : before <:+ log)
    (hgeneration : (inForce first log).generation ≤ (inForce first before).generation) :
    inForce first log = inForce first before := by
  induction log with
  | nil => rw [List.suffix_nil.mp h]
  | cons x rest ih =>
    rcases List.suffix_cons_iff.mp h with rfl | h
    · rfl
    · have hrest := ih h (Nat.le_trans (inForce_generation_le x rest) hgeneration)
      rw [← hrest] at hgeneration ⊢
      rw [inForce] at hgeneration ⊢
      split at hgeneration
      · exact absurd hgeneration (Nat.not_succ_le_self _)
      · rfl

theorem WasInForce.eq_of_generation {a b : Snapshot} (ha : WasInForce first log a)
    (hb : WasInForce first log b) (h : a.generation = b.generation) : a = b := by
  obtain ⟨before, hbefore, rfl⟩ := ha
  obtain ⟨before', hbefore', rfl⟩ := hb
  rcases List.suffix_or_suffix_of_suffix hbefore hbefore' with hle | hle
  · exact (inForce_eq_of_suffix hle (Nat.le_of_eq h.symm)).symm
  · exact inForce_eq_of_suffix hle (Nat.le_of_eq h)

theorem started?_generation_le {id : Nat} {call : NodeCall} {snapshot : Snapshot}
    (h : started? first log id = some (call, snapshot)) :
    snapshot.generation ≤ (inForce first log).generation := by
  induction log with
  | nil => cases h
  | cons x before ih =>
    refine Nat.le_trans ?_ (inForce_generation_le x before)
    rw [started?] at h
    split at h
    · split at h
      · obtain ⟨-, rfl⟩ := Prod.mk.inj (Option.some.inj h)
        exact Nat.le_refl _
      · exact ih h
    · exact ih h

/-- A login is sent under the settings that were in force when its call was started. -/
theorem LoginSent.started {id : Nat} (h : LoginSent first id generation log) :
    ∃ call snapshot, started? first log id = some (call, snapshot) ∧
      snapshot.generation = generation := by
  induction h with
  | sent _ hstarted hgeneration _ => exact ⟨_, _, hstarted, hgeneration⟩
  | later hx _ ih =>
    obtain ⟨call, snapshot, hstarted, hgeneration⟩ := ih
    refine ⟨call, snapshot, (started?_cons fun call hstart => hx ?_).trans hstarted, hgeneration⟩
    rw [hstart]
    rfl

theorem LoginAnswered.started {id : Nat} {status : UInt16}
    (h : LoginAnswered first id generation status log) :
    ∃ call snapshot, started? first log id = some (call, snapshot) ∧
      snapshot.generation = generation := by
  induction h with
  | answered hx h =>
    obtain ⟨call, snapshot, hstarted, hgeneration⟩ := h.started
    refine ⟨call, snapshot, (started?_cons fun call hstart => ?_).trans hstarted, hgeneration⟩
    cases hx.symm.trans hstart
  | later hx _ ih =>
    obtain ⟨call, snapshot, hstarted, hgeneration⟩ := ih
    refine ⟨call, snapshot, (started?_cons fun call hstart => hx ?_).trans hstarted, hgeneration⟩
    rw [hstart]
    rfl

theorem BroughtSince.generation_le (h : BroughtSince first generation sid log) :
    generation ≤ (inForce first log).generation := by
  induction h with
  | returned hx =>
    obtain ⟨id, body, -, hlogin, -⟩ := hx.returned
    obtain ⟨call, snapshot, hstarted, rfl⟩ := hlogin.started
    exact Nat.le_trans (started?_generation_le hstarted) (inForce_generation_le _ _)
  | later _ _ ih => exact Nat.le_trans ih (inForce_generation_le _ _)

end ClientLog

open ClientLog WireLog

namespace NodeClient

/-! ## What becomes of the session -/

/-- A session that is cached after a step was there before, and the settings are the same, or it was
brought by a login that has come back at this step. -/
theorem Consistent.session_step {first : NodeSettings} {log : ClientLog} {c : NodeClient}
    (hc : c.Consistent first log) (t : Moment) (e : ClientEvent) {s : CachedSession}
    (hs : (c.step t e).1.session = some s) :
    (c.session = some s ∧ ∀ settings, e ≠ .configure settings) ∨
      Brings first ⟨t, e, (c.step t e).2⟩ log s.generation s.sid := by
  have hquiet : ∀ settings, e ≠ .configure settings := by
    rintro settings rfl
    cases hs
  have hform : c.Formed := fun id l hl => (hc.calls id l hl).form
  obtain h | h | ⟨sid, h⟩ | ⟨l, sid, validity, hends, h⟩ := session_cases hform t e
  · exact .inl ⟨h.symm.trans hs, hquiet⟩
  · cases h.symm.trans hs
  · exact .inl ⟨(Option.filter_eq_some_iff.mp (h.symm.trans hs)).1, hquiet⟩
  · rcases eq_or_of_store (h.symm.trans hs) with hsame | ⟨rfl, hgeneration⟩
    · exact .inl ⟨hsame, hquiet⟩
    · refine .inr ?_
      generalize hresult : Except.ok (s.sid, validity) = result at hends
      cases hends with
      | failure => cases hresult
      | @body id l status hcall hread body =>
        obtain ⟨rfl, answer, hanswer⟩ := loginResult_eq_ok hresult.symm
        have hlogin := (hc.calls id l hcall).loginAnswered 200 hread
        exact ⟨id, body, rfl, hgeneration ▸ hlogin, answer, hanswer⟩

end NodeClient

/-! ## Every run -/

/-- What a logout sends at an entry carries a session that was brought since the settings were
replaced last. -/
def LogEntry.EndsLatest (first : NodeSettings) (x : LogEntry) (before : ClientLog) : Prop :=
  ∀ id, x.event = .start id ⟨.logout, ()⟩ → ∀ r ∈ x.sent, ∃ generation sid,
    NodeClient.IsEnding (inForce first before).settings sid r ∧
      BroughtSince first generation sid before

namespace LoggedClient

/-- A cached session was brought since the settings were replaced last. -/
def HoldsLatest (first : NodeSettings) (s : LoggedClient) : Prop :=
  ∀ session, s.client.session = some session →
    BroughtSince first session.generation session.sid s.log

variable {first : NodeSettings} {s : LoggedClient}

theorem HoldsLatest.step (h : s.HoldsLatest first) (hc : s.client.Consistent first s.log)
    (t : Moment) (e : ClientEvent) : (s.step t e).HoldsLatest first := by
  intro session hsession
  rcases hc.session_step t e hsession with ⟨hsame, he⟩ | hbrings
  · exact .later he (h session hsame)
  · exact .returned hbrings

theorem HoldsLatest.endsLatest (h : s.HoldsLatest first) (hc : s.client.Consistent first s.log)
    (t : Moment) (e : ClientEvent) :
    LogEntry.EndsLatest first ⟨t, e, (s.client.step t e).2⟩ s.log := by
  rintro id rfl r hr
  obtain ⟨-, -, -, hsent⟩ := s.client.startLogout_eq id
  obtain ⟨session, hsession, hends⟩ := hsent r hr
  exact ⟨session.generation, session.sid, hc.current ▸ hends, h session hsession⟩

/-- What a whole run keeps. -/
theorem endsLatest_run (hs : s.client.Consistent first s.log) (hlatest : s.HoldsLatest first)
    (hlog : Throughout (LogEntry.EndsLatest first) s.log) (events : List (Moment × ClientEvent)) :
    Throughout (LogEntry.EndsLatest first) (s.run events).log := by
  induction events generalizing s with
  | nil => exact hlog
  | cons e rest ih =>
    exact ih (s := s.step e.1 e.2) (hs.step e.1 e.2).1 (hlatest.step hs e.1 e.2)
      ⟨hlatest.endsLatest hs e.1 e.2, hlog⟩

end LoggedClient

namespace LoggedWire

/-- **A logout ends the latest session.**  In every run of a client on the wire, what a logout sends
when it is started goes to the settings in force and carries a session that a login has brought
since the settings were replaced last. This login was never sent under later settings; and if it was
sent under the settings in force, the session is ended at the address under whose settings it was
obtained. Where a node redirects a logout, it is sent again with the session to where the answer
leads, which is another entry of the log. -/
theorem logout_ends_latest {settings : NodeSettings} {options : ClientOptions} {c : NodeClient}
    (hnew : NodeClient.new? settings options = .ok c) (events : List (Moment × WireEvent))
    {later before : WireLog} {x : WireEntry} {id : Nat} {r : HttpRequest}
    (hlog : ((fresh c).run events).log = later ++ x :: before)
    (hx : x.event = .start id ⟨.logout, ()⟩) (hr : r ∈ x.sent) :
    ∃ generation sid, NodeClient.IsEnding (inForce settings (told before)).settings sid r ∧
      BroughtSince settings generation sid (told before) ∧
      generation ≤ (inForce settings (told before)).generation ∧
      (generation = (inForce settings (told before)).generation →
        EndedWhereObtained settings (told (x :: before)) r) := by
  have htold := told_of_start hlog hx
  have hends := told_run (P := Throughout (LogEntry.EndsLatest settings))
    (LoggedClient.endsLatest_run (s := ⟨c, []⟩) (LoggedClient.consistent_new hnew)
      (fun session hsession => nomatch (LoggedClient.consistent_new hnew).session session hsession)
      trivial) events
  rw [hlog, told_append, htold] at hends
  obtain ⟨generation, sid, hending, hbrought⟩ := hends.of_split rfl id rfl r hr
  refine ⟨generation, sid, hending, hbrought, hbrought.generation_le, fun hgeneration => ?_⟩
  rw [htold]
  exact ⟨inForce settings (told before), sid, ⟨told before, List.suffix_cons _ _, rfl⟩, hending.sid,
    .later (hgeneration ▸ hbrought.obtained), hending.address⟩

/-- A client logs in for a call, and logs out at the same address. -/
def staying : List (Moment × WireEvent) :=
  [(⟨0, ⟨0⟩⟩, .start 0 ⟨.blockingStatus, ()⟩),
    (⟨1, ⟨1⟩⟩, .answer 0 200 none),
    (⟨2, ⟨2⟩⟩, .body 0 (loginAnswer "x" 60)),
    (⟨3, ⟨3⟩⟩, .start 1 ⟨.logout, ()⟩)]

/-- Its session is ended where it was obtained. -/
theorem logout_ends_latest_of_staying :
    let old : NodeSettings := .basic ⟨1⟩ "a" "old.lan" "one"
    let c : NodeClient := ⟨.standard, ⟨0, old⟩, none, [], []⟩
    NodeClient.new? old .standard = .ok c ∧
      ∃ x before, ((fresh c).run staying).log = x :: before ∧
        x.event = .start 1 ⟨.logout, ()⟩ ∧
        ∃ r ∈ x.sent, EndedWhereObtained old (told (x :: before)) r := by
  intro old c
  have hnew : NodeClient.new? old .standard = .ok c := if_pos (by decide +kernel)
  have hlog : ∃ x before, ((fresh c).run staying).log = [] ++ x :: before ∧
      x.event = .start 1 ⟨.logout, ()⟩ ∧ (inForce old (told before)).generation = 0 ∧
      x.sent.isEmpty = false :=
    ⟨_, _, rfl, rfl, by decide +kernel, by decide +kernel⟩
  obtain ⟨x, before, hlog, hx, hfirst, hsome⟩ := hlog
  obtain ⟨r, hr⟩ := List.exists_mem_of_ne_nil x.sent fun h => by simp [h] at hsome
  obtain ⟨generation, sid, -, -, hle, hended⟩ := logout_ends_latest hnew staying hlog hx hr
  exact ⟨hnew, x, before, hlog, hx, r, hr, hended (by omega)⟩

/-! ## A login that comes back late -/

/-- A client moves to another address before its login has come back, and logs out there. -/
def leaving : List (Moment × WireEvent) := moving ++ [(⟨4, ⟨4⟩⟩, .start 1 ⟨.logout, ()⟩)]

/-- **A late login discloses its session.**  The session of the old address is sent to the new one,
which has never issued it. -/
theorem logout_discloses_late_session :
    let old : NodeSettings := .basic ⟨1⟩ "a" "old.lan" "one"
    let c : NodeClient := ⟨.standard, ⟨0, old⟩, none, [], []⟩
    NodeClient.new? old .standard = .ok c ∧
      ∃ x before, ((fresh c).run leaving).log = x :: before ∧
        x.event = .start 1 ⟨.logout, ()⟩ ∧
        ∃ r ∈ x.sent, r.method = .delete ∧ r.sid = some "x" ∧ r.url.host = "new.lan".toList ∧
          ¬ EndedWhereObtained old (told (x :: before)) r := by
  intro old c
  have hnew : NodeClient.new? old .standard = .ok c := if_pos (by decide +kernel)
  have hbase : old.baseAddress.map (·.host) = .ok "old.lan".toList := by decide +kernel
  have hlog : ∃ x before, ((fresh c).run leaving).log = x :: before ∧
      x.event = .start 1 ⟨.logout, ()⟩ ∧
      (told (x :: before)).map LogEntry.event = [.start 1 ⟨.logout, ()⟩,
        .body 0 (loginAnswer "x" 60), .status 0 200,
        .configure (.basic ⟨1⟩ "a" "new.lan" "two"), .start 0 ⟨.blockingStatus, ()⟩] ∧
      (x.sent.any fun r => r.method == .delete && r.sid == some "x" &&
        r.url.host == "new.lan".toList) = true :=
    ⟨_, _, rfl, rfl, by decide +kernel, by decide +kernel⟩
  obtain ⟨x, before, hlog, hx, hevents, hany⟩ := hlog
  obtain ⟨r, hr, hsent⟩ := List.any_eq_true.mp hany
  simp only [Bool.and_eq_true, beq_iff_eq] at hsent
  obtain ⟨⟨hmethod, hsid⟩, hhost⟩ := hsent
  refine ⟨hnew, x, before, hlog, hx, r, hr, hmethod, hsid, hhost, ?_⟩
  rintro ⟨snapshot, sid, hforce, -, hobtained, base, -, -, hok, -, -, -, hreach, -⟩
  simp only [List.map_eq_cons_iff, List.map_eq_nil_iff] at hevents
  obtain ⟨y, _, hlist, hy, b, _, rfl, hb, s, _, rfl, hs, f, _, rfl, hf, a, _, rfl, ha, rfl⟩ := hevents
  rw [hlist] at hforce hobtained
  have hstarted : started? old [s, f, a] 0 = some (⟨.blockingStatus, ()⟩, ⟨0, old⟩) := by
    simp [started?, inForce, hs, hf, ha]
  -- The only login that has come back was sent by the call that was started first.
  have hzero : snapshot.generation = 0 := by
    rcases obtained_cons_iff.mp (hobtained.of_cons (by simp [hy])) with hbrings | hnone
    · obtain ⟨id, body', hbody, hlogin, -⟩ := hbrings.returned
      obtain ⟨rfl, -⟩ := ClientEvent.body.inj (hb.symm.trans hbody)
      obtain ⟨call, snapshot', hstarted', hgeneration⟩ := hlogin.started
      obtain ⟨-, rfl⟩ := Prod.mk.inj (Option.some.inj (hstarted.symm.trans hstarted'))
      exact hgeneration.symm
    · cases ((hnone.of_cons (by simp [hs])).of_cons (by simp [hf])).of_cons (by simp [ha])
  obtain rfl : snapshot = ⟨0, old⟩ := hforce.eq_of_generation ⟨[], List.nil_suffix, rfl⟩ hzero
  rw [show old.baseAddress = .ok base from hok] at hbase
  have hold : base.host = "old.lan".toList := Except.ok.inj hbase
  rw [← hreach, hhost] at hold
  exact absurd hold (by decide)

end LoggedWire

end FilterFleet
