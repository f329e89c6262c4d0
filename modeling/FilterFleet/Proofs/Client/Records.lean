import FilterFleet.Proofs.Client.Exchanges

/-!
# What a log records of the calls

In every run of a client each call that is no logout stands where its exchanges say, and the account
of those that were given up is in order (`Recorded`, `LoggedClient.recorded_run`). So what the log
tells of a call is all that decides about it.
-/

namespace FilterFleet

open ClientLog NodeClient

namespace LoggedClient

/-- What the client holds of the calls that are no logouts is what their exchanges say, and the
account of those that were given up is in order. -/
structure Recorded (settings : NodeSettings) (first : NodeClient) (s : LoggedClient) : Prop where
  consistent : s.client.Consistent settings s.log
  replayed : ClientLog.client first s.log = s.client
  options : s.client.options = first.options
  stand : ∀ id l, s.client.call? id = some l → l.call.form?.isSome →
    ∃ found, (∀ sid, found = some sid ↔ Found first id sid s.log) ∧
      Stand first.options l.snapshot.settings l.call found (exchanges s.log id) l.progress
  gone : ∀ id call snapshot, s.client.call? id = none →
    started? settings s.log id = some (call, snapshot) → call.form?.isSome →
    ∃ found, (∀ sid, found = some sid ↔ Found first id sid s.log) ∧
      Account first.options snapshot.settings call found (exchanges s.log id) ∧
      ∀ x ∈ exchanges s.log id, x.response.IsSettled

variable {settings : NodeSettings} {first : NodeClient} {s : LoggedClient} {t : Moment}
  {e : ClientEvent} {id : Nat}

/-- The account of a call is in order, whether it was given up or not. -/
theorem Recorded.account (h : s.Recorded settings first) {call : NodeCall} {snapshot : Snapshot}
    (hstarted : started? settings s.log id = some (call, snapshot)) (hform : call.form?.isSome) :
    ∃ found, (∀ sid, found = some sid ↔ Found first id sid s.log) ∧
      Account first.options snapshot.settings call found (exchanges s.log id) := by
  cases hcall : s.client.call? id with
  | none =>
    obtain ⟨found, hfound, haccount, -⟩ := h.gone id call snapshot hcall hstarted hform
    exact ⟨found, hfound, haccount⟩
  | some l =>
    obtain ⟨rfl, rfl⟩ := Prod.mk.inj
      (Option.some.inj (hstarted.symm.trans (h.consistent.calls id l hcall).started))
    obtain ⟨found, hfound, hstand⟩ := h.stand id l hcall hform
    exact ⟨found, hfound, hstand.account⟩

theorem Recorded.formed (h : s.Recorded settings first) : s.client.Formed :=
  fun id l hl => (h.consistent.calls id l hl).form

/-- A session is found now, or it was found before by the same call. -/
theorem Recorded.found_step_iff (h : s.Recorded settings first) (t : Moment) (e : ClientEvent)
    (id : Nat) (sid : String) : Found first id sid (s.step t e).log ↔
      (∃ l, l.id = id ∧ s.client.Finds t e l sid) ∨
        (∀ call, e ≠ .start id call) ∧ Found first id sid s.log := by
  constructor
  · rintro (⟨hid, hfinds⟩ | ⟨hx, hfound⟩)
    · exact .inl ⟨_, hid, h.replayed ▸ hfinds⟩
    · exact .inr ⟨hx, hfound⟩
  · rintro (⟨l, hid, hfinds⟩ | ⟨hx, hfound⟩)
    · exact .now hid (h.replayed.symm ▸ hfinds)
    · exact .later hx hfound

theorem about_of_finds {c : NodeClient} {l : LiveCall} {sid : String} (h : c.Finds t e l sid) :
    e.about? = some l.id := by
  obtain ⟨hchecks, -⟩ := h
  cases hchecks <;> rfl

/-- An event that is not about a call leaves what is recorded of it. -/
theorem Recorded.found_step_of_ne (h : s.Recorded settings first) (habout : e.about? ≠ some id)
    (sid : String) : Found first id sid (s.step t e).log ↔ Found first id sid s.log := by
  rw [h.found_step_iff]
  refine ⟨?_, fun hfound => .inr ⟨?_, hfound⟩⟩
  · rintro (⟨l, rfl, hfinds⟩ | ⟨-, hfound⟩)
    · exact absurd (about_of_finds hfinds) habout
    · exact hfound
  · rintro call rfl
    exact habout rfl

/-! ## Every event -/

/-- Nothing is recorded about other calls. -/
theorem exchanges_step_of_ne (habout : e.about? ≠ some id) :
    exchanges (s.step t e).log id = exchanges s.log id :=
  exchanges_of_ne habout

theorem started?_step {call : NodeCall} {snapshot : Snapshot} (hstart : ∀ call, e ≠ .start id call)
    (h : started? settings (s.step t e).log id = some (call, snapshot)) :
    started? settings s.log id = some (call, snapshot) :=
  (started?_cons hstart).symm.trans h

/-- What is recorded of the call that an event is about. -/
theorem exchanges_step (habout : e.about? = some id) (hstart : ∀ call, e ≠ .start id call) :
    exchanges (s.step t e).log id =
      sentAndHeard (s.client.step t e).2 e (exchanges s.log id) :=
  exchanges_about habout hstart

/-- An event about a call that is there afterwards, and is no logout, is one of its turns. -/
theorem Recorded.turn (h : s.Recorded settings first) (habout : e.about? = some id)
    (habandon : e ≠ .abandon id) {call : NodeCall} {snapshot : Snapshot}
    (hstarted : started? settings (s.step t e).log id = some (call, snapshot))
    (hform : call.form?.isSome) : s.client.Turn t e id := by
  refine turn_of_about habout habandon (fun call' he => ?_) fun l hstart hl => ?_
  · have hx : (⟨t, e, (s.client.step t e).2⟩ : LogEntry).event = .start id call' := he
    obtain ⟨rfl, -⟩ := Prod.mk.inj (Option.some.inj ((started?_start hx).symm.trans hstarted))
    exact hform
  · obtain ⟨rfl, -⟩ := Prod.mk.inj (Option.some.inj
      ((h.consistent.calls id l hl).started.symm.trans (started?_step hstart hstarted)))
    exact hform

/-- A call that an event moves stands where its exchanges say. -/
theorem Recorded.stand_of_moved (h : s.Recorded settings first) {l : LiveCall}
    {p : Progress l.call.kind} (habout : e.about? = some l.id) (hform : l.call.form?.isSome)
    (hadvance : s.client.Advance t e l p (s.client.step t e).2) :
    ∃ found, (∀ sid, found = some sid ↔ Found first l.id sid (s.step t e).log) ∧
      Stand first.options l.snapshot.settings l.call found (exchanges (s.step t e).log l.id) p := by
  have hfinds : ∀ sid, (∃ l', l'.id = l.id ∧ s.client.Finds t e l' sid) ↔
      s.client.Finds t e l sid := fun sid =>
    ⟨fun ⟨l', hid, h'⟩ => hadvance.subject.unique h'.checks.subject hid.symm ▸ h',
      fun h' => ⟨l, rfl, h'⟩⟩
  rcases hadvance.subject with ⟨rfl, -, hgate⟩ | ⟨hcall, hstart⟩
  · -- A call that has just come stands at the gate.
    have hstand : Stand first.options l.snapshot.settings l.call none [] l.progress := by
      rw [hgate]
      exact .seeks .atGate
    obtain ⟨found, hfound, hstand'⟩ := hstand.advance h.options hadvance
    refine ⟨found, fun sid => ?_, ?_⟩
    · rw [hfound, h.found_step_iff, hfinds]
      simp
    · have hx : exchanges (s.step t (.start l.id l.call)).log l.id = _ := exchanges_start rfl
      rw [hx]
      simpa [sentAndHeard] using hstand'
  · obtain ⟨found, hfound, hstand⟩ := h.stand l.id l hcall hform
    obtain ⟨found', hfound', hstand'⟩ := hstand.advance h.options hadvance
    refine ⟨found', fun sid => ?_, ?_⟩
    · rw [hfound', h.found_step_iff, hfinds, hfound, and_iff_right hstart]
      exact or_comm
    · rw [exchanges_step habout hstart]
      exact hstand'

/-- A call stands where its exchanges say after an event that is about it. -/
theorem Recorded.stand_of_about (h : s.Recorded settings first) {l : LiveCall}
    (habout : e.about? = some id) (hcall : (s.client.step t e).1.call? id = some l)
    (hform : l.call.form?.isSome) :
    ∃ found, (∀ sid, found = some sid ↔ Found first id sid (s.step t e).log) ∧
      Stand first.options l.snapshot.settings l.call found (exchanges (s.step t e).log id)
        l.progress := by
  have habandon : e ≠ .abandon id := by
    rintro rfl
    rw [call?_step_abandon, if_pos rfl] at hcall
    cases hcall
  have hstarted : started? settings (s.step t e).log id = some (l.call, l.snapshot) :=
    ((h.consistent.step t e).1.calls id l hcall).started
  cases h.turn habout habandon hstarted hform with
  | @moved l' p hid hadvance hcall' =>
    obtain rfl := Option.some.inj (hcall'.symm.trans hcall)
    subst hid
    exact h.stand_of_moved habout hform hadvance
  | idle hstep hstart hquiet hdeaf =>
    rw [hstep] at hcall
    obtain ⟨found, hfound, hstand⟩ := h.stand id l hcall hform
    refine ⟨found, fun sid => ?_, ?_⟩
    · rw [hfound, h.found_step_iff, and_iff_right hstart]
      exact (or_iff_right fun ⟨l', _, hfinds⟩ => hquiet l' hfinds.checks).symm
    · rw [exchanges_step habout hstart, hstep]
      refine hstand.deaf (hdeaf l hcall) fun i hi => habandon ?_
      subst hi
      exact congrArg _ (Option.some.inj habout)

/-- The account of a call that is given up stays in order, whatever is heard about it later. -/
theorem Recorded.gone_of_about (h : s.Recorded settings first) {call : NodeCall}
    {snapshot : Snapshot} (habout : e.about? = some id)
    (hcall : (s.client.step t e).1.call? id = none)
    (hstarted : started? settings (s.step t e).log id = some (call, snapshot))
    (hform : call.form?.isSome) :
    ∃ found, (∀ sid, found = some sid ↔ Found first id sid (s.step t e).log) ∧
      Account first.options snapshot.settings call found (exchanges (s.step t e).log id) ∧
      ∀ x ∈ exchanges (s.step t e).log id, x.response.IsSettled := by
  by_cases habandon : e = .abandon id
  · have hstart : ∀ call, e ≠ .start id call := by simp [habandon]
    obtain ⟨found, hfound, haccount⟩ := h.account (started?_step hstart hstarted) hform
    have hexchanges : exchanges (s.step t e).log id =
        (exchanges s.log id).map (·.hear (.abandon id)) := by
      rw [exchanges_step habout hstart, habandon]
      rfl
    rw [hexchanges]
    refine ⟨found, fun sid => ?_, haccount.abandon id, fun x hx => ?_⟩
    · rw [hfound, h.found_step_iff, and_iff_right hstart]
      refine (or_iff_right fun ⟨l, _, hfinds⟩ => ?_).symm
      subst habandon
      cases hfinds.checks
    · obtain ⟨y, -, rfl⟩ := List.mem_map.mp hx
      exact y.response.isSettled_of_abandon id
  · cases h.turn habout habandon hstarted hform with
    | moved hid hadvance hcall' => cases hcall.symm.trans hcall'
    | idle hstep hstart hquiet hdeaf =>
      rw [hstep] at hcall
      obtain ⟨found, hfound, haccount, hsettled⟩ :=
        h.gone id call snapshot hcall (started?_step hstart hstarted) hform
      have hexchanges : exchanges (s.step t e).log id = exchanges s.log id := by
        rw [exchanges_step habout hstart, hstep]
        refine (List.map_congr_left fun x hx => ?_).trans (List.map_id _)
        rw [Exchange.hear, hsettled x hx]
        rfl
      rw [hexchanges]
      refine ⟨found, fun sid => ?_, haccount, hsettled⟩
      rw [hfound, h.found_step_iff, and_iff_right hstart]
      exact (or_iff_right fun ⟨l', _, hfinds⟩ => hquiet l' hfinds.checks).symm

theorem options_step (hc : s.client.Formed) (t : Moment) (e : ClientEvent) :
    (s.client.step t e).1.options = s.client.options := by
  cases s.client.step_cases t e with
  | idle hstep => rw [hstep]
  | refused _ hstep | loginAnswered _ _ hstep | finished _ _ hstep =>
    rw [hstep]
    rfl
  | logout i hstep =>
    obtain ⟨p, -, hplaced, -⟩ := s.client.startLogout_spec i
    rw [hstep]
    exact hplaced.options
  | checks h =>
    obtain ⟨p, hplaced, -⟩ := h.goes (h.form hc) t
    exact hplaced.options
  | @endsLogin e l result h =>
    rw [step_of_endsLogin h]
    obtain ⟨session, p, -, hplaced, -⟩ := s.client.endLogin_spec l result t.now (h.form hc)
    exact hplaced.options
  | @answered i l sid status _ _ hstep =>
    obtain ⟨session, p, -, hplaced, -⟩ := s.client.onStatus_spec l sid status t.stamp
    rw [hstep]
    exact hplaced.options
  | abandon i => rfl
  | configure settings => rfl

/-- What a step keeps. -/
theorem Recorded.step (h : s.Recorded settings first) (t : Moment) (e : ClientEvent) :
    (s.step t e).Recorded settings first := by
  refine ⟨(h.consistent.step t e).1, ?_, (options_step h.formed t e).trans h.options,
    fun id l hcall hform => ?_, fun id call snapshot hcall hstarted hform => ?_⟩
  · have hx : ClientLog.client first (s.step t e).log =
        ((ClientLog.client first s.log).step t e).1 := rfl
    rw [hx, h.replayed]
    rfl
  · by_cases habout : e.about? = some id
    · exact h.stand_of_about habout hcall hform
    · have hcall' := (call?_step_of_ne h.formed t habout).symm.trans hcall
      obtain ⟨found, hfound, hstand⟩ := h.stand id l hcall' hform
      refine ⟨found, fun sid => (hfound sid).trans (h.found_step_of_ne habout sid).symm, ?_⟩
      rw [exchanges_step_of_ne habout]
      exact hstand
  · by_cases habout : e.about? = some id
    · exact h.gone_of_about habout hcall hstarted hform
    · have hcall' := (call?_step_of_ne h.formed t habout).symm.trans hcall
      have hstart : ∀ call, e ≠ .start id call := by
        rintro call rfl
        exact habout rfl
      obtain ⟨found, hfound, haccount⟩ :=
        h.gone id call snapshot hcall' (started?_step hstart hstarted) hform
      refine ⟨found, fun sid => (hfound sid).trans (h.found_step_of_ne habout sid).symm, ?_⟩
      rw [exchanges_step_of_ne habout]
      exact haccount

/-- What each step keeps while all calls are recorded, a whole run keeps. -/
theorem Recorded.run_induction {P : LoggedClient → Prop} (h : s.Recorded settings first) (hs : P s)
    (hstep : ∀ s : LoggedClient, s.Recorded settings first → P s → ∀ t e, P (s.step t e))
    (events : List (Moment × ClientEvent)) : P (s.run events) := by
  induction events generalizing s with
  | nil => exact hs
  | cons e rest ih => exact ih (h.step e.1 e.2) (hstep s h hs e.1 e.2)

/-- In every run of a new client all calls are recorded. -/
theorem recorded_run {options : ClientOptions} {c : NodeClient}
    (hnew : NodeClient.new? settings options = .ok c) (events : List (Moment × ClientEvent)) :
    ((⟨c, []⟩ : LoggedClient).run events).Recorded settings c := by
  have hconsistent := consistent_new hnew
  have hrecorded : Recorded settings c ⟨c, []⟩ := by
    refine ⟨hconsistent, rfl, rfl, fun id l hcall => ?_, fun id call snapshot _ hstarted => ?_⟩
    · cases (hconsistent.calls id l hcall).started
    · cases hstarted
  exact hrecorded.run_induction hrecorded (fun _ h _ t e => h.step t e) events

end LoggedClient

end FilterFleet
