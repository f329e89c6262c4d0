import FilterFleet.Proofs.Cluster.Membership
import Mathlib.Logic.Relation
import Mathlib.Order.Nat

/-!
# A call to all members, from its start to its results

A call to a node by itself takes a *course*: it ends some time after the start, with an answer, with
a failure or by breaking down, or it never ends. A `Passage` is a call to all members of a cluster
under way, while the cluster goes on changing and time passes. Time does not pass what is due: a
call that ends is reported at that time, and at the deadline the calls that have not ended are given
up.

The main result is that a passage brings for each node that was a member at the start, and for no
other, what the course of that node alone comes to within the timeout (`results_exact`).
-/

namespace FilterFleet

/-! ## Courses -/

/-- How the call to one node goes by itself. -/
inductive Course (α : Type) where
  /-- It ends a time after the start. -/
  | ends (after : Span) (callEnd : CallEnd α)
  | never

namespace Course

variable {α : Type}

/-- The call is over within a time. -/
def InTime (timeout : Span) : Course α → Prop
  | .ends after _ => after ≤ timeout
  | .never => False

/-- What a call comes to that may take some time: its own outcome if it is over by then, and the
failure for being late otherwise. -/
def outcome (timeout : Span) : Course α → Except NodeError α
  | .ends after callEnd =>
    if after ≤ timeout then Flight.outcomeOf callEnd else .error (Flight.lateError timeout)
  | .never => .error (Flight.lateError timeout)

theorem outcome_of_late {timeout : Span} {w : Course α} (h : ¬ w.InTime timeout) :
    w.outcome timeout = .error (Flight.lateError timeout) := by
  cases w with
  | ends after callEnd => exact if_neg h
  | never => rfl

end Course

/-! ## Results of a flight -/

namespace Flight

variable {α : Type}

/-- The call to a node has been started and has no outcome so far. -/
def Awaits (f : Flight α) (id : NodeId) : Prop := ∃ l, f.legs.find? id = some l ∧ l.outcome = none

/-- A call to all members has one leg for each of them, which is awaited. -/
theorem find?_depart (c : Cluster) (now : Instant) (id : NodeId) :
    (c.depart α now).legs.find? id =
      (c.members.find? id).map fun m => ⟨m.handle, m.identity, none⟩ :=
  NodeMap.find?_map c.members _ id

theorem find?_report (f : Flight α) (id other : NodeId) (e : CallEnd α) :
    (f.report id e).legs.find? other =
      (f.legs.find? other).map fun l =>
        if other = id then Leg.settle (outcomeOf e) l else l :=
  NodeMap.find?_map f.legs _ other

theorem find?_expire (f : Flight α) (other : NodeId) :
    f.expire.legs.find? other =
      (f.legs.find? other).map (Leg.settle (.error (lateError f.timeout))) :=
  NodeMap.find?_map f.legs _ other

theorem settle_of_none {o : Except NodeError α} {l : Leg α} (h : l.outcome = none) :
    Leg.settle o l = { l with outcome := some o } := by
  rw [Leg.settle, h]
  rfl

theorem settle_of_some {o o' : Except NodeError α} {l : Leg α} (h : l.outcome = some o') :
    Leg.settle o l = l := by
  rw [Leg.settle, h]
  rfl

@[simp] theorem identity_settle (o : Except NodeError α) (l : Leg α) :
    (Leg.settle o l).identity = l.identity := by
  unfold Leg.settle
  split <;> rfl

theorem settle_outcome_ne_none (o : Except NodeError α) (l : Leg α) :
    (Leg.settle o l).outcome ≠ none := by
  cases h : l.outcome with
  | none => simp [settle_of_none h]
  | some o' => simp [settle_of_some h, h]

theorem awaits_report {f : Flight α} {id other : NodeId} {e : CallEnd α}
    (h : (f.report id e).Awaits other) : f.Awaits other ∧ other ≠ id := by
  obtain ⟨l, hl, hnone⟩ := h
  rw [find?_report] at hl
  obtain ⟨l₀, hl₀, rfl⟩ := Option.map_eq_some_iff.mp hl
  split at hnone
  · exact absurd hnone (settle_outcome_ne_none _ _)
  · next hne => exact ⟨⟨l₀, hl₀, hnone⟩, hne⟩

theorem not_awaits_expire (f : Flight α) (id : NodeId) : ¬ f.expire.Awaits id := by
  rintro ⟨l, hl, hnone⟩
  rw [find?_expire] at hl
  obtain ⟨l₀, -, rfl⟩ := Option.map_eq_some_iff.mp hl
  exact settle_outcome_ne_none _ _ hnone

/-- The results of a list of legs are one for each leg, with its identity and its outcome. -/
theorem settled?_eq_some {es : List (NodeId × Leg α)} {rs : List (NodeId × NodeResult α)}
    (h : settled? es = some rs) :
    rs.map (·.1) = es.map (·.1) ∧
      ∀ id, NodeMap.lookupId? id rs =
        (NodeMap.lookupId? id es).bind fun l => l.outcome.map (NodeResult.mk l.identity) := by
  induction es generalizing rs with
  | nil =>
    obtain rfl := Option.some.inj h
    exact ⟨rfl, fun _ => rfl⟩
  | cons x rest ih =>
    obtain ⟨i, l⟩ := x
    simp only [settled?, Option.bind_eq_bind, Option.bind_eq_some_iff, Option.some.injEq] at h
    obtain ⟨o, ho, results, hresults, rfl⟩ := h
    obtain ⟨hids, hfind⟩ := ih hresults
    refine ⟨by simp [hids], fun id => ?_⟩
    simp only [NodeMap.lookupId?]
    split
    · simp [ho]
    · exact hfind id

theorem settled?_isSome {es : List (NodeId × Leg α)} (h : ∀ e ∈ es, e.2.outcome ≠ none) :
    (settled? es).isSome := by
  induction es with
  | nil => rfl
  | cons x rest ih =>
    obtain ⟨o, ho⟩ := Option.ne_none_iff_exists'.mp (h x List.mem_cons_self)
    obtain ⟨rs, hrs⟩ := Option.isSome_iff_exists.mp (ih fun e he => h e (List.mem_cons_of_mem _ he))
    simp [settled?, ho, hrs]

/-- The results of a flight have one entry for each leg, with its identity and its outcome. -/
theorem results?_eq_some {f : Flight α} {r : FanOut α} (h : f.results? = some r) :
    r.ids = f.legs.ids ∧
      ∀ id, r.find? id =
        (f.legs.find? id).bind fun l => l.outcome.map (NodeResult.mk l.identity) := by
  obtain ⟨rs, hrs, rfl⟩ := Option.map_eq_some_iff.mp h
  obtain ⟨hids, hfind⟩ := settled?_eq_some hrs
  have hasc : Ascending rs := by
    have : (rs.map (·.1)).Pairwise (· < ·) := by
      rw [hids]
      exact List.pairwise_map.mpr f.legs.ascending
    exact List.pairwise_map.mp this
  have hentries : (NodeMap.ofList rs).entries = rs := NodeMap.entries_ofList hasc
  refine ⟨?_, fun id => ?_⟩
  · rw [NodeMap.ids, hentries]
    exact hids
  · rw [NodeMap.find?, hentries]
    exact hfind id

/-- There are results as soon as no call is awaited. -/
theorem results?_isSome {f : Flight α} (h : ∀ id, ¬ f.Awaits id) : f.results?.isSome := by
  have : (settled? f.legs.entries).isSome :=
    settled?_isSome fun ⟨id, l⟩ he ho => h id ⟨l, (NodeMap.mem_entries_iff _ _ _).mp he, ho⟩
  simpa [results?] using this

end Flight

/-! ## Passages -/

/-- A call to all members under way, beside the cluster. -/
structure Passage (α : Type) where
  cluster : Cluster
  flight : Flight α
  now : Instant

namespace Passage

variable {α : Type}

/-- The start of a call to all members. -/
def depart (α : Type) (c : Cluster) (now : Instant) : Passage α := ⟨c, c.depart α now, now⟩

/-- What can happen during a call to all members, where each node takes its course from `start`. -/
inductive Step (course : NodeId → Course α) (start : Instant) : Passage α → Passage α → Prop where
  | change (p : Passage α) (x : Cluster.Change) :
      Step course start p { p with cluster := p.cluster.change x }
  /-- Time passes, but not beyond the deadline and the ends of the calls that are awaited. -/
  | wait (p : Passage α) (t : Instant) (hlater : p.now ≤ t)
      (hdeadline : ∀ id, p.flight.Awaits id → t ≤ p.flight.deadline)
      (hends : ∀ id, p.flight.Awaits id → ∀ after e, course id = .ends after e →
        t ≤ start + after) :
      Step course start p { p with now := t }
  | ended (p : Passage α) {id : NodeId} {after : Span} {e : CallEnd α}
      (hcourse : course id = .ends after e) (hdue : start + after ≤ p.now) :
      Step course start p { p with flight := p.flight.report id e }
  /-- A call that ends at the deadline is in time. -/
  | expired (p : Passage α) (hdeadline : p.flight.deadline ≤ p.now)
      (hlate : ∀ id, p.flight.Awaits id → ∀ after e, course id = .ends after e →
        p.now < start + after) :
      Step course start p { p with flight := p.flight.expire }

/-- A run of a call to all members. -/
abbrev Runs (course : NodeId → Course α) (start : Instant) : Passage α → Passage α → Prop :=
  Relation.ReflTransGen (Step course start)

/-- The invariant of a call to the members of `c` that began at `start`: it keeps the nodes that it
started with; what is awaited is not overdue; and what is settled is what the course of the node
comes to. -/
structure Sound (course : NodeId → Course α) (c : Cluster) (start : Instant) (p : Passage α) :
    Prop where
  timeout : p.flight.timeout = c.callTimeout
  deadline : p.flight.deadline = start + c.callTimeout
  ids : p.flight.legs.ids = c.members.ids
  identity : ∀ id l, p.flight.legs.find? id = some l →
    ∃ m, c.members.find? id = some m ∧ l.identity = m.identity
  awaited : ∀ id, p.flight.Awaits id → p.now ≤ p.flight.deadline ∧
    ∀ after e, course id = .ends after e → p.now ≤ start + after
  settled : ∀ id l o, p.flight.legs.find? id = some l → l.outcome = some o →
    o = (course id).outcome c.callTimeout

section Runs

variable {course : NodeId → Course α} {c : Cluster} {start : Instant}

theorem sound_depart : Sound course c start (depart α c start) := by
  have hlegs : ∀ id l, (depart α c start).flight.legs.find? id = some l →
      ∃ m, c.members.find? id = some m ∧ l = ⟨m.handle, m.identity, none⟩ := by
    intro id l hl
    obtain ⟨m, hm, rfl⟩ :=
      Option.map_eq_some_iff.mp ((Flight.find?_depart c start id).symm.trans hl)
    exact ⟨m, hm, rfl⟩
  refine ⟨rfl, rfl, NodeMap.ids_map _ _, ?_, ?_, ?_⟩
  · intro id l hl
    obtain ⟨m, hm, rfl⟩ := hlegs id l hl
    exact ⟨m, hm, rfl⟩
  · exact fun _ _ => ⟨Nat.le_add_right _ _, fun _ _ _ => Nat.le_add_right _ _⟩
  · intro id l o hl ho
    obtain ⟨m, -, rfl⟩ := hlegs id l hl
    cases ho

/-- Settling legs keeps the invariant, if a leg that was awaited is settled with what the course of
its node comes to. -/
theorem Sound.settle {p : Passage α} (hp : Sound course c start p) {f : NodeId → Leg α → Leg α}
    (hf : ∀ id l, p.flight.legs.find? id = some l → f id l = l ∨
      ∃ o, f id l = Flight.Leg.settle o l ∧
        (l.outcome = none → o = (course id).outcome c.callTimeout)) :
    Sound course c start { p with flight := { p.flight with legs := p.flight.legs.map f } } := by
  have hleg : ∀ id l', (p.flight.legs.map f).find? id = some l' →
      ∃ l, p.flight.legs.find? id = some l ∧ l' = f id l := by
    intro id l' hl'
    rw [NodeMap.find?_map] at hl'
    obtain ⟨l, hl, rfl⟩ := Option.map_eq_some_iff.mp hl'
    exact ⟨l, hl, rfl⟩
  refine ⟨hp.timeout, hp.deadline, (NodeMap.ids_map _ _).trans hp.ids, ?_, ?_, ?_⟩
  · intro id l' hl'
    obtain ⟨l, hl, rfl⟩ := hleg id l' hl'
    obtain ⟨m, hm, hid⟩ := hp.identity id l hl
    refine ⟨m, hm, ?_⟩
    rcases hf id l hl with heq | ⟨o, heq, -⟩
    · rw [heq, hid]
    · rw [heq, Flight.identity_settle, hid]
  · rintro id ⟨l', hl', hnone⟩
    obtain ⟨l, hl, rfl⟩ := hleg id l' hl'
    rcases hf id l hl with heq | ⟨o, heq, -⟩
    · exact hp.awaited id ⟨l, hl, heq ▸ hnone⟩
    · rw [heq] at hnone
      exact absurd hnone (Flight.settle_outcome_ne_none o l)
  · intro id l' o' hl' ho'
    obtain ⟨l, hl, rfl⟩ := hleg id l' hl'
    rcases hf id l hl with heq | ⟨o, heq, ho⟩
    · exact hp.settled id l o' hl (heq ▸ ho')
    · rw [heq] at ho'
      cases hout : l.outcome with
      | none =>
        rw [Flight.settle_of_none hout] at ho'
        exact (Option.some.inj ho').symm.trans (ho hout)
      | some x =>
        rw [Flight.settle_of_some hout] at ho'
        exact hp.settled id l o' hl ho'

theorem Sound.report {p : Passage α} (hp : Sound course c start p) {id : NodeId} {after : Span}
    {e : CallEnd α} (hcourse : course id = .ends after e) (hdue : start + after ≤ p.now) :
    Sound course c start { p with flight := p.flight.report id e } := by
  refine hp.settle fun other l hl => ?_
  by_cases hother : other = id
  · subst hother
    refine .inr ⟨Flight.outcomeOf e, if_pos rfl, fun hnone => ?_⟩
    -- The call is not overdue, so it has ended within the timeout.
    have hnow : p.now ≤ start + c.callTimeout :=
      hp.deadline ▸ (hp.awaited other ⟨l, hl, hnone⟩).1
    have hin : after ≤ c.callTimeout := Nat.le_of_add_le_add_left (Nat.le_trans hdue hnow)
    rw [hcourse, Course.outcome, if_pos hin]
  · exact .inl (if_neg hother)

theorem Sound.expire {p : Passage α} (hp : Sound course c start p)
    (hlate : ∀ id, p.flight.Awaits id → ∀ after e, course id = .ends after e →
      p.now < start + after)
    (hdeadline : p.flight.deadline ≤ p.now) :
    Sound course c start { p with flight := p.flight.expire } := by
  refine hp.settle fun id l hl => .inr ⟨.error (Flight.lateError p.flight.timeout), rfl, ?_⟩
  intro hnone
  rw [hp.timeout, Course.outcome_of_late]
  -- A call that is awaited still at the deadline ends after it.
  intro hin
  cases hcourse : course id with
  | never =>
    rw [hcourse] at hin
    exact hin
  | ends after e =>
    rw [hcourse] at hin
    have hend : p.now < start + after := hlate id ⟨l, hl, hnone⟩ after e hcourse
    have hstart : start + c.callTimeout ≤ p.now := hp.deadline ▸ hdeadline
    exact Nat.not_le_of_lt hend (Nat.le_trans (Nat.add_le_add_left hin _) hstart)

/-- What one step preserves. -/
theorem Sound.step {p q : Passage α} (hp : Sound course c start p)
    (h : Step course start p q) : Sound course c start q := by
  cases h with
  | change x => exact ⟨hp.timeout, hp.deadline, hp.ids, hp.identity, hp.awaited, hp.settled⟩
  | wait t hlater hdeadline hends =>
    exact ⟨hp.timeout, hp.deadline, hp.ids, hp.identity,
      fun id hid => ⟨hdeadline id hid, hends id hid⟩, hp.settled⟩
  | ended hcourse hdue => exact hp.report hcourse hdue
  | expired hdeadline hlate => exact hp.expire hlate hdeadline

/-- What a whole run preserves. -/
theorem Sound.runs {p q : Passage α} (hp : Sound course c start p)
    (h : Runs course start p q) : Sound course c start q := by
  induction h with
  | refl => exact hp
  | tail _ hstep ih => exact ih.step hstep

/-! ## Every run can be brought to its results -/

/-- The times at which something is due for a call that is awaited. -/
def Due (course : NodeId → Course α) (start : Instant) (p : Passage α) (t : Instant) : Prop :=
  t = p.flight.deadline ∨
    ∃ id, p.flight.Awaits id ∧ ∃ after e, course id = .ends after e ∧ t = start + after

/-- While a call is awaited, time can go on to the first time at which something is due. -/
theorem exists_first_due {p : Passage α} (hp : Sound course c start p) {id : NodeId}
    (hid : p.flight.Awaits id) :
    ∃ t, Due course start p t ∧ (∀ t', Due course start p t' → t ≤ t') ∧
      Step course start p { p with now := t } := by
  classical
  have hex : ∃ t, Due course start p t := ⟨_, .inl rfl⟩
  have hfirst : ∀ t', Due course start p t' → Nat.find hex ≤ t' := fun _ h => Nat.find_min' hex h
  refine ⟨Nat.find hex, Nat.find_spec hex, hfirst, ?_⟩
  refine .wait p _ ?_ (fun _ _ => hfirst _ (.inl rfl)) fun other hother after e he =>
    hfirst _ (.inr ⟨other, hother, after, e, he, rfl⟩)
  rcases Nat.find_spec hex with h | ⟨other, hother, after, e, he, h⟩
  · rw [h]
    exact (hp.awaited id hid).1
  · rw [h]
    exact (hp.awaited other hother).2 after e he

/-- While a call is awaited, a run leads to a state in which fewer calls are. -/
theorem exists_fewer_awaited {p : Passage α} (hp : Sound course c start p) {id : NodeId}
    (hid : p.flight.Awaits id) :
    ∃ q, Runs course start p q ∧ (∀ i, q.flight.Awaits i → p.flight.Awaits i) ∧
      ∃ other, p.flight.Awaits other ∧ ¬ q.flight.Awaits other := by
  obtain ⟨t, hdue, hfirst, hwait⟩ := exists_first_due hp hid
  by_cases hends : ∃ id, p.flight.Awaits id ∧
      ∃ after e, course id = .ends after e ∧ t = start + after
  · obtain ⟨other, hother, after, e, he, rfl⟩ := hends
    have hended : Step course start { p with now := start + after } _ :=
      .ended { p with now := start + after } he (Nat.le_refl _)
    exact ⟨_, (Relation.ReflTransGen.single hwait).tail hended,
      fun i hi => (Flight.awaits_report hi).1, other, hother,
      fun h => (Flight.awaits_report h).2 rfl⟩
  · -- Nothing ends before the deadline is reached, so that the rest is given up.
    have ht : t = p.flight.deadline := hdue.resolve_right hends
    have hexpired : Step course start { p with now := t }
        { p with flight := p.flight.expire, now := t } := by
      refine .expired { p with now := t } (Nat.le_of_eq ht.symm) fun i hi after e he => ?_
      refine Nat.lt_of_le_of_ne (hfirst _ (.inr ⟨i, hi, after, e, he, rfl⟩)) fun heq => ?_
      exact hends ⟨i, hi, after, e, he, heq⟩
    exact ⟨_, (Relation.ReflTransGen.single hwait).tail hexpired,
      fun i hi => absurd hi (Flight.not_awaits_expire _ i), id, hid,
      Flight.not_awaits_expire _ id⟩

/-- From every sound state a run leads to results. The induction is on a list of the ids that may
still be awaited. -/
theorem exists_results {p : Passage α} (hp : Sound course c start p) (todo : List NodeId)
    (htodo : ∀ id, p.flight.Awaits id → id ∈ todo) :
    ∃ q r, Runs course start p q ∧ q.flight.results? = some r := by
  induction hn : todo.length using Nat.strong_induction_on generalizing p todo with
  | _ n ih =>
    by_cases hsome : ∃ id, p.flight.Awaits id
    · obtain ⟨id, hid⟩ := hsome
      obtain ⟨q, hpq, hsub, other, hother, hgone⟩ := exists_fewer_awaited hp hid
      have hrest : ∀ i, q.flight.Awaits i → i ∈ todo.filter (· ≠ other) := by
        intro i hi
        refine List.mem_filter.mpr ⟨htodo i (hsub i hi), decide_eq_true ?_⟩
        rintro rfl
        exact hgone hi
      have hless : (todo.filter (· ≠ other)).length < n :=
        hn ▸ List.length_filter_lt_length_iff_exists.mpr ⟨other, htodo other hother, by simp⟩
      obtain ⟨q', r, hqq', hr⟩ := ih _ hless (hp.runs hpq) _ hrest rfl
      exact ⟨q', r, hpq.trans hqq', hr⟩
    · obtain ⟨r, hr⟩ := Option.isSome_iff_exists.mp
        (Flight.results?_isSome fun id hid => hsome ⟨id, hid⟩)
      exact ⟨p, r, .refl, hr⟩

end Runs

/-! ## The results -/

/-- What the result of a member says: it is that of the node of this id, it has a reply or a
failure and not both, and it is what the course of the node comes to within the timeout. -/
structure Exact (timeout : Span) (w : Course α) (id : NodeId) (res : NodeResult α) : Prop where
  node : res.node.id = id
  success_iff_error : res.success = true ↔ res.error? = none
  success_iff_response : res.success = true ↔ ∃ a, res.response? = some a
  outcome : res.outcome = w.outcome timeout
  late : ¬ w.InTime timeout → ∃ e, res.error? = some e ∧ e.kind = .timeout ∧ e.retryable = true
  broken : ∀ after, w = .ends after .broken → after ≤ timeout →
    ∃ e, res.error? = some e ∧ e.kind = .unknown

theorem exact_of_outcome {timeout : Span} {w : Course α} {id : NodeId} {res : NodeResult α}
    (hid : res.node.id = id) (hout : res.outcome = w.outcome timeout) :
    Exact timeout w id res := by
  refine ⟨hid, ?_, ?_, hout, fun hlate => ?_, fun after hw hin => ?_⟩
  · rw [NodeResult.success_eq_error?_isNone, Option.isNone_iff_eq_none]
  · exact Option.isSome_iff_exists
  · rw [Course.outcome_of_late hlate] at hout
    exact ⟨_, by rw [NodeResult.error?, hout], rfl, rfl⟩
  · rw [hw, Course.outcome, if_pos hin] at hout
    exact ⟨_, by rw [NodeResult.error?, hout]; rfl, rfl⟩

/-- **A call to all members is complete, exact and isolating.**  In every run of a call to the
members of a reachable cluster, whatever course each node takes and however the membership changes
meanwhile: when there are results, they are one for each id that was a member at the start, and
each is exact for the course of its own node; there are results once the deadline is over; and
there is a way to go on to results from every state. -/
theorem results_exact {c : Cluster} (hc : c.Reachable) (course : NodeId → Course α)
    (start : Instant) {p : Passage α} (hp : Runs course start (depart α c start) p) :
    (∀ r, p.flight.results? = some r →
      r.ids = c.members.ids ∧
      ∀ id res, r.find? id = some res → Exact c.callTimeout (course id) id res) ∧
    (start + c.callTimeout < p.now → p.flight.results?.isSome) ∧
    ∃ q r, Runs course start p q ∧ q.flight.results? = some r := by
  have hsound : Sound course c start p := sound_depart.runs hp
  refine ⟨fun r hr => ?_, fun hover => ?_, ?_⟩
  · obtain ⟨hids, hfind⟩ := Flight.results?_eq_some hr
    refine ⟨hids.trans hsound.ids, fun id res hres => ?_⟩
    rw [hfind] at hres
    obtain ⟨l, hl, hres⟩ := Option.bind_eq_some_iff.mp hres
    obtain ⟨o, ho, rfl⟩ := Option.map_eq_some_iff.mp hres
    obtain ⟨m, hm, hidentity⟩ := hsound.identity id l hl
    refine exact_of_outcome ?_ (hsound.settled id l o hl ho)
    rw [hidentity]
    exact hc.keyed id m hm
  · refine Flight.results?_isSome fun id hid => ?_
    have hnow : p.now ≤ start + c.callTimeout := hsound.deadline ▸ (hsound.awaited id hid).1
    exact Nat.not_le_of_lt hover hnow
  · exact exists_results hsound p.flight.legs.ids fun id ⟨l, hl, _⟩ =>
      (NodeMap.mem_ids_iff _ _).mpr ⟨l, hl⟩

/-! ## A call with a late node and a change of the membership -/

/-- Node 1 answers after 5 ms, any other node never does. -/
def oneAnswers (id : NodeId) : Course Unit :=
  if id = ⟨1⟩ then .ends 5 (.answered (.ok ())) else .never

theorem oneAnswers_ends {id : NodeId} {after : Span} {e : CallEnd Unit}
    (h : oneAnswers id = .ends after e) : id = ⟨1⟩ ∧ after = 5 := by
  unfold oneAnswers at h
  split at h
  · next hid =>
    cases h
    exact ⟨hid, rfl⟩
  · cases h

/-- Nodes 1 and 2 are called, node 1 is removed before it answers, and node 2 is late. -/
theorem results_exact_of_late_node :
    let c := ((Cluster.empty 10 0).change (.add ⟨0, ⟨⟨1⟩, "a", "a.lan"⟩, none⟩)).change
      (.add ⟨1, ⟨⟨2⟩, "b", "b.lan"⟩, none⟩)
    ∃ r, (((c.depart Unit 0).report ⟨1⟩ (.answered (.ok ()))).expire).results? = some r ∧
      r.ids = [⟨1⟩, ⟨2⟩] ∧ ∀ id res, r.find? id = some res → Exact 10 (oneAnswers id) id res := by
  intro c
  have hc : c.Reachable := .change _ (.change _ (.empty 10 0))
  have hreport : Runs oneAnswers 0 (depart Unit c 0)
      ⟨c.change (.remove ⟨1⟩), (c.depart Unit 0).report ⟨1⟩ (.answered (.ok ())), 5⟩ := by
    refine .tail (.tail (.single (.change _ (.remove ⟨1⟩))) (.wait _ 5 ?_ ?_ ?_)) (.ended _ rfl ?_)
    · exact Nat.zero_le 5
    · exact fun _ _ => Nat.le_add_left 5 5
    · rintro id - after e h
      rw [(oneAnswers_ends h).2]
    · exact Nat.le_refl 5
  have hnever : ∀ id, ((c.depart Unit 0).report ⟨1⟩ (.answered (.ok ()))).Awaits id →
      ∀ after e, oneAnswers id ≠ .ends after e := fun id hid after e h =>
    (Flight.awaits_report hid).2 (oneAnswers_ends h).1
  have hruns := Relation.ReflTransGen.tail (.tail hreport (.wait _ 10 (by decide)
    (fun _ _ => Nat.le_refl 10) fun id hid after e h => absurd h (hnever id hid after e)))
    (.expired _ (Nat.le_refl 10) fun id hid after e h => absurd h (hnever id hid after e))
  have hall := results_exact hc oneAnswers 0 hruns
  exact ⟨_, rfl, rfl, (hall.1 _ rfl).2⟩

end Passage

end FilterFleet
