import FilterFleet.Proofs.Health.Trail

/-!
# The grace period

A monitor that nobody listens to any more drains for the grace period before it becomes idle. The
period is counted from the moment at which the loop took notice that nobody was left, and at its end
there is nobody (`Trail.idles_after_draining`). Between the two somebody may come and leave again
before the loop goes on; the loop does not notice such a visit and does not begin to count anew, so
that it may stop before the nodes have been without a listener for the whole grace period
(`Trail.unnoticed_visit_cuts_grace`).
-/

namespace FilterFleet

namespace Polling

variable {p q : Polling} {m : Move}

/-- How a monitor comes to drain. It was draining already, or it was active and the loop has just
found that nobody is left; then the grace period begins. -/
theorem draining_cases (hatt : p.IsAttuned) (h : p.step? m = some q) (hphase : q.phase = .draining) :
    (p.phase = .draining ∧ q.loop.graceEnd? = p.loop.graceEnd?) ∨
    (p.phase = .active ∧ q.subscribers = 0 ∧ q.loop.graceEnd? = some (q.now + q.grace)) := by
  rcases step?_cases h with haside | ⟨w, tick, graceEnd, next, -, hready, hloop, hwoken, hon⟩ |
    ⟨results, stamp, period, -, hsweeping, hon⟩
  · exact .inl ⟨haside.phase.symm.trans hphase, by rw [haside.loop]⟩
  · have hthen : next.2 = .draining := hon.phase.symm.trans hphase
    rw [hon.loop, hloop]
    cases hwoken with
    | stopped | opened | resumed | closed | expired | reopened | reopenedDue => simp at hthen
    | deserted hactive hnobody =>
      refine .inr ⟨hactive, hon.subscribers.trans hnobody, ?_⟩
      rw [hon.now, hon.grace]
      rfl
    | unmoved | early | due => exact .inl ⟨hthen, rfl⟩
  · rcases HealthLoop.afterSweep_cases hsweeping period with ⟨hloop, hnext⟩ | ⟨graceEnd, hloop, hnext⟩
    · -- before its first sweep the monitor is idle, and it does not drain after it
      have hidle : p.phase = .idle := hatt.off (by rw [hloop]; rfl)
      have hthen := hon.phase.symm.trans hphase
      rw [hnext, hidle] at hthen
      split at hthen <;> simp at hthen
    · have hthen := hon.phase.symm.trans hphase
      rw [hon.loop, hnext, hloop]
      rw [hnext] at hthen
      exact .inl ⟨hthen, rfl⟩

/-- How a monitor comes to be idle. The loop is stopped, or there is no grace period, or the one
that was running is over and nobody is there. -/
theorem idle_cases (h : p.step? m = some q) (hbefore : p.phase ≠ .idle) (hphase : q.phase = .idle) :
    q.loop = .stopped ∨ p.grace = 0 ∨
      (q.now = p.now ∧ p.subscribers = 0 ∧ q.subscribers = 0 ∧
        ∃ g, p.loop.graceEnd? = some g ∧ g ≤ p.now) := by
  rcases step?_cases h with haside | ⟨w, tick, graceEnd, next, -, hready, hloop, hwoken, hon⟩ |
    ⟨results, stamp, period, -, hsweeping, hon⟩
  · exact absurd (haside.phase.symm.trans hphase) hbefore
  · have hthen : next.2 = .idle := hon.phase.symm.trans hphase
    cases hwoken with
    | stopped => exact .inl hon.loop
    | closed _ _ hgrace => exact .inr (.inl hgrace)
    | opened | resumed | deserted | reopened | reopenedDue => simp at hthen
    | unmoved | early | due => exact absurd hthen hbefore
    | expired hend hover hnobody =>
      have hnobodyThen : q.subscribers = 0 := hon.subscribers.trans hnobody
      exact .inr (.inr ⟨hon.now, hnobody, hnobodyThen, _, by rw [hloop]; exact hend, hover⟩)
  · have hthen := hon.phase.symm.trans hphase
    rcases HealthLoop.afterSweep_cases hsweeping period with ⟨-, hnext⟩ | ⟨graceEnd, -, hnext⟩
    · rw [hnext] at hthen
      split at hthen
      · simp at hthen
      · exact absurd hthen hbefore
    · rw [hnext] at hthen
      exact absurd hthen hbefore

/-- The monitor drains. -/
def isDraining (p : Polling) : Bool := p.phase = .draining

/-- Nobody is subscribed. -/
def isDeserted (p : Polling) : Bool := p.subscribers = 0

end Polling

namespace Trail

open Polling (Move)

variable {p q d : Polling} {past : Trail} {m : Move}

/-- The monitor has been draining since it was in the state `d`, and the grace period is counted from
there. Nobody has been there for as long, but for visits during the draining. -/
structure DrainsSince (d p : Polling) (past : Trail) : Prop where
  since : since? Polling.isDraining (p :: past) = some d
  graceEnd : p.loop.graceEnd? = some (d.now + p.grace)
  deserted : d.subscribers = 0
  visits : ∀ first, since? Polling.isDeserted (p :: past) = some first →
    first.now ≤ d.now ∨ first.phase = .draining ∧ d.now ≤ first.now

/-- What the grace period of a loop has to do with its trail. -/
structure GraceKept (grace : Span) (p : Polling) (past : Trail) : Prop where
  attuned : p.IsAttuned
  grace : p.grace = grace
  /-- Time does not go back. -/
  ordered : ∀ x ∈ p :: past, x.now ≤ p.now
  draining : p.phase = .draining → ∃ d, DrainsSince d p past

theorem graceKept_of_starting (h : p.Starting) : GraceKept p.grace p [] where
  attuned := h.isAttuned
  grace := rfl
  ordered x hx := by
    obtain rfl := List.mem_singleton.mp hx
    exact Nat.le_refl _
  draining hphase := by
    rw [h.idle] at hphase
    exact absurd hphase (by decide)

namespace DrainsSince

variable {grace : Span}

/-- The grace period begins. -/
theorem begin (h : GraceKept grace p past) (hstep : p.step? m = some q)
    (hbefore : p.phase = .active) (hphase : q.phase = .draining) (hnobody : q.subscribers = 0)
    (hend : q.loop.graceEnd? = some (q.now + q.grace)) : DrainsSince q q (p :: past) where
  since := since?_of_new (by simp [Polling.isDraining, hphase])
    (by simp [Polling.isDraining, hbefore])
  graceEnd := hend
  deserted := hnobody
  visits first hfirst := by
    left
    rcases List.mem_cons.mp (mem_of_since? hfirst) with rfl | hmem
    · exact Nat.le_refl _
    · exact Nat.le_trans (h.ordered first hmem) (Polling.now_le_step hstep)

/-- The grace period goes on. If somebody came and left, it was after it began. -/
theorem goesOn (h : GraceKept grace p past) (hd : DrainsSince d p past) (hstep : p.step? m = some q)
    (hphase : q.phase = .draining) (hend : q.loop.graceEnd? = p.loop.graceEnd?) :
    DrainsSince d q (p :: past) where
  since := since?_of_old (by simp [Polling.isDraining, hphase]) hd.since
  graceEnd := by rw [hend, Polling.grace_step hstep, hd.graceEnd]
  deserted := hd.deserted
  visits first hfirst := by
    obtain ⟨-, ⟨-, rfl⟩ | hold⟩ := since?_eq_some hfirst
    · have hbegan : d.now ≤ p.now := h.ordered d (mem_of_since? hd.since)
      exact .inr ⟨hphase, Nat.le_trans hbegan (Polling.now_le_step hstep)⟩
    · exact hd.visits first hold

end DrainsSince

/-- **Every move keeps count of the grace period.** -/
theorem GraceKept.step {grace : Span} (h : GraceKept grace p past) (hstep : p.step? m = some q) :
    GraceKept grace q (p :: past) where
  attuned := h.attuned.step hstep
  grace := (Polling.grace_step hstep).trans h.grace
  ordered x hx := by
    rcases List.mem_cons.mp hx with rfl | hx
    · exact Nat.le_refl _
    · exact Nat.le_trans (h.ordered x hx) (Polling.now_le_step hstep)
  draining hphase := by
    rcases Polling.draining_cases h.attuned hstep hphase with ⟨hbefore, hend⟩ |
      ⟨hbefore, hnobody, hend⟩
    · obtain ⟨d, hd⟩ := h.draining hbefore
      exact ⟨d, hd.goesOn h hstep hphase hend⟩
    · exact ⟨q, .begin h hstep hbefore hphase hnobody hend⟩

/-- What a whole run preserves. -/
theorem GraceKept.run {moves : List Move} (hp : p.Starting)
    (hrun : run? p moves = some (q :: past)) : GraceKept p.grace q past := by
  have hstep : ∀ q past m r, GraceKept p.grace q past → True → q.step? m = some r →
      GraceKept p.grace r (q :: past) := fun _ _ _ _ hq _ hr => hq.step hr
  exact run?_induction (graceKept_of_starting hp) hstep (fun _ _ => trivial) hrun

/-- What has come before when the monitor has become idle in the state `r`. -/
structure Drained (r : Polling) (past : Trail) : Prop where
  /-- Nobody is there. -/
  deserted : r.subscribers = 0
  /-- It has drained for the whole grace period, and nobody was there when it began to. Nobody has
  been there for as long, unless somebody came and left during the draining. -/
  drained : ∃ d first, since? Polling.isDraining past = some d ∧ d.subscribers = 0 ∧
    d.now + r.grace ≤ r.now ∧ since? Polling.isDeserted (r :: past) = some first ∧
    (first.now + r.grace ≤ r.now ∨ first.phase = .draining ∧ d.now ≤ first.now)

/-- **The monitor drains for the whole grace period.** In every run with a grace period, until the
shutdown, the monitor becomes idle only when nobody is subscribed, after it has been draining for at
least the grace period. If nobody came in the meantime there has been nobody for at least as long. -/
theorem idles_after_draining {r : Polling} {moves : List Move} (hp : p.Starting)
    (hgrace : p.grace ≠ 0) (hrun : run? p moves = some (r :: q :: past))
    (hbefore : q.phase ≠ .idle) (hafter : r.phase = .idle) (hon : r.loop ≠ .stopped) :
    Drained r (q :: past) := by
  obtain ⟨m, -, before, -, hrunBefore, hstep⟩ := run?_eq_some_cons_cons hrun
  have h : GraceKept p.grace q past := .run hp hrunBefore
  rcases Polling.idle_cases hstep hbefore hafter with hstopped | hzero |
    ⟨hnow, hnobody, hdeserted, g, hend, hover⟩
  · exact absurd hstopped hon
  · exact absurd (h.grace.symm.trans hzero) hgrace
  · have hdraining : q.phase = .draining := h.attuned.draining.mpr (by rw [hend]; rfl)
    obtain ⟨d, hd⟩ := h.draining hdraining
    obtain rfl : d.now + q.grace = g := Option.some.inj (hd.graceEnd.symm.trans hend)
    obtain ⟨first, hfirst⟩ := exists_since? (P := Polling.isDeserted) (p := q) past
      (by simp [Polling.isDeserted, hnobody])
    have hsince := since?_of_old (q := r) (by simp [Polling.isDeserted, hdeserted]) hfirst
    rw [← Polling.grace_step hstep, ← hnow] at hover
    refine ⟨hdeserted, d, first, hd.since, hd.deserted, hover, hsince, ?_⟩
    rcases hd.visits first hfirst with hearlier | hvisit
    · exact .inl (Nat.le_trans (Nat.add_le_add_right hearlier _) hover)
    · exact .inr hvisit

/-- A loop that starts with a minute between sweeps and a grace period of ten seconds. -/
def patient : Polling :=
  { Polling.alone with
    fleet := { Polling.alone.fleet with monitor := .new (Span.ofSecs 60) (Span.ofSecs 10) } }

/-- Somebody comes and leaves after the first sweep, and the loop takes notice of both. -/
def departure : List Move :=
  [.landed .empty ⟨0⟩ (Span.ofSecs 60), .called (.subscribe [nodeHealthTopic]), .woken .change,
    .landed .empty ⟨0⟩ (Span.ofSecs 60), .called (.cancel 1), .woken .change]

/-- Ten seconds after the departure the grace period is over, and the monitor becomes idle. -/
theorem idles_after_departure :
    ∃ r q past, patient.Starting ∧ patient.grace ≠ 0 ∧
      run? patient (departure ++ [.passed (Span.ofSecs 10), .woken .timer]) =
        some (r :: q :: past) ∧
      q.phase ≠ .idle ∧ r.phase = .idle ∧ r.loop ≠ .stopped ∧ Drained r (q :: past) := by
  have hstarting : patient.Starting := ⟨rfl, rfl⟩
  have hgrace : patient.grace ≠ 0 := by decide
  have hview : (run? patient (departure ++ [.passed (Span.ofSecs 10), .woken .timer])).map
      (fun trail => (trail.take 2).map fun p => (p.phase, p.loop)) =
        some [(.idle, .waiting (Span.ofSecs 60) none),
          (.draining, .waiting (Span.ofSecs 60) (some (Span.ofSecs 10)))] := rfl
  obtain ⟨r, q, past, hrun, hr, hq⟩ := exists_last_of_view hview
  obtain ⟨hafter, hloop⟩ := Prod.mk.inj hr
  have hbefore : q.phase ≠ .idle := by simp [(Prod.mk.inj hq).1]
  have hon : r.loop ≠ .stopped := by simp [hloop]
  exact ⟨r, q, past, hstarting, hgrace, hrun, hbefore, hafter, hon,
    idles_after_draining hstarting hgrace hrun hbefore hafter hon⟩

/-- Nine seconds after the departure somebody else comes and leaves, and the loop is woken only after
both. -/
def visit : List Move :=
  [.passed (Span.ofSecs 9), .called (.subscribe [nodeHealthTopic]), .called (.cancel 2),
    .woken .change, .passed (Span.ofSecs 1), .woken .timer]

/-- A visit between two wake-ups goes unnoticed, although the loop is woken at once: it idles one
second after the last subscriber has left, where the grace period is of ten seconds. -/
theorem unnoticed_visit_cuts_grace :
    ∃ r q past first, patient.Starting ∧ patient.grace = Span.ofSecs 10 ∧
      run? patient (departure ++ visit) = some (r :: q :: past) ∧
      q.phase ≠ .idle ∧ r.phase = .idle ∧ r.loop ≠ .stopped ∧
      since? Polling.isDeserted (r :: q :: past) = some first ∧
      r.now = first.now + Span.ofSecs 1 := by
  have hview : (run? patient (departure ++ visit)).map
      (fun trail => (trail.take 2).map fun p => (p.phase, p.loop, p.now)) =
        some [(.idle, .waiting (Span.ofSecs 60) none, Span.ofSecs 10),
          (.draining, .waiting (Span.ofSecs 60) (some (Span.ofSecs 10)), Span.ofSecs 10)] := rfl
  have hsince : (run? patient (departure ++ visit)).bind
      (fun trail => (since? Polling.isDeserted trail).map (·.now)) = some (Span.ofSecs 9) := rfl
  obtain ⟨r, q, past, hrun, hr, hq⟩ := exists_last_of_view hview
  simp only [Prod.mk.injEq] at hr hq
  obtain ⟨hafter, hloop, hnow⟩ := hr
  rw [hrun] at hsince
  obtain ⟨first, hfirst, hleft⟩ := Option.map_eq_some_iff.mp hsince
  refine ⟨r, q, past, first, ⟨rfl, rfl⟩, rfl, hrun, by simp [hq.1], hafter, by simp [hloop], hfirst,
    ?_⟩
  rw [hnow, hleft]
  rfl

end Trail

end FilterFleet
