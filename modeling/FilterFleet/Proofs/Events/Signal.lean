import FilterFleet.Proofs.Events.History

/-!
# The signal of a change and the history

The signal of a broker holds what the history tells of changes (`Heeds`). Where nobody waits, it is
stored if there was a change since notice was taken last, or if the wait that was over then was
overrun: the first change that comes while somebody waits calls the waiter, the second one is stored
beside it, and stays when the waiter goes on. So the next wait is over at once though nothing may
have changed since (`Heeds.isPending_iff`).
-/

namespace FilterFleet

open Broker Broker.History

namespace ChangeSignal

@[simp] theorem isPending_give (s : ChangeSignal) : s.give.isPending = true := by
  obtain ⟨stored, waiter⟩ := s
  cases waiter <;> simp [give, isPending]

@[simp] theorem isPending_leave (s : ChangeSignal) : s.leave.isPending = s.isPending := by
  simp [leave, isPending]

/-- What a signal holds is what the history tells of changes and of the one who waits for them. -/
inductive Heeds : ChangeSignal → History → Prop where
  | absent {stored : Bool} {past : History} (hwait : past.wait? = none)
      (h : stored = true ↔ past.HasNews ∨ past.Overrun) : Heeds ⟨stored, .absent⟩ past
  | waiting {past : History} (hwait : past.wait? = some 0) (hnews : ¬ past.HasNews)
      (hoverrun : ¬ past.Overrun) : Heeds ⟨false, .waiting⟩ past
  | called {past : History} {n : Nat} (hwait : past.wait? = some (n + 1)) (hnews : past.HasNews)
      (hoverrun : ¬ past.Overrun) : Heeds ⟨decide (1 ≤ n), .called⟩ past

variable {s : ChangeSignal} {past : History} {x : Record}

/-- A wait is over at once iff something changed since notice was taken last, or the wait that was
over then was overrun. -/
theorem Heeds.isPending_iff (h : Heeds s past) :
    s.isPending = true ↔ past.HasNews ∨ past.Overrun := by
  cases h with
  | absent _ h => simpa [isPending] using h
  | waiting _ hnews hoverrun => simp [isPending, hnews, hoverrun]
  | called _ hnews _ => simp [isPending, hnews]

theorem heeds_new : Heeds .new [] := .absent rfl (by simp [not_hasNews_nil, Overrun])

theorem hasNews_of_quiet (hchange : ¬ IsChange x past) (hreply : x.reply ≠ .noticed) :
    HasNews (x :: past) ↔ HasNews past := by
  simp [hasNews_cons, hchange, hreply]

/-- A call that changes nothing, of somebody else than the one who waits. -/
theorem Heeds.quiet (h : Heeds s past) (hawait : x.call ≠ .awaitChange)
    (hstop : x.call ≠ .stopWaiting) (hchange : ¬ IsChange x past) (hreply : x.reply ≠ .noticed) :
    Heeds s (x :: past) := by
  have hwait : wait? (x :: past) = wait? past := by
    rw [wait?_cons hawait hstop]
    simp [hchange]
  have hnews := hasNews_of_quiet hchange hreply
  have hoverrun := overrun_cons hreply past
  cases h with
  | absent hnone h => exact .absent (hwait.trans hnone) (by rw [hnews, hoverrun, h])
  | waiting hsome hno hnot =>
    exact .waiting (hwait.trans hsome) ((not_congr hnews).mpr hno) ((not_congr hoverrun).mpr hnot)
  | called hsome hyes hnot =>
    exact .called (hwait.trans hsome) (hnews.mpr hyes) ((not_congr hoverrun).mpr hnot)

/-- A change gives the signal. -/
theorem Heeds.change (h : Heeds s past) (hchange : IsChange x past) (hreply : x.reply ≠ .noticed) :
    Heeds s.give (x :: past) := by
  have hawait : x.call ≠ .awaitChange := fun hcall => by simp [IsChange, hcall] at hchange
  have hstop : x.call ≠ .stopWaiting := fun hcall => by simp [IsChange, hcall] at hchange
  have hwait : wait? (x :: past) = (wait? past).map (· + 1) := by
    rw [wait?_cons hawait hstop]
    simp [hchange]
  have hnews : HasNews (x :: past) := (hasNews_cons x past).mpr (.inl hchange)
  have hoverrun := overrun_cons hreply past
  cases h with
  | absent hnone _ =>
    rw [hnone] at hwait
    exact .absent hwait (iff_of_true rfl (.inl hnews))
  | waiting hsome _ hnot =>
    rw [hsome] at hwait
    exact .called hwait hnews ((not_congr hoverrun).mpr hnot)
  | @called _ n hsome _ hnot =>
    rw [hsome] at hwait
    have hheeds := Heeds.called (n := n + 1) hwait hnews ((not_congr hoverrun).mpr hnot)
    rwa [decide_eq_true (Nat.le_add_left 1 n)] at hheeds

/-- The waiter goes on.  Of two changes that came while it waited one signal is left. -/
theorem Heeds.noticed (h : Heeds s past) (hpending : s.isPending = true) :
    Heeds s.take (⟨.awaitChange, .noticed⟩ :: past) := by
  have hnews : ¬ HasNews (⟨.awaitChange, .noticed⟩ :: past) := by
    rw [hasNews_cons]
    rintro (hchange | ⟨-, hreply⟩)
    · exact hchange
    · exact hreply rfl
  have hoverrun := overrun_noticed (x := ⟨.awaitChange, .noticed⟩) rfl past
  cases h with
  | absent hnone _ => exact .absent rfl (by simp [hnews, hoverrun, hnone])
  | waiting _ _ _ => cases hpending
  | @called _ n hsome _ _ =>
    refine .absent rfl ?_
    simp only [hnews, hoverrun, hsome, false_or, Option.some.injEq, exists_eq_left',
      decide_eq_true_iff]
    omega

/-- Where there is no signal, the one who looks for it waits. -/
theorem Heeds.nothingNew (h : Heeds s past) (hpending : s.isPending = false) :
    Heeds s.await (⟨.awaitChange, .nothingNew⟩ :: past) := by
  have hnone : ¬ (HasNews past ∨ Overrun past) := fun hnews => by
    rw [h.isPending_iff.mpr hnews] at hpending
    cases hpending
  have hstored : s.stored = false := (Bool.or_eq_false_iff.mp hpending).1
  have hnews : HasNews (⟨.awaitChange, .nothingNew⟩ :: past) ↔ HasNews past :=
    hasNews_of_quiet id (by simp)
  have hoverrun := overrun_cons (x := ⟨.awaitChange, .nothingNew⟩) (by simp) past
  have hheeds : Heeds ⟨false, .waiting⟩ (⟨.awaitChange, .nothingNew⟩ :: past) :=
    .waiting rfl (fun h => hnone (.inl (hnews.mp h))) fun h => hnone (.inr (hoverrun.mp h))
  rwa [← hstored] at hheeds

/-- A waiter that gives up passes on the signal that has called it. -/
theorem Heeds.left (h : Heeds s past) : Heeds s.leave (⟨.stopWaiting, .done⟩ :: past) := by
  have hnews : HasNews (⟨.stopWaiting, .done⟩ :: past) ↔ HasNews past :=
    hasNews_of_quiet id (by simp)
  have hoverrun := overrun_cons (x := ⟨.stopWaiting, .done⟩) (by simp) past
  exact .absent rfl (by rw [h.isPending_iff, hnews, hoverrun])

end ChangeSignal

end FilterFleet
