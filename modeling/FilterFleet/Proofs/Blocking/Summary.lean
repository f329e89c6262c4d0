import FilterFleet.Blocking.Summary
import Mathlib.Algebra.Order.Field.Rat
import Mathlib.Algebra.Order.BigOperators.Group.List
import Mathlib.Data.List.Induction
import Mathlib.Order.Bounds.Basic

/-!
# What a blocking summary says of the fleet

A summary `Summarises` results if it is right about every one of them, with timers and processing
times in any ordered field. `BlockingSummary.ofResults_exact` says that the summary of any results
does.

The tally behind it is one pass with eight accumulators. `Tallied l t` says what each of them holds
when the results `l` are counted; it is true at the start, every result that is counted keeps it
(`Tallied.count`), and so it holds of the whole pass. The mode and the average are read off the tally
at the end.
-/

namespace FilterFleet

open BlockingTally

variable {ν : Type}

/-- The status that a node reported, if it answered. -/
def NodeResult.status? (r : NodeResult (BlockingReading ν)) : Option BlockingStatus :=
  r.response?.map (·.status)

/-- The states of the nodes that answered, in the order of their results. -/
def BlockingTally.readings (l : List (NodeResult (BlockingReading ν))) :
    List (BlockingReading ν) :=
  l.filterMap NodeResult.response?

/-- The timers of the nodes that answered and have one. -/
def BlockingTally.timers (l : List (NodeResult (BlockingReading ν))) : List ν :=
  (readings l).filterMap (·.timerSecs)

/-- The processing times of the nodes that answered. -/
def BlockingTally.tooks (l : List (NodeResult (BlockingReading ν))) : List ν :=
  (readings l).map (·.tookMs)

/-- How many results report the status, or no status. -/
def BlockingTally.number (status : Option BlockingStatus)
    (l : List (NodeResult (BlockingReading ν))) : Nat :=
  l.countP fun r => r.status? = status

section Order

variable [Field ν] [LinearOrder ν]

/-- Exact numbers are added, compared and divided as such. -/
instance : Quantity ν where
  zero := 0
  add a b := a + b
  least a b := min a b
  greatest a b := max a b
  divide total count := total / count

/-- The summary is right about every entry of the results. -/
structure Summarises (s : BlockingSummary ν) (results : FanOut (BlockingReading ν)) : Prop where
  total_eq : s.total = results.entries.length
  /-- Every result is counted once. -/
  partition : s.enabled + s.disabled + s.failed + s.errors = s.total
  enabled_eq : s.enabled = number (some .enabled) results.values
  disabled_eq : s.disabled = number (some .disabled) results.values
  failed_eq : s.failed =
    number (some .failed) results.values + number (some .unknown) results.values
  errors_eq : s.errors = number none results.values
  enabled_iff : s.mode = .enabled ↔
    0 < s.total ∧ ∀ r ∈ results.values, r.status? = some .enabled
  disabled_iff : s.mode = .disabled ↔
    0 < s.total ∧ ∀ r ∈ results.values, r.status? = some .disabled
  mixed_iff : s.mode = .mixed ↔
    (∀ r ∈ results.values, r.status? = some .enabled ∨ r.status? = some .disabled) ∧
      (∃ r ∈ results.values, r.status? = some .enabled) ∧
        ∃ r ∈ results.values, r.status? = some .disabled
  degraded_iff : s.mode = .degraded ↔
    s.total = 0 ∨ ∃ r ∈ results.values,
      r.success = false ∨ r.status? = some .failed ∨ r.status? = some .unknown
  unanimous_iff : s.unanimous = true ↔ s.mode = .enabled ∨ s.mode = .disabled
  /-- Timers are compared where there are any. -/
  minTimer_none_iff : s.minTimerSecs = none ↔ timers results.values = []
  minTimer_isLeast : ∀ m ∈ s.minTimerSecs, IsLeast {x | x ∈ timers results.values} m
  maxTimer_none_iff : s.maxTimerSecs = none ↔ timers results.values = []
  maxTimer_isGreatest : ∀ m ∈ s.maxTimerSecs, IsGreatest {x | x ∈ timers results.values} m
  /-- The average is over those that answered. -/
  avgTook_eq : s.avgTookMs =
    if tooks results.values = [] then 0
    else (tooks results.values).sum / (tooks results.values).length
  /-- The maximum starts at zero, and is one of the times unless these are below it. -/
  maxTook_none : tooks results.values = [] → s.maxTookMs = 0
  maxTook_isGreatest : (∀ x ∈ tooks results.values, 0 ≤ x) → tooks results.values ≠ [] →
    IsGreatest {x | x ∈ tooks results.values} s.maxTookMs
  avgTook_le : s.avgTookMs ≤ s.maxTookMs

end Order

/-! ## Counting one more result -/

namespace BlockingTally

@[simp] theorem readings_concat (l : List (NodeResult (BlockingReading ν)))
    (r : NodeResult (BlockingReading ν)) :
    readings (l ++ [r]) = readings l ++ r.response?.toList := by
  cases h : r.response? <;> simp [readings, List.filterMap_append, h]

@[simp] theorem number_concat (status : Option BlockingStatus)
    (l : List (NodeResult (BlockingReading ν))) (r : NodeResult (BlockingReading ν)) :
    number status (l ++ [r]) = number status l + if r.status? = status then 1 else 0 := by
  simp [number, List.countP_append, List.countP_cons]

theorem number_eq_length_iff (status : Option BlockingStatus)
    (l : List (NodeResult (BlockingReading ν))) :
    number status l = l.length ↔ ∀ r ∈ l, r.status? = status := by
  simp [number, List.countP_eq_length]

theorem number_eq_zero_iff (status : Option BlockingStatus)
    (l : List (NodeResult (BlockingReading ν))) :
    number status l = 0 ↔ ∀ r ∈ l, r.status? ≠ status := by
  simp [number, List.countP_eq_zero]

theorem number_pos_iff (status : Option BlockingStatus)
    (l : List (NodeResult (BlockingReading ν))) :
    0 < number status l ↔ ∃ r ∈ l, r.status? = status := by
  simp [number, List.countP_pos_iff]

end BlockingTally

@[simp] theorem NodeResult.success_eq_false_iff (r : NodeResult (BlockingReading ν)) :
    r.success = false ↔ r.status? = none := by
  simp [NodeResult.success, NodeResult.status?]

/-- The bound of the numbers listed is absent if there are none. -/
structure BoundOf (bound : Set ν → ν → Prop) (xs : List ν) (m : Option ν) : Prop where
  none_iff : m = none ↔ xs = []
  isBound : ∀ x ∈ m, bound {y | y ∈ xs} x

/-- A bound that one number has by itself, and that `pick` keeps when a number is added, is kept when
a timer is counted. -/
theorem BoundOf.append {bound : Set ν → ν → Prop} {pick : ν → ν → ν} {xs : List ν} {m : Option ν}
    (h : BoundOf bound xs m) (hsingle : ∀ x, bound {x} x)
    (hinsert : ∀ S m x, bound S m → bound (insert x S) (pick m x)) (timer : Option ν) :
    BoundOf bound (xs ++ timer.toList) (timer.elim m (BlockingTally.extreme pick m)) := by
  cases timer with
  | none =>
    rw [Option.toList_none, List.append_nil]
    exact h
  | some x =>
    have hset : {y | y ∈ xs ++ [x]} = insert x {y | y ∈ xs} := by
      ext y
      simp [or_comm]
    refine ⟨by simp [BlockingTally.extreme], fun b hb => ?_⟩
    obtain rfl : _ = b := Option.some.inj hb
    rw [Option.toList_some, hset]
    cases m with
    | none =>
      rw [h.none_iff.mp rfl]
      simpa using hsingle x
    | some m => exact hinsert _ _ _ (h.isBound m rfl)

namespace BlockingTally

/-- Counting an answer, field by field. -/
theorem count_of_response [Quantity ν] {r : NodeResult (BlockingReading ν)}
    {s : BlockingReading ν} (h : r.response? = some s) (t : BlockingTally ν) :
    t.count r =
      { enabled := t.enabled + if s.status = .enabled then 1 else 0
        disabled := t.disabled + if s.status = .disabled then 1 else 0
        failed := t.failed + ((if s.status = .failed then 1 else 0) +
          if s.status = .unknown then 1 else 0)
        errors := t.errors
        minTimer := s.timerSecs.elim t.minTimer (extreme Quantity.least t.minTimer)
        maxTimer := s.timerSecs.elim t.maxTimer (extreme Quantity.greatest t.maxTimer)
        maxTook := Quantity.greatest t.maxTook s.tookMs
        tookTotal := Quantity.add t.tookTotal s.tookMs } := by
  obtain ⟨status, timer, took⟩ := s
  simp only [count, h]
  cases status <;> cases timer <;> rfl

end BlockingTally

/-! ## The tally of a list of results -/

variable [Field ν] [LinearOrder ν]

theorem isLeast_least {S : Set ν} {m : ν} (h : IsLeast S m) (x : ν) :
    IsLeast (insert x S) (Quantity.least m x) := by
  have hmin : Quantity.least m x = min x m := min_comm m x
  rw [hmin]
  exact h.insert x

theorem isGreatest_greatest {S : Set ν} {m : ν} (h : IsGreatest S m) (x : ν) :
    IsGreatest (insert x S) (Quantity.greatest m x) := by
  have hmax : Quantity.greatest m x = max x m := max_comm m x
  rw [hmax]
  exact h.insert x

/-- What the tally holds once the results are counted. -/
structure Tallied (l : List (NodeResult (BlockingReading ν))) (t : BlockingTally ν) : Prop where
  enabled : t.enabled = number (some .enabled) l
  disabled : t.disabled = number (some .disabled) l
  failed : t.failed = number (some .failed) l + number (some .unknown) l
  errors : t.errors = number none l
  answered : t.answered = (readings l).length
  partition : t.answered + t.errors = l.length
  minTimer : BoundOf IsLeast (timers l) t.minTimer
  maxTimer : BoundOf IsGreatest (timers l) t.maxTimer
  /-- The maximum starts at zero, so that zero counts as one of the times. -/
  maxTook : IsGreatest (insert 0 {x | x ∈ tooks l}) t.maxTook
  tookTotal : t.tookTotal = (tooks l).sum

theorem Tallied.start : Tallied [] (BlockingTally.start : BlockingTally ν) where
  enabled := rfl
  disabled := rfl
  failed := rfl
  errors := rfl
  answered := rfl
  partition := rfl
  minTimer := ⟨by simp [BlockingTally.start, timers, readings], by simp [BlockingTally.start]⟩
  maxTimer := ⟨by simp [BlockingTally.start, timers, readings], by simp [BlockingTally.start]⟩
  maxTook := by
    have hset : (insert 0 {x | x ∈ tooks []} : Set ν) = {0} := by simp [tooks, readings]
    rw [hset]
    exact isGreatest_singleton
  tookTotal := rfl

/-- A node that did not answer changes only the count of errors. -/
theorem Tallied.count_error {l : List (NodeResult (BlockingReading ν))} {t : BlockingTally ν}
    (h : Tallied l t) {r : NodeResult (BlockingReading ν)} (hr : r.response? = none) :
    Tallied (l ++ [r]) (t.count r) := by
  have hs : r.status? = none := by simp [NodeResult.status?, hr]
  have hread : readings (l ++ [r]) = readings l := by simp [hr]
  have ht : t.count r = { t with errors := t.errors + 1 } := by simp [BlockingTally.count, hr]
  have hpartition := h.partition
  simp only [BlockingTally.answered] at hpartition
  rw [ht]
  exact
    { enabled := by simp [h.enabled, hs]
      disabled := by simp [h.disabled, hs]
      failed := by simp [h.failed, hs]
      errors := by simp [h.errors, hs]
      answered := hread ▸ h.answered
      partition := by
        simp only [BlockingTally.answered, List.length_append, List.length_singleton]
        omega
      minTimer := by simpa only [timers, hread] using h.minTimer
      maxTimer := by simpa only [timers, hread] using h.maxTimer
      maxTook := by simpa only [tooks, hread] using h.maxTook
      tookTotal := by simpa only [tooks, hread] using h.tookTotal }

/-- An answer is counted under its status, its timer and its processing time. -/
theorem Tallied.count_response {l : List (NodeResult (BlockingReading ν))} {t : BlockingTally ν}
    (h : Tallied l t) {r : NodeResult (BlockingReading ν)} {s : BlockingReading ν}
    (hr : r.response? = some s) : Tallied (l ++ [r]) (t.count r) := by
  have hs : r.status? = some s.status := by simp [NodeResult.status?, hr]
  have hread : readings (l ++ [r]) = readings l ++ [s] := by simp [hr]
  have htimers : timers (l ++ [r]) = timers l ++ s.timerSecs.toList := by
    rw [timers, hread, List.filterMap_append]
    cases h : s.timerSecs <;> simp [timers, h]
  have htooks : tooks (l ++ [r]) = tooks l ++ [s.tookMs] := by simp [tooks, hread]
  -- Every state is of exactly one of the four statuses.
  have hone : (if s.status = .enabled then 1 else 0) + (if s.status = .disabled then 1 else 0) +
      ((if s.status = .failed then 1 else 0) + if s.status = .unknown then 1 else 0) = 1 := by
    cases s.status <;> rfl
  have hanswered := h.answered
  have hpartition := h.partition
  simp only [BlockingTally.answered] at hanswered hpartition
  rw [BlockingTally.count_of_response hr]
  exact
    { enabled := by simp [h.enabled, hs]
      disabled := by simp [h.disabled, hs]
      failed := by
        simp only [number_concat, hs, Option.some.injEq, h.failed]
        omega
      errors := by simp [h.errors, hs]
      answered := by
        simp only [BlockingTally.answered, hread, List.length_append, List.length_singleton]
        omega
      partition := by
        simp only [BlockingTally.answered, List.length_append, List.length_singleton]
        omega
      minTimer := by
        rw [htimers]
        exact h.minTimer.append (fun _ => isLeast_singleton) (fun _ _ x hm => isLeast_least hm x) _
      maxTimer := by
        rw [htimers]
        exact h.maxTimer.append (fun _ => isGreatest_singleton)
          (fun _ _ x hm => isGreatest_greatest hm x) _
      maxTook := by
        have hset : (insert 0 {x | x ∈ tooks (l ++ [r])} : Set ν) =
            insert s.tookMs (insert 0 {x | x ∈ tooks l}) := by
          ext y
          simp only [htooks, List.mem_append, List.mem_singleton, Set.mem_insert_iff,
            Set.mem_ofPred_eq]
          tauto
        rw [hset]
        exact isGreatest_greatest h.maxTook s.tookMs
      tookTotal := by
        rw [htooks, List.sum_append, List.sum_singleton, ← h.tookTotal]
        rfl }

/-- Counting a result keeps the tally right. -/
theorem Tallied.count {l : List (NodeResult (BlockingReading ν))} {t : BlockingTally ν}
    (h : Tallied l t) (r : NodeResult (BlockingReading ν)) : Tallied (l ++ [r]) (t.count r) := by
  cases hr : r.response? with
  | none => exact h.count_error hr
  | some s => exact h.count_response hr

/-- The tally of a list of results is right about them. -/
theorem tallied_foldl (l : List (NodeResult (BlockingReading ν))) :
    Tallied l (l.foldl BlockingTally.count .start) := by
  induction l using List.reverseRecOn with
  | nil => exact .start
  | append_singleton l r ih => simpa only [List.foldl_concat] using ih.count r

/-! ## The mode and the average -/

namespace Tallied

variable {l : List (NodeResult (BlockingReading ν))} {t : BlockingTally ν}

/-- Nothing stands against a verdict if every node reports one of the two proper states. -/
theorem errors_failed_eq_zero_iff (h : Tallied l t) :
    t.errors = 0 ∧ t.failed = 0 ↔
      ∀ r ∈ l, r.status? = some .enabled ∨ r.status? = some .disabled := by
  rw [h.errors, h.failed, Nat.add_eq_zero_iff, number_eq_zero_iff, number_eq_zero_iff,
    number_eq_zero_iff]
  simp only [← forall_and]
  refine forall_congr' fun r => ?_
  rcases r.status? with _ | _ | _ | _ | _ <;> simp

theorem mode_eq_enabled_iff (h : Tallied l t) :
    t.mode l.length = .enabled ↔ 0 < l.length ∧ ∀ r ∈ l, r.status? = some .enabled := by
  have hp := h.partition
  rw [← number_eq_length_iff, ← h.enabled]
  simp only [BlockingTally.answered] at hp
  unfold BlockingTally.mode
  split_ifs <;> simp <;> omega

theorem mode_eq_disabled_iff (h : Tallied l t) :
    t.mode l.length = .disabled ↔ 0 < l.length ∧ ∀ r ∈ l, r.status? = some .disabled := by
  have hp := h.partition
  rw [← number_eq_length_iff, ← h.disabled]
  simp only [BlockingTally.answered] at hp
  unfold BlockingTally.mode
  split_ifs <;> simp <;> omega

theorem mode_eq_mixed_iff (h : Tallied l t) :
    t.mode l.length = .mixed ↔
      (∀ r ∈ l, r.status? = some .enabled ∨ r.status? = some .disabled) ∧
        (∃ r ∈ l, r.status? = some .enabled) ∧ ∃ r ∈ l, r.status? = some .disabled := by
  have hp := h.partition
  rw [← h.errors_failed_eq_zero_iff, ← number_pos_iff, ← number_pos_iff, ← h.enabled,
    ← h.disabled]
  simp only [BlockingTally.answered] at hp
  unfold BlockingTally.mode
  split_ifs <;> simp <;> omega

theorem mode_eq_degraded_iff (h : Tallied l t) :
    t.mode l.length = .degraded ↔ l.length = 0 ∨
      ∃ r ∈ l, r.success = false ∨ r.status? = some .failed ∨ r.status? = some .unknown := by
  have hbad : (∃ r ∈ l, r.success = false ∨ r.status? = some .failed ∨
      r.status? = some .unknown) ↔ ¬ (t.errors = 0 ∧ t.failed = 0) := by
    rw [h.errors_failed_eq_zero_iff]
    simp only [not_forall, exists_prop, NodeResult.success_eq_false_iff]
    refine exists_congr fun r => and_congr_right fun _ => ?_
    rcases r.status? with _ | _ | _ | _ | _ <;> simp
  rw [hbad, not_and_or]
  unfold BlockingTally.mode
  split_ifs with hcond
  · simpa using hcond
  all_goals simpa using hcond

theorem maxTook_of_nil (h : Tallied l t) (hnil : tooks l = []) : t.maxTook = 0 := by
  rcases h.maxTook.1 with hzero | hmem
  · exact hzero
  · exact absurd hmem (by simp [hnil])

/-- Where no time is below zero, the maximum is the greatest of the times. -/
theorem isGreatest_maxTook (h : Tallied l t) (hnn : ∀ x ∈ tooks l, 0 ≤ x) (hne : tooks l ≠ []) :
    IsGreatest {x | x ∈ tooks l} t.maxTook := by
  refine ⟨?_, fun x hx => h.maxTook.2 (.inr hx)⟩
  rcases h.maxTook.1 with hzero | hmem
  · -- the times are all zero
    obtain ⟨x, hx⟩ := List.exists_mem_of_ne_nil _ hne
    have hle : x ≤ 0 := hzero ▸ h.maxTook.2 (.inr hx)
    have hmax : t.maxTook = x := hzero.trans (le_antisymm (hnn x hx) hle)
    exact hmax.symm ▸ hx
  · exact hmem

end Tallied

/-- The mean of numbers lies under every bound of theirs. -/
theorem sum_div_length_le [IsStrictOrderedRing ν] {xs : List ν} {b : ν} (hne : xs ≠ [])
    (hb : ∀ x ∈ xs, x ≤ b) : xs.sum / xs.length ≤ b := by
  have hlen : (0 : ν) < xs.length := Nat.cast_pos.mpr (List.length_pos_iff.mpr hne)
  rw [div_le_iff₀ hlen, mul_comm]
  simpa using List.sum_le_card_nsmul xs b hb

namespace BlockingSummary

/-- The average is the mean of the processing times. -/
theorem avgTookMs_ofResults (results : FanOut (BlockingReading ν)) :
    (ofResults results).avgTookMs =
      if tooks results.values = [] then 0
      else (tooks results.values).sum / (tooks results.values).length := by
  have h := tallied_foldl results.values
  have hlen : (tooks results.values).length = (readings results.values).length :=
    List.length_map _
  have hiff : tooks results.values = [] ↔ (readings results.values).length = 0 := by
    rw [← hlen, List.length_eq_zero_iff]
  rw [hlen]
  simp only [hiff, ← h.answered, ← h.tookTotal]
  rfl

/-- A summary of results is right about every one of them, whatever they are. -/
theorem ofResults_exact [IsStrictOrderedRing ν] (results : FanOut (BlockingReading ν)) :
    Summarises (ofResults results) results := by
  have h : Tallied results.values (BlockingTally.ofResults results) :=
    tallied_foldl results.values
  have hsize : results.size = results.values.length := (List.length_map _).symm
  have hmode : (ofResults results).mode =
      (BlockingTally.ofResults results).mode results.values.length := by
    rw [← hsize]
    rfl
  have htotal : (ofResults results).total = results.values.length := hsize
  have havg := avgTookMs_ofResults results
  refine {
    total_eq := rfl
    partition := htotal ▸ h.partition
    enabled_eq := h.enabled
    disabled_eq := h.disabled
    failed_eq := h.failed
    errors_eq := h.errors
    enabled_iff := by rw [hmode, htotal]; exact h.mode_eq_enabled_iff
    disabled_iff := by rw [hmode, htotal]; exact h.mode_eq_disabled_iff
    mixed_iff := by rw [hmode]; exact h.mode_eq_mixed_iff
    degraded_iff := by rw [hmode, htotal]; exact h.mode_eq_degraded_iff
    unanimous_iff := by simp [ofResults]
    minTimer_none_iff := h.minTimer.none_iff
    minTimer_isLeast := h.minTimer.isBound
    maxTimer_none_iff := h.maxTimer.none_iff
    maxTimer_isGreatest := h.maxTimer.isBound
    avgTook_eq := havg
    maxTook_none := h.maxTook_of_nil
    maxTook_isGreatest := h.isGreatest_maxTook
    avgTook_le := ?_ }
  rw [havg]
  split
  · exact h.maxTook.2 (.inl rfl)
  · next hne => exact sum_div_length_le hne fun x hx => h.maxTook.2 (.inr hx)

/-- Two nodes that disagree, and a third that does not answer. -/
def torn : FanOut (BlockingReading ℚ) :=
  ((NodeMap.empty.insert ⟨1⟩ ⟨⟨⟨1⟩, "a", "10.0.0.1"⟩, .ok ⟨.enabled, none, 3⟩⟩).insert
    ⟨2⟩ ⟨⟨⟨2⟩, "b", "10.0.0.2"⟩, .ok ⟨.disabled, some 30, 1⟩⟩).insert
    ⟨3⟩ ⟨⟨⟨3⟩, "c", "10.0.0.3"⟩, .error (.timeout "slow")⟩

theorem torn_exact : Summarises (ofResults torn) torn ∧ (ofResults torn).mode = .degraded ∧
    (ofResults torn).minTimerSecs = some 30 ∧ (ofResults torn).maxTookMs = 3 ∧
    (ofResults torn).avgTookMs = 2 :=
  ⟨ofResults_exact torn, by decide, by decide, by decide, by decide +kernel⟩

end BlockingSummary

end FilterFleet
