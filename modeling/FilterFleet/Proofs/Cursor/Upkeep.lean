import FilterFleet.Proofs.Cursor.Lifetime
import FilterFleet.Proofs.Events.Needs

/-!
# How many cursors are kept

A `Tended` table is one with a reaper that was started over it: callers do with the table what they
like and when they like, and the reaper is woken when its ticker is due, until it is told to stop.
Time passes while the reaper has nothing to do; it may also be held up, and then ticks are taken late.

The ticker is what bounds the table. A cursor that a visit leaves is not over yet, and the next tick
is due within an interval: so no tick is ever due more than an interval after a stored cursor is over
(`Tended.Upkept`). As long as no tick is overdue, then, every stored cursor was created within the
time to live and one interval, and there are no more of them than creations in that time
(`Tended.Bounded`). A reaper that has stopped takes nothing out any more, nor does one that was told
to stop and is not held up (`Tended.tended_within_bounds`).
-/

namespace FilterFleet

/-- A tick that is taken puts the next one within a period. -/
theorem Ticker.due_take_le {t : Ticker} {now : Instant} (h : t.isDue now = true) :
    (t.take now).due ≤ now + t.period := by
  have hdue : t.due ≤ now := of_decide_eq_true h
  rw [take]
  split
  · exact Nat.le_refl _
  · exact Nat.add_le_add_right hdue _

/-- A tick that is taken puts the next one a period later, at least. -/
theorem Ticker.add_period_le_due_take {t : Ticker} {now : Instant} (h : t.isDue now = true) :
    t.due + t.period ≤ (t.take now).due := by
  have hdue : t.due ≤ now := of_decide_eq_true h
  rw [take]
  split
  · exact Nat.add_le_add_right hdue _
  · exact Nat.le_refl _

theorem ShutdownSignal.reaches_send_of_reaches {signal : ShutdownSignal} {l : ShutdownListener}
    (h : signal.reaches l = true) : signal.send.reaches l = true := by
  rw [reaches, Bool.or_eq_true] at h ⊢
  rcases h with hsent | hclosed
  · exact .inl (decide_eq_true (Nat.lt_succ_of_lt (of_decide_eq_true hsent)))
  · exact .inr hclosed

/-- Whether a reaper that is not held up does nothing before an instant. -/
def Reaper.isIdleUntil (signal : ShutdownSignal) (instant : Instant) : Reaper → Bool
  | waiting ticker listener => !signal.reaches listener && decide (instant ≤ ticker.due)
  | stopped => true

namespace CursorTable

variable {π : Type}

/-! ## What calls store -/

/-- Whether a call stores a new cursor. -/
def Call.isCreate : Call π → Bool
  | create _ => true
  | _ => false

/-- The cursor that a record of a creation stored. -/
def Record.stored? (ttl : Span) (r : Record π) : Option (CursorEntry π) :=
  match r.call, r.reply with
  | .create state, .created id => some ⟨id, state, r.now + ttl⟩
  | _, _ => none

theorem Record.stored?_eq_some {ttl : Span} {r : Record π} {e : CursorEntry π}
    (h : r.stored? ttl = some e) :
    r.call = .create e.state ∧ r.reply = .created e.id ∧ e.expiresAt = r.now + ttl := by
  rw [stored?] at h
  split at h
  · next state id hcall hreply =>
    obtain rfl := Option.some.inj h
    exact ⟨hcall, hreply, rfl⟩
  · cases h

/-- A call stores what its record says and nothing else; it may take out anything. -/
theorem Supplied.perform_spec {s s' : Supplied π} {now : Instant} {call : Call π} {reply : Reply π}
    (h : s.perform now call = some (reply, s')) :
    s'.table.ttl = s.table.ttl ∧
      s'.table.entries.Sublist
        (((⟨now, call, reply⟩ : Record π).stored? s.table.ttl).toList ++ s.table.entries) := by
  cases call with
  | create state =>
    obtain ⟨⟨id, t⟩, hc, heq⟩ := Option.map_eq_some_iff.mp h
    obtain ⟨rfl, rfl⟩ := Prod.mk.inj heq
    obtain ⟨-, -, rfl⟩ := create?_eq_some hc
    exact ⟨rfl, List.Sublist.refl _⟩
  | lookup id =>
    obtain ⟨rfl, rfl⟩ := Prod.mk.inj (Option.some.inj h)
    exact ⟨s.table.ttl_lookup id now, s.table.sublist_lookup id now⟩
  | reap =>
    obtain ⟨rfl, rfl⟩ := Prod.mk.inj (Option.some.inj h)
    exact ⟨rfl, List.filter_sublist⟩
  | wake reaper w =>
    obtain ⟨rfl, rfl⟩ := Prod.mk.inj (Option.some.inj h)
    show (reaper.wake s.table now w).2.ttl = _ ∧ (reaper.wake s.table now w).2.entries.Sublist _
    rcases s.table.snd_wake reaper now w with hw | hw <;> rw [hw]
    · exact ⟨rfl, List.filter_sublist⟩
    · exact ⟨rfl, List.Sublist.refl _⟩
  | clear =>
    obtain ⟨rfl, rfl⟩ := Prod.mk.inj (Option.some.inj h)
    exact ⟨rfl, List.nil_sublist _⟩

/-! ## Runs -/

/-- A table of cursors with its reaper, in the course of time. -/
structure Tended (π : Type) where
  store : Supplied π
  reaper : Reaper
  signal : ShutdownSignal
  now : Instant
  /-- What callers have asked of the table, latest first. -/
  past : List (Record π)

namespace Tended

/-- What happens to a tended table. -/
inductive Move (π : Type) where
  /-- Time passes, and the reaper has nothing to do before it has. -/
  | passed (time : Span)
  /-- Time passes with the reaper held up. -/
  | heldUp (time : Span)
  | called (call : Call π)
  | woken (w : ReaperWake)
  /-- A shutdown is signalled. -/
  | sent
  /-- The sender of the signal is gone. -/
  | closed

/-- An empty table, over which a reaper is started. -/
def start? (ttl interval : Span) (supply : List CursorId) (signal : ShutdownSignal) (now : Instant) :
    Option (Tended π) :=
  (Reaper.start? now interval signal.listen).map fun reaper =>
    ⟨⟨.empty ttl, supply⟩, reaper, signal, now, []⟩

/-- What a move does, if it can be made. -/
def step? (s : Tended π) : Move π → Option (Tended π)
  | .passed time =>
    if s.reaper.isIdleUntil s.signal (s.now + time) then some { s with now := s.now + time } else none
  | .heldUp time => some { s with now := s.now + time }
  | .called call =>
    (s.store.perform s.now call).map fun (reply, store) =>
      { s with store, past := ⟨s.now, call, reply⟩ :: s.past }
  | .woken w =>
    if s.reaper.isReady s.signal s.now w then
      let (reaper, table) := s.reaper.wake s.store.table s.now w
      some { s with reaper, store := { s.store with table } }
    else none
  | .sent => some { s with signal := s.signal.send }
  | .closed => some { s with signal := { s.signal with closed := true } }

/-- Make moves one after another. -/
def run? (s : Tended π) (moves : List (Move π)) : Option (Tended π) := runMoves? step? s moves

variable {ttl interval : Span} {s t : Tended π} {m : Move π} {ticker : Ticker}
  {listener : ShutdownListener}

theorem passed_eq {time : Span} (h : s.step? (.passed time) = some t) :
    s.reaper.isIdleUntil s.signal (s.now + time) = true ∧ t = { s with now := s.now + time } := by
  obtain ⟨hidle, heq⟩ := Option.ite_none_right_eq_some.mp h
  exact ⟨hidle, (Option.some.inj heq).symm⟩

theorem called_eq {call : Call π} (h : s.step? (.called call) = some t) :
    ∃ reply store, s.store.perform s.now call = some (reply, store) ∧
      t = { s with store, past := ⟨s.now, call, reply⟩ :: s.past } := by
  obtain ⟨⟨reply, store⟩, hperform, heq⟩ := Option.map_eq_some_iff.mp h
  exact ⟨reply, store, hperform, heq.symm⟩

/-- What wakes a reaper takes a tick, or stops it. -/
theorem woken_cases {w : ReaperWake} (h : s.step? (.woken w) = some t) :
    (∃ ticker listener, s.reaper = .waiting ticker listener ∧ w = .tick ∧
      ticker.isDue s.now = true ∧
      t = { s with
        reaper := .waiting (ticker.take s.now) listener
        store := { s.store with table := s.store.table.reap s.now } }) ∨
    (∃ ticker listener, s.reaper = .waiting ticker listener ∧ w = .shutdown ∧
      t = { s with reaper := .stopped }) := by
  obtain ⟨hready, heq⟩ := Option.ite_none_right_eq_some.mp h
  obtain rfl := Option.some.inj heq
  cases hreaper : s.reaper with
  | waiting ticker listener =>
    rw [hreaper] at hready
    cases w with
    | tick => exact .inl ⟨ticker, listener, rfl, rfl, hready, rfl⟩
    | shutdown => exact .inr ⟨ticker, listener, rfl, rfl, rfl⟩
  | stopped =>
    rw [hreaper] at hready
    cases w <;> cases hready

/-! ## The bound -/

/-- The stored cursors are among those that were created, and no tick is due more than an interval
after one of them is over. -/
structure Upkept (ttl interval : Span) (s : Tended π) : Prop where
  pos : 0 < interval
  ttl_eq : s.store.table.ttl = ttl
  created : s.store.table.entries.Sublist (s.past.filterMap (Record.stored? ttl))
  period : ∀ ticker listener, s.reaper = .waiting ticker listener → ticker.period = interval
  due_now : ∀ ticker listener, s.reaper = .waiting ticker listener → ticker.due ≤ s.now + interval
  due : ∀ ticker listener, s.reaper = .waiting ticker listener →
    ∀ e ∈ s.store.table.entries, ticker.due ≤ e.expiresAt + interval

theorem start?_eq_some {supply : List CursorId} {signal : ShutdownSignal} {begin : Instant}
    (h : start? ttl interval supply signal begin = some s) :
    0 < interval ∧
      s = ⟨⟨.empty ttl, supply⟩, .waiting ⟨begin, interval⟩ signal.listen, signal, begin, []⟩ := by
  obtain ⟨reaper, hreaper, rfl⟩ := Option.map_eq_some_iff.mp h
  obtain ⟨ticker, hticker, rfl⟩ := Option.map_eq_some_iff.mp hreaper
  obtain ⟨hpos, heq⟩ := Option.ite_none_left_eq_some.mp hticker
  obtain rfl := Option.some.inj heq
  exact ⟨Nat.pos_of_ne_zero hpos, rfl⟩

theorem upkept_of_start {supply : List CursorId} {signal : ShutdownSignal} {begin : Instant}
    (h : start? ttl interval supply signal begin = some s) : s.Upkept ttl interval := by
  obtain ⟨hpos, rfl⟩ := start?_eq_some h
  refine ⟨hpos, rfl, List.Sublist.refl _, ?_, ?_, ?_⟩ <;> rintro ticker listener hreaper
  · obtain ⟨rfl, -⟩ := Reaper.waiting.inj hreaper
    rfl
  · obtain ⟨rfl, -⟩ := Reaper.waiting.inj hreaper
    exact Nat.le_add_right _ _
  · intro e he
    cases he

/-- Time that passes makes no difference. -/
theorem Upkept.later (h : s.Upkept ttl interval) (time : Span) :
    ({ s with now := s.now + time } : Tended π).Upkept ttl interval :=
  { h with
    due_now := fun ticker listener hreaper =>
      Nat.le_trans (h.due_now ticker listener hreaper)
        (Nat.add_le_add_right (Nat.le_add_right _ _) _) }

/-- A cursor that is stored now is over after the time to live, and the next tick is due within an
interval from now. -/
theorem Upkept.called (h : s.Upkept ttl interval) {call : Call π}
    (hstep : s.step? (.called call) = some t) : t.Upkept ttl interval := by
  obtain ⟨reply, store, hperform, rfl⟩ := called_eq hstep
  obtain ⟨httl, hentries⟩ := Supplied.perform_spec hperform
  rw [h.ttl_eq] at httl hentries
  refine { h with ttl_eq := httl, created := ?_, due := fun ticker listener hreaper e he => ?_ }
  · show store.table.entries.Sublist
      ((⟨s.now, call, reply⟩ :: s.past).filterMap (Record.stored? ttl))
    have hboth := hentries.trans (List.Sublist.append_left h.created _)
    rw [List.filterMap_cons]
    cases hstored : (⟨s.now, call, reply⟩ : Record π).stored? ttl <;>
      simpa [hstored] using hboth
  · rcases List.mem_append.mp (hentries.subset he) with hnew | hold
    · obtain ⟨-, -, hexpires⟩ := Record.stored?_eq_some (Option.mem_toList.mp hnew)
      calc
        ticker.due ≤ s.now + interval := h.due_now ticker listener hreaper
        _ ≤ s.now + ttl + interval := Nat.add_le_add_right (Nat.le_add_right _ _) _
        _ = e.expiresAt + interval := by rw [hexpires]
    · exact h.due ticker listener hreaper e hold

/-- What a visit leaves is not over yet, and the next tick is due within an interval. -/
theorem Upkept.woken (h : s.Upkept ttl interval) {w : ReaperWake}
    (hstep : s.step? (.woken w) = some t) : t.Upkept ttl interval := by
  rcases woken_cases hstep with ⟨ticker, listener, hreaper, -, hdue, rfl⟩ |
    ⟨ticker, listener, -, -, rfl⟩
  · have hnext : (ticker.take s.now).due ≤ s.now + interval :=
      h.period ticker listener hreaper ▸ Ticker.due_take_le hdue
    refine
      { pos := h.pos
        ttl_eq := h.ttl_eq
        created := List.filter_sublist.trans h.created
        period := fun next l hwaiting => ?_
        due_now := fun next l hwaiting => ?_
        due := fun next l hwaiting e he => ?_ } <;>
      obtain ⟨rfl, rfl⟩ := Reaper.waiting.inj hwaiting
    · rw [Ticker.period_take]
      exact h.period ticker listener hreaper
    · exact hnext
    · have hleft : s.now < e.expiresAt := of_decide_eq_true (List.mem_filter.mp he).2
      exact Nat.le_trans hnext (Nat.add_le_add_right (Nat.le_of_lt hleft) _)
  · exact
      { h with
        period := fun _ _ hwaiting => by cases hwaiting
        due_now := fun _ _ hwaiting => by cases hwaiting
        due := fun _ _ hwaiting => by cases hwaiting }

theorem Upkept.step (h : s.Upkept ttl interval) (hstep : s.step? m = some t) :
    t.Upkept ttl interval := by
  cases m with
  | passed time =>
    obtain ⟨-, rfl⟩ := passed_eq hstep
    exact h.later time
  | heldUp time =>
    obtain rfl := Option.some.inj hstep
    exact h.later time
  | called call => exact h.called hstep
  | woken w => exact h.woken hstep
  | sent | closed =>
    obtain rfl := Option.some.inj hstep
    exact { h with }

theorem Upkept.run (h : s.Upkept ttl interval) {moves : List (Move π)}
    (hrun : s.run? moves = some t) : t.Upkept ttl interval :=
  runMoves?_induction (fun _ _ _ hs hstep => Upkept.step hs hstep) h hrun

/-- Every stored cursor was created within the time to live and an interval, and there are no more
of them than creations in that time. -/
structure Bounded (ttl interval : Span) (s : Tended π) : Prop where
  recent : ∀ e ∈ s.store.table.entries, ∃ r ∈ s.past, r.call = .create e.state ∧
    r.reply = .created e.id ∧ s.now ≤ r.now + (ttl + interval)
  size_le : s.store.table.size ≤
    s.past.countP fun r => r.call.isCreate && decide (s.now ≤ r.now + (ttl + interval))

/-- As long as no tick is overdue, the table is bounded. -/
theorem Upkept.bounded (h : s.Upkept ttl interval) (hreaper : s.reaper = .waiting ticker listener)
    (hdue : s.now ≤ ticker.due) : s.Bounded ttl interval := by
  have hlast : ∀ e ∈ s.store.table.entries, s.now ≤ e.expiresAt + interval := fun e he =>
    Nat.le_trans hdue (h.due ticker listener hreaper e he)
  refine ⟨fun e he => ?_, ?_⟩
  · obtain ⟨r, hr, hstored⟩ := List.mem_filterMap.mp (h.created.subset he)
    obtain ⟨hcall, hreply, hexpires⟩ := Record.stored?_eq_some hstored
    have hnow := hlast e he
    rw [hexpires, Nat.add_assoc] at hnow
    exact ⟨r, hr, hcall, hreply, hnow⟩
  -- counted: the stored cursors, among all that were created, among their records
  · let isRecent (e : CursorEntry π) : Bool := decide (s.now ≤ e.expiresAt + interval)
    have hall : ∀ e ∈ s.store.table.entries, isRecent e = true := fun e he =>
      decide_eq_true (hlast e he)
    calc
      s.store.table.size = s.store.table.entries.countP isRecent :=
        (List.countP_eq_length.mpr hall).symm
      _ ≤ (s.past.filterMap (Record.stored? ttl)).countP isRecent := h.created.countP_le
      _ = s.past.countP fun r => ((r.stored? ttl).map isRecent).getD false := List.countP_filterMap
      _ ≤ _ := List.countP_mono_left fun r _ hr => ?_
    cases hstored : r.stored? ttl with
    | none =>
      rw [hstored] at hr
      cases hr
    | some e =>
      obtain ⟨hcall, -, hexpires⟩ := Record.stored?_eq_some hstored
      have hnow : s.now ≤ e.expiresAt + interval := by simpa [hstored, isRecent] using hr
      rw [hexpires, Nat.add_assoc] at hnow
      rw [hcall, Call.isCreate, Bool.true_and, decide_eq_true_eq]
      exact hnow

/-! ## Ticks in time -/

/-- No tick is overdue. -/
def IsOnTime (s : Tended π) : Prop :=
  ∀ ticker listener, s.reaper = .waiting ticker listener → s.now ≤ ticker.due

/-- A reaper that is not held up takes its ticks in time. -/
theorem IsOnTime.step (h : s.IsOnTime) (hm : ∀ time, m ≠ .heldUp time)
    (hstep : s.step? m = some t) : t.IsOnTime := by
  cases m with
  | passed time =>
    obtain ⟨hidle, rfl⟩ := passed_eq hstep
    intro ticker listener (hreaper : s.reaper = _)
    rw [hreaper] at hidle
    exact of_decide_eq_true (Bool.and_eq_true_iff.mp hidle).2
  | heldUp time => exact absurd rfl (hm time)
  | called call =>
    obtain ⟨_, _, -, rfl⟩ := called_eq hstep
    exact h
  | woken w =>
    rcases woken_cases hstep with ⟨ticker, listener, hreaper, -, hdue, rfl⟩ |
      ⟨ticker, listener, -, -, rfl⟩
    · rintro next l hwaiting
      obtain ⟨rfl, -⟩ := Reaper.waiting.inj hwaiting
      calc
        s.now ≤ ticker.due := h ticker listener hreaper
        _ ≤ ticker.due + ticker.period := Nat.le_add_right _ _
        _ ≤ (ticker.take s.now).due := Ticker.add_period_le_due_take hdue
    · rintro next l hwaiting
      cases hwaiting
  | sent | closed =>
    obtain rfl := Option.some.inj hstep
    exact h

theorem IsOnTime.run (h : s.IsOnTime) {moves : List (Move π)}
    (hmoves : ∀ time, .heldUp time ∉ moves) (hrun : s.run? moves = some t) : t.IsOnTime :=
  runMoves?_induction_of_kind (Q := fun m => ∀ time, m ≠ .heldUp time)
    (fun _ _ _ hs hm hstep => IsOnTime.step hs hm hstep) h
    (fun _ hm _ heq => hmoves _ (heq ▸ hm)) hrun

theorem step?_tick (hreaper : s.reaper = .waiting ticker listener)
    (hdue : ticker.isDue s.now = true) :
    s.step? (.woken .tick) = some { s with
      reaper := .waiting (ticker.take s.now) listener
      store := { s.store with table := s.store.table.reap s.now } } := by
  have hready : s.reaper.isReady s.signal s.now .tick = true := by rw [hreaper]; exact hdue
  rw [step?, if_pos hready, hreaper]
  rfl

/-- The ticks that are due can be taken, until none is. -/
theorem Upkept.exists_ticks (h : s.Upkept ttl interval)
    (hreaper : s.reaper = .waiting ticker listener) :
    ∃ n t next, s.run? (List.replicate n (.woken .tick)) = some t ∧ t.now = s.now ∧
      t.reaper = .waiting next listener ∧ t.now < next.due := by
  -- every tick that is taken leaves the reaper less late
  obtain ⟨late, hlate⟩ : ∃ late, s.now < ticker.due + late :=
    ⟨s.now + 1, Nat.lt_of_lt_of_le (Nat.lt_succ_self _) (Nat.le_add_left _ _)⟩
  induction late generalizing s ticker with
  | zero => exact ⟨0, s, ticker, rfl, rfl, hreaper, hlate⟩
  | succ late ih =>
    by_cases hdue : ticker.isDue s.now = true
    · have hstep := step?_tick hreaper hdue
      have hperiod : 0 < ticker.period := (h.period ticker listener hreaper).symm ▸ h.pos
      have hcloser : s.now < (ticker.take s.now).due + late :=
        calc
          s.now < ticker.due + (late + 1) := hlate
          _ = ticker.due + 1 + late := by rw [Nat.add_right_comm, Nat.add_assoc]
          _ ≤ ticker.due + ticker.period + late :=
            Nat.add_le_add_right (Nat.add_le_add_left hperiod _) _
          _ ≤ (ticker.take s.now).due + late :=
            Nat.add_le_add_right (Ticker.add_period_le_due_take hdue) _
      obtain ⟨n, t, next, hrun, hnow, hwaiting, hnext⟩ := ih (h.woken hstep) rfl hcloser
      refine ⟨n + 1, t, next, ?_, hnow, hwaiting, hnext⟩
      rw [List.replicate_succ, run?, runMoves?, hstep]
      exact hrun
    · have hnext : s.now < ticker.due := Nat.not_le.mp fun hle => hdue (decide_eq_true hle)
      exact ⟨0, s, ticker, rfl, rfl, hreaper, hnext⟩

/-! ## Stopping -/

/-- What callers ask of the table in a run, with the times. -/
def callsFrom (now : Instant) : List (Move π) → List (Instant × Call π)
  | [] => []
  | .passed time :: rest => callsFrom (now + time) rest
  | .heldUp time :: rest => callsFrom (now + time) rest
  | .called call :: rest => (now, call) :: callsFrom now rest
  | .woken _ :: rest => callsFrom now rest
  | .sent :: rest => callsFrom now rest
  | .closed :: rest => callsFrom now rest

/-- Without ticks, the table is what callers make of it. -/
theorem run_callsFrom {moves : List (Move π)} (hmoves : .woken .tick ∉ moves)
    (hrun : s.run? moves = some t) :
    ∃ records, s.store.run (callsFrom s.now moves) = some (records, t.store) := by
  induction moves generalizing s with
  | nil =>
    obtain rfl := Option.some.inj hrun
    exact ⟨[], rfl⟩
  | cons m rest ih =>
    obtain ⟨u, hstep, hrest⟩ := Option.bind_eq_some_iff.mp hrun
    have hmore := ih (s := u) (fun hmem => hmoves (List.mem_cons_of_mem _ hmem)) hrest
    cases m with
    | passed time =>
      obtain ⟨-, rfl⟩ := passed_eq hstep
      exact hmore
    | heldUp time =>
      obtain rfl := Option.some.inj hstep
      exact hmore
    | called call =>
      obtain ⟨_, _, hperform, rfl⟩ := called_eq hstep
      obtain ⟨records, hrecords⟩ := hmore
      exact ⟨_, Supplied.run_cons_eq_some.mpr ⟨_, _, _, hperform, hrecords, rfl⟩⟩
    | woken w =>
      rcases woken_cases hstep with ⟨_, _, -, rfl, -⟩ | ⟨_, _, -, -, rfl⟩
      · exact absurd List.mem_cons_self hmoves
      · exact hmore
    | sent | closed =>
      obtain rfl := Option.some.inj hstep
      exact hmore

/-- A reaper that has stopped does nothing more. -/
theorem stopped_step (h : s.reaper = .stopped) (hstep : s.step? m = some t) :
    t.reaper = .stopped ∧ m ≠ .woken .tick := by
  cases m with
  | passed time =>
    obtain ⟨-, rfl⟩ := passed_eq hstep
    exact ⟨h, by simp⟩
  | called call =>
    obtain ⟨_, _, -, rfl⟩ := called_eq hstep
    exact ⟨h, by simp⟩
  | woken w =>
    rcases woken_cases hstep with ⟨_, _, hreaper, -⟩ | ⟨_, _, hreaper, -⟩ <;>
      rw [h] at hreaper <;> cases hreaper
  | heldUp _ | sent | closed =>
    obtain rfl := Option.some.inj hstep
    exact ⟨h, by simp⟩

/-- The reaper was told to stop, and no tick is due. -/
def IsTold (s : Tended π) : Prop :=
  ∃ ticker listener, s.reaper = .waiting ticker listener ∧ s.signal.reaches listener = true ∧
    s.now < ticker.due

/-- A reaper that was told to stop and is not held up takes no further tick. -/
theorem told_step (h : s.reaper = .stopped ∨ s.IsTold) (hm : ∀ time, m ≠ .heldUp time)
    (hstep : s.step? m = some t) : (t.reaper = .stopped ∨ t.IsTold) ∧ m ≠ .woken .tick := by
  rcases h with h | ⟨ticker, listener, hreaper, hreaches, hdue⟩
  · obtain ⟨hstopped, hm⟩ := stopped_step h hstep
    exact ⟨.inl hstopped, hm⟩
  cases m with
  | passed time =>
    -- time does not pass before the reaper has stopped
    obtain ⟨hidle, -⟩ := passed_eq hstep
    simp [hreaper, Reaper.isIdleUntil, hreaches] at hidle
  | heldUp time => exact absurd rfl (hm time)
  | called call =>
    obtain ⟨_, _, -, rfl⟩ := called_eq hstep
    exact ⟨.inr ⟨ticker, listener, hreaper, hreaches, hdue⟩, by simp⟩
  | woken w =>
    rcases woken_cases hstep with ⟨ticker', _, hreaper', -, hdue', -⟩ | ⟨_, _, -, rfl, rfl⟩
    · obtain ⟨rfl, -⟩ := Reaper.waiting.inj (hreaper.symm.trans hreaper')
      exact absurd hdue (Nat.not_lt.mpr (of_decide_eq_true hdue'))
    · exact ⟨.inl rfl, by simp⟩
  | sent =>
    obtain rfl := Option.some.inj hstep
    exact ⟨.inr ⟨ticker, listener, hreaper, ShutdownSignal.reaches_send_of_reaches hreaches, hdue⟩,
      by simp⟩
  | closed =>
    obtain rfl := Option.some.inj hstep
    exact ⟨.inr ⟨ticker, listener, hreaper, by simp [ShutdownSignal.reaches], hdue⟩, by simp⟩

theorem tick_not_mem_of_stopped (h : s.reaper = .stopped) {moves : List (Move π)}
    (hrun : s.run? moves = some t) : .woken .tick ∉ moves := fun htick =>
  runMoves?_forall_of_kind (P := fun s => s.reaper = .stopped) (Q := fun _ => True)
    (R := fun m => m ≠ .woken .tick) (fun _ _ _ hs _ hstep => stopped_step hs hstep) h
    (fun _ _ => trivial) hrun _ htick rfl

theorem tick_not_mem_of_told (h : s.IsTold) {moves : List (Move π)}
    (hmoves : ∀ time, .heldUp time ∉ moves) (hrun : s.run? moves = some t) :
    .woken .tick ∉ moves := fun htick =>
  runMoves?_forall_of_kind (P := fun s => s.reaper = .stopped ∨ s.IsTold)
    (Q := fun m => ∀ time, m ≠ .heldUp time) (R := fun m => m ≠ .woken .tick)
    (fun _ _ _ hs hm hstep => told_step hs hm hstep) (.inr h)
    (fun _ hm _ heq => hmoves _ (heq ▸ hm)) hrun _ htick rfl

/-- **A table is bounded by its reaper.** As long as no tick is overdue, every stored cursor was
created within the time to live and an interval, and there are no more of them than creations in
that time; a reaper that is never held up has no tick overdue, and what is due can always be taken,
until nothing is. Once the reaper has stopped, or was told to stop when no tick was due and is not
held up, the table is what callers make of it. -/
theorem tended_within_bounds {ttl interval : Span} {supply : List CursorId} {signal : ShutdownSignal}
    {begin : Instant} {first s : Tended π} {moves : List (Move π)}
    (hstart : start? ttl interval supply signal begin = some first)
    (hrun : first.run? moves = some s) :
    (∀ ticker listener, s.reaper = .waiting ticker listener →
      (s.now ≤ ticker.due → s.Bounded ttl interval) ∧
      ((∀ time, .heldUp time ∉ moves) → s.now ≤ ticker.due) ∧
      ∃ n t next, s.run? (List.replicate n (.woken .tick)) = some t ∧ t.now = s.now ∧
        t.reaper = .waiting next listener ∧ t.now < next.due) ∧
    ∀ more t, s.run? more = some t →
      s.reaper = .stopped ∨ (s.IsTold ∧ ∀ time, .heldUp time ∉ more) →
        ∃ records, s.store.run (callsFrom s.now more) = some (records, t.store) := by
  have hupkept : s.Upkept ttl interval := (upkept_of_start hstart).run hrun
  refine ⟨fun ticker listener hreaper => ⟨hupkept.bounded hreaper, fun hmoves => ?_,
    hupkept.exists_ticks hreaper⟩, fun more t hmore hending => run_callsFrom ?_ hmore⟩
  · have hfirst : first.IsOnTime := by
      obtain ⟨-, rfl⟩ := start?_eq_some hstart
      intro ticker listener hwaiting
      obtain ⟨rfl, -⟩ := Reaper.waiting.inj hwaiting
      exact Nat.le_refl _
    exact hfirst.run hmoves hrun ticker listener hreaper
  · rcases hending with hstopped | ⟨htold, hmoves⟩
    · exact tick_not_mem_of_stopped hstopped hmore
    · exact tick_not_mem_of_told htold hmoves hmore

/-- With a time to live of ten and a visit every five, a cursor that was created at one and that
nobody asks for stands until fifteen, when it is fourteen old, and is taken out then. Whatever is
stored after the reaper was told to stop is left to the callers. -/
theorem tended_within_bounds_of_forgotten_cursor :
    let id := CursorId.ofNat 1
    let state : CursorState Unit := ⟨(), .empty⟩
    let first : Tended Unit :=
      ⟨⟨.empty 10, [id]⟩, .waiting ⟨0, 5⟩ ⟨0⟩, .new, 0, []⟩
    let moves : List (Move Unit) := [.woken .tick, .passed 1, .called (.create state), .passed 4,
      .woken .tick, .passed 5, .woken .tick, .passed 5]
    start? 10 5 [id] .new 0 = some first ∧
      ∃ s t, first.run? moves = some s ∧ s.now = 15 ∧ s.store.table.entries = [⟨id, state, 11⟩] ∧
        s.past.map (·.now) = [1] ∧ s.Bounded 10 5 ∧
        s.run? [.woken .tick, .sent] = some t ∧ t.store.table.entries = [] ∧ t.IsTold ∧
        ∀ more u, t.run? more = some u → (∀ time, .heldUp time ∉ more) →
          ∃ records, t.store.run (callsFrom t.now more) = some (records, u.store) := by
  intro id state first moves
  have hstart : start? 10 5 [id] .new 0 = some first := rfl
  obtain ⟨s, hrun, hnow, hreaper, hentries, hpast⟩ : ∃ s, first.run? moves = some s ∧ s.now = 15 ∧
      s.reaper = .waiting ⟨15, 5⟩ ⟨0⟩ ∧ s.store.table.entries = [⟨id, state, 11⟩] ∧
      s.past.map (·.now) = [1] := ⟨_, rfl, rfl, rfl, rfl, rfl⟩
  obtain ⟨t, hend, hrun', htold, hempty⟩ : ∃ t, s.run? [.woken .tick, .sent] = some t ∧
      first.run? (moves ++ [.woken .tick, .sent]) = some t ∧ t.IsTold ∧
      t.store.table.entries = [] := by
    obtain rfl := Option.some.inj (Eq.symm hrun)
    exact ⟨_, rfl, rfl, ⟨_, _, rfl, rfl, by decide⟩, rfl⟩
  obtain ⟨hwaiting, -⟩ := tended_within_bounds hstart hrun
  obtain ⟨-, hending⟩ := tended_within_bounds hstart hrun'
  obtain ⟨hbounded, -, -⟩ := hwaiting _ _ hreaper
  exact ⟨hstart, s, t, hrun, hnow, hentries, hpast, hbounded (Nat.le_of_eq hnow), hend, hempty, htold,
    fun more u hmore hmoves => hending more u hmore (.inr ⟨htold, hmoves⟩)⟩

end Tended

end CursorTable

end FilterFleet
