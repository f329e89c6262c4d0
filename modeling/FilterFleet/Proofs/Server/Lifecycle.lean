import FilterFleet.Proofs.Config.Ranges
import FilterFleet.Proofs.Health.Trail
import FilterFleet.Proofs.Server.Service

/-!
# Starting and stopping

A background task is at work while it is alive and has not been told to stop. Whether the tasks of a
server are at work can be told from the moves alone (`Service.standing`): they are from a start on
that finds none, until they are told to stop. What counts for a start is another thing, namely
whether a stop has come after the last one. So a start that follows a shutdown which was no stop
leaves no task at work (`Service.started_exactly`).
-/

namespace FilterFleet

/-- Whether a polling loop is alive and has not been told to stop. -/
def Poller.isAtWork (signal : ShutdownSignal) (p : Poller) : Bool :=
  decide (p.loop ≠ .stopped) && !signal.reaches p.listener

/-- Whether a reaper is alive and has not been told to stop. -/
def Reaper.isAtWork (signal : ShutdownSignal) : Reaper → Bool
  | waiting _ listener => !signal.reaches listener
  | stopped => false

/-- A reaper listens to what has been sent or will be. -/
def Reaper.Listens (signal : ShutdownSignal) : Reaper → Prop
  | waiting _ listener => listener.seen ≤ signal.sent
  | stopped => True

theorem Reaper.Listens.send {signal : ShutdownSignal} {r : Reaper} (h : r.Listens signal) :
    r.Listens signal.send := by
  cases r with
  | waiting ticker listener => exact Nat.le_succ_of_le h
  | stopped => trivial

namespace Service

/-- How many polling loops and how many reapers are at work. -/
def atWork (s : Service) : Nat × Nat :=
  (s.pollers.countP (·.isAtWork s.server.signal), s.reapers.countP (·.isAtWork s.server.signal))

/-- How the background tasks stand. -/
inductive Standing where
  /-- None was started since the last stop. -/
  | stopped
  | running
  /-- They were told to stop, and the server has not been stopped since. -/
  | told
deriving DecidableEq

/-- How the tasks stand after a move. -/
def Standing.after : Standing → Move → Standing
  | .stopped, .started => .running
  | .running, .announced => .told
  | _, .stopping => .stopped
  | standing, _ => standing

/-- How the tasks stand after the moves of a server that was just built. -/
def standing (moves : List Move) : Standing := moves.foldl Standing.after .stopped

/-! ## What a run keeps -/

/-- The listeners go with the signal, and the tasks at work with how they stand. -/
structure Kept (s : Service) (standing : Standing) : Prop where
  interval : s.server.config.reapInterval ≠ 0
  isOpen : s.server.signal.closed = false
  pollersListen : ∀ p ∈ s.pollers, p.listener.seen ≤ s.server.signal.sent
  reapersListen : ∀ r ∈ s.reapers, r.Listens s.server.signal
  tasks : s.server.tasks = none ↔ standing = .stopped
  atWork : s.atWork = if standing = .running then (1, 1) else (0, 0)

variable {s t : Service} {st : Standing} {m : Move}

theorem Kept.aside (h : s.Kept st) (hside : s.Aside t) : t.Kept st := by
  obtain ⟨hconfig, hsignal, htasks, hpollers, hreapers⟩ := hside
  refine ⟨?_, ?_, ?_, ?_, ?_, ?_⟩
  · rw [hconfig]
    exact h.interval
  · rw [hsignal]
    exact h.isOpen
  · rw [hsignal, hpollers]
    exact h.pollersListen
  · rw [hsignal, hreapers]
    exact h.reapersListen
  · rw [htasks]
    exact h.tasks
  · rw [Service.atWork, hsignal, hpollers, hreapers]
    exact h.atWork

/-- What is sent now reaches everybody who listens. -/
theorem reaches_send {signal : ShutdownSignal} {listener : ShutdownListener}
    (h : listener.seen ≤ signal.sent) : signal.send.reaches listener = true := by
  have hlt : listener.seen < signal.sent + 1 := Nat.lt_succ_of_le h
  simp [ShutdownSignal.reaches, ShutdownSignal.send, hlt]

/-- Whoever starts to listen now has not been reached. -/
theorem not_reaches_listen {signal : ShutdownSignal} (h : signal.closed = false) :
    signal.reaches signal.listen = false := by
  simp [ShutdownSignal.reaches, ShutdownSignal.listen, h]

/-- After the signal was sent nobody is at work. -/
theorem Kept.atWork_send (h : s.Kept st) :
    s.pollers.countP (·.isAtWork s.server.signal.send) = 0 ∧
      s.reapers.countP (·.isAtWork s.server.signal.send) = 0 := by
  constructor
  · rw [List.countP_eq_zero]
    intro p hp
    simp [Poller.isAtWork, reaches_send (h.pollersListen p hp)]
  · rw [List.countP_eq_zero]
    intro r hr
    have hlistens := h.reapersListen r hr
    cases r with
    | waiting ticker listener => simp [Reaper.isAtWork, reaches_send hlistens]
    | stopped => simp [Reaper.isAtWork]

/-- Telling everybody to stop leaves nobody at work. -/
theorem Kept.sent (h : s.Kept st) {server : Server} {next : Standing}
    (hconfig : server.config = s.server.config) (hsignal : server.signal = s.server.signal.send)
    (htasks : server.tasks = none ↔ next = .stopped) (hnext : next ≠ .running) :
    Kept { s with server } next := by
  refine ⟨?_, ?_, ?_, ?_, htasks, ?_⟩
  · show server.config.reapInterval ≠ 0
    rw [hconfig]
    exact h.interval
  · show server.signal.closed = false
    rw [hsignal]
    exact h.isOpen
  · intro p hp
    show p.listener.seen ≤ server.signal.sent
    rw [hsignal]
    exact Nat.le_succ_of_le (h.pollersListen p hp)
  · intro r hr
    show r.Listens server.signal
    rw [hsignal]
    exact (h.reapersListen r hr).send
  · rw [if_neg hnext]
    show (s.pollers.countP (·.isAtWork server.signal),
      s.reapers.countP (·.isAtWork server.signal)) = (0, 0)
    rw [hsignal]
    exact Prod.ext h.atWork_send.1 h.atWork_send.2

theorem Kept.announced (h : s.Kept st) :
    Kept { s with server := s.server.shutdown } (st.after .announced) :=
  h.sent rfl rfl (h.tasks.trans (by cases st <;> simp [Standing.after]))
    (by cases st <;> simp [Standing.after])

theorem Kept.stopping (h : s.Kept st) :
    Kept { s with server := s.server.beginStop.2 } (st.after .stopping) :=
  h.sent rfl rfl (by cases st <;> simp [Standing.after, Server.beginStop])
    (by cases st <;> simp [Standing.after])

/-! ### A start -/

/-- A start that finds tasks does nothing. -/
theorem start_of_tasks (h : s.server.tasks ≠ none) : s.start = s := by
  unfold start Server.start
  cases htasks : s.server.tasks with
  | none => exact absurd htasks h
  | some tasks => rfl

/-- A start that finds none starts one task of each kind. -/
theorem start_of_none (h : s.server.tasks = none) (hinterval : s.server.config.reapInterval ≠ 0) :
    s.start = { s with
      server := s.server.start.2
      pollers := s.pollers ++ [⟨.warmingUp, s.server.signal.listen⟩]
      reapers := s.reapers ++
        [.waiting ⟨s.now, s.server.config.reapInterval⟩ s.server.signal.listen] } := by
  simp [start, Server.start, h, Reaper.start?, Ticker.startingAt?, hinterval]

theorem Kept.started (h : s.Kept st) : Kept s.start (st.after .started) := by
  by_cases hstopped : st = .stopped
  · have htasks : s.server.tasks = none := h.tasks.mpr hstopped
    have hsignal : s.server.start.2.signal = s.server.signal := by
      simp [Server.start, htasks]
    have hreach := not_reaches_listen h.isOpen
    have hbefore := h.atWork
    rw [hstopped, if_neg (by decide)] at hbefore
    obtain ⟨hpollers, hreapers⟩ := Prod.mk.inj hbefore
    rw [start_of_none htasks h.interval]
    refine ⟨?_, ?_, ?_, ?_, ?_, ?_⟩
    · simpa [Server.start, htasks] using h.interval
    · rw [hsignal]
      exact h.isOpen
    · rw [hsignal]
      intro p hp
      rcases List.mem_append.mp hp with hp | hp
      · exact h.pollersListen p hp
      · obtain rfl := List.mem_singleton.mp hp
        exact Nat.le_refl _
    · rw [hsignal]
      intro r hr
      rcases List.mem_append.mp hr with hr | hr
      · exact h.reapersListen r hr
      · obtain rfl := List.mem_singleton.mp hr
        exact Nat.le_refl _
    · simp [Server.start, htasks, hstopped, Standing.after]
    · simp only [Service.atWork, hsignal, List.countP_append, hpollers, hreapers, hstopped]
      simp [Poller.isAtWork, Reaper.isAtWork, hreach, Standing.after]
  · have hafter : st.after .started = st := by cases st <;> simp_all [Standing.after]
    rw [start_of_tasks fun hnone => hstopped (h.tasks.mp hnone), hafter]
    exact h

/-! ### The tasks themselves -/

/-- A polling loop goes on: it is at work if it was before. -/
theorem Kept.movePoller (h : s.Kept st) {i : Nat} {p : Poller} {next : HealthLoop × Fleet}
    (hp : s.pollers[i]? = some p) (hsignal : next.2.signal = s.server.signal)
    (heq : Poller.isAtWork s.server.signal { p with loop := next.1 } =
      p.isAtWork s.server.signal) : Kept (s.movePoller i p next) st where
  interval := h.interval
  isOpen := by
    show next.2.signal.closed = false
    rw [hsignal]
    exact h.isOpen
  pollersListen q hq := by
    show q.listener.seen ≤ next.2.signal.sent
    rw [hsignal]
    rcases List.mem_or_eq_of_mem_set hq with hq | rfl
    · exact h.pollersListen q hq
    · exact h.pollersListen p (List.mem_of_getElem? hp)
  reapersListen r hr := by
    show r.Listens next.2.signal
    rw [hsignal]
    exact h.reapersListen r hr
  tasks := h.tasks
  atWork := by
    show ((s.pollers.set i { p with loop := next.1 }).countP (·.isAtWork next.2.signal),
      s.reapers.countP (·.isAtWork next.2.signal)) = _
    rw [hsignal, countP_set_of_eq hp heq]
    exact h.atWork

/-- A loop that was not stopped and is not told to stop is at work after it goes on. -/
theorem isAtWork_of_alive {signal : ShutdownSignal} {p : Poller} {loop : HealthLoop}
    (hbefore : p.loop ≠ .stopped) (hafter : loop ≠ .stopped) :
    Poller.isAtWork signal { p with loop } = p.isAtWork signal := by
  simp [Poller.isAtWork, hbefore, hafter]

/-- Only the shutdown stops a loop. -/
theorem ne_stopped_of_woken {grace : Span} {phase : MonitorPhase} {subscribers : Nat}
    {now tick : Instant} {graceEnd : Option Instant} {w : HealthWake}
    {next : HealthLoop × MonitorPhase}
    (h : HealthLoop.Woken grace phase subscribers now tick graceEnd w next) (hw : w ≠ .shutdown) :
    next.1 ≠ .stopped := by
  cases h with
  | stopped => exact absurd rfl hw
  | opened | resumed | closed | deserted | unmoved | expired | reopened | reopenedDue | early
  | due => exact HealthLoop.noConfusion

theorem Kept.woken (h : s.Kept st) {i : Nat} {w : HealthWake}
    (hstep : s.step? (.woken i w) = some t) : t.Kept st := by
  obtain ⟨p, hp, hstep⟩ := Option.bind_eq_some_iff.mp hstep
  split at hstep
  · next hready =>
    obtain rfl := Option.some.inj hstep
    obtain ⟨tick, graceEnd, hloop⟩ := HealthLoop.exists_waiting_of_isReady hready
    refine h.movePoller hp rfl ?_
    by_cases hw : w = .shutdown
    · have hreached : s.server.signal.reaches p.listener = true := by
        rw [hloop, hw] at hready
        exact hready
      simp [Poller.isAtWork, hreached]
    · refine isAtWork_of_alive (by simp [hloop]) ?_
      have hnext : ((HealthLoop.waiting tick graceEnd).wake s.server.monitor.grace
          s.server.monitor.phase s.server.broker.subscribers s.now w).1 ≠ .stopped :=
        ne_stopped_of_woken (HealthLoop.woken_wake w) hw
      rw [hloop]
      exact hnext
  · cases hstep

/-- A loop that is done with a sweep waits for the next one. -/
theorem ne_stopped_of_afterSweep {loop : HealthLoop} (h : loop.isSweeping = true)
    (phase : MonitorPhase) (subscribers : Nat) (now : Instant) (period : Span) :
    (loop.afterSweep phase subscribers now period).1 ≠ .stopped := by
  cases loop with
  | warmingUp | sweeping _ => exact HealthLoop.noConfusion
  | waiting _ _ | stopped => simp [HealthLoop.isSweeping] at h

theorem signal_afterSweep (f : Fleet) (loop : HealthLoop) (now : Instant) (period : Span) :
    (f.afterSweep loop now period).2.signal = f.signal := rfl

theorem Kept.swept (h : s.Kept st) {i : Nat} {results : FanOut AuthStatus} {stamp : Timestamp}
    {period : Span} (hstep : s.step? (.swept i results stamp period) = some t) : t.Kept st := by
  obtain ⟨p, hp, hstep⟩ := Option.bind_eq_some_iff.mp hstep
  split at hstep
  · next hready =>
    obtain rfl := Option.some.inj hstep
    refine h.movePoller hp (signal_afterSweep _ _ _ _) ?_
    have hbefore : p.loop ≠ .stopped := by
      intro hstopped
      rw [hstopped] at hready
      exact absurd hready.1 (by decide)
    exact isAtWork_of_alive hbefore (ne_stopped_of_afterSweep hready.1 _ _ _ _)
  · cases hstep

/-- A reaper that is woken is at work afterwards if it was before: it stops only when told to. -/
theorem Kept.reaped (h : s.Kept st) {i : Nat} {w : ReaperWake}
    (hstep : s.step? (.reaped i w) = some t) : t.Kept st := by
  obtain ⟨r, hr, hstep⟩ := Option.bind_eq_some_iff.mp hstep
  split at hstep
  · next hready =>
    obtain rfl := Option.some.inj hstep
    have hlistens := h.reapersListen r (List.mem_of_getElem? hr)
    obtain ⟨heq, hnext⟩ : Reaper.isAtWork s.server.signal
          (r.wake s.server.cluster.cursors s.now w).1 = r.isAtWork s.server.signal ∧
        (r.wake s.server.cluster.cursors s.now w).1.Listens s.server.signal := by
      cases r with
      | waiting ticker listener =>
        cases w with
        | shutdown =>
          have hreached : s.server.signal.reaches listener = true := hready
          exact ⟨by simp [Reaper.wake, Reaper.isAtWork, hreached], trivial⟩
        | tick =>
          have hseen : listener.seen ≤ s.server.signal.sent := hlistens
          exact ⟨by simp only [Reaper.wake, Reaper.isAtWork], hseen⟩
      | stopped => cases w <;> cases hready
    refine ⟨h.interval, h.isOpen, h.pollersListen, ?_, h.tasks, ?_⟩
    · intro q hq
      rcases List.mem_or_eq_of_mem_set hq with hq | rfl
      · exact h.reapersListen q hq
      · exact hnext
    · show (s.pollers.countP (·.isAtWork s.server.signal),
        (s.reapers.set i _).countP (·.isAtWork s.server.signal)) = _
      rw [countP_set_of_eq hr heq]
      exact h.atWork
  · cases hstep

/-! ## Runs -/

theorem Kept.step (h : s.Kept st) (hstep : s.step? m = some t) : t.Kept (st.after m) := by
  by_cases hm : m.isOfTasks = true
  · cases m with
    | started =>
      obtain rfl := Option.some.inj hstep
      exact h.started
    | announced =>
      obtain rfl := Option.some.inj hstep
      exact h.announced
    | stopping =>
      obtain rfl := Option.some.inj hstep
      exact h.stopping
    | woken i w =>
      have hsame : st.after (.woken i w) = st := by cases st <;> rfl
      rw [hsame]
      exact h.woken hstep
    | swept i results stamp period =>
      have hsame : st.after (.swept i results stamp period) = st := by cases st <;> rfl
      rw [hsame]
      exact h.swept hstep
    | reaped i w =>
      have hsame : st.after (.reaped i w) = st := by cases st <;> rfl
      rw [hsame]
      exact h.reaped hstep
    | _ => cases hm
  · have hsame : st.after m = st := by
      cases m <;> first | exact absurd rfl hm | (cases st <;> rfl)
    rw [hsame]
    exact h.aside (aside_of_step hstep (by simpa using hm))

theorem Kept.run {moves : List Move} (h : s.Kept st) (hrun : s.run? moves = some t) :
    t.Kept (moves.foldl Standing.after st) := by
  induction moves generalizing s st with
  | nil =>
    obtain rfl := Option.some.inj hrun
    exact h
  | cons m rest ih =>
    obtain ⟨next, hm, hrest⟩ := Option.bind_eq_some_iff.mp hrun
    exact ih (h.step hm) hrest

/-- What a server has that was just built. -/
theorem fresh_of_build {config : FleetConfig} {connect : Connector} {server : Server}
    (h : Server.build config connect = .ok server) :
    server.config = config ∧ server.signal = .new ∧ server.tasks = none := by
  refine Server.build_induction (P := fun s => s.config = config ∧ s.signal = .new ∧ s.tasks = none)
    ⟨rfl, rfl, rfl⟩ (fun s settings s' hs hadd => ?_) h
  obtain ⟨_, _, -, -, rfl⟩ := Server.addFirst_eq_ok hadd
  exact hs

theorem kept_opened {config : FleetConfig} {connect : Connector} {server : Server}
    (h : Server.build config connect = .ok server) (now : Instant) :
    (opened server now).Kept .stopped := by
  obtain ⟨hconfig, hsignal, htasks⟩ := fresh_of_build h
  obtain ⟨-, hrange, -⟩ := config.validate_eq_ok_iff.mp (Server.build_eq_ok h).1
  refine ⟨?_, ?_, nofun, nofun, ⟨fun _ => rfl, fun _ => htasks⟩, rfl⟩
  · show server.config.reapInterval ≠ 0
    rw [hconfig]
    exact ofSecs_ne_zero hrange.reapInterval.1
  · show server.signal.closed = false
    rw [hsignal]
    rfl

/-- **What a start leaves at work.** After any run of a server that was built, the tasks are at
work, one polling loop and one reaper, iff they are `running`. A start that comes then leaves one of
each at work, unless they were told to stop and the server has not been stopped since: it starts
them if the server is `stopped`, and it never starts a second pair. -/
theorem started_exactly {config : FleetConfig} {connect : Connector} {server : Server}
    (hbuild : Server.build config connect = .ok server) (now : Instant) {moves : List Move}
    {s t : Service} (hrun : (opened server now).run? moves = some s)
    (hstart : s.step? .started = some t) :
    s.atWork = (if standing moves = .running then (1, 1) else (0, 0)) ∧
      match standing moves with
      | .stopped => t.atWork = (1, 1) ∧ t.pollers.length = s.pollers.length + 1 ∧
          t.reapers.length = s.reapers.length + 1
      | .running => t.atWork = (1, 1) ∧ t = s
      | .told => t.atWork = (0, 0) ∧ t = s := by
  have hkept : s.Kept (standing moves) := (kept_opened hbuild now).run hrun
  have hnext : t.Kept ((standing moves).after .started) := hkept.step hstart
  obtain rfl : s.start = t := Option.some.inj hstart
  refine ⟨hkept.atWork, ?_⟩
  cases hst : standing moves with
  | stopped =>
    have htasks : s.server.tasks = none := hkept.tasks.mpr hst
    refine ⟨by simpa [hst, Standing.after] using hnext.atWork, ?_⟩
    rw [start_of_none htasks hkept.interval]
    simp
  | running =>
    have htasks : s.server.tasks ≠ none := fun h => by simp [hkept.tasks.mp h] at hst
    exact ⟨by simpa [hst, Standing.after] using hnext.atWork, start_of_tasks htasks⟩
  | told =>
    have htasks : s.server.tasks ≠ none := fun h => by simp [hkept.tasks.mp h] at hst
    exact ⟨by simpa [hst, Standing.after] using hnext.atWork, start_of_tasks htasks⟩

/-- A server without nodes. -/
def bareService : Service := opened (.bare .standard) 0

/-- A start after a stop leaves one task of each kind at work, beside those that were stopped. -/
theorem started_exactly_after_stop :
    ∃ s t, bareService.run? [.started, .announced, .stopping, .stopped] = some s ∧
      s.step? .started = some t ∧ t.atWork = (1, 1) ∧ t.pollers.length = 2 := by
  have hstart := started_exactly (Server.build_standard ServerRun.connectAny) 0
    (show bareService.run? [.started, .announced, .stopping, .stopped] = some _ from rfl) rfl
  exact ⟨_, _, rfl, rfl, hstart.2.1, hstart.2.2.1⟩

/-- After a shutdown the tasks come to their ends, and a start leaves none at work. -/
theorem started_after_shutdown :
    ∃ s t, bareService.run? [.started, .swept 0 .empty ⟨0⟩ 0, .announced, .woken 0 .shutdown,
        .reaped 0 .shutdown] = some s ∧
      s.step? .started = some t ∧ t.atWork = (0, 0) ∧ t.pollers.map (·.loop) = [.stopped] := by
  exact ⟨_, _, rfl, rfl, rfl, rfl⟩

end Service

end FilterFleet
