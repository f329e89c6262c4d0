import FilterFleet.Client.Session
import FilterFleet.Proofs.Config.Nodes
import FilterFleet.Proofs.Cursor.Table
import FilterFleet.Proofs.Events.Needs
import FilterFleet.Proofs.Server.Lifecycle

/-!
# What an accepted configuration guarantees

Everything that a server does relies on something (`Service.needs`): a stream on a queue of the
configured capacity, a tick on its period, a deadline on a point in time so far ahead. A server that
was built from an accepted configuration `Fits` all along (`Fits.run`), and gets everything that it
relies on with one exception. The capacity of the queues is the one number of a configuration that
is checked from below only: a subscription breaks down iff there is no queue of that capacity
(`Service.safe_iff_capacity`).
-/

namespace FilterFleet

/-! ## Lengths of time -/

/-- A year of 366 days. -/
def Span.year : Span := Span.ofSecs (366 * 86400)

/-- A length of time that a configuration may give is far shorter. -/
theorem two_mul_ofSecs_le_year {secs : Nat} (h : secs ≤ maxDurationSecs) :
    2 * Span.ofSecs secs ≤ Span.year := by
  have hsecs : 2 * (secs * 1000000000) ≤ 366 * 86400 * 1000000000 := by
    have hweek : secs ≤ 604800 := h
    omega
  exact hsecs

theorem ofSecs_le_year {secs : Nat} (h : secs ≤ maxDurationSecs) : Span.ofSecs secs ≤ Span.year :=
  Nat.le_trans (Nat.le_mul_of_pos_left _ (by decide)) (two_mul_ofSecs_le_year h)

theorem year_lt : Span.year < Span.ofSecs UInt64.size := by
  refine Nat.mul_lt_mul_of_pos_right ?_ (by decide)
  decide

/-- A tick can be taken if the clock goes on for the period. -/
theorem met_ticker {longest : Span} {ticker : Ticker} (hlong : Span.year ≤ longest)
    (hperiod : ticker.period ≤ Span.year) :
    ∀ need ∈ ticker.needs, need.Met longest := by
  intro need hneed
  rcases List.mem_pair.mp hneed with rfl | rfl
  · have hmoment : 5 * 1000000 ≤ 366 * 86400 * 1000000000 := by decide
    exact Nat.le_trans hmoment hlong
  · exact Nat.le_trans hperiod hlong

/-! ## Fleets -/

namespace Fleet

variable {f : Fleet} {config : FleetConfig} {bound : Nat} {longest : Span}

/-- What taking in the answers of a sweep relies on. -/
def sweepNeeds (f : Fleet) (results : FanOut AuthStatus) (stamp : Timestamp) : List Need :=
  .count (f.monitor.sweeps + 1) :: f.broker.publishNeeds
    (f.monitor.board.absorb results f.cluster.contains stamp).events

/-- What dropping the record of a node relies on. -/
def forgetNeeds (f : Fleet) (id : NodeId) (stamp : Timestamp) : List Need :=
  match f.monitor.board.forget? id stamp with
  | some board => f.broker.publishNeeds board.events
  | none => []

/-- Queues hold at least one event. -/
theorem capacity_pos (config : FleetConfig) : 0 < max config.events.channelCapacity 1 :=
  Nat.lt_of_lt_of_le Nat.one_pos (Nat.le_max_right _ _)

/-- The parts of a fleet have the settings of a configuration, and counted so far at most. -/
structure Fits (f : Fleet) (config : FleetConfig) (bound : Nat) : Prop where
  broker : f.broker.Fits (max config.events.channelCapacity 1) bound
  interval : f.monitor.interval = max config.pollingInterval (Span.ofSecs 1)
  grace : f.monitor.grace = config.gracePeriod
  sweeps : f.monitor.sweeps ≤ bound
  cursorTtl : f.cluster.cursors.ttl = config.cursorTtl

theorem Fits.mono (h : f.Fits config bound) {more : Nat} (hle : bound ≤ more) :
    f.Fits config more :=
  ⟨h.broker.mono hle, h.interval, h.grace, Nat.le_trans h.sweeps hle, h.cursorTtl⟩

theorem Fits.withBroker (h : f.Fits config bound) {b : Broker}
    (hb : b.Fits (max config.events.channelCapacity 1) bound) :
    Fits { f with broker := b } config bound :=
  ⟨hb, h.interval, h.grace, h.sweeps, h.cursorTtl⟩

theorem Fits.withCluster (h : f.Fits config bound) {c : Cluster}
    (hc : c.cursors.ttl = f.cluster.cursors.ttl) : Fits { f with cluster := c } config bound :=
  ⟨h.broker, h.interval, h.grace, h.sweeps, hc.trans h.cursorTtl⟩

theorem fits_publish {b : Broker} {capacity : Nat} (h : b.Fits capacity bound)
    (board : HealthBoard) : (board.publish b).Fits capacity bound := by
  show (board.events.foldl (fun b e => (b.publish e).2) b).Fits capacity bound
  generalize board.events = events
  induction events generalizing b with
  | nil => exact h
  | cons e rest ih => exact ih (h.publish e)

theorem Fits.landSweep (h : f.Fits config bound) (results : FanOut AuthStatus) (stamp : Timestamp) :
    (f.landSweep results stamp).Fits config (bound + 1) :=
  ⟨(fits_publish h.broker _).mono (Nat.le_succ _), h.interval, h.grace, Nat.succ_le_succ h.sweeps,
    h.cursorTtl⟩

theorem Fits.forget (h : f.Fits config bound) (id : NodeId) (stamp : Timestamp) :
    (f.forget id stamp).Fits config bound := by
  unfold Fleet.forget HealthMonitor.forget
  cases f.monitor.board.forget? id stamp with
  | none => exact h
  | some board => exact ⟨fits_publish h.broker board, h.interval, h.grace, h.sweeps, h.cursorTtl⟩

theorem Fits.wakeHealth (h : f.Fits config bound) (loop : HealthLoop) (now : Instant)
    (w : HealthWake) : (f.wakeHealth loop now w).2.Fits config bound := by
  refine ⟨?_, h.interval, h.grace, h.sweeps, h.cursorTtl⟩
  show Broker.Fits (if w = .change then f.broker.acknowledge else f.broker) _ _
  split
  · exact h.broker.with_signal _
  · exact h.broker

theorem Fits.afterSweep (h : f.Fits config bound) (loop : HealthLoop) (now : Instant)
    (period : Span) : (f.afterSweep loop now period).2.Fits config bound :=
  ⟨h.broker, h.interval, h.grace, h.sweeps, h.cursorTtl⟩

theorem Fits.met_sweepNeeds (h : f.Fits config bound) (hbound : bound + 1 < UInt64.size)
    (results : FanOut AuthStatus) (stamp : Timestamp) :
    ∀ need ∈ f.sweepNeeds results stamp, need.Met longest := by
  intro need hneed
  rcases List.mem_cons.mp hneed with rfl | hneed
  · exact Nat.lt_of_le_of_lt (Nat.succ_le_succ h.sweeps) hbound
  · exact h.broker.met_publishNeeds (Nat.lt_of_succ_lt hbound) _ need hneed

theorem Fits.met_forgetNeeds (h : f.Fits config bound) (hbound : bound + 1 < UInt64.size)
    (id : NodeId) (stamp : Timestamp) : ∀ need ∈ f.forgetNeeds id stamp, need.Met longest := by
  rw [forgetNeeds]
  split
  · exact h.broker.met_publishNeeds (Nat.lt_of_succ_lt hbound) _
  · exact nofun

end Fleet

/-- What waking a reaper relies on. -/
def Reaper.needs {π : Type} (table : CursorTable π) (now : Instant) :
    Reaper → ReaperWake → List Need
  | waiting ticker _, .tick => ticker.needs ++ [.difference table.size (table.reap now).size]
  | _, _ => []

/-- A reaper comes by at intervals of a length. -/
def Reaper.Paced (period : Span) : Reaper → Prop
  | waiting ticker _ => ticker.period = period
  | stopped => True

theorem Reaper.Paced.wake {π : Type} {period : Span} {r : Reaper} (h : r.Paced period)
    (table : CursorTable π) (now : Instant) (w : ReaperWake) :
    (r.wake table now w).1.Paced period := by
  cases w with
  | shutdown => trivial
  | tick =>
    cases r with
    | waiting ticker listener => exact (ticker.period_take now).trans h
    | stopped => trivial

theorem Reaper.Paced.met {π : Type} {period longest : Span} {r : Reaper} (h : r.Paced period)
    (hlong : Span.year ≤ longest) (hperiod : period ≤ Span.year) (table : CursorTable π)
    (now : Instant) (w : ReaperWake) : ∀ need ∈ r.needs table now w, need.Met longest := by
  cases w with
  | shutdown => cases r <;> exact nofun
  | tick =>
    cases r with
    | stopped => exact nofun
    | waiting ticker listener =>
      have hticker : ticker.period ≤ Span.year := Nat.le_trans (Nat.le_of_eq h) hperiod
      intro need hneed
      rcases List.mem_append.mp hneed with hneed | hneed
      · exact met_ticker hlong hticker need hneed
      · obtain rfl := List.mem_singleton.mp hneed
        exact List.length_filter_le _ _

namespace Service

variable {s t : Service} {m : Move} {config : FleetConfig} {bound : Nat} {longest : Span}

/-- What a move relies on. -/
def needs (s : Service) : Move → List Need
  | .started =>
    match s.server.tasks with
    | some _ => []
    | none => [.period s.server.config.reapInterval]
  | .woken _ w => if w = .change then [.ahead s.server.monitor.grace] else []
  | .swept _ results stamp period =>
    s.server.sweepNeeds results stamp ++ [.span period, .ahead period]
  | .reaped i w => s.reapers[i]?.elim [] (·.needs s.server.cluster.cursors s.now w)
  | .examined results stamp => s.server.sweepNeeds results stamp
  | .subscribed topics => EventStream.openNeeds s.server.broker topics s.server.config.heartbeat
  | .framed i w => s.streams[i]?.elim [] (·.needs s.server.broker w)
  | .left i => s.streams[i]?.elim [] fun x => s.server.broker.needs (.drop x.subscription)
  | .called c => s.server.broker.needs c
  | .removed id stamp => s.server.forgetNeeds id stamp
  | .loggedIn validity =>
    [.ahead CachedSession.leeway, .ahead (min validity CachedSession.maxValidity)]
  | .answered _ _ _ => [.ahead s.server.cluster.cursors.ttl]
  | .passed _ | .announced | .stopping | .stopped | .listened | .added _ _ | .updated _
  | .asked _ => []

/-- Whether a move asks for a subscription. -/
def Move.subscribes : Move → Bool
  | .subscribed _ => true
  | .called c => c.subscribes
  | _ => false

/-- A move gets what it relies on. -/
def Safe (s : Service) (longest : Span) (m : Move) : Prop := ∀ need ∈ s.needs m, need.Met longest

/-! ## What a run keeps -/

/-- Everything has the settings of a configuration, and counted so far at most. -/
structure Fits (s : Service) (config : FleetConfig) (bound : Nat) : Prop where
  configured : s.server.config = config
  fleet : s.server.toFleet.Fits config bound
  reapers : ∀ r ∈ s.reapers, r.Paced config.reapInterval
  streams : ∀ x ∈ s.streams, x.heartbeat.period = config.heartbeat

theorem Fits.mono (h : s.Fits config bound) {more : Nat} (hle : bound ≤ more) :
    s.Fits config more :=
  ⟨h.configured, h.fleet.mono hle, h.reapers, h.streams⟩

theorem Fits.withFleet (h : s.Fits config bound) {f : Fleet} {more : Nat}
    (hf : f.Fits config more) : (s.withFleet f).Fits config more :=
  ⟨h.configured, hf, h.reapers, h.streams⟩

/-- A call about the membership changes the fleet and the stored settings. -/
theorem Fits.withServer (h : s.Fits config bound) {server : Server}
    (hconfig : server.config = s.server.config) (hfleet : server.toFleet.Fits config bound) :
    Fits { s with server } config bound :=
  ⟨hconfig.trans h.configured, hfleet, h.reapers, h.streams⟩

/-! Searches leave the time to live of the cursors as it is. -/

theorem ttl_openPage (c : Cluster) (r : FetchRequest) (now : Instant) :
    (c.openPage r now).2.cursors.ttl = c.cursors.ttl := by
  unfold Cluster.openPage
  split
  · rfl
  · next id _ =>
    have hlookup := c.cursors.ttl_lookup id now
    dsimp only
    split <;> exact hlookup

theorem ttl_landPage {c c' : Cluster} {page : OpenPage} {results : FanOut QueryPage}
    {draws : List CursorId} {now : Instant} {landed : FleetPage}
    (h : c.landPage? page results draws now = some (landed, c')) :
    c'.cursors.ttl = c.cursors.ttl := by
  unfold Cluster.landPage? at h
  dsimp only at h
  split at h
  · obtain ⟨-, rfl⟩ := Prod.mk.inj (Option.some.inj h)
    rfl
  · obtain ⟨⟨id, cursors⟩, hcreate, heq⟩ := Option.map_eq_some_iff.mp h
    obtain ⟨-, rfl⟩ := Prod.mk.inj heq
    obtain ⟨-, -, rfl⟩ := CursorTable.create?_eq_some hcreate
    rfl

theorem Fits.started (h : s.Fits config bound) : s.start.Fits config bound := by
  unfold start Server.start
  cases s.server.tasks with
  | some tasks => exact h
  | none =>
    refine ⟨h.configured, h.fleet, ?_, h.streams⟩
    intro r hr
    rcases List.mem_append.mp hr with hr | hr
    · exact h.reapers r hr
    · obtain ⟨ticker, hticker, rfl⟩ := Option.map_eq_some_iff.mp (Option.mem_toList.mp hr)
      rw [Ticker.startingAt?] at hticker
      split at hticker
      · cases hticker
      · obtain rfl := Option.some.inj hticker
        exact congrArg FleetConfig.reapInterval h.configured

theorem Fits.reaped (h : s.Fits config bound) {i : Nat} {w : ReaperWake}
    (hstep : s.step? (.reaped i w) = some t) : t.Fits config bound := by
  obtain ⟨r, hr, hstep⟩ := Option.bind_eq_some_iff.mp hstep
  split at hstep
  · obtain rfl := Option.some.inj hstep
    have hpaced : r.Paced config.reapInterval := h.reapers r (List.mem_of_getElem? hr)
    have hsame :
        (r.wake s.server.cluster.cursors s.now w).2.ttl = s.server.cluster.cursors.ttl := by
      cases w with
      | shutdown => rfl
      | tick => cases r <;> rfl
    refine ⟨h.configured, h.fleet.withCluster hsame, ?_, h.streams⟩
    intro q hq
    rcases List.mem_or_eq_of_mem_set hq with hq | rfl
    · exact h.reapers q hq
    · exact hpaced.wake _ _ _
  · cases hstep

theorem Fits.subscribed (h : s.Fits config bound) (topics : List String) :
    (s.subscribe topics).Fits config (bound + 1) := by
  unfold subscribe
  split
  · next x b hopen =>
    obtain ⟨rfl, hperiod⟩ := EventStream.open?_eq_some hopen
    have hfleet : Fleet.Fits { s.server.toFleet with broker := s.server.broker.subscribed topics }
        config (bound + 1) :=
      (h.fleet.mono (Nat.le_succ bound)).withBroker (h.fleet.broker.subscribed topics)
    refine ⟨h.configured, hfleet, h.reapers, ?_⟩
    intro y hy
    rcases List.mem_append.mp hy with hy | hy
    · exact h.streams y hy
    · obtain rfl := List.mem_singleton.mp hy
      rw [hperiod, h.configured]
  · exact h.mono (Nat.le_succ bound)

theorem Fits.framed (h : s.Fits config bound) {i : Nat} {w : StreamWake}
    (hstep : s.step? (.framed i w) = some t) : t.Fits config bound := by
  obtain ⟨x, hx, hstep⟩ := Option.bind_eq_some_iff.mp hstep
  split at hstep
  · obtain rfl := Option.some.inj hstep
    have hperiod : x.heartbeat.period = config.heartbeat := h.streams x (List.mem_of_getElem? hx)
    refine ⟨h.configured, h.fleet.withBroker (EventStream.fits_wake h.fleet.broker x s.now w),
      h.reapers, ?_⟩
    intro y hy
    rcases List.mem_or_eq_of_mem_set hy with hy | rfl
    · exact h.streams y hy
    · exact (EventStream.period_wake x s.server.broker s.now w).trans hperiod
  · cases hstep

/-- A move counts at most one thing more. -/
theorem Fits.step (h : s.Fits config bound) (hstep : s.step? m = some t) :
    t.Fits config (bound + 1) := by
  have hle : bound ≤ bound + 1 := Nat.le_succ bound
  cases m with
  | passed _ | announced | stopping | stopped | listened | loggedIn _ =>
    obtain rfl := Option.some.inj hstep
    have hfleet := h.fleet.mono hle
    exact ⟨h.configured, ⟨hfleet.broker, hfleet.interval, hfleet.grace, hfleet.sweeps,
      hfleet.cursorTtl⟩, h.reapers, h.streams⟩
  | started =>
    obtain rfl := Option.some.inj hstep
    exact h.started.mono hle
  | woken i w =>
    obtain ⟨p, -, hstep⟩ := Option.bind_eq_some_iff.mp hstep
    split at hstep
    · obtain rfl := Option.some.inj hstep
      have hfleet := (h.fleet.mono hle).wakeHealth p.loop s.now w
      exact ⟨h.configured, hfleet, h.reapers, h.streams⟩
    · cases hstep
  | swept i results stamp period =>
    obtain ⟨p, -, hstep⟩ := Option.bind_eq_some_iff.mp hstep
    split at hstep
    · obtain rfl := Option.some.inj hstep
      have hfleet := (h.fleet.landSweep results stamp).afterSweep p.loop s.now period
      exact ⟨h.configured, hfleet, h.reapers, h.streams⟩
    · cases hstep
  | reaped i w => exact (h.reaped hstep).mono hle
  | examined results stamp =>
    obtain rfl := Option.some.inj hstep
    exact h.withFleet (h.fleet.landSweep results stamp)
  | subscribed topics =>
    obtain rfl := Option.some.inj hstep
    exact h.subscribed topics
  | framed i w => exact (h.framed hstep).mono hle
  | left i =>
    obtain ⟨x, -, hstep⟩ := Option.bind_eq_some_iff.mp hstep
    obtain rfl := Option.some.inj hstep
    have hfleet := h.fleet.withBroker (h.fleet.broker.drop x.subscription)
    refine ⟨h.configured, hfleet.mono hle, h.reapers, ?_⟩
    intro y hy
    exact h.streams y (List.mem_of_mem_eraseIdx hy)
  | called c =>
    obtain rfl := Option.some.inj hstep
    exact h.withFleet ((h.fleet.mono hle).withBroker (h.fleet.broker.perform c))
  | added connect settings =>
    obtain rfl := Option.some.inj hstep
    rcases s.server.addNode_cases connect settings with ⟨e, hadd⟩ | ⟨-, -, member, -, -, hadd⟩ <;>
      rw [hadd]
    · exact h.mono hle
    · exact (h.mono hle).withServer rfl ((h.fleet.mono hle).withCluster rfl)
  | updated settings =>
    obtain rfl := Option.some.inj hstep
    rcases s.server.updateNode_cases settings with ⟨e, hupdate⟩ | ⟨-, -, member, -, hupdate⟩ <;>
      rw [hupdate]
    · exact h.mono hle
    · exact (h.mono hle).withServer rfl ((h.fleet.mono hle).withCluster rfl)
  | removed id stamp =>
    obtain rfl := Option.some.inj hstep
    rcases s.server.removeNode_cases id stamp with ⟨-, hremove⟩ | ⟨-, hremove⟩ <;> rw [hremove]
    · exact h.mono hle
    · have hfleet := (h.fleet.mono hle).withCluster (c := (s.server.cluster.remove id).2) rfl
      exact (h.mono hle).withServer rfl (hfleet.forget id stamp)
  | asked r =>
    obtain rfl := Option.some.inj hstep
    exact h.withFleet ((h.fleet.mono hle).withCluster (ttl_openPage _ r s.now))
  | answered page results draws =>
    obtain ⟨⟨landed, cluster⟩, hland, rfl⟩ := Option.map_eq_some_iff.mp hstep
    exact h.withFleet ((h.fleet.mono hle).withCluster (ttl_landPage hland))

theorem Fits.run {moves : List Move} (h : s.Fits config bound) (hrun : s.run? moves = some t) :
    t.Fits config (bound + moves.length) := by
  induction moves generalizing s bound with
  | nil =>
    obtain rfl := Option.some.inj hrun
    exact h
  | cons m rest ih =>
    obtain ⟨next, hm, hrest⟩ := Option.bind_eq_some_iff.mp hrun
    have hnext := ih (h.step hm) hrest
    rw [List.length_cons, Nat.add_comm rest.length, ← Nat.add_assoc]
    exact hnext

/-- A server that was just built has counted nothing. -/
theorem fits_opened {connect : Connector} {server : Server}
    (h : Server.build config connect = .ok server) (now : Instant) :
    (opened server now).Fits config 0 := by
  have hserver : server.config = config ∧ server.toFleet.Fits config 0 := by
    refine Server.build_induction (P := fun s => s.config = config ∧ s.toFleet.Fits config 0)
      ⟨rfl, Broker.fits_new _ 0, rfl, rfl, Nat.le_refl 0, rfl⟩ (fun s settings s' hs hadd => ?_) h
    obtain ⟨member, -, -, rfl⟩ := Server.addFirst_eq_ok hadd
    exact ⟨hs.1, hs.2.withCluster rfl⟩
  exact ⟨hserver.1, hserver.2, nofun, nofun⟩

/-! ## They get what they rely on -/

/-- The time between two sweeps is at most twice the interval. -/
theorem Fits.period_le_year (h : s.Fits config bound) (hrange : config.InRange) {i : Nat}
    {results : FanOut AuthStatus} {stamp : Timestamp} {period : Span}
    (hstep : s.step? (.swept i results stamp period) = some t) : period ≤ Span.year := by
  obtain ⟨p, -, hstep⟩ := Option.bind_eq_some_iff.mp hstep
  split at hstep
  · next hready =>
    have hmost : config.pollingInterval ≤ Span.ofSecs maxDurationSecs :=
      Nat.mul_le_mul_right _ hrange.pollingInterval.2
    have hleast : Span.ofSecs 1 ≤ Span.ofSecs maxDurationSecs := Nat.mul_le_mul_right _ (by decide)
    have hinterval : s.server.monitor.interval ≤ Span.ofSecs maxDurationSecs := by
      rw [h.fleet.interval]
      exact Nat.max_le.mpr ⟨hmost, hleast⟩
    have hdouble := Nat.mul_le_mul_left 2 hinterval
    exact Nat.le_trans hready.2 (Nat.le_trans hdouble (two_mul_ofSecs_le_year (Nat.le_refl _)))
  · cases hstep

/-- There is a queue of the configured capacity iff it is below the limit. -/
theorem met_queue_iff : (Need.queue (max config.events.channelCapacity 1)).Met longest ↔
    config.events.channelCapacity ≤ Broker.queueLimit := by
  have hone : 1 ≤ Broker.queueLimit := by decide
  rw [Need.Met, Nat.max_le]
  exact ⟨fun h => h.2.1, fun h => ⟨Fleet.capacity_pos config, h, hone⟩⟩

/-- Whatever fits gets what it relies on, if there is a queue for the subscription that it is asked
for. -/
theorem Fits.safe (h : s.Fits config bound) (hrange : config.InRange) (hlong : Span.year ≤ longest)
    (hbound : bound + 1 < UInt64.size)
    (hcapacity : m.subscribes = true → config.events.channelCapacity ≤ Broker.queueLimit)
    (hstep : s.step? m = some t) : s.Safe longest m := by
  have hheartbeat : config.heartbeat ≤ Span.year := ofSecs_le_year hrange.heartbeat.2
  unfold Safe
  cases m with
  | passed _ | announced | stopping | stopped | listened | added _ _ | updated _ | asked _ =>
    exact nofun
  | started =>
    rw [needs]
    split
    · exact nofun
    · intro need hneed
      obtain rfl := List.mem_singleton.mp hneed
      rw [h.configured]
      exact ofSecs_ne_zero hrange.reapInterval.1
  | woken i w =>
    rw [needs]
    split
    · intro need hneed
      obtain rfl := List.mem_singleton.mp hneed
      rw [h.fleet.grace]
      exact Nat.le_trans (ofSecs_le_year hrange.gracePeriod) hlong
    · exact nofun
  | swept i results stamp period =>
    have hperiod : period ≤ Span.year := h.period_le_year hrange hstep
    intro need hneed
    rcases List.mem_append.mp hneed with hneed | hneed
    · exact h.fleet.met_sweepNeeds hbound results stamp need hneed
    · rcases List.mem_pair.mp hneed with rfl | rfl
      · exact Nat.lt_of_le_of_lt hperiod year_lt
      · exact Nat.le_trans hperiod hlong
  | reaped i w =>
    obtain ⟨r, hr, -⟩ := Option.bind_eq_some_iff.mp hstep
    have hinterval : config.reapInterval ≤ Span.year := ofSecs_le_year hrange.reapInterval.2
    rw [needs, hr, Option.elim_some]
    exact (h.reapers r (List.mem_of_getElem? hr)).met hlong hinterval _ _ w
  | examined results stamp => exact h.fleet.met_sweepNeeds hbound results stamp
  | subscribed topics =>
    intro need hneed
    rcases List.mem_append.mp hneed with hneed | hneed
    · refine h.fleet.broker.met hbound (.subscribe topics) (fun _ => ?_) need hneed
      exact met_queue_iff.mpr (hcapacity rfl)
    · rw [h.configured] at hneed
      rcases List.mem_pair.mp hneed with rfl | rfl
      · exact Nat.le_trans hheartbeat hlong
      · exact ofSecs_ne_zero (Nat.lt_of_lt_of_le (by decide) hrange.heartbeat.1)
  | framed i w =>
    obtain ⟨x, hx, -⟩ := Option.bind_eq_some_iff.mp hstep
    rw [needs, hx, Option.elim_some]
    refine EventStream.met_needs h.fleet.broker (met_ticker hlong ?_) w
    rw [h.streams x (List.mem_of_getElem? hx)]
    exact hheartbeat
  | left i =>
    obtain ⟨x, hx, -⟩ := Option.bind_eq_some_iff.mp hstep
    rw [needs, hx, Option.elim_some]
    exact h.fleet.broker.met hbound (.drop x.subscription) nofun
  | called c => exact h.fleet.broker.met hbound c fun hc => met_queue_iff.mpr (hcapacity hc)
  | removed id stamp => exact h.fleet.met_forgetNeeds hbound id stamp
  | loggedIn validity =>
    intro need hneed
    rcases List.mem_pair.mp hneed with rfl | rfl
    · exact Nat.le_trans (ofSecs_le_year (by decide)) hlong
    · have hmost : min validity CachedSession.maxValidity ≤ Span.year :=
        Nat.le_trans (Nat.min_le_right _ _) (ofSecs_le_year (Nat.le_refl _))
      exact Nat.le_trans hmost hlong
  | answered page results draws =>
    intro need hneed
    obtain rfl := List.mem_singleton.mp hneed
    rw [h.fleet.cursorTtl]
    exact Nat.le_trans (ofSecs_le_year hrange.cursorTtl.2) hlong

/-- Whoever gets what a subscription relies on has a queue for it. -/
theorem Fits.capacity_of_safe (h : s.Fits config bound) (hm : m.subscribes = true)
    (hsafe : s.Safe longest m) : config.events.channelCapacity ≤ Broker.queueLimit := by
  have hqueue : Need.queue s.server.broker.capacity ∈ s.needs m := by
    cases m with
    | subscribed topics => exact List.mem_append_left _ List.mem_cons_self
    | called c =>
      cases c with
      | subscribe topics => exact List.mem_cons_self
      | _ => cases hm
    | _ => cases hm
  have hmet := hsafe _ hqueue
  rw [h.fleet.broker.capacity] at hmet
  exact met_queue_iff.mp hmet

/-- A stream is opened iff there is a queue of the configured capacity. -/
theorem Fits.opens_iff (h : s.Fits config bound) (hrange : config.InRange) (topics : List String) :
    (EventStream.open? s.server.broker topics s.server.config.heartbeat s.server.signal
        s.now).isSome ↔
      config.events.channelCapacity ≤ Broker.queueLimit := by
  have hpos : 0 < s.server.broker.capacity := by
    rw [h.fleet.broker.capacity]
    exact Fleet.capacity_pos config
  have hperiod : s.server.config.heartbeat ≠ 0 := by
    rw [h.configured]
    exact ofSecs_ne_zero (Nat.lt_of_lt_of_le (by decide) hrange.heartbeat.1)
  rw [EventStream.open?_isSome_iff hpos topics _ Span.year, h.fleet.broker.capacity, met_queue_iff]
  exact and_iff_left hperiod

/-- Nodes with ids of their own are added one after another. -/
theorem exists_foldlM_addFirst {connect : Connector} {nodes : List NodeSettings}
    (hconnect : ∀ n ∈ nodes, ∃ member, connect n = .ok member ∧ member.identity.id = n.id)
    (hids : (nodes.map (·.id)).Nodup) {server : Server}
    (hnew : ∀ n ∈ nodes, server.cluster.contains n.id = false) :
    ∃ built, nodes.foldlM (Server.addFirst connect) server = .ok built := by
  induction nodes generalizing server with
  | nil => exact ⟨server, rfl⟩
  | cons n rest ih =>
    obtain ⟨hn, hrest⟩ := List.nodup_cons.mp hids
    obtain ⟨member, hmember, hid⟩ := hconnect n List.mem_cons_self
    have hadd : server.cluster.add member =
        (.ok (), { server.cluster with members := server.cluster.members.insert n.id member }) := by
      rw [Cluster.add, hid, hnew n List.mem_cons_self]
      rfl
    have hfirst : Server.addFirst connect server n = .ok { server with
        cluster := { server.cluster with members := server.cluster.members.insert n.id member }
        settings := server.settings.insert n.id n } := by
      simp only [Server.addFirst, hmember, hadd]
    rw [List.foldlM_cons, hfirst]
    refine ih (fun n' hn' => hconnect n' (List.mem_cons_of_mem _ hn')) hrest fun n' hn' => ?_
    have hother : n'.id ≠ n.id := fun heq => hn (List.mem_map.mpr ⟨n', hn', heq⟩)
    have hbefore := hnew n' (List.mem_cons_of_mem _ hn')
    rw [Cluster.contains, NodeMap.contains_eq_false_iff] at hbefore ⊢
    rw [NodeMap.find?_insert, if_neg (Ne.symm hother)]
    exact hbefore

/-- **What an accepted configuration guarantees.** A server is built from it with every connector
that gives the nodes their ids. After any run of it, of as many moves as 64 bits count, every move
that can be made gets all that it relies on, except that a subscription does iff the configured
capacity is that of a queue; and so a stream is opened iff it is. -/
theorem safe_iff_capacity (hvalid : config.validate = .ok ()) (hlong : Span.year ≤ longest) :
    (∀ connect : Connector,
      (∀ n ∈ config.nodes, ∃ member, connect n = .ok member ∧ member.identity.id = n.id) →
        ∃ server, Server.build config connect = .ok server) ∧
    ∀ connect server now moves s, Server.build config connect = .ok server →
      moves.length + 1 < UInt64.size → (opened server now).run? moves = some s →
        (∀ m t, s.step? m = some t → (s.Safe longest m ↔
          (m.subscribes = true → config.events.channelCapacity ≤ Broker.queueLimit))) ∧
        ∀ topics, (EventStream.open? s.server.broker topics s.server.config.heartbeat
            s.server.signal s.now).isSome ↔
          config.events.channelCapacity ≤ Broker.queueLimit := by
  obtain ⟨-, hrange, hnodes⟩ := config.validate_eq_ok_iff.mp hvalid
  constructor
  · intro connect hconnect
    have hids := ((validateNodes_eq_ok_iff config.nodes).mp hnodes).2.1
    have hnew : ∀ n ∈ config.nodes, (Server.bare config).cluster.contains n.id = false :=
      fun _ _ => rfl
    obtain ⟨server, hserver⟩ := exists_foldlM_addFirst hconnect hids hnew
    refine ⟨server, ?_⟩
    rw [Server.build, hvalid]
    exact hserver
  · intro connect server now moves s hbuild hlength hrun
    have hfits : s.Fits config moves.length := by
      have hfits := (fits_opened hbuild now).run hrun
      rw [Nat.zero_add] at hfits
      exact hfits
    refine ⟨fun m t hstep => ?_, hfits.opens_iff hrange⟩
    constructor
    · intro hsafe hm
      exact hfits.capacity_of_safe hm hsafe
    · intro hcapacity
      exact hfits.safe hrange hlong hlength hcapacity hstep

/-- The configuration that says nothing leaves room for everything. -/
theorem safe_iff_capacity_standard :
    (∃ server, Server.build .standard ServerRun.connectAny = .ok server) ∧
      ∃ s t, bareService.run? [.started, .subscribed ["a"]] = some s ∧
        s.step? (.subscribed ["b"]) = some t ∧ s.Safe Span.year (.subscribed ["b"]) := by
  have hstandard := safe_iff_capacity FleetConfig.validate_standard (Nat.le_refl Span.year)
  have hrun := hstandard.2 ServerRun.connectAny (.bare .standard) 0 [.started, .subscribed ["a"]] _
    (Server.build_standard _) (by decide) rfl
  have hsafe := (hrun.1 (.subscribed ["b"]) _ rfl).mpr fun _ => by decide
  exact ⟨hstandard.1 ServerRun.connectAny nofun, _, _, rfl, rfl, hsafe⟩

/-- The configuration with one more event to a queue than there can be. -/
def endless : FleetConfig :=
  { FleetConfig.standard with
    events := { FleetConfig.standard.events with channelCapacity := Broker.queueLimit + 1 } }

/-- It is accepted and a server is built from it, which breaks down when somebody subscribes. -/
theorem endless_breaks_down :
    endless.validate = .ok () ∧
      ∃ server, Server.build endless ServerRun.connectAny = .ok server ∧
        server.broker.subscribe? ["a"] = none ∧
        ¬ (opened server 0).Safe Span.year (.called (.subscribe ["a"])) := by
  obtain ⟨hlogging, hrange, hnodes⟩ := FleetConfig.standard.validate_eq_ok_iff.mp
    FleetConfig.validate_standard
  have hvalid : endless.validate = .ok () := endless.validate_eq_ok_iff.mpr
    ⟨hlogging, { hrange with channelCapacity := Nat.succ_pos _ }, hnodes⟩
  have hbuild : Server.build endless ServerRun.connectAny = .ok (.bare endless) := by
    rw [Server.build, hvalid]
    rfl
  refine ⟨hvalid, .bare endless, hbuild, by decide, fun hsafe => ?_⟩
  have hcapacity := (fits_opened hbuild 0).capacity_of_safe rfl hsafe
  exact absurd hcapacity (by decide)

end Service

end FilterFleet
