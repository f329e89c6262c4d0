import FilterFleet.Config.Error
import FilterFleet.Node.Settings
import FilterFleet.Time.Span

/-! # The configuration of a fleet

Settings come in sections, each with defaults.  A configuration is checked section by section and
setting by setting; the first fault is reported with the dotted name of the setting.
-/

namespace FilterFleet

/-! ## Sections -/

/-- What is logged. -/
structure LoggingSettings where
  level : String
deriving DecidableEq

/-- How nodes are called; lengths of time are in seconds. -/
structure CallSettings where
  requestTimeoutSecs : Nat
  sessionTtlSecs : Nat
deriving DecidableEq

/-- How long cursors live, and how often expired ones are removed, in seconds. -/
structure CursorSettings where
  ttlSecs : Nat
  reapIntervalSecs : Nat
deriving DecidableEq

/-- How often nodes are polled, and how long after the last subscriber left, in seconds. -/
structure HealthSettings where
  pollingIntervalSecs : Nat
  gracePeriodSecs : Nat
deriving DecidableEq

/-- How subscribers are served: seconds between heartbeats, events kept for a slow subscriber. -/
structure EventSettings where
  heartbeatSecs : Nat
  channelCapacity : Nat
deriving DecidableEq

/-- All settings. -/
structure FleetConfig where
  logging : LoggingSettings
  calls : CallSettings
  cursors : CursorSettings
  health : HealthSettings
  events : EventSettings
  nodes : List NodeSettings
deriving DecidableEq

/-! ## Defaults -/

/-- What is logged unless the configuration says otherwise. -/
def LoggingSettings.standard : LoggingSettings := ⟨"info"⟩

/-- How nodes are called unless the configuration says otherwise. -/
def CallSettings.standard : CallSettings := ⟨5, 1800⟩

/-- How cursors are kept unless the configuration says otherwise. -/
def CursorSettings.standard : CursorSettings := ⟨300, 60⟩

/-- How nodes are polled unless the configuration says otherwise. -/
def HealthSettings.standard : HealthSettings := ⟨5, 10⟩

/-- How subscribers are served unless the configuration says otherwise. -/
def EventSettings.standard : EventSettings := ⟨20, 16⟩

/-- The configuration that says nothing. -/
def FleetConfig.standard : FleetConfig :=
  ⟨.standard, .standard, .standard, .standard, .standard, []⟩

/-! ## Checks -/

/-- The greatest length of time that a setting may give: one week, in seconds. -/
def maxDurationSecs : Nat := 604800

/-- A fault of one setting. -/
def fault (field reason : String) : Except FleetError Unit := .error (.configInvalid field reason)

/-- A length of time is at most a week. -/
def checkUpperBound (field : String) (secs : Nat) : Except FleetError Unit :=
  if maxDurationSecs < secs then fault field ("must be at most " ++ toString maxDurationSecs)
  else .ok ()

/-- A setting is not zero. -/
def checkPositive (field : String) (n : Nat) : Except FleetError Unit :=
  if n = 0 then fault field "must be greater than 0" else .ok ()

/-- The levels of a log, from the most to the least talkative. -/
def logLevels : List String := ["trace", "debug", "info", "warn", "error"]

/-- The level is one of the known ones, in any case. -/
def LoggingSettings.validate (s : LoggingSettings) : Except FleetError Unit :=
  if logLevels.contains (s.level.map Char.toLower) then .ok ()
  else fault "logging.level" ("'" ++ s.level ++ "' is not one of " ++ ", ".intercalate logLevels)

/-- Both lengths are positive and at most a week. -/
def CallSettings.validate (s : CallSettings) : Except FleetError Unit := do
  checkPositive "cluster.request_timeout_secs" s.requestTimeoutSecs
  checkPositive "cluster.session_ttl_secs" s.sessionTtlSecs
  checkUpperBound "cluster.request_timeout_secs" s.requestTimeoutSecs
  checkUpperBound "cluster.session_ttl_secs" s.sessionTtlSecs

/-- Both lengths are positive and at most a week. -/
def CursorSettings.validate (s : CursorSettings) : Except FleetError Unit := do
  checkPositive "cursor.ttl_secs" s.ttlSecs
  checkPositive "cursor.reap_interval_secs" s.reapIntervalSecs
  checkUpperBound "cursor.ttl_secs" s.ttlSecs
  checkUpperBound "cursor.reap_interval_secs" s.reapIntervalSecs

/-- The interval is at least a second, and both lengths are at most a week. -/
def HealthSettings.validate (s : HealthSettings) : Except FleetError Unit := do
  if s.pollingIntervalSecs < 1 then fault "health.polling_interval_secs" "must be at least 1"
  checkUpperBound "health.polling_interval_secs" s.pollingIntervalSecs
  checkUpperBound "health.grace_period_secs" s.gracePeriodSecs

/-- Heartbeats are at least five seconds apart and at most a week, and some event is kept. -/
def EventSettings.validate (s : EventSettings) : Except FleetError Unit := do
  if s.heartbeatSecs < 5 then fault "events.heartbeat_secs" "must be at least 5"
  checkPositive "events.channel_capacity" s.channelCapacity
  checkUpperBound "events.heartbeat_secs" s.heartbeatSecs

/-- Check the entries from index `i` on, after entries with the given ids and addresses. -/
def validateNodesFrom (i : Nat) (ids : List NodeId) (addresses : List String) :
    List NodeSettings → Except FleetError Unit
  | [] => .ok ()
  | node :: rest =>
    let field := "nodes[" ++ toString i ++ "]"
    match node.validate with
    | .error e => fault field e.message
    | .ok () =>
      if ids.contains node.id then
        fault (field ++ ".id") ("duplicate node id " ++ node.id.text)
      else if addresses.contains node.address then
        fault (field ++ ".host") ("duplicate host:port " ++ node.address)
      else validateNodesFrom (i + 1) (node.id :: ids) (node.address :: addresses) rest

/-- Every entry is acceptable, and no two have the same id or the same address. -/
def validateNodes (nodes : List NodeSettings) : Except FleetError Unit :=
  validateNodesFrom 0 [] [] nodes

/-- Check all sections in order, then the nodes. -/
def FleetConfig.validate (c : FleetConfig) : Except FleetError Unit := do
  c.logging.validate
  c.calls.validate
  c.cursors.validate
  c.health.validate
  c.events.validate
  validateNodes c.nodes

/-! ## Lengths of time -/

namespace FleetConfig

/-- How long a call may take. -/
def requestTimeout (c : FleetConfig) : Span := Span.ofSecs c.calls.requestTimeoutSecs

/-- How long a session is trusted at most. -/
def sessionTtl (c : FleetConfig) : Span := Span.ofSecs c.calls.sessionTtlSecs

/-- How long a cursor lives. -/
def cursorTtl (c : FleetConfig) : Span := Span.ofSecs c.cursors.ttlSecs

/-- The time between removals of expired cursors. -/
def reapInterval (c : FleetConfig) : Span := Span.ofSecs c.cursors.reapIntervalSecs

/-- The time between polls. -/
def pollingInterval (c : FleetConfig) : Span := Span.ofSecs c.health.pollingIntervalSecs

/-- How long polling goes on after the last subscriber left. -/
def gracePeriod (c : FleetConfig) : Span := Span.ofSecs c.health.gracePeriodSecs

/-- The time between heartbeats. -/
def heartbeat (c : FleetConfig) : Span := Span.ofSecs c.events.heartbeatSecs

end FleetConfig

/-- How the clients of nodes behave. -/
structure ClientOptions where
  requestTimeout : Span
  sessionTtl : Span
  userAgent : String
deriving DecidableEq

namespace ClientOptions

/-- How this program names itself to nodes. -/
def standardAgent : String := "dnsfleet/0.1.0"

/-- Options of a client that is given none. -/
def standard : ClientOptions := ⟨Span.ofSecs 5, Span.ofSecs 1800, standardAgent⟩

end ClientOptions

/-- The options that a configuration gives to the clients of its nodes. -/
def FleetConfig.clientOptions (c : FleetConfig) : ClientOptions :=
  ⟨c.requestTimeout, c.sessionTtl, ClientOptions.standardAgent⟩

end FilterFleet
