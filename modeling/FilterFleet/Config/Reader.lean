import FilterFleet.Config.Basic
import FilterFleet.Toml.Document

/-! # Reading a configuration

A configuration is a TOML document.  A section is a table, or an array of its settings in order;
unknown names are ignored, and settings that are not given have their defaults.  A date has no
named settings, and stands for a section that gives none.
-/

namespace FilterFleet

namespace Toml

/-- The value of a name in a table. -/
def member? (entries : List (String × Toml)) (name : String) : Option Toml :=
  (entries.find? fun e => e.1 == name).map (·.2)

/-- The values given for the settings `names`; an array gives them in order, a date gives none. -/
def fields? (names : List String) : Toml → Option (List (Option Toml))
  | table entries => some (names.map (member? entries))
  | array items => some ((List.range names.length).map fun i => items[i]?)
  | date => some (names.map fun _ => none)
  | _ => none

/-- A setting that must be given. -/
def required (decode : Toml → Option α) (given : Option Toml) : Option α := given.bind decode

/-- A setting with a default. -/
def orElse (fallback : α) (decode : Toml → Option α) : Option Toml → Option α
  | none => some fallback
  | some v => decode v

/-- A list of values. -/
def list? (decode : Toml → Option α) : Toml → Option (List α)
  | array items => items.mapM decode
  | _ => none

/-- A text. -/
def str? : Toml → Option String
  | str s => some s
  | _ => none

/-- A whole number that is not negative. -/
def nat? : Toml → Option Nat
  | int n => if 0 ≤ n then some n.toNat else none
  | _ => none

/-- A whole number of 64 bits with sign. -/
def int64? : Toml → Option Int64
  | int n =>
    if Int64.minValue.toInt ≤ n && n ≤ Int64.maxValue.toInt then some (Int64.ofInt n) else none
  | _ => none

/-- A whole number of 16 bits. -/
def uint16? (v : Toml) : Option UInt16 := do
  let n ← v.nat?
  if n < UInt16.size then some (UInt16.ofNat n) else none

/-- The name of a choice: a text, or a table with it as the only name and nothing in it. -/
def choice? : Toml → Option String
  | str s => some s
  | table [(s, table [])] => some s
  | table [(s, array [])] => some s
  | _ => none

end Toml

/-- The settings of a node. -/
def NodeSettings.ofToml? (v : Toml) : Option NodeSettings := do
  match ← v.fields? ["id", "name", "scheme", "host", "port", "password"] with
  | [id, name, scheme, host, port, password] =>
    some {
      id := ⟨← Toml.required Toml.int64? id⟩
      name := ← Toml.required Toml.str? name
      scheme := ← Toml.orElse .http (fun s => s.choice?.bind Scheme.ofText?) scheme
      host := ← Toml.required Toml.str? host
      port := ← Toml.orElse defaultPort Toml.uint16? port
      password := ← Toml.orElse ⟨""⟩ (fun p => p.str?.map Secret.mk) password }
  | _ => none

namespace FleetConfig

/-- The logging section. -/
def logging? (v : Toml) : Option LoggingSettings := do
  match ← v.fields? ["level"] with
  | [level] => some ⟨← Toml.orElse LoggingSettings.standard.level Toml.str? level⟩
  | _ => none

/-- A section of two numbers. -/
def twoNumbers? (first second : String) (standard : Nat × Nat) (v : Toml) : Option (Nat × Nat) := do
  match ← v.fields? [first, second] with
  | [a, b] =>
    let a ← Toml.orElse standard.1 Toml.nat? a
    let b ← Toml.orElse standard.2 Toml.nat? b
    some (a, b)
  | _ => none

/-- The section about calls. -/
def calls? (v : Toml) : Option CallSettings :=
  let standard := CallSettings.standard
  (twoNumbers? "request_timeout_secs" "session_ttl_secs"
    (standard.requestTimeoutSecs, standard.sessionTtlSecs) v).map fun p => ⟨p.1, p.2⟩

/-- The section about cursors. -/
def cursors? (v : Toml) : Option CursorSettings :=
  let standard := CursorSettings.standard
  (twoNumbers? "ttl_secs" "reap_interval_secs"
    (standard.ttlSecs, standard.reapIntervalSecs) v).map fun p => ⟨p.1, p.2⟩

/-- The section about polling. -/
def health? (v : Toml) : Option HealthSettings :=
  let standard := HealthSettings.standard
  (twoNumbers? "polling_interval_secs" "grace_period_secs"
    (standard.pollingIntervalSecs, standard.gracePeriodSecs) v).map fun p => ⟨p.1, p.2⟩

/-- The section about subscribers. -/
def events? (v : Toml) : Option EventSettings :=
  let standard := EventSettings.standard
  (twoNumbers? "heartbeat_secs" "channel_capacity"
    (standard.heartbeatSecs, standard.channelCapacity) v).map fun p => ⟨p.1, p.2⟩

/-- The configuration that a document describes, not yet checked. -/
def ofToml? (v : Toml) : Option FleetConfig := do
  match ← v.fields? ["logging", "cluster", "cursor", "health", "events", "nodes"] with
  | [logging, calls, cursors, health, events, nodes] =>
    some {
      logging := ← Toml.orElse .standard logging? logging
      calls := ← Toml.orElse .standard calls? calls
      cursors := ← Toml.orElse .standard cursors? cursors
      health := ← Toml.orElse .standard health? health
      events := ← Toml.orElse .standard events? events
      nodes := ← Toml.orElse [] (Toml.list? NodeSettings.ofToml?) nodes }
  | _ => none

/-- The configuration that a text describes, not yet checked. -/
def read? (text : String) : Option FleetConfig := (Toml.ofText? text).bind ofToml?

/-- The configuration in a text called `path`, once it passes all checks. -/
def parse (path text : String) : Except FleetError FleetConfig :=
  match read? text with
  | none => .error (.configLoad path "not a configuration")
  | some c => c.validate.map fun () => c

/-- The configuration in a file that holds `bytes`, if there is one. -/
def load (path : String) (bytes : Option ByteArray) : Except FleetError FleetConfig :=
  match bytes.bind String.fromUTF8? with
  | none => .error (.configLoad path "not a readable text")
  | some text => parse path text

end FleetConfig

end FilterFleet
