import FilterFleet.Config.Reader
import FilterFleet.Trial.Run

/-! # The command line

The program validates a configuration, checks every node of one once, or runs the fleet of one.
`CommandLine.run` says what it prints and how it exits.
-/

namespace FilterFleet.CommandLine

/-- The commands that work on a configuration. -/
inductive Command where
  | start
  | validate
  | nodes
deriving DecidableEq

namespace Command

/-- All commands, in the order of the help. -/
def all : List Command := [start, validate, nodes]

/-- The name of a command. -/
def name : Command → String
  | start => "start"
  | validate => "validate"
  | nodes => "nodes"

/-- What a command is for. -/
def about : Command → String
  | start => "Run the coordinator until Ctrl+C"
  | validate => "Validate a configuration file and print a summary"
  | nodes => "Query the session status of every configured node once"

end Command

/-- What the arguments ask for. -/
inductive Invocation where
  | run (command : Command) (path : String)
  | help
  | commandHelp (command : Command)
  | helpHelp
  | version
  /-- The arguments are not understood. -/
  | misuse

/-- How a run of the program ends. -/
structure Ending where
  exit : Nat
  lines : List String
  /-- The message that is logged, if the run failed. -/
  message : Option String

/-- The name of the program. -/
def program : String := "dnsfleet"

/-- Where the configuration is looked for by default. -/
def defaultPath : String := "/etc/dnsfleet/dnsfleet.toml"

/-- The exit status of a wrong use, and of a configuration that cannot be used. -/
def exitUsage : Nat := 2

/-! ## Arguments -/

/-- The text after `start`, if a text starts with it. -/
def after? (start s : String) : Option String :=
  if start.toList.isPrefixOf s.toList then some (String.ofList (s.toList.drop start.length))
  else none

/-- The value that stands in the same argument as the short option. -/
def attached (s : String) : String :=
  match s.toList with
  | '=' :: rest => String.ofList rest
  | _ => s

/-- The path that stands in the same argument as the option for it. -/
def attachedPath? (arg : String) : Option String :=
  (after? "--config=" arg).or ((after? "-c" arg).map attached)

/-- Read the options of a command.  A path is given at most once and is not empty. -/
def readOptions (command : Command) : (path : Option String) → List String → Invocation
  | path, [] => .run command (path.getD defaultPath)
  | path, arg :: rest =>
    if arg == "--help" || (after? "-h" arg).isSome then .commandHelp command
    else if arg == "--config" || arg == "-c" then
      match path, rest with
      | none, value :: rest =>
        if value.isEmpty || (value.toList.head? == some '-' && value != "-") then .misuse
        else readOptions command (some value) rest
      | _, _ => .misuse
    else if arg == "--" && rest.isEmpty then .run command (path.getD defaultPath)
    else
      match attachedPath? arg, path with
      | some value, none =>
        if value.isEmpty then .misuse else readOptions command (some value) rest
      | _, _ => .misuse

/-- The command of a name. -/
def command? (name : String) : Option Command := Command.all.find? fun c => c.name == name

/-- Read the arguments of the program. -/
def read : List String → Invocation
  | [] => .misuse
  | arg :: rest =>
    if arg == "--version" || (after? "-V" arg).isSome then .version
    else if arg == "--help" || (after? "-h" arg).isSome then .help
    else if arg == "help" then
      match rest with
      | [] => .help
      | ["help"] => .helpHelp
      | [name] => match command? name with
        | some c => .commandHelp c
        | none => .misuse
      | _ => .misuse
    else
      match command? arg with
      | some c => readOptions c none rest
      | none => .misuse

/-! ## Help -/

/-- A text with blanks behind it, up to a width. -/
def pad (width : Nat) (s : String) : String :=
  s ++ String.ofList (List.replicate (width - s.length) ' ')

/-- Names and what they stand for, in two columns. -/
def columns (rows : List (String × String)) : List String :=
  let width := (rows.map fun r => r.1.length).foldl max 0
  rows.map fun r => "  " ++ pad width r.1 ++ "  " ++ r.2

/-- What the command for help is for. -/
def helpAbout : String := "Print this message or the help of the given subcommand(s)"

/-- The help of the program. -/
def help : List String :=
  ["Cluster coordination server for a fleet of DNS filter nodes", "",
    "Usage: " ++ program ++ " <COMMAND>", "", "Commands:"] ++
    columns ((Command.all.map fun c => (c.name, c.about)) ++ [("help", helpAbout)]) ++
    ["", "Options:"] ++ columns [("-h, --help", "Print help"), ("-V, --version", "Print version")]

/-- The help of a command. -/
def commandHelp (c : Command) : List String :=
  [c.about, "", "Usage: " ++ program ++ " " ++ c.name ++ " [OPTIONS]", "", "Options:"] ++
    columns [("-c, --config <CONFIG>", "Configuration file path [default: " ++ defaultPath ++ "]"),
      ("-h, --help", "Print help")]

/-- The help of the command for help. -/
def helpHelp : List String :=
  [helpAbout, "", "Usage: " ++ program ++ " help [COMMAND]...", "", "Arguments:",
    "  [COMMAND]...  Print help for the subcommand(s)"]

/-! ## Commands -/

/-- The width of the column of names. -/
def nameWidth : Nat := 16

/-- A count of seconds. -/
def seconds (n : Nat) : String := toString n ++ "s"

/-- The line of a node in a summary. -/
def nodeLine (s : NodeSettings) : String :=
  "   [" ++ s.id.text ++ "] " ++ pad nameWidth s.name ++ " " ++ s.baseUrl

/-- The summary of a configuration. -/
def summary (c : FleetConfig) : List String :=
  ["✅ Configuration is valid", "", "Cluster:",
    "   Call Timeout:     " ++ seconds c.calls.requestTimeoutSecs,
    "   Session TTL:      " ++ seconds c.calls.sessionTtlSecs, "", "Cursors:",
    "   TTL:              " ++ seconds c.cursors.ttlSecs,
    "   Reap Interval:    " ++ seconds c.cursors.reapIntervalSecs, "", "Health:",
    "   Poll Interval:    " ++ seconds c.health.pollingIntervalSecs,
    "   Grace Period:     " ++ seconds c.health.gracePeriodSecs, "", "Events:",
    "   Heartbeat:        " ++ seconds c.events.heartbeatSecs,
    "   Channel Capacity: " ++ toString c.events.channelCapacity, "",
    "Nodes (" ++ toString c.nodes.length ++ "):"] ++ c.nodes.map nodeLine ++ [""]

/-- The line of a node that was checked. -/
def checkLine (r : NodeResult AuthStatus) : String :=
  let node := "[" ++ r.node.id.text ++ "] " ++ pad nameWidth r.node.name
  match r.outcome with
  | .ok auth =>
    if auth.valid then "✅ " ++ node ++ " online   " ++ Decimal.oneDecimal auth.tookMs ++ "ms"
    else "⚠️  " ++ node ++ " degraded " ++ Decimal.oneDecimal auth.tookMs ++ "ms"
  | .error e => "❌ " ++ node ++ " offline  " ++ e.text

/-- Check every node once over a network. -/
def check (network : NodeClient.Network) (c : FleetConfig) : Except FleetError (List String) :=
  match Trial.World.ofServer c .remote with
  | .error e => .error e
  | .ok w =>
    match ({ w with network }.perform (.ask ⟨.authStatus, ()⟩)).2 with
    | .results .authStatus results => .ok (results.values.map checkLine)
    | _ => .ok []

/-- A run that failed. -/
def failed (e : FleetError) : Ending :=
  ⟨if e.isConfigError then exitUsage else 1, [], some e.message⟩

/-- Run a command on a configuration. -/
def runCommand (network : NodeClient.Network) (command : Command) (c : FleetConfig) : Ending :=
  match command with
  | .validate => ⟨0, summary c, none⟩
  | .nodes =>
    match check network c with
    | .ok lines => ⟨0, lines, none⟩
    | .error e => failed e
  | .start =>
    match Trial.World.ofServer c .remote with
    | .ok _ => ⟨0, [], none⟩
    | .error e => failed e

/-- What the program prints and how it exits, with files and nodes as given. -/
def run (file : String → Option ByteArray) (network : NodeClient.Network) (args : List String) :
    Ending :=
  match read args with
  | .misuse => ⟨exitUsage, [], none⟩
  | .help => ⟨0, help, none⟩
  | .commandHelp c => ⟨0, commandHelp c, none⟩
  | .helpHelp => ⟨0, helpHelp, none⟩
  | .version => ⟨0, [program ++ " 0.1.0"], none⟩
  | .run command path =>
    match FleetConfig.load path (file path) with
    | .ok c => runCommand network command c
    | .error e => failed e

end FilterFleet.CommandLine
