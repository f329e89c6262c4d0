import FilterFleet.CommandLine

/-! # The program

Reads the configuration file that the arguments name, and prints what `CommandLine.run` says.
-/

open FilterFleet

/-- The file that the arguments name, if they name one. -/
def namedFile (args : List String) : Option String :=
  match CommandLine.read args with
  | .run _ path => some path
  | _ => none

/-- The contents of a file, if it can be read. -/
def readFile? (path : String) : IO (Option ByteArray) := do
  try
    return some (← IO.FS.readBinFile path)
  catch _ =>
    return none

/-- The program. -/
def main (args : List String) : IO UInt32 := do
  let contents ←
    match namedFile args with
    | some path => readFile? path
    | none => pure none
  let ending := CommandLine.run (fun _ => contents) NodeClient.unreachable args
  for line in ending.lines do
    IO.println line
  match ending.message with
  | some message => IO.eprintln message
  | none => pure ()
  return ending.exit.toUInt32
