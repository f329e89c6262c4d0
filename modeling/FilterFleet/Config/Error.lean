import FilterFleet.Cursor.Id
import FilterFleet.Failure
import FilterFleet.Node.Identity

/-! # Failures of the fleet

What can go wrong above a single call: a configuration that cannot be used, an unknown cursor or
node, a node that is already there, a start that fails.
-/

namespace FilterFleet

/-- A failure of the fleet. -/
inductive FleetError where
  /-- The configuration could not be read. -/
  | configLoad (path reason : String)
  /-- A setting is out of range, or settings do not go together. -/
  | configInvalid (field reason : String)
  /-- The cursor was never issued or has expired. -/
  | cursorNotFound (id : CursorId)
  /-- No member has this id. -/
  | nodeNotFound (id : NodeId)
  /-- A member has this id already. -/
  | nodeExists (id : NodeId)
  /-- A part could not be built. -/
  | startupFailed (reason : String)
  /-- A node could not be built or called. -/
  | node (error : NodeError)
  /-- An input is not acceptable. -/
  | input (error : InputError)
deriving DecidableEq

namespace FleetError

/-- The wording of a failure. -/
def message : FleetError → String
  | configLoad path reason => "Failed to load configuration from '" ++ path ++ "': " ++ reason
  | configInvalid field reason => "Invalid configuration: " ++ field ++ " - " ++ reason
  | cursorNotFound id => "Cursor not found or expired: " ++ id.text
  | nodeNotFound id => "Node not found: " ++ id.text
  | nodeExists id => "Node already exists: " ++ id.text
  | startupFailed reason => "Server failed to start: " ++ reason
  | node error => error.text
  | input error => error.message

/-- Whether the configuration is at fault. -/
def isConfigError : FleetError → Bool
  | configLoad _ _ => true
  | configInvalid _ _ => true
  | _ => false

end FleetError

end FilterFleet
