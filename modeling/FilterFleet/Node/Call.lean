import FilterFleet.Blocking.State
import FilterFleet.QueryLog.Entry
import FilterFleet.QueryLog.Request
import FilterFleet.Rule.Stored

/-! # Calls to a node

What a node can be asked, by kind of call: each kind has its own requests and its own replies.
-/

namespace FilterFleet

/-- The kinds of calls. -/
inductive CallKind where
  | fetchQueries
  | listRules
  | addRules
  | removeRule
  | authStatus
  | blockingStatus
  | setBlocking
  | logout
deriving DecidableEq, Repr

namespace CallKind

/-- What a call of a kind asks with. -/
abbrev Request : CallKind → Type
  | fetchQueries => QueryRequest
  | listRules => RuleFilter
  | addRules => RuleAddition
  | removeRule => RuleRemoval
  | authStatus => Unit
  | blockingStatus => Unit
  | setBlocking => BlockingChange
  | logout => Unit

instance : (kind : CallKind) → DecidableEq kind.Request
  | fetchQueries => inferInstanceAs (DecidableEq QueryRequest)
  | listRules => inferInstanceAs (DecidableEq RuleFilter)
  | addRules => inferInstanceAs (DecidableEq RuleAddition)
  | removeRule => inferInstanceAs (DecidableEq RuleRemoval)
  | authStatus => inferInstanceAs (DecidableEq Unit)
  | blockingStatus => inferInstanceAs (DecidableEq Unit)
  | setBlocking => inferInstanceAs (DecidableEq BlockingChange)
  | logout => inferInstanceAs (DecidableEq Unit)

/-- What a call of a kind replies with. -/
abbrev Reply : CallKind → Type
  | fetchQueries => QueryPage
  | listRules => RuleListing
  | addRules => AdditionAnswer
  | removeRule => Unit
  | authStatus => AuthStatus
  | blockingStatus => BlockingState
  | setBlocking => BlockingState
  | logout => Unit

/-- How a reply is written. -/
def replyJson : (kind : CallKind) → kind.Reply → Json
  | fetchQueries => QueryPage.toJson
  | listRules => RuleListing.toJson
  | addRules => AdditionAnswer.toJson
  | removeRule => fun _ => .null
  | authStatus => AuthStatus.toJson
  | blockingStatus => BlockingState.toJson
  | setBlocking => BlockingState.toJson
  | logout => fun _ => .null

end CallKind

/-- One call: its kind and what it asks with. -/
structure NodeCall where
  kind : CallKind
  request : kind.Request
deriving DecidableEq

/-- The outcome of a call of a kind. -/
abbrev Outcome (kind : CallKind) : Type := Except NodeError kind.Reply

end FilterFleet
