import FilterFleet.Blocking.State
import FilterFleet.Cluster.Result

/-! # Blocking across the fleet

The blocking states of all nodes, taken together: whether they agree, how many are in each state,
and how long timers and answers are.  The numbers may be of any type that can be added, compared
and divided by a count.
-/

namespace FilterFleet

/-- Numbers that can be added up, compared and averaged. -/
class Quantity (ν : Type) where
  zero : ν
  add : ν → ν → ν
  /-- The smaller of two. -/
  least : ν → ν → ν
  /-- The greater of two. -/
  greatest : ν → ν → ν
  /-- A share of a total. -/
  divide : ν → Nat → ν

instance : Quantity Float where
  zero := 0.0
  add a b := a + b
  least a b := if a < b then a else b
  greatest a b := if b < a then a else b
  divide total count := total / (UInt64.ofNat count).toFloat

/-- The state of the fleet as a whole. -/
inductive BlockingMode where
  /-- Every node filters. -/
  | enabled
  /-- No node filters. -/
  | disabled
  /-- The nodes disagree. -/
  | mixed
  /-- A node did not answer or reported a failure, or there is no node. -/
  | degraded
deriving DecidableEq, Repr

/-- The word for a mode. -/
def BlockingMode.text : BlockingMode → String
  | enabled => "enabled"
  | disabled => "disabled"
  | mixed => "mixed"
  | degraded => "degraded"

/-- Counts of the states, and the extremes of their numbers. -/
structure BlockingTally (ν : Type) where
  enabled : Nat
  disabled : Nat
  /-- Answers that report a failure or an unknown state. -/
  failed : Nat
  /-- Nodes that did not answer. -/
  errors : Nat
  minTimer : Option ν
  maxTimer : Option ν
  maxTook : ν
  tookTotal : ν
deriving Inhabited

namespace BlockingTally

variable {ν : Type} [Quantity ν]

/-- Nothing counted yet. -/
def start : BlockingTally ν := ⟨0, 0, 0, 0, none, none, Quantity.zero, Quantity.zero⟩

/-- Combine a timer with the extreme so far. -/
def extreme (pick : ν → ν → ν) (soFar : Option ν) (timer : ν) : Option ν :=
  some (match soFar with
    | none => timer
    | some t => pick t timer)

/-- Count a status. -/
def countStatus (t : BlockingTally ν) : BlockingStatus → BlockingTally ν
  | .enabled => { t with enabled := t.enabled + 1 }
  | .disabled => { t with disabled := t.disabled + 1 }
  | .failed => { t with failed := t.failed + 1 }
  | .unknown => { t with failed := t.failed + 1 }

/-- Count a timer, if one runs. -/
def countTimer (t : BlockingTally ν) : Option ν → BlockingTally ν
  | none => t
  | some timer =>
    { t with
      minTimer := extreme Quantity.least t.minTimer timer
      maxTimer := extreme Quantity.greatest t.maxTimer timer }

/-- Count the processing time of an answer. -/
def countTook (t : BlockingTally ν) (took : ν) : BlockingTally ν :=
  { t with
    maxTook := Quantity.greatest t.maxTook took
    tookTotal := Quantity.add t.tookTotal took }

/-- Count the result of one node. -/
def count (t : BlockingTally ν) (r : NodeResult (BlockingReading ν)) : BlockingTally ν :=
  match r.response? with
  | none => { t with errors := t.errors + 1 }
  | some s => ((t.countStatus s.status).countTimer s.timerSecs).countTook s.tookMs

/-- The tally of all results, in ascending order of id. -/
def ofResults (results : FanOut (BlockingReading ν)) : BlockingTally ν :=
  results.values.foldl count start

/-- The nodes that answered. -/
def answered (t : BlockingTally ν) : Nat := t.enabled + t.disabled + t.failed

/-- The mode that the counts of `total` nodes stand for. -/
def mode (t : BlockingTally ν) (total : Nat) : BlockingMode :=
  if total = 0 ∨ t.errors ≠ 0 ∨ t.failed ≠ 0 then .degraded
  else if t.enabled = total then .enabled
  else if t.disabled = total then .disabled
  else .mixed

end BlockingTally

/-- The blocking states of the fleet, taken together. -/
structure BlockingSummary (ν : Type) where
  mode : BlockingMode
  /-- Every node reported the same state. -/
  unanimous : Bool
  total : Nat
  enabled : Nat
  disabled : Nat
  failed : Nat
  errors : Nat
  minTimerSecs : Option ν
  maxTimerSecs : Option ν
  maxTookMs : ν
  /-- The average over the nodes that answered. -/
  avgTookMs : ν

namespace BlockingSummary

/-- Summarise the results of all nodes. -/
def ofResults [Quantity ν] (results : FanOut (BlockingReading ν)) : BlockingSummary ν :=
  let t := BlockingTally.ofResults results
  let mode := t.mode results.size
  { mode
    unanimous := mode == .enabled || mode == .disabled
    total := results.size
    enabled := t.enabled
    disabled := t.disabled
    failed := t.failed
    errors := t.errors
    minTimerSecs := t.minTimer
    maxTimerSecs := t.maxTimer
    maxTookMs := t.maxTook
    avgTookMs :=
      if t.answered = 0 then Quantity.zero else Quantity.divide t.tookTotal t.answered }

/-- A summary is written as an object, absent timers as `null`. -/
def toJson (s : BlockingSummary Float) : Json :=
  .obj [("mode", .str s.mode.text), ("unanimous", .bool s.unanimous),
    ("total", Json.ofNat s.total), ("enabled", Json.ofNat s.enabled),
    ("disabled", Json.ofNat s.disabled), ("failed", Json.ofNat s.failed),
    ("errors", Json.ofNat s.errors), ("minTimerSecs", Json.optional Json.float s.minTimerSecs),
    ("maxTimerSecs", Json.optional Json.float s.maxTimerSecs),
    ("maxTookMs", Json.float s.maxTookMs), ("avgTookMs", Json.float s.avgTookMs)]

/-- The summary together with the results of the nodes. -/
def withNodes (results : FanOut BlockingState) : Json :=
  .obj [("summary", (ofResults results).toJson),
    ("nodes", FanOut.toJson BlockingState.toJson results)]

end BlockingSummary

end FilterFleet
