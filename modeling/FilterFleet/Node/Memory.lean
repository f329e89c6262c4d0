import FilterFleet.Node.Call
import FilterFleet.Node.Settings

/-! # Nodes in memory

A node that lives in memory answers like a filter: it stores rules, keeps a blocking state and
serves pages of a query log.  It can be told to be slow, to fail or to break down, and it keeps a
record of every call, so that a fleet can be tried out without a network.
-/

namespace FilterFleet

/-- Where the pages of a query log come from. -/
inductive PageSource where
  /-- Empty pages that repeat the cursor of the request. -/
  | echo
  /-- A cursor that starts at `first` and moves by `step` up to `last`. -/
  | stepping (first step last : Int64)
  /-- Given pages one after another, the last one again and again. -/
  | listed (next : Except NodeError QueryPage) (later : List (Except NodeError QueryPage))

namespace PageSource

/-- The page for a request, and the source of the pages after it. -/
def page (source : PageSource) (r : QueryRequest) : Except NodeError QueryPage × PageSource :=
  match source with
  | echo => (.ok (QueryPage.blank r.cursor), echo)
  | stepping first step last =>
    let cursor :=
      match r.cursor with
      | none => first
      | some c => min (c + step) last
    (.ok (QueryPage.blank (some cursor)), stepping first step last)
  | listed next [] => (next, listed next [])
  | listed next (following :: later) => (next, listed following later)

end PageSource

/-- The state of a node in memory. -/
structure MemoryNode where
  identity : NodeIdentity
  /-- The failure of every call, if calls fail. -/
  failure : Option NodeError
  /-- How long every call takes, if it takes time. -/
  delay : Option Span
  /-- Whether every call breaks down. -/
  breaks : Bool
  authValid : Bool
  /-- The processing time that answers report, in seconds. -/
  tookSecs : Float
  blocking : BlockingState
  rules : List DomainRule
  nextRuleId : Nat
  pages : PageSource
  /-- All calls, oldest first. -/
  calls : List NodeCall
  /-- How often the settings were replaced. -/
  settingsUpdates : Nat

/-- A call that a node in memory is working on. -/
structure MemoryCall (kind : CallKind) where
  request : kind.Request
  /-- When the answer is ready. -/
  due : Instant
  failure : Option NodeError
  breaks : Bool

/-- How a call ends. -/
inductive CallEnd (α : Type) where
  | answered (outcome : Except NodeError α)
  /-- The call broke down. -/
  | broken

namespace MemoryNode

/-- A healthy node. -/
def new (id : NodeId) (name : String) : MemoryNode :=
  { identity := ⟨id, name, "mock-" ++ id.text⟩
    failure := none
    delay := none
    breaks := false
    authValid := true
    tookSecs := 0.001
    blocking := ⟨.enabled, none, 0.1⟩
    rules := []
    nextRuleId := 1
    pages := .echo
    calls := []
    settingsUpdates := 0 }

/-- Take new settings. -/
def configure (n : MemoryNode) (s : NodeSettings) : MemoryNode :=
  { n with identity := s.identity, settingsUpdates := n.settingsUpdates + 1 }

/-- Begin a call: it is recorded, and how it will go is decided. -/
def begin (n : MemoryNode) (kind : CallKind) (request : kind.Request) (now : Instant) :
    MemoryNode × MemoryCall kind :=
  ({ n with calls := n.calls ++ [⟨kind, request⟩] },
    ⟨request, now + n.delay.getD 0, n.failure, n.breaks⟩)

/-- Whether a rule passes a filter; an empty domain does not restrict. -/
def passes (f : RuleFilter) (r : DomainRule) : Bool :=
  f.type.all (· == r.type) && f.kind.all (· == r.kind) &&
    f.domain.all fun d => d.isEmpty || d == r.domain

/-- The stored rule of one domain of an addition. -/
def storedRule (a : RuleAddition) (domain : String) (id : Nat) : DomainRule :=
  { domain
    unicode := none
    type := a.type
    kind := a.kind
    comment := a.comment
    groups := if a.groups.isEmpty then [0] else a.groups
    enabled := a.enabled
    id := Int64.ofNat id
    dateAdded := 0
    dateModified := 0 }

/-- The rules of an addition, with ids from `first` on. -/
def storedRules (a : RuleAddition) (first : Nat) : List DomainRule :=
  a.domains.zipIdx.map fun d => storedRule a d.1 (first + d.2)

/-- The seconds for which a valid session is reported to last. -/
def sessionSecs : Int64 := 300

/-- Answer a call at time `stamp`, as the node is then. -/
def answer (n : MemoryNode) (stamp : Timestamp) :
    (kind : CallKind) → kind.Request → Outcome kind × MemoryNode
  | .fetchQueries, r =>
    let (page, pages) := n.pages.page r
    (page, { n with pages })
  | .listRules, f => (.ok ⟨n.rules.filter (passes f), n.tookSecs⟩, n)
  | .addRules, a =>
    let added := storedRules a n.nextRuleId
    (.ok ⟨added, ⟨a.domains.map AcceptedItem.mk, []⟩, n.tookSecs⟩,
      { n with
        rules := n.rules ++ added
        nextRuleId := n.nextRuleId + a.domains.length })
  | .removeRule, r =>
    let kept := n.rules.filter fun x =>
      !(x.type == r.type && x.kind == r.kind && x.domain == r.domain)
    if kept.length = n.rules.length then (.error (NodeError.ofStatus 404), n)
    else (.ok (), { n with rules := kept })
  | .authStatus, () =>
    (.ok
      { valid := n.authValid
        validitySeconds := if n.authValid then sessionSecs else 0
        validUntil := stamp
        tookMs := tookMillis n.tookSecs }, n)
  | .blockingStatus, () => (.ok n.blocking, n)
  | .setBlocking, c =>
    let state : BlockingState :=
      ⟨if c.blocking then .enabled else .disabled, c.timer.map UInt64.toFloat, 0.1⟩
    (.ok state, { n with blocking := state })
  | .logout, () => (.ok (), n)

/-- End a call that is due. -/
def finish (n : MemoryNode) (stamp : Timestamp) {kind : CallKind} (c : MemoryCall kind) :
    CallEnd kind.Reply × MemoryNode :=
  if c.breaks then (.broken, n)
  else
    match c.failure with
    | some e => (.answered (.error e), n)
    | none =>
      let (outcome, n) := n.answer stamp kind c.request
      (.answered outcome, n)

/-- The requests for pages among the calls, oldest first. -/
def queryRequests (n : MemoryNode) : List QueryRequest :=
  n.calls.filterMap fun c =>
    match c with
    | ⟨.fetchQueries, r⟩ => some r
    | _ => none

/-- The form for diagnostics. -/
def debug (n : MemoryNode) : String :=
  "MockNode \x7b identity: " ++ n.identity.debug ++ ", .. \x7d"

end MemoryNode

end FilterFleet
