import FilterFleet.Blocking.State
import FilterFleet.Node.Identity
import FilterFleet.Proofs.Cursor.SixBit
import FilterFleet.Proofs.Json.Records
import FilterFleet.QueryLog.Request
import FilterFleet.Rule.Stored
import FilterFleet.Time.Timestamp

/-!
# Reading back what nodes and callers are sent

Each of the types without fractions has an encoding that its decoding undoes: ids, identities and
timestamps; the failures of a node; rules, the requests about them and the answers to these; the
filters of a search, and the changes of blocking. So a value of any of them is given back by reading
the text that is written for it (`every_value_reads_back`).

`fields` lists for a record what is given for each field, in the order of declaration.
-/

namespace FilterFleet

open Json

/-! ## Words -/

theorem RuleType.codes : Codes RuleType.toJson RuleType.ofJson? where
  plain t := .str t.text
  ne_null _ := Json.noConfusion
  decode_encode t := by cases t <;> rfl

theorem RuleKind.codes : Codes RuleKind.toJson RuleKind.ofJson? where
  plain k := .str k.text
  ne_null _ := Json.noConfusion
  decode_encode k := by cases k <;> rfl

theorem ErrorKind.codes : Codes ErrorKind.toJson ErrorKind.ofJson? where
  plain k := .str k.text
  ne_null _ := Json.noConfusion
  decode_encode k := by cases k <;> rfl

/-! ## Ids, identities and timestamps -/

theorem CursorId.codes : Codes CursorId.toJson CursorId.ofJson? where
  plain id := .str id.text
  ne_null _ := Json.noConfusion
  decode_encode id := by
    rw [toJson, ofJson?, str?, Option.bind_some, parse_text]
    rfl

theorem NodeId.codes : Codes NodeId.toJson NodeId.ofJson? where
  plain id := Codes.int64.plain id.value
  ne_null _ := Json.noConfusion
  decode_encode id := by rw [toJson, ofJson?, Codes.int64.decode_encode, Option.map_some]

theorem Timestamp.codes : Codes Timestamp.toJson Timestamp.ofJson? where
  plain t := Codes.int64.plain t.millis
  ne_null _ := Json.noConfusion
  decode_encode t := by rw [toJson, ofJson?, Codes.int64.decode_encode, Option.map_some]

def NodeIdentity.fields (n : NodeIdentity) : List (String × Option Json) :=
  [("id", some n.id.toJson), ("name", some (str n.name)), ("host", some (str n.host))]

theorem NodeIdentity.codes : Codes NodeIdentity.toJson NodeIdentity.ofJson? := by
  refine .record fields ["id", "name", "host"] (by decide) (fun _ => rfl)
    (fun _ => rfl) (fun n => ?_) fun n v hv => ?_
  · simp [fields, NodeId.codes.plain_some, Codes.str.plain_some]
  · simp [ofJson?, hv, fields, NodeId.codes.required, Codes.str.required]

/-! ## Failures of a node -/

def NodeError.fields (e : NodeError) : List (String × Option Json) :=
  [("kind", some e.kind.toJson), ("message", some (str e.message)),
    ("httpStatus", e.httpStatus.map fun s => ofNat s.toNat), ("retryable", some (bool e.retryable))]

theorem NodeError.codes : Codes NodeError.toJson NodeError.ofJson? := by
  refine .record fields ["kind", "message", "httpStatus", "retryable"]
    (by decide) (fun _ => rfl) (fun e => ?_) (fun e => ?_) fun e v hv => ?_
  · simp [toJson, fields, member?_eq_given, given]
  · simp [fields, ErrorKind.codes.plain_some, Codes.str.plain_some, Codes.bool.plain_some,
      Codes.uint16.plain_map]
  · simp [ofJson?, hv, fields, ErrorKind.codes.required, Codes.str.required, Codes.bool.required,
      Codes.uint16.maybe]

/-! ## Rules -/

def RuleFilter.fields (f : RuleFilter) : List (String × Option Json) :=
  [("type", f.type.map RuleType.toJson), ("kind", f.kind.map RuleKind.toJson),
    ("domain", f.domain.map str)]

theorem RuleFilter.codes : Codes RuleFilter.toJson RuleFilter.ofJson? := by
  refine .record fields ["type", "kind", "domain"] (by decide)
    (fun _ => rfl) (fun f => ?_) (fun f => ?_) fun f v hv => ?_
  · simp [toJson, fields, member?_eq_given, given]
  · simp [fields, RuleType.codes.plain_map, RuleKind.codes.plain_map, Codes.str.plain_map]
  · simp [ofJson?, hv, fields, RuleType.codes.maybe, RuleKind.codes.maybe, Codes.str.maybe]

def RuleAddition.fields (r : RuleAddition) : List (String × Option Json) :=
  [("type", some r.type.toJson), ("kind", some r.kind.toJson),
    ("domains", some (arr (r.domains.map str))), ("comment", r.comment.map str),
    ("groups", nonempty ofInt64 r.groups), ("enabled", some (bool r.enabled))]

theorem RuleAddition.codes : Codes RuleAddition.toJson RuleAddition.ofJson? := by
  refine .record fields
    ["type", "kind", "domains", "comment", "groups", "enabled"] (by decide)
    (fun _ => rfl) (fun r => ?_) (fun r => ?_) fun r v hv => ?_
  · cases hgroups : r.groups.isEmpty <;>
      simp [toJson, fields, member?_eq_given, given, nonempty, hgroups]
  · simp [fields, RuleType.codes.plain_some, RuleKind.codes.plain_some, Codes.str.list.plain_some,
      Codes.str.plain_map, Codes.int64.plain_nonempty, Codes.bool.plain_some]
  · simp [ofJson?, hv, fields, RuleType.codes.required, RuleKind.codes.required,
      Codes.str.list.required, Codes.str.maybe, Codes.int64.orElse_nonempty, Codes.bool.orElse]

def RuleRemoval.fields (r : RuleRemoval) : List (String × Option Json) :=
  [("type", some r.type.toJson), ("kind", some r.kind.toJson), ("domain", some (str r.domain))]

theorem RuleRemoval.codes : Codes RuleRemoval.toJson RuleRemoval.ofJson? := by
  refine .record fields ["type", "kind", "domain"] (by decide)
    (fun _ => rfl) (fun _ => rfl) (fun r => ?_) fun r v hv => ?_
  · simp [fields, RuleType.codes.plain_some, RuleKind.codes.plain_some, Codes.str.plain_some]
  · simp [ofJson?, hv, fields, RuleType.codes.required, RuleKind.codes.required,
      Codes.str.required]

def DomainRule.fields (r : DomainRule) : List (String × Option Json) :=
  [("domain", some (str r.domain)), ("unicode", some (optional str r.unicode)),
    ("type", some r.type.toJson), ("kind", some r.kind.toJson),
    ("comment", some (optional str r.comment)),
    ("groups", some (arr (r.groups.map ofInt64))), ("enabled", some (bool r.enabled)),
    ("id", some (ofInt64 r.id)), ("date_added", some (ofInt64 r.dateAdded)),
    ("date_modified", some (ofInt64 r.dateModified))]

theorem DomainRule.codes : Codes DomainRule.toJson DomainRule.ofJson? := by
  refine .record fields
    ["domain", "unicode", "type", "kind", "comment", "groups", "enabled", "id",
      "date_added", "date_modified"] (by decide)
    (fun _ => rfl) (fun _ => rfl) (fun r => ?_) fun r v hv => ?_
  · simp [fields, Codes.str.plain_some, Codes.str.plain_optional, RuleType.codes.plain_some,
      RuleKind.codes.plain_some, Codes.int64.list.plain_some, Codes.bool.plain_some,
      Codes.int64.plain_some]
  · simp [ofJson?, hv, fields, Codes.str.required, Codes.str.maybe_optional,
      RuleType.codes.required, RuleKind.codes.required, Codes.int64.list.orElse, Codes.bool.orElse,
      Codes.int64.orElse]

/-! ## Outcomes of a batch -/

def AcceptedItem.fields (i : AcceptedItem) : List (String × Option Json) :=
  [("item", some (str i.item))]

theorem AcceptedItem.codes : Codes AcceptedItem.toJson AcceptedItem.ofJson? := by
  refine .record fields ["item"] (by decide) (fun _ => rfl) (fun _ => rfl)
    (fun i => ?_) fun i v hv => ?_
  · simp [fields, Codes.str.plain_some]
  · simp [ofJson?, hv, fields, Codes.str.required]

def RejectedItem.fields (i : RejectedItem) : List (String × Option Json) :=
  [("item", some (str i.item)), ("error", some (str i.error))]

theorem RejectedItem.codes : Codes RejectedItem.toJson RejectedItem.ofJson? := by
  refine .record fields ["item", "error"] (by decide) (fun _ => rfl)
    (fun _ => rfl) (fun i => ?_) fun i v hv => ?_
  · simp [fields, Codes.str.plain_some]
  · simp [ofJson?, hv, fields, Codes.str.required]

def BatchOutcome.fields (b : BatchOutcome) : List (String × Option Json) :=
  [("success", some (arr (b.success.map AcceptedItem.toJson))),
    ("errors", some (arr (b.errors.map RejectedItem.toJson)))]

theorem BatchOutcome.codes : Codes BatchOutcome.toJson BatchOutcome.ofJson? := by
  refine .record fields ["success", "errors"] (by decide) (fun _ => rfl)
    (fun _ => rfl) (fun b => ?_) fun b v hv => ?_
  · simp [fields, AcceptedItem.codes.list.plain_some, RejectedItem.codes.list.plain_some]
  · simp [ofJson?, hv, fields, AcceptedItem.codes.list.orElse, RejectedItem.codes.list.orElse]

/-! ## Searches and blocking -/

def QueryFilters.fields (f : QueryFilters) : List (String × Option Json) :=
  [("from", f.since.map ofInt64), ("until", f.before.map ofInt64), ("domain", f.domain.map str),
    ("client_ip", f.clientIp.map str), ("client_name", f.clientName.map str),
    ("upstream", f.resolver.map str), ("type", f.type.map str), ("status", f.status.map str),
    ("reply", f.reply.map str), ("dnssec", f.dnssec.map str), ("disk", f.disk.map bool)]

theorem QueryFilters.codes : Codes QueryFilters.toJson QueryFilters.ofJson? := by
  refine .record fields fieldNames (by decide) (fun _ => rfl) (fun f => ?_)
    (fun f => ?_) fun f v hv => ?_
  · simp [toJson, fields, member?_eq_given, given]
  · simp [fields, Codes.int64.plain_map, Codes.str.plain_map, Codes.bool.plain_map]
  · simp [ofJson?, hv, fields, Codes.int64.maybe, Codes.str.maybe, Codes.bool.maybe]

def BlockingChange.fields (c : BlockingChange) : List (String × Option Json) :=
  [("blocking", some (bool c.blocking)), ("timer", c.timer.map fun t => ofNat t.toNat)]

theorem BlockingChange.codes : Codes BlockingChange.toJson BlockingChange.ofJson? := by
  refine .record fields ["blocking", "timer"] (by decide) (fun _ => rfl)
    (fun c => ?_) (fun c => ?_) fun c v hv => ?_
  · simp [toJson, fields, member?_eq_given, given]
  · simp [fields, Codes.bool.plain_some, Codes.uint64.plain_map]
  · simp [ofJson?, hv, fields, Codes.bool.required, Codes.uint64.maybe]

/-- Every value of these types is given back by reading the text that is written for it. -/
theorem every_value_reads_back :
    ReadsBack CursorId.toJson CursorId.ofJson? ∧
    ReadsBack NodeId.toJson NodeId.ofJson? ∧
    ReadsBack NodeIdentity.toJson NodeIdentity.ofJson? ∧
    ReadsBack Timestamp.toJson Timestamp.ofJson? ∧
    ReadsBack NodeError.toJson NodeError.ofJson? ∧
    ReadsBack RuleFilter.toJson RuleFilter.ofJson? ∧
    ReadsBack RuleAddition.toJson RuleAddition.ofJson? ∧
    ReadsBack RuleRemoval.toJson RuleRemoval.ofJson? ∧
    ReadsBack DomainRule.toJson DomainRule.ofJson? ∧
    ReadsBack BatchOutcome.toJson BatchOutcome.ofJson? ∧
    ReadsBack AcceptedItem.toJson AcceptedItem.ofJson? ∧
    ReadsBack RejectedItem.toJson RejectedItem.ofJson? ∧
    ReadsBack QueryFilters.toJson QueryFilters.ofJson? ∧
    ReadsBack BlockingChange.toJson BlockingChange.ofJson? :=
  ⟨CursorId.codes.readsBack, NodeId.codes.readsBack, NodeIdentity.codes.readsBack,
    Timestamp.codes.readsBack, NodeError.codes.readsBack, RuleFilter.codes.readsBack,
    RuleAddition.codes.readsBack, RuleRemoval.codes.readsBack, DomainRule.codes.readsBack,
    BatchOutcome.codes.readsBack, AcceptedItem.codes.readsBack, RejectedItem.codes.readsBack,
    QueryFilters.codes.readsBack, BlockingChange.codes.readsBack⟩

end FilterFleet
