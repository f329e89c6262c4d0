import FilterFleet.Rule.Basic

/-! # Rules as a node stores them

The answers of a node about its rules: the rules listed or added, and which items of a batch were
accepted.
-/

namespace FilterFleet

/-- A rule stored on a node. -/
structure DomainRule where
  domain : String
  unicode : Option String
  type : RuleType
  kind : RuleKind
  comment : Option String
  groups : List Int64
  enabled : Bool
  id : Int64
  dateAdded : Int64
  dateModified : Int64
deriving DecidableEq, Inhabited

namespace DomainRule

/-- Absent texts are written as `null`. -/
def toJson (r : DomainRule) : Json :=
  .obj [("domain", .str r.domain), ("unicode", Json.optional .str r.unicode),
    ("type", r.type.toJson), ("kind", r.kind.toJson), ("comment", Json.optional .str r.comment),
    ("groups", .arr (r.groups.map Json.ofInt64)), ("enabled", .bool r.enabled),
    ("id", Json.ofInt64 r.id), ("date_added", Json.ofInt64 r.dateAdded),
    ("date_modified", Json.ofInt64 r.dateModified)]

/-- Domain, type and kind must be given. -/
def ofJson? (v : Json) : Option DomainRule := do
  match ← v.fields? ["domain", "unicode", "type", "kind", "comment", "groups", "enabled", "id",
      "date_added", "date_modified"] with
  | [domain, unicode, type, kind, comment, groups, enabled, id, dateAdded, dateModified] =>
    some {
      domain := ← Json.required Json.str? domain
      unicode := ← Json.maybe Json.str? unicode
      type := ← Json.required RuleType.ofJson? type
      kind := ← Json.required RuleKind.ofJson? kind
      comment := ← Json.maybe Json.str? comment
      groups := ← Json.orElse [] (Json.list? Json.int64?) groups
      enabled := ← Json.orElse false Json.bool? enabled
      id := ← Json.orElse 0 Json.int64? id
      dateAdded := ← Json.orElse 0 Json.int64? dateAdded
      dateModified := ← Json.orElse 0 Json.int64? dateModified }
  | _ => none

end DomainRule

/-- The answer to a listing. -/
structure RuleListing where
  domains : List DomainRule
  /-- Processing time in seconds. -/
  took : Float
deriving Inhabited

namespace RuleListing

/-- A listing is written as an object. -/
def toJson (r : RuleListing) : Json :=
  .obj [("domains", .arr (r.domains.map DomainRule.toJson)), ("took", .float r.took)]

/-- Both parts may be missing. -/
def ofJson? (v : Json) : Option RuleListing := do
  match ← v.fields? ["domains", "took"] with
  | [domains, took] =>
    some {
      domains := ← Json.orElse [] (Json.list? DomainRule.ofJson?) domains
      took := ← Json.orElse 0.0 Json.float? took }
  | _ => none

end RuleListing

/-- An item of a batch that was written. -/
structure AcceptedItem where
  item : String
deriving DecidableEq, Repr, Inhabited

namespace AcceptedItem

/-- An item is written as an object. -/
def toJson (i : AcceptedItem) : Json := .obj [("item", .str i.item)]

/-- The item must be given. -/
def ofJson? (v : Json) : Option AcceptedItem := do
  match ← v.fields? ["item"] with
  | [item] => some { item := ← Json.required Json.str? item }
  | _ => none

end AcceptedItem

/-- An item of a batch that was rejected, and why. -/
structure RejectedItem where
  item : String
  error : String
deriving DecidableEq, Repr, Inhabited

namespace RejectedItem

/-- An item is written as an object. -/
def toJson (i : RejectedItem) : Json := .obj [("item", .str i.item), ("error", .str i.error)]

/-- Both parts must be given. -/
def ofJson? (v : Json) : Option RejectedItem := do
  match ← v.fields? ["item", "error"] with
  | [item, error] =>
    some { item := ← Json.required Json.str? item, error := ← Json.required Json.str? error }
  | _ => none

end RejectedItem

/-- What became of the items of a batch. -/
structure BatchOutcome where
  success : List AcceptedItem
  errors : List RejectedItem
deriving DecidableEq, Repr, Inhabited

namespace BatchOutcome

/-- An outcome is written as an object. -/
def toJson (b : BatchOutcome) : Json :=
  .obj [("success", .arr (b.success.map AcceptedItem.toJson)),
    ("errors", .arr (b.errors.map RejectedItem.toJson))]

/-- Both parts may be missing. -/
def ofJson? (v : Json) : Option BatchOutcome := do
  match ← v.fields? ["success", "errors"] with
  | [success, errors] =>
    some {
      success := ← Json.orElse [] (Json.list? AcceptedItem.ofJson?) success
      errors := ← Json.orElse [] (Json.list? RejectedItem.ofJson?) errors }
  | _ => none

end BatchOutcome

/-- The answer to an addition. -/
structure AdditionAnswer where
  domains : List DomainRule
  processed : BatchOutcome
  /-- Processing time in seconds. -/
  took : Float
deriving Inhabited

namespace AdditionAnswer

/-- An answer is written as an object. -/
def toJson (r : AdditionAnswer) : Json :=
  .obj [("domains", .arr (r.domains.map DomainRule.toJson)), ("processed", r.processed.toJson),
    ("took", .float r.took)]

/-- Every part may be missing. -/
def ofJson? (v : Json) : Option AdditionAnswer := do
  match ← v.fields? ["domains", "processed", "took"] with
  | [domains, processed, took] =>
    some {
      domains := ← Json.orElse [] (Json.list? DomainRule.ofJson?) domains
      processed := ← Json.orElse ⟨[], []⟩ BatchOutcome.ofJson? processed
      took := ← Json.orElse 0.0 Json.float? took }
  | _ => none

end AdditionAnswer

end FilterFleet
