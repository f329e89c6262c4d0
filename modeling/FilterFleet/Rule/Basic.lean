import FilterFleet.Failure
import FilterFleet.Text.Blank

/-! # Domain rules

A rule allows or denies domains, by their exact name or by a pattern.  Rules are listed with a
filter, added in batches and removed one at a time; each of these names the rules it is about by
the segments of a path.
-/

namespace FilterFleet

/-! ## Type and kind -/

/-- Whether a rule allows or denies. -/
inductive RuleType where
  | allow
  | deny
deriving DecidableEq, Repr, Inhabited

namespace RuleType

/-- The word for a type, which is also its path segment. -/
def text : RuleType → String
  | allow => "allow"
  | deny => "deny"

/-- The type that a word names. -/
def ofText? (s : String) : Option RuleType := [allow, deny].find? fun t => t.text == s

/-- Read a type from a text, without regard to case and surrounding blanks. -/
def parse (s : String) : Except InputError RuleType :=
  let word := (Text.trim s).map Char.toLower
  match ofText? word with
  | some t => .ok t
  | none => .error (.invalid "type" ("'" ++ word ++ "' is not one of allow, deny"))

/-- A type is written as its word. -/
def toJson (t : RuleType) : Json := .str t.text

/-- A type is read from its word. -/
def ofJson? (v : Json) : Option RuleType := v.choice?.bind ofText?

end RuleType

/-- Whether a rule matches a name or a pattern. -/
inductive RuleKind where
  | exact
  | regex
deriving DecidableEq, Repr, Inhabited

namespace RuleKind

/-- The word for a kind, which is also its path segment. -/
def text : RuleKind → String
  | exact => "exact"
  | regex => "regex"

/-- The kind that a word names. -/
def ofText? (s : String) : Option RuleKind := [exact, regex].find? fun k => k.text == s

/-- Read a kind from a text, without regard to case and surrounding blanks. -/
def parse (s : String) : Except InputError RuleKind :=
  let word := (Text.trim s).map Char.toLower
  match ofText? word with
  | some k => .ok k
  | none => .error (.invalid "kind" ("'" ++ word ++ "' is not one of exact, regex"))

/-- A kind is written as its word. -/
def toJson (k : RuleKind) : Json := .str k.text

/-- A kind is read from its word. -/
def ofJson? (v : Json) : Option RuleKind := v.choice?.bind ofText?

end RuleKind

/-! ## Requests -/

/-- Which rules to list.  A part that is absent does not restrict. -/
structure RuleFilter where
  type : Option RuleType
  kind : Option RuleKind
  domain : Option String
deriving DecidableEq, Repr, Inhabited

namespace RuleFilter

/-- The filter that every rule passes. -/
def all : RuleFilter := ⟨none, none, none⟩

/-- The domain, unless it is absent or empty. -/
def givenDomain? (f : RuleFilter) : Option String := f.domain.filter fun d => !d.isEmpty

/-- The path of the listing: type, kind and domain as far as they are given. -/
def segments (f : RuleFilter) : List String :=
  "domains" :: ((f.type.map RuleType.text).toList ++ (f.kind.map RuleKind.text).toList ++
    f.givenDomain?.toList)

/-- Absent parts are left out. -/
def toJson (f : RuleFilter) : Json :=
  .obj (Json.member? "type" RuleType.toJson f.type ++ Json.member? "kind" RuleKind.toJson f.kind ++
    Json.member? "domain" Json.str f.domain)

/-- Every part may be absent. -/
def ofJson? (v : Json) : Option RuleFilter := do
  match ← v.fields? ["type", "kind", "domain"] with
  | [type, kind, domain] =>
    some {
      type := ← Json.maybe RuleType.ofJson? type
      kind := ← Json.maybe RuleKind.ofJson? kind
      domain := ← Json.maybe Json.str? domain }
  | _ => none

end RuleFilter

/-- Rules to add: domains or patterns of one type and kind. -/
structure RuleAddition where
  type : RuleType
  kind : RuleKind
  domains : List String
  comment : Option String
  /-- The groups of the rules; none means the node's default group. -/
  groups : List Int64
  enabled : Bool
deriving DecidableEq, Inhabited

namespace RuleAddition

/-- Enabled rules without comment and groups. -/
def basic (type : RuleType) (kind : RuleKind) (domains : List String) : RuleAddition :=
  { type, kind, domains, comment := none, groups := [], enabled := true }

/-- The path of the addition. -/
def segments (r : RuleAddition) : List String := ["domains", r.type.text, r.kind.text]

/-- An absent comment and an empty list of groups are left out. -/
def toJson (r : RuleAddition) : Json :=
  .obj ([("type", r.type.toJson), ("kind", r.kind.toJson),
      ("domains", .arr (r.domains.map Json.str))] ++
    Json.member? "comment" Json.str r.comment ++
    (if r.groups.isEmpty then [] else [("groups", .arr (r.groups.map Json.ofInt64))]) ++
    [("enabled", .bool r.enabled)])

/-- Type, kind and domains must be given; rules are enabled unless it is said otherwise. -/
def ofJson? (v : Json) : Option RuleAddition := do
  match ← v.fields? ["type", "kind", "domains", "comment", "groups", "enabled"] with
  | [type, kind, domains, comment, groups, enabled] =>
    some {
      type := ← Json.required RuleType.ofJson? type
      kind := ← Json.required RuleKind.ofJson? kind
      domains := ← Json.required (Json.list? Json.str?) domains
      comment := ← Json.maybe Json.str? comment
      groups := ← Json.orElse [] (Json.list? Json.int64?) groups
      enabled := ← Json.orElse true Json.bool? enabled }
  | _ => none

/-- The body sent to a node; its members stand in alphabetical order. -/
def body (r : RuleAddition) : Json :=
  .obj (Json.member? "comment" Json.str r.comment ++
    [("domain", .arr (r.domains.map Json.str)), ("enabled", .bool r.enabled)] ++
    (if r.groups.isEmpty then [] else [("groups", .arr (r.groups.map Json.ofInt64))]))

end RuleAddition

/-- The rule to remove. -/
structure RuleRemoval where
  type : RuleType
  kind : RuleKind
  domain : String
deriving DecidableEq, Repr, Inhabited

namespace RuleRemoval

/-- The path of the removal. -/
def segments (r : RuleRemoval) : List String :=
  ["domains", r.type.text, r.kind.text, r.domain]

/-- A removal is written as an object. -/
def toJson (r : RuleRemoval) : Json :=
  .obj [("type", r.type.toJson), ("kind", r.kind.toJson), ("domain", .str r.domain)]

/-- All three parts must be given. -/
def ofJson? (v : Json) : Option RuleRemoval := do
  match ← v.fields? ["type", "kind", "domain"] with
  | [type, kind, domain] =>
    some {
      type := ← Json.required RuleType.ofJson? type
      kind := ← Json.required RuleKind.ofJson? kind
      domain := ← Json.required Json.str? domain }
  | _ => none

end RuleRemoval

end FilterFleet
