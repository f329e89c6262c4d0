import FilterFleet.QueryLog.Request
import Std.Data.String.ToInt

/-!
# Parameters of a query log request

A request is sent as pairs of a key and a text. The parts of a request are listed under their keys,
set or unset (`QueryRequest.parts`); the pairs are the parts that are set. Since no key stands twice,
what is read under a key is the part that was written under it (`lookup_filled`), and so a request is
read back from its pairs (`QueryRequest.ofPairs?`), up to filters that are set to the empty text. Two
requests send the same pairs iff they are the same but for such filters (`pairs_lossless`).
-/

namespace FilterFleet

/-! ## Parts under keys -/

/-- The pairs of the parts that are set. -/
def filled (parts : List (String × Option String)) : List (String × String) :=
  parts.flatMap fun part => (part.2.map fun text => (part.1, text)).toList

theorem filled_append (parts more : List (String × Option String)) :
    filled (parts ++ more) = filled parts ++ filled more := List.flatMap_append

/-- The pairs have the keys of their parts, in the same order. -/
theorem keys_filled_sublist (parts : List (String × Option String)) :
    ((filled parts).map (·.1)).Sublist (parts.map (·.1)) := by
  induction parts with
  | nil => exact List.nil_sublist _
  | cons part parts ih =>
    obtain ⟨key, _ | text⟩ := part
    · exact ih.cons key
    · exact ih.cons_cons key

theorem lookup_eq_none_iff_not_mem {pairs : List (String × String)} {key : String} :
    pairs.lookup key = none ↔ key ∉ pairs.map (·.1) := by
  rw [List.lookup_eq_none_iff, List.mem_map]
  constructor
  · rintro h ⟨pair, hpair, rfl⟩
    simpa using h pair hpair
  · intro h pair hpair
    exact bne_iff_ne.mpr fun heq => h ⟨pair, hpair, heq.symm⟩

/-- Where no key stands twice, what is found under a key is the part under it. -/
theorem lookup_filled {parts : List (String × Option String)} (hnodup : (parts.map (·.1)).Nodup)
    (key : String) : (filled parts).lookup key = (parts.lookup key).join := by
  induction parts with
  | nil => rfl
  | cons part rest ih =>
    obtain ⟨hnot, hrest⟩ := List.nodup_cons.mp hnodup
    obtain ⟨first, text⟩ := part
    rw [List.lookup_cons]
    by_cases hkey : key = first
    · have hnone : (filled rest).lookup key = none :=
        lookup_eq_none_iff_not_mem.mpr fun h => hnot (hkey ▸ (keys_filled_sublist rest).subset h)
      rw [beq_iff_eq.mpr hkey]
      cases text with
      | none => exact hnone
      | some text => exact hkey ▸ List.lookup_cons_self
    · rw [beq_false_of_ne hkey, ← ih hrest]
      cases text with
      | none => rfl
      | some text =>
        show List.lookup key ((first, text) :: filled rest) = _
        rw [List.lookup_cons, beq_false_of_ne hkey]

/-! ## Reading texts -/

/-- A number of 64 bits with sign, in decimal. -/
def int64OfText? (text : String) : Option Int64 :=
  text.toInt?.bind fun n =>
    if Int64.minValue.toInt ≤ n ∧ n ≤ Int64.maxValue.toInt then some (Int64.ofInt n) else none

/-- A number of 32 bits without sign, in decimal. -/
def uint32OfText? (text : String) : Option UInt32 :=
  text.toNat?.bind fun n => if n < UInt32.size then some (UInt32.ofNat n) else none

/-- One of the words `true` and `false`. -/
def boolOfText? (text : String) : Option Bool :=
  if text = "true" then some true else if text = "false" then some false else none

theorem int64OfText?_toString (n : Int64) : int64OfText? (toString n.toInt) = some n := by
  have hread : (toString n.toInt).toInt? = some n.toInt := Int.toInt?_repr n.toInt
  rw [int64OfText?, hread, Option.bind_some, if_pos ⟨n.minValue_le_toInt, n.toInt_le⟩,
    Int64.ofInt_toInt]

theorem uint32OfText?_toString (n : UInt32) : uint32OfText? (toString n.toNat) = some n := by
  have hread : (toString n.toNat).toNat? = some n.toNat := Nat.toNat?_repr n.toNat
  rw [uint32OfText?, hread, Option.bind_some, if_pos n.toNat_lt_size, UInt32.ofNat_toNat]

theorem boolOfText?_word (b : Bool) : boolOfText? (if b then "true" else "false") = some b := by
  cases b <;> rfl

/-- What a text stands for, if there is one. There is no result if it cannot be read. -/
def readPart (decode : String → Option α) : Option String → Option (Option α)
  | none => some none
  | some text => (decode text).map some

/-- What was written is read back. -/
theorem readPart_map {decode : String → Option α} {encode : α → String}
    (hdecode : ∀ a, decode (encode a) = some a) (a : Option α) :
    readPart decode (a.map encode) = some a := by
  cases a with
  | none => rfl
  | some a => exact congrArg (Option.map some) (hdecode a)

/-! ## The parts of a request -/

/-- A text filter restricts only if it is not empty. -/
def restriction (filter : Option String) : Option String := filter.filter fun text => !text.isEmpty

namespace QueryFilters

/-- The same filters, with those that are set to the empty text unset. -/
def normal (f : QueryFilters) : QueryFilters :=
  { f with
    domain := restriction f.domain
    clientIp := restriction f.clientIp
    clientName := restriction f.clientName
    resolver := restriction f.resolver
    type := restriction f.type
    status := restriction f.status
    reply := restriction f.reply
    dnssec := restriction f.dnssec }

/-- The filters under their keys. -/
def parts (f : QueryFilters) : List (String × Option String) :=
  [("from", f.since.map fun t => toString t.toInt),
    ("until", f.before.map fun t => toString t.toInt),
    ("domain", restriction f.domain), ("client_ip", restriction f.clientIp),
    ("client_name", restriction f.clientName), ("upstream", restriction f.resolver),
    ("type", restriction f.type), ("status", restriction f.status),
    ("reply", restriction f.reply), ("dnssec", restriction f.dnssec),
    ("disk", f.disk.map fun d => if d then "true" else "false")]

theorem textPair_eq_filled (key : String) (value : Option String) :
    textPair key value = filled [(key, restriction value)] := by
  cases value with
  | none => rfl
  | some text =>
    rw [textPair, restriction, Option.filter_some]
    cases text.isEmpty <;> rfl

theorem map_eq_filled (key : String) (encode : α → String) (value : Option α) :
    (value.map fun a => (key, encode a)).toList = filled [(key, value.map encode)] := by
  cases value <;> rfl

theorem pairs_eq_filled (f : QueryFilters) : f.pairs = filled f.parts := by
  simp only [pairs, textPair_eq_filled, map_eq_filled, ← filled_append, List.cons_append,
    List.nil_append, parts]

/-- Empty texts are not sent. -/
theorem parts_normal (f : QueryFilters) : f.normal.parts = f.parts := by
  have htwice : ∀ filter, restriction (restriction filter) = restriction filter := by
    intro filter
    simp [restriction, Option.filter_filter]
  simp only [parts, normal, htwice]

end QueryFilters

namespace QueryRequest

/-- The same request, with filters that are set to the empty text unset. -/
def normal (r : QueryRequest) : QueryRequest := { r with filters := r.filters.normal }

/-- The parts of a request under their keys. -/
def parts (r : QueryRequest) : List (String × Option String) :=
  [("cursor", r.cursor.map fun c => toString c.toInt),
    ("length", r.length.map fun n => toString n.toNat),
    ("start", r.start.map fun n => toString n.toNat)] ++ r.filters.parts

/-- The keys of all parts. -/
def keys : List String :=
  ["cursor", "length", "start", "from", "until", "domain", "client_ip", "client_name", "upstream",
    "type", "status", "reply", "dnssec", "disk"]

theorem keys_parts (r : QueryRequest) : r.parts.map (·.1) = keys := rfl

theorem nodup_keys : keys.Nodup := by decide

theorem pairs_eq_filled (r : QueryRequest) : r.pairs = filled r.parts := by
  simp only [pairs, QueryFilters.map_eq_filled, QueryFilters.pairs_eq_filled, ← filled_append,
    List.cons_append, List.nil_append, parts]

theorem lookup_pairs (r : QueryRequest) (key : String) :
    r.pairs.lookup key = (r.parts.lookup key).join := by
  rw [pairs_eq_filled]
  exact lookup_filled (keys_parts r ▸ nodup_keys) key

/-- A request read back from pairs: numbers in decimal, and nothing for a key that is missing. -/
def ofPairs? (pairs : List (String × String)) : Option QueryRequest := do
  some {
    cursor := ← readPart int64OfText? (pairs.lookup "cursor")
    length := ← readPart uint32OfText? (pairs.lookup "length")
    start := ← readPart uint32OfText? (pairs.lookup "start")
    filters := {
      since := ← readPart int64OfText? (pairs.lookup "from")
      before := ← readPart int64OfText? (pairs.lookup "until")
      domain := pairs.lookup "domain"
      clientIp := pairs.lookup "client_ip"
      clientName := pairs.lookup "client_name"
      resolver := pairs.lookup "upstream"
      type := pairs.lookup "type"
      status := pairs.lookup "status"
      reply := pairs.lookup "reply"
      dnssec := pairs.lookup "dnssec"
      disk := ← readPart boolOfText? (pairs.lookup "disk") } }

/-- A request is read back from its pairs. -/
theorem ofPairs?_pairs (r : QueryRequest) : ofPairs? r.pairs = some r.normal := by
  simp only [ofPairs?, lookup_pairs, parts, QueryFilters.parts, List.cons_append, List.nil_append,
    List.lookup_cons_self, List.lookup_cons, String.reduceBEq, Option.join_some,
    readPart_map int64OfText?_toString, readPart_map uint32OfText?_toString,
    readPart_map boolOfText?_word, Option.bind_eq_bind, Option.bind_some, normal,
    QueryFilters.normal]

/-- Requests that are the same but for filters set to the empty text send the same pairs. -/
theorem pairs_normal (r : QueryRequest) : r.normal.pairs = r.pairs := by
  have hparts : r.normal.parts = r.parts := by
    rw [parts, parts, normal, QueryFilters.parts_normal]
  rw [pairs_eq_filled, pairs_eq_filled, hparts]

/-- **The pairs of a request lose nothing of it.** No key stands twice, and the request is read back
from its pairs but for filters set to the empty text. So two requests send the same pairs iff they
are the same but for such filters. A request for a first page sends no cursor, and one that goes on
from a cursor sends no start. -/
theorem pairs_lossless :
    (∀ r : QueryRequest, (r.pairs.map (·.1)).Nodup ∧ ofPairs? r.pairs = some r.normal) ∧
    (∀ r r' : QueryRequest, r.pairs = r'.pairs ↔ r.normal = r'.normal) ∧
    (∀ filters length start, "cursor" ∉ (fresh filters length start).pairs.map (·.1)) ∧
    ∀ filters cursor length, "start" ∉ (continuation filters cursor length).pairs.map (·.1) := by
  refine ⟨fun r => ⟨?_, ofPairs?_pairs r⟩, fun r r' => ⟨fun h => ?_, fun h => ?_⟩,
    fun filters length start => ?_, fun filters cursor length => ?_⟩
  · rw [pairs_eq_filled]
    exact (keys_parts r ▸ nodup_keys).sublist (keys_filled_sublist r.parts)
  · have hread := congrArg ofPairs? h
    rw [ofPairs?_pairs, ofPairs?_pairs] at hread
    exact Option.some.inj hread
  · rw [← pairs_normal r, h, pairs_normal]
  · rw [← lookup_eq_none_iff_not_mem, lookup_pairs]
    rfl
  · rw [← lookup_eq_none_iff_not_mem, lookup_pairs]
    rfl

-- An empty text does not restrict; a start goes with a first page only.
example : (fresh { QueryFilters.none with domain := some "", disk := some false } (some 50)
    (some 10)).pairs = [("length", "50"), ("start", "10"), ("disk", "false")] := by decide

end QueryRequest

end FilterFleet
