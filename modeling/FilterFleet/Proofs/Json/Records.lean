import FilterFleet.Json.Record
import FilterFleet.Proofs.Json.Text

/-!
# Reading back records

A record is written as an object in which a field that is absent may be left out. `given` is the
members of such an object, made of the fields in the order of declaration with what is given for
each; reading the fields by their names gives the same back (`fields?_given`).

An encoding is undone by a decoding that gives every value back (`Codes`). The numbers, the texts,
the lists and the optional parts of records have one each, from which the decoding of a record is
put together.
-/

namespace FilterFleet.Json

/-! ## Fields -/

/-- The members of an object with the fields that are given. -/
def given (fields : List (String × Option Json)) : List (String × Json) :=
  fields.flatMap fun field => (field.2.map fun v => (field.1, v)).toList

theorem given_append (fields more : List (String × Option Json)) :
    given (fields ++ more) = given fields ++ given more := List.flatMap_append

theorem member?_eq_given (name : String) (encode : α → Json) (a : Option α) :
    member? name encode a = given [(name, a.map encode)] := by
  cases a <;> rfl

theorem valuesOf_append (members more : List (String × Json)) (name : String) :
    valuesOf (members ++ more) name = valuesOf members name ++ valuesOf more name := by
  simp [valuesOf]

theorem valuesOf_given_of_not_mem {fields : List (String × Option Json)} {name : String}
    (h : name ∉ fields.map (·.1)) : valuesOf (given fields) name = [] := by
  induction fields with
  | nil => rfl
  | cons field fields ih =>
    obtain ⟨hne, h⟩ : ¬ name = field.1 ∧ name ∉ fields.map (·.1) := by simpa using h
    have hhead : valuesOf (given [field]) name = [] := by
      have hne : (field.1 == name) = false := by simpa using fun h => hne h.symm
      cases hv : field.2 <;> simp [given, valuesOf, hv, hne]
    have hcons : given (field :: fields) = given [field] ++ given fields :=
      given_append [field] fields
    rw [hcons, valuesOf_append, hhead, ih h, List.append_nil]

/-- A field is read back from an object in which no name stands twice. -/
theorem field?_given {fields : List (String × Option Json)} (hnodup : (fields.map (·.1)).Nodup)
    {field : String × Option Json} (hmem : field ∈ fields) :
    field? (given fields) field.1 = some field.2 := by
  obtain ⟨before, after, rfl⟩ := List.append_of_mem hmem
  have hsplit :
      given (before ++ field :: after) = given before ++ given [field] ++ given after := by
    rw [← List.singleton_append, given_append, given_append, List.append_assoc]
  have hbefore : field.1 ∉ before.map (·.1) := by
    simp only [List.map_append, List.map_cons, List.nodup_append] at hnodup
    exact fun h => hnodup.2.2 _ h _ (by simp) rfl
  have hafter : field.1 ∉ after.map (·.1) := by
    simp only [List.map_append, List.map_cons, List.nodup_append, List.nodup_cons] at hnodup
    exact hnodup.2.1.1
  have hvalues : valuesOf (given (before ++ field :: after)) field.1 = field.2.toList := by
    rw [hsplit, valuesOf_append, valuesOf_append, valuesOf_given_of_not_mem hbefore,
      valuesOf_given_of_not_mem hafter]
    cases hv : field.2 <;> simp [given, valuesOf, hv]
  rw [field?, hvalues]
  cases field.2 <;> rfl

theorem mapM_eq_some_map {α β : Type} {f : α → Option β} {g : α → β} {as : List α}
    (h : ∀ a ∈ as, f a = some (g a)) : as.mapM f = some (as.map g) := by
  induction as with
  | nil => rfl
  | cons a as ih =>
    obtain ⟨ha, has⟩ := List.forall_mem_cons.mp h
    simp [List.mapM_cons, ha, ih has]

/-- The fields are read back from an object in which no name stands twice. -/
theorem fields?_given {fields : List (String × Option Json)} (hnodup : (fields.map (·.1)).Nodup) :
    (obj (given fields)).fields? (fields.map (·.1)) = some (fields.map (·.2)) := by
  rw [fields?, List.mapM_map]
  exact mapM_eq_some_map fun _ h => field?_given hnodup h

/-- A list that is left out when it is empty. -/
def nonempty (encode : α → Json) (as : List α) : Option Json :=
  if as.isEmpty then none else some (arr (as.map encode))

/-- What is given for a field, if anything is, is plain. -/
def PlainGiven (v : Option Json) : Prop := ∀ w ∈ v, w.Plain

theorem plain_given {fields : List (String × Option Json)}
    (h : ∀ field ∈ fields, PlainGiven field.2) : (obj (given fields)).Plain := by
  refine .obj fun m hm => ?_
  obtain ⟨field, hfield, hm⟩ := List.mem_flatMap.mp hm
  obtain ⟨v, hv, rfl⟩ : ∃ v, field.2 = some v ∧ (field.1, v) = m := by simpa using hm
  exact h field hfield v hv

/-! ## Encodings -/

/-- Whatever is encoded is plain, is not the mark of what is absent, and is given back by the
decoding. -/
structure Codes (encode : α → Json) (decode : Json → Option α) : Prop where
  plain : ∀ a, (encode a).Plain
  ne_null : ∀ a, encode a ≠ null
  decode_encode : ∀ a, decode (encode a) = some a

/-- Values are given back by reading the texts that are written for them. -/
def ReadsBack (encode : α → Json) (decode : Json → Option α) : Prop :=
  ∀ a, (ofText? (encode a).text).bind decode = some a

namespace Codes

variable {α : Type} {encode : α → Json} {decode : Json → Option α}

theorem readsBack (h : Codes encode decode) : ReadsBack encode decode := by
  intro a
  rw [ofText?_text (h.plain a), Option.bind_some, h.decode_encode]

theorem str : Codes str str? := ⟨.str, fun _ => Json.noConfusion, fun _ => rfl⟩

theorem bool : Codes bool bool? := ⟨.bool, fun _ => Json.noConfusion, fun _ => rfl⟩

theorem int64 : Codes ofInt64 int64? where
  plain n := .int n.toInt
  ne_null _ := Json.noConfusion
  decode_encode n := by
    have hlow := n.minValue_le_toInt
    have hhigh := n.toInt_le
    simp only [ofInt64, int64?, int?, Option.bind_eq_bind, Option.bind_some]
    rw [if_pos (by simp only [hlow, hhigh, decide_true, Bool.and_self]), Int64.ofInt_toInt]

theorem uint64 : Codes (fun n : UInt64 => ofNat n.toNat) uint64? where
  plain n := .int n.toNat
  ne_null _ := Json.noConfusion
  decode_encode n := by
    have hsize := n.toNat_lt_size
    simp only [ofNat, uint64?, int?, Option.bind_eq_bind, Option.bind_some]
    rw [if_pos (by simp [hsize]), Int.toNat_natCast, UInt64.ofNat_toNat]

theorem uint16 : Codes (fun n : UInt16 => ofNat n.toNat) uint16? where
  plain n := .int n.toNat
  ne_null _ := Json.noConfusion
  decode_encode n := by
    have hsize := n.toNat_lt_size
    simp only [ofNat, uint16?, int?, Option.bind_eq_bind, Option.bind_some]
    rw [if_pos (by simp [hsize]), Int.toNat_natCast, UInt16.ofNat_toNat]

theorem list (h : Codes encode decode) :
    Codes (fun as => arr (as.map encode)) (list? decode) where
  plain as := .arr fun v hv => by
    obtain ⟨a, -, rfl⟩ := List.mem_map.mp hv
    exact h.plain a
  ne_null _ := Json.noConfusion
  decode_encode as := by
    have hone : ∀ a ∈ as, (decode ∘ encode) a = some (id a) := fun a _ => h.decode_encode a
    rw [list?, List.mapM_map, mapM_eq_some_map hone, List.map_id]

/-! ### Fields of a record -/

theorem required (h : Codes encode decode) (a : α) :
    Json.required decode (some (encode a)) = some a := h.decode_encode a

theorem orElse (h : Codes encode decode) (fallback a : α) :
    Json.orElse fallback decode (some (encode a)) = some a := h.decode_encode a

/-- A field that may be absent. -/
theorem maybe (h : Codes encode decode) (a : Option α) :
    Json.maybe decode (a.map encode) = some a := by
  cases a with
  | none => rfl
  | some a =>
    rw [Option.map_some, Json.maybe, h.decode_encode, Option.map_some]
    exact h.ne_null a

/-- A field that may be absent and is written as `null` then. -/
theorem maybe_optional (h : Codes encode decode) (a : Option α) :
    Json.maybe decode (some (optional encode a)) = some a := by
  cases a with
  | none => rfl
  | some a => exact h.maybe (some a)

theorem orElse_nonempty (h : Codes encode decode) (as : List α) :
    Json.orElse [] (list? decode) (nonempty encode as) = some as := by
  cases as with
  | nil => rfl
  | cons a as => exact h.list.decode_encode (a :: as)

/-! ### Records -/

theorem plain_some (h : Codes encode decode) (a : α) : PlainGiven (some (encode a)) := by
  intro v hv
  obtain rfl := Option.some.inj hv
  exact h.plain a

theorem plain_map (h : Codes encode decode) (a : Option α) : PlainGiven (a.map encode) := by
  intro v hv
  obtain ⟨a, -, rfl⟩ := Option.map_eq_some_iff.mp hv
  exact h.plain a

theorem plain_optional (h : Codes encode decode) (a : Option α) :
    PlainGiven (some (optional encode a)) := by
  cases a with
  | none =>
    intro v hv
    obtain rfl := Option.some.inj hv
    exact .null
  | some a => exact h.plain_some a

theorem plain_nonempty (h : Codes encode decode) (as : List α) :
    PlainGiven (nonempty encode as) := by
  unfold nonempty
  split
  · nofun
  · exact h.list.plain_some as

/-- A record is given back if its fields are, which are written under names of their own in the
order in which they are read. -/
theorem record (fields : α → List (String × Option Json)) (names : List String)
    (hnodup : names.Nodup) (hnames : ∀ a, (fields a).map (·.1) = names)
    (hwrite : ∀ a, encode a = obj (given (fields a)))
    (hplain : ∀ a, ∀ field ∈ fields a, PlainGiven field.2)
    (hread : ∀ a v, v.fields? names = some ((fields a).map (·.2)) → decode v = some a) :
    Codes encode decode where
  plain a := by
    rw [hwrite]
    exact plain_given (hplain a)
  ne_null a := by
    rw [hwrite]
    exact Json.noConfusion
  decode_encode a := by
    rw [hwrite]
    refine hread a _ ?_
    rw [← hnames a]
    exact fields?_given (by rwa [hnames a])

end Codes

end FilterFleet.Json
