import FilterFleet.Json.Token
import FilterFleet.Text.Utf8

/-! # Reading JSON texts

The reader takes one token at a time.  It keeps the containers that are open, innermost first, and
which token may come next.
-/

namespace FilterFleet.Json

/-- An open container: the items or members read so far, latest first.  A member whose name is
broken has none. -/
inductive Frame where
  | array (items : List Json)
  | object (members : List (String × Json)) (sound : Bool)
  | member (members : List (String × Json)) (sound : Bool) (name : Option String)

/-- What may come next. -/
inductive Expect where
  /-- A value. -/
  | value
  /-- A value, or the end of an array just opened. -/
  | firstItem
  /-- A name, or the end of an object just opened. -/
  | firstName
  /-- A name. -/
  | name
  /-- The colon after a name. -/
  | colon
  /-- A comma or the end of the container. -/
  | more
  /-- Nothing: the value is complete. -/
  | done (result : Json)

/-- The open containers, innermost first, and what may come next. -/
structure Reading where
  frames : List Frame
  expect : Expect

namespace Reading

/-- Nothing read yet. -/
def start : Reading := ⟨[], .value⟩

/-- Put a complete value where a value was expected. -/
def put (frames : List Frame) (v : Json) : Option Reading :=
  match frames with
  | [] => some ⟨[], .done v⟩
  | .array items :: rest => some ⟨.array (v :: items) :: rest, .more⟩
  | .member members sound (some name) :: rest =>
    some ⟨.object ((name, v) :: members) sound :: rest, .more⟩
  | .member members _ none :: rest => some ⟨.object members false :: rest, .more⟩
  | .object _ _ :: _ => none

/-- The value of a closed object. -/
def closed (members : List (String × Json)) (sound : Bool) : Json :=
  if sound then obj members.reverse else broken

/-- Start a value. -/
def open? (frames : List Frame) : Token → Option Reading
  | .atom v => put frames v
  | .openArray => some ⟨.array [] :: frames, .firstItem⟩
  | .openObject => some ⟨.object [] true :: frames, .firstName⟩
  | _ => none

/-- Take the name of a member. -/
def name? (frames : List Frame) : Token → Option Reading
  | .atom v =>
    match frames, v with
    | .object members sound :: rest, .str name =>
      some ⟨.member members sound (some name) :: rest, .colon⟩
    | .object members sound :: rest, .broken => some ⟨.member members sound none :: rest, .colon⟩
    | _, _ => none
  | _ => none

/-- Read one token. -/
def feed (r : Reading) (t : Token) : Option Reading :=
  match r.expect with
  | .value => open? r.frames t
  | .firstItem =>
    match t, r.frames with
    | .closeArray, .array items :: rest => put rest (arr items.reverse)
    | t, frames => open? frames t
  | .firstName =>
    match t, r.frames with
    | .closeObject, .object members sound :: rest => put rest (closed members sound)
    | t, frames => name? frames t
  | .name => name? r.frames t
  | .colon =>
    match t with
    | .colon => some ⟨r.frames, .value⟩
    | _ => none
  | .more =>
    match t, r.frames with
    | .comma, .array items :: rest => some ⟨.array items :: rest, .value⟩
    | .comma, .object members sound :: rest => some ⟨.object members sound :: rest, .name⟩
    | .closeArray, .array items :: rest => put rest (arr items.reverse)
    | .closeObject, .object members sound :: rest => put rest (closed members sound)
    | _, _ => none
  | .done _ => none

/-- The value read, once it is complete. -/
def result? (r : Reading) : Option Json :=
  match r.expect with
  | .done v => some v
  | _ => none

end Reading

/-- The value of a list of tokens. -/
def ofTokens? (ts : List Token) : Option Json :=
  (ts.foldlM Reading.feed Reading.start).bind Reading.result?

/-- The value of a JSON text. -/
def ofText? (s : String) : Option Json := (tokens? s.toList).bind ofTokens?

/-- The value of a JSON text in bytes.  Bytes that are not UTF-8 can stand only in strings, and leave
them broken. -/
def ofBytes? (bytes : List UInt8) : Option Json :=
  (unitTokens? (Text.readUnits none bytes)).bind ofTokens?

end FilterFleet.Json
