import FilterFleet.Cursor.SixBit
import FilterFleet.Failure
import FilterFleet.Text.Blank

/-! # Cursor ids

A cursor id is sixteen random bytes that a caller hands back to go on with a search.  Its text is
the six-bit writing of the bytes; who holds the text may use the cursor, so diagnostics show only
its beginning.
-/

namespace FilterFleet

/-- Sixteen bytes that name a cursor. -/
structure CursorId where
  bytes : List UInt8
  length_bytes : bytes.length = 16

namespace CursorId

instance : DecidableEq CursorId := fun a b =>
  if h : a.bytes = b.bytes then .isTrue (by cases a; cases b; simpa using h)
  else .isFalse fun e => h (by rw [e])

instance : Inhabited CursorId := ⟨⟨List.replicate 16 0, by simp⟩⟩

/-- The id with the given bytes, if there are sixteen. -/
def ofBytes? (bytes : List UInt8) : Option CursorId :=
  if h : bytes.length = 16 then some ⟨bytes, h⟩ else none

/-- The id whose bytes are the digits of `n` in base 256, most significant first. -/
def ofNat (n : Nat) : CursorId :=
  ⟨(List.range 16).map fun i => UInt8.ofNat (n / Nat.pow 256 (15 - i) % 256), by simp⟩

/-- The text of an id. -/
def text (id : CursorId) : String := String.ofList (SixBit.encode id.bytes)

/-- Two hexadecimal digits of a byte. -/
def hexByte (b : UInt8) : String :=
  String.ofList [Nat.digitChar (b.toNat / 16), Nat.digitChar (b.toNat % 16)]

/-- The form for diagnostics shows the first four bytes. -/
def debug (id : CursorId) : String :=
  "CursorId(" ++ String.join ((id.bytes.take 4).map hexByte) ++ "...)"

/-- Read an id from its text, without regard to surrounding blanks. -/
def parse (s : String) : Except InputError CursorId :=
  match SixBit.decode (Text.trim s).toUTF8.toList with
  | .error fault => .error (.decoding "base64 decode" fault.message)
  | .ok bytes =>
    match ofBytes? bytes with
    | some id => .ok id
    | none => .error (.length 16 bytes.length)

/-- An id is written as its text. -/
def toJson (id : CursorId) : Json := .str id.text

/-- An id is read from its text. -/
def ofJson? (v : Json) : Option CursorId := v.str?.bind fun s => (parse s).toOption

end CursorId

end FilterFleet
