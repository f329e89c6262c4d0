import FilterFleet.Text.Hex

/-! # Percent encoding

A byte that may not stand in a part of an address is written as a percent sign and two hexadecimal
digits.  Which characters are encoded depends on the part; characters beyond ASCII always are, byte
by byte of their UTF-8 form.
-/

namespace FilterFleet.Address

/-- An upper-case hexadecimal digit. -/
def upperHex (n : Nat) : Char := if n < 10 then Char.ofNat (48 + n) else Char.ofNat (55 + n)

/-- A byte as a percent sign and two digits. -/
def percentByte (b : UInt8) : List Char := ['%', upperHex (b.toNat / 16), upperHex (b.toNat % 16)]

/-- Encode the characters of a text that are in `set`, and all that are not ASCII. -/
def percentEncode (set : Char → Bool) (cs : List Char) : List Char :=
  cs.flatMap fun c =>
    if set c || 0x7f ≤ c.toNat then (String.singleton c).toUTF8.toList.flatMap percentByte else [c]

/-- Characters that no part of an address may hold. -/
def controlSet (c : Char) : Bool := c.toNat < 0x20 || c.toNat == 0x7f

/-- What is encoded in a fragment. -/
def fragmentSet (c : Char) : Bool := controlSet c || [' ', '"', '<', '>', '\x60'].contains c

/-- What is encoded in a query. -/
def querySet (c : Char) : Bool := controlSet c || [' ', '"', '#', '<', '>', '\''].contains c

/-- What is encoded in a path that is given with its slashes. -/
def pathSet (c : Char) : Bool := fragmentSet c || ['#', '?', '\x7b', '\x7d'].contains c

/-- What is encoded in a single segment of a path. -/
def segmentSet (c : Char) : Bool := pathSet c || ['/', '%', '\\'].contains c

/-- The bytes of a text with percent-encoded bytes decoded; a percent sign without two digits
stands for itself. -/
def percentDecode : List Char → List UInt8
  | [] => []
  | '%' :: a :: b :: rest =>
    match hexValue? a, hexValue? b with
    | some x, some y => UInt8.ofNat (16 * x + y) :: percentDecode rest
    | _, _ => 37 :: percentDecode (a :: b :: rest)
  | c :: rest => (String.singleton c).toUTF8.toList ++ percentDecode rest
termination_by cs => cs.length

/-- A name or a value in a query of key and value pairs. -/
def formEncode (s : String) : List Char :=
  s.toUTF8.toList.flatMap fun b =>
    let c := Char.ofNat b.toNat
    if b == 32 then ['+']
    else if c.isAlphanum && b < 128 || ['*', '-', '.', '_'].contains c then [c]
    else percentByte b

/-- Key and value pairs as a query. -/
def formPairs (pairs : List (String × String)) : List Char :=
  ['&'].intercalate (pairs.map fun p => formEncode p.1 ++ '=' :: formEncode p.2)

end FilterFleet.Address
