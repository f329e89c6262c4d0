/-! # Bytes in an alphabet of sixty-four letters

Three bytes are written as four symbols of six bits each, in the alphabet that needs no escape in an
address, and without padding.  Reading refuses padding, letters outside the alphabet and unused bits
that are not zero, and says which fault it met.
-/

namespace FilterFleet.SixBit

/-! ## The alphabet -/

/-- The symbols in the order of their values. -/
def alphabet : List Char :=
  ['A', 'B', 'C', 'D', 'E', 'F', 'G', 'H', 'I', 'J', 'K', 'L', 'M', 'N', 'O', 'P',
    'Q', 'R', 'S', 'T', 'U', 'V', 'W', 'X', 'Y', 'Z', 'a', 'b', 'c', 'd', 'e', 'f',
    'g', 'h', 'i', 'j', 'k', 'l', 'm', 'n', 'o', 'p', 'q', 'r', 's', 't', 'u', 'v',
    'w', 'x', 'y', 'z', '0', '1', '2', '3', '4', '5', '6', '7', '8', '9', '-', '_']

/-- The symbol of a value below sixty-four. -/
def symbol (n : Nat) : Char := alphabet.getD n 'A'

/-- The value of a symbol, given as a byte. -/
def value? (b : UInt8) : Option Nat :=
  let n := b.toNat
  if 65 ≤ n && n ≤ 90 then some (n - 65)
  else if 97 ≤ n && n ≤ 122 then some (n - 71)
  else if 48 ≤ n && n ≤ 57 then some (n + 4)
  else if n == 45 then some 62
  else if n == 95 then some 63
  else none

/-! ## Writing -/

/-- The symbols of a byte sequence. -/
def encode : List UInt8 → List Char
  | [] => []
  | [a] => [symbol (a.toNat / 4), symbol (a.toNat % 4 * 16)]
  | [a, b] =>
    [symbol (a.toNat / 4), symbol (a.toNat % 4 * 16 + b.toNat / 16), symbol (b.toNat % 16 * 4)]
  | a :: b :: c :: rest =>
    symbol (a.toNat / 4) :: symbol (a.toNat % 4 * 16 + b.toNat / 16) ::
      symbol (b.toNat % 16 * 4 + c.toNat / 64) :: symbol (c.toNat % 64) :: encode rest

/-! ## Reading -/

/-- Why a text is not the writing of bytes. -/
inductive Fault where
  /-- A byte at an offset cannot stand there. -/
  | byte (b : UInt8) (offset : Nat)
  /-- One symbol is left over, which holds less than a byte. -/
  | remainder
  /-- The text is padded. -/
  | padding
  /-- The last symbol has bits that no byte uses. -/
  | lastSymbol (b : UInt8) (offset : Nat)
deriving DecidableEq, Repr

/-- The wording of a fault. -/
def Fault.message : Fault → String
  | byte b offset => "Invalid byte " ++ toString b.toNat ++ ", offset " ++ toString offset ++ "."
  | remainder => "Encoded text cannot have a 6-bit remainder."
  | padding => "Invalid padding"
  | lastSymbol b offset =>
    "Invalid last symbol " ++ toString b.toNat ++ ", offset " ++ toString offset ++ "."

/-- The padding letter `=`. -/
def padByte : UInt8 := 61

/-- The fault of the first byte outside the alphabet.  Padding to the end that stands only in the
last two places of a group of four is a fault of padding; all other padding counts as a byte out of
place. -/
def outside? (bytes : List UInt8) : Option Fault :=
  let offset := (bytes.takeWhile fun b => (value? b).isSome).length
  match bytes.dropWhile fun b => (value? b).isSome with
  | [] => none
  | b :: rest =>
    if b == padByte && rest.all (· == padByte) &&
        (List.range (rest.length + 1)).all (fun k => 2 ≤ (offset + k) % 4) then
      some .padding
    else some (.byte b offset)

/-- The bytes of six-bit values in groups of four; an incomplete last group must leave no bit
over. -/
def join? : List Nat → Option (List UInt8)
  | [] => some []
  | [_] => none
  | [p, q] => if q % 16 == 0 then some [UInt8.ofNat (p * 4 + q / 16)] else none
  | [p, q, r] =>
    if r % 4 == 0 then
      some [UInt8.ofNat (p * 4 + q / 16), UInt8.ofNat (q % 16 * 16 + r / 4)]
    else none
  | p :: q :: r :: s :: rest =>
    (join? rest).map fun bytes =>
      UInt8.ofNat (p * 4 + q / 16) :: UInt8.ofNat (q % 16 * 16 + r / 4) ::
        UInt8.ofNat (r % 4 * 64 + s) :: bytes

/-- The bytes that a text stands for, or its first fault. -/
def decode (bytes : List UInt8) : Except Fault (List UInt8) :=
  let last := bytes.getLastD 0
  if bytes.length % 4 == 1 then
    if (value? last).isNone && last != padByte then .error (.byte last (bytes.length - 1))
    else .error .remainder
  else
    match outside? bytes with
    | some fault => .error fault
    | none =>
      match join? (bytes.filterMap value?) with
      | some out => .ok out
      | none => .error (.lastSymbol last (bytes.length - 1))

end FilterFleet.SixBit
