/-! # Bytes read as UTF-8

A byte sequence that need not be valid UTF-8 is read in units: its characters, and one unit without
a character for each maximal prefix of a well-formed sequence that is not completed and for each
byte that starts none.  In a text these units stand as replacement characters U+FFFD.
-/

namespace FilterFleet.Text

/-- The range that the second byte of a sequence starting with `b` must lie in. -/
def secondRange (b : UInt8) : UInt8 × UInt8 :=
  if b == 0xe0 then (0xa0, 0xbf)
  else if b == 0xed then (0x80, 0x9f)
  else if b == 0xf0 then (0x90, 0xbf)
  else if b == 0xf4 then (0x80, 0x8f)
  else (0x80, 0xbf)

/-- The number of bytes of a sequence that starts with `b`; zero if none does. -/
def sequenceLength (b : UInt8) : Nat :=
  if b < 0x80 then 1
  else if 0xc2 ≤ b && b ≤ 0xdf then 2
  else if 0xe0 ≤ b && b ≤ 0xef then 3
  else if 0xf0 ≤ b && b ≤ 0xf4 then 4
  else 0

/-- A sequence under way: the value so far, the bytes still missing, and the range of the next. -/
structure Utf8Pending where
  value : Nat
  missing : Nat
  range : UInt8 × UInt8
deriving Repr, DecidableEq

/-- Start a sequence with `b`: the unit it completes and the sequence it opens. -/
def Utf8Pending.start (b : UInt8) : List (Option Char) × Option Utf8Pending :=
  match sequenceLength b with
  | 0 => ([none], none)
  | 1 => ([some (Char.ofNat b.toNat)], none)
  | 2 => ([], some ⟨b.toNat % 32, 1, secondRange b⟩)
  | 3 => ([], some ⟨b.toNat % 16, 2, secondRange b⟩)
  | _ => ([], some ⟨b.toNat % 8, 3, secondRange b⟩)

/-- Read bytes as UTF-8, given the sequence under way. -/
def readUnits : Option Utf8Pending → List UInt8 → List (Option Char)
  | none, [] => []
  | some _, [] => [none]
  | none, b :: rest =>
    let (done, next) := Utf8Pending.start b
    done ++ readUnits next rest
  | some p, b :: rest =>
    if p.range.1 ≤ b && b ≤ p.range.2 then
      let value := p.value * 64 + b.toNat % 64
      if p.missing ≤ 1 then some (Char.ofNat value) :: readUnits none rest
      else readUnits (some ⟨value, p.missing - 1, (0x80, 0xbf)⟩) rest
    else
      let (done, next) := Utf8Pending.start b
      none :: (done ++ readUnits next rest)

/-- The text that a byte sequence stands for, with replacement characters where it is not UTF-8. -/
def lossyText (bytes : List UInt8) : String :=
  String.ofList ((readUnits none bytes).map (·.getD '\ufffd'))

end FilterFleet.Text
