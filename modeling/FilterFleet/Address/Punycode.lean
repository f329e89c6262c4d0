/-! # Labels beyond ASCII

A label of a host name that holds characters beyond ASCII is written in ASCII: first its ASCII
characters, then, as variable-length numbers in base 36, how the other characters are inserted.
They are inserted in the order of their codes, and each number is the distance from one insertion
to the next, where all places for a code count before the first place for the next code.
-/

namespace FilterFleet.Address.Punycode

/-! ## Numbers -/

/-- A digit in base 36: letters, then decimal digits. -/
def digit (d : Nat) : Char := if d < 26 then Char.ofNat (97 + d) else Char.ofNat (22 + d)

/-- The value of a digit in base 36; letters of either case are digits. -/
def digitValue? (c : Char) : Option Nat :=
  if c.isDigit then some (c.toNat - 22)
  else if c.isAlpha then some (c.toLower.toNat - 97)
  else none

/-- From which value on a digit at position `k` is not the last. -/
def threshold (k bias : Nat) : Nat := max 1 (min 26 (k - bias))

/-- A number in digits of which every one but the last reaches its threshold. -/
def digits (bias k q : Nat) : List Char :=
  let t := threshold k bias
  if q < t then [digit q]
  else digit (t + (q - t) % (36 - t)) :: digits bias (k + 36) ((q - t) / (36 - t))
termination_by q
decreasing_by
  have h : 1 ≤ threshold k bias := Nat.le_max_left ..
  exact Nat.lt_of_le_of_lt (Nat.div_le_self ..) (by omega)

/-- A number at the start of a text, and the characters behind it. -/
def number? (bias : Nat) : (k : Nat) → List Char → Option (Nat × List Char)
  | _, [] => none
  | k, c :: rest => do
    let d ← digitValue? c
    let t := threshold k bias
    if d < t then some (d, rest)
    else
      let (more, rest) ← number? bias (k + 36) rest
      some (d + (36 - t) * more, rest)

/-- How often a number has to be divided by 35 until it is small, and what it is then. -/
def shrink (n : Nat) : Nat × Nat :=
  if n ≤ 455 then (0, n)
  else
    let (times, small) := shrink (n / 35)
    (times + 1, small)
termination_by n
decreasing_by exact Nat.div_lt_self (by omega) (by omega)

/-- The bias for the number behind `delta`, when the label has `count` characters by then.  The
first number is expected to be much greater than those that follow. -/
def adapt (delta count : Nat) (first : Bool) : Nat :=
  let scaled := delta / (if first then 700 else 2)
  let (times, small) := shrink (scaled + scaled / count)
  36 * times + 36 * small / (small + 38)

/-- The bias for the first number. -/
def firstBias : Nat := 72

/-- The least code that is not ASCII. -/
def firstCode : Nat := 128

/-! ## Writing -/

/-- The characters beyond ASCII of a label in the order of insertion: the code, and the number of
characters that are there already and stand before it. -/
def insertions (label : List Char) : List (Nat × Nat) :=
  let wide := label.zipIdx.filter fun e => firstCode ≤ e.1.toNat
  (wide.mergeSort fun a b => a.1.toNat ≤ b.1.toNat).map fun e =>
    (e.1.toNat, ((label.take e.2).filter fun c => c.toNat ≤ e.1.toNat).length)

/-- The numbers of insertions into a label that has `count` characters, when those up to place `i`
for code `n` are done. -/
def numbers (first : Bool) (n i count bias : Nat) : List (Nat × Nat) → List Char
  | [] => []
  | (code, place) :: rest =>
    let delta := (code - n) * (count + 1) + place - i
    digits bias 36 delta ++
      numbers false code (place + 1) (count + 1) (adapt delta (count + 1) first) rest

/-- A label in ASCII, without the mark that says so. -/
def encode (label : List Char) : List Char :=
  let basic := label.filter fun c => c.toNat < firstCode
  (if basic.isEmpty then [] else basic ++ ['-']) ++
    numbers true firstCode 0 basic.length firstBias (insertions label)

/-! ## Reading -/

/-- The character of a code. -/
def charOf? (n : Nat) : Option Char :=
  if h : n.isValidChar then some (Char.ofNatAux n h) else none

/-- Insert the characters that numbers stand for into a label. -/
def insertAll? : (fuel : Nat) → (first : Bool) → (n i bias : Nat) → (label : List Char) →
    List Char → Option (List Char)
  | _, _, _, _, _, label, [] => some label
  | 0, _, _, _, _, _, _ => none
  | fuel + 1, first, n, i, bias, label, cs => do
    let (delta, rest) ← number? bias 36 cs
    let count := label.length + 1
    let code := n + (i + delta) / count
    let place := (i + delta) % count
    let c ← charOf? code
    insertAll? fuel false code (place + 1) (adapt delta count first)
      (label.take place ++ c :: label.drop place) rest

/-- The label that a text without its mark stands for. -/
def decode? (cs : List Char) : Option (List Char) :=
  let basic := (cs.reverse.dropWhile (· != '-')).drop 1 |>.reverse
  let rest := (cs.reverse.takeWhile (· != '-')).reverse
  insertAll? cs.length true firstCode 0 firstBias basic rest

end FilterFleet.Address.Punycode
