import FilterFleet.Address.Percent
import FilterFleet.Address.Punycode
import FilterFleet.Text.Blank
import FilterFleet.Text.Split

/-! # Hosts

The host of an address is a name, an address in four numbers, or an address in eight in brackets.
Each has one normal form: names are lower-case and in ASCII, numbers have no leading zeros, and the
longest run of zeros in brackets is left out.
-/

namespace FilterFleet.Address

/-- Why an address cannot be used. -/
inductive AddressFault where
  | emptyHost
  | badName
  | badPort
  | badFourNumbers
  | badEightNumbers
deriving DecidableEq, Repr

/-- The wording of a fault. -/
def AddressFault.message : AddressFault → String
  | emptyHost => "empty host"
  | badName => "invalid international domain name"
  | badPort => "invalid port number"
  | badFourNumbers => "invalid IPv4 address"
  | badEightNumbers => "invalid IPv6 address"

/-! ## Names -/

/-- The lower-case form of a letter in the alphabets of Europe, and the plain form of a full-width
character. -/
def lowerLetter (c : Char) : Char :=
  let n := c.toNat
  if c.isUpper then c.toLower
  else if 0xc0 ≤ n && n ≤ 0xde && n != 0xd7 then Char.ofNat (n + 32)
  else if (0x100 ≤ n && n ≤ 0x137) || (0x14a ≤ n && n ≤ 0x177) then Char.ofNat (n + (n + 1) % 2)
  else if (0x139 ≤ n && n ≤ 0x148) || (0x179 ≤ n && n ≤ 0x17e) then Char.ofNat (n + n % 2)
  else if n == 0x178 then 'ÿ'
  else if 0x391 ≤ n && n ≤ 0x3ab then Char.ofNat (n + 32)
  else if 0x410 ≤ n && n ≤ 0x42f then Char.ofNat (n + 32)
  else if 0x400 ≤ n && n ≤ 0x40f then Char.ofNat (n + 80)
  else if 0xff01 ≤ n && n ≤ 0xff5e then (Char.ofNat (n - 0xfee0)).toLower
  else c

/-- What a character of a name stands for: letters in lower case, a dot for each kind of full stop,
plain characters for variants of them. -/
def plain (c : Char) : List Char :=
  match c with
  | '\u0130' => ['i', '\u0307']
  | '\u0132' => ['i', 'j']
  | '\u0133' => ['i', 'j']
  | '\u017f' => ['s']
  | '\u00aa' => ['a']
  | '\u00ba' => ['o']
  | '\u00b2' => ['2']
  | '\u00b3' => ['3']
  | '\u00b9' => ['1']
  | '\u00b5' => ['\u03bc']
  | '\u3002' => ['.']
  | '\uff0e' => ['.']
  | '\uff61' => ['.']
  | c => if Text.isBlank c then [' '] else [lowerLetter c]

/-- Characters that are dropped from names: they only say how their neighbours are shown. -/
def isIgnored (c : Char) : Bool :=
  ['\u00ad', '\u034f', '\u200b', '\u2060', '\u2064', '\ufeff', '\u180b', '\u180c', '\u180d',
    '\u180f'].contains c ||
    (0xfe00 ≤ c.toNat && c.toNat ≤ 0xfe0f)

/-- Characters that no name holds. -/
def isForbidden (c : Char) : Bool :=
  let n := c.toNat
  n ≤ 0x20 || (0x7f ≤ n && n ≤ 0x9f) ||
    ['#', '%', '/', ':', '<', '>', '?', '@', '[', '\\', ']', '^', '|'].contains c ||
    n == 0x200e || n == 0x200f || (0x202a ≤ n && n ≤ 0x202e) || (0x2066 ≤ n && n ≤ 0x206f) ||
    (0xe000 ≤ n && n ≤ 0xf8ff) || (0xfff9 ≤ n && n ≤ 0xfffd) || 0xfffe ≤ n % 0x10000 ||
    0xe0000 ≤ n

/-- The mark of a label that stands for characters beyond ASCII. -/
def asciiMark : List Char := ['x', 'n', '-', '-']

/-- Whether a label with the mark stands for a label that is written with it. -/
def isSoundLabel (encoded : List Char) : Bool :=
  match Punycode.decode? encoded with
  | none => false
  | some label =>
    label.any (128 ≤ ·.toNat) && Punycode.encode label == encoded &&
      label.all fun c => plain c == [c] && !isIgnored c && !isForbidden c

/-- A label of a name in ASCII. -/
def asciiLabel? (label : List Char) : Option (List Char) :=
  if label.any (128 ≤ ·.toNat) then
    if asciiMark.isPrefixOf label then none else some (asciiMark ++ Punycode.encode label)
  else if asciiMark.isPrefixOf label && !isSoundLabel (label.drop asciiMark.length) then none
  else some label

/-- The normal form of a name. -/
def name? (cs : List Char) : Option (List Char) := do
  let text ← String.fromUTF8? ⟨(percentDecode cs).toArray⟩
  let lower := (text.toList.filter (!isIgnored ·)).flatMap plain
  if lower.any isForbidden then none
  else
    let labels ← (Text.splitAt '.' lower).mapM asciiLabel?
    some (['.'].intercalate labels)

/-! ## Four numbers -/

/-- The value of digits in a base. -/
def digitsValue? (base : Nat) : List Char → Option Nat
  | [] => some 0
  | cs => cs.foldlM (fun n c => do
      let d ← hexValue? c
      if d < base then some (n * base + d) else none) 0

/-- A number of an address: hexadecimal after `0x`, octal after `0`, else decimal. -/
def number? : List Char → Option Nat
  | [] => none
  | '0' :: 'x' :: rest => digitsValue? 16 rest
  | '0' :: 'X' :: rest => digitsValue? 16 rest
  | '0' :: c :: rest => digitsValue? 8 (c :: rest)
  | cs => digitsValue? 10 cs

/-- The last part of a name; an empty part at its end does not count. -/
def lastPart (parts : List (List Char)) : List Char :=
  match parts.reverse with
  | [] :: part :: _ => part
  | part :: _ => part
  | [] => []

/-- Whether a name has to be read as an address in numbers. -/
def endsInNumber (parts : List (List Char)) : Bool :=
  let last := lastPart parts
  (!last.isEmpty && last.all Char.isDigit) || (number? last).isSome

/-- The value of an address of at most four numbers, of which the last fills what the others
leave. -/
def fourNumbers? (parts : List (List Char)) : Option Nat := do
  let parts := if parts.length > 1 && parts.getLast? == some [] then parts.dropLast else parts
  if 4 < parts.length then none
  else
    let numbers ← parts.mapM number?
    let last ← numbers.getLast?
    let others := numbers.dropLast
    if Nat.pow 256 (4 - others.length) ≤ last || others.any (255 < ·) then none
    else some (others.zipIdx.foldl (fun v p => v + p.1 * Nat.pow 256 (3 - p.2)) last)

/-- An address in four decimal numbers. -/
def fourText (n : Nat) : List Char :=
  ['.'].intercalate ([3, 2, 1, 0].map fun i => Nat.toDigits 10 (n / Nat.pow 256 i % 256))

/-! ## Eight numbers -/

/-- A group of up to four hexadecimal digits. -/
def group? (cs : List Char) : Option Nat :=
  if cs.isEmpty || 4 < cs.length then none else digitsValue? 16 cs

/-- A decimal number of an address at the end of groups, without leading zeros. -/
def plainByte? (cs : List Char) : Option Nat := do
  if cs.isEmpty || !cs.all Char.isDigit || (1 < cs.length && cs.head? == some '0') then none
  else
    let n ← digitsValue? 10 cs
    if n < 256 then some n else none

/-- The groups of a list of parts; the last part may be an address in four decimal numbers. -/
def groups? (parts : List (List Char)) : Option (List Nat) :=
  match parts.reverse with
  | [] => some []
  | last :: before =>
    if last.contains '.' then do
      match ← (Text.splitAt '.' last).mapM plainByte? with
      | [a, b, c, d] =>
        let groups ← before.reverse.mapM group?
        some (groups ++ [256 * a + b, 256 * c + d])
      | _ => none
    else parts.mapM group?

/-- The parts between colons; there is none in an empty text. -/
def colonParts (cs : List Char) : List (List Char) :=
  if cs.isEmpty then [] else Text.splitAt ':' cs

/-- What stands before and after the first pair of colons. -/
def splitPair? : List Char → Option (List Char × List Char)
  | ':' :: ':' :: rest => some ([], rest)
  | c :: rest => (splitPair? rest).map fun p => (c :: p.1, p.2)
  | [] => none

/-- The eight groups of an address in brackets. -/
def eightNumbers? (cs : List Char) : Option (List Nat) :=
  match splitPair? cs with
  | none => do
    let groups ← groups? (colonParts cs)
    if groups.length = 8 then some groups else none
  | some (before, after) => do
    let first ← (colonParts before).mapM group?
    let second ← groups? (colonParts after)
    if first.length + second.length ≤ 7 then
      some (first ++ List.replicate (8 - first.length - second.length) 0 ++ second)
    else none

/-- The length of the run of zeros at the start of a list. -/
def zeroRun (groups : List Nat) : Nat := (groups.takeWhile (· == 0)).length

/-- The first of the longest runs of at least two zeros: where it starts and how long it is. -/
def longestRun? (groups : List Nat) : Option (Nat × Nat) :=
  ((List.range groups.length).map fun i => (i, zeroRun (groups.drop i))).foldl
    (fun best run =>
      if run.2 < 2 then best
      else
        match best with
        | none => some run
        | some b => if b.2 < run.2 then some run else best)
    none

/-- Groups with colons between them. -/
def groupsText (groups : List Nat) : List Char :=
  [':'].intercalate (groups.map (Nat.toDigits 16))

/-- An address in eight numbers, with the longest run of zeros left out. -/
def eightText (groups : List Nat) : List Char :=
  match longestRun? groups with
  | none => groupsText groups
  | some (i, n) => groupsText (groups.take i) ++ ':' :: ':' :: groupsText (groups.drop (i + n))

/-! ## Hosts -/

/-- The normal form of a host. -/
def normalHost (cs : List Char) : Except AddressFault (List Char) :=
  match cs with
  | '[' :: rest =>
    match rest.getLast?, eightNumbers? rest.dropLast with
    | some ']', some groups => .ok ('[' :: (eightText groups ++ [']']))
    | _, _ => .error .badEightNumbers
  | _ =>
    match name? cs with
    | none => .error .badName
    | some [] => .error .emptyHost
    | some name =>
      let parts := Text.splitAt '.' name
      if endsInNumber parts then
        match fourNumbers? parts with
        | some n => .ok (fourText n)
        | none => .error .badFourNumbers
      else .ok name

end FilterFleet.Address
