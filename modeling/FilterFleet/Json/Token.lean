import FilterFleet.Json.Value
import FilterFleet.Text.Hex

/-! # Tokens of a JSON text

The scanner reads one character at a time, so that a text is a fold over its characters.  It keeps
the tokens found, latest first, and what it is inside of: a word, a number, a string or an escape.
A text in bytes may have units without a character, which it skips in strings.
-/

namespace FilterFleet.Json

open Decimal

/-- A token: a bracket, a separator, or a value without parts. -/
inductive Token where
  | openObject
  | closeObject
  | openArray
  | closeArray
  | colon
  | comma
  | atom (value : Json)
deriving Inhabited

/-! ## Numbers -/

/-- The value of a run of digits. -/
def digitsValue (ds : List Char) : Nat := ds.foldl (fun n d => 10 * n + digitValue d) 0

/-- A power of ten: an optional sign and at least one digit. -/
def exponent? : List Char → Option Int
  | '+' :: ds => if ds.isEmpty || !ds.all Char.isDigit then none else some (digitsValue ds)
  | '-' :: ds => if ds.isEmpty || !ds.all Char.isDigit then none else some (-digitsValue ds)
  | ds => if ds.isEmpty || !ds.all Char.isDigit then none else some (digitsValue ds)

/-- The power of ten that ends a number: nothing, or a mark and a power. -/
def ending? : List Char → Option (Option Int)
  | [] => some none
  | c :: rest => if c == 'e' || c == 'E' then (exponent? rest).map some else none

/-- A number, given its sign and what follows it.  Only zero itself starts with a zero, and a
point is followed by a digit.  A number without point, power and minus before zero is whole. -/
def unsigned? (negative : Bool) (cs : List Char) : Option Json :=
  let whole := cs.takeWhile Char.isDigit
  let rest := cs.dropWhile Char.isDigit
  if whole.isEmpty || (whole.head? == some '0' && whole.length != 1) then none
  else
    match rest with
    | [] =>
      let n := digitsValue whole
      if negative && n == 0 then some (real ⟨true, whole, [], none⟩)
      else some (int (if negative then -n else n))
    | '.' :: rest =>
      let fraction := rest.takeWhile Char.isDigit
      if fraction.isEmpty then none
      else
        (ending? (rest.dropWhile Char.isDigit)).map fun e => real ⟨negative, whole, fraction, e⟩
    | rest => (ending? rest).map fun e => real ⟨negative, whole, [], e⟩

/-- The number that a run of number characters stands for. -/
def number? : List Char → Option Json
  | '-' :: cs => unsigned? true cs
  | cs => unsigned? false cs

/-! ## Strings -/

/-- A string under way: its characters, latest first, whether it is sound so far, and the first
half of a surrogate pair that waits for the second. -/
structure Quote where
  chars : List Char
  sound : Bool
  high : Option Nat
deriving Repr, DecidableEq

namespace Quote

/-- A string without characters. -/
def empty : Quote := ⟨[], true, none⟩

/-- Append a character. -/
def push (q : Quote) (c : Char) : Quote := ⟨c :: q.chars, q.sound && q.high.isNone, none⟩

/-- Append a 16-bit unit written as an escape.  A first half must be followed by a second. -/
def pushUnit (q : Quote) (unit : Nat) : Quote :=
  if 0xd800 ≤ unit && unit < 0xdc00 then ⟨q.chars, q.sound && q.high.isNone, some unit⟩
  else if 0xdc00 ≤ unit && unit < 0xe000 then
    match q.high with
    | some high =>
      ⟨Char.ofNat (0x10000 + (high - 0xd800) * 0x400 + (unit - 0xdc00)) :: q.chars, q.sound, none⟩
    | none => ⟨q.chars, false, none⟩
  else q.push (Char.ofNat unit)

/-- Skip a unit that is no character; the string is not sound then. -/
def skip (q : Quote) : Quote := ⟨q.chars, false, none⟩

/-- The value of a finished string. -/
def value (q : Quote) : Json :=
  if q.sound && q.high.isNone then str (String.ofList q.chars.reverse) else broken

end Quote

/-- The character that an escape of one letter stands for. -/
def escaped? (c : Char) : Option Char :=
  if c == '"' then some '"'
  else if c == '\\' then some '\\'
  else if c == '/' then some '/'
  else if c == 'b' then some '\x08'
  else if c == 'f' then some '\x0c'
  else if c == 'n' then some '\n'
  else if c == 'r' then some '\r'
  else if c == 't' then some '\t'
  else none

/-! ## The scanner -/

/-- What the scanner is inside of. -/
inductive Inside where
  | nothing
  | word (letters : List Char)
  | number (chars : List Char)
  | text (quote : Quote)
  | escape (quote : Quote)
  | unit (quote : Quote) (missing : Nat) (value : Nat)

/-- The tokens found, latest first, and what the scanner is inside of. -/
structure Scan where
  found : List Token
  inside : Inside

namespace Scan

/-- Nothing read yet. -/
def start : Scan := ⟨[], .nothing⟩

/-- The token of a word. -/
def word? (letters : List Char) : Option Token :=
  if letters == ['n', 'u', 'l', 'l'] then some (.atom null)
  else if letters == ['t', 'r', 'u', 'e'] then some (.atom (bool true))
  else if letters == ['f', 'a', 'l', 's', 'e'] then some (.atom (bool false))
  else none

/-- Read a character outside of words, numbers and strings. -/
def between (found : List Token) (c : Char) : Option Scan :=
  if c == ' ' || c == '\n' || c == '\t' || c == '\r' then some ⟨found, .nothing⟩
  else if c == '\x7b' then some ⟨.openObject :: found, .nothing⟩
  else if c == '\x7d' then some ⟨.closeObject :: found, .nothing⟩
  else if c == '[' then some ⟨.openArray :: found, .nothing⟩
  else if c == ']' then some ⟨.closeArray :: found, .nothing⟩
  else if c == ':' then some ⟨.colon :: found, .nothing⟩
  else if c == ',' then some ⟨.comma :: found, .nothing⟩
  else if c == '"' then some ⟨found, .text Quote.empty⟩
  else if c == '-' || c.isDigit then some ⟨found, .number [c]⟩
  else if 'a' ≤ c && c ≤ 'z' then some ⟨found, .word [c]⟩
  else none

/-- Whether `c` can stand in a number. -/
def isNumberChar (c : Char) : Bool :=
  c.isDigit || c == '.' || c == 'e' || c == 'E' || c == '+' || c == '-'

/-- Read one character. -/
def feed (s : Scan) (c : Char) : Option Scan :=
  match s.inside with
  | .nothing => between s.found c
  | .word letters =>
    if 'a' ≤ c && c ≤ 'z' then some ⟨s.found, .word (c :: letters)⟩
    else (word? letters.reverse).bind fun t => between (t :: s.found) c
  | .number chars =>
    if isNumberChar c then some ⟨s.found, .number (c :: chars)⟩
    else (number? chars.reverse).bind fun v => between (.atom v :: s.found) c
  | .text quote =>
    if c == '"' then some ⟨.atom quote.value :: s.found, .nothing⟩
    else if c == '\\' then some ⟨s.found, .escape quote⟩
    else if c.toNat < 0x20 then none
    else some ⟨s.found, .text (quote.push c)⟩
  | .escape quote =>
    if c == 'u' then some ⟨s.found, .unit quote 4 0⟩
    else (escaped? c).map fun d => ⟨s.found, .text (quote.push d)⟩
  | .unit quote missing value =>
    (hexValue? c).map fun d =>
      let value := 16 * value + d
      if missing ≤ 1 then ⟨s.found, .text (quote.pushUnit value)⟩
      else ⟨s.found, .unit quote (missing - 1) value⟩

/-- Read one unit of a text in bytes; one that is no character can stand only in a string. -/
def feedUnit (s : Scan) : Option Char → Option Scan
  | some c => s.feed c
  | none =>
    match s.inside with
    | .text quote => some ⟨s.found, .text quote.skip⟩
    | _ => none

/-- The tokens of a text that ends here. -/
def finish? (s : Scan) : Option (List Token) :=
  match s.inside with
  | .nothing => some s.found.reverse
  | .word letters => (word? letters.reverse).map fun t => (t :: s.found).reverse
  | .number chars => (number? chars.reverse).map fun v => (.atom v :: s.found).reverse
  | _ => none

end Scan

/-- The tokens of a JSON text. -/
def tokens? (cs : List Char) : Option (List Token) :=
  (cs.foldlM Scan.feed Scan.start).bind Scan.finish?

/-- The tokens of a JSON text in bytes, given by its units. -/
def unitTokens? (units : List (Option Char)) : Option (List Token) :=
  (units.foldlM Scan.feedUnit Scan.start).bind Scan.finish?

end FilterFleet.Json
