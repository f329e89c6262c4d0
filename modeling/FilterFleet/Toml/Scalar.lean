import FilterFleet.Toml.Value

/-! # TOML texts, numbers and dates

Readers of the values without parts.  A reader takes the characters from where a value starts and
returns the value with the characters behind it.
-/

namespace FilterFleet.Toml

/-- A reader: the value read and the characters behind it, unless there is no such value. -/
abbrev Reader (α : Type) := List Char → Option (α × List Char)

/-! ## Character classes -/

/-- A blank inside a line. -/
def isGap (c : Char) : Bool := c == ' ' || c == '\t'

/-- Remove the blanks in front. -/
def skipGaps (cs : List Char) : List Char := cs.dropWhile isGap

/-- A line end, and the characters behind it. -/
def newline? : List Char → Option (List Char)
  | '\n' :: rest => some rest
  | '\r' :: '\n' :: rest => some rest
  | _ => none

/-- A character beyond ASCII. -/
def isWide (c : Char) : Bool := 0x80 ≤ c.toNat

/-- A character that a text in double quotes may hold as it is. -/
def isBasicChar (c : Char) : Bool :=
  c == '\t' || (0x20 ≤ c.toNat && c.toNat ≤ 0x7e && c != '"' && c != '\\') || isWide c

/-- A character that a text in single quotes may hold. -/
def isLiteralChar (c : Char) : Bool :=
  c == '\t' || (0x20 ≤ c.toNat && c.toNat ≤ 0x7e && c != '\'') || isWide c

/-- A character that a comment may hold. -/
def isCommentChar (c : Char) : Bool := c == '\t' || (0x20 ≤ c.toNat && c.toNat ≤ 0x7e) || isWide c

/-! ## Texts -/

/-- The value of a hexadecimal digit. -/
def hexDigit? (c : Char) : Option Nat :=
  if '0' ≤ c && c ≤ '9' then some (c.toNat - '0'.toNat)
  else if 'a' ≤ c && c ≤ 'f' then some (c.toNat - 'a'.toNat + 10)
  else if 'A' ≤ c && c ≤ 'F' then some (c.toNat - 'A'.toNat + 10)
  else none

/-- The character with the code that `n` hexadecimal digits give. -/
def codePoint? (n : Nat) (cs : List Char) : Option (Char × List Char) := do
  let digits := cs.take n
  if digits.length != n then none
  let code ← digits.foldlM (fun v c => (hexDigit? c).map (16 * v + ·)) 0
  if code < 0xd800 || (0xdfff < code && code < 0x110000) then
    some (Char.ofNat code, cs.drop n)
  else none

/-- The character of an escape, behind its backslash. -/
def escape? : Reader Char
  | 'b' :: rest => some ('\x08', rest)
  | 't' :: rest => some ('\t', rest)
  | 'n' :: rest => some ('\n', rest)
  | 'f' :: rest => some ('\x0c', rest)
  | 'r' :: rest => some ('\r', rest)
  | '"' :: rest => some ('"', rest)
  | '\\' :: rest => some ('\\', rest)
  | 'u' :: rest => codePoint? 4 rest
  | 'U' :: rest => codePoint? 8 rest
  | _ => none

/-- Skip blanks and line ends. -/
def skipBreaks : (fuel : Nat) → List Char → List Char
  | 0, cs => cs
  | fuel + 1, cs =>
    let cs := skipGaps cs
    match newline? cs with
    | some rest => skipBreaks fuel rest
    | none => cs

/-- The rest of a text in double quotes on one line; `acc` holds its characters, latest first. -/
def basic? : (fuel : Nat) → (acc : List Char) → Reader String
  | 0, _, _ => none
  | _ + 1, _, [] => none
  | fuel + 1, acc, c :: rest =>
    if c == '"' then some (String.ofList acc.reverse, rest)
    else if c == '\\' then do
      let (d, rest) ← escape? rest
      basic? fuel (d :: acc) rest
    else if isBasicChar c then basic? fuel (c :: acc) rest
    else none

/-- The rest of a text in three double quotes.  A backslash at the end of a line removes the line
end and all blanks and line ends behind it; up to two quotes before the closing ones belong to the
text. -/
def basicLines? : (fuel : Nat) → (acc : List Char) → Reader String
  | 0, _, _ => none
  | fuel + 1, acc, cs =>
    match cs with
    | '"' :: '"' :: '"' :: '"' :: '"' :: rest =>
      some (String.ofList ('"' :: '"' :: acc).reverse, rest)
    | '"' :: '"' :: '"' :: '"' :: rest => some (String.ofList ('"' :: acc).reverse, rest)
    | '"' :: '"' :: '"' :: rest => some (String.ofList acc.reverse, rest)
    | '"' :: rest => basicLines? fuel ('"' :: acc) rest
    | '\\' :: rest =>
      match newline? (skipGaps rest) with
      | some rest => basicLines? fuel acc (skipBreaks rest.length rest)
      | none => do
        let (d, rest) ← escape? rest
        basicLines? fuel (d :: acc) rest
    | cs =>
      match newline? cs with
      | some rest => basicLines? fuel ('\n' :: acc) rest
      | none =>
        match cs with
        | c :: rest => if isBasicChar c then basicLines? fuel (c :: acc) rest else none
        | [] => none

/-- The rest of a text in three single quotes. -/
def literalLines? : (fuel : Nat) → (acc : List Char) → Reader String
  | 0, _, _ => none
  | fuel + 1, acc, cs =>
    match cs with
    | '\'' :: '\'' :: '\'' :: '\'' :: '\'' :: rest =>
      some (String.ofList ('\'' :: '\'' :: acc).reverse, rest)
    | '\'' :: '\'' :: '\'' :: '\'' :: rest => some (String.ofList ('\'' :: acc).reverse, rest)
    | '\'' :: '\'' :: '\'' :: rest => some (String.ofList acc.reverse, rest)
    | '\'' :: rest => literalLines? fuel ('\'' :: acc) rest
    | cs =>
      match newline? cs with
      | some rest => literalLines? fuel ('\n' :: acc) rest
      | none =>
        match cs with
        | c :: rest => if isLiteralChar c then literalLines? fuel (c :: acc) rest else none
        | [] => none

/-- A line end right behind the opening quotes does not count. -/
def skipFirstNewline (cs : List Char) : List Char := (newline? cs).getD cs

/-- A text of any of the four forms. -/
def text? (cs : List Char) : Option (String × List Char) :=
  match cs with
  | '"' :: '"' :: '"' :: rest => basicLines? (rest.length + 1) [] (skipFirstNewline rest)
  | '"' :: rest => basic? (rest.length + 1) [] rest
  | '\'' :: '\'' :: '\'' :: rest => literalLines? (rest.length + 1) [] (skipFirstNewline rest)
  | '\'' :: rest =>
    match rest.dropWhile isLiteralChar with
    | '\'' :: after => some (String.ofList (rest.takeWhile isLiteralChar), after)
    | _ => none
  | _ => none

/-! ## Numbers -/

/-- The digits of a run in which single underscores stand between digits. -/
def grouped? (isDigit : Char → Bool) : List Char → Option (List Char)
  | [] => none
  | [d] => if isDigit d then some [d] else none
  | d :: '_' :: rest => if isDigit d then (grouped? isDigit rest).map (d :: ·) else none
  | d :: rest => if isDigit d then (grouped? isDigit rest).map (d :: ·) else none

/-- The value of digits in a base. -/
def digitsIn (base : Nat) (ds : List Char) : Nat :=
  ds.foldl (fun n d => base * n + (hexDigit? d).getD 0) 0

/-- Whether a character is a digit of a base up to sixteen. -/
def isDigitOf (base : Nat) (c : Char) : Bool := ((hexDigit? c).map (decide <| · < base)).getD false

/-- Digits of a decimal number: no zero in front of other digits. -/
def decimalDigits? (cs : List Char) : Option (List Char) := do
  let ds ← grouped? Char.isDigit cs
  if ds.head? == some '0' && ds.length != 1 then none else some ds

/-- Numbers must fit 64 bits with sign. -/
def inRange? (n : Int) : Option Toml :=
  if Int64.minValue.toInt ≤ n && n ≤ Int64.maxValue.toInt then some (int n) else none

/-- A sign, and the characters behind it. -/
def sign (cs : List Char) : Bool × List Char :=
  match cs with
  | '-' :: rest => (true, rest)
  | '+' :: rest => (false, rest)
  | cs => (false, cs)

/-- A whole number. -/
def whole? (cs : List Char) : Option Toml :=
  match cs with
  | '0' :: 'x' :: ds => (grouped? (isDigitOf 16) ds).bind fun ds => inRange? (digitsIn 16 ds)
  | '0' :: 'o' :: ds => (grouped? (isDigitOf 8) ds).bind fun ds => inRange? (digitsIn 8 ds)
  | '0' :: 'b' :: ds => (grouped? (isDigitOf 2) ds).bind fun ds => inRange? (digitsIn 2 ds)
  | cs =>
    let (negative, rest) := sign cs
    (decimalDigits? rest).bind fun ds =>
      inRange? (if negative then -(digitsIn 10 ds : Int) else digitsIn 10 ds)

/-- A power of ten behind its mark. -/
def exponent? (cs : List Char) : Option Int :=
  let (negative, rest) := sign cs
  (grouped? Char.isDigit rest).map fun ds =>
    if negative then -(digitsIn 10 ds : Int) else digitsIn 10 ds

/-- Whether `digits * 10 ^ exponent` rounds to a finite binary64 number. -/
def isFinite (digits : List Char) (exponent : Int) : Bool :=
  let n := digitsIn 10 digits
  if n == 0 || exponent < 0 && exponent.natAbs > digits.length then true
  else if 400 < exponent then false
  else !(Float.ofScientific n (decide (exponent < 0)) exponent.natAbs).isInf

/-- A floating-point number: digits with a fraction, a power of ten or both, or a special one. -/
def float? (cs : List Char) : Option Toml := do
  let (_, rest) := sign cs
  if rest == ['i', 'n', 'f'] || rest == ['n', 'a', 'n'] then some float
  else
    let isMark := fun c => c == 'e' || c == 'E'
    let mantissa := rest.takeWhile (!isMark ·)
    let whole ← decimalDigits? (mantissa.takeWhile (· != '.'))
    let fraction ←
      match mantissa.dropWhile (· != '.') with
      | [] => some []
      | _ :: ds => grouped? Char.isDigit ds
    let power ←
      match rest.dropWhile (!isMark ·) with
      | [] => if fraction.isEmpty then none else some 0
      | _ :: ds => exponent? ds
    if isFinite (whole ++ fraction) (power - fraction.length) then some float else none

/-! ## Dates and times -/

/-- The value of `n` digits, and the characters behind them. -/
def digits? (n : Nat) (cs : List Char) : Option (Nat × List Char) :=
  let ds := cs.take n
  if ds.length == n && ds.all Char.isDigit then some (digitsIn 10 ds, cs.drop n) else none

/-- The characters behind a given one. -/
def expect? (c : Char) : List Char → Option (List Char)
  | d :: rest => if d == c then some rest else none
  | [] => none

/-- The number of days of a month. -/
def daysOf (year month : Nat) : Nat :=
  if month == 2 then
    (if year % 4 == 0 && (year % 100 != 0 || year % 400 == 0) then 29 else 28)
  else if month == 4 || month == 6 || month == 9 || month == 11 then 30
  else 31

/-- A date; the characters behind it. -/
def date? (cs : List Char) : Option (List Char) := do
  let (year, cs) ← digits? 4 cs
  let (month, cs) ← digits? 2 (← expect? '-' cs)
  let (day, cs) ← digits? 2 (← expect? '-' cs)
  if 1 ≤ month && month ≤ 12 && 1 ≤ day && day ≤ daysOf year month then some cs else none

/-- A time of day; the characters behind it. -/
def time? (cs : List Char) : Option (List Char) := do
  let (hour, cs) ← digits? 2 cs
  let (minute, cs) ← digits? 2 (← expect? ':' cs)
  let (second, cs) ← digits? 2 (← expect? ':' cs)
  if hour ≤ 23 && minute ≤ 59 && second ≤ 60 then
    match cs with
    | '.' :: rest =>
      if (rest.takeWhile Char.isDigit).isEmpty then none else some (rest.dropWhile Char.isDigit)
    | cs => some cs
  else none

/-- An offset from universal time, if there is one; the characters behind it. -/
def offset? (cs : List Char) : Option (List Char) :=
  match cs with
  | 'Z' :: rest => some rest
  | 'z' :: rest => some rest
  | c :: rest =>
    if c == '+' || c == '-' then do
      let (hour, rest) ← digits? 2 rest
      let (minute, rest) ← digits? 2 (← expect? ':' rest)
      if hour ≤ 23 && minute ≤ 59 then some rest else none
    else some (c :: rest)
  | [] => some []

/-- A date, a time, or both with or without an offset; the characters behind it. -/
def moment? (cs : List Char) : Option (List Char) :=
  match date? cs with
  | some rest =>
    match rest with
    | c :: after =>
      if c == 'T' || c == 't' then (time? after).bind offset?
      else if c == ' ' then ((time? after).bind offset?).getD rest
      else some rest
    | [] => some []
  | none => time? cs

/-! ## Words, numbers and dates -/

/-- A character that a word, number or date may hold. -/
def isWordChar (c : Char) : Bool :=
  c.isAlphanum || c == '+' || c == '-' || c == '_' || c == '.' || c == ':'

/-- A truth value, a number or a date. -/
def word? (cs : List Char) : Option (Toml × List Char) :=
  let run := cs.takeWhile isWordChar
  let rest := cs.dropWhile isWordChar
  if run == ['t', 'r', 'u', 'e'] then some (bool true, rest)
  else if run == ['f', 'a', 'l', 's', 'e'] then some (bool false, rest)
  else
    match whole? run with
    | some v => some (v, rest)
    | none =>
      match float? run with
      | some v => some (v, rest)
      | none => (moment? cs).map fun rest => (date, rest)

end FilterFleet.Toml
