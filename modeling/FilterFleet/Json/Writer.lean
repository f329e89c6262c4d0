import FilterFleet.Json.Value

/-! # Writing JSON texts

Values are written without blanks, members in the order of the value.  A string is written as it
is, except for quotes, backslashes and control characters.
-/

namespace FilterFleet.Json

/-- A lower-case hexadecimal digit. -/
def hexDigit (n : Nat) : Char := (Nat.digitChar n)

/-- How one character stands inside a string. -/
def escapedChars (c : Char) : List Char :=
  if c == '"' then ['\\', '"']
  else if c == '\\' then ['\\', '\\']
  else if c == '\x08' then ['\\', 'b']
  else if c == '\x0c' then ['\\', 'f']
  else if c == '\n' then ['\\', 'n']
  else if c == '\r' then ['\\', 'r']
  else if c == '\t' then ['\\', 't']
  else if c.toNat < 0x20 then
    ['\\', 'u', '0', '0', hexDigit (c.toNat / 16), hexDigit (c.toNat % 16)]
  else [c]

/-- The characters of a string with its quotes. -/
def stringChars (s : String) : List Char :=
  '"' :: (s.toList.flatMap escapedChars ++ ['"'])

/-- The characters of a whole number. -/
def intChars (n : Int) : List Char :=
  if n < 0 then '-' :: Nat.toDigits 10 n.natAbs else Nat.toDigits 10 n.natAbs

mutual

/-- The characters of a value. -/
def chars : Json → List Char
  | null => ['n', 'u', 'l', 'l']
  | bool true => ['t', 'r', 'u', 'e']
  | bool false => ['f', 'a', 'l', 's', 'e']
  | int n => intChars n
  | real x => x.chars
  | str s => stringChars s
  | arr [] => ['[', ']']
  | arr (v :: rest) => '[' :: (chars v ++ itemsChars rest)
  | obj [] => ['\x7b', '\x7d']
  | obj ((name, v) :: rest) =>
    '\x7b' :: (stringChars name ++ ':' :: (chars v ++ membersChars rest))
  | broken => ['n', 'u', 'l', 'l']

/-- The characters of the further items of an array, with its end. -/
def itemsChars : List Json → List Char
  | [] => [']']
  | v :: rest => ',' :: (chars v ++ itemsChars rest)

/-- The characters of the further members of an object, with its end. -/
def membersChars : List (String × Json) → List Char
  | [] => ['\x7d']
  | (name, v) :: rest => ',' :: (stringChars name ++ ':' :: (chars v ++ membersChars rest))

end

/-- The text of a value. -/
def text (v : Json) : String := String.ofList v.chars

end FilterFleet.Json
