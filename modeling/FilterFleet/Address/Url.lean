import FilterFleet.Address.Host
import FilterFleet.Node.Settings

/-! # Addresses of resources

An address has a scheme, a host, a port, a path of segments, and perhaps credentials, a query and a
fragment.  A text is read character by character as browsers do: tabs and line ends are dropped, a
backslash counts as a slash, and dot segments are resolved.
-/

namespace FilterFleet.Address

/-- An address of a resource. -/
structure Url where
  scheme : Scheme
  /-- Name and password before the host, as given. -/
  credentials : Option (List Char)
  host : List Char
  /-- The port, unless it is the default of the scheme. -/
  port : Option Nat
  /-- The segments of the path, encoded. -/
  path : List (List Char)
  query : Option (List Char)
  fragment : Option (List Char)
deriving DecidableEq

/-- A slash of either kind. -/
def isSlash (c : Char) : Bool := c == '/' || c == '\\'

/-- A character that ends the authority of an address. -/
def endsAuthority (c : Char) : Bool := isSlash c || c == '?' || c == '#'

/-- Characters that are dropped wherever they stand. -/
def isDropped (c : Char) : Bool := c == '\t' || c == '\n' || c == '\r'

/-- Split the authority at its last at-sign. -/
def splitCredentials (authority : List Char) : Option (List Char) × List Char :=
  match (Text.splitAt '@' authority).reverse with
  | place :: before :: more => (some (['@'].intercalate (before :: more).reverse), place)
  | _ => (none, authority)

/-- Split at the first colon that does not stand in brackets. -/
def splitPort : (inside : Bool) → List Char → List Char × Option (List Char)
  | _, [] => ([], none)
  | inside, c :: rest =>
    if c == ':' && !inside then ([], some rest)
    else
      let inside := if c == '[' then true else if c == ']' then false else inside
      let (host, port) := splitPort inside rest
      (c :: host, port)

/-- The port of an address; the default of the scheme, and no digits at all, count as none. -/
def portOf (scheme : Scheme) (digits : List Char) : Except AddressFault (Option Nat) :=
  if !digits.all Char.isDigit then .error .badPort
  else
    match digitsValue? 10 digits with
    | none => .error .badPort
    | some n =>
      if 65535 < n then .error .badPort
      else if digits.isEmpty || n = scheme.defaultPort then .ok none
      else .ok (some n)

/-- Whether an encoded segment stands for the directory itself. -/
def isSingleDot (cs : List Char) : Bool :=
  [['.'], ['%', '2', 'e']].contains (cs.map Char.toLower)

/-- Whether an encoded segment stands for the directory above. -/
def isDoubleDot (cs : List Char) : Bool :=
  [['.', '.'], ['.', '%', '2', 'e'], ['%', '2', 'e', '.'],
    ['%', '2', 'e', '%', '2', 'e']].contains (cs.map Char.toLower)

/-- Put segments on a path, resolving dot segments. -/
def resolve : (path : List (List Char)) → List (List Char) → List (List Char)
  | path, [] => path
  | path, [last] =>
    if isDoubleDot last then path.dropLast ++ [[]]
    else if isSingleDot last then path ++ [[]]
    else path ++ [last]
  | path, segment :: rest =>
    if isDoubleDot segment then resolve path.dropLast rest
    else if isSingleDot segment then resolve path rest
    else resolve (path ++ [segment]) rest

/-- The segments of a path that is given with its slashes, the first one included. -/
def pathOf (cs : List Char) : List (List Char) :=
  match cs with
  | [] => [[]]
  | _ :: rest =>
    let segments := Text.splitAt '/' (rest.map fun c => if isSlash c then '/' else c)
    resolve [] (segments.map (percentEncode pathSet))

/-- Split at the first of a character. -/
def splitFirst (sep : Char) (cs : List Char) : List Char × Option (List Char) :=
  match cs.dropWhile (· != sep) with
  | [] => (cs, none)
  | _ :: rest => (cs.takeWhile (· != sep), some rest)

namespace Url

/-- The address that a scheme and the text behind its colon name. -/
def read (scheme : Scheme) (text : List Char) : Except AddressFault Url := do
  let text := (text.filter (!isDropped ·)).dropWhile isSlash
  let authority := text.takeWhile (!endsAuthority ·)
  let rest := text.dropWhile (!endsAuthority ·)
  let (credentials, place) := splitCredentials authority
  let (hostText, portText) := splitPort false place
  if hostText.isEmpty then .error .emptyHost
  else
    let host ← normalHost hostText
    let port ← portOf scheme (portText.getD [])
    let (rest, fragment) := splitFirst '#' rest
    let (path, query) := splitFirst '?' rest
    .ok
      { scheme, credentials, host, port
        path := pathOf path
        query := query.map (percentEncode querySet)
        fragment := fragment.map (percentEncode fragmentSet) }

/-- Add one segment to a path.  Dot segments are left out. -/
def addSegment (path : List (List Char)) (segment : List Char) : List (List Char) :=
  if segment == ['.'] || segment == ['.', '.'] then path
  else
    let path := if path == [[]] then [] else path
    resolve path [percentEncode segmentSet (segment.filter (!isDropped ·))]

/-- The address of a resource below this one: an empty segment at the end of the path is given up,
and the segments are put behind it. -/
def below (u : Url) (segments : List String) : Url :=
  let path :=
    match u.path.reverse with
    | [] :: before :: more => (before :: more).reverse
    | _ => u.path
  { u with path := segments.foldl (fun path s => addSegment path s.toList) path }

/-- The same address with key and value pairs as its query, behind those it has. -/
def withPairs (u : Url) (pairs : List (String × String)) : Url :=
  if pairs.isEmpty then u
  else
    let query :=
      match u.query with
      | some (c :: q) => c :: q ++ '&' :: formPairs pairs
      | _ => formPairs pairs
    { u with query := some query }

/-- Whether a request can name the address: some characters that a host may hold cannot stand in
the line that a request starts with. -/
def canBeNamed (u : Url) : Bool :=
  !u.host.any fun c => c == '"' || c == '\x60' || c == '\x7b' || c == '\x7d'

/-- The text of an address. -/
def fullText (u : Url) : String :=
  u.scheme.text ++ "://" ++ String.ofList (
    (match u.credentials with
      | some c => c ++ ['@']
      | none => []) ++ u.host ++
    (match u.port with
      | some n => ':' :: Nat.toDigits 10 n
      | none => []) ++
    (u.path.flatMap fun s => '/' :: s) ++
    (match u.query with
      | some q => '?' :: q
      | none => []) ++
    (match u.fragment with
      | some f => '#' :: f
      | none => []))

/-- The text of an address, without credentials. -/
def text (u : Url) : String := { u with credentials := none }.fullText

end Url

end FilterFleet.Address

namespace FilterFleet

open Address

/-- The address below which a node's interface lies, as it is understood. -/
def NodeSettings.baseAddress (s : NodeSettings) : Except AddressFault Url :=
  Url.read s.scheme ("//" ++ s.host ++ ":" ++ toString s.port.toNat ++ "/api/").toList

/-- The address of a resource of a node. -/
def NodeSettings.endpoint (s : NodeSettings) (segments : List String) : Except AddressFault Url :=
  s.baseAddress.map fun u => u.below segments

end FilterFleet
