import FilterFleet.Toml.Scalar

/-! # TOML documents

A document is a sequence of lines: pairs of a key and a value, and headers that open a table or
the next table of an array.  A key may be dotted and then leads through tables.  A table is defined
only once: by a header, by dotted keys of one table, or as an inline table.
-/

namespace FilterFleet.Toml

/-! ## Tables under construction -/

/-- What a key stands for while a document is read. -/
inductive Entry where
  /-- A value, to which nothing can be added. -/
  | value (v : Toml)
  /-- A table: whether only the way to another one mentions it, whether dotted keys define it. -/
  | table (implied dotted : Bool) (entries : List (String × Entry))
  /-- An array of tables; the last one is open. -/
  | tables (before : List (List (String × Entry))) (last : List (String × Entry))
deriving Inhabited

/-- The entries of a table by key. -/
abbrev Entries := List (String × Entry)

/-- The entry of a key. -/
def find? (key : String) (es : Entries) : Option Entry := (es.find? fun e => e.1 == key).map (·.2)

/-- Put an entry in the place of the one with its key, or at the end. -/
def put (key : String) (entry : Entry) : Entries → Entries
  | [] => [(key, entry)]
  | e :: rest => if e.1 == key then (key, entry) :: rest else e :: put key entry rest

/-- Change the table that a path of headers leads to.  Tables on the way are implied; of an array
of tables the last one is meant. -/
def descend? (change : Entries → Option Entries) : (path : List String) → Entries → Option Entries
  | [], es => change es
  | key :: path, es =>
    match find? key es with
    | none => (descend? change path []).map fun inner => put key (.table true false inner) es
    | some (.value _) => none
    | some (.table implied dotted inner) =>
      (descend? change path inner).map fun inner => put key (.table implied dotted inner) es
    | some (.tables before last) =>
      (descend? change path last).map fun last => put key (.tables before last) es

/-- Add a pair under a dotted key.  The tables on the way must be defined by dotted keys too. -/
def addPair? (v : Toml) (here : Bool) : (path : List String) → (key : String) → Entries →
    Option Entries
  | [], key, es =>
    if here then
      match find? key es with
      | none => some (put key (.value v) es)
      | some _ => none
    else none
  | part :: path, key, es =>
    match find? part es with
    | none =>
      (addPair? v true path key []).map fun inner => put part (.table true true inner) es
    | some (.value _) => none
    | some (.table implied dotted inner) =>
      if implied then
        (addPair? v dotted path key inner).map fun inner =>
          put part (.table implied dotted inner) es
      else none
    | some (.tables before last) =>
      (addPair? v false path key last).map fun last => put part (.tables before last) es

/-- Open the table of a header.  It may be implied so far, but not defined. -/
def openTable? (key : String) (es : Entries) : Option Entries :=
  match find? key es with
  | none => some (put key (.table false false []) es)
  | some (.table true false inner) => some (put key (.table false false inner) es)
  | some _ => none

/-- Open the next table of an array of tables. -/
def openNext? (key : String) (es : Entries) : Option Entries :=
  match find? key es with
  | none => some (put key (.tables [] []) es)
  | some (.tables before last) => some (put key (.tables (before ++ [last]) []) es)
  | some _ => none

mutual

/-- The value of a finished entry. -/
def Entry.finish : Entry → Toml
  | .value v => v
  | .table _ _ entries => .table (finishEntries entries)
  | .tables before last => .array (finishTables before ++ [.table (finishEntries last)])

/-- The values of the entries of a finished table. -/
def finishEntries : Entries → List (String × Toml)
  | [] => []
  | (key, entry) :: rest => (key, entry.finish) :: finishEntries rest

/-- The values of finished tables. -/
def finishTables : List Entries → List Toml
  | [] => []
  | es :: rest => .table (finishEntries es) :: finishTables rest

end

/-! ## Keys -/

/-- A character of a key without quotes. -/
def isKeyChar (c : Char) : Bool := c.isAlphanum || c == '_' || c == '-'

/-- One part of a key. -/
def keyPart? (cs : List Char) : Option (String × List Char) :=
  match cs with
  | '"' :: rest => basic? (rest.length + 1) [] rest
  | '\'' :: _ => text? cs
  | cs =>
    let run := cs.takeWhile isKeyChar
    if run.isEmpty then none else some (String.ofList run, cs.dropWhile isKeyChar)

/-- The parts of a key, separated by dots between blanks. -/
def keyParts? : (fuel : Nat) → Reader (List String)
  | 0, _ => none
  | fuel + 1, cs => do
    let (part, rest) ← keyPart? cs
    match skipGaps rest with
    | '.' :: rest =>
      let (parts, rest) ← keyParts? fuel (skipGaps rest)
      some (part :: parts, rest)
    | rest => some ([part], rest)

/-- The greatest depth of nested arrays and inline tables, and of dotted keys. -/
def depthLimit : Nat := 80

/-- A key: the parts that lead to its table, and the last part. -/
def key? (cs : List Char) : Option ((List String × String) × List Char) := do
  let (parts, rest) ← keyParts? (cs.length + 1) cs
  if depthLimit ≤ parts.length then none
  else
    match parts.reverse with
    | last :: path => some ((path.reverse, last), rest)
    | [] => none

/-! ## Values -/

/-- Behind a comment. -/
def skipComment (cs : List Char) : List Char :=
  match cs with
  | '#' :: rest => rest.dropWhile isCommentChar
  | cs => cs

/-- Skip blanks, line ends and comments inside an array. -/
def skipFiller : (fuel : Nat) → List Char → List Char
  | 0, cs => cs
  | fuel + 1, cs =>
    let cs := skipComment (skipGaps cs)
    match newline? cs with
    | some rest => skipFiller fuel rest
    | none => cs

mutual

/-- A value at a depth of nesting. -/
def value? : (fuel : Nat) → (depth : Nat) → Reader Toml
  | 0, _, _ => none
  | fuel + 1, depth, cs =>
    match cs with
    | '[' :: rest =>
      if depthLimit ≤ depth + 1 then none
      else (items? fuel (depth + 1) rest).map fun (items, rest) => (array items, rest)
    | '\x7b' :: rest =>
      if depthLimit ≤ depth + 1 then none
      else
        match skipGaps rest with
        | '\x7d' :: rest => some (table [], rest)
        | rest => (pairs? fuel (depth + 1) [] rest).map fun (es, rest) => (table es, rest)
    | '"' :: _ => (text? cs).map fun (s, rest) => (str s, rest)
    | '\'' :: _ => (text? cs).map fun (s, rest) => (str s, rest)
    | cs => word? cs

/-- The items of an array and its end. -/
def items? : (fuel : Nat) → (depth : Nat) → Reader (List Toml)
  | 0, _, _ => none
  | fuel + 1, depth, cs =>
    match skipFiller cs.length cs with
    | ']' :: rest => some ([], rest)
    | cs => do
      let (v, rest) ← value? fuel depth cs
      match skipFiller rest.length rest with
      | ',' :: rest =>
        let (vs, rest) ← items? fuel depth rest
        some (v :: vs, rest)
      | ']' :: rest => some ([v], rest)
      | _ => none

/-- The pairs of an inline table and its end, added to the entries so far. -/
def pairs? : (fuel : Nat) → (depth : Nat) → (es : Entries) → Reader (List (String × Toml))
  | 0, _, _, _ => none
  | fuel + 1, depth, es, cs => do
    let ((path, key), rest) ← key? (skipGaps cs)
    let rest ← expect? '=' (skipGaps rest)
    let (v, rest) ← value? fuel depth (skipGaps rest)
    let es ← addPair? v true path key es
    match skipGaps rest with
    | ',' :: rest => pairs? fuel depth es rest
    | '\x7d' :: rest => some (finishEntries es, rest)
    | _ => none

end

/-! ## Lines -/

/-- The document read so far and the path of the last header. -/
structure Draft where
  entries : Entries
  header : List String

/-- Behind the end of a line: blanks, a comment, and a line end or the end of the document. -/
def lineEnd? (cs : List Char) : Option (List Char) :=
  match skipComment (skipGaps cs) with
  | [] => some []
  | cs => newline? cs

/-- A header between its brackets: its key, and the characters behind it. -/
def headerKey? (cs : List Char) : Option ((List String × String) × List Char) := do
  let (key, rest) ← key? (skipGaps cs)
  some (key, skipGaps rest)

/-- Read one line; the draft with it, and the lines behind it. -/
def line? (draft : Draft) (cs : List Char) : Option (Draft × List Char) :=
  match skipGaps cs with
  | [] => some (draft, [])
  | '#' :: rest => (lineEnd? ('#' :: rest)).map fun rest => (draft, rest)
  | '[' :: '[' :: rest => do
    let ((path, key), rest) ← headerKey? rest
    match rest with
    | ']' :: ']' :: rest =>
      let entries ← descend? (openNext? key) path draft.entries
      some (⟨entries, path ++ [key]⟩, ← lineEnd? rest)
    | _ => none
  | '[' :: rest => do
    let ((path, key), rest) ← headerKey? rest
    match rest with
    | ']' :: rest =>
      let entries ← descend? (openTable? key) path draft.entries
      some (⟨entries, path ++ [key]⟩, ← lineEnd? rest)
    | _ => none
  | cs =>
    match newline? cs with
    | some rest => some (draft, rest)
    | none => do
      let ((path, key), rest) ← key? cs
      let rest ← expect? '=' rest
      let (v, rest) ← value? (rest.length + 1) 0 (skipGaps rest)
      let entries ← descend? (addPair? v true path key) draft.header draft.entries
      some (⟨entries, draft.header⟩, ← lineEnd? rest)

/-- Read all lines. -/
def lines? : (fuel : Nat) → Draft → List Char → Option Draft
  | _, draft, [] => some draft
  | 0, _, _ => none
  | fuel + 1, draft, cs => do
    let (draft, rest) ← line? draft cs
    lines? fuel draft rest

/-- The top-level table of a document.  A byte order mark in front does not count. -/
def ofText? (s : String) : Option Toml :=
  let cs := match s.toList with
    | '\ufeff' :: rest => rest
    | cs => cs
  (lines? (cs.length + 1) ⟨[], []⟩ cs).map fun draft => table (finishEntries draft.entries)

end FilterFleet.Toml
