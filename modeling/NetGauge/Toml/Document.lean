import NetGauge.Toml.Scalar
import NetGauge.Toml.Scan

set_option autoImplicit false

/-! # TOML documents

A document is read line by line into a tree that knows how each table came to be, because that
decides what may still be added to it: a table of its own header is written once, one that dotted
keys made grows by dotted keys only, and an inline table is complete. At the end the tree becomes a
plain table. -/

namespace NetGauge.Toml

/-- How a table came to be. -/
inductive Making where
  /-- It has its own header. -/
  | header
  /-- A header below it made it. -/
  | implied
  /-- A dotted key made it. -/
  | dotted
  deriving DecidableEq

/-- What a document holds so far under a name. -/
inductive Node where
  | value (v : Value)
  | table (making : Making) (members : List (String × Node))
  /-- Tables with headers in double brackets, oldest first. -/
  | tables (elements : List (List (String × Node)))

abbrev Members := List (String × Node)

/-- Changes what stands under a name. -/
def update (name : String) (change : Option Node → Option Node) : Members → Option Members
  | [] => (change none).map (fun node => [(name, node)])
  | (other, old) :: rest =>
    if other = name then (change (some old)).map (fun node => (name, node) :: rest)
    else (update name change rest).map ((other, old) :: ·)

/-- Changes the table that a path of headers leads to; of tables in double brackets the last one. -/
def within (change : Members → Option Members) : List String → Members → Option Members
  | [], members => change members
  | name :: path, members =>
    update name (fun
      | none => (within change path []).map (.table .implied)
      | some (.table making below) => (within change path below).map (.table making)
      | some (.tables elements) => do
        let last ← elements.getLast?
        let last ← within change path last
        return .tables (elements.dropLast ++ [last])
      | some (.value _) => none) members

/-- Puts a value under a dotted key. Only tables that dotted keys made get new members this way. On the
    way to them, and no sooner than two steps before the end, a key leads through tables that headers
    below them made, and through the last of tables in double brackets. -/
def put (v : Value) : List String → Members → Option Members
  | [], _ => none
  | [name], members =>
    update name (fun
      | none => some (.value v)
      | some _ => none) members
  | name :: path, members =>
    update name (fun
      | none => (put v path []).map (.table .dotted)
      | some (.table .dotted below) => (put v path below).map (.table .dotted)
      | some (.table .implied below) =>
        if path.length = 1 then none else (put v path below).map (.table .implied)
      | some (.tables elements) =>
        if path.length = 1 then none
        else do
          let last ← elements.getLast?
          let last ← put v path last
          return .tables (elements.dropLast ++ [last])
      | some _ => none) members

/-- Begins a table with its own header. -/
def openTable (name : String) (members : Members) : Option Members :=
  update name (fun
    | none => some (.table .header [])
    | some (.table .implied below) => some (.table .header below)
    | some _ => none) members

/-- Begins one more of several tables of a name. -/
def openElement (name : String) (members : Members) : Option Members :=
  update name (fun
    | none => some (.tables [[]])
    | some (.tables elements) => some (.tables (elements ++ [[]]))
    | some _ => none) members

mutual

/-- What a node holds, however it came to be. -/
def Node.toValue : Node → Value
  | .value v => v
  | .table _ members => .table (toTable members)
  | .tables elements => .array (toTables elements)

/-- Members as a plain table. -/
def toTable : List (String × Node) → List (String × Value)
  | [] => []
  | (name, node) :: rest => (name, node.toValue) :: toTable rest

/-- Each of several tables as a plain one. -/
def toTables : List (List (String × Node)) → List Value
  | [] => []
  | members :: rest => .table (toTable members) :: toTables rest

end

/-! ## Values -/

/-- Reads the elements of an array after its opening bracket, at most so many. -/
def elements? (read : List Char → Option (Value × List Char)) :
    Nat → List Char → Option (List Value × List Char)
  | 0, _ => none
  | count + 1, text =>
    match skipBlank text with
    | ']' :: rest => some ([], rest)
    | text => do
      let (v, rest) ← read text
      match skipBlank rest with
      | ']' :: rest => return ([v], rest)
      | ',' :: rest =>
        let (more, rest) ← elements? read count rest
        return (v :: more, rest)
      | _ => none

/-- Reads the members of an inline table after its opening brace, at most so many. -/
def inlineMembers? (read : List Char → Option (Value × List Char)) :
    Nat → Members → List Char → Option (Members × List Char)
  | 0, _, _ => none
  | count + 1, members, text => do
    let (path, rest) ← key? text
    let '=' :: rest := rest | none
    let (v, rest) ← read (skipSpace rest)
    let members ← put v path members
    match skipSpace rest with
    | '}' :: rest => return (members, rest)
    | ',' :: rest => inlineMembers? read count members rest
    | _ => none

/-- Reads a value with so many levels of nesting left. -/
def value? : Nat → List Char → Option (Value × List Char)
  | levels, '[' :: rest =>
    match levels with
    | 0 => none
    | levels + 1 => do
      let (elements, rest) ← elements? (value? levels) (rest.length + 1) rest
      return (.array elements, rest)
  | levels, '{' :: rest =>
    match levels with
    | 0 => none
    | levels + 1 =>
      match skipSpace rest with
      | '}' :: rest => some (.table [], rest)
      | rest => do
        let (members, rest) ← inlineMembers? (value? levels) (rest.length + 1) [] rest
        return (.table (toTable members), rest)
  | _, text =>
    match text with
    | '"' :: _ | '\'' :: _ => (string? text).map (fun (s, rest) => (.string s, rest))
    | _ => plain? text

/-- How deep arrays and inline tables may be nested. -/
def maxNesting : Nat := 80

/-! ## Lines -/

/-- A document that has been read in part: its tree, and the path of the last header. -/
structure Reading where
  root : Members := []
  header : List String := []

/-- Reads a header after its opening bracket. -/
def header? (r : Reading) (text : List Char) : Option (Reading × List Char) := do
  match text with
  | '[' :: rest =>
    let (path, rest) ← key? rest
    let ']' :: ']' :: rest := rest | none
    let root ← within (openElement (path.getLast?.getD "")) path.dropLast r.root
    return (⟨root, path⟩, ← endLine? rest)
  | _ =>
    let (path, rest) ← key? text
    let ']' :: rest := rest | none
    let root ← within (openTable (path.getLast?.getD "")) path.dropLast r.root
    return (⟨root, path⟩, ← endLine? rest)

/-- Reads a key and its value. -/
def entry? (r : Reading) (text : List Char) : Option (Reading × List Char) := do
  let (path, rest) ← key? text
  let '=' :: rest := rest | none
  let (v, rest) ← value? maxNesting (skipSpace rest)
  let root ← within (put v path) r.header r.root
  return ({ r with root := root }, ← endLine? rest)

/-- Reads the lines that are left, at most so many. -/
def lines? : Nat → Reading → List Char → Option Members
  | 0, _, _ => none
  | count + 1, r, text =>
    match skipBlank text with
    | [] => some r.root
    | '[' :: rest => do
      let (r, rest) ← header? r rest
      lines? count r rest
    | text => do
      let (r, rest) ← entry? r text
      lines? count r rest

/-- Reads a document. A byte order mark in front of it does not count. -/
def parse? (text : String) : Option (List (String × Value)) :=
  let cs := match text.toList with
    | '\uFEFF' :: rest => rest
    | cs => cs
  (lines? (cs.length + 1) {} cs).map toTable

end NetGauge.Toml
