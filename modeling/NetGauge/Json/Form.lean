import NetGauge.Json.Reader
import NetGauge.Json.Writer

set_option autoImplicit false

/-! # The JSON form of a type

`Form α` says how a value of `α` is written, how it is read from the front of a text, and how it is
read from a value that has been read before. Reading from a text notices the first thing wrong from
the left, be it a breach of the grammar or a misfit; reading from a value knows misfits only. -/

namespace NetGauge.Json

/-- How a type looks in JSON. -/
class Form (α : Type) where
  /-- The value that is written. -/
  toValue : α → Value
  /-- Reads from the front of a text, with so many levels of nesting left. -/
  ofText : Nat → List Char → Except Fault (α × List Char)
  /-- Reads from a value. -/
  ofValue : Value → Except Misfit α

/-- The compact text of anything that has a form. -/
def compact {α : Type} [Form α] (a : α) : String := (Form.toValue a).compact

/-- What a whole text says. -/
def parse (α : Type) [Form α] (text : String) : Except Fault α := whole Form.ofText text

/-- A misfit noticed before `rest`. -/
def Misfit.before (m : Misfit) (rest : List Char) : Fault := .before (.misfit m) rest

/-- The fault of a value of the wrong type. Scalars are read first, so a breach of the grammar in
    one is reported in place of the misfit; arrays and objects are not entered. -/
def wrongType (expected : String) (text : List Char) : Fault :=
  let misfit (found : Found) (rest : List Char) : Fault := (Misfit.type found expected).before rest
  match text with
  | [] => .atNext .valueExpected []
  | c :: _ =>
    if c = '[' then misfit .sequence text
    else if c = '{' then misfit .map text
    else match valueFrom 1 text with
      | .ok (v, rest) => misfit (.ofValue v) rest
      | .error f => f

/-- Continues with the first character that is not blank. -/
def atValue {α : Type} (read : Char → List Char → Except Fault (α × List Char)) (text : List Char) :
    Except Fault (α × List Char) :=
  match skipSpace text with
  | [] => .error (.atNext .valueUnfinished [])
  | c :: rest => read c rest

/-- Places a misfit of what was just read. -/
def placed {α : Type} (rest : List Char) : Except Misfit α → Except Fault (α × List Char)
  | .ok a => .ok (a, rest)
  | .error m => .error (m.before rest)

/-! ## Scalars -/

/-- Reads a string from a text. -/
def stringOfText (text : List Char) : Except Fault (String × List Char) :=
  atValue (fun c rest =>
    if c = '"' then string rest else .error (wrongType "a string" (c :: rest))) text

instance : Form String where
  toValue := .string
  ofText _ := stringOfText
  ofValue
    | .string s => .ok s
    | v => .error (.type (.ofValue v) "a string")

instance : Form Bool where
  toValue := .bool
  ofText _ := atValue (fun c rest =>
    if c = 't' then do return (true, ← word ['r', 'u', 'e'] rest)
    else if c = 'f' then do return (false, ← word ['a', 'l', 's', 'e'] rest)
    else .error (wrongType "a boolean" (c :: rest)))
  ofValue
    | .bool b => .ok b
    | v => .error (.type (.ofValue v) "a boolean")

/-- Reads a number from a text and converts it. -/
def numberOfText {α : Type} (expected : String) (convert : Number → Except Misfit α)
    (text : List Char) : Except Fault (α × List Char) :=
  atValue (fun c rest =>
    if c = '-' then do
      let (n, rest) ← numberFrom true rest
      placed rest (convert n)
    else if isDigit c then do
      let (n, rest) ← numberFrom false (c :: rest)
      placed rest (convert n)
    else .error (wrongType expected (c :: rest))) text

/-- An integer literal within a bound, under the name of its type. -/
def Number.toNat (expected : String) (bound : Nat) : Number → Except Misfit Nat
  | .integer n =>
    if 0 ≤ n ∧ n < bound then .ok n.toNat else .error (.value (.number (.integer n)) expected)
  | .float x => .error (.type (.number (.float x)) expected)

/-- The form of a kind of natural numbers: `name` stands in diagnostics and all are below `bound`. -/
@[reducible] def wordForm {α : Type} (name : String) (bound : Nat) (toNat : α → Nat) (ofNat : Nat → α) :
    Form α where
  toValue a := .nat (toNat a)
  ofText _ := numberOfText name (fun n => (n.toNat name bound).map ofNat)
  ofValue
    | .number n => (n.toNat name bound).map ofNat
    | v => .error (.type (.ofValue v) name)

instance : Form UInt16 := wordForm "u16" UInt16.size UInt16.toNat UInt16.ofNat

instance : Form UInt32 := wordForm "u32" UInt32.size UInt32.toNat UInt32.ofNat

instance : Form UInt64 := wordForm "u64" UInt64.size UInt64.toNat UInt64.ofNat

/-- A count of things held in memory: below two to the sixty-fourth, like the words it is read from. -/
structure Count where
  value : Nat
  deriving Repr, DecidableEq

instance : Form Count := wordForm "usize" UInt64.size Count.value Count.mk

/-- A number as a double. -/
def Number.toFloat : Number → Float
  | .integer n => Float.ofInt n
  | .float x => x

instance : Form Float where
  toValue := .float
  ofText _ := numberOfText "f64" (fun n => .ok n.toFloat)
  ofValue
    | .number n => .ok n.toFloat
    | v => .error (.type (.ofValue v) "f64")

instance : Form Value where
  toValue v := v
  ofText := valueFrom
  ofValue := .ok

/-! ## Options and lists -/

/-- Reads null, or a value that is there, from a text. -/
def optionOfText {α : Type} [Form α] (levels : Nat) (text : List Char) :
    Except Fault (Option α × List Char) :=
  match skipSpace text with
  | 'n' :: rest => do return (none, ← word ['u', 'l', 'l'] rest)
  | rest => do
    let (a, rest) ← Form.ofText levels rest
    return (some a, rest)

instance {α : Type} [Form α] : Form (Option α) where
  toValue := .ofOption Form.toValue
  ofText := optionOfText
  ofValue
    | .null => .ok none
    | v => (Form.ofValue v).map some

instance {α : Type} [Form α] : Form (List α) where
  toValue := .ofList Form.toValue
  ofText levels := atValue (fun c rest =>
    if c = '[' then
      match levels with
      | levels + 2 => do
        let (elements, rest) ← elementsFrom (Form.ofText (levels + 1)) (rest.length + 1) true [] rest
        return (elements, ← endList rest)
      | _ => .error (.atNext .tooDeep (c :: rest))
    else .error (wrongType "a sequence" (c :: rest)))
  ofValue
    | .array elements => elements.mapM Form.ofValue
    | v => .error (.type (.ofValue v) "a sequence")

/-! ## Enumerations -/

/-- The values of an enumeration with their names. -/
structure Names (α : Type) where
  all : List (String × α)
  name : α → String

namespace Names

variable {α : Type}

/-- The value of a name. -/
def find (names : Names α) (s : String) : Except Misfit α :=
  match names.all.lookup s with
  | some a => .ok a
  | none => .error (.variant s (names.all.map Prod.fst))

/-- Reads null, the only content a name may have. -/
def nullOfText (text : List Char) : Except Fault (List Char) := do
  let ((), rest) ← atValue (fun c rest =>
    if c = 'n' then do return ((), ← word ['u', 'l', 'l'] rest)
    else .error (wrongType "unit" (c :: rest))) text
  return rest

/-- Reads a name from a text: a string and nothing else. -/
def identifierOfText (names : Names α) : List Char → Except Fault (α × List Char) :=
  atValue (fun c rest =>
    if c = '"' then do
      let (s, rest) ← string rest
      placed rest (names.find s)
    else .error (wrongType "variant identifier" (c :: rest)))

/-- Reads the key of an object that has a single one. -/
def keyOfText (text : List Char) : Except Fault (String × List Char) :=
  match skipSpace text with
  | [] => .error (.atNext .objectUnfinished [])
  | c :: rest =>
    if c = '"' then string rest
    else if c = '}' then .error (.atNext .valueExpected (c :: rest))
    else .error (.atNext .keyNotString (c :: rest))

/-- Reads a name from a text: a string, or an object with the name as its only key and null in it. -/
def ofText (names : Names α) (levels : Nat) : List Char → Except Fault (α × List Char) :=
  atValue (fun c rest =>
    if c = '"' then do
      let (s, rest) ← string rest
      placed rest (names.find s)
    else if c = '{' then
      if levels ≤ 1 then .error (.atNext .tooDeep (c :: rest))
      else do
        let (s, rest) ← keyOfText rest
        let (a, rest) ← placed rest (names.find s)
        let rest ← nullOfText (← afterKey rest)
        match skipSpace rest with
        | '}' :: rest => return (a, rest)
        | [] => .error (.before .objectUnfinished [])
        | rest => .error (.before .valueExpected rest)
    else .error (.atNext .valueExpected (c :: rest)))

/-- Reads a name from a value. -/
def ofValue (names : Names α) : Value → Except Misfit α
  | .string s => names.find s
  | .object [(s, content)] => do
    let a ← names.find s
    match content with
    | .null => return a
    | .object [] => return a
    | v => .error (.type (.ofValue v) "unit")
  | .object _ => .error (.value .map "map with a single key")
  | v => .error (.type (.ofValue v) "string or map")

/-- The form of an enumeration. -/
@[reducible] def form (names : Names α) : Form α where
  toValue a := .string (names.name a)
  ofText := names.ofText
  ofValue := names.ofValue

end Names

end NetGauge.Json
