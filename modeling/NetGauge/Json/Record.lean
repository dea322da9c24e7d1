import NetGauge.Json.Form

set_option autoImplicit false

/-! # The JSON form of a record

A record is described once, by the list of its members, and the description gives its writer and
its readers. An object may name the members in any order and may hold others, which are passed
over; an array lists them in their order. A member that is absent is an error, or keeps the value
it has in `blank`. A name that comes twice is an error where the repetition can still be seen.

A misfit that concerns the record as a whole is placed only after an attempt to move past the
closing bracket: the position reported is where that attempt ends. -/

namespace NetGauge.Json

/-- Whether a member may be absent. -/
inductive Presence where
  | required
  /-- May be absent from an object but not from an array. -/
  | requiredInArray
  | optional
  deriving DecidableEq

/-- One member of a record. -/
structure Member (σ : Type) where
  name : String
  presence : Presence
  /-- What is written, or nothing when the member is left out. -/
  write : σ → Option Value
  ofText : Nat → σ → List Char → Except Fault (σ × List Char)
  ofValue : σ → Value → Except Misfit σ

namespace Member

variable {σ α : Type}

/-- A member given by its getter and setter. -/
def of [Form α] (presence : Presence) (name : String) (get : σ → α) (set : σ → α → σ) : Member σ where
  name := name
  presence := presence
  write r := some (Form.toValue (get r))
  ofText levels r text := do
    let (a, rest) ← Form.ofText levels text
    return (set r a, rest)
  ofValue r v := (Form.ofValue v).map (set r)

/-- A member that is left out where it has no value. -/
def sparse [Form α] (name : String) (get : σ → Option α) (set : σ → Option α → σ) : Member σ :=
  { of .optional name get set with write := fun r => (get r).map Form.toValue }

end Member

/-- A record: what diagnostics call it, its value before anything is read, and its members. -/
structure Record (σ : Type) where
  name : String
  blank : σ
  members : List (Member σ)
  /-- Whether it can be read from an array. -/
  positional : Bool := true

/-- Why reading the inside of a record stopped. A misfit still waits for its place. -/
inductive Halt where
  | fault (f : Fault)
  | misfit (m : Misfit) (rest : List Char)

namespace Halt

/-- A reader's fault inside a record. -/
def lift {α : Type} : Except Fault α → Except Halt α
  | .ok a => .ok a
  | .error f => .error (.fault f)

/-- Places a misfit at the end of an attempt to leave the record. -/
def place (leave : List Char → List Char) : Halt → Fault
  | .fault f => f
  | .misfit m rest => m.before (leave rest)

end Halt

/-- Where an attempt to leave an array ends. -/
def leaveList (text : List Char) : List Char :=
  match skipSpace text with
  | ']' :: rest => rest
  | ',' :: rest => skipSpace rest
  | rest => rest

/-- Where an attempt to leave an object ends. -/
def leaveObject (text : List Char) : List Char :=
  match skipSpace text with
  | '}' :: rest => rest
  | rest => rest

namespace Record

variable {σ : Type} (r : Record σ)

/-- The member of a name. -/
def member? (name : String) : Option (Member σ) := r.members.find? (fun m => m.name == name)

/-- The first required member that has not been seen. -/
def missing? (seen : List String) : Option String :=
  (r.members.find? (fun m => m.presence == .required && !seen.contains m.name)).map Member.name

/-- What diagnostics say about the length of an array for this record. -/
def lengthName : String :=
  r.name ++ " with " ++ toString r.members.length ++
    (if r.members.length == 1 then " element" else " elements")

/-- The record as an object. -/
def toValue (a : σ) : Value :=
  .object (r.members.filterMap (fun m => (m.write a).map (fun v => (m.name, v))))

/-- Reads the members of an object up to its closing brace. -/
def membersOfText (levels : Nat) :
    Nat → Bool → List String → σ → List Char → Except Halt (σ × List Char)
  | 0, _, _, _, text => .error (.fault (.before .objectUnfinished text))
  | fuel + 1, first, seen, a, text => do
    match ← Halt.lift (nextKey first text) with
    | (none, rest) =>
      match r.missing? seen with
      | some name => .error (.misfit (.missingField name) rest)
      | none => return (a, rest)
    | (some name, rest) =>
      match r.member? name with
      | some m =>
        if seen.contains name then .error (.misfit (.duplicateField name) rest)
        else
          let (a, rest) ← Halt.lift (do m.ofText levels a (← afterKey rest))
          membersOfText levels fuel false (name :: seen) a rest
      | none =>
        let rest ← Halt.lift (do skipValue (← afterKey rest))
        membersOfText levels fuel false seen a rest

/-- Reads the elements of an array in the order of the members. -/
def elementsOfText (levels : Nat) :
    List (Member σ) → Nat → σ → List Char → Except Halt (σ × List Char)
  | [], _, a, text => .ok (a, text)
  | m :: members, index, a, text => do
    let (more, rest) ← Halt.lift (nextElement (index == 0) text)
    if more then
      let (a, rest) ← Halt.lift (m.ofText levels a rest)
      elementsOfText levels members (index + 1) a rest
    else if m.presence == .optional then
      elementsOfText levels members (index + 1) a rest
    else
      .error (.misfit (.length index r.lengthName) rest)

/-- Reads a record from a text. -/
def ofText (levels : Nat) : List Char → Except Fault (σ × List Char) :=
  atValue (fun c rest =>
    if c = '{' then
      match levels with
      | levels + 2 =>
        match r.membersOfText (levels + 1) (rest.length + 1) true [] r.blank rest with
        | .ok (a, rest) => do return (a, ← endObject rest)
        | .error h => .error (h.place leaveObject)
      | _ => .error (.atNext .tooDeep (c :: rest))
    else if c = '[' then
      match levels with
      | levels + 2 =>
        if r.positional then
          match r.elementsOfText (levels + 1) r.members 0 r.blank rest with
          | .ok (a, rest) => do return (a, ← endList rest)
          | .error h => .error (h.place leaveList)
        else .error ((Halt.misfit (.type .sequence r.name) rest).place leaveList)
      | _ => .error (.atNext .tooDeep (c :: rest))
    else .error (wrongType r.name (c :: rest)))

/-- Reads members that have been read as values. -/
def membersOfValue : List String → σ → List (String × Value) → Except Misfit σ
  | seen, a, [] =>
    match r.missing? seen with
    | some name => .error (.missingField name)
    | none => .ok a
  | seen, a, (name, v) :: rest =>
    match r.member? name with
    | some m =>
      if seen.contains name then .error (.duplicateField name)
      else do membersOfValue (name :: seen) (← m.ofValue a v) rest
    | none => membersOfValue seen a rest

/-- Reads elements that have been read as values. -/
def elementsOfValue (total : Nat) : List (Member σ) → Nat → σ → List Value → Except Misfit σ
  | [], _, a, [] => .ok a
  | [], _, _, _ :: _ => .error (.length total "fewer elements in array")
  | m :: members, index, a, [] =>
    if m.presence == .optional then elementsOfValue total members (index + 1) a []
    else .error (.length index r.lengthName)
  | m :: members, index, a, v :: rest => do
    elementsOfValue total members (index + 1) (← m.ofValue a v) rest

/-- Reads a record from a value. -/
def ofValue : Value → Except Misfit σ
  | .object members => r.membersOfValue [] r.blank members
  | .array elements =>
    if r.positional then r.elementsOfValue elements.length r.members 0 r.blank elements
    else .error (.type .sequence r.name)
  | v => .error (.type (.ofValue v) r.name)

/-- The form that a description gives. -/
@[reducible] def form : Form σ where
  toValue := r.toValue
  ofText := r.ofText
  ofValue := r.ofValue

end Record

end NetGauge.Json
