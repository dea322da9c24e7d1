import NetGauge.Json.Form

set_option autoImplicit false

/-! # TOML values

What a TOML document may hold, and how a type is read from it. Reading tells nothing about why a
value does not fit: a document is taken as a whole or not at all. -/

namespace NetGauge.Toml

/-- A TOML value. Dates and times are kept as they are written. -/
inductive Value where
  | string (value : String)
  | integer (value : Int)
  | float (value : Float)
  | bool (value : Bool)
  | datetime (text : String)
  | array (elements : List Value)
  | table (members : List (String × Value))

/-- A type that can be read from a value. -/
class Readable (α : Type) where
  ofValue? : Value → Option α

instance : Readable String where
  ofValue?
    | .string s => some s
    | _ => none

/-- Reads a natural number below a bound. -/
def natBelow? (bound : Nat) : Value → Option Nat
  | .integer n => if 0 ≤ n ∧ n < bound then some n.toNat else none
  | _ => none

instance : Readable UInt16 where
  ofValue? v := (natBelow? UInt16.size v).map .ofNat

instance : Readable UInt32 where
  ofValue? v := (natBelow? UInt32.size v).map .ofNat

instance : Readable UInt64 where
  ofValue? v := (natBelow? UInt64.size v).map .ofNat

instance {α : Type} [Readable α] : Readable (List α) where
  ofValue?
    | .array elements => elements.mapM Readable.ofValue?
    | _ => none

/-- Reads one of several names, which may also be written as the name of the only member of a
    table that says nothing more. -/
def ofNames? {α : Type} (names : Json.Names α) : Value → Option α
  | .string s => names.all.lookup s
  | .table [(name, .table [])] => names.all.lookup name
  | .table [(name, .array [])] => names.all.lookup name
  | _ => none

/-! ## Structures -/

/-- A member of a structure: its name, and how a value changes the structure. -/
structure Slot (α : Type) where
  name : String
  put? : Value → α → Option α

/-- A member with its own type. -/
def Slot.of {α β : Type} [Readable β] (name : String) (put : α → β → α) : Slot α :=
  ⟨name, fun v a => (Readable.ofValue? v).map (put a)⟩

/-- Reads a structure all of whose members may be missing from a table. In an array they stand in
    order and none may be missing. A date knows none of them. -/
def structure? {α : Type} (blank : α) (slots : List (Slot α)) : Value → Option α
  | .table members =>
    slots.foldlM (fun a slot =>
      match members.lookup slot.name with
      | some v => slot.put? v a
      | none => some a) blank
  | .array elements =>
    if elements.length < slots.length then none
    else (slots.zip elements).foldlM (fun a (slot, v) => slot.put? v a) blank
  | .datetime _ => some blank
  | _ => none

/-- A member of a table, or what stands for it when it is missing. -/
def member? {α : Type} [Readable α] (members : List (String × Value)) (name : String)
    (missing : Option α) : Option α :=
  match members.lookup name with
  | some v => Readable.ofValue? v
  | none => missing

end NetGauge.Toml
