set_option autoImplicit false

/-! # JSON values

A value keeps what its text says: integers apart from other numbers, and the members of an object
in their written order, repetitions included. `Value.sorted` is the form in which a free value is
kept: each name once with its last value, the names in increasing order. -/

namespace NetGauge.Json

/-- A number, an integer literal being kept exact. -/
inductive Number where
  | integer (value : Int)
  | float (value : Float)

/-- A JSON value. -/
inductive Value where
  | null
  | bool (value : Bool)
  | number (value : Number)
  | string (value : String)
  | array (elements : List Value)
  | object (members : List (String × Value))

instance : Inhabited Value := ⟨.null⟩

/-- Puts a member into members sorted by name, in place of one of the same name. -/
def insertMember {α : Type} (name : String) (value : α) : List (String × α) → List (String × α)
  | [] => [(name, value)]
  | (other, old) :: rest =>
    if name < other then (name, value) :: (other, old) :: rest
    else if name = other then (name, value) :: rest
    else (other, old) :: insertMember name value rest

mutual

/-- Every object in increasing order of names, the last of equal names winning. -/
def Value.sorted : Value → Value
  | .array elements => .array (sortedElements elements)
  | .object members => .object ((sortedMembers members).foldl (fun done m => insertMember m.1 m.2 done) [])
  | v => v

/-- The elements of an array, each in its sorted form. -/
def sortedElements : List Value → List Value
  | [] => []
  | v :: rest => v.sorted :: sortedElements rest

/-- The members of an object, each value in its sorted form. -/
def sortedMembers : List (String × Value) → List (String × Value)
  | [] => []
  | (name, v) :: rest => (name, v.sorted) :: sortedMembers rest

end

namespace Value

/-- An integer value. -/
def int (n : Int) : Value := .number (.integer n)

/-- A natural number as a value. -/
def nat (n : Nat) : Value := .number (.integer n)

/-- A floating-point value. -/
def float (x : Float) : Value := .number (.float x)

/-- The value itself, or null where there is none. -/
def ofOption {α : Type} (write : α → Value) : Option α → Value
  | none => .null
  | some a => write a

/-- An array of written elements. -/
def ofList {α : Type} (write : α → Value) (elements : List α) : Value :=
  .array (elements.map write)

/-- The last member of a name. -/
def get? (name : String) : Value → Option Value
  | .object members => (members.reverse.find? (fun m => m.1 == name)).map Prod.snd
  | _ => none

end Value

/-! ## Sorted members -/

/-- Putting a member in makes its name present and keeps the other names. -/
theorem mem_insertMember {α : Type} (name : String) (value : α) (members : List (String × α))
    (other : String) :
    other ∈ (insertMember name value members).map Prod.fst ↔
      other = name ∨ other ∈ members.map Prod.fst := by
  induction members with
  | nil => simp [insertMember]
  | cons m rest ih =>
    obtain ⟨key, old⟩ := m
    unfold insertMember
    split
    · simp
    · split
      · next h => subst h; simp
      · simp only [List.map_cons, List.mem_cons, ih]
        constructor
        · rintro (h | h | h) <;> simp [h]
        · rintro (h | h | h) <;> simp [h]

end NetGauge.Json
