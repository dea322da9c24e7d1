import NetGauge.Json.NumberText

set_option autoImplicit false

/-! # Writing JSON

Two layouts of one value: compact, without any blanks, and indented by two blanks a level, where
an empty array or object keeps its brackets together. Inside a string only the quote, the
backslash and the controls are escaped. -/

namespace NetGauge.Json

/-- One small hexadecimal digit. -/
def hexDigit (n : Nat) : Char := Nat.digitChar n

/-- How one character is written inside a string. -/
def escapeChar (c : Char) : List Char :=
  if c = '"' then ['\\', '"']
  else if c = '\\' then ['\\', '\\']
  else if c.toNat < 0x20 then
    match c.toNat with
    | 8 => ['\\', 'b']
    | 9 => ['\\', 't']
    | 10 => ['\\', 'n']
    | 12 => ['\\', 'f']
    | 13 => ['\\', 'r']
    | n => ['\\', 'u', '0', '0', hexDigit (n / 16), hexDigit (n % 16)]
  else [c]

/-- A string literal. -/
def stringText (s : String) : List Char :=
  '"' :: (s.toList.flatMap escapeChar ++ ['"'])

mutual

/-- The compact text of a value. -/
def Value.text : Value → List Char
  | .null => ['n', 'u', 'l', 'l']
  | .bool true => ['t', 'r', 'u', 'e']
  | .bool false => ['f', 'a', 'l', 's', 'e']
  | .number n => n.text
  | .string s => stringText s
  | .array elements => '[' :: elementsText elements
  | .object members => '{' :: membersText members

/-- The elements of an array with the closing bracket. -/
def elementsText : List Value → List Char
  | [] => [']']
  | v :: rest => v.text ++ moreElementsText rest

/-- Further elements, each after a comma. -/
def moreElementsText : List Value → List Char
  | [] => [']']
  | v :: rest => ',' :: (v.text ++ moreElementsText rest)

/-- The members of an object with the closing brace. -/
def membersText : List (String × Value) → List Char
  | [] => ['}']
  | (name, v) :: rest => stringText name ++ ':' :: (v.text ++ moreMembersText rest)

/-- Further members, each after a comma. -/
def moreMembersText : List (String × Value) → List Char
  | [] => ['}']
  | (name, v) :: rest => ',' :: (stringText name ++ ':' :: (v.text ++ moreMembersText rest))

end

/-- A value in its compact layout. -/
def Value.compact (v : Value) : String := String.ofList v.text

/-- A line break and the blanks of a level. -/
def lineBreak (level : Nat) : List Char := '\n' :: List.replicate (2 * level) ' '

mutual

/-- The indented text of a value that stands at a level. -/
def Value.indentedText (level : Nat) : Value → List Char
  | .array [] => ['[', ']']
  | .array (v :: rest) =>
    '[' :: (lineBreak (level + 1) ++ (v.indentedText (level + 1) ++
      (indentedElements (level + 1) rest ++ (lineBreak level ++ [']']))))
  | .object [] => ['{', '}']
  | .object ((name, v) :: rest) =>
    '{' :: (lineBreak (level + 1) ++ (stringText name ++ (':' :: ' ' :: (v.indentedText (level + 1) ++
      (indentedMembers (level + 1) rest ++ (lineBreak level ++ ['}']))))))
  | .null => ['n', 'u', 'l', 'l']
  | .bool true => ['t', 'r', 'u', 'e']
  | .bool false => ['f', 'a', 'l', 's', 'e']
  | .number n => n.text
  | .string s => stringText s

/-- Further elements, each on a line of its own. -/
def indentedElements (level : Nat) : List Value → List Char
  | [] => []
  | v :: rest => ',' :: (lineBreak level ++ (v.indentedText level ++ indentedElements level rest))

/-- Further members, each on a line of its own. -/
def indentedMembers (level : Nat) : List (String × Value) → List Char
  | [] => []
  | (name, v) :: rest =>
    ',' :: (lineBreak level ++ (stringText name ++ (':' :: ' ' :: (v.indentedText level ++
      indentedMembers level rest))))

end

/-- A value in its indented layout. -/
def Value.indented (v : Value) : String := String.ofList (v.indentedText 0)

/-! ## Strings -/

/-- A hexadecimal digit is not a control. -/
theorem le_toNat_hexDigit (n : Nat) (h : n < 16) : 0x30 ≤ (hexDigit n).toNat := by
  have key : ∀ k : Fin 16, 0x30 ≤ (hexDigit k).toNat := by decide
  exact key ⟨n, h⟩

/-- What stands for a control in a string is a backslash with letters and digits. -/
theorem escapeChar_printable (c d : Char) (h : d ∈ escapeChar c) (hc : c.toNat < 0x20) :
    d.toNat = 0x5C ∨ 0x30 ≤ d.toNat := by
  have quote : c ≠ '"' := by rintro rfl; exact absurd hc (by decide)
  have backslash : c ≠ '\\' := by rintro rfl; exact absurd hc (by decide)
  simp only [escapeChar, quote, backslash, if_false, hc, if_true] at h
  split at h
  case h_6 =>
    simp only [List.mem_cons, List.not_mem_nil, or_false] at h
    rcases h with rfl | rfl | rfl | rfl | rfl | rfl
    · exact Or.inl (by decide)
    · exact Or.inr (by decide)
    · exact Or.inr (by decide)
    · exact Or.inr (by decide)
    · exact Or.inr (le_toNat_hexDigit _ (by omega))
    · exact Or.inr (le_toNat_hexDigit _ (by omega))
  all_goals
    simp only [List.mem_cons, List.not_mem_nil, or_false] at h
    rcases h with rfl | rfl
    · exact Or.inl (by decide)
    · exact Or.inr (by decide)

end NetGauge.Json
