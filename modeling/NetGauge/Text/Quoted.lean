import NetGauge.Text.Unprintable

set_option autoImplicit false

/-! # Quoted texts in diagnostics

A text inside a diagnostic stands between double quotes. Quotes, backslashes and the common
controls are escaped by a letter, characters that cannot be shown by their hexadecimal number in
braces, and all else stands for itself. -/

namespace NetGauge.Text

/-- A code point in small hexadecimal digits between braces. -/
def numbered (c : Char) : List Char :=
  ['\\', 'u', '{'] ++ Nat.toDigits 16 c.toNat ++ ['}']

/-- How one character looks between quotes. -/
def quotedChar (c : Char) : List Char :=
  match c with
  | '"' => ['\\', '"']
  | '\\' => ['\\', '\\']
  | '\n' => ['\\', 'n']
  | '\r' => ['\\', 'r']
  | '\t' => ['\\', 't']
  | c => if c.toNat == 0 then ['\\', '0'] else if isUnprintable c then numbered c else [c]

/-- A text between quotes. -/
def quoted (s : String) : String :=
  String.ofList ('"' :: (s.toList.flatMap quotedChar ++ ['"']))

end NetGauge.Text
