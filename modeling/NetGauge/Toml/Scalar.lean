import NetGauge.Json.Scan
import NetGauge.Toml.Value
import NetGauge.Text.Digits

set_option autoImplicit false

/-! # Numbers and dates in TOML

Values without quotes: truth values, integers in four bases, floating-point numbers, and dates and
times. Digits may be grouped by single underscores. -/

namespace NetGauge.Toml

/-- A text without its underscores, each of which must stand between two digits. -/
def ungrouped? (isDigit : Char → Bool) (afterDigit : Bool) : List Char → Option (List Char)
  | [] => some []
  | c :: rest =>
    if c = '_' then
      if afterDigit && rest.head?.any isDigit then ungrouped? isDigit false rest else none
    else (ungrouped? isDigit (isDigit c) rest).map (c :: ·)

/-- The value of digits of a base, of which there must be one. -/
def grouped? (base : Nat) (cs : List Char) : Option Nat := do
  let digits ← ungrouped? (fun c => (Text.hexDigit? c).isSome) false cs
  if digits.isEmpty then none else Text.digitsValue? base digits

/-- A decimal number without leading zeros. -/
def decimal? (cs : List Char) : Option Nat :=
  if 1 < cs.length ∧ cs.head? = some '0' then none else grouped? 10 cs

/-- The sign of a number, and what follows it. -/
def signed : List Char → Bool × List Char
  | '-' :: rest => (true, rest)
  | '+' :: rest => (false, rest)
  | cs => (false, cs)

/-- An integer of at most a hundred and twenty-eight bits. -/
def integer? (cs : List Char) : Option Int := do
  let n : Int ← match cs with
    | '0' :: 'x' :: digits => (grouped? 16 digits).map Int.ofNat
    | '0' :: 'o' :: digits => (grouped? 8 digits).map Int.ofNat
    | '0' :: 'b' :: digits => (grouped? 2 digits).map Int.ofNat
    | _ =>
      let (negative, digits) := signed cs
      (decimal? digits).map (fun n => if negative then -(n : Int) else n)
  if -(Nat.pow 2 127 : Int) ≤ n ∧ n < Nat.pow 2 128 then some n else none

/-- A floating-point number: decimal digits with a fraction, an exponent or both, or a name. -/
def float? (cs : List Char) : Option Float := do
  let (negative, body) := signed cs
  let sign (x : Float) : Float := if negative then -x else x
  if body = ['i', 'n', 'f'] then return sign (1.0 / 0.0)
  else if body = ['n', 'a', 'n'] then return sign (0.0 / 0.0)
  else
    match Json.numberFrom negative (← ungrouped? Char.isDigit false body) with
    | .ok (.float x, []) => if body.any (fun c => c = '.' || c = 'e' || c = 'E') then some x else none
    | _ => none

/-! ## Dates and times -/

/-- A number of exactly so many digits at the front of a text. -/
def fixedNat? (width : Nat) (cs : List Char) : Option (Nat × List Char) := do
  let digits := cs.take width
  if digits.length = width ∧ digits.all Char.isDigit then
    return (← Text.digitsValue? 10 digits, cs.drop width)
  else none

/-- How many days a month has. -/
def daysIn (year month : Nat) : Nat :=
  if month = 2 then
    if year % 4 = 0 ∧ (year % 100 ≠ 0 ∨ year % 400 = 0) then 29 else 28
  else if [4, 6, 9, 11].contains month then 30 else 31

/-- Passes over a date. -/
def skipDate? (cs : List Char) : Option (List Char) := do
  let (year, cs) ← fixedNat? 4 cs
  let '-' :: cs := cs | none
  let (month, cs) ← fixedNat? 2 cs
  let '-' :: cs := cs | none
  let (day, cs) ← fixedNat? 2 cs
  if 1 ≤ month ∧ month ≤ 12 ∧ 1 ≤ day ∧ day ≤ daysIn year month then some cs else none

/-- Passes over hours and minutes. -/
def skipHours? (cs : List Char) : Option (List Char) := do
  let (hour, cs) ← fixedNat? 2 cs
  let ':' :: cs := cs | none
  let (minute, cs) ← fixedNat? 2 cs
  if hour ≤ 23 ∧ minute ≤ 59 then some cs else none

/-- Passes over a time of day. A minute may have a sixty-first second. -/
def skipTime? (cs : List Char) : Option (List Char) := do
  let cs ← skipHours? cs
  let ':' :: cs := cs | none
  let (second, cs) ← fixedNat? 2 cs
  if 60 < second then none
  else
    match cs with
    | '.' :: cs => if cs.head?.any Char.isDigit then some (cs.dropWhile Char.isDigit) else none
    | cs => some cs

/-- Passes over an offset, if there is one. -/
def skipOffset? : List Char → Option (List Char)
  | 'Z' :: rest | 'z' :: rest => some rest
  | '+' :: rest | '-' :: rest => skipHours? rest
  | cs => some cs

/-- Whether a text is a date, a time, or both with an offset or without. -/
def isDatetime (cs : List Char) : Bool :=
  match skipDate? cs with
  | some [] => true
  | some (mark :: time) =>
    (mark = 'T' || mark = 't' || mark = ' ') && ((skipTime? time).bind skipOffset?) == some []
  | none => skipTime? cs == some []

/-! ## Reading -/

/-- Whether a character may stand in a value without quotes. -/
def isScalarChar (c : Char) : Bool :=
  c.isAlphanum || c = '+' || c = '-' || c = '_' || c = '.' || c = ':'

/-- Splits off a value without quotes. A date and a time may have one blank between them. -/
def splitScalar (text : List Char) : List Char × List Char :=
  let first := text.takeWhile isScalarChar
  let rest := text.dropWhile isScalarChar
  match rest with
  | ' ' :: after =>
    if skipDate? first = some [] ∧ after.head?.any Char.isDigit then
      (first ++ ' ' :: after.takeWhile isScalarChar, after.dropWhile isScalarChar)
    else (first, rest)
  | _ => (first, rest)

/-- What a value without quotes stands for. -/
def scalarOf? (cs : List Char) : Option Value :=
  if cs = ['t', 'r', 'u', 'e'] then some (.bool true)
  else if cs = ['f', 'a', 'l', 's', 'e'] then some (.bool false)
  else if isDatetime cs then some (.datetime (String.ofList cs))
  else ((integer? cs).map .integer).or ((float? cs).map .float)

/-- Reads a value without quotes. -/
def plain? (text : List Char) : Option (Value × List Char) :=
  let (cs, rest) := splitScalar text
  (scalarOf? cs).map (fun v => (v, rest))

end NetGauge.Toml
