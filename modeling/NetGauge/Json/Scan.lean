import NetGauge.Json.Fault

set_option autoImplicit false

/-! # Reading the small parts of a JSON text

Blanks, words, string literals and numbers, each read from the front of a list of characters. What
a reader gives is the part it read and the characters after it, or a fault.

An integer literal is kept exact while it fits sixty-four bits; everything else becomes a double.
The leading digits of a literal go into a word for as long as they fit and only then does scaling
by a power of ten begin, so the double may differ from the nearest one in its last bit. -/

namespace NetGauge.Json

/-- The blanks that JSON allows between its parts. -/
def isSpace (c : Char) : Bool := c = ' ' || c = '\n' || c = '\t' || c = '\r'

/-- A text without leading blanks. -/
def skipSpace (text : List Char) : List Char := text.dropWhile isSpace

/-- Reads the remaining letters of a word such as `null`. -/
def word : List Char → List Char → Except Fault (List Char)
  | [], rest => .ok rest
  | _ :: _, [] => .error (.before .valueUnfinished [])
  | w :: more, c :: rest => if w = c then word more rest else .error (.atNext .wordExpected (c :: rest))

/-! ## Strings -/

/-- The value of a hexadecimal digit. -/
def hexValue (c : Char) : Option Nat :=
  if '0' ≤ c ∧ c ≤ '9' then some (c.toNat - 48)
  else if 'a' ≤ c ∧ c ≤ 'f' then some (c.toNat - 87)
  else if 'A' ≤ c ∧ c ≤ 'F' then some (c.toNat - 55)
  else none

/-- The value of four hexadecimal digits. -/
def hexFour (a b c d : Char) : Option Nat := do
  let a ← hexValue a
  let b ← hexValue b
  let c ← hexValue c
  let d ← hexValue d
  return a * 4096 + b * 256 + c * 16 + d

/-- The fault of a `\u` that four hexadecimal digits do not follow: the text ends before four bytes
    have come, or they have come and are not digits. -/
def hexFault (rest : List Char) : Fault :=
  if byteSize rest < 4 then .before .stringUnfinished [] else ⟨.invalidEscape, byteSize rest - 4⟩

/-- What the letter after a backslash stands for. -/
def simpleEscape (c : Char) : Option Char :=
  if c = '"' then some '"'
  else if c = '\\' then some '\\'
  else if c = '/' then some '/'
  else if c = 'b' then some '\x08'
  else if c = 'f' then some '\x0c'
  else if c = 'n' then some '\n'
  else if c = 'r' then some '\r'
  else if c = 't' then some '\t'
  else none

def isLeadSurrogate (n : Nat) : Bool := 0xD800 ≤ n && n ≤ 0xDBFF

def isTrailSurrogate (n : Nat) : Bool := 0xDC00 ≤ n && n ≤ 0xDFFF

/-- The character that two surrogates stand for together. -/
def joinSurrogates (lead trail : Nat) : Char :=
  Char.ofNat ((lead - 0xD800) * 1024 + (trail - 0xDC00) + 0x10000)

/-- Reads a string literal after its opening quote. `done` holds the characters read so far, the
    last one first. -/
def stringFrom (done : List Char) : List Char → Except Fault (String × List Char)
  | [] => .error (.before .stringUnfinished [])
  | c :: rest =>
    if c = '"' then .ok (String.ofList done.reverse, rest)
    else if c = '\\' then
      match rest with
      | [] => .error (.before .stringUnfinished [])
      | 'u' :: digits =>
        match digits with
        | a :: b :: c :: d :: rest =>
          match hexFour a b c d with
          | none => .error (hexFault digits)
          | some n =>
            if isTrailSurrogate n then .error (.before .loneSurrogate rest)
            else if isLeadSurrogate n then
              match rest with
              | [] => .error (.before .stringUnfinished [])
              | '\\' :: [] => .error (.before .stringUnfinished [])
              | '\\' :: 'u' :: digits =>
                match digits with
                | a :: b :: c :: d :: rest =>
                  match hexFour a b c d with
                  | none => .error (hexFault digits)
                  | some m =>
                    if isTrailSurrogate m then stringFrom (joinSurrogates n m :: done) rest
                    else .error (.before .loneSurrogate rest)
                | _ => .error (hexFault digits)
              | '\\' :: rest => .error (.atNext .hexEscapeUnfinished rest)
              | _ => .error (.atNext .hexEscapeUnfinished rest)
            else stringFrom (Char.ofNat n :: done) rest
        | _ => .error (hexFault digits)
      | e :: rest =>
        match simpleEscape e with
        | some d => stringFrom (d :: done) rest
        | none => .error (.atNext .invalidEscape (e :: rest))
    else if c.toNat < 0x20 then .error (.atNext .controlCharacter (c :: rest))
    else stringFrom (c :: done) rest

/-- Reads a string literal after its opening quote. -/
def string (text : List Char) : Except Fault (String × List Char) :=
  stringFrom [] text

/-- Passes over a string literal after its opening quote. Escapes are checked for their form only:
    any four hexadecimal digits will do. -/
def skipString : List Char → Except Fault (List Char)
  | [] => .error (.before .stringUnfinished [])
  | c :: rest =>
    if c = '"' then .ok rest
    else if c = '\\' then
      match rest with
      | [] => .error (.before .stringUnfinished [])
      | 'u' :: digits =>
        match digits with
        | a :: b :: c :: d :: rest =>
          match hexFour a b c d with
          | none => .error (hexFault digits)
          | some _ => skipString rest
        | _ => .error (hexFault digits)
      | e :: rest =>
        match simpleEscape e with
        | some _ => skipString rest
        | none => .error (.atNext .invalidEscape (e :: rest))
    else if c.toNat < 0x20 then .error (.before .controlCharacter (c :: rest))
    else skipString rest

/-! ## Numbers -/

/-- Whether a character is a decimal digit. -/
def isDigit (c : Char) : Bool := '0' ≤ c && c ≤ '9'

/-- The value of a decimal digit. -/
def digitValue (c : Char) : Nat := c.toNat - 48

/-- The greatest number of sixty-four bits. -/
def wordMax : Nat := Nat.pow 2 64 - 1

/-- The greatest exponent that is counted exactly. -/
def exponentMax : Nat := Nat.pow 2 31 - 1

/-- Digits taken into a bounded number: its value, how many there were, and the rest of the text. -/
structure Digits where
  value : Nat
  count : Nat
  rest : List Char

/-- Appends digits to `value` for as long as it stays within `bound`. -/
def takeDigits (bound value count : Nat) : List Char → Digits
  | [] => ⟨value, count, []⟩
  | c :: rest =>
    if isDigit c && value * 10 + digitValue c ≤ bound then
      takeDigits bound (value * 10 + digitValue c) (count + 1) rest
    else ⟨value, count, c :: rest⟩

/-- Whether a text begins with a digit. -/
def startsWithDigit : List Char → Bool
  | c :: _ => isDigit c
  | [] => false

/-- `value * 10 ^ exponent` by at most two scalings of the rounded value, or nothing if that leaves
    the range of doubles. -/
def scaleFloat (value : Nat) (exponent : Int) : Option Float :=
  let x := Float.ofNat value
  let power (n : Nat) : Float := OfScientific.ofScientific 1 false n
  if value == 0 then some 0.0
  else match exponent with
    | .ofNat e =>
      if e ≤ 308 then
        let y := x * power e
        if y.isInf then none else some y
      else none
    | .negSucc e =>
      if e + 1 ≤ 308 then some (x / power (e + 1))
      else if e + 1 ≤ 616 then some (x / power 308 / power (e + 1 - 308))
      else some 0.0

/-- A number with its sign, read up to `rest`. -/
def floatResult (negative : Bool) (value : Nat) (exponent : Int) (rest : List Char) :
    Except Fault (Number × List Char) :=
  match scaleFloat value exponent with
  | some x => .ok (.float (if negative then -x else x), rest)
  | none => .error (.before .numberOutOfRange rest)

/-- The sign of an exponent. -/
def exponentSign : List Char → Bool × List Char
  | '+' :: rest => (false, rest)
  | '-' :: rest => (true, rest)
  | rest => (false, rest)

/-- Reads the exponent after its mark. One too great to be counted makes zero of zero and of what
    is scaled down, and is out of range otherwise. -/
def exponentFrom (negative : Bool) (value : Nat) (exponent : Int) (text : List Char) :
    Except Fault (Number × List Char) :=
  let (down, text) := exponentSign text
  match text with
  | [] => .error (.before .valueUnfinished [])
  | c :: rest =>
    if isDigit c then
      let d := takeDigits exponentMax (digitValue c) 1 rest
      if startsWithDigit d.rest then
        if value != 0 && !down then .error (.before .numberOutOfRange (d.rest.drop 1))
        else .ok (.float (if negative then -0.0 else 0.0), d.rest.dropWhile isDigit)
      else
        floatResult negative value (if down then exponent - d.value else exponent + d.value) d.rest
    else .error (.atNext .invalidNumber (c :: rest))

/-- Whether a text begins with the mark of an exponent. -/
def startsWithExponent : List Char → Bool
  | c :: _ => c = 'e' || c = 'E'
  | [] => false

/-- Reads the digits after a point. Those that no longer fit the word are passed over. -/
def fractionFrom (negative : Bool) (value : Nat) (exponent : Int) (text : List Char) :
    Except Fault (Number × List Char) :=
  let d := takeDigits wordMax value 0 text
  if d.count == 0 && !startsWithDigit d.rest then
    match d.rest with
    | [] => .error (.atNext .valueUnfinished [])
    | rest => .error (.atNext .invalidNumber rest)
  else
    let rest := d.rest.dropWhile isDigit
    if startsWithExponent rest then exponentFrom negative d.value (exponent - d.count) (rest.drop 1)
    else floatResult negative d.value (exponent - d.count) rest

/-- What an integer literal stands for. Negative zero and what does not fit are doubles. -/
def integerResult (negative : Bool) (value : Nat) : Number :=
  if negative then
    if value == 0 || Nat.pow 2 63 < value then .float (-(Float.ofNat value)) else .integer (-value)
  else .integer value

/-- Reads a number after its sign. -/
def numberFrom (negative : Bool) : List Char → Except Fault (Number × List Char)
  | [] => .error (.before .valueUnfinished [])
  | c :: text =>
    if !isDigit c then .error (.atNext .invalidNumber (c :: text))
    else if c = '0' && startsWithDigit text then .error (.atNext .invalidNumber text)
    else
      let d := takeDigits wordMax (digitValue c) 1 text
      let long := (d.rest.takeWhile isDigit).length
      match d.rest.dropWhile isDigit with
      | '.' :: rest => fractionFrom negative d.value long rest
      | rest =>
        if startsWithExponent rest then exponentFrom negative d.value long (rest.drop 1)
        else if long == 0 then .ok (integerResult negative d.value, rest)
        else floatResult negative d.value long rest

/-- Passes over the exponent of a number after its mark. -/
def skipExponent (text : List Char) : Except Fault (List Char) :=
  match (exponentSign text).2 with
  | [] => .error (.before .invalidNumber [])
  | c :: rest =>
    if isDigit c then .ok (rest.dropWhile isDigit) else .error (.atNext .invalidNumber (c :: rest))

/-- Passes over what may follow the digits of a number. -/
def skipTail (text : List Char) : Except Fault (List Char) :=
  match text with
  | '.' :: rest =>
    if startsWithDigit rest then
      let rest := rest.dropWhile isDigit
      if startsWithExponent rest then skipExponent (rest.drop 1) else .ok rest
    else .error (.atNext .invalidNumber rest)
  | rest => if startsWithExponent rest then skipExponent (rest.drop 1) else .ok rest

/-- Passes over a number after its sign; only its form is checked. -/
def skipNumber : List Char → Except Fault (List Char)
  | [] => .error (.before .invalidNumber [])
  | c :: text =>
    if !isDigit c then .error (.atNext .invalidNumber (c :: text))
    else if c = '0' then
      if startsWithDigit text then .error (.atNext .invalidNumber text) else skipTail text
    else skipTail (text.dropWhile isDigit)

end NetGauge.Json
