import NetGauge.Json.Scan

set_option autoImplicit false

/-! # Reading JSON values

A value is read from the front of a text. Every open array or object takes one off the number of
levels that remain, and the text is refused when none is left. A value that nobody asked for is
passed over instead: `skipValue` keeps the open brackets on a stack of its own, knows no limit of
nesting, and checks the form of what it passes.

The steps between the parts of arrays and objects (`nextElement`, `nextKey`, `afterKey`, `endList`,
`endObject`) are shared by all readers, so all of them refuse a text in the same words. -/

namespace NetGauge.Json

/-- How many arrays and objects may be open at once. -/
def nestingLimit : Nat := 128

/-! ## The steps inside arrays and objects -/

/-- Moves to the next element of an array, or to the closing bracket when there is none. -/
def nextElement (first : Bool) (text : List Char) : Except Fault (Bool × List Char) :=
  match skipSpace text with
  | [] => .error (.atNext .listUnfinished [])
  | c :: rest =>
    if c = ']' then .ok (false, c :: rest)
    else if first then .ok (true, c :: rest)
    else if c = ',' then
      match skipSpace rest with
      | [] => .error (.atNext .valueUnfinished [])
      | d :: rest => if d = ']' then .error (.atNext .trailingComma (d :: rest)) else .ok (true, d :: rest)
    else .error (.atNext .listCommaOrEndExpected (c :: rest))

/-- Reads the next name of an object, or moves to the closing brace when there is none. -/
def nextKey (first : Bool) (text : List Char) : Except Fault (Option String × List Char) :=
  let key (text : List Char) : Except Fault (Option String × List Char) := do
    let (name, rest) ← string text
    return (some name, rest)
  match skipSpace text with
  | [] => .error (.atNext .objectUnfinished [])
  | c :: rest =>
    if c = '}' then .ok (none, c :: rest)
    else if first then
      if c = '"' then key rest else .error (.atNext .keyNotString (c :: rest))
    else if c = ',' then
      match skipSpace rest with
      | [] => .error (.atNext .valueUnfinished [])
      | d :: rest =>
        if d = '"' then key rest
        else if d = '}' then .error (.atNext .trailingComma (d :: rest))
        else .error (.atNext .keyNotString (d :: rest))
    else .error (.atNext .objectCommaOrEndExpected (c :: rest))

/-- Moves past the colon after a name. -/
def afterKey (text : List Char) : Except Fault (List Char) :=
  match skipSpace text with
  | [] => .error (.atNext .objectUnfinished [])
  | c :: rest => if c = ':' then .ok rest else .error (.atNext .colonExpected (c :: rest))

/-- Moves past the closing bracket. -/
def endList (text : List Char) : Except Fault (List Char) :=
  match skipSpace text with
  | [] => .error (.atNext .listUnfinished [])
  | c :: rest =>
    if c = ']' then .ok rest
    else if c = ',' then
      match skipSpace rest with
      | [] => .error (.atNext .trailingCharacters [])
      | d :: rest =>
        if d = ']' then .error (.atNext .trailingComma (d :: rest))
        else .error (.atNext .trailingCharacters (d :: rest))
    else .error (.atNext .trailingCharacters (c :: rest))

/-- Moves past the closing brace. -/
def endObject (text : List Char) : Except Fault (List Char) :=
  match skipSpace text with
  | [] => .error (.atNext .objectUnfinished [])
  | c :: rest =>
    if c = '}' then .ok rest
    else if c = ',' then .error (.atNext .trailingComma (c :: rest))
    else .error (.atNext .trailingCharacters (c :: rest))

/-! ## Values -/

/-- Reads elements up to the closing bracket, `one` reading a single element. The fuel is the
    length of the text, for every element takes at least one character. -/
def elementsFrom {α : Type} (one : List Char → Except Fault (α × List Char)) :
    Nat → Bool → List α → List Char → Except Fault (List α × List Char)
  | 0, _, _, text => .error (.before .listUnfinished text)
  | fuel + 1, first, done, text => do
    let (more, rest) ← nextElement first text
    if more then
      let (a, rest) ← one rest
      elementsFrom one fuel false (a :: done) rest
    else
      return (done.reverse, rest)

/-- Reads the members of an object up to the closing brace, `one` reading a single value. -/
def membersFrom {α : Type} (one : List Char → Except Fault (α × List Char)) :
    Nat → Bool → List (String × α) → List Char → Except Fault (List (String × α) × List Char)
  | 0, _, _, text => .error (.before .objectUnfinished text)
  | fuel + 1, first, done, text => do
    match ← nextKey first text with
    | (some name, rest) =>
      let rest ← afterKey rest
      let (a, rest) ← one rest
      membersFrom one fuel false ((name, a) :: done) rest
    | (none, rest) => return (done.reverse, rest)

/-- Reads a value with so many levels left. -/
def valueFrom : Nat → List Char → Except Fault (Value × List Char)
  | levels, text =>
    match skipSpace text with
    | [] => .error (.atNext .valueUnfinished [])
    | c :: rest =>
      if c = 'n' then do return (.null, ← word ['u', 'l', 'l'] rest)
      else if c = 't' then do return (.bool true, ← word ['r', 'u', 'e'] rest)
      else if c = 'f' then do return (.bool false, ← word ['a', 'l', 's', 'e'] rest)
      else if c = '-' then do
        let (n, rest) ← numberFrom true rest
        return (.number n, rest)
      else if isDigit c then do
        let (n, rest) ← numberFrom false (c :: rest)
        return (.number n, rest)
      else if c = '"' then do
        let (s, rest) ← string rest
        return (.string s, rest)
      else if c = '[' then
        match levels with
        | levels + 2 => do
          let (elements, rest) ← elementsFrom (valueFrom (levels + 1)) (rest.length + 1) true [] rest
          return (.array elements, ← endList rest)
        | _ => .error (.atNext .tooDeep (c :: rest))
      else if c = '{' then
        match levels with
        | levels + 2 => do
          let (members, rest) ← membersFrom (valueFrom (levels + 1)) (rest.length + 1) true [] rest
          return (.object members, ← endObject rest)
        | _ => .error (.atNext .tooDeep (c :: rest))
      else .error (.atNext .valueExpected (c :: rest))

/-! ## Passing over a value -/

/-- An open bracket of a value that is passed over. -/
inductive Bracket where
  | list
  | object
  deriving DecidableEq

def Bracket.close : Bracket → Char
  | .list => ']'
  | .object => '}'

/-- What is wrong when neither a comma nor the closing bracket follows. -/
def Bracket.commaOrEnd : Bracket → Reason
  | .list => .listCommaOrEndExpected
  | .object => .objectCommaOrEndExpected

def Bracket.unfinished : Bracket → Reason
  | .list => .listUnfinished
  | .object => .objectUnfinished

/-- Closes brackets until a further part follows. Right after an opening bracket no comma may
    come. Gives the brackets still open around the part that follows, or none of them. -/
def closeBrackets (afterPart : Bool) : List Bracket → List Char → Except Fault (List Bracket × List Char)
  | [], text => .ok ([], text)
  | b :: outer, text =>
    match skipSpace text with
    | [] => .error (.atNext b.unfinished [])
    | c :: rest =>
      if afterPart && c = ',' then .ok (b :: outer, rest)
      else if c = b.close then closeBrackets true outer rest
      else if afterPart then .error (.atNext b.commaOrEnd (c :: rest))
      else .ok (b :: outer, c :: rest)

/-- Passes over a name and its colon. -/
def skipKey (text : List Char) : Except Fault (List Char) :=
  match skipSpace text with
  | [] => .error (.atNext .objectUnfinished [])
  | c :: rest =>
    if c = '"' then do afterKey (← skipString rest) else .error (.atNext .keyNotString (c :: rest))

/-- Passes over the first part of a value: a scalar as a whole, or an opening bracket. -/
def skipPart (text : List Char) : Except Fault (Option Bracket × List Char) :=
  match skipSpace text with
  | [] => .error (.atNext .valueUnfinished [])
  | c :: rest =>
    if c = 'n' then do return (none, ← word ['u', 'l', 'l'] rest)
    else if c = 't' then do return (none, ← word ['r', 'u', 'e'] rest)
    else if c = 'f' then do return (none, ← word ['a', 'l', 's', 'e'] rest)
    else if c = '-' then do return (none, ← skipNumber rest)
    else if isDigit c then do return (none, ← skipNumber (c :: rest))
    else if c = '"' then do return (none, ← skipString rest)
    else if c = '[' then return (some .list, rest)
    else if c = '{' then return (some .object, rest)
    else .error (.atNext .valueExpected (c :: rest))

/-- Passes over a value inside the given open brackets. The fuel is the length of the text, for
    every step takes at least one character. -/
def skipFrom : Nat → List Bracket → List Char → Except Fault (List Char)
  | 0, _, text => .error (.before .valueUnfinished text)
  | fuel + 1, brackets, text => do
    let (opened, rest) ← skipPart text
    let (brackets, rest) ← match opened with
      | some b => closeBrackets false (b :: brackets) rest
      | none => closeBrackets true brackets rest
    match brackets with
    | [] => return rest
    | .list :: _ => skipFrom fuel brackets rest
    | .object :: _ => skipFrom fuel brackets (← skipKey rest)

/-- Passes over a value. -/
def skipValue (text : List Char) : Except Fault (List Char) :=
  skipFrom (text.length + 1) [] text

/-! ## Whole texts -/

/-- Refuses characters after a value. -/
def endText (text : List Char) : Except Fault Unit :=
  match skipSpace text with
  | [] => .ok ()
  | rest => .error (.atNext .trailingCharacters rest)

/-- Reads a text that holds one value and nothing else. -/
def whole {α : Type} (read : Nat → List Char → Except Fault (α × List Char)) (text : String) :
    Except Fault α := do
  let (a, rest) ← read nestingLimit text.toList
  endText rest
  return a

/-- The value that a text holds. -/
def Value.parse (text : String) : Except Fault Value := whole valueFrom text

end NetGauge.Json
