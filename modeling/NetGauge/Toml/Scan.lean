import NetGauge.Text.Digits

set_option autoImplicit false

/-! # The small parts of a TOML text

Blanks, comments and line ends, strings in their four notations, and keys. Every scanner works on
the text that is left and gives back what it leaves. -/

namespace NetGauge.Toml

/-- The blanks within a line. -/
def isSpace (c : Char) : Bool := c = ' ' || c = '\t'

def skipSpace (text : List Char) : List Char := text.dropWhile isSpace

/-- Controls, which stand nowhere but in line ends; a tab counts as a blank. -/
def isControl (c : Char) : Bool := (c.toNat < 32 && c ≠ '\t') || c.toNat = 127

/-- Passes over a comment, if there is one. -/
def skipComment : List Char → List Char
  | '#' :: rest => rest.dropWhile (fun c => !isControl c)
  | text => text

/-- Passes over the end of a line: nothing but blanks and a comment may come before it. -/
def endLine? (text : List Char) : Option (List Char) :=
  match skipComment (skipSpace text) with
  | [] => some []
  | '\n' :: rest => some rest
  | '\r' :: '\n' :: rest => some rest
  | _ => none

/-- Passes over blanks, comments and line ends, for at most so many lines. -/
def skipLines (lines : Nat) (text : List Char) : List Char :=
  let text := skipSpace text
  match lines with
  | 0 => text
  | lines + 1 =>
    match text with
    | '#' :: _ | '\n' :: _ | '\r' :: _ =>
      match endLine? text with
      | some [] => []
      | some rest => skipLines lines rest
      | none => text
    | _ => text

/-- Passes over all blanks, comments and line ends. -/
def skipBlank (text : List Char) : List Char := skipLines text.length text

/-! ## Strings -/

/-- What the letter after a backslash stands for. -/
def simpleEscape? : Char → Option Char
  | 'b' => some '\x08'
  | 't' => some '\t'
  | 'n' => some '\n'
  | 'f' => some '\x0c'
  | 'r' => some '\r'
  | '"' => some '"'
  | '\\' => some '\\'
  | _ => none

/-- The character of a number. -/
def scalar? (digits : List Char) : Option Char := do
  let n ← Text.digitsValue? 16 digits
  if n.isValidChar then return Char.ofNat n else none

/-- Puts a character before what is read from the rest. -/
def push (c : Char) (read : Option (List Char × List Char)) : Option (List Char × List Char) :=
  read.map (fun (cs, rest) => (c :: cs, rest))

/-- Reads a string with escapes after its opening quote. -/
def basicString? : List Char → Option (List Char × List Char)
  | [] => none
  | '"' :: rest => some ([], rest)
  | '\\' :: 'u' :: a :: b :: c :: d :: rest => do
    push (← scalar? [a, b, c, d]) (basicString? rest)
  | '\\' :: 'U' :: a :: b :: c :: d :: e :: f :: g :: h :: rest => do
    push (← scalar? [a, b, c, d, e, f, g, h]) (basicString? rest)
  | '\\' :: letter :: rest => do push (← simpleEscape? letter) (basicString? rest)
  | c :: rest => if isControl c || c = '\\' then none else push c (basicString? rest)

/-- Reads a string without escapes after its opening quote. -/
def literalString? : List Char → Option (List Char × List Char)
  | [] => none
  | '\'' :: rest => some ([], rest)
  | c :: rest => if isControl c then none else push c (literalString? rest)

/-- Whether a text begins with blanks and the end of a line. -/
def startsWithLineEnd (text : List Char) : Bool :=
  match skipSpace text with
  | '\n' :: _ => true
  | '\r' :: '\n' :: _ => true
  | _ => false

/-- Reads a string of several lines after its opening quotes. Up to two quotes may stand before the
    closing three. While `skipping`, after a backslash at the end of a line, blanks and line ends
    are passed over. -/
def longBasicString? (skipping : Bool) : List Char → Option (List Char × List Char)
  | [] => none
  | '"' :: '"' :: '"' :: '"' :: '"' :: rest => some (['"', '"'], rest)
  | '"' :: '"' :: '"' :: '"' :: rest => some (['"'], rest)
  | '"' :: '"' :: '"' :: rest => some ([], rest)
  | '\\' :: 'u' :: a :: b :: c :: d :: rest => do
    push (← scalar? [a, b, c, d]) (longBasicString? false rest)
  | '\\' :: 'U' :: a :: b :: c :: d :: e :: f :: g :: h :: rest => do
    push (← scalar? [a, b, c, d, e, f, g, h]) (longBasicString? false rest)
  | '\\' :: letter :: rest =>
    if startsWithLineEnd (letter :: rest) then longBasicString? true (letter :: rest)
    else do push (← simpleEscape? letter) (longBasicString? false rest)
  | '\r' :: '\n' :: rest =>
    if skipping then longBasicString? true rest
    else push '\r' (push '\n' (longBasicString? false rest))
  | c :: rest =>
    if skipping && (isSpace c || c = '\n') then longBasicString? true rest
    else if (isControl c && c ≠ '\n') || c = '\\' then none
    else push c (longBasicString? false rest)

/-- Reads a string of several lines without escapes after its opening quotes. -/
def longLiteralString? : List Char → Option (List Char × List Char)
  | [] => none
  | '\'' :: '\'' :: '\'' :: '\'' :: '\'' :: rest => some (['\'', '\''], rest)
  | '\'' :: '\'' :: '\'' :: '\'' :: rest => some (['\''], rest)
  | '\'' :: '\'' :: '\'' :: rest => some ([], rest)
  | '\r' :: '\n' :: rest => push '\r' (push '\n' (longLiteralString? rest))
  | c :: rest => if isControl c && c ≠ '\n' then none else push c (longLiteralString? rest)

/-- A line end right after the opening quotes does not belong to a string of several lines. -/
def dropLineEnd : List Char → List Char
  | '\n' :: rest => rest
  | '\r' :: '\n' :: rest => rest
  | text => text

/-- Reads a string in any notation, if the text begins with a quote. -/
def string? (text : List Char) : Option (String × List Char) :=
  let made := Option.map (fun (read : List Char × List Char) => (String.ofList read.1, read.2))
  match text with
  | '"' :: '"' :: '"' :: rest => made (longBasicString? false (dropLineEnd rest))
  | '"' :: rest => made (basicString? rest)
  | '\'' :: '\'' :: '\'' :: rest => made (longLiteralString? (dropLineEnd rest))
  | '\'' :: rest => made (literalString? rest)
  | _ => none

/-! ## Keys -/

/-- Whether a character may stand in a key without quotes. -/
def isBareKey (c : Char) : Bool := c.isAlphanum || c = '-' || c = '_'

/-- Reads one part of a key. -/
def keyPart? (text : List Char) : Option (String × List Char) :=
  match text with
  | '"' :: rest => (basicString? rest).map (fun (cs, rest) => (String.ofList cs, rest))
  | '\'' :: rest => (literalString? rest).map (fun (cs, rest) => (String.ofList cs, rest))
  | _ =>
    let bare := text.takeWhile isBareKey
    if bare.isEmpty then none else some (String.ofList bare, text.dropWhile isBareKey)

/-- Reads the parts of a key between dots, at most so many. -/
def keyParts? : Nat → List Char → Option (List String × List Char)
  | 0, _ => none
  | parts + 1, text => do
    let (part, rest) ← keyPart? (skipSpace text)
    match skipSpace rest with
    | '.' :: rest =>
      let (more, rest) ← keyParts? parts rest
      return (part :: more, rest)
    | rest => return ([part], rest)

/-- How many parts a key may have. -/
def maxKeyParts : Nat := 80

/-- Reads a key, and the blanks around it. -/
def key? (text : List Char) : Option (List String × List Char) := keyParts? maxKeyParts text

end NetGauge.Toml
