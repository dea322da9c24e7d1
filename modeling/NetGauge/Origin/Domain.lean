import NetGauge.Origin.Spelling
import NetGauge.Text.Composition
import NetGauge.Text.Direction
import NetGauge.Text.Joining
import NetGauge.Text.Punycode

set_option autoImplicit false

/-! # Domain names

A domain name is a series of labels with dots between them. It is looked up in ASCII, where a label
with other characters is encoded behind `xn--`. Before that every character is spelled in the one
way that counts and the whole is composed; a label that comes encoded must hold nothing that would
have been spelled or composed in another way. -/

namespace NetGauge.Origin.Domain

open Text (Direction)

/-- A label as it is read: ASCII as it stands, or the text of a label that is encoded in ASCII. -/
inductive Label where
  | ascii (text : List Char)
  | encoded (text : List Char)
  deriving DecidableEq

/-- The characters of a label, decoded. -/
def Label.text : Label → List Char
  | .ascii text => text
  | .encoded text => text

/-- Whether all characters are ASCII. -/
def isAscii (cs : List Char) : Bool := cs.all (fun c => c.toNat < 128)

/-- What an encoded label begins with. -/
def mark : List Char := ['x', 'n', '-', '-']

/-! ## Spelling -/

/-- Characters that have a meaning elsewhere in an origin. -/
def isDelimiter (c : Char) : Bool :=
  [' ', '#', '/', ':', '<', '>', '?', '@', '[', '\\', ']', '^', '|'].contains c

/-- Characters that no name has: controls and delimiters. -/
def isForbidden (c : Char) : Bool := c.toNat < 32 || c.toNat = 127 || c = '%' || isDelimiter c

/-- A name in the one spelling that counts, composed. -/
def spelled? (name : List Char) : Option (List Char) := do
  let spelled ← name.mapM Spelling.spelled?
  let name := Text.compose spelled.flatten
  if name.any isForbidden then none else some name

/-! ## Labels -/

/-- A character that joins its neighbours, or keeps them apart, may stand behind a virama; the one
    that keeps them apart also between letters that would be joined. -/
def joinerFits (before after : List Char) (joiner : Char) : Bool :=
  match before with
  | [] => false
  | c :: _ =>
    Text.isVirama c ||
      (joiner = '\u200C' && Text.meetsJoining Text.joinsAfter before &&
        Text.meetsJoining Text.joinsBefore after)

/-- Whether all joiners of a text fit where they stand, after what came before it, last character
    first. -/
def joinersFit (before : List Char) : List Char → Bool
  | [] => true
  | c :: after =>
    ((c ≠ '\u200C' && c ≠ '\u200D') || joinerFits before after c) && joinersFit (c :: before) after

/-- How long a label beyond ASCII may be. -/
def maxLength : Nat := 1000

/-- How long the encoded part of a label may be. -/
def maxEncodedLength : Nat := 2000

/-- Whether a label beyond ASCII may hold a text: it is spelled and composed as it has to be, does not
    begin with a mark, and its joiners fit. -/
def mayHold (text : List Char) : Bool :=
  text.all Spelling.isPlain && !text.any isForbidden && Text.compose text = text &&
    !text.head?.any Text.isMark && joinersFit [] text && text.length ≤ maxLength

/-- Decodes what follows the mark of an encoded label. -/
def decoded? (coded : List Char) : Option (List Char) :=
  if isAscii coded ∧ coded.getLast? ≠ none ∧ coded.getLast? ≠ some '-' ∧
      coded.length ≤ maxEncodedLength then
    Text.Punycode.decode? coded
  else none

/-- A label beyond ASCII, if it may hold its text. -/
def encoded? (text : List Char) : Option Label :=
  if mayHold text then some (.encoded text) else none

/-- Reads a label, which holds nothing by now that stands for something else. -/
def label? (cs : List Char) : Option Label :=
  match cs with
  | 'x' :: 'n' :: '-' :: '-' :: coded => (decoded? coded).bind encoded?
  | _ =>
    if !isAscii cs then encoded? cs
    else if cs.all Spelling.isPlain then some (.ascii cs)
    else none

/-- What is written for a label. -/
def Label.written : Label → List Char
  | .ascii text => text
  | .encoded text => mark ++ Text.Punycode.encode text

/-! ## Directions -/

/-- The classes that a text from left to right may hold behind its first character. -/
def inLeftToRight : List Direction :=
  [.leftToRight, .europeanNumber, .numberSign, .numberSeparator, .numberUnit, .neutral,
    .boundaryNeutral, .mark]

/-- The classes that a text from right to left may hold behind its first character. -/
def inRightToLeft : List Direction :=
  [.rightToLeft, .arabicLetter, .arabicNumber, .europeanNumber, .numberSign, .numberSeparator,
    .numberUnit, .neutral, .boundaryNeutral, .mark]

/-- Whether a label reads unambiguously in a name that has text of both directions: it begins with a
    letter, ends in a letter or a number, marks aside, and holds what its direction allows, with
    numbers of one kind. -/
def isOrdered (label : List Char) : Bool :=
  match label.map Direction.ofChar with
  | [] => true
  | first :: rest =>
    let rest := (rest.reverse.dropWhile (· = .mark)).reverse
    let last := rest.getLast?.getD first
    if first = .leftToRight then
      rest.all inLeftToRight.contains && [.leftToRight, .europeanNumber].contains last
    else if first = .rightToLeft ∨ first = .arabicLetter then
      rest.all inRightToLeft.contains &&
        [.rightToLeft, .arabicLetter, .europeanNumber, .arabicNumber].contains last &&
        !(rest.contains .europeanNumber && rest.contains .arabicNumber)
    else false

/-- Whether some character of a label makes the name one of two directions. -/
def hasRightToLeft (label : Label) : Bool :=
  match label with
  | .ascii _ => false
  | .encoded text => text.any (fun c => (Direction.ofChar c).isRightToLeft)

/-- Whether all labels of a name read unambiguously, if any has text from right to left. -/
def areOrdered (labels : List Label) : Bool :=
  !labels.any hasRightToLeft || labels.all (fun label => isOrdered label.text)

/-! ## Names -/

/-- The ASCII form of a name, if it is one. -/
def ascii? (name : List Char) : Option (List Char) := do
  let labels ← ((← spelled? name).splitOn '.').mapM label?
  if areOrdered labels then some (['.'].intercalate (labels.map Label.written)) else none

end NetGauge.Origin.Domain
