import NetGauge.Json.NumberText
import NetGauge.Text.Quoted

set_option autoImplicit false

/-! # What is wrong with a JSON text

Two kinds of refusal. A `Misfit` says that a well-formed value is not what its reader expected; it
knows no place. A `Fault` is a refusal at a place of a text: a breach of the JSON grammar, or a
misfit together with where it was noticed. A place is kept as the number of bytes that were still
unread, from which `Position.ofUnread` computes line and column once the whole text is known. -/

namespace NetGauge.Json

/-- What a reader met instead of what it expected. -/
inductive Found where
  | null
  | bool (value : Bool)
  | number (value : Number)
  | string (value : String)
  | sequence
  | map

/-- What a value looks like to a reader that did not expect it. -/
def Found.ofValue : Value → Found
  | .null => .null
  | .bool b => .bool b
  | .number n => .number n
  | .string s => .string s
  | .array _ => .sequence
  | .object _ => .map

/-- The words for what was met. -/
def Found.describe : Found → String
  | .null => "null"
  | .bool true => "boolean `true`"
  | .bool false => "boolean `false`"
  | .number (.integer n) => "integer `" ++ String.ofList (intText n) ++ "`"
  | .number (.float x) => "floating point `" ++ String.ofList (floatText x) ++ "`"
  | .string s => "string " ++ Text.quoted s
  | .sequence => "sequence"
  | .map => "map"

/-- Why a value does not fit the type that was asked for. -/
inductive Misfit where
  | type (found : Found) (expected : String)
  | value (found : Found) (expected : String)
  | length (length : Nat) (expected : String)
  | variant (name : String) (known : List String)
  | missingField (name : String)
  | duplicateField (name : String)

/-- Names in backticks: two joined by "or", more of them as a list. -/
def alternatives : List String → String
  | [] => "there are no variants"
  | [a] => "expected `" ++ a ++ "`"
  | [a, b] => "expected `" ++ a ++ "` or `" ++ b ++ "`"
  | names => "expected one of " ++ String.intercalate ", " (names.map (fun n => "`" ++ n ++ "`"))

/-- The wording of a misfit. -/
def Misfit.message : Misfit → String
  | .type found expected => "invalid type: " ++ found.describe ++ ", expected " ++ expected
  | .value found expected => "invalid value: " ++ found.describe ++ ", expected " ++ expected
  | .length n expected => "invalid length " ++ toString n ++ ", expected " ++ expected
  | .variant name known => "unknown variant `" ++ name ++ "`, " ++ alternatives known
  | .missingField name => "missing field `" ++ name ++ "`"
  | .duplicateField name => "duplicate field `" ++ name ++ "`"

/-- Why a text is refused. -/
inductive Reason where
  | listUnfinished
  | objectUnfinished
  | stringUnfinished
  | valueUnfinished
  | colonExpected
  | listCommaOrEndExpected
  | objectCommaOrEndExpected
  | wordExpected
  | valueExpected
  | invalidEscape
  | invalidNumber
  | numberOutOfRange
  | controlCharacter
  | keyNotString
  | loneSurrogate
  | trailingComma
  | trailingCharacters
  | hexEscapeUnfinished
  | tooDeep
  | misfit (m : Misfit)

/-- The wording of a reason. -/
def Reason.message : Reason → String
  | .listUnfinished => "EOF while parsing a list"
  | .objectUnfinished => "EOF while parsing an object"
  | .stringUnfinished => "EOF while parsing a string"
  | .valueUnfinished => "EOF while parsing a value"
  | .colonExpected => "expected `:`"
  | .listCommaOrEndExpected => "expected `,` or `]`"
  | .objectCommaOrEndExpected => "expected `,` or `\x7d`"
  | .wordExpected => "expected ident"
  | .valueExpected => "expected value"
  | .invalidEscape => "invalid escape"
  | .invalidNumber => "invalid number"
  | .numberOutOfRange => "number out of range"
  | .controlCharacter => "control character (\\u0000-\\u001F) found while parsing a string"
  | .keyNotString => "key must be a string"
  | .loneSurrogate => "lone leading surrogate in hex escape"
  | .trailingComma => "trailing comma"
  | .trailingCharacters => "trailing characters"
  | .hexEscapeUnfinished => "unexpected end of hex escape"
  | .tooDeep => "recursion limit exceeded"
  | .misfit m => m.message

/-- A refusal at a place: so many bytes of the text were still unread. -/
structure Fault where
  reason : Reason
  unread : Nat

/-- The number of bytes that characters take. -/
def byteSize (cs : List Char) : Nat :=
  cs.foldl (fun n c => n + c.utf8Size) 0

/-- A fault noticed before `rest`. -/
def Fault.before (reason : Reason) (rest : List Char) : Fault :=
  ⟨reason, byteSize rest⟩

/-- A fault of the first byte of `rest`, or of the end of the text. -/
def Fault.atNext (reason : Reason) (rest : List Char) : Fault :=
  ⟨reason, byteSize rest - 1⟩

/-- A line, counted from one, and a column: the bytes since the last newline. -/
structure Position where
  line : Nat
  column : Nat
  deriving Repr, DecidableEq

/-- Moves a position over the characters that begin within the next `budget` bytes. -/
def Position.advance (p : Position) : Nat → List Char → Position
  | _, [] => p
  | budget, c :: rest =>
    if budget == 0 then p
    else if c = '\n' then advance ⟨p.line + 1, 0⟩ (budget - 1) rest
    else if c.utf8Size ≤ budget then advance ⟨p.line, p.column + c.utf8Size⟩ (budget - c.utf8Size) rest
    else ⟨p.line, p.column + budget⟩

/-- The position in a text before its last `unread` bytes. -/
def Position.ofUnread (text : List Char) (unread : Nat) : Position :=
  Position.advance ⟨1, 0⟩ (byteSize text - unread) text

/-- The wording of a fault in a text. -/
def Fault.message (text : List Char) (f : Fault) : String :=
  let p := Position.ofUnread text f.unread
  f.reason.message ++ " at line " ++ toString p.line ++ " column " ++ toString p.column

end NetGauge.Json
