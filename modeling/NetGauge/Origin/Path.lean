import NetGauge.Text.Percent

set_option autoImplicit false

/-! # Behind an authority

Behind the authority of an origin there may be a path, a query and a fragment. They are kept in written
form, in which characters that cannot stand there are percent-encoded. A path is a series of segments,
each behind a slash; those that only say where to go on are followed while it is read. -/

namespace NetGauge.Origin

/-! ## Written form -/

/-- Whether a character is written percent-encoded in a part that has some marks encoded. -/
def isEscaped (marks : List Char) (c : Char) : Bool := c.toNat < 32 || 127 ≤ c.toNat || marks.contains c

/-- The written form of a part. -/
def written (marks part : List Char) : String := String.ofList (Text.percentEncode (isEscaped marks) part)

/-- The marks that are encoded in credentials. -/
def userMarks : List Char :=
  [' ', '"', '<', '>', '`', '#', '?', '{', '}', '/', ':', ';', '=', '@', '[', '\\', ']', '^', '|']

def pathMarks : List Char := [' ', '"', '#', '<', '>', '?', '^', '`', '{', '}']

def queryMarks : List Char := [' ', '"', '#', '<', '>', '\u0027']

def fragmentMarks : List Char := [' ', '"', '<', '>', '`']

/-- Splits at the first of its marks, if there is one. -/
def splitFirst (mark : Char) (cs : List Char) : List Char × Option (List Char) :=
  match cs.dropWhile (· ≠ mark) with
  | [] => (cs, none)
  | _ :: rest => (cs.takeWhile (· ≠ mark), some rest)

/-! ## Paths -/

namespace Path

/-- The spellings of a dot. -/
def dots : List (List Char) := [['.'], ['%', '2', 'e'], ['%', '2', 'E']]

/-- Whether a segment is a dot, which stands for no step. -/
def isDot (segment : List Char) : Bool := dots.contains segment

/-- Whether a segment is two dots, which stand for a step back. -/
def isDoubleDot (segment : List Char) : Bool :=
  dots.any (fun first => dots.any (fun second => segment = first ++ second))

/-- Follows the segments of a path from those that were reached, last one first. A path that ends in dots
    has an empty segment in their place. -/
def follow (reached : List (List Char)) : List (List Char) → List (List Char)
  | [] => reached.reverse
  | segment :: rest =>
    if isDot segment ∨ isDoubleDot segment then
      let reached := if isDoubleDot segment then reached.tail else reached
      follow (if rest.isEmpty then [] :: reached else reached) rest
    else follow (segment :: reached) rest

/-- A backslash counts as a slash. -/
def slashed (c : Char) : Char := if c = '\\' then '/' else c

/-- Reads a path. The slash before its first segment may be missing. -/
def parse (cs : List Char) : List String :=
  let segments := match cs.map slashed with
    | '/' :: rest => rest.splitOn '/'
    | cs => cs.splitOn '/'
  (follow [] (segments.map (Text.percentEncode (isEscaped pathMarks)))).map String.ofList

/-- The text of a path. -/
def text (path : List String) : String := String.ofList ('/' :: ['/'].intercalate (path.map String.toList))

end Path

end NetGauge.Origin
