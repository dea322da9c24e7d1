import NetGauge.Origin.Host
import NetGauge.Origin.Path
import NetGauge.Text.Blank

set_option autoImplicit false

/-! # Origins

An origin says where a backend serves its web page: a scheme, and for the schemes of the web an
authority, which is a host with perhaps a port and perhaps credentials, and the path, query and
fragment behind it. Of other schemes only the name is kept, but their authorities are checked too,
so that an origin is either sound or has a `Fault`. -/

namespace NetGauge.Origin

/-- A scheme of the web: plain or secure, for pages or for sockets. -/
structure WebScheme where
  secure : Bool
  socket : Bool
  deriving DecidableEq

namespace WebScheme

def name : WebScheme → String
  | ⟨false, false⟩ => "http"
  | ⟨true, false⟩ => "https"
  | ⟨false, true⟩ => "ws"
  | ⟨true, true⟩ => "wss"

def all : List WebScheme := [⟨false, false⟩, ⟨true, false⟩, ⟨false, true⟩, ⟨true, true⟩]

def ofName? (name : String) : Option WebScheme := all.find? (fun s => s.name = name)

/-- The port that is meant when none is written. -/
def defaultPort (s : WebScheme) : Nat := if s.secure then 443 else 80

end WebScheme

/-- Who asks, in written form: special characters are percent-encoded. -/
structure Credentials where
  user : String
  password : Option String := none
  deriving DecidableEq

def Credentials.text (c : Credentials) : String :=
  match c.password with
  | none => c.user
  | some password => c.user ++ ":" ++ password

/-- Whom to ask. The default port of the scheme is not kept. -/
structure Authority where
  credentials : Option Credentials := none
  host : Host
  port : Option UInt16 := none
  deriving DecidableEq

def Authority.text (a : Authority) : String :=
  (match a.credentials with
    | none => ""
    | some credentials => credentials.text ++ "@") ++
  a.host.text ++
  (match a.port with
    | none => ""
    | some port => ":" ++ toString port.toNat)

/-- A place on the web. -/
structure Url where
  scheme : WebScheme
  authority : Authority
  path : List String := [""]
  query : Option String := none
  fragment : Option String := none
  deriving DecidableEq

namespace Url

def text (url : Url) : String :=
  url.scheme.name ++ "://" ++ url.authority.text ++ Path.text url.path ++
  (match url.query with
    | none => ""
    | some query => "?" ++ query) ++
  (match url.fragment with
    | none => ""
    | some fragment => "#" ++ fragment)

/-- The same place under another scheme. A port that is the default there is not kept. -/
def withScheme (url : Url) (scheme : WebScheme) : Url :=
  { url with
    scheme := scheme
    authority :=
      { url.authority with port := url.authority.port.filter (fun port => port.toNat ≠ scheme.defaultPort) } }

def withPath (url : Url) (path : String) : Url := { url with path := Path.parse path.toList }

def withQuery (url : Url) (query : Option String) : Url :=
  { url with query := query.map (fun query => written queryMarks query.toList) }

def withFragment (url : Url) (fragment : Option String) : Url :=
  { url with fragment := fragment.map (fun fragment => written fragmentMarks fragment.toList) }

end Url

end Origin

/-- A sound origin. -/
inductive Origin where
  | web (url : Origin.Url)
  | other (scheme : String)
  deriving DecidableEq

namespace Origin

/-- The name of the scheme. -/
def schemeName : Origin → String
  | web url => url.scheme.name
  | other scheme => scheme

/-- An origin whose scheme is changed to one of the web, if more than its scheme is known. -/
def withScheme? (scheme : WebScheme) : Origin → Option Url
  | web url => some (url.withScheme scheme)
  | other _ => none

/-! ## Parts of a text -/

/-- Whether a character may follow the first one of a scheme. -/
def isSchemeChar (c : Char) : Bool := c.isAlphanum || c = '+' || c = '-' || c = '.'

/-- Splits off the scheme, in small letters. -/
def scheme? (cs : List Char) : Option (String × List Char) :=
  match cs with
  | c :: _ =>
    if c.isAlpha then
      match cs.dropWhile isSchemeChar with
      | ':' :: rest => some (String.ofList ((cs.takeWhile isSchemeChar).map Char.toLower), rest)
      | _ => none
    else none
  | [] => none

/-- Whether a character ends an authority. A backslash counts as a slash in the common schemes. -/
def endsAuthority (common : Bool) (c : Char) : Bool :=
  c = '/' || c = '?' || c = '#' || (common && c = '\\')

/-- Splits at the last `@`, if there is one. -/
def splitUser (cs : List Char) : Option (List Char) × List Char :=
  if cs.contains '@' then
    let rest := (cs.reverse.takeWhile (· ≠ '@')).reverse
    (some (cs.take (cs.length - rest.length - 1)), rest)
  else (none, cs)

/-- Splits before the first colon outside brackets. -/
def splitPort : Bool → List Char → List Char × Option (List Char)
  | _, [] => ([], none)
  | inBrackets, c :: rest =>
    if c = ':' ∧ !inBrackets then ([], some rest)
    else
      let (host, port) := splitPort (if c = '[' then true else if c = ']' then false else inBrackets) rest
      (c :: host, port)

/-- Reads credentials. Without user and password there are none. -/
def credentials? (cs : List Char) : Option Credentials :=
  let user := cs.takeWhile (· ≠ ':')
  let password := (cs.dropWhile (· ≠ ':')).drop 1
  if user.isEmpty ∧ password.isEmpty then none
  else some ⟨written userMarks user, if password.isEmpty then none else some (written userMarks password)⟩

/-- Reads a port: decimal digits, none of which means that none is given. -/
def port (digits : List Char) : Except Fault (Option Nat) :=
  if digits.all Char.isDigit then
    let n := digits.foldl (fun n c => n * 10 + (c.toNat - 48)) 0
    if n < 65536 then .ok (if digits.isEmpty then none else some n) else .error .port
  else .error .port

/-- Reads the authority of a common scheme, for which one port is the default. -/
def authority (defaultPort : Nat) (cs : List Char) : Except Fault Authority := do
  let (user, rest) := splitUser cs
  let (host, digits) := splitPort false rest
  if host.isEmpty then throw .emptyHost
  let host ← Host.parse host
  let port ← port (digits.getD [])
  return {
    credentials := user.bind credentials?
    host := host
    port := (port.filter (· ≠ defaultPort)).map UInt16.ofNat }

/-- Checks the authority at the front of what follows a scheme that is not common. Its host may be
    empty when nothing else is there: a lone `@` at the very end of the origin, but no `@` before a
    path. -/
def checkAuthority (cs : List Char) : Except Fault Unit := do
  let written := cs.takeWhile (fun c => !endsAuthority false c)
  let (user, rest) := splitUser written
  if user = some [] ∧ rest.isEmpty ∧ written.length < cs.length then throw .emptyHost
  let (host, digits) := splitPort false rest
  let hasHost ← Host.checkOpaque host
  if !hasHost ∧ (digits.isSome ∨ (user.bind credentials?).isSome) then throw .emptyHost
  let _ ← port ((digits.getD []).takeWhile (· ≠ '\\'))
  return ()

/-- Whether a host of a file is the letter of a drive. -/
def isDrive : List Char → Bool
  | [letter, mark] => letter.isAlpha && (mark = ':' || mark = '|')
  | _ => false

/-- Checks the host of a file, if there is one. -/
def checkFile (cs : List Char) : Except Fault Unit :=
  match cs with
  | a :: b :: rest =>
    let host := rest.takeWhile (fun c => !endsAuthority true c)
    if (a = '/' ∨ a = '\\') ∧ (b = '/' ∨ b = '\\') ∧ !host.isEmpty ∧ !isDrive host then
      (Host.parse host).map (fun _ => ())
    else .ok ()
  | _ => .ok ()

/-! ## Reading -/

/-- Whether a character is one of the slashes before the authority of a common scheme. -/
def isSlash (c : Char) : Bool := c = '/' || c = '\\'

/-- The authority of a common scheme, after any number of slashes. -/
def commonAuthority (defaultPort : Nat) (rest : List Char) : Except Fault Authority :=
  authority defaultPort ((rest.dropWhile isSlash).takeWhile (fun c => !endsAuthority true c))

/-- Reads what follows a scheme of the web: the query begins at the first question mark before the fragment. -/
def Url.ofScheme (scheme : WebScheme) (rest : List Char) : Except Fault Url := do
  let authority ← commonAuthority scheme.defaultPort rest
  let (front, fragment) :=
    splitFirst '#' ((rest.dropWhile isSlash).dropWhile (fun c => !endsAuthority true c))
  let (path, query) := splitFirst '?' front
  return {
    scheme := scheme
    authority := authority
    path := Path.parse path
    query := query.map (written queryMarks)
    fragment := fragment.map (written fragmentMarks) }

/-- Reads what follows a scheme. -/
def ofScheme (scheme : String) (rest : List Char) : Except Fault Origin :=
  match WebScheme.ofName? scheme with
  | some known => (Url.ofScheme known rest).map .web
  | none =>
    let checked : Except Fault Unit :=
      if scheme = "ftp" then (commonAuthority 21 rest).map (fun _ => ())
      else if scheme = "file" then checkFile rest
      else match rest with
        | '/' :: '/' :: rest => checkAuthority rest
        | _ => .ok ()
    checked.map (fun _ => .other scheme)

/-- Tabs and line ends inside an origin do not count, nor do controls and spaces around it. -/
def significant (cs : List Char) : List Char :=
  (Text.dropTrailing (fun c => c.toNat ≤ 32) (cs.dropWhile (fun c => c.toNat ≤ 32))).filter
    (fun c => !(c = '\t' || c = '\n' || c = '\r'))

/-- Reads an origin. -/
def parse (text : String) : Except Fault Origin :=
  match scheme? (significant text.toList) with
  | none => .error .noScheme
  | some (scheme, rest) => ofScheme scheme rest

end Origin

end NetGauge
