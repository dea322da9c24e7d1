import NetGauge.Export
import NetGauge.Profile

set_option autoImplicit false

/-! # The command line

The words after the program's name. A setting takes a value, in the same word after `=` or as the
next word; a switch takes none. Words are taken one at a time from the left (`Reading.step`). A
value in a word of its own is checked when the next known option comes or the words end, so an
unknown word behind it is noticed first.

A setting may be given once, except for the sizes, which add up. What is given on the command line
wins over a profile, which wins over the defaults (`Arguments.configure`). -/

namespace NetGauge

/-- An option with a value. -/
inductive Setting where
  | origin
  | profile
  | mode
  | test
  | host
  | port
  | duration
  | bandwidth
  | msgSize
  | mps
  | sizes
  | count
  | reconnectDelayMs
  | exportJson
  | exportCsv
  deriving DecidableEq

/-- An option without a value. -/
inductive Switch where
  | tui
  | help
  | version
  deriving DecidableEq

/-- Why a command line is not carried out. Asking for help or for the version is one of the ways. -/
inductive UsageError where
  | unknownWord
  | missingValue
  | malformedValue
  | repeated
  | unwantedValue
  | help
  | version
  deriving DecidableEq

/-- What a command line asks for. -/
structure Arguments where
  tui : Bool := false
  profile : Option String := none
  client : ConfigOverride := {}
  test : RequestOverride := {}
  targets : ExportTargets := {}

/-! ## Names -/

/-- The settings under their names. -/
def Setting.names : List (String × Setting) := [
  ("origin", .origin), ("profile", .profile), ("mode", .mode), ("test", .test), ("host", .host),
  ("port", .port), ("duration", .duration), ("bandwidth", .bandwidth), ("msg-size", .msgSize),
  ("mps", .mps), ("sizes", .sizes), ("count", .count), ("reconnect-delay-ms", .reconnectDelayMs),
  ("export-json", .exportJson), ("export-csv", .exportCsv)]

/-- The switches under their names. -/
def Switch.names : List (String × Switch) := [("tui", .tui), ("help", .help), ("version", .version)]

/-! ## Values -/

namespace Arguments

/-- A natural number in decimal digits below a bound. A plus sign may stand before it, and a minus
    sign before a zero where `signed` says so. -/
def natBelow? (signed : Bool) (bound : Nat) (text : String) : Option Nat :=
  let (negative, digits) := match text.toList with
    | '+' :: rest => (false, rest)
    | '-' :: rest => (true, rest)
    | cs => (false, cs)
  if digits.isEmpty ∨ (negative ∧ !signed) then none
  else (Text.digitsValue? 10 digits).filter (fun n => n < bound ∧ (n = 0 ∨ !negative))

/-- A value that does not parse. -/
def orMalformed {α : Type} : Option α → Except UsageError α
  | some a => .ok a
  | none => .error .malformedValue

/-- A path. The empty path counts as a missing value. -/
def path (text : String) : Except UsageError String :=
  if text.isEmpty then .error .missingValue else .ok text

/-- Whether a setting has been given. -/
def has (a : Arguments) : Setting → Bool
  | .origin => a.client.origin.isSome
  | .profile => a.profile.isSome
  | .mode => a.client.mode.isSome
  | .test => a.test.kind.isSome
  | .host => a.test.host.isSome
  | .port => a.test.port.isSome
  | .duration => a.test.duration.isSome
  | .bandwidth => a.test.bandwidth.isSome
  | .msgSize => a.test.msgSize.isSome
  | .mps => a.test.mps.isSome
  | .sizes => a.test.msgSizes.isSome
  | .count => a.test.count.isSome
  | .reconnectDelayMs => a.client.reconnectDelayMs.isSome
  | .exportJson => a.targets.json.isSome
  | .exportCsv => a.targets.csv.isSome

/-- Changes what is asked of the test. -/
def onTest (a : Arguments) (change : RequestOverride → RequestOverride) : Arguments :=
  { a with test := change a.test }

/-- Changes what is asked of the client. -/
def onClient (a : Arguments) (change : ConfigOverride → ConfigOverride) : Arguments :=
  { a with client := change a.client }

/-- Reads the value of a setting. -/
def read (a : Arguments) (s : Setting) (text : String) : Except UsageError Arguments :=
  let word32 (put : UInt32 → RequestOverride → RequestOverride) : Except UsageError Arguments := do
    let n ← orMalformed (natBelow? true UInt32.size text)
    return a.onTest (put (.ofNat n))
  match s with
  | .origin => return a.onClient (fun o => { o with origin := some text })
  | .profile => return { a with profile := some (← path text) }
  | .mode => do
    let mode ← orMalformed (Mode.parse text).toOption
    return a.onClient (fun o => { o with mode := some mode })
  | .test => do
    let kind ← orMalformed (TestKind.parse text).toOption
    return a.onTest (fun o => { o with kind := some kind })
  | .host => return a.onTest (fun o => { o with host := some text })
  | .port => do
    let n ← orMalformed (natBelow? true UInt16.size text)
    return a.onTest (fun o => { o with port := some (.ofNat n) })
  | .duration => word32 (fun n o => { o with duration := some n })
  | .bandwidth => return a.onTest (fun o => { o with bandwidth := some text })
  | .msgSize => word32 (fun n o => { o with msgSize := some n })
  | .mps => word32 (fun n o => { o with mps := some n })
  | .sizes => do
    let parts := (text.toList.splitOn ',').map String.ofList
    let sizes ← orMalformed (parts.mapM (natBelow? true UInt32.size))
    return a.onTest (fun o =>
      { o with msgSizes := some (o.msgSizes.getD [] ++ sizes.map .ofNat) })
  | .count => word32 (fun n o => { o with count := some n })
  | .reconnectDelayMs => do
    let n ← orMalformed (natBelow? false UInt64.size text)
    return a.onClient (fun o => { o with reconnectDelayMs := some (.ofNat n) })
  | .exportJson => return { a with targets := { a.targets with json := some (← path text) } }
  | .exportCsv => return { a with targets := { a.targets with csv := some (← path text) } }

/-- Gives a setting a value, unless it has one. Sizes are added to those that are there. -/
def give (a : Arguments) (s : Setting) (text : String) : Except UsageError Arguments :=
  if a.has s ∧ s ≠ .sizes then .error .repeated else a.read s text

/-- Turns a switch on. -/
def turnOn (a : Arguments) : Switch → Except UsageError Arguments
  | .tui => if a.tui then .error .repeated else .ok { a with tui := true }
  | .help => .error .help
  | .version => .error .version

end Arguments

/-! ## Words -/

/-- A command line of which some words have been read. -/
structure Reading where
  given : Arguments := {}
  /-- The setting that came last with its value in a word of its own, if that word has come. -/
  pending : Option (Setting × Option String) := none

namespace Reading

/-- Checks the pending setting. -/
def settle (r : Reading) : Except UsageError Arguments :=
  match r.pending with
  | none => .ok r.given
  | some (_, none) => .error .missingValue
  | some (s, some text) => r.given.give s text

/-- A word that begins with two hyphens: a name, and perhaps a value after `=`. -/
def long (r : Reading) (name : String) (value : Option String) : Except UsageError Reading :=
  match Setting.names.lookup name, value with
  | some s, none => do return { given := ← r.settle, pending := some (s, none) }
  | some s, some text => do return { given := ← (← r.settle).give s text }
  | none, value =>
    match Switch.names.lookup name, value with
    | some switch, none => do return { given := ← (← r.settle).turnOn switch }
    | some _, some _ => .error .unwantedValue
    | none, _ => .error .unknownWord

/-- A word that begins with one hyphen. Its first letter decides. -/
def short (r : Reading) (letter : Char) : Except UsageError Reading :=
  if letter = 'h' then do return { given := ← (← r.settle).turnOn .help }
  else if letter = 'V' then do return { given := ← (← r.settle).turnOn .version }
  else .error .unknownWord

/-- Any other word, which must be the value that is waited for. -/
def plain (r : Reading) (word : String) : Except UsageError Reading :=
  match r.pending with
  | some (s, none) => .ok { r with pending := some (s, some word) }
  | _ => .error .unknownWord

/-- Takes one word. -/
def step (r : Reading) (word : String) : Except UsageError Reading :=
  match word.toList with
  | '-' :: '-' :: rest =>
    let value := match rest.dropWhile (· ≠ '=') with
      | [] => none
      | _ :: text => some (String.ofList text)
    r.long (String.ofList (rest.takeWhile (· ≠ '='))) value
  | '-' :: letter :: _ => r.short letter
  | _ => r.plain word

/-- Takes words to the end. After two hyphens alone nothing more may come. -/
def run (r : Reading) : List String → Except UsageError Arguments
  | [] => r.settle
  | word :: rest =>
    if word = "--" then
      if rest.isEmpty then r.settle else .error .unknownWord
    else do (← r.step word).run rest

end Reading

namespace Arguments

/-- Reads a command line. -/
def parse (words : List String) : Except UsageError Arguments := Reading.run {} words

/-- The defaults, changed by a profile and then by what was given. -/
def configure (a : Arguments) (profile : Option Profile) : ClientConfig :=
  let c := match profile with
    | some p => p.apply {}
    | none => {}
  let c := a.client.apply c
  { c with test := a.test.apply c.test }

/-- The configuration that a command line asks for, its profile being read by `read`. -/
def resolve (a : Arguments) (read : String → Except StorageError String) :
    Except ProfileError ClientConfig :=
  match a.profile with
  | none => .ok (a.configure none)
  | some path => (Profile.load read path).map (fun p => a.configure (some p))

end Arguments

end NetGauge
