import NetGauge.Config
import NetGauge.FileSystem
import NetGauge.Toml.Document

set_option autoImplicit false

/-! # Profiles

A profile is a named set of changes to a configuration, kept in a TOML file. What it does not name
stays as it is, and what it names that nobody knows is passed over. -/

namespace NetGauge

open Toml (Slot Readable)

/-- A named set of changes. -/
structure Profile where
  name : String
  description : String := ""
  client : ConfigOverride := {}
  test : RequestOverride := {}

instance : Readable Mode := ⟨Toml.ofNames? Mode.names⟩

instance : Readable TestKind := ⟨Toml.ofNames? TestKind.names⟩

/-- The members of a set of changes to the settings of a client. -/
def ConfigOverride.slots : List (Slot ConfigOverride) := [
  .of "origin" (fun o v => { o with origin := some v }),
  .of "reconnect_delay_ms" (fun o v => { o with reconnectDelayMs := some v }),
  .of "mode" (fun o v => { o with mode := some v })]

instance : Readable ConfigOverride := ⟨Toml.structure? {} ConfigOverride.slots⟩

/-- The members of a set of changes to the parameters of a test. -/
def RequestOverride.slots : List (Slot RequestOverride) := [
  .of "kind" (fun o v => { o with kind := some v }),
  .of "host" (fun o v => { o with host := some v }),
  .of "port" (fun o v => { o with port := some v }),
  .of "duration" (fun o v => { o with duration := some v }),
  .of "bandwidth" (fun o v => { o with bandwidth := some v }),
  .of "msg_size" (fun o v => { o with msgSize := some v }),
  .of "mps" (fun o v => { o with mps := some v }),
  .of "msg_sizes" (fun o v => { o with msgSizes := some v }),
  .of "count" (fun o v => { o with count := some v })]

instance : Readable RequestOverride := ⟨Toml.structure? {} RequestOverride.slots⟩

/-- Why there is no profile. -/
inductive ProfileError where
  | unreadable (path : String)
  | malformed
  deriving DecidableEq

def ProfileError.message : ProfileError → String
  | .unreadable path => "Failed to read profile file " ++ path
  | .malformed => "Failed to parse profile file"

namespace Profile

/-- Changes what the profile names. -/
def apply (p : Profile) (c : ClientConfig) : ClientConfig :=
  let c := p.client.apply c
  { c with test := p.test.apply c.test }

/-- A profile from the members of its document. It must have a name. -/
def ofTable? (members : List (String × Toml.Value)) : Option Profile := do
  return {
    name := ← Toml.member? members "name" none
    description := ← Toml.member? members "description" (some "")
    client := ← Toml.member? members "client" (some {})
    test := ← Toml.member? members "test" (some {}) }

/-- Reads a profile. -/
def parse (text : String) : Except ProfileError Profile :=
  match (Toml.parse? text).bind ofTable? with
  | some p => .ok p
  | none => .error .malformed

/-- Reads a profile from a file. -/
def load (read : String → Except StorageError String) (path : String) :
    Except ProfileError Profile :=
  match read path with
  | .ok text => parse text
  | .error _ => .error (.unreadable path)

end Profile

end NetGauge
