import NetGauge.Json.Record
import NetGauge.TestKind

set_option autoImplicit false

/-! # Configuration

The parameters of the next test and the settings of a client, with their defaults. Overrides name
the settings that they change and leave the rest alone; of two overrides the later wins setting by
setting (`RequestOverride.merge_apply`, `ConfigOverride.merge_apply`). -/

namespace NetGauge

open Json (Form Member Record)

/-- The parameters of the next test. The kind decides which of them are sent. -/
structure TestRequest where
  kind : TestKind := .throughputTcp
  host : String := "127.0.0.1"
  /-- Without a port the default of the tool is used. -/
  port : Option UInt16 := none
  duration : UInt32 := 10
  bandwidth : Option String := some "100M"
  msgSize : UInt32 := 64
  mps : UInt32 := 10000
  msgSizes : List UInt32 := [64, 128, 256, 512, 1024, 1500]
  count : UInt32 := 10
  deriving DecidableEq

namespace TestRequest

/-- The port that is used: the given one or the default of the kind. -/
def effectivePort (r : TestRequest) : UInt16 := r.port.getD r.kind.defaultPort

/-- The host, with the port where the kind takes one. -/
def target (r : TestRequest) : String :=
  if r.kind.accepts .port then r.host ++ ":" ++ toString r.effectivePort else r.host

def record : Record TestRequest where
  name := "struct TestRequest"
  blank := {}
  members := [
    .of .optional "kind" TestRequest.kind (fun r v => { r with kind := v }),
    .of .optional "host" TestRequest.host (fun r v => { r with host := v }),
    .of .optional "port" TestRequest.port (fun r v => { r with port := v }),
    .of .optional "duration" TestRequest.duration (fun r v => { r with duration := v }),
    .of .optional "bandwidth" TestRequest.bandwidth (fun r v => { r with bandwidth := v }),
    .of .optional "msg_size" TestRequest.msgSize (fun r v => { r with msgSize := v }),
    .of .optional "mps" TestRequest.mps (fun r v => { r with mps := v }),
    .of .optional "msg_sizes" TestRequest.msgSizes (fun r v => { r with msgSizes := v }),
    .of .optional "count" TestRequest.count (fun r v => { r with count := v })]

instance : Form TestRequest := record.form

end TestRequest

/-- The settings of a client. -/
structure ClientConfig where
  /-- Where the backend serves its web page. -/
  origin : String := "http://127.0.0.1:9000"
  /-- How long to wait before connecting again. -/
  reconnectDelayMs : UInt64 := 3000
  mode : Mode := .generator
  test : TestRequest := {}
  deriving DecidableEq

def ClientConfig.record : Record ClientConfig where
  name := "struct ClientConfig"
  blank := {}
  members := [
    .of .optional "origin" ClientConfig.origin (fun r v => { r with origin := v }),
    .of .optional "reconnect_delay_ms" ClientConfig.reconnectDelayMs
      (fun r v => { r with reconnectDelayMs := v }),
    .of .optional "mode" ClientConfig.mode (fun r v => { r with mode := v }),
    .of .optional "test" ClientConfig.test (fun r v => { r with test := v })]

instance : Form ClientConfig := ClientConfig.record.form

/-! ## Overrides -/

/-- Changes to the parameters of the next test. -/
structure RequestOverride where
  kind : Option TestKind := none
  host : Option String := none
  port : Option UInt16 := none
  duration : Option UInt32 := none
  bandwidth : Option String := none
  msgSize : Option UInt32 := none
  mps : Option UInt32 := none
  msgSizes : Option (List UInt32) := none
  count : Option UInt32 := none
  deriving DecidableEq

namespace RequestOverride

/-- Changes what the override names. -/
def apply (o : RequestOverride) (r : TestRequest) : TestRequest where
  kind := o.kind.getD r.kind
  host := o.host.getD r.host
  port := o.port.or r.port
  duration := o.duration.getD r.duration
  bandwidth := o.bandwidth.or r.bandwidth
  msgSize := o.msgSize.getD r.msgSize
  mps := o.mps.getD r.mps
  msgSizes := o.msgSizes.getD r.msgSizes
  count := o.count.getD r.count

/-- Two overrides in one, the second winning. -/
def merge (first second : RequestOverride) : RequestOverride where
  kind := second.kind.or first.kind
  host := second.host.or first.host
  port := second.port.or first.port
  duration := second.duration.or first.duration
  bandwidth := second.bandwidth.or first.bandwidth
  msgSize := second.msgSize.or first.msgSize
  mps := second.mps.or first.mps
  msgSizes := second.msgSizes.or first.msgSizes
  count := second.count.or first.count

def record : Record RequestOverride where
  name := "struct TestRequestOverride"
  blank := {}
  members := [
    .sparse "kind" RequestOverride.kind (fun r v => { r with kind := v }),
    .sparse "host" RequestOverride.host (fun r v => { r with host := v }),
    .sparse "port" RequestOverride.port (fun r v => { r with port := v }),
    .sparse "duration" RequestOverride.duration (fun r v => { r with duration := v }),
    .sparse "bandwidth" RequestOverride.bandwidth (fun r v => { r with bandwidth := v }),
    .sparse "msg_size" RequestOverride.msgSize (fun r v => { r with msgSize := v }),
    .sparse "mps" RequestOverride.mps (fun r v => { r with mps := v }),
    .sparse "msg_sizes" RequestOverride.msgSizes (fun r v => { r with msgSizes := v }),
    .sparse "count" RequestOverride.count (fun r v => { r with count := v })]

instance : Form RequestOverride := record.form

end RequestOverride

/-- Changes to the settings of a client, its test apart. -/
structure ConfigOverride where
  origin : Option String := none
  reconnectDelayMs : Option UInt64 := none
  mode : Option Mode := none
  deriving DecidableEq

namespace ConfigOverride

/-- Changes what the override names. -/
def apply (o : ConfigOverride) (c : ClientConfig) : ClientConfig :=
  { c with
    origin := o.origin.getD c.origin
    reconnectDelayMs := o.reconnectDelayMs.getD c.reconnectDelayMs
    mode := o.mode.getD c.mode }

/-- Two overrides in one, the second winning. -/
def merge (first second : ConfigOverride) : ConfigOverride where
  origin := second.origin.or first.origin
  reconnectDelayMs := second.reconnectDelayMs.or first.reconnectDelayMs
  mode := second.mode.or first.mode

end ConfigOverride

/-! ## Laws -/

/-- Merged overrides change what the two change one after the other. -/
theorem RequestOverride.merge_apply (first second : RequestOverride) (r : TestRequest) :
    (first.merge second).apply r = second.apply (first.apply r) := by
  simp [merge, apply, Option.or_assoc]

/-- Merged overrides change what the two change one after the other. -/
theorem ConfigOverride.merge_apply (first second : ConfigOverride) (c : ClientConfig) :
    (first.merge second).apply c = second.apply (first.apply c) := by
  simp [merge, apply]

end NetGauge
