import NetGauge.Json.Record

set_option autoImplicit false

/-! # Measurements

What the backend reports while a test runs and when it ends. Every figure of `Metrics` may be
absent; absorbing a report overwrites the figures it carries and keeps the others. -/

namespace NetGauge

open Json (Form Member Record Count)

/-- The figures of one report. -/
structure Metrics where
  bandwidthMbps : Option Float := none
  latencyAvgUs : Option Float := none
  latencyMinUs : Option Float := none
  latencyMaxUs : Option Float := none
  latencyP50Us : Option Float := none
  latencyP90Us : Option Float := none
  latencyP99Us : Option Float := none
  jitterMs : Option Float := none
  lostPercent : Option Float := none
  packetLoss : Option Float := none
  packetsSent : Option UInt64 := none
  packetsReceived : Option UInt64 := none
  retransmits : Option UInt64 := none

namespace Metrics

/-- The figures of a later report where it has them, and the earlier ones elsewhere. -/
def absorb (earlier later : Metrics) : Metrics where
  bandwidthMbps := later.bandwidthMbps.or earlier.bandwidthMbps
  latencyAvgUs := later.latencyAvgUs.or earlier.latencyAvgUs
  latencyMinUs := later.latencyMinUs.or earlier.latencyMinUs
  latencyMaxUs := later.latencyMaxUs.or earlier.latencyMaxUs
  latencyP50Us := later.latencyP50Us.or earlier.latencyP50Us
  latencyP90Us := later.latencyP90Us.or earlier.latencyP90Us
  latencyP99Us := later.latencyP99Us.or earlier.latencyP99Us
  jitterMs := later.jitterMs.or earlier.jitterMs
  lostPercent := later.lostPercent.or earlier.lostPercent
  packetLoss := later.packetLoss.or earlier.packetLoss
  packetsSent := later.packetsSent.or earlier.packetsSent
  packetsReceived := later.packetsReceived.or earlier.packetsReceived
  retransmits := later.retransmits.or earlier.retransmits

/-- The loss under either of its two names. -/
def lossPercent (m : Metrics) : Option Float := m.lostPercent.or m.packetLoss

def record : Record Metrics where
  name := "struct Metrics"
  blank := {}
  members := [
    .sparse "bandwidth_mbps" bandwidthMbps (fun r v => { r with bandwidthMbps := v }),
    .sparse "latency_avg_us" latencyAvgUs (fun r v => { r with latencyAvgUs := v }),
    .sparse "latency_min_us" latencyMinUs (fun r v => { r with latencyMinUs := v }),
    .sparse "latency_max_us" latencyMaxUs (fun r v => { r with latencyMaxUs := v }),
    .sparse "latency_p50_us" latencyP50Us (fun r v => { r with latencyP50Us := v }),
    .sparse "latency_p90_us" latencyP90Us (fun r v => { r with latencyP90Us := v }),
    .sparse "latency_p99_us" latencyP99Us (fun r v => { r with latencyP99Us := v }),
    .sparse "jitter_ms" jitterMs (fun r v => { r with jitterMs := v }),
    .sparse "lost_percent" lostPercent (fun r v => { r with lostPercent := v }),
    .sparse "packet_loss" packetLoss (fun r v => { r with packetLoss := v }),
    .sparse "packets_sent" packetsSent (fun r v => { r with packetsSent := v }),
    .sparse "packets_received" packetsReceived (fun r v => { r with packetsReceived := v }),
    .sparse "retransmits" retransmits (fun r v => { r with retransmits := v })]

instance : Form Metrics := record.form

/-- A report without figures changes nothing. -/
theorem absorb_empty (m : Metrics) : m.absorb {} = m := by simp [absorb]

/-- Absorbing two reports in turn is absorbing the two in one. -/
theorem absorb_assoc (a b c : Metrics) : (a.absorb b).absorb c = a.absorb (b.absorb c) := by
  simp [absorb, Option.or_assoc]

end Metrics

/-- The latencies of one size of a sweep, in microseconds. -/
structure SweepPoint where
  payloadSize : UInt32
  avg : Float := 0.0
  min : Float := 0.0
  p50 : Float := 0.0
  p90 : Float := 0.0
  p99 : Float := 0.0
  max : Float := 0.0

def SweepPoint.record : Record SweepPoint where
  name := "struct SweepPoint"
  blank := { payloadSize := 0 }
  members := [
    .of .required "msg_size" SweepPoint.payloadSize (fun r v => { r with payloadSize := v }),
    .of .optional "latency_avg_us" SweepPoint.avg (fun r v => { r with avg := v }),
    .of .optional "latency_min_us" SweepPoint.min (fun r v => { r with min := v }),
    .of .optional "latency_p50_us" SweepPoint.p50 (fun r v => { r with p50 := v }),
    .of .optional "latency_p90_us" SweepPoint.p90 (fun r v => { r with p90 := v }),
    .of .optional "latency_p99_us" SweepPoint.p99 (fun r v => { r with p99 := v }),
    .of .optional "latency_max_us" SweepPoint.max (fun r v => { r with max := v })]

instance : Form SweepPoint := SweepPoint.record.form

/-- How far the backend has come with a sweep. -/
structure SweepProgress where
  currentSize : UInt32 := 0
  currentIndex : Count := ⟨0⟩
  totalCount : Count := ⟨0⟩
  progress : Float := 0.0

def SweepProgress.record : Record SweepProgress where
  name := "struct SweepProgress"
  blank := {}
  members := [
    .of .optional "current_size" SweepProgress.currentSize (fun r v => { r with currentSize := v }),
    .of .optional "current_index" SweepProgress.currentIndex (fun r v => { r with currentIndex := v }),
    .of .optional "total_count" SweepProgress.totalCount (fun r v => { r with totalCount := v }),
    .of .optional "progress" SweepProgress.progress (fun r v => { r with progress := v })]

instance : Form SweepProgress := SweepProgress.record.form

/-- Which servers of the backend are up. -/
structure ServerStatus where
  throughputRunning : Bool := false
  latencyRunning : Bool := false
  deriving DecidableEq

namespace ServerStatus

def record : Record ServerStatus where
  name := "struct ServerStatus"
  blank := {}
  members := [
    .of .optional "iperf_running" throughputRunning (fun r v => { r with throughputRunning := v }),
    .of .optional "sockperf_running" latencyRunning (fun r v => { r with latencyRunning := v })]

instance : Form ServerStatus := record.form

end ServerStatus

/-- Counters of the two measuring tools. -/
structure ToolStats where
  iperf : Metrics := {}
  sockperf : Metrics := {}

def ToolStats.record : Record ToolStats where
  name := "struct ToolStats"
  blank := {}
  members := [
    .of .optional "iperf" ToolStats.iperf (fun r v => { r with iperf := v }),
    .of .optional "sockperf" ToolStats.sockperf (fun r v => { r with sockperf := v })]

instance : Form ToolStats := ToolStats.record.form

end NetGauge
