import NetGauge.Decimal.Fixed

set_option autoImplicit false

/-! # Measured values for people

Bandwidths and latencies change to the greater unit from one thousand up. -/

namespace NetGauge.Measure

open Decimal (fixed)

/-- A bandwidth given in megabits per second. -/
def bandwidth (mbps : Float) : String :=
  if mbps ≥ 1000.0 then fixed 2 (mbps / 1000.0) ++ " Gbps" else fixed 2 mbps ++ " Mbps"

/-- A latency given in microseconds. -/
def latency (us : Float) : String :=
  if us ≥ 1000.0 then fixed 2 (us / 1000.0) ++ " ms" else fixed 2 us ++ " μs"

/-- A jitter given in milliseconds. -/
def jitter (ms : Float) : String := fixed 3 ms ++ " ms"

/-- A share given in percent. -/
def percent (value : Float) : String := fixed 2 value ++ "%"

/-- A delay given in milliseconds, in seconds with one place. -/
def delay (ms : UInt64) : String := fixed 1 (Float.ofNat ms.toNat / 1000.0) ++ "s"

end NetGauge.Measure
