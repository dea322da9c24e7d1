import NetGauge.Recent
import NetGauge.Text.Blank
import NetGauge.Text.Utf8

set_option autoImplicit false

/-! # The diagnostics buffer

The newest thousand lines of what the program itself logs, for the dashboard to show. Bytes are
written to it in chunks; their lines lose trailing blanks, and empty lines are dropped. -/

namespace NetGauge

/-- How many lines are kept. -/
def diagnosticsCapacity : Nat := 1000

/-- The newest lines. -/
abbrev Diagnostics := Recent diagnosticsCapacity String

namespace Diagnostics

/-- Writes a chunk of bytes; all of it is taken. -/
def write (d : Diagnostics) (bytes : List UInt8) : Nat × Diagnostics :=
  (bytes.length, d.pushAll (Text.lines (Text.decodeLossy bytes)))

end Diagnostics

end NetGauge
