import NetGauge.Json.Value
import NetGauge.Recent

set_option autoImplicit false

/-! # Chart data

The newest ticks with the values that the three charted series had in them. The labels of the ticks
and the slots of each series stand side by side, oldest first: a tick that opens gets a label and an
empty slot in every series, and when there are too many the oldest goes from all of them. A value that
comes under the label of the last tick goes into that tick; any other label opens a new one. That the
series stay as long as the labels is not part of the type; it holds after any use of a buffer. -/

namespace NetGauge

open Json (Value)

/-- A charted series. -/
inductive Series where
  | bandwidth
  | latencyAvg
  | latencyP99
  deriving DecidableEq

namespace Series

def all : List Series := [bandwidth, latencyAvg, latencyP99]

def name : Series → String
  | bandwidth => "bandwidth"
  | latencyAvg => "latency_avg"
  | latencyP99 => "latency_p99"

/-- Where the slots of a series stand. -/
def index : Series → Fin 3
  | bandwidth => 0
  | latencyAvg => 1
  | latencyP99 => 2

@[simp]
theorem index_eq_iff (s s' : Series) : (s.index : Nat) = s'.index ↔ s = s' := by
  cases s <;> cases s' <;> decide

end Series

/-- What a chart is drawn from: the labels of the ticks and the slots of each series. -/
structure ChartData where
  labels : List String
  bandwidth : List (Option Float)
  latencyAvg : List (Option Float)
  latencyP99 : List (Option Float)

namespace ChartData

/-- The slots of a series. -/
def values (d : ChartData) : Series → List (Option Float)
  | .bandwidth => d.bandwidth
  | .latencyAvg => d.latencyAvg
  | .latencyP99 => d.latencyP99

def toValue (d : ChartData) : Value :=
  .object (("labels", .ofList .string d.labels) ::
    Series.all.map (fun s => (s.name, .ofList (.ofOption .float) (d.values s))))

end ChartData

/-- The newest ticks, oldest first. An empty slot marks a tick in which its series had no value. -/
structure Telemetry where
  capacity : Nat
  labels : List String
  series : Vector (List (Option Float)) 3

namespace Telemetry

/-- A buffer for so many ticks, and for one at least. -/
def withCapacity (capacity : Nat) : Telemetry := ⟨max capacity 1, [], .replicate 3 []⟩

/-- A buffer for a hundred ticks. -/
def new : Telemetry := withCapacity 100

/-- The slots of a series. -/
def values (b : Telemetry) (s : Series) : List (Option Float) := b.series[s.index]

/-- Opens a tick, in which no series has a value yet. -/
def openTick (b : Telemetry) (label : String) : Telemetry :=
  { b with labels := b.labels ++ [label], series := b.series.map (fun slots => slots ++ [none]) }

/-- Forgets the oldest tick if there are too many. -/
def evict (b : Telemetry) : Telemetry :=
  if b.capacity < b.labels.length then
    { b with labels := b.labels.drop 1, series := b.series.map (fun slots => slots.drop 1) }
  else b

/-- Fills the last slot of a series, if it has one. -/
def fill (b : Telemetry) (s : Series) (x : Float) : Telemetry :=
  let slots := b.values s
  { b with series := b.series.set s.index (slots.set (slots.length - 1) (some x)) }

/-- Records a value of a series in the tick of a label. -/
def put (b : Telemetry) (s : Series) (x : Float) (label : String) : Telemetry :=
  let b := if b.labels.getLast? = some label then b else (b.openTick label).evict
  b.fill s x

/-- Forgets all ticks. -/
def reset (b : Telemetry) : Telemetry := { b with labels := [], series := b.series.map (fun _ => []) }

def size (b : Telemetry) : Nat := b.labels.length

/-- The most recent value of a series. -/
def latest (b : Telemetry) (s : Series) : Option Float := (b.values s).reverse.findSome? id

/-- The values of a series with the numbers of their ticks. -/
def points (b : Telemetry) (s : Series) : List (Nat × Float) :=
  (b.values s).zipIdx.filterMap (fun (slot, i) => slot.map (fun x => (i, x)))

/-- Labels and slots, for an export. -/
def chart (b : Telemetry) : ChartData :=
  ⟨b.labels, b.values .bandwidth, b.values .latencyAvg, b.values .latencyP99⟩

/-- The whole buffer. -/
def toValue (b : Telemetry) : Value :=
  .object [
    ("capacity", .nat b.capacity),
    ("labels", .ofList .string b.labels),
    ("series", .ofList (fun s => .ofList (.ofOption .float) (b.values s)) Series.all)]

/-! ## What the operations do to the slots -/

@[simp] theorem values_withCapacity (capacity : Nat) (s : Series) :
    (withCapacity capacity).values s = [] := by
  simp [withCapacity, values]

@[simp] theorem values_openTick (b : Telemetry) (label : String) (s : Series) :
    (b.openTick label).values s = b.values s ++ [none] := by
  simp [openTick, values]

@[simp] theorem capacity_evict (b : Telemetry) : b.evict.capacity = b.capacity := by
  unfold evict
  split <;> rfl

theorem labels_evict (b : Telemetry) :
    b.evict.labels = if b.capacity < b.labels.length then b.labels.drop 1 else b.labels := by
  unfold evict
  split <;> rfl

theorem values_evict (b : Telemetry) (s : Series) :
    b.evict.values s =
      if b.capacity < b.labels.length then (b.values s).drop 1 else b.values s := by
  unfold evict
  split <;> simp [values]

/-- Filling a slot shows in its series only. -/
theorem values_fill (b : Telemetry) (s s' : Series) (x : Float) :
    (b.fill s x).values s' =
      if s' = s then (b.values s).set ((b.values s).length - 1) (some x) else b.values s' := by
  simp [fill, values, Vector.getElem_set, eq_comm]

@[simp] theorem values_reset (b : Telemetry) (s : Series) : b.reset.values s = [] := by
  simp [reset, values]

@[simp] theorem values_chart (b : Telemetry) (s : Series) : b.chart.values s = b.values s := by
  cases s <;> rfl

end Telemetry

end NetGauge
