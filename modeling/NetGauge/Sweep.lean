import NetGauge.Json.Value
import NetGauge.Metrics

set_option autoImplicit false

/-! # Sweeps

The results of a latency sweep, size by size. Points are kept in the order of their arrival and
never merged: a size that is reported twice shows up twice. Results for a sweep that was not seen
to start open one of unknown length. -/

namespace NetGauge

open Json (Value)

/-- A sweep in progress. -/
structure Sweep.Active where
  ordinal : Nat := 0
  total : Nat := 0
  currentSize : UInt32 := 0
  results : List SweepPoint := []

namespace Sweep.Active

/-- The share of sizes reached, rounded to whole percents; none while the total is unknown. -/
def percent (p : Sweep.Active) : Nat :=
  if p.total = 0 then 0
  else
    let share := (Float.ofNat p.ordinal / Float.ofNat p.total * 100.0).round
    if share > 100.0 then 100 else share.toUInt8.toNat

/-- Raises the total to what has been reached. -/
def widen (p : Sweep.Active) : Sweep.Active :=
  { p with total := max (max p.total p.ordinal) p.results.length }

def toValue (p : Sweep.Active) : Value :=
  .object [
    ("ordinal", .nat p.ordinal),
    ("total", .nat p.total),
    ("current_size", .nat p.currentSize.toNat),
    ("results", .ofList Json.Form.toValue p.results)]

end Sweep.Active

/-- The sweep in progress and the results of the last completed one. -/
structure Sweep where
  active : Option Sweep.Active := none
  final : Option (List SweepPoint) := none

namespace Sweep

/-- The sweep in progress, or a new one of unknown length. -/
def current (s : Sweep) : Sweep.Active := s.active.getD {}

/-- Begins a sweep of `total` sizes and forgets the one before. -/
def start (_ : Sweep) (total : Nat) : Sweep := { active := some { total := total } }

/-- The backend told how many sizes there will be; zero tells nothing. -/
def announceTotal (s : Sweep) (total : Nat) : Sweep :=
  let p := s.current
  { s with active := some { p with total := if 0 < total then total else p.total }.widen }

/-- The backend told which size it has come to. -/
def progress (s : Sweep) (size : UInt32) (ordinal : Nat) : Sweep :=
  let p := s.current
  let p := { p with currentSize := size, ordinal := max ordinal p.results.length }
  { s with active := some p.widen }

/-- A point arrived; it counts as progress. -/
def record (s : Sweep) (point : SweepPoint) : Sweep :=
  let p := s.current
  let results := p.results ++ [point]
  let p := { p with results := results, ordinal := max p.ordinal results.length }
  { s with active := some p.widen }

/-- The points that arrived for the sweep in progress. -/
def recorded (s : Sweep) : List SweepPoint := (s.active.map Sweep.Active.results).getD []

/-- The final results: the points that arrived, or the reported ones if none did. -/
def outcome (s : Sweep) (reported : List SweepPoint) : List SweepPoint :=
  if s.recorded.isEmpty then reported else s.recorded

/-- Ends the sweep. -/
def finalize (s : Sweep) (reported : List SweepPoint) : Sweep :=
  { active := none, final := some (s.outcome reported) }

/-- The points to show: those of the sweep in progress, else the final ones. -/
def results (s : Sweep) : List SweepPoint :=
  match s.active, s.final with
  | some p, _ => p.results
  | none, some points => points
  | none, none => []

def percent (s : Sweep) : Nat :=
  match s.active, s.final with
  | some p, _ => p.percent
  | none, some _ => 100
  | none, none => 0

/-- Forgets everything. -/
def reset (_ : Sweep) : Sweep := {}

def toValue (s : Sweep) : Value :=
  .object [
    ("active", .ofOption Sweep.Active.toValue s.active),
    ("frozen", .ofOption (.ofList Json.Form.toValue) s.final)]

/-! ## Counters -/

/-- The counters of a sweep in progress agree: the points that came count as progress, and the total
    covers what has been reached. -/
structure Active.Counted (p : Sweep.Active) : Prop where
  results_le : p.results.length ≤ p.ordinal
  ordinal_le : p.ordinal ≤ p.total

/-- The counters agree if there is a sweep in progress. -/
def Counted (s : Sweep) : Prop := ∀ p, s.active = some p → p.Counted

theorem counted_of_active {s : Sweep} {p : Sweep.Active} (hactive : s.active = some p)
    (hcounted : p.Counted) : s.Counted := by
  intro q hq
  obtain rfl := Option.some.inj (hactive.symm.trans hq)
  exact hcounted

/-- Without a sweep there is nothing to count. -/
theorem counted_of_inactive {s : Sweep} (hactive : s.active = none) : s.Counted := by
  intro p hp
  rw [hactive] at hp
  cases hp

/-- A widened sweep has counted all it has reached. -/
theorem Active.counted_widen {p : Sweep.Active} (h : p.results.length ≤ p.ordinal) :
    p.widen.Counted where
  results_le := h
  ordinal_le := Nat.le_trans (Nat.le_max_right _ _) (Nat.le_max_left _ _)

/-- A sweep of unknown length that was not seen to start has counted nothing. -/
theorem counted_current {s : Sweep} (h : s.Counted) : s.current.Counted := by
  unfold current
  cases hactive : s.active with
  | none => exact ⟨Nat.le_refl 0, Nat.le_refl 0⟩
  | some p => exact h p hactive

theorem counted_start (s : Sweep) (total : Nat) : (s.start total).Counted :=
  counted_of_active rfl ⟨Nat.le_refl 0, Nat.zero_le total⟩

/-- The total told by the backend may be less than what has been reached. -/
theorem counted_announceTotal {s : Sweep} (h : s.Counted) (total : Nat) :
    (s.announceTotal total).Counted :=
  counted_of_active rfl (Active.counted_widen (counted_current h).results_le)

/-- The backend may tell any size to have been reached. -/
theorem counted_progress (s : Sweep) (size : UInt32) (ordinal : Nat) :
    (s.progress size ordinal).Counted :=
  counted_of_active rfl (Active.counted_widen (Nat.le_max_right _ _))

theorem counted_record (s : Sweep) (point : SweepPoint) : (s.record point).Counted :=
  counted_of_active rfl (Active.counted_widen (Nat.le_max_right _ _))

/-! ## The points that arrived -/

theorem recorded_of_active {s : Sweep} {p : Sweep.Active} (h : s.active = some p) :
    s.recorded = p.results := by
  simp [recorded, h]

/-- A sweep of unknown length that was not seen to start begins without points. -/
theorem results_current (s : Sweep) : s.current.results = s.recorded := by
  unfold current recorded
  cases s.active <;> rfl

@[simp] theorem recorded_start (s : Sweep) (total : Nat) : (s.start total).recorded = [] := rfl

@[simp] theorem recorded_announceTotal (s : Sweep) (total : Nat) :
    (s.announceTotal total).recorded = s.recorded := s.results_current

@[simp] theorem recorded_progress (s : Sweep) (size : UInt32) (ordinal : Nat) :
    (s.progress size ordinal).recorded = s.recorded := s.results_current

/-- A recorded point comes behind the others. -/
@[simp] theorem recorded_record (s : Sweep) (point : SweepPoint) :
    (s.record point).recorded = s.recorded ++ [point] := by
  rw [← s.results_current]
  rfl

@[simp] theorem recorded_finalize (s : Sweep) (reported : List SweepPoint) :
    (s.finalize reported).recorded = [] := rfl

@[simp] theorem recorded_reset (s : Sweep) : s.reset.recorded = [] := rfl

end Sweep

end NetGauge
