import NetGauge.Json.Value
import NetGauge.TestKind

set_option autoImplicit false

/-! # Sessions

The client's view of whether a test is in progress. The backend stays authoritative: the view only
decides what the user may do next. The test in progress and the status of the run stand side by
side; that they agree is not part of the type but holds after every run of a console. -/

namespace NetGauge

open Json (Value)

/-- Whether a test is in progress. -/
inductive RunStatus where
  | idle
  | running
  | stopping
  deriving DecidableEq

def RunStatus.name : RunStatus → String
  | .idle => "idle"
  | .running => "running"
  | .stopping => "stopping"

/-- Why a session refuses. -/
inductive SessionError where
  | listenerMode
  | generatorMode
  | busy (status : RunStatus)
  | notRunning
  | modeLocked (status : RunStatus)
  | selectionLocked (status : RunStatus)
  deriving DecidableEq

/-- The wording of a refusal. -/
def SessionError.message : SessionError → String
  | .listenerMode => "listener mode: tests can only be started in generator mode"
  | .generatorMode => "generator mode: servers are controlled in listener mode"
  | .busy status => "a test is already " ++ status.name
  | .notRunning => "no test is running"
  | .modeLocked status => "cannot switch mode while a test is " ++ status.name
  | .selectionLocked status => "cannot change the test selection while a test is " ++ status.name

/-- The mode of the client, the test in progress and the status of the run. -/
structure Session where
  mode : Mode := .generator
  activeTest : Option TestKind := none
  status : RunStatus := .idle
  deriving DecidableEq

namespace Session

def isIdle (s : Session) : Bool := s.status == .idle

/-- A test may start in generator mode while none is in progress. -/
def checkCanStart (s : Session) : Except SessionError Unit :=
  if s.mode = .listener then .error .listenerMode
  else if s.status = .idle then .ok ()
  else .error (.busy s.status)

/-- The test that a stop is meant for. -/
def stopTarget (s : Session) : Except SessionError TestKind :=
  match s.status, s.activeTest with
  | .running, some test | .stopping, some test => .ok test
  | _, _ => .error .notRunning

/-- Servers are controlled in listener mode. -/
def checkListener (s : Session) : Except SessionError Unit :=
  match s.mode with
  | .listener => .ok ()
  | .generator => .error .generatorMode

/-- The next test may be changed while none is in progress. -/
def checkReconfigure (s : Session) : Except SessionError Unit :=
  if s.status = .idle then .ok () else .error (.selectionLocked s.status)

/-- A start command went out. -/
def begin (s : Session) (test : TestKind) : Except SessionError Session := do
  s.checkCanStart
  return { s with status := .running, activeTest := some test }

/-- A stop command went out: the test that it is meant for, and the session that waits for its end. -/
def requestStop (s : Session) : Except SessionError (TestKind × Session) := do
  let test ← s.stopTarget
  return (test, { s with status := .stopping })

/-- The backend said that a run ended. -/
def finish (s : Session) : Session := { s with status := .idle, activeTest := none }

/-- The backend announced a sweep, which wins over what the client believed. -/
def sweepStarted (s : Session) : Session :=
  { s with status := .running, activeTest := some .latencySweep }

/-- Changes the mode, which is free to stay the same but locked while a test is in progress. -/
def setMode (s : Session) (mode : Mode) : Except SessionError Session :=
  if mode = s.mode then .ok s
  else if s.status = .idle then .ok { s with mode := mode }
  else .error (.modeLocked s.status)

/-- Forgets the test in progress. -/
def reset (s : Session) : Session := { s with status := .idle, activeTest := none }

def toValue (s : Session) : Value :=
  .object [
    ("mode", .string s.mode.name),
    ("active_test", .ofOption (fun kind => .string kind.name) s.activeTest),
    ("status", .string s.status.name)]

/-! ## What the operations let through -/

theorem checkCanStart_eq_ok_iff (s : Session) :
    s.checkCanStart = .ok () ↔ s.mode = .generator ∧ s.status = .idle := by
  cases hm : s.mode <;> simp [checkCanStart, hm]

theorem checkListener_eq_ok_iff (s : Session) : s.checkListener = .ok () ↔ s.mode = .listener := by
  cases hm : s.mode <;> simp [checkListener, hm]

theorem stopTarget_eq_ok_iff (s : Session) (test : TestKind) :
    s.stopTarget = .ok test ↔ s.status ≠ .idle ∧ s.activeTest = some test := by
  cases hs : s.status <;> cases ht : s.activeTest <;> simp [stopTarget, hs, ht]

/-- Without a test there is nothing to stop. -/
theorem stopTarget_of_none {s : Session} (h : s.activeTest = none) :
    s.stopTarget = .error .notRunning := by
  cases hs : s.status <;> simp [stopTarget, hs, h]

theorem checkReconfigure_eq_ok_iff (s : Session) : s.checkReconfigure = .ok () ↔ s.status = .idle := by
  simp [checkReconfigure]

theorem begin_eq_ok_iff (s t : Session) (test : TestKind) :
    s.begin test = .ok t ↔
      s.checkCanStart = .ok () ∧ t = { s with status := .running, activeTest := some test } := by
  unfold begin
  cases s.checkCanStart with
  | error e => simp [bind, Except.bind]
  | ok _ => simp [bind, Except.bind, pure, Except.pure, eq_comm]

theorem requestStop_eq_ok_iff (s t : Session) (test : TestKind) :
    s.requestStop = .ok (test, t) ↔
      s.stopTarget = .ok test ∧ t = { s with status := .stopping } := by
  unfold requestStop
  cases s.stopTarget with
  | error e => simp [bind, Except.bind]
  | ok other => simp [bind, Except.bind, pure, Except.pure, eq_comm]

theorem setMode_eq_ok_iff (s t : Session) (mode : Mode) :
    s.setMode mode = .ok t ↔ (mode = s.mode ∨ s.status = .idle) ∧ t = { s with mode := mode } := by
  unfold setMode
  split
  · next h =>
      subst h
      simp only [Except.ok.injEq, true_or, true_and]
      exact eq_comm
  · next h => split <;> simp_all [eq_comm]

end Session

end NetGauge
