import Mathlib.Data.List.Nodup
import NetGauge.Proofs.Parameters

set_option autoImplicit false

/-! # What a start command must have

The table of a kind says which parameters a test must have, and a request is checked for them before there
is a command. What the checks amount to is said here without their order of execution: a request is accepted
exactly if everything that its kind requires gets through, and it is rejected for the first thing that does
not (`TestRequest.startCommand_eq_error_iff`). What gets through is not always of use. A port that is given
as zero gets through, and so does a size of zero among the sizes of a sweep (`TestRequest.GivesZero`); the
command of a request that has neither carries a usable value for every parameter that its kind requires
(`TestRequest.startCommand_usable_iff`). -/

namespace NetGauge

open Json (Value)

/-! ## Checks -/

/-- The parameters that a request is checked for, in the order of the checks. -/
def Param.checked : List Param := [.host, .duration, .msgSize, .mps, .count, .msgSizes]

namespace TestRequest

/-- Whether what a request gives for a parameter gets through where the parameter is required. -/
def passes (r : TestRequest) : Param → Bool
  | .host => Text.trim r.host ≠ ""
  | .duration => r.duration ≠ 0
  | .msgSize => r.msgSize ≠ 0
  | .mps => r.mps ≠ 0
  | .count => r.count ≠ 0
  | .msgSizes => !r.msgSizes.isEmpty
  | .port | .bandwidth => true

/-- Whether a request fails the check for a parameter. -/
def fails (r : TestRequest) (param : Param) : Bool := r.kind.requires param && !r.passes param

/-- The first parameter that a request fails the check for. -/
def fault? (r : TestRequest) : Option Param := Param.checked.find? r.fails

/-- How a request is rejected for a parameter. -/
def refusal (r : TestRequest) : Param → Rejection
  | .msgSizes => .emptySweep
  | param => .missingParam r.kind param

end TestRequest

theorem TestKind.requires_host (kind : TestKind) : kind.requires .host = true := by
  cases kind <;> rfl

theorem TestKind.requires_msgSizes (kind : TestKind) : kind.requires .msgSizes = kind.isSweep := by
  cases kind <;> rfl

theorem find?_cons_eq_ite {α : Type} (p : α → Bool) (a : α) (rest : List α) :
    (a :: rest).find? p = if p a then some a else rest.find? p := by
  rw [List.find?_cons]
  cases p a <;> rfl

namespace TestRequest

theorem missing?_eq_find? (r : TestRequest) :
    r.missing? = [Param.host, .duration, .msgSize, .mps, .count].find? r.fails := by
  simp only [missing?, find?_cons_eq_ite, List.find?_nil, fails, r.kind.requires_host, passes,
    Bool.true_and, Bool.and_eq_true, Bool.not_eq_true', decide_eq_false_iff_not, ne_eq,
    Decidable.not_not]

/-- The sizes of a sweep are looked at when everything else has been found in order. -/
theorem fault?_eq (r : TestRequest) :
    r.fault? = r.missing?.or (if r.fails .msgSizes then some .msgSizes else none) := by
  have hsplit : Param.checked = [.host, .duration, .msgSize, .mps, .count] ++ [.msgSizes] := rfl
  rw [fault?, hsplit, List.find?_append, ← missing?_eq_find?, find?_cons_eq_ite, List.find?_nil]

theorem command_eq_error_iff (r : TestRequest) (e : Rejection) :
    r.command = .error e ↔ r.fails .msgSizes = true ∧ .emptySweep = e := by
  rw [fails, r.kind.requires_msgSizes]
  unfold command
  cases hkind : r.kind with
  | latencySweep => by_cases hempty : r.msgSizes = [] <;> simp [TestKind.isSweep, passes, hempty]
  | _ => simp [TestKind.isSweep]

/-- **A request is rejected for the first check that it fails,** and for nothing else. -/
theorem startCommand_eq_error_iff (r : TestRequest) (e : Rejection) :
    r.startCommand = .error e ↔ ∃ param, r.fault? = some param ∧ r.refusal param = e := by
  rw [fault?_eq]
  unfold startCommand
  cases hmissing : r.missing? with
  | none =>
      dsimp only
      rw [command_eq_error_iff, Option.none_or]
      cases r.fails .msgSizes <;> simp [refusal]
  | some param =>
      -- An empty list of sizes is worded in its own way, but it is not among what is looked at first.
      have hother : param ≠ .msgSizes := by
        rintro rfl
        rw [missing?_eq_find?] at hmissing
        simpa using List.mem_of_find?_eq_some hmissing
      have hrefusal : r.refusal param = .missingParam r.kind param := by
        cases param with
        | msgSizes => exact absurd rfl hother
        | _ => rfl
      simp [hrefusal]

/-- A request is accepted exactly if everything that its kind requires gets through. -/
theorem exists_startCommand_iff (r : TestRequest) :
    (∃ c, r.startCommand = .ok c) ↔
      ∀ param, r.kind.requires param = true → r.passes param = true := by
  have haccepted : (∃ c, r.startCommand = .ok c) ↔ ∀ e, r.startCommand ≠ .error e := by
    cases r.startCommand <;> simp
  have hfault : (∀ e, r.startCommand ≠ .error e) ↔ r.fault? = none := by
    simp only [ne_eq, startCommand_eq_error_iff]
    cases r.fault? <;> simp
  rw [haccepted, hfault, fault?, List.find?_eq_none]
  constructor
  · intro hchecks param hrequires
    by_cases hchecked : param ∈ Param.checked
    · simpa [fails, hrequires] using hchecks param hchecked
    · -- What is not checked gets through anyway.
      cases param with
      | port | bandwidth => rfl
      | _ => simp [Param.checked] at hchecked
  · intro hpasses param _
    simpa [fails] using hpasses param

end TestRequest

/-! ## Usable values -/

/-- A number above zero. -/
def Json.Value.IsPositive (v : Value) : Prop := ∃ n : Nat, n ≠ 0 ∧ v = .nat n

/-- A text that is not empty and has no blanks at its ends. -/
def Json.Value.IsTrimmed (v : Value) : Prop :=
  ∃ text, text ≠ "" ∧ Text.trim text = text ∧ v = .string text

/-- Whether a test can be run with a value for a parameter. -/
def Param.Usable (v : Value) : Param → Prop
  | .host | .bandwidth => v.IsTrimmed
  | .duration | .port | .msgSize | .mps | .count => v.IsPositive
  | .msgSizes => ∃ sizes, v = .array sizes ∧ sizes ≠ [] ∧ ∀ size ∈ sizes, size.IsPositive

/-- The value that a command carries for a parameter. -/
def Command.parameter? (c : Command) (param : Param) : Option Value :=
  c.data?.bind (Value.get? param.name)

theorem Json.Value.isPositive_nat_iff (n : Nat) : (Value.nat n).IsPositive ↔ n ≠ 0 := by
  constructor
  · rintro ⟨m, hm, heq⟩
    simp only [Value.nat, Value.number.injEq, Json.Number.integer.injEq, Int.natCast_inj] at heq
    exact heq ▸ hm
  · intro hn
    exact ⟨n, hn, rfl⟩

theorem Json.Value.isTrimmed_trim_iff (text : String) :
    (Value.string (Text.trim text)).IsTrimmed ↔ Text.trim text ≠ "" := by
  constructor
  · rintro ⟨other, hne, -, heq⟩
    cases heq
    exact hne
  · intro hne
    exact ⟨Text.trim text, hne, Text.trim_trim text, rfl⟩

/-- A member is found by its name if no other member has the name. -/
theorem Json.Value.get?_object_of_mem {members : List (String × Value)} {name : String} {v : Value}
    (hnodup : (members.map Prod.fst).Nodup) (hmem : (name, v) ∈ members) :
    Value.get? name (.object members) = some v := by
  rw [Value.get?]
  cases hfind : members.reverse.find? (fun m => m.1 == name) with
  | none =>
      have hnone := List.find?_eq_none.1 hfind (name, v) (List.mem_reverse.2 hmem)
      simp at hnone
  | some found =>
      have hname : found.1 = name := by simpa using List.find?_some hfind
      have hfound := List.mem_reverse.1 (List.mem_of_find?_eq_some hfind)
      rw [List.inj_on_of_nodup_map hnodup hfound hmem hname]
      rfl

namespace TestRequest

/-- What a request gives for a parameter has a zero that no check looks for. -/
def GivesZero (r : TestRequest) : Param → Prop
  | .port => r.port = some 0
  | .msgSizes => 0 ∈ r.msgSizes
  | .host | .duration | .bandwidth | .msgSize | .mps | .count => False

/-- The port of a kind that takes one is zero only if it is given as zero. -/
theorem effectivePort_eq_zero_iff {r : TestRequest} (h : r.kind.requires .port = true) :
    r.effectivePort = 0 ↔ r.port = some 0 := by
  have hdefault : r.kind.defaultPort ≠ 0 := by
    revert h
    cases r.kind <;> decide
  cases hport : r.port with
  | none => simpa [effectivePort, hport] using hdefault
  | some port => simp [effectivePort, hport]

/-- **What gets through is of use unless it has a zero that no check looks for.** -/
theorem usable_sentValue_iff {r : TestRequest} {param : Param}
    (hrequires : r.kind.requires param = true) (hpasses : r.passes param = true) :
    param.Usable (r.sentValue param) ↔ ¬r.GivesZero param := by
  have hword (n : UInt32) (hn : n ≠ 0) : (Value.nat n.toNat).IsPositive := by
    rw [Value.isPositive_nat_iff]
    simpa [← UInt32.toNat_inj] using hn
  cases param with
  | host =>
      have hhost : Text.trim r.host ≠ "" := by simpa [passes] using hpasses
      simpa [Param.Usable, sentValue, GivesZero] using (Value.isTrimmed_trim_iff r.host).2 hhost
  | port =>
      show (Value.nat r.effectivePort.toNat).IsPositive ↔ ¬r.port = some 0
      rw [Value.isPositive_nat_iff, ← effectivePort_eq_zero_iff hrequires, ← UInt16.toNat_inj]
      rfl
  | bandwidth =>
      -- No kind requires a bandwidth.
      exfalso
      revert hrequires
      cases r.kind <;> decide
  | msgSizes =>
      have hsizes : r.msgSizes ≠ [] := by simpa [passes] using hpasses
      constructor
      · rintro ⟨sizes, heq, -, hpositive⟩ hzero
        obtain rfl : _ = sizes := Value.array.inj heq
        have hnone := hpositive (.nat 0) (List.mem_map.2 ⟨0, hzero, rfl⟩)
        exact (Value.isPositive_nat_iff 0).1 hnone rfl
      · intro hnone
        refine ⟨_, rfl, by simpa using hsizes, ?_⟩
        intro v hv
        obtain ⟨size, hsize, rfl⟩ := List.mem_map.1 hv
        have hpositive : size ≠ 0 := by
          rintro rfl
          exact hnone hsize
        exact hword size hpositive
  | duration | msgSize | mps | count =>
      have hgiven := hpasses
      simp only [passes, decide_eq_true_eq] at hgiven
      simpa [Param.Usable, sentValue, GivesZero] using hword _ hgiven

/-- A start command carries what its request gives for every parameter that is required. -/
theorem parameter?_startCommand {r : TestRequest} {c : Command} (h : r.startCommand = .ok c)
    {param : Param} (hrequires : r.kind.requires param = true) :
    c.parameter? param = some (r.sentValue param) := by
  rw [Command.parameter?, data_startCommand h]
  have hdeclared := (r.mem_declared param.name _).2 (.required param hrequires)
  exact Value.get?_object_of_mem r.nodup_declared hdeclared

/-- **When a start command has what its test needs.** A request is accepted exactly if everything that its
    kind requires gets through, and else it is rejected for the first thing that does not. The command of a
    request that is accepted carries a value for every parameter that is required: the value is usable, but
    for the port if it is given as zero, and for the sizes if one of them is zero. -/
theorem startCommand_usable_iff (r : TestRequest) :
    ((∃ c, r.startCommand = .ok c) ↔
      ∀ param, r.kind.requires param = true → r.passes param = true) ∧
    (∀ e, r.startCommand = .error e ↔ ∃ param, r.fault? = some param ∧ r.refusal param = e) ∧
    (∀ c, r.startCommand = .ok c → ∀ param, r.kind.requires param = true →
      ∃ v, c.parameter? param = some v ∧ (param.Usable v ↔ ¬r.GivesZero param)) := by
  refine ⟨r.exists_startCommand_iff, r.startCommand_eq_error_iff, ?_⟩
  intro c hstart param hrequires
  have hpasses := r.exists_startCommand_iff.1 ⟨c, hstart⟩ param hrequires
  exact ⟨r.sentValue param, parameter?_startCommand hstart hrequires,
    usable_sentValue_iff hrequires hpasses⟩

/-- A message size of zero is found to be missing where a single size is measured. -/
example : ({ kind := .latencyPingPong, msgSize := 0 } : TestRequest).fault? = some .msgSize := rfl

/-- A request that gives the port zero. -/
def zeroPort : TestRequest := { port := some 0 }

/-- A request for a sweep that gives a size of zero. -/
def zeroSize : TestRequest := { kind := .latencySweep, msgSizes := [64, 0] }

/-- Two requests that are accepted: one for a test on the port zero, and one for a sweep with a size of
    zero. -/
theorem startCommand_zero :
    (zeroPort.kind.requires .port = true ∧ ∃ c, zeroPort.startCommand = .ok c ∧
      c.parameter? .port = some (.nat 0) ∧ ¬Param.port.Usable (.nat 0)) ∧
    (zeroSize.kind.requires .msgSizes = true ∧ ∃ c, zeroSize.startCommand = .ok c ∧
      c.parameter? .msgSizes = some (.array [.nat 64, .nat 0]) ∧
        ¬Param.msgSizes.Usable (.array [.nat 64, .nat 0])) := by
  have hzero : ¬(Value.nat 0).IsPositive := fun h => (Value.isPositive_nat_iff 0).1 h rfl
  have hport : zeroPort.startCommand =
      .ok (.startThroughput ⟨"127.0.0.1", 10, 0, false, none⟩) := rfl
  have hsize : zeroSize.startCommand =
      .ok (.startSweep ⟨"127.0.0.1", 10, 11111, [64, 0]⟩) := rfl
  refine ⟨⟨rfl, _, hport, parameter?_startCommand hport rfl, hzero⟩,
    rfl, _, hsize, parameter?_startCommand hsize rfl, ?_⟩
  rintro ⟨sizes, heq, -, hpositive⟩
  obtain rfl := Value.array.inj heq
  exact hzero (hpositive _ (by simp))

end TestRequest

end NetGauge
