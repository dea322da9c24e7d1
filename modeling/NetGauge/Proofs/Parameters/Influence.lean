import NetGauge.Proofs.Parameters.Required

set_option autoImplicit false

/-! # What has an influence on a start

A request holds a value for every parameter that any kind of test takes, and only those of its own kind may
matter when it is started. Two requests of one kind that agree on what the kind takes are started by the
same command, or rejected in the same words, whatever else they hold. On the other side, the table of a
kind lists nothing that is idle: of every parameter that the kind takes there are two values that make a
difference, everything else being the same (`TestRequest.startCommand_influence`). -/

namespace NetGauge

/-- Two requests agree on a parameter. -/
def Param.Same (r s : TestRequest) : Param → Prop
  | .host => r.host = s.host
  | .duration => r.duration = s.duration
  | .port => r.port = s.port
  | .bandwidth => r.bandwidth = s.bandwidth
  | .msgSize => r.msgSize = s.msgSize
  | .mps => r.mps = s.mps
  | .msgSizes => r.msgSizes = s.msgSizes
  | .count => r.count = s.count

namespace TestRequest

/-- Two requests of one kind agree on every parameter that the kind takes. -/
structure Alike (r s : TestRequest) : Prop where
  kind : r.kind = s.kind
  same : ∀ param, r.kind.accepts param = true → param.Same r s

namespace Alike

variable {r s : TestRequest}

/-- What gets through for one of the requests gets through for the other. -/
theorem passes (h : Alike r s) {param : Param} (haccepts : r.kind.accepts param = true) :
    r.passes param = s.passes param := by
  have hsame := h.same param haccepts
  cases param with
  | port | bandwidth => rfl
  | _ =>
      simp only [Param.Same] at hsame
      simp only [TestRequest.passes, hsame]

/-- A check looks only at what is required, and so at what the kind takes. -/
theorem fails (h : Alike r s) : r.fails = s.fails := by
  funext param
  rw [TestRequest.fails, TestRequest.fails, ← h.kind]
  cases hrequires : r.kind.requires param with
  | false => rw [Bool.false_and, Bool.false_and]
  | true => rw [h.passes (r.kind.accepts_of_requires param hrequires)]

theorem host (h : Alike r s) : r.host = s.host :=
  h.same .host (r.kind.accepts_of_requires .host r.kind.requires_host)

theorem effectivePort (h : Alike r s) (haccepts : r.kind.accepts .port = true) :
    r.effectivePort = s.effectivePort := by
  have hport : r.port = s.port := h.same .port haccepts
  rw [TestRequest.effectivePort, TestRequest.effectivePort, hport, h.kind]

theorem bandwidthLimit (h : Alike r s) : r.bandwidthLimit = s.bandwidthLimit := by
  rw [TestRequest.bandwidthLimit, TestRequest.bandwidthLimit, ← h.kind]
  split
  · next haccepts =>
      have hbandwidth : r.bandwidth = s.bandwidth := h.same .bandwidth haccepts
      rw [hbandwidth]
  · rfl

/-- The command of a kind is made of what the kind takes. -/
theorem command (h : Alike r s) : r.command = s.command := by
  have hsame := h.same
  have hport := h.effectivePort
  unfold TestRequest.command
  rw [← h.kind, h.host, h.bandwidthLimit]
  cases hkind : r.kind with
  | throughputTcp | throughputUdp =>
      rw [hkind] at hsame hport
      have hduration : r.duration = s.duration := hsame .duration rfl
      simp only [hport rfl, hduration]
  | latencyPingPong =>
      rw [hkind] at hsame hport
      have hduration : r.duration = s.duration := hsame .duration rfl
      have hsize : r.msgSize = s.msgSize := hsame .msgSize rfl
      simp only [hport rfl, hduration, hsize]
  | latencyUnderLoad =>
      rw [hkind] at hsame hport
      have hduration : r.duration = s.duration := hsame .duration rfl
      have hsize : r.msgSize = s.msgSize := hsame .msgSize rfl
      have hmps : r.mps = s.mps := hsame .mps rfl
      simp only [hport rfl, hduration, hsize, hmps]
  | latencySweep =>
      rw [hkind] at hsame hport
      have hduration : r.duration = s.duration := hsame .duration rfl
      have hsizes : r.msgSizes = s.msgSizes := hsame .msgSizes rfl
      simp only [hport rfl, hduration, hsizes]
  | icmpPing =>
      rw [hkind] at hsame
      have hcount : r.count = s.count := hsame .count rfl
      simp only [hcount]

end Alike

/-! ## Parameters that make a difference -/

/-- A request with another value for one parameter. -/
def altered (r : TestRequest) : Param → TestRequest
  | .host => { r with host := r.host ++ "." }
  | .duration => { r with duration := r.duration + 1 }
  | .port => { r with port := some 1 }
  | .bandwidth => { r with bandwidth := none }
  | .msgSize => { r with msgSize := r.msgSize + 1 }
  | .mps => { r with mps := r.mps + 1 }
  | .msgSizes => { r with msgSizes := [] }
  | .count => { r with count := r.count + 1 }

theorem kind_altered (r : TestRequest) (param : Param) : (r.altered param).kind = r.kind := by
  cases param <;> rfl

/-- Nothing else is altered. -/
theorem same_altered (r : TestRequest) {param other : Param} (hother : other ≠ param) :
    other.Same r (r.altered param) := by
  cases param <;> cases other <;> first | exact absurd rfl hother | rfl

/-- Altering what its kind takes makes a difference to the start of a default request. -/
theorem startCommand_altered (kind : TestKind) (param : Param) (haccepts : kind.accepts param = true) :
    ({ kind := kind } : TestRequest).startCommand ≠
      (({ kind := kind } : TestRequest).altered param).startCommand := by
  have hcommands : ({ kind := kind } : TestRequest).startCommand.toOption ≠
      (({ kind := kind } : TestRequest).altered param).startCommand.toOption := by
    revert haccepts
    cases kind <;> cases param <;> decide
  exact fun heq => hcommands (congrArg Except.toOption heq)

/-- **What its kind takes decides about the start of a request, and all of it.** Two requests of one kind
    that agree on every parameter that the kind takes have the same start command, or are rejected in the same
    way, however they differ in other parameters. And of every parameter that a kind takes there are two values
    that make a difference, all other parameters being the same. -/
theorem startCommand_influence :
    (∀ r s : TestRequest, r.kind = s.kind →
      (∀ param, r.kind.accepts param = true → param.Same r s) → r.startCommand = s.startCommand) ∧
    (∀ kind param, TestKind.accepts kind param = true →
      ∃ r s : TestRequest, r.kind = kind ∧ s.kind = kind ∧
        (∀ other, other ≠ param → other.Same r s) ∧ r.startCommand ≠ s.startCommand) := by
  refine ⟨?_, ?_⟩
  · intro r s hkind hsame
    have halike : Alike r s := ⟨hkind, hsame⟩
    rw [startCommand, startCommand, missing?_eq_find?, missing?_eq_find?, halike.fails, halike.command,
      hkind]
  · intro kind param haccepts
    let r : TestRequest := { kind := kind }
    exact ⟨r, r.altered param, rfl, r.kind_altered param, fun other => r.same_altered,
      startCommand_altered kind param haccepts⟩

end TestRequest

end NetGauge
