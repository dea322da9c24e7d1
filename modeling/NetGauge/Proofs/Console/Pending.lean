import NetGauge.Link.Handle
import NetGauge.Proofs.Console.Footprint
import NetGauge.Proofs.Console.Target
import NetGauge.Proofs.Console.Turns

set_option autoImplicit false

/-! # Sweeps that wait to be announced

When the command for a sweep has gone out, the number of its sizes is kept until the backend announces the
sweep. What is kept can be told from the history of a run: it is the number of sizes of the latest sweep
that was asked for, unless the announcement of a sweep or a reset has come since (`Awaited`). The end of a
run is not among these. So the number belongs to the run in progress exactly as long as the run that it
was kept for has not ended; where that run has ended unannounced, the number is left over (`LeftOver`),
and the next sweep that the backend announces is taken to be as long (`Console.run_pendingSweep`). -/

namespace NetGauge

/-! ## What decides on the pending number -/

namespace Change

/-- The sizes of the sweep that was asked for, if one was. -/
def sizes? (change : Change) : Option (List UInt32) := change.command?.bind Command.sizes?

/-- Whether a change settles which number is pending: a sweep is asked for or announced, or the run is
    forgotten. -/
def settles : Change → Bool
  | sent _ _ command => command.sizes?.isSome
  | dispatched _ e => e.announcesSweep
  | reset => true
  | _ => false

end Change

section

variable {s t : ClientState} {change : Change} {sizes : List UInt32}

/-- A sweep is asked for by a start, with the sizes of the request. -/
theorem Change.startTest_of_sizes? (hallowed : change.Allowed s) (h : change.sizes? = some sizes) :
    ∃ label command, change = .sent .startTest label command ∧ s.request.kind = .latencySweep ∧
      s.request.msgSizes = sizes := by
  cases change with
  | sent intent label command =>
      have hsizes : command.sizes? = some sizes := h
      obtain ⟨rfl, -⟩ := (Intent.guard_of_allowed hallowed).start (Command.startsTest_of_sizes? hsizes)
      rw [Intent.sizes?_of_allowed hallowed] at hsizes
      refine ⟨label, command, rfl, ?_⟩
      cases hkind : s.request.kind <;> simp_all [TestKind.isSweep]
  | _ => cases h

/-- **A change that settles the pending number leaves that of its sizes,** or none if it has no sizes, and
    any other change leaves the number as it is. -/
theorem pendingSweepTotal_apply (hallowed : change.Allowed s) :
    (change.apply s).pendingSweepTotal =
      if change.settles then change.sizes?.map List.length else s.pendingSweepTotal := by
  cases change with
  | sent intent label command =>
      rw [Change.apply, Console.pendingSweepTotal_applySent]
      by_cases hstart : intent = .startTest
      · subst hstart
        have hsizes := Intent.sizes?_of_allowed hallowed
        cases hsweep : s.request.kind.isSweep <;>
          simp [Change.settles, Change.sizes?, Change.command?, hsizes, hsweep]
      · have hnone : command.sizes? = none := by
          rw [Option.eq_none_iff_forall_ne_some]
          intro sizes hsizes
          exact hstart ((Intent.guard_of_allowed hallowed).start
            (Command.startsTest_of_sizes? hsizes)).1
        simp [Change.settles, hnone, hstart]
  | dispatched label e => exact s.pendingSweepTotal_dispatch label e
  | noted label level message => exact s.pendingSweepTotal_note label level message
  | linked _ | modeSet _ | edited _ | reset => rfl

end

/-! ## Sweeps that are awaited -/

/-- The latest sweep that was asked for in a history has these sizes, and nothing that came after its
    command has settled the pending number. -/
structure Awaited (history : List Change) (sizes : List UInt32) (later : List Change) : Prop where
  asked : ∃ before change, history = before ++ change :: later ∧ change.sizes? = some sizes
  unsettled : ∀ x ∈ later, x.settles = false

/-- A sweep whose run has ended before the sweep was announced. -/
def LeftOver (history : List Change) (sizes : List UInt32) : Prop :=
  ∃ later, Awaited history sizes later ∧ ∃ x ∈ later, x.EndsRun

section

variable {s t : ClientState} {change : Change} {history later : List Change} {sizes : List UInt32}

/-- What is pending is the number of sizes of the sweep that is awaited. -/
theorem pendingSweepTotal_eq_some_iff (hnone : s.pendingSweepTotal = none)
    (hpath : Path s history t) (n : Nat) :
    t.pendingSweepTotal = some n ↔
      ∃ sizes later, Awaited history sizes later ∧ sizes.length = n := by
  have hlatest := hpath.iff_latest (I := fun s => s.pendingSweepTotal = some n) (p := Change.settles)
    (B := fun _ change => change.sizes?.map List.length = some n)
    (fun s change hallowed => by rw [pendingSweepTotal_apply hallowed]; split <;> rfl)
    (by simp [hnone])
  rw [hlatest]
  constructor
  · rintro ⟨before, change, ⟨-, later, hsplit, hlater⟩, hsome⟩
    obtain ⟨sizes, hsizes, hlength⟩ := Option.map_eq_some_iff.1 hsome
    exact ⟨sizes, later, ⟨⟨before, change, hsplit, hsizes⟩, hlater⟩, hlength⟩
  · rintro ⟨sizes, later, ⟨⟨before, change, hsplit, hsizes⟩, hlater⟩, hlength⟩
    have hsettles : change.settles = true := by
      cases change with
      | sent intent label command =>
          have hcommand : command.sizes? = some sizes := hsizes
          simp [Change.settles, hcommand]
      | _ => cases hsizes
    exact ⟨before, change, ⟨hsettles, later, hsplit, hlater⟩, by simp [hsizes, hlength]⟩

/-- Of the changes that settle nothing, only the end of a run ends a sweep in progress, and none puts one
    in progress. -/
theorem sweeping_apply (hs : s.Consistent) (hallowed : change.Allowed s)
    (hsettles : change.settles = false) :
    (change.apply s).session.activeTest = some .latencySweep ↔
      s.session.activeTest = some .latencySweep ∧ ¬change.EndsRun := by
  rw [activeTest_apply hallowed]
  cases change with
  | sent intent label command =>
      by_cases hstart : intent = .startTest
      · -- A start begins no sweep, for its command has no sizes, and ends none, for nothing is in progress.
        subst hstart
        obtain ⟨hcan, -⟩ := (Intent.allowed_startTest_eq_ok_iff _ _ _).1 hallowed
        have hidle := hs.coherent.2 ((s.session.checkCanStart_eq_ok_iff).1 hcan).2
        have hother : s.request.kind ≠ .latencySweep := by
          intro hsweep
          simp [Change.settles, Intent.sizes?_of_allowed hallowed, hsweep,
            TestKind.isSweep] at hsettles
        simp [Change.decides, Change.begins?, hidle, hother]
      · cases intent <;> simp_all [Change.decides, Change.EndsRun]
  | dispatched label e =>
      have hannounces : e.announcesSweep = false := hsettles
      cases hends : e.isTerminal <;>
        simp [Change.decides, Change.begins?, Change.EndsRun, hannounces, hends]
  | noted _ _ _ | linked _ | modeSet _ | edited _ => simp [Change.decides, Change.EndsRun]
  | reset => cases hsettles

/-- While nothing is settled, a sweep in progress lasts until the end of a run. -/
theorem sweeping_path (hs : s.Consistent) (hpath : Path s later t)
    (hunsettled : ∀ x ∈ later, x.settles = false) :
    t.session.activeTest = some .latencySweep ↔
      s.session.activeTest = some .latencySweep ∧ ∀ x ∈ later, ¬x.EndsRun := by
  induction hpath with
  | nil _ => simp
  | @cons s t change later hallowed _ ih =>
      have hfirst := sweeping_apply hs hallowed (hunsettled change List.mem_cons_self)
      rw [ih (hs.apply hallowed) (fun x hx => hunsettled x (List.mem_cons_of_mem _ hx)), hfirst,
        List.forall_mem_cons, and_assoc]

/-- **A sweep that is awaited is in progress exactly as long as no run has ended since** its command. -/
theorem Awaited.sweeping_iff (h : Awaited history sizes later) (hs : s.Consistent)
    (hpath : Path s history t) :
    t.session.activeTest = some .latencySweep ↔ ∀ x ∈ later, ¬x.EndsRun := by
  obtain ⟨before, change, rfl, hsizes⟩ := h.asked
  obtain ⟨hbefore, hrest⟩ := hpath.split
  cases hrest with
  | cons hallowed hlater =>
      have hconsistent := hs.path hbefore
      obtain ⟨label, command, rfl, hkind, -⟩ := Change.startTest_of_sizes? hallowed hsizes
      have hbegun := activeTest_apply hallowed
      rw [sweeping_path (hconsistent.apply hallowed) hlater h.unsettled, hbegun]
      simp [Change.decides, Change.begins?, hkind]

end

namespace Console

variable {σ : Type} [CommandSink σ]

/-- What a sweep that is announced begins with. -/
theorem active_sweepStarted (c : Console σ) (label : String) (message : Option String) :
    (c.handleEvent label (.sweepStarted message)).state.sweep.active =
      some { total := c.state.pendingSweepTotal.getD c.state.request.msgSizes.length } := by
  obtain ⟨log, hstate⟩ := c.state_handleEvent label (.sweepStarted message)
  rw [hstate]
  exact congrArg Sweep.active (c.state.sweep_dispatch label (.sweepStarted message))

/-- **When the number that is pending belongs to the run in progress.** Whatever was done to a new console,
    the pending number is that of the sizes of the sweep that is awaited. It is pending only while a sweep
    is in progress exactly if no sweep is left over; and a sweep that is announced while nothing is in
    progress begins with the number of sizes of the sweep that is left over, or with that of the request
    if none is. -/
theorem run_pendingSweep (config : ClientConfig) (sink : σ) (ops : List (String × Operation σ)) :
    let c := (Console.new config sink).run ops
    let history := (Console.new config sink).history ops
    (∀ n, c.state.pendingSweepTotal = some n ↔
      ∃ sizes later, Awaited history sizes later ∧ sizes.length = n) ∧
    ((∀ n, c.state.pendingSweepTotal = some n → c.state.session.status ≠ .idle ∧
        c.state.session.activeTest = some .latencySweep) ↔ ∀ sizes, ¬LeftOver history sizes) ∧
    (c.state.session.status = .idle → ∀ label message, ∃ total,
      (c.handleEvent label (.sweepStarted message)).state.sweep.active = some { total := total } ∧
      (∀ sizes, LeftOver history sizes → total = sizes.length) ∧
      ((∀ sizes, ¬LeftOver history sizes) → total = c.state.request.msgSizes.length)) := by
  intro c history
  have hnew := consistent_new config sink
  have hpath := (Console.new config sink).path_run ops
  have hconsistent : c.state.Consistent := hnew.path hpath
  have hpending (n : Nat) : c.state.pendingSweepTotal = some n ↔
      ∃ sizes later, Awaited history sizes later ∧ sizes.length = n :=
    pendingSweepTotal_eq_some_iff rfl hpath n
  have hbelongs (hnone : ∀ sizes, ¬LeftOver history sizes) (n : Nat)
      (hsome : c.state.pendingSweepTotal = some n) :
      c.state.session.status ≠ .idle ∧ c.state.session.activeTest = some .latencySweep := by
    obtain ⟨sizes, later, hawaited, -⟩ := (hpending n).1 hsome
    have hsweeping : c.state.session.activeTest = some .latencySweep :=
      (hawaited.sweeping_iff hnew hpath).2 fun x hx hends => hnone sizes ⟨later, hawaited, x, hx, hends⟩
    refine ⟨?_, hsweeping⟩
    intro hidle
    rw [hconsistent.coherent.2 hidle] at hsweeping
    cases hsweeping
  refine ⟨hpending, ⟨?_, hbelongs⟩, ?_⟩
  · rintro hsweeps sizes ⟨later, hawaited, x, hx, hends⟩
    obtain ⟨-, hsweeping⟩ := hsweeps _ ((hpending _).2 ⟨sizes, later, hawaited, rfl⟩)
    exact (hawaited.sweeping_iff hnew hpath).1 hsweeping x hx hends
  · intro hidle label message
    refine ⟨_, c.active_sweepStarted label message, ?_, ?_⟩
    · rintro sizes ⟨later, hawaited, -⟩
      rw [(hpending _).2 ⟨sizes, later, hawaited, rfl⟩]
      rfl
    · intro hnone
      have hnothing : c.state.pendingSweepTotal = none := by
        rw [Option.eq_none_iff_forall_ne_some]
        exact fun n hsome => (hbelongs hnone n hsome).1 hidle
      rw [hnothing]
      rfl

/-- A sweep over the default sizes that is stopped before the backend has announced it, and a selection of
    a single size. -/
def stoppedSweep : List (String × Operation Link.Handle) :=
  [("1", .selectTest .latencySweep), ("2", .submit .startTest), ("3", .submit .stopTest),
    ("4", .event (.testStopped none)), ("5", .configure (fun r => { r with msgSizes := [64] }))]

/-- A number that is left over, and that the next sweep to be announced begins with, though the request is
    for a single size and nothing was in progress. -/
theorem run_stoppedSweep :
    let up : Link.Handle := { state := .connected, outbox := some {} }
    let c := (Console.new {} up).run stoppedSweep
    c.state.session.status = .idle ∧ c.state.pendingSweepTotal = some 6 ∧
      c.state.request.msgSizes = [64] ∧
      (c.handleEvent "6" (.sweepStarted none)).state.sweep.active.map Sweep.Active.total = some 6 :=
  ⟨rfl, rfl, rfl, rfl⟩

end Console

end NetGauge
