import NetGauge.Proofs.Console.Charts
import NetGauge.Proofs.Console.Footprint

set_option autoImplicit false

/-! # The latest figures of a run

Reports are partial: one of them has a bandwidth, the next a latency. Each figure that the client shows
is for itself the last one reported since the figures were put away, and is absent if none was
(`Console.run_latest`). They are put away by a reset and by a start of a test that is accepted, and by
nothing else: neither by a start that is refused nor by a link that goes down.

The loss has two names, so it is not one figure but two, of which the first is preferred. A loss that is
reported under the second name is therefore not shown as long as an earlier one stands under the first
(`Console.run_loss`). -/

namespace NetGauge

/-! ## Figures by name -/

/-- What a report may tell. -/
inductive Figure where
  | bandwidth
  | latencyAvg
  | latencyMin
  | latencyMax
  | latencyP50
  | latencyP90
  | latencyP99
  | jitter
  | lostPercent
  | packetLoss
  | packetsSent
  | packetsReceived
  | retransmits

/-- Packets are counted, all else is measured. -/
def Figure.Carrier : Figure → Type
  | packetsSent | packetsReceived | retransmits => UInt64
  | _ => Float

namespace Metrics

/-- A figure of a report. -/
def figure (m : Metrics) : (f : Figure) → Option f.Carrier
  | .bandwidth => m.bandwidthMbps
  | .latencyAvg => m.latencyAvgUs
  | .latencyMin => m.latencyMinUs
  | .latencyMax => m.latencyMaxUs
  | .latencyP50 => m.latencyP50Us
  | .latencyP90 => m.latencyP90Us
  | .latencyP99 => m.latencyP99Us
  | .jitter => m.jitterMs
  | .lostPercent => m.lostPercent
  | .packetLoss => m.packetLoss
  | .packetsSent => m.packetsSent
  | .packetsReceived => m.packetsReceived
  | .retransmits => m.retransmits

/-- A report without figures has none of them. -/
theorem figure_empty (f : Figure) : ({} : Metrics).figure f = none := by
  cases f <;> rfl

/-- A figure that a report has takes the place of the earlier one, whatever the others do. -/
theorem figure_absorb (earlier later : Metrics) (f : Figure) :
    (earlier.absorb later).figure f = (later.figure f).or (earlier.figure f) := by
  cases f <;> rfl

/-- The last that reports have of a figure. -/
def lastFigure (reports : List Metrics) (f : Figure) : Option f.Carrier :=
  (reports.filterMap (fun m => m.figure f)).getLast?

theorem lastFigure_append (reports later : List Metrics) (f : Figure) :
    lastFigure (reports ++ later) f = (lastFigure later f).or (lastFigure reports f) := by
  simp [lastFigure, List.getLast?_append]

theorem lastFigure_singleton (m : Metrics) (f : Figure) : lastFigure [m] f = m.figure f := by
  cases h : m.figure f <;> simp [lastFigure, h]

theorem lastFigure_eq_none {reports : List Metrics} {f : Figure}
    (h : ∀ m ∈ reports, m.figure f = none) : lastFigure reports f = none := by
  have hnone : reports.filterMap (fun m => m.figure f) = [] := List.filterMap_eq_nil_iff.2 h
  rw [lastFigure, hnone, List.getLast?_nil]

/-- **What reports come to, one absorbed after the other,** is the last of each figure. -/
theorem figure_foldl_absorb (reports : List Metrics) (f : Figure) :
    (reports.foldl absorb {}).figure f = lastFigure reports f := by
  induction reports using List.reverseRecOn with
  | nil => exact figure_empty f
  | append_singleton reports m ih =>
      rw [List.foldl_concat, figure_absorb, ih, lastFigure_append, lastFigure_singleton]

end Metrics

/-! ## Reports since the figures were put away -/

/-- What becomes of the latest figures. -/
inductive Tidings where
  | cleared
  | reported (m : Metrics)

def Tidings.report? : Tidings → Option Metrics
  | reported m => some m
  | cleared => none

/-- The reports since the figures were last put away, oldest first. -/
def reportsSince (past : List Tidings) : List Metrics :=
  (past.rtakeWhile (fun t => t.report?.isSome)).filterMap Tidings.report?

theorem reportsSince_cleared (past : List Tidings) : reportsSince (past ++ [.cleared]) = [] := by
  simp [reportsSince, Tidings.report?]

theorem reportsSince_reported (past : List Tidings) (m : Metrics) :
    reportsSince (past ++ [.reported m]) = reportsSince past ++ [m] := by
  simp [reportsSince, Tidings.report?]

namespace Console

variable {σ : Type} [CommandSink σ]

/-- What an operation means for the latest figures. They are put away by a reset and by a start of a test
    that is accepted; and progress and the end of a test report. -/
def tidings? (c : Console σ) (label : String) : Operation σ → Option Tidings
  | .submit .startTest => if (c.submit .startTest label).1.isOk then some .cleared else none
  | .reset => some .cleared
  | .event e => e.report?.map .reported
  | .payload text => ((Event.decode text).toOption.bind Event.report?).map .reported
  | _ => none

/-- What operations mean for the latest figures, one after the other. -/
def tidings (c : Console σ) : List (String × Operation σ) → List Tidings
  | [] => []
  | (label, op) :: rest => (c.tidings? label op).toList ++ (c.perform label op).tidings rest

/-- What tidings make of the latest figures. -/
def heard (latest : Metrics) : Option Tidings → Metrics
  | some .cleared => {}
  | some (.reported m) => latest.absorb m
  | none => latest

section

variable (c : Console σ) (label : String)

/-- Only reports among the events touch the latest figures. -/
theorem latest_handleEvent (e : Event) :
    (c.handleEvent label e).state.latest = heard c.state.latest (e.report?.map .reported) := by
  obtain ⟨log, hstate⟩ := c.state_handleEvent label e
  rw [hstate]
  show (c.state.dispatch label e).1.latest = _
  rw [c.state.latest_dispatch label e]
  cases e <;> rfl

/-- A start of a test puts the latest figures away if it is accepted. -/
theorem latest_submit_startTest :
    (c.submit .startTest label).2.state.latest =
      if (c.submit .startTest label).1.isOk then {} else c.state.latest := by
  have hsub := c.submission .startTest label
  generalize c.submit .startTest label = result at hsub ⊢
  cases hsub with
  | sent command sink henc hsend => exact latest_applySent c.state label .startTest
  | refused command e sink henc hsend => exact c.state.latest_note label .error _
  | rejected r henc => exact c.state.latest_note label .error _

/-- **An operation does to the latest figures what it means for them.** -/
theorem latest_perform (op : Operation σ) :
    (c.perform label op).state.latest = heard c.state.latest (c.tidings? label op) := by
  cases op with
  | submit intent =>
      cases intent with
      | startTest =>
          rw [perform, latest_submit_startTest, tidings?]
          split <;> rfl
      | _ =>
          exact @same_submit _ _ c label _ .latest rfl
  | event e => exact c.latest_handleEvent label e
  | payload text =>
      cases hdecode : Event.decode text with
      | ok e =>
          have hevent := c.latest_handleEvent label e
          simpa [perform, handlePayload, tidings?, hdecode, Except.toOption] using hevent
      | error err =>
          simp [perform, handlePayload, tidings?, hdecode, Except.toOption, record, heard]
  | setMode mode =>
      simp only [perform, setMode]
      cases c.state.session.setMode mode <;> exact ClientState.latest_note _ _ _ _
  | selectTest kind =>
      simp only [perform, selectTest, configure]
      cases c.state.session.checkReconfigure with
      | ok _ => rfl
      | error e => exact ClientState.latest_note _ _ _ _
  | configure edit =>
      simp only [perform, configure]
      cases c.state.session.checkReconfigure with
      | ok _ => rfl
      | error e => exact ClientState.latest_note _ _ _ _
  | record level message => exact c.state.latest_note label level message
  | reset => rfl
  | connected =>
      obtain ⟨log, hstate⟩ := c.state_onConnected label
      rw [perform, hstate]
      rfl
  | disconnected =>
      obtain ⟨log, hstate⟩ := c.state_onDisconnected label
      rw [perform, hstate]
      rfl
  | sinkChanged change => rfl

end

/-- The latest figures go along with the reports. -/
theorem foldl_absorb_heard {latest : Metrics} {past : List Tidings}
    (h : latest = (reportsSince past).foldl Metrics.absorb {}) (t : Option Tidings) :
    heard latest t = (reportsSince (past ++ t.toList)).foldl Metrics.absorb {} := by
  cases t with
  | none => rw [Option.toList_none, List.append_nil]; exact h
  | some t =>
      cases t with
      | cleared => rw [Option.toList_some, reportsSince_cleared]; rfl
      | reported m => rw [Option.toList_some, reportsSince_reported, List.foldl_concat, ← h]; rfl

/-- The same along a run, by induction on what is done; `past` is what came before. -/
theorem latest_run {c : Console σ} {past : List Tidings}
    (h : c.state.latest = (reportsSince past).foldl Metrics.absorb {})
    (ops : List (String × Operation σ)) :
    (c.run ops).state.latest = (reportsSince (past ++ c.tidings ops)).foldl Metrics.absorb {} := by
  induction ops generalizing c past with
  | nil => rw [tidings, List.append_nil]; exact h
  | cons head rest ih =>
      obtain ⟨label, op⟩ := head
      have hnext := foldl_absorb_heard h (c.tidings? label op)
      rw [← latest_perform] at hnext
      rw [tidings, ← List.append_assoc]
      exact ih hnext

theorem figure_run (config : ClientConfig) (sink : σ) (ops : List (String × Operation σ))
    (f : Figure) :
    ((Console.new config sink).run ops).state.latest.figure f =
      Metrics.lastFigure (reportsSince ((Console.new config sink).tidings ops)) f := by
  have hnew : (Console.new config sink).state.latest = (reportsSince []).foldl Metrics.absorb {} := rfl
  rw [latest_run hnew, Metrics.figure_foldl_absorb, List.nil_append]

/-- **The latest figures are the last reported ones of the run.** Whatever was done to a new console: each
    of its figures is that of the last report which has it, among the reports of progress and of ends of
    tests since the last start of a test that was accepted and the last reset, and is absent if none of
    them has it. A start that is refused, a link that goes down and an event that is no report, such as
    those of a sweep and the counters of the tools, leave all of them as they are. -/
theorem run_latest (config : ClientConfig) (sink : σ) (ops : List (String × Operation σ)) :
    let new := Console.new config sink
    let c := new.run ops
    (∀ f, c.state.latest.figure f = Metrics.lastFigure (reportsSince (new.tidings ops)) f) ∧
    (∀ label r, (c.submit .startTest label).1 = .error r →
      (c.submit .startTest label).2.state.latest = c.state.latest) ∧
    (∀ label, (c.onDisconnected label).state.latest = c.state.latest) ∧
    ∀ label e, e.report? = none → (c.handleEvent label e).state.latest = c.state.latest := by
  intro new c
  refine ⟨figure_run config sink ops, ?_, ?_, ?_⟩
  · intro label r hrefused
    rw [latest_submit_startTest, hrefused]
    rfl
  · intro label
    exact c.latest_perform label .disconnected
  · intro label e hnone
    rw [latest_handleEvent, hnone]
    rfl

/-- A start that is accepted, a loss and a bandwidth, a start that is refused since the test is still in
    progress, and an end with another bandwidth. -/
def mixedReports : List (String × Operation Link.Handle) :=
  [("1", .submit .startTest),
    ("2", .event (.progress { bandwidthMbps := some 940.0, packetLoss := some 0.5 })),
    ("3", .submit .startTest),
    ("4", .event (.testComplete { bandwidthMbps := some 950.0, packetsSent := some 7 }))]

theorem reportsSince_mixedReports :
    reportsSince ((Console.new {} { state := .connected, outbox := some {} }).tidings mixedReports) =
      [{ bandwidthMbps := some 940.0, packetLoss := some 0.5 },
        { bandwidthMbps := some 950.0, packetsSent := some 7 }] := rfl

/-- Each figure has its own last report, and a link that goes down takes none of them away. -/
theorem run_latest_mixedReports :
    let latest := (((Console.new {} { state := .connected, outbox := some {} }).run
      mixedReports).onDisconnected "5").state.latest
    latest.figure .bandwidth = some (950.0 : Float) ∧ latest.figure .packetLoss = some (0.5 : Float) ∧
      latest.figure .packetsSent = some (7 : UInt64) ∧ latest.figure .jitter = none := by
  obtain ⟨hfigure, -, hdown, -⟩ :=
    run_latest {} { state := .connected, outbox := some {} } mixedReports
  simp only [hdown, hfigure, reportsSince_mixedReports]
  exact ⟨rfl, rfl, rfl, rfl⟩

end Console

/-! ## The loss -/

namespace Metrics

theorem lossPercent_foldl_absorb (reports : List Metrics) :
    (reports.foldl absorb {}).lossPercent =
      (lastFigure reports .lostPercent).or (lastFigure reports .packetLoss) := by
  rw [← figure_foldl_absorb, ← figure_foldl_absorb]
  rfl

theorem lossPercent_eq_none_iff (m : Metrics) :
    m.lossPercent = none ↔ m.figure .lostPercent = none ∧ m.figure .packetLoss = none :=
  Option.or_eq_none_iff

/-- Two values with their earlier ones behind them: the earlier ones show only where the first of the two
    is absent. -/
theorem or_or_eq_iff {α : Type} {x y earlierX earlierY : Option α} (h : x.or y ≠ none) :
    (x.or earlierX).or (y.or earlierY) = x.or y ↔ x ≠ none ∨ earlierX = none ∨ earlierX = y := by
  cases x with
  | some a => simp
  | none =>
      cases y with
      | none => exact absurd rfl h
      | some b => cases earlierX <;> simp

theorem lossPercent_foldl_absorb_eq_none {reports : List Metrics}
    (h : ∀ m ∈ reports, m.lossPercent = none) : (reports.foldl absorb {}).lossPercent = none := by
  have hlost := lastFigure_eq_none fun m hm => (m.lossPercent_eq_none_iff.1 (h m hm)).1
  have hpacket := lastFigure_eq_none fun m hm => (m.lossPercent_eq_none_iff.1 (h m hm)).2
  rw [lossPercent_foldl_absorb, hlost, hpacket]
  rfl

/-- **When the loss that reports come to is that of the last report with a loss.** -/
theorem lossPercent_foldl_absorb_eq_iff {before after : List Metrics} {m : Metrics}
    (hm : m.lossPercent ≠ none) (hafter : ∀ later ∈ after, later.lossPercent = none) :
    ((before ++ m :: after).foldl absorb {}).lossPercent = m.lossPercent ↔
      m.lostPercent ≠ none ∨ lastFigure before .lostPercent = none ∨
        lastFigure before .lostPercent = m.packetLoss := by
  have hlost := lastFigure_eq_none fun later hmem => (later.lossPercent_eq_none_iff.1 (hafter later hmem)).1
  have hpacket := lastFigure_eq_none fun later hmem => (later.lossPercent_eq_none_iff.1 (hafter later hmem)).2
  have hsplit : before ++ m :: after = before ++ [m] ++ after := by simp
  rw [hsplit, lossPercent_foldl_absorb, lastFigure_append _ after, lastFigure_append _ after, hlost,
    hpacket, Option.none_or, Option.none_or, lastFigure_append, lastFigure_append,
    lastFigure_singleton, lastFigure_singleton]
  exact or_or_eq_iff hm

end Metrics

namespace Console

variable {σ : Type} [CommandSink σ]

/-- **When the loss that is shown is the one last reported.** Whatever was done to a new console, take the
    reports since its figures were put away. If none of them has a loss, none is shown. Otherwise the loss
    shown is that of the last report with a loss exactly if this report has it under the first of the two
    names, or no report before it has, or the last that they have under it is the same. -/
theorem run_loss (config : ClientConfig) (sink : σ) (ops : List (String × Operation σ)) :
    let new := Console.new config sink
    let reports := reportsSince (new.tidings ops)
    let shown := (new.run ops).state.latest.lossPercent
    ((∀ m ∈ reports, m.lossPercent = none) → shown = none) ∧
    ∀ before m after, reports = before ++ m :: after → m.lossPercent ≠ none →
      (∀ later ∈ after, later.lossPercent = none) →
      (shown = m.lossPercent ↔ m.lostPercent ≠ none ∨ Metrics.lastFigure before .lostPercent = none ∨
        Metrics.lastFigure before .lostPercent = m.packetLoss) := by
  intro new reports shown
  have hnew : new.state.latest = (reportsSince []).foldl Metrics.absorb {} := rfl
  have hshown : shown = (reports.foldl Metrics.absorb {}).lossPercent :=
    congrArg Metrics.lossPercent (latest_run hnew ops)
  refine ⟨?_, ?_⟩
  · intro hnone
    rw [hshown]
    exact Metrics.lossPercent_foldl_absorb_eq_none hnone
  · intro before m after hsplit hm hafter
    rw [hshown, hsplit]
    exact Metrics.lossPercent_foldl_absorb_eq_iff hm hafter

/-- Two reports, the second of them at the end of a test. -/
def twoLosses (first second : Metrics) : List (String × Operation Link.Handle) :=
  [("1", .event (.progress first)), ("2", .event (.testComplete second))]

theorem reportsSince_twoLosses (first second : Metrics) :
    reportsSince ((Console.new {} ({} : Link.Handle)).tidings (twoLosses first second)) =
      [first, second] := rfl

/-- The loss under the preferred name takes the place of the other. -/
theorem run_loss_preferredLast :
    Metrics.lossPercent { lostPercent := some 1.0 } ≠ none ∧
      (∀ later ∈ ([] : List Metrics), later.lossPercent = none) ∧
      ((Console.new {} ({} : Link.Handle)).run (twoLosses { packetLoss := some 5.0 }
        { lostPercent := some 1.0 })).state.latest.lossPercent = some 1.0 := by
  have hsome : Metrics.lossPercent { lostPercent := some 1.0 } ≠ none := Option.some_ne_none 1.0
  have hnone : ∀ later ∈ ([] : List Metrics), later.lossPercent = none := by simp
  obtain ⟨-, hiff⟩ := run_loss {} ({} : Link.Handle) (twoLosses _ _)
  have hsplit := reportsSince_twoLosses { packetLoss := some 5.0 } { lostPercent := some 1.0 }
  have hshown := (hiff [_] _ [] hsplit hsome hnone).2 (.inl (Option.some_ne_none 1.0))
  exact ⟨hsome, hnone, hshown⟩

theorem latest_twoLosses (first second : Metrics) :
    ((Console.new {} ({} : Link.Handle)).run (twoLosses first second)).state.latest =
      (({} : Metrics).absorb first).absorb second := rfl

/-- A loss under the preferred name, and behind it one under the other. -/
def staleLoss : List (String × Operation Link.Handle) :=
  twoLosses { lostPercent := some 1.0 } { packetLoss := some 5.0 }

/-- The earlier loss stays on its card, though the end of the test reports another. -/
theorem run_staleLoss :
    let shown := ((Console.new {} ({} : Link.Handle)).run staleLoss).state.latest.lossPercent
    reportsSince ((Console.new {} ({} : Link.Handle)).tidings staleLoss) =
        [{ lostPercent := some 1.0 }, { packetLoss := some 5.0 }] ∧
      shown = some 1.0 ∧ shown ≠ Metrics.lossPercent { packetLoss := some 5.0 } := by
  intro shown
  have hshown : shown = some 1.0 := congrArg Metrics.lossPercent (latest_twoLosses _ _)
  have hother : Metrics.lossPercent { packetLoss := some 5.0 } = some 5.0 := rfl
  refine ⟨reportsSince_twoLosses _ _, hshown, ?_⟩
  rw [hshown, hother]
  exact (by decide +kernel : some (1.0 : Float) ≠ some 5.0)

end Console

end NetGauge
