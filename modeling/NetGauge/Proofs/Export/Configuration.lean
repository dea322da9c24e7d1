import NetGauge.Export
import NetGauge.Link.Handle
import NetGauge.Proofs.Config
import NetGauge.Proofs.Console.Charts
import NetGauge.Proofs.Console.Turns

set_option autoImplicit false

/-! # The configuration in an export

An export has the figures of a test and a configuration beside them, and the two have lives of their own.
The figures are put away when a test is started; the configuration is the request for the next test, which
may be edited as soon as no test is in progress. So what is exported as the configuration is the request
that the latest test was started with, together with all that has been edited since
(`Console.run_configuration`). This is that request as long as the test has not ended. After its end it is
that request only if the edits lead back to it, while the figures are still those of the test
(`Console.document_editedAfterwards`). -/

namespace NetGauge

open Json (Form Value)

/-! ## The request and the figures along a history -/

namespace Change

/-- What a change makes of the request. -/
def reconfigure (request : TestRequest) : Change → TestRequest
  | edited edit => edit request
  | _ => request

/-- The figures that a change reports. -/
def report? : Change → Option Metrics
  | dispatched _ e => e.report?
  | _ => none

/-- The start of a test. -/
def startsTest : Change → Bool
  | sent .startTest _ _ => true
  | _ => false

end Change

section

variable {s t : ClientState} {change : Change} {history later : List Change} {request : TestRequest}

/-- Only an edit changes the request. -/
theorem request_apply (s : ClientState) (change : Change) :
    (change.apply s).request = change.reconfigure s.request := by
  cases change with
  | noted label level message => exact s.request_note label level message
  | sent intent label command => exact Console.request_applySent s label intent
  | dispatched label e => exact s.request_dispatch label e
  | linked _ | modeSet _ | edited _ | reset => rfl

/-- The request is what the edits have made of the first one, one after the other. -/
theorem request_after (s : ClientState) (changes : List Change) :
    (s.after changes).request = changes.foldl Change.reconfigure s.request := by
  induction changes generalizing s with
  | nil => rfl
  | cons change later ih =>
      rw [List.foldl_cons, ← request_apply]
      exact ih (change.apply s)

/-- Figures are put away by a start and by a reset, and are added to by a report. -/
theorem latest_apply (hstarts : change.startsTest = false) (hreset : change ≠ .reset) :
    (change.apply s).latest = change.report?.toList.foldl Metrics.absorb s.latest := by
  cases change with
  | noted label level message => exact s.latest_note label level message
  | sent intent label command =>
      rw [Change.apply, Console.latest_applySent]
      cases intent with
      | startTest => cases hstarts
      | _ => rfl
  | dispatched label e =>
      rw [Change.apply, s.latest_dispatch label e]
      cases e <;> rfl
  | linked _ | modeSet _ | edited _ => rfl
  | reset => exact absurd rfl hreset

theorem latest_after (hstarts : ∀ x ∈ later, x.startsTest = false) (hreset : .reset ∉ later)
    (s : ClientState) :
    (s.after later).latest = (later.filterMap Change.report?).foldl Metrics.absorb s.latest := by
  induction later generalizing s with
  | nil => rfl
  | cons change later ih =>
      rw [List.forall_mem_cons] at hstarts
      rw [List.mem_cons, not_or] at hreset
      have hrest := ih hstarts.2 hreset.2 (change.apply s)
      have hfirst := latest_apply (s := s) hstarts.1 fun h => hreset.1 h.symm
      rw [ClientState.after, List.foldl_cons, ← ClientState.after, hrest, hfirst]
      cases hreport : change.report? with
      | none => rw [List.filterMap_cons_none hreport, Option.toList_none, List.foldl_nil]
      | some m =>
          rw [List.filterMap_cons_some hreport, Option.toList_some, List.foldl_cons, List.foldl_cons,
            List.foldl_nil]

/-- While a test is in progress nothing is edited. -/
theorem reconfigured_of_busy (hpath : Path s later t) (hbusy : s.session.status ≠ .idle)
    (hends : ∀ x ∈ later, ¬x.EndsRun ∧ x ≠ .reset) (request : TestRequest) :
    later.foldl Change.reconfigure request = request := by
  induction hpath with
  | nil _ => rfl
  | @cons s t change later hallowed _ ih =>
      rw [List.forall_mem_cons] at hends
      obtain ⟨⟨hend, hreset⟩, hlater⟩ := hends
      -- The client stays busy, since only the end of a run or a reset would make it idle.
      have hstill : (change.apply s).session.status ≠ .idle := by
        intro hidle
        exact (idle_of_apply hallowed hbusy hidle).elim hend hreset
      have hsame : change.reconfigure request = request := by
        cases change with
        | edited edit => exact absurd hallowed hbusy
        | _ => rfl
      rw [List.foldl_cons, hsame]
      exact ih hstill hlater

end

/-! ## The test that was started last -/

/-- The latest test that was started in a history was started with this request, and this is what has
    happened since. -/
structure Started (s : ClientState) (history : List Change) (request : TestRequest)
    (later : List Change) : Prop where
  begun : ∃ before label command, history = before ++ .sent .startTest label command :: later ∧
    (s.after before).request = request
  last : ∀ x ∈ later, x.startsTest = false

section

variable {s t : ClientState} {history later : List Change} {request : TestRequest}

/-- The state right after the start: it is busy, and has the request and no figures. -/
theorem Started.split (h : Started s history request later) (hpath : Path s history t) :
    ∃ started : ClientState, Path started later t ∧ started.session.status ≠ .idle ∧
      started.request = request ∧ started.latest = {} := by
  obtain ⟨before, label, command, rfl, hrequest⟩ := h.begun
  cases hpath.split.2 with
  | cons hallowed hlater =>
      refine ⟨_, hlater, ?_, ?_, ?_⟩
      · obtain ⟨-, hsession⟩ := Console.begin_of_sent hallowed label
        rw [Change.apply, hsession]
        intro hidle
        cases hidle
      · rw [request_apply]
        exact hrequest
      · exact Console.latest_applySent _ label .startTest

end

/-! ## The document -/

namespace ClientState

variable (s : ClientState) (moment : Moment)

theorem configuration_document :
    (s.document moment).get? "configuration" = some (Form.toValue s.request) := rfl

/-- The figures in an export. -/
theorem metrics_document :
    ((s.document moment).get? "results").bind (Value.get? "metrics") = some (Form.toValue s.latest) := by
  show Value.get? "metrics" (.object (("metrics", Form.toValue s.latest) ::
    if s.sweep.results.isEmpty then [] else [("sweep", .ofList Form.toValue s.sweep.results)])) = _
  split <;> rfl

end ClientState

namespace Console

variable {σ : Type} [CommandSink σ]

/-- **What is exported as the configuration.** Whatever was done to a new console, let a test have been
    started in it, the latest with a certain request. Then what is exported is what later edits have made
    of this request: it is the request that the test was started with exactly if they lead back to it, and
    this is so as long as neither a run has ended since nor a reset was made. The figures beside it are
    those that were reported since the start, if no reset was made. -/
theorem run_configuration (config : ClientConfig) (sink : σ) (ops : List (String × Operation σ))
    {request : TestRequest} {later : List Change}
    (hstarted : Started (Console.new config sink).state ((Console.new config sink).history ops)
      request later) (moment : Moment) :
    let document := ((Console.new config sink).run ops).state.document moment
    let exported := later.foldl Change.reconfigure request
    document.get? "configuration" = some (Form.toValue exported) ∧
    (document.get? "configuration" = some (Form.toValue request) ↔ exported = request) ∧
    ((∀ x ∈ later, ¬x.EndsRun ∧ x ≠ .reset) → exported = request) ∧
    (.reset ∉ later → (document.get? "results").bind (Value.get? "metrics") =
      some (Form.toValue ((later.filterMap Change.report?).foldl Metrics.absorb {}))) := by
  intro document exported
  have hpath := (Console.new config sink).path_run ops
  obtain ⟨started, hlater, hbusy, hrequest, hlatest⟩ := hstarted.split hpath
  have hend := hlater.eq_after
  have hdocument : document.get? "configuration" = some (Form.toValue exported) := by
    rw [ClientState.configuration_document, hend, request_after, hrequest]
  refine ⟨hdocument, ?_, fun hends => reconfigured_of_busy hlater hbusy hends request, ?_⟩
  · rw [hdocument, Option.some.injEq, TestRequest.recovers.injective.eq_iff]
  · intro hreset
    rw [ClientState.metrics_document, hend, latest_after hstarted.last hreset, hlatest]

/-- A test with the default request, the selection of another test, which is refused, and some figures. -/
def refusedSelection (m : Metrics) : List (String × Operation Link.Handle) :=
  [("1", .submit .startTest), ("2", .selectTest .icmpPing), ("3", .event (.progress m))]

theorem history_refusedSelection (m : Metrics) :
    (Console.new {} ({ state := .connected, outbox := some {} } : Link.Handle)).history
        (refusedSelection m) =
      [.sent .startTest "1" (.startThroughput ⟨"127.0.0.1", 10, 5201, false, none⟩),
        .noted "2" .error "cannot change the test selection while a test is running",
        .dispatched "3" (.progress m)] := rfl

theorem run_configuration_refusedSelection :
    let new := Console.new {} ({ state := .connected, outbox := some {} } : Link.Handle)
    let ops := refusedSelection { retransmits := some 7 }
    let document := (new.run ops).state.document ⟨0, 0⟩
    (∃ later, Started new.state (new.history ops) {} later) ∧
    document.get? "configuration" = some (Form.toValue ({} : TestRequest)) ∧
    (document.get? "results").bind (Value.get? "metrics") =
      some (Form.toValue ({ retransmits := some 7 } : Metrics)) := by
  intro new ops document
  have hstarted : Started new.state (new.history ops) {} _ :=
    ⟨⟨[], "1", _, history_refusedSelection _, rfl⟩, by simp [Change.startsTest]⟩
  obtain ⟨hedited, -, hsame, hmetrics⟩ := run_configuration {} _ ops hstarted ⟨0, 0⟩
  refine ⟨⟨_, hstarted⟩, ?_, hmetrics (by simp)⟩
  rw [hedited, hsame]
  simp [Change.EndsRun, Event.isTerminal]

/-- A test with the default request, its end with some figures, and then the selection of another test. -/
def editedAfterwards (m : Metrics) : List (String × Operation Link.Handle) :=
  [("1", .submit .startTest), ("2", .event (.testComplete m)), ("3", .selectTest .icmpPing)]

theorem run_editedAfterwards (m : Metrics) :
    let new := Console.new {} ({ state := .connected, outbox := some {} } : Link.Handle)
    (new.run (editedAfterwards m)).state.request = { kind := .icmpPing } ∧
      (new.run (editedAfterwards m)).state.latest = ({} : Metrics).absorb m ∧
      new.history (editedAfterwards m) =
        [.sent .startTest "1" (.startThroughput ⟨"127.0.0.1", 10, 5201, false, none⟩),
          .dispatched "2" (.testComplete m), .edited (fun r => { r with kind := .icmpPing })] :=
  ⟨rfl, rfl, rfl⟩

/-- The figures of the test are exported under the name of the test that was selected after it. -/
theorem document_editedAfterwards :
    let new := Console.new {} ({ state := .connected, outbox := some {} } : Link.Handle)
    let ops := editedAfterwards { retransmits := some 7 }
    let document := (new.run ops).state.document ⟨0, 0⟩
    (∃ later, Started new.state (new.history ops) {} later ∧ .reset ∉ later) ∧
    (document.get? "results").bind (Value.get? "metrics") =
      some (Form.toValue ({ retransmits := some 7 } : Metrics)) ∧
    document.get? "configuration" = some (Form.toValue ({ kind := .icmpPing } : TestRequest)) ∧
    document.get? "configuration" ≠ some (Form.toValue ({} : TestRequest)) := by
  intro new ops document
  obtain ⟨hrequest, hlatest, hhistory⟩ := run_editedAfterwards { retransmits := some 7 }
  refine ⟨⟨_, ⟨⟨[], "1", _, hhistory, rfl⟩, ?_⟩, ?_⟩, ?_, ?_, ?_⟩
  · simp [Change.startsTest]
  · simp
  · rw [ClientState.metrics_document, hlatest]
    rfl
  · rw [ClientState.configuration_document, hrequest]
  · rw [ClientState.configuration_document, hrequest]
    intro h
    exact absurd (TestRequest.recovers.injective (Option.some.inj h)) (by decide)

end Console

end NetGauge
