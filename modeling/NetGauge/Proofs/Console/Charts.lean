import NetGauge.Link.Handle
import NetGauge.Proofs.Console.Turns
import NetGauge.Proofs.Telemetry

set_option autoImplicit false

/-! # The latest figures and the charts

The figures of the last reports are shown on cards, and the charts keep what was reported over time. The
two are cleared on different occasions, and only the charts forget. They never disagree all the same: as
long as a card shows a figure, it is the last value that the log behind the charts has for its series
(`Charted`), and that value is lost to the chart only when a hundred ticks have been opened behind it
(`Console.run_cards`).

A change of the client's state comes down to edits of the chart buffer (`Change.edits`), and those of a
report record the very values that go to the cards (`Metrics.lastValue_readings`). -/

namespace NetGauge

open Telemetry (Edit Reading lastValue logged)

/-! ## What a report records -/

namespace Metrics

/-- The charted values of a report, as readings in the tick of a label. -/
def readings (m : Metrics) (label : String) : List Reading :=
  Series.all.filterMap (fun s => (m.charted s).map (fun x => ⟨s, x, label⟩))

/-- A report has one value for a series at most. -/
theorem lastValue_readings (m : Metrics) (label : String) (s : Series) :
    lastValue s (m.readings label) = m.charted s := by
  have hvalues : (m.readings label).filterMap (Reading.valueFor s) =
      Series.all.filterMap (fun s' => if s' = s then m.charted s else none) := by
    rw [readings, List.filterMap_filterMap]
    refine List.filterMap_congr ?_
    rintro s' -
    by_cases h : s' = s
    · subst h
      cases m.charted s' <;> simp [Reading.valueFor]
    · cases m.charted s' <;> simp [Reading.valueFor, h]
  rw [lastValue, hvalues]
  cases hvalue : m.charted s <;> cases s <;> simp [Series.all]

/-- A figure that a report has takes the place of the earlier one. -/
theorem charted_absorb (earlier later : Metrics) (s : Series) :
    (earlier.absorb later).charted s = (later.charted s).or (earlier.charted s) := by
  cases s <;> rfl

end Metrics

theorem Telemetry.putAll_eq_applyAll (b : Telemetry) (m : Metrics) (label : String) :
    b.putAll m label = b.applyAll ((m.readings label).map .put) := by
  unfold Telemetry.putAll Metrics.readings Telemetry.applyAll
  rw [List.foldl_map, List.foldl_filterMap]
  congr 1
  funext b s
  cases m.charted s <;> rfl

/-! ## What the changes of the client's state do to the charts -/

/-- The figures that an event reports. -/
def Event.report? : Event → Option Metrics
  | progress m | testComplete m => some m
  | _ => none

namespace Change

/-- What a change does to the chart buffer. A start clears it, unless a sweep is asked for. -/
def edits : Change → List Edit
  | sent .startTest _ command => if command.sizes?.isSome then [] else [.reset]
  | dispatched label e => e.report?.elim [] (fun m => (m.readings label).map .put)
  | reset => [.reset]
  | _ => []

end Change

section

variable {s t : ClientState} {change : Change} {history : List Change} {edits : List Edit}

/-- The chart buffer goes along with the edits. -/
theorem telemetry_apply (hallowed : change.Allowed s) :
    (change.apply s).telemetry = s.telemetry.applyAll change.edits := by
  cases change with
  | sent intent label command =>
      rw [Change.apply, Console.telemetry_applySent]
      cases intent with
      | startTest =>
          have hsizes := Intent.sizes?_of_allowed hallowed
          cases hsweep : s.request.kind.isSweep <;> simp [Change.edits, hsizes, hsweep] <;> rfl
      | _ => rfl
  | dispatched label e =>
      rw [Change.apply, s.telemetry_dispatch label e]
      cases e with
      | progress m | testComplete m => exact s.telemetry.putAll_eq_applyAll m label
      | _ => rfl
  | noted label level message => exact s.telemetry_note label level message
  | linked _ | modeSet _ | edited _ | reset => rfl

/-- The charts are what edits have made of an empty buffer, and a figure on a card is the last value that
    they have recorded for its series. -/
structure Charted (s : ClientState) (edits : List Edit) : Prop where
  telemetry : s.telemetry = Telemetry.new.applyAll edits
  cards : ∀ series x, s.latest.charted series = some x → lastValue series (logged edits) = some x

/-- Cards that were cleared show nothing that the charts could lack. -/
theorem not_charted_blank (series : Series) (x : Float) : ¬({} : Metrics).charted series = some x := by
  cases series <;> nofun

/-- What a card shows after a change was recorded by the change, or it was there before and the change has
    spared its series. -/
theorem Charted.cards_apply (h : Charted s edits) (change : Change) (series : Series) (x : Float)
    (hcard : (change.apply s).latest.charted series = some x) :
    lastValue series (logged (edits ++ change.edits)) = some x := by
  have hkept (hedits : change.edits = []) (hlatest : (change.apply s).latest = s.latest) :
      lastValue series (logged (edits ++ change.edits)) = some x := by
    rw [hedits, List.append_nil]
    exact h.cards series x (hlatest ▸ hcard)
  cases change with
  | sent intent label command =>
      have hlatest := Console.latest_applySent s label intent
      cases intent with
      | startTest =>
          rw [Change.apply, hlatest] at hcard
          exact absurd hcard (not_charted_blank series x)
      | _ => exact hkept rfl hlatest
  | dispatched label e =>
      have hlatest := s.latest_dispatch label e
      cases e with
      | progress m | testComplete m =>
          have hlogged := Telemetry.logged_puts edits (m.readings label)
          rw [Change.apply, hlatest, Metrics.charted_absorb] at hcard
          rw [Change.edits, Event.report?, Option.elim_some, hlogged, Telemetry.lastValue_append,
            Metrics.lastValue_readings]
          cases hreported : m.charted series with
          | some y => simpa [hreported] using hcard
          | none =>
              rw [hreported, Option.none_or] at hcard
              exact h.cards series x hcard
      | _ => exact hkept rfl hlatest
  | noted label level message => exact hkept rfl (s.latest_note label level message)
  | linked _ | modeSet _ | edited _ => exact hkept rfl rfl
  | reset => exact absurd hcard (not_charted_blank series x)

/-- **No change parts the cards from the charts.** -/
theorem Charted.apply (h : Charted s edits) (hallowed : change.Allowed s) :
    Charted (change.apply s) (edits ++ change.edits) where
  telemetry := by
    rw [telemetry_apply hallowed, h.telemetry, Telemetry.applyAll_append]
  cards := h.cards_apply change

theorem Charted.path (h : Charted s edits) (hpath : Path s history t) :
    Charted t (edits ++ history.flatMap Change.edits) := by
  induction hpath generalizing edits with
  | nil _ => simpa using h
  | cons hallowed _ ih =>
      rw [List.flatMap_cons, ← List.append_assoc]
      exact ih (h.apply hallowed)

end

namespace Console

variable {σ : Type} [CommandSink σ]

/-- **The cards and the charts never disagree.** Whatever was done to a new console, its charts are what
    the edits of its history have made of an empty buffer. Where a card shows a figure, one of these edits
    has recorded it, and since then nothing was recorded for its series and nothing was cleared. The figure
    is the most recent value of the series as long as fewer than a hundred ticks have been opened since
    then, and after that the series has no value left. -/
theorem run_cards (config : ClientConfig) (sink : σ) (ops : List (String × Operation σ)) :
    let c := (Console.new config sink).run ops
    let edits := ((Console.new config sink).history ops).flatMap Change.edits
    c.state.telemetry = Telemetry.new.applyAll edits ∧
    ∀ s x, c.state.latest.charted s = some x → ∃ before label later,
      edits = before ++ .put ⟨s, x, label⟩ :: later ∧ Telemetry.Spares s later ∧
      let since := (Telemetry.new.applyAll (before ++ [.put ⟨s, x, label⟩])).ticksOpened later
      (since < 100 ∧ c.state.telemetry.latest s = some x) ∨
        (100 ≤ since ∧ ∀ slot ∈ c.state.telemetry.values s, slot = none) := by
  intro c edits
  have hnew : Charted (Console.new config sink).state [] :=
    ⟨rfl, fun s x hcard => absurd hcard (not_charted_blank s x)⟩
  have hcharted : Charted c.state edits := hnew.path ((Console.new config sink).path_run ops)
  refine ⟨hcharted.telemetry, ?_⟩
  intro s x hcard
  obtain ⟨before, label, later, hsplit, hspares⟩ :=
    Telemetry.exists_put_of_lastValue (hcharted.cards s x hcard)
  refine ⟨before, label, later, hsplit, hspares, ?_⟩
  have hlatest := Telemetry.latest_applyAll 100 before later s x label hspares
  rw [← Telemetry.new, ← hsplit, ← hcharted.telemetry] at hlatest
  split at hlatest
  · next hfew => exact .inl ⟨hfew, hlatest⟩
  · next hmany => exact .inr ⟨Nat.le_of_not_lt hmany, (Telemetry.latest_eq_none_iff _ s).1 hlatest⟩

/-- A bandwidth, and one tick later a latency. -/
def twoReports : List (String × Operation Link.Handle) :=
  [("1", .event (.progress { bandwidthMbps := some 940.0 })),
    ("2", .event (.progress { latencyAvgUs := some 12.5 }))]

/-- The bandwidth is on its card and in its chart, though the last tick has none. -/
theorem run_cards_twoReports :
    let c := (Console.new {} ({} : Link.Handle)).run twoReports
    c.state.latest.charted .bandwidth = some 940.0 ∧
      c.state.telemetry.latest .bandwidth = some 940.0 := by
  intro c
  have hcard : c.state.latest.charted .bandwidth = some 940.0 := rfl
  refine ⟨hcard, ?_⟩
  obtain ⟨before, label, later, hsplit, -, hshown⟩ :=
    (run_cards {} ({} : Link.Handle) twoReports).2 .bandwidth 940.0 hcard
  rcases hshown with ⟨-, hlatest⟩ | ⟨hmany, -⟩
  · exact hlatest
  · -- Two edits do not open a hundred ticks.
    exfalso
    have hedits : (((Console.new {} ({} : Link.Handle)).history twoReports).flatMap
        Change.edits).length = 2 := rfl
    have hticks := Telemetry.ticksOpened_le_length
      (Telemetry.new.applyAll (before ++ [.put ⟨.bandwidth, 940.0, label⟩])) later
    have hlength := congrArg List.length hsplit
    rw [hedits, List.length_append, List.length_cons] at hlength
    omega

end Console

end NetGauge
