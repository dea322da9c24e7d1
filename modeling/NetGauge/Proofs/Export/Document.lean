import NetGauge.Export
import NetGauge.Proofs.Config
import NetGauge.Proofs.Console.Charts
import NetGauge.Proofs.Json.Indented

set_option autoImplicit false

/-! # Reading an export back

An export is a document of four levels, laid out in lines. It has strings that come from the user and from
the backend, and doubles of all kinds; the reader makes the same strings of the former, and of the latter
numbers or null. So what is read back tells the request, the mode, the ticks and the sizes of the sweep
(`Console.run_export`). That the charts stand side by side in it is not a matter of the document: the
series are as long as the labels, whatever a buffer went through (`Console.length_values`). -/

namespace NetGauge

open Json (Form Legible Record Value Within)

/-! ## The depth of a document -/

theorem Metrics.within_toValue (m : Metrics) : Within 1 (Form.toValue m) := by
  refine .record record ?_
  intro member hmember
  simp only [record, List.mem_cons, List.not_mem_nil, or_false] at hmember
  rcases hmember with rfl | rfl | rfl | rfl | rfl | rfl | rfl | rfl | rfl | rfl | rfl | rfl | rfl
  all_goals first
    | exact .sparse Json.within_float _ _ _ m
    | exact .sparse Json.within_uint64 _ _ _ m

theorem SweepPoint.toValue_eq (p : SweepPoint) :
    Form.toValue p = .object [("msg_size", .nat p.payloadSize.toNat), ("latency_avg_us", .float p.avg),
      ("latency_min_us", .float p.min), ("latency_p50_us", .float p.p50), ("latency_p90_us", .float p.p90),
      ("latency_p99_us", .float p.p99), ("latency_max_us", .float p.max)] := rfl

theorem SweepPoint.within_toValue (p : SweepPoint) : Within 1 (Form.toValue p) := by
  rw [toValue_eq]
  refine .object ?_
  have hsize : Within 0 (.nat p.payloadSize.toNat) := Json.within_uint32 p.payloadSize
  simp [hsize, Within.float]

/-- The size of a point comes back. -/
theorem SweepPoint.get?_size_reread (p : SweepPoint) :
    (Form.toValue p).reread.get? "msg_size" = some (.nat p.payloadSize.toNat) := by
  rw [toValue_eq, Json.get?_reread]
  rfl

theorem ChartData.within_toValue (d : ChartData) : Within 2 d.toValue := by
  have hslot (slot : Option Float) : Within 0 (.ofOption .float slot) := by
    cases slot with
    | none => exact .scalar (.null 0)
    | some x => exact .float 0 x
  refine .object ?_
  rw [List.forall_mem_cons, List.forall_mem_map]
  exact ⟨.ofList (fun label => .scalar (.string 0 label)) d.labels,
    fun s _ => .ofList hslot (d.values s)⟩

namespace ClientState

variable (s : ClientState) (moment : Moment)

/-- What a test has come to. -/
def resultsValue : Value :=
  .object (("metrics", Form.toValue s.latest) ::
    if s.sweep.results.isEmpty then [] else [("sweep", .ofList Form.toValue s.sweep.results)])

theorem within_resultsValue : Within 3 s.resultsValue := by
  have hmetrics : Within 2 (Form.toValue s.latest) := s.latest.within_toValue.mono (by decide)
  have hpoints : Within 2 (.ofList Form.toValue s.sweep.results) :=
    .ofList SweepPoint.within_toValue s.sweep.results
  refine .object ?_
  rw [List.forall_mem_cons]
  refine ⟨hmetrics, ?_⟩
  split
  · exact nofun
  · exact List.forall_mem_singleton.2 hpoints

theorem within_document : Within 4 (s.document moment) := by
  refine .object ?_
  simp only [List.forall_mem_cons]
  refine ⟨.scalar (.string 0 _), .scalar (.string 0 _), ?_, s.within_resultsValue, ?_, nofun⟩
  · exact s.request.faithful.plain.within.mono (by decide)
  · exact s.telemetry.chart.within_toValue.mono (by decide)

/-- **An export is read back,** if the texts of its doubles are accepted. -/
theorem parse_export (hfloats : ∀ x ∈ (s.document moment).floats, Legible x) :
    Value.parse (s.export moment) = .ok (s.document moment).reread :=
  Value.parse_indented (s.within_document moment) (by decide) hfloats

/-! ## What is read back -/

/-- A part of a document is found in what is read back of it. -/
theorem get?_reread_document {name : String} {v : Value} (h : (s.document moment).get? name = some v) :
    (s.document moment).reread.get? name = some v.reread := by
  rw [document, Json.get?_reread, ← document, h, Option.map_some]

/-- The request and the mode have no doubles, and come back as they are. -/
theorem settings_reread :
    ((s.document moment).reread.get? "configuration").map Form.ofValue = some (.ok s.request) ∧
      ((s.document moment).reread.get? "mode").map Form.ofValue = some (.ok s.session.mode) := by
  constructor
  · rw [s.get?_reread_document moment rfl, s.request.faithful.plain.reread_eq, Option.map_some,
      TestRequest.recovers]
  · rw [s.get?_reread_document moment rfl, Option.map_some]
    exact congrArg some (Mode.recovers s.session.mode)

/-- The sizes of the points come back in their order, and an empty list of points is left out. -/
theorem points_reread :
    (s.resultsValue.reread.get? "sweep" = none ↔ s.sweep.results = []) ∧
      (s.sweep.results ≠ [] → ∃ elements, s.resultsValue.reread.get? "sweep" = some (.array elements) ∧
        elements.map (Value.get? "msg_size") =
          s.sweep.results.map (fun p => some (.nat p.payloadSize.toNat))) := by
  rw [resultsValue, Json.get?_reread]
  cases hpoints : s.sweep.results with
  | nil => exact ⟨iff_of_true rfl rfl, fun h => absurd rfl h⟩
  | cons p points =>
      refine ⟨iff_of_false nofun nofun, fun _ => ⟨_, rfl, ?_⟩⟩
      rw [Json.rereadElements_eq, List.map_map, List.map_map]
      exact List.map_congr_left fun p _ => p.get?_size_reread

/-! ## The charts -/

theorem labels_reread :
    s.telemetry.chart.toValue.reread.get? "labels" = some (.array (s.telemetry.labels.map .string)) := by
  have hplain : Json.Plain 1 (.ofList .string s.telemetry.labels) :=
    .array 0 _ (List.forall_mem_map.2 fun label _ => .string 0 label)
  rw [ChartData.toValue, Json.get?_reread]
  exact congrArg some hplain.reread_eq

end ClientState

namespace ChartData

variable (d : ChartData)

theorem get?_toValue (series : Series) :
    d.toValue.get? series.name = some (.ofList (.ofOption .float) (d.values series)) := by
  cases series <;> rfl

/-- A series comes back as an array with its slots in their order, null where there is no number. -/
theorem slots_reread (hfloats : ∀ x ∈ d.toValue.floats, Legible x) (series : Series) :
    ∃ slots : List Value, d.toValue.reread.get? series.name = some (.array slots) ∧
      slots.length = (d.values series).length ∧
      ∀ i : Nat, slots[i]? = some .null ↔
        ∃ slot : Option Float, (d.values series)[i]? = some slot ∧ ∀ x ∈ slot, ¬x.isFinite = true := by
  refine ⟨(d.values series).map fun slot => (Value.ofOption Value.float slot).reread, ?_, ?_, ?_⟩
  · rw [toValue, Json.get?_reread, ← toValue, d.get?_toValue, Option.map_some, Value.ofList, Value.reread,
      Json.rereadElements_eq, List.map_map]
    rfl
  · rw [List.length_map]
  · intro i
    rw [List.getElem?_map, Option.map_eq_some_iff]
    refine exists_congr fun slot => and_congr_right fun hslot => ?_
    -- An empty slot is written as null; a double comes back as null exactly if it is no number.
    cases slot with
    | none => exact iff_of_true rfl fun x hx => absurd hx (Option.not_mem_none x)
    | some x =>
        have hx : x ∈ d.toValue.floats := by
          refine Json.mem_floats_of_get? (d.get?_toValue series) ?_
          rw [Value.ofList, Value.floats, Json.elementFloats_eq]
          exact List.mem_flatMap.2
            ⟨.float x, List.mem_map_of_mem (List.mem_of_getElem? hslot), List.mem_cons_self⟩
        have hnull := Json.reread_float_eq_null_iff (hfloats x hx)
        simpa [Value.ofOption] using hnull

end ChartData

/-! ## Whole runs -/

namespace Console

variable {σ : Type} [CommandSink σ]

/-- The series stay as long as the labels, whatever was done to a new console. -/
theorem length_values (config : ClientConfig) (sink : σ) (ops : List (String × Operation σ))
    (series : Series) :
    let s := ((Console.new config sink).run ops).state
    (s.telemetry.values series).length = s.telemetry.labels.length := by
  intro s
  have hnew : Charted (Console.new config sink).state [] :=
    ⟨rfl, fun series x hcard => absurd hcard (not_charted_blank series x)⟩
  have hcharted := hnew.path ((Console.new config sink).path_run ops)
  show (s.telemetry.values series).length = _
  rw [hcharted.telemetry]
  exact (Telemetry.shows_applyAll 100 _).2.length_values series

/-- **A JSON export can be read back.** Whatever was done to a new console, let the texts of the doubles in
    its export be accepted. Then the export is read as a document that tells the request and the mode, and
    the labels of the ticks in their order. Every charted series has a slot for each of the labels in it,
    which is null exactly where the series has no value or one that is no number. A list of points is there
    exactly if there are points, and it tells their sizes in their order. -/
theorem run_export (config : ClientConfig) (sink : σ) (ops : List (String × Operation σ)) (moment : Moment)
    (hfloats : ∀ x ∈ (((Console.new config sink).run ops).state.document moment).floats, Legible x) :
    let s := ((Console.new config sink).run ops).state
    ∃ document chart results : Value, Value.parse (s.export moment) = .ok document ∧
      document.get? "chart_data" = some chart ∧ document.get? "results" = some results ∧
      (document.get? "configuration").map Form.ofValue = some (.ok s.request) ∧
      (document.get? "mode").map Form.ofValue = some (.ok s.session.mode) ∧
      chart.get? "labels" = some (.array (s.telemetry.labels.map .string)) ∧
      (∀ series : Series, ∃ slots : List Value, chart.get? series.name = some (.array slots) ∧
        slots.length = s.telemetry.labels.length ∧
        ∀ i : Nat, slots[i]? = some .null ↔ ∃ slot : Option Float,
          (s.telemetry.values series)[i]? = some slot ∧ ∀ x ∈ slot, ¬x.isFinite = true) ∧
      (results.get? "sweep" = none ↔ s.sweep.results = []) ∧
      (s.sweep.results ≠ [] → ∃ elements : List Value, results.get? "sweep" = some (.array elements) ∧
        elements.map (Value.get? "msg_size") =
          s.sweep.results.map (fun p => some (.nat p.payloadSize.toNat))) := by
  intro s
  have hchart : (s.document moment).get? "chart_data" = some s.telemetry.chart.toValue := rfl
  have hresults : (s.document moment).get? "results" = some s.resultsValue := rfl
  obtain ⟨hrequest, hmode⟩ := s.settings_reread moment
  obtain ⟨habsent, hpoints⟩ := s.points_reread
  refine ⟨_, _, _, s.parse_export moment hfloats, s.get?_reread_document moment hchart,
    s.get?_reread_document moment hresults, hrequest, hmode, s.labels_reread, ?_, habsent, hpoints⟩
  intro series
  obtain ⟨slots, hslots, hlength, hnull⟩ := s.telemetry.chart.slots_reread
    (fun x hx => hfloats x (Json.mem_floats_of_get? hchart hx)) series
  rw [Telemetry.values_chart] at hlength hnull
  exact ⟨slots, hslots, hlength.trans (length_values config sink ops series), hnull⟩

/-- A bandwidth, and one tick later a latency with its point of a sweep. -/
def measuredSize (x y : Float) : List (String × Operation Link.Handle) :=
  [("1", .event (.progress { bandwidthMbps := some x })),
    ("2", .event (.progress { latencyAvgUs := some y })),
    ("2", .event (.sweepPoint ⟨64, y, y, y, y, y, y⟩))]

/-- Two ticks, with one value in each of them. -/
theorem chart_measuredSize (config : ClientConfig) (x y : Float) :
    ((Console.new config ({} : Link.Handle)).run (measuredSize x y)).state.telemetry.chart =
      ⟨["1", "2"], [some x, none], [none, some y], [none, none]⟩ := by
  have hputs : ((Console.new config ({} : Link.Handle)).run (measuredSize x y)).state.telemetry =
      (Telemetry.new.put .bandwidth x "1").put .latencyAvg y "2" := rfl
  rw [hputs]
  simp [Telemetry.chart, Telemetry.put, Telemetry.new, Telemetry.withCapacity, Telemetry.evict,
    Telemetry.openTick, Telemetry.fill, Telemetry.values, Series.index]

theorem floats_measuredSize (host : String) (x y : Float) (moment : Moment) :
    let new := Console.new { test := { host := host } } ({} : Link.Handle)
    ((new.run (measuredSize x y)).state.document moment).floats = [x, y, y, y, y, y, y, y, x, y] := by
  intro new
  rw [ClientState.document, chart_measuredSize]
  rfl

/-- The host comes back with its quotes, its line break and its tab, and the bandwidth has no value in the
    second tick. -/
theorem run_export_measuredSize :
    let new := Console.new { test := { host := "a \"quoted\"\n\thost" } } ({} : Link.Handle)
    let s := (new.run (measuredSize 941.2 25.5)).state
    (∀ x ∈ (s.document ⟨0, 0⟩).floats, Legible x) ∧
    ∃ document chart : Value, ∃ slots : List Value,
      Value.parse (s.export ⟨0, 0⟩) = .ok document ∧
      (document.get? "configuration").map Form.ofValue =
        some (.ok ({ host := "a \"quoted\"\n\thost" } : TestRequest)) ∧
      document.get? "chart_data" = some chart ∧
      chart.get? "labels" = some (.array [.string "1", .string "2"]) ∧
      chart.get? "bandwidth" = some (.array slots) ∧ slots.length = 2 ∧
      slots[0]? ≠ some .null ∧ slots[1]? = some .null := by
  intro new s
  have hfloats : ∀ x ∈ (s.document ⟨0, 0⟩).floats, Legible x := by
    rw [floats_measuredSize]
    decide +kernel
  obtain ⟨document, chart, -, hparse, hchart, -, hrequest, -, hlabels, hslots, -⟩ :=
    run_export _ _ (measuredSize 941.2 25.5) ⟨0, 0⟩ hfloats
  obtain ⟨slots, hvalues, hlength, hnull⟩ := hslots .bandwidth
  have hbandwidth : s.telemetry.values .bandwidth = [some 941.2, none] :=
    congrArg ChartData.bandwidth (chart_measuredSize _ 941.2 25.5)
  rw [hbandwidth] at hnull
  refine ⟨hfloats, document, chart, slots, hparse, hrequest, hchart, hlabels, hvalues, hlength, ?_, ?_⟩
  · rw [Ne, hnull]
    rintro ⟨_, ⟨⟩, hno⟩
    exact hno 941.2 rfl (by decide +kernel)
  · exact (hnull 1).2 ⟨none, rfl, nofun⟩

end Console

end NetGauge
