import NetGauge.Intent
import NetGauge.Proofs.Command

set_option autoImplicit false

/-! # The parameters of a start command

Three descriptions tell which parameters the start command of a test has: the table of its kind, the
making of the command from a request, and the members that the command is written with. They agree. Which
members a request declares, and with which values, is read off the table (`TestRequest.Declared`), and
these are the members of the text, each of them once (`TestRequest.startCommand_declared`). -/

namespace NetGauge

open Json (Value Member)

namespace TestRequest

/-- The value of a parameter as it is sent: texts without blanks at their ends, the port that is used, and
    the sizes in their order. -/
def sentValue (r : TestRequest) : Param → Value
  | .host => .string (Text.trim r.host)
  | .duration => .nat r.duration.toNat
  | .port => .nat r.effectivePort.toNat
  | .bandwidth => .string (Text.trim (r.bandwidth.getD ""))
  | .msgSize => .nat r.msgSize.toNat
  | .mps => .nat r.mps.toNat
  | .msgSizes => .array (r.msgSizes.map (fun size => .nat size.toNat))
  | .count => .nat r.count.toNat

/-- The members that the start command of a request declares. -/
inductive Declared (r : TestRequest) : String → Value → Prop
  /-- Every parameter that the kind must have. -/
  | required (param : Param) (h : r.kind.requires param = true) :
      Declared r param.name (r.sentValue param)
  /-- The bandwidth, where the kind takes one and the request has one that is not blank. -/
  | bandwidth (limit : String) (haccepts : r.kind.accepts .bandwidth = true)
      (hlimit : r.bandwidth = some limit) (hblank : Text.trim limit ≠ "") :
      Declared r Param.bandwidth.name (r.sentValue .bandwidth)
  /-- Which of its two tests the throughput tool runs. -/
  | udp (h : r.kind.tool = .iperf) : Declared r "udp" (.bool (decide (r.kind = .throughputUdp)))

/-- Whether the start command of a request limits the bandwidth. -/
def limitsBandwidth (r : TestRequest) : Bool :=
  r.kind.accepts .bandwidth && r.bandwidth.any (fun limit => Text.trim limit ≠ "")

/-- The declared members in the order in which they are written. -/
def declared (r : TestRequest) : List (String × Value) :=
  (r.kind.params.filter ParamSpec.required).map (fun spec => (spec.param.name, r.sentValue spec.param)) ++
    ((if r.kind.tool = .iperf then [("udp", .bool (decide (r.kind = .throughputUdp)))] else []) ++
      (if r.limitsBandwidth then [(Param.bandwidth.name, r.sentValue .bandwidth)] else []))

/-! ## The table -/

theorem limitsBandwidth_iff (r : TestRequest) :
    r.limitsBandwidth = true ↔
      r.kind.accepts .bandwidth = true ∧ ∃ limit, r.bandwidth = some limit ∧ Text.trim limit ≠ "" := by
  cases h : r.bandwidth <;> simp [limitsBandwidth, h]

/-- A kind that takes no bandwidth has none limited. -/
theorem limitsBandwidth_of_accepts {r : TestRequest} (h : r.kind.accepts .bandwidth = false) :
    r.limitsBandwidth = false := by
  simp [limitsBandwidth, h]

theorem mem_declared (r : TestRequest) (name : String) (v : Value) :
    (name, v) ∈ r.declared ↔ r.Declared name v := by
  constructor
  · intro hmem
    rcases List.mem_append.1 hmem with hmem | hmem
    · obtain ⟨spec, hspec, hmember⟩ := List.mem_map.1 hmem
      obtain ⟨hlisted, hrequired⟩ := List.mem_filter.1 hspec
      cases hmember
      refine .required spec.param ?_
      exact List.any_eq_true.2 ⟨spec, hlisted, by simp [hrequired]⟩
    rcases List.mem_append.1 hmem with hmem | hmem
    · split at hmem
      · next htool =>
          cases List.mem_singleton.1 hmem
          exact .udp htool
      · cases hmem
    · split at hmem
      · next hlimits =>
          obtain ⟨haccepts, limit, hlimit, hblank⟩ := r.limitsBandwidth_iff.1 hlimits
          cases List.mem_singleton.1 hmem
          exact .bandwidth limit haccepts hlimit hblank
      · cases hmem
  · rintro (⟨param, hrequires⟩ | ⟨limit, haccepts, hlimit, hblank⟩ | htool)
    · obtain ⟨spec, hlisted, hspec⟩ := List.any_eq_true.1 hrequires
      obtain ⟨hparam, hrequired⟩ : spec.param = param ∧ spec.required = true := by simpa using hspec
      refine List.mem_append_left _ (List.mem_map.2 ⟨spec, ?_, by rw [hparam]⟩)
      exact List.mem_filter.2 ⟨hlisted, hrequired⟩
    · have hlimits := r.limitsBandwidth_iff.2 ⟨haccepts, limit, hlimit, hblank⟩
      simp [declared, hlimits]
    · simp [declared, htool]

/-- No name is declared twice. -/
theorem nodup_declared (r : TestRequest) : (r.declared.map Prod.fst).Nodup := by
  have hnames : r.declared.map Prod.fst =
      (r.kind.params.filter ParamSpec.required).map (fun spec => spec.param.name) ++
        ((if r.kind.tool = .iperf then ["udp"] else []) ++
          (if r.limitsBandwidth then ["bandwidth"] else [])) := by
    simp only [declared, List.map_append, List.map_map]
    split <;> split <;> rfl
  rw [hnames]
  generalize r.limitsBandwidth = limits
  cases r.kind <;> cases limits <;> decide

/-! ## The command -/

/-- The limit of a command is the one that is declared. -/
theorem bandwidthLimit_eq (r : TestRequest) :
    (r.bandwidthLimit.map Value.string).toList =
      if r.limitsBandwidth then [r.sentValue .bandwidth] else [] := by
  cases haccepts : r.kind.accepts .bandwidth with
  | false => simp [bandwidthLimit, limitsBandwidth, haccepts]
  | true =>
      cases hbandwidth : r.bandwidth with
      | none => simp [bandwidthLimit, limitsBandwidth, hbandwidth]
      | some limit =>
          by_cases hblank : Text.trim limit = "" <;>
            simp [bandwidthLimit, limitsBandwidth, sentValue, haccepts, hbandwidth, hblank, Option.filter]

/-- What a throughput measurement is written with. -/
theorem toValue_throughput (run : ThroughputRun) :
    ThroughputRun.record.toValue run = .object (
      [("host", .string run.host), ("duration", .nat run.duration.toNat),
        ("port", .nat run.port.toNat), ("udp", .bool run.udp)] ++
      (run.bandwidth.map Value.string).toList.map (fun v => ("bandwidth", v))) := by
  obtain ⟨host, duration, port, udp, bandwidth⟩ := run
  cases bandwidth <;> rfl

/-- **The making of a command and the table agree.** -/
theorem data_startCommand {r : TestRequest} {c : Command} (h : r.startCommand = .ok c) :
    c.data? = some (.object r.declared) := by
  have hcommand : r.command = .ok c := by
    unfold startCommand at h
    split at h
    · cases h
    · exact h
  unfold command at hcommand
  cases hkind : r.kind with
  | throughputTcp | throughputUdp =>
      rw [hkind] at hcommand
      obtain rfl := Except.ok.inj hcommand
      have hlimit := r.bandwidthLimit_eq
      show some (ThroughputRun.record.toValue _) = _
      rw [toValue_throughput, hlimit, declared, hkind]
      cases r.limitsBandwidth <;> rfl
  | latencySweep =>
      rw [hkind] at hcommand
      dsimp only at hcommand
      split at hcommand
      · cases hcommand
      · obtain rfl := Except.ok.inj hcommand
        rw [declared, limitsBandwidth_of_accepts (by rw [hkind]; rfl), hkind]
        rfl
  | latencyPingPong | latencyUnderLoad | icmpPing =>
      rw [hkind] at hcommand
      obtain rfl := Except.ok.inj hcommand
      rw [declared, limitsBandwidth_of_accepts (by rw [hkind]; rfl), hkind]
      rfl

/-- **A start command carries what its request declares,** and nothing else. The text of the command is an
    object with its name and its parameters; these are exactly the required parameters of the kind, the
    bandwidth if it is taken and not blank, and for the throughput tool which of its tests it runs, each
    with the value that the request has for it, and none of them comes twice. -/
theorem startCommand_declared {r : TestRequest} {c : Command} (h : r.startCommand = .ok c) :
    ∃ data, Value.parse c.text = .ok (.object [("type", .string c.name), ("data", .object data)]) ∧
      (data.map Prod.fst).Nodup ∧ ∀ name v, (name, v) ∈ data ↔ r.Declared name v := by
  have hdata := data_startCommand h
  refine ⟨r.declared, ?_, r.nodup_declared, r.mem_declared⟩
  have hname : c.tag.text = c.name := by cases c <;> rfl
  rw [← hname, ← Command.members_of_some hdata]
  exact Value.parse_compact c.faithful.plain (by decide)

/-- A request with blanks around its texts. -/
def padded : TestRequest :=
  { kind := .throughputUdp, host := " 10.0.0.2 ", bandwidth := some "50M " }

theorem startCommand_declared_padded :
    let run : ThroughputRun :=
      { host := "10.0.0.2", duration := 10, port := 5201, udp := true, bandwidth := some "50M" }
    padded.startCommand = .ok (.startThroughput run) ∧
      ∃ data, Value.parse (Command.startThroughput run).text =
          .ok (.object [("type", .string "start_iperf_client"), ("data", .object data)]) ∧
        ("host", .string "10.0.0.2") ∈ data ∧ ("port", .nat 5201) ∈ data ∧ ("udp", .bool true) ∈ data ∧
        ("bandwidth", .string "50M") ∈ data ∧ "count" ∉ data.map Prod.fst := by
  intro run
  have hstart : padded.startCommand = .ok (.startThroughput run) := rfl
  have hhost : padded.sentValue .host = .string "10.0.0.2" := congrArg Value.string (by decide)
  have hlimit : padded.sentValue .bandwidth = .string "50M" := congrArg Value.string (by decide)
  obtain ⟨data, hparse, -, hmem⟩ := startCommand_declared hstart
  refine ⟨hstart, data, hparse, ?_, ?_, ?_, ?_, ?_⟩
  · exact hhost ▸ (hmem _ _).2 (.required .host (by decide))
  · exact (hmem _ _).2 (.required .port (by decide))
  · exact (hmem _ _).2 (.udp (by decide))
  · exact hlimit ▸ (hmem _ _).2 (.bandwidth "50M " rfl rfl (by decide))
  · have hnames : "count" ∉ padded.declared.map Prod.fst := by decide
    intro hcount
    obtain ⟨entry, hentry, hname⟩ := List.mem_map.1 hcount
    have hdeclared := (padded.mem_declared entry.1 entry.2).2 ((hmem _ _).1 hentry)
    exact hnames (hname ▸ List.mem_map_of_mem hdeclared)

end TestRequest

end NetGauge
