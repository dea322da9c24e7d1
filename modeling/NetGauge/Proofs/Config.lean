import NetGauge.Config
import NetGauge.Proofs.Json.Overlay

set_option autoImplicit false

/-! # Configurations on the wire

A reader of configurations forgives what is missing: a member that is left out keeps its default, and
none of the defaults is empty but the port. So a configuration is read back only because its writer leaves
nothing out, and says null where there is no value (`ClientConfig.parse_written`). -/

namespace NetGauge

open Json (Value Member Record Faithful Recovers)

theorem TestKind.faithful {depth : Nat} (kind : TestKind) :
    Faithful Json.Form.ofText depth (Json.Form.toValue kind) kind :=
  Json.Names.faithful names kind (by cases kind <;> rfl)

theorem Mode.faithful {depth : Nat} (mode : Mode) :
    Faithful Json.Form.ofText depth (Json.Form.toValue mode) mode :=
  Json.Names.faithful names mode (by cases mode <;> rfl)

/-- A request is read back, wherever its text stands. -/
theorem TestRequest.faithful (r : TestRequest) :
    Faithful Json.Form.ofText 2 (Json.Form.toValue r) r := by
  refine record.faithful (by decide) ?_
  refine .cons (Member.carries_of r.kind.faithful) ?_
  refine .cons (Member.carries_of (Json.faithful_string _)) ?_
  refine .cons (Member.carries_of (Json.faithful_option (fun port _ => ?_) nofun)) ?_
  · exact Json.faithful_uint16 port
  refine .cons (Member.carries_of (Json.faithful_uint32 _)) ?_
  refine .cons (Member.carries_of (Json.faithful_option (fun limit _ => ?_) nofun)) ?_
  · exact Json.faithful_string limit
  refine .cons (Member.carries_of (Json.faithful_uint32 _)) ?_
  refine .cons (Member.carries_of (Json.faithful_uint32 _)) ?_
  refine .cons (Member.carries_of (Json.faithful_list _ (fun size _ => ?_))) ?_
  · exact Json.faithful_uint32 size
  exact .cons (Member.carries_of (Json.faithful_uint32 _)) (.nil r)

/-- A bandwidth of null is none, and one that is missing is the default. -/
example :
    TestRequest.record.ofValue (.object [("bandwidth", .null)]) = .ok { bandwidth := none } ∧
      TestRequest.record.ofValue (.object []) = .ok {} := ⟨rfl, rfl⟩

/-- A configuration is read back, wherever its text stands. -/
theorem ClientConfig.faithful (c : ClientConfig) :
    Faithful Json.Form.ofText 3 (Json.Form.toValue c) c := by
  refine record.faithful (by decide) ?_
  refine .cons (Member.carries_of (Json.faithful_string _)) ?_
  refine .cons (Member.carries_of (Json.faithful_uint64 _)) ?_
  refine .cons (Member.carries_of c.mode.faithful) ?_
  exact .cons (Member.carries_of c.test.faithful) (.nil c)

/-- **What is kept of a configuration is all of it.** The text of a configuration is read back as the
    configuration. It is an object with every setting and every parameter of the test, among them the port
    and the bandwidth, which are null exactly where there is none. -/
theorem ClientConfig.parse_written (c : ClientConfig) :
    Json.parse ClientConfig (Json.compact c) = .ok c ∧
    ∃ test, Value.parse (Json.compact c) = .ok (.object [
        ("origin", .string c.origin), ("reconnect_delay_ms", .nat c.reconnectDelayMs.toNat),
        ("mode", .string c.mode.name), ("test", .object test)]) ∧
      test.map Prod.fst = ["kind", "host", "port", "duration", "bandwidth", "msg_size", "mps",
        "msg_sizes", "count"] ∧
      (test.lookup "port" = some .null ↔ c.test.port = none) ∧
      (test.lookup "bandwidth" = some .null ↔ c.test.bandwidth = none) := by
  have hfaithful := c.faithful
  refine ⟨Json.whole_compact hfaithful.readsBack (by decide), _,
    Value.parse_compact hfaithful.plain (by decide), rfl, ?_, ?_⟩
  · show some (Json.Form.toValue c.test.port) = some .null ↔ _
    cases c.test.port <;> simp [Json.Form.toValue, Value.ofOption, Value.nat]
  · show some (Json.Form.toValue c.test.bandwidth) = some .null ↔ _
    cases c.test.bandwidth <;> simp [Json.Form.toValue, Value.ofOption]

/-! ## Configurations as values -/

theorem TestKind.recovers : Recovers TestKind := Json.Names.recovers names (by rintro ⟨⟩ <;> rfl)

theorem Mode.recovers : Recovers Mode := Json.Names.recovers names (by rintro ⟨⟩ <;> rfl)

/-- A request is read back from its value. -/
theorem TestRequest.recovers : Recovers TestRequest := by
  intro r
  refine Record.Overlaid.ofValue (r := record) ?_ (by decide) ?_
  · refine .cons rfl (Member.ofValue_of (TestKind.recovers r.kind) _) ?_
    refine .cons rfl (Member.ofValue_of (Json.recovers_string r.host) _) ?_
    refine .cons rfl (Member.ofValue_of (Json.recovers_uint16.option nofun r.port) _) ?_
    refine .cons rfl (Member.ofValue_of (Json.recovers_uint32 r.duration) _) ?_
    refine .cons rfl (Member.ofValue_of (Json.recovers_string.option nofun r.bandwidth) _) ?_
    refine .cons rfl (Member.ofValue_of (Json.recovers_uint32 r.msgSize) _) ?_
    refine .cons rfl (Member.ofValue_of (Json.recovers_uint32 r.mps) _) ?_
    refine .cons rfl (Member.ofValue_of (Json.recovers_uint32.list r.msgSizes) _) ?_
    exact .cons rfl (Member.ofValue_of (Json.recovers_uint32 r.count) _) (.nil r)
  · exact (Record.sublist_written r record.members).nodup (by decide)

end NetGauge
