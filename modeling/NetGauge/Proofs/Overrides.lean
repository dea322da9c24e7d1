import NetGauge.CommandLine
import NetGauge.Proofs.Config
import NetGauge.Proofs.Json.Coherence
import NetGauge.Proofs.Json.Indented

set_option autoImplicit false

/-! # Overrides

A configuration can be changed in two ways. One is to apply overrides to it, which name what they change.
The other is to read it from an object that has the changed members and no others: the reader begins with the
defaults and lays the members over them. The two come to the same, whatever the object looks like in its text
and in whatever order its members are (`ClientConfig.overlay_agrees`). Overrides that are applied one after
the other are the same as one that has the later settings where there are any, and so the settings of a
command line win over those of a profile, and these over the defaults. -/

namespace NetGauge

open Json (CoherentFor Form Member Record Tree Value coherent_string coherent_uint16 coherent_uint32
  coherent_uint64)

/-! ## What overrides change -/

/-- The members of an object that overrides settings of a client. -/
def ConfigOverride.members : List (Member ConfigOverride) := [
  .sparse "origin" ConfigOverride.origin (fun o v => { o with origin := v }),
  .sparse "reconnect_delay_ms" ConfigOverride.reconnectDelayMs (fun o v => { o with reconnectDelayMs := v }),
  .sparse "mode" ConfigOverride.mode (fun o v => { o with mode := v })]

/-- The settings that the override has. -/
def ConfigOverride.given (c : ConfigOverride) : List (String × Value) := Record.written c members

/-- The parameters that the override has. -/
def RequestOverride.given (t : RequestOverride) : List (String × Value) := Record.written t record.members

/-- A configuration with two overrides, one of its settings and one of the test. -/
def ClientConfig.overlay (config : ClientConfig) (c : ConfigOverride) (t : RequestOverride) : ClientConfig :=
  { c.apply config with test := t.apply config.test }

/-- An object with what two overrides have. The members can come in any order. -/
inductive Overlays (c : ConfigOverride) (t : RequestOverride) : Value → Prop
  | object {members inner : List (String × Value)} (hinner : inner.Perm t.given)
      (hmembers : members.Perm (("test", .object inner) :: c.given)) : Overlays c t (.object members)

/-! ## The parameters of the test -/

namespace TestRequest

theorem commutes : record.Commutes := by
  intro m hm m' hm' hne a v v'
  simp only [record, List.mem_cons, List.not_mem_nil, or_false] at hm hm'
  -- Two members are the same, or each of them sets a part of its own.
  rcases hm with rfl | rfl | rfl | rfl | rfl | rfl | rfl | rfl | rfl <;>
    rcases hm' with rfl | rfl | rfl | rfl | rfl | rfl | rfl | rfl | rfl
  all_goals first
    | exact absurd rfl hne
    | exact Record.ofValue_comm (fun _ _ => rfl) (fun _ _ => rfl) (fun _ _ _ => rfl) a v v'

/-- What an override has is laid over a request as the override is applied to it. -/
theorem overlaid_given (r : TestRequest) (t : RequestOverride) : record.Overlaid t.given r (t.apply r) := by
  refine .written_cons (.given TestKind.recovers rfl rfl t.kind) ?_
  refine .written_cons (.given Json.recovers_string rfl rfl t.host) ?_
  refine .written_cons (.givenSome Json.recovers_uint16 nofun rfl rfl t.port) ?_
  refine .written_cons (.given Json.recovers_uint32 rfl rfl t.duration) ?_
  refine .written_cons (.givenSome Json.recovers_string nofun rfl rfl t.bandwidth) ?_
  refine .written_cons (.given Json.recovers_uint32 rfl rfl t.msgSize) ?_
  refine .written_cons (.given Json.recovers_uint32 rfl rfl t.mps) ?_
  refine .written_cons (.given Json.recovers_uint32.list rfl rfl t.msgSizes) ?_
  exact .written_cons (.given Json.recovers_uint32 rfl rfl t.count) (.nil _)

theorem ofValue_given {t : RequestOverride} {inner : List (String × Value)} (hinner : inner.Perm t.given) :
    record.ofValue (.object inner) = .ok (t.apply {}) := by
  have hnodup : (t.given.map Prod.fst).Nodup := (Record.sublist_written t _).nodup (by decide)
  exact (overlaid_given {} t).ofValue_perm commutes (by decide) hnodup hinner

/-- A request is read from the text of an object as from the object, unless the kind is no string. -/
theorem coherentFor {inner : List (String × Value)}
    (hkind : ∀ v, ("kind", v) ∈ inner → ∃ s, v = .string s) : CoherentFor TestRequest (.object inner) := by
  have hall {m : Member TestRequest} (h : m.Coherent) : ∀ v, (m.name, v) ∈ inner → m.CoherentFor v :=
    fun v _ => h.coherentFor v
  refine record.coherentFor_object ?_
  simp only [record, List.forall_mem_cons]
  refine ⟨fun v hv => ?_, hall (coherent_string.member _ _ _ _), hall (coherent_uint16.option.member _ _ _ _),
    hall (coherent_uint32.member _ _ _ _), hall (coherent_string.option.member _ _ _ _),
    hall (coherent_uint32.member _ _ _ _), hall (coherent_uint32.member _ _ _ _),
    hall (coherent_uint32.list.member _ _ _ _), hall (coherent_uint32.member _ _ _ _), nofun⟩
  obtain ⟨s, rfl⟩ := hkind v hv
  exact CoherentFor.member (TestKind.names.coherentFor_string s) _ _ _ _

end TestRequest

/-- The kind that an override has is a string in its object. -/
theorem RequestOverride.string_of_kind {t : RequestOverride} {inner : List (String × Value)}
    (hinner : inner.Perm t.given) {v : Value} (hv : ("kind", v) ∈ inner) : ∃ s, v = .string s := by
  have hwritten := Record.write_of_mem_written
    (m := .sparse "kind" kind (fun o v => { o with kind := v })) (by decide) List.mem_cons_self
    (hinner.mem_iff.1 hv)
  obtain ⟨kind, -, rfl⟩ := Option.map_eq_some_iff.1 hwritten
  exact ⟨kind.name, rfl⟩

/-! ## The settings of a client -/

namespace ClientConfig

theorem commutes : record.Commutes := by
  intro m hm m' hm' hne a v v'
  simp only [record, List.mem_cons, List.not_mem_nil, or_false] at hm hm'
  rcases hm with rfl | rfl | rfl | rfl <;> rcases hm' with rfl | rfl | rfl | rfl
  all_goals first
    | exact absurd rfl hne
    | exact Record.ofValue_comm (fun _ _ => rfl) (fun _ _ => rfl) (fun _ _ _ => rfl) a v v'

/-- What an override has is laid over a configuration as the override is applied to it. -/
theorem overlaid_given (config : ClientConfig) (c : ConfigOverride) :
    record.Overlaid c.given config (c.apply config) := by
  refine .written_cons (.given Json.recovers_string rfl rfl c.origin) ?_
  refine .written_cons (.given Json.recovers_uint64 rfl rfl c.reconnectDelayMs) ?_
  exact .written_cons (.given Mode.recovers rfl rfl c.mode) (.nil _)

/-- **The reader lays the members of an object over the defaults** as overrides are applied to them. -/
theorem ofValue_overlays {c : ConfigOverride} {t : RequestOverride} {v : Value} (h : Overlays c t v) :
    record.ofValue v = .ok (({} : ClientConfig).overlay c t) := by
  cases h with
  | @object members inner hinner hmembers =>
      -- The members can come in any order, so the test may be read first and the settings after it.
      have hnodup : (("test", Value.object inner) :: c.given |>.map Prod.fst).Nodup := by
        have hnames := (Record.sublist_written c ConfigOverride.members).cons_cons "test"
        exact hnames.nodup (by decide)
      have hoverlaid : record.Overlaid (("test", .object inner) :: c.given) {}
          (({} : ClientConfig).overlay c t) := by
        refine .cons (m := .of .optional "test" test (fun r v => { r with test := v })) rfl
          (Member.ofValue_of (TestRequest.ofValue_given hinner) _) ?_
        exact overlaid_given _ c
      exact hoverlaid.ofValue_perm commutes (by decide) hnodup hmembers

/-- Such an object is read from a text as it is read from its value. -/
theorem coherentFor_overlays {c : ConfigOverride} {t : RequestOverride} {v : Value} (h : Overlays c t v) :
    CoherentFor ClientConfig v := by
  cases h with
  | @object members inner hinner hmembers =>
      have hall {m : Member ClientConfig} (h : m.Coherent) :
          ∀ v, (m.name, v) ∈ members → m.CoherentFor v := fun v _ => h.coherentFor v
      refine record.coherentFor_object ?_
      simp only [record, List.forall_mem_cons]
      refine ⟨hall (coherent_string.member _ _ _ _), hall (coherent_uint64.member _ _ _ _), fun v hv => ?_,
        fun v hv => ?_, nofun⟩
      · have hgiven : ("mode", v) ∈ c.given := by simpa [Member.of] using hmembers.mem_iff.1 hv
        have hwritten := Record.write_of_mem_written
          (m := .sparse "mode" ConfigOverride.mode (fun o v => { o with mode := v })) (by decide)
          (by simp [ConfigOverride.members]) hgiven
        obtain ⟨mode, -, rfl⟩ := Option.map_eq_some_iff.1 hwritten
        exact CoherentFor.member (Mode.names.coherentFor_string mode.name) _ _ _ _
      · -- The settings have other names, so there is only one test.
        have htest : v = .object inner := by
          rcases List.mem_cons.1 (hmembers.mem_iff.1 hv) with hsame | hgiven
          · exact (Prod.mk.inj hsame).2
          · have hname : "test" ∈ ConfigOverride.members.map Member.name :=
              (Record.sublist_written c ConfigOverride.members).subset (List.mem_map_of_mem hgiven)
            exact absurd hname (by decide)
        subst htest
        exact CoherentFor.member (TestRequest.coherentFor fun v => RequestOverride.string_of_kind hinner)
          _ _ _ _

/-! ## Overrides one after the other -/

/-- Two pairs of overrides in turn are one pair, the second winning wherever it has anything. -/
theorem overlay_overlay (config : ClientConfig) (c c' : ConfigOverride) (t t' : RequestOverride) :
    (config.overlay c t).overlay c' t' = config.overlay (c.merge c') (t.merge t') := by
  rw [overlay, overlay, overlay, ConfigOverride.merge_apply, RequestOverride.merge_apply]
  rfl

end ClientConfig

/-- The profile's overrides come first and those of the command line after them. -/
theorem Arguments.configure_eq_overlay (a : Arguments) (profile : Option Profile) :
    a.configure profile = ({} : ClientConfig).overlay
      (((profile.map Profile.client).getD {}).merge a.client)
      (((profile.map Profile.test).getD {}).merge a.test) := by
  rw [← ClientConfig.overlay_overlay]
  cases profile <;> rfl

/-- **The two ways to overlay a configuration agree.** An object with what two overrides have, in any order,
    is read as the defaults to which they are applied, from its value and from any text that spells it out.
    Overrides that are applied to a configuration one after the other are the same as those in which the
    second win, field by field. So a command line with a profile gives every field the value that was
    given, else that of the profile, else the default. -/
theorem ClientConfig.overlay_agrees (c : ConfigOverride) (t : RequestOverride) :
    (∀ v, Overlays c t v →
      Form.ofValue v = .ok (({} : ClientConfig).overlay c t) ∧
      ∀ (tree : Tree) (text : String), tree.TextOf text → tree.value? Json.nestingLimit = some v →
        Json.parse ClientConfig text = .ok (({} : ClientConfig).overlay c t)) ∧
    (∀ (config : ClientConfig) (c' : ConfigOverride) (t' : RequestOverride),
      (config.overlay c t).overlay c' t' = config.overlay (c.merge c') (t.merge t')) ∧
    ∀ (a : Arguments) (profile : Option Profile),
      let client := (profile.map Profile.client).getD {}
      let test := (profile.map Profile.test).getD {}
      let default : ClientConfig := {}
      a.configure profile = {
        origin := (a.client.origin.or client.origin).getD default.origin
        reconnectDelayMs :=
          (a.client.reconnectDelayMs.or client.reconnectDelayMs).getD default.reconnectDelayMs
        mode := (a.client.mode.or client.mode).getD default.mode
        test := {
          kind := (a.test.kind.or test.kind).getD default.test.kind
          host := (a.test.host.or test.host).getD default.test.host
          port := (a.test.port.or test.port).or default.test.port
          duration := (a.test.duration.or test.duration).getD default.test.duration
          bandwidth := (a.test.bandwidth.or test.bandwidth).or default.test.bandwidth
          msgSize := (a.test.msgSize.or test.msgSize).getD default.test.msgSize
          mps := (a.test.mps.or test.mps).getD default.test.mps
          msgSizes := (a.test.msgSizes.or test.msgSizes).getD default.test.msgSizes
          count := (a.test.count.or test.count).getD default.test.count } } := by
  refine ⟨fun v hv => ⟨ofValue_overlays hv, fun tree text htext hvalue => ?_⟩,
    fun config c' t' => overlay_overlay config c c' t t', fun a profile => a.configure_eq_overlay profile⟩
  rw [← Json.toOption_eq_some_iff, (coherentFor_overlays hv).parse htext hvalue]
  exact congrArg Except.toOption (ofValue_overlays hv)

/-- A mode, and of the test the bandwidth and then the port. -/
def listenerMembers : List (String × Value) :=
  [("mode", .string "listener"), ("test", .object [("bandwidth", .string "1G"), ("port", .nat 5300)])]

/-- The members of the test come in the other order than they are declared, and the test behind the mode. -/
theorem ClientConfig.overlay_agrees_listener :
    let c : ConfigOverride := { mode := some .listener }
    let t : RequestOverride := { port := some 5300, bandwidth := some "1G" }
    Overlays c t (.object listenerMembers) ∧
    (∃ tree : Tree, tree.TextOf (Value.object listenerMembers).indented ∧
      tree.value? Json.nestingLimit = some (.object listenerMembers)) ∧
    Json.parse ClientConfig (Value.object listenerMembers).indented =
      .ok { mode := .listener, test := { port := some 5300, bandwidth := some "1G" } } := by
  intro c t
  have hoverlays : Overlays c t (.object listenerMembers) := .object (.swap _ _ _) (.swap _ _ _)
  have hplain : Json.Plain 2 (.object listenerMembers) := by
    refine .object 1 _ (List.forall_mem_cons.2 ⟨.string 1 _, List.forall_mem_singleton.2 ?_⟩)
    refine .object 0 _ (List.forall_mem_cons.2 ⟨.string 0 _, List.forall_mem_singleton.2 ?_⟩)
    exact .natural 0 5300 (by decide)
  have hdepth : 2 < Json.nestingLimit := by decide
  obtain ⟨tree, hspells, hvalue⟩ := hplain.within.spelled nofun 0 hdepth
  have htext : tree.TextOf (Value.object listenerMembers).indented :=
    ⟨[], _, [], Json.blanks_nil, hspells, Json.blanks_nil, by simp [Value.indented]⟩
  rw [hplain.reread_eq] at hvalue
  exact ⟨hoverlays, ⟨tree, htext, hvalue⟩, ((overlay_agrees c t).1 _ hoverlays).2 tree _ htext hvalue⟩

end NetGauge
