import NetGauge.Event
import NetGauge.Proofs.Json.Record
import NetGauge.Proofs.Json.Sorted

set_option autoImplicit false

/-! # Envelopes on the wire

An envelope whose free value is one that the reader keeps as it is (`Envelope.Sendable`) is read back from
its text as the same envelope. So it makes no difference for what a message means whether it is taken from
its envelope or from the text of the envelope (`Event.decode_compact`).

Each condition on the free value leaves out something that the reader does not keep: it takes a null for
no value, puts members in order, reads a greater integer as a double, need not read a double back as
itself, and stops where the text is nested too deeply. -/

namespace NetGauge

open Json (Value Plain Member Record Faithful)

namespace Envelope

/-- A free value that the reader keeps: not null, plain, ordered, and within the levels that are left for
    it inside an envelope. -/
structure Sendable (v : Value) : Prop where
  ne_null : v ≠ .null
  plain : Plain 126 v
  ordered : v.Ordered

/-- Reading back a free value gives the value. -/
theorem Sendable.faithful {v : Value} (h : Sendable v) :
    Faithful Json.Form.ofText 126 (Json.Form.toValue v) (some v) :=
  Json.faithful_some ⟨h.plain, Json.readsBack_value h.plain⟩ h.ne_null

/-- An envelope is read back, wherever its text stands. -/
theorem faithful (e : Envelope) (h : ∀ v, e.data = some v → Sendable v) :
    Faithful Json.Form.ofText 127 (Json.Form.toValue e) e := by
  have hdata : e.data.map Value.sorted = e.data := by
    cases hdata : e.data with
    | none => rfl
    | some v => rw [Option.map_some, (h v hdata).ordered.sorted]
  have hcopies : Record.Copies 126 e Envelope.record.members Envelope.record.blank
      { kind := e.kind, data := e.data.map Value.sorted, message := e.message } := by
    refine .cons (Member.carries_of (Json.faithful_string e.kind)) ?_
    refine .cons (Member.carries_sparse (fun v hv => (h v hv).faithful) (fun _ => rfl)) ?_
    refine .cons (Member.carries_sparse (fun text _ => ?_) (fun _ => rfl)) (.nil _)
    exact Json.faithful_some (Json.faithful_string text) nofun
  rw [hdata] at hcopies
  exact Envelope.record.faithful (by decide) hcopies

/-- An envelope is what its text holds. -/
theorem parse_compact (e : Envelope) (h : ∀ v, e.data = some v → Sendable v) :
    Json.parse Envelope (Json.compact e) = .ok e :=
  Json.whole_compact (e.faithful h).readsBack (by decide)

end Envelope

namespace Event

/-- **A text means what its envelope means.** Decoding the text of an envelope gives the event of the
    envelope, or its error, be it a payload that is missing or one that does not fit. -/
theorem decode_compact (e : Envelope) (h : ∀ v, e.data = some v → Envelope.Sendable v) :
    decode (Json.compact e) = ofEnvelope e := by
  rw [decode, e.parse_compact h]

theorem decode_compact_error :
    let data := Value.object
      [("detail", .array [.null, .int (-1), .bool true]), ("message", .string "no \"route\"")]
    let e : Envelope := { kind := "error", data := some data, message := some "failed" }
    (∀ v, e.data = some v → Envelope.Sendable v) ∧
      decode (Json.compact e) = .ok (.error "no \"route\"") := by
  intro data e
  have hlist : Plain 125 (.array [.null, .int (-1), .bool true]) := by
    refine .array 124 _ ?_
    simp only [List.forall_mem_cons]
    exact ⟨.null 124, .negative 124 0 (by decide), .bool 124 true, nofun⟩
  have hplain : Plain 126 data := by
    refine .object 125 _ ?_
    simp only [List.forall_mem_cons]
    exact ⟨hlist, .string 125 _, nofun⟩
  have hordered : data.Ordered := (Value.sorted_eq_self_iff data).1 rfl
  have hsendable : ∀ v, e.data = some v → Envelope.Sendable v := by
    intro v hv
    exact Option.some.inj hv ▸ ⟨nofun, hplain, hordered⟩
  exact ⟨hsendable, (decode_compact e hsendable).trans rfl⟩

end Event

end NetGauge
