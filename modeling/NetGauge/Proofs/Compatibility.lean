import NetGauge.Event
import NetGauge.Proofs.Json.Unordered

set_option autoImplicit false

/-! # Messages of newer backends

Backends that are newer than the client may name the members of a message in another order and tell
things that the client does not know, in the envelope and directly in its data. The message means the
same (`Event.decode_revised`).

The two places are read in different ways. The envelope is read from the text, and what it does not know
is passed over without being read; so anything may be added to it. Its data is first read as a value, as
a whole and with sorted members, and then by the record of the kind; so what is added there has to be
read. -/

namespace NetGauge

open Json (Glyph Member Record Tree Value coherent_string coherent_value stringOf? toOption_eq_some_iff)

/-! ## Values that are there -/

/-- A value that is there. -/
def Json.Value.present? : Value → Option Value
  | .null => none
  | v => some v

/-- Values that agree are there or not alike. -/
theorem Json.Value.Agrees.present {declared : List String} {v v' : Value} (h : v.Agrees declared v') :
    Option.Rel (Value.Agrees declared) v.present? v'.present? := by
  cases h with
  | same v =>
      cases v with
      | null => exact .none
      | _ => exact .some (.same _)
  | object h => exact .some (.object h)

/-! ## Envelopes and data that are revised -/

/-- The names of the members that the payload of a kind knows. A kind without a payload knows none. -/
def Event.payloadNames (kind : String) : List String :=
  if kind = "progress" ∨ kind = "test_complete" then Metrics.record.names
  else if kind = "error" then ErrorPayload.record.names
  else if kind = "server_status" then ServerStatus.record.names
  else if kind = "stats" then ToolStats.record.names
  else if kind = "multi_size_progress" then SweepProgress.record.names
  else if kind = "multi_size_result" then SweepPoint.record.names
  else if kind = "multi_size_complete" then CompletePayload.record.names
  else []

/-- The data of a message of the kind as a newer backend may put it: its objects in another order, and
    directly in it members that the payload does not know. What is added is read with the levels of
    nesting that are left inside an object inside an envelope. -/
inductive Event.DataRevised (kind : String) : Tree → Tree → Prop
  | reordered {t t' : Tree} (h : t.Reordered t') : DataRevised kind t t'
  | members {members members' : List (List Glyph × Tree)}
      (h : Json.Revised (payloadNames kind) (fun _ => Tree.Reordered)
        (Tree.Accepted (Json.nestingLimit - 2)) members members') :
      DataRevised kind (.object members) (.object members')

/-- Data that is revised is read if the original is, and agrees with it on what the payload knows. -/
theorem Event.DataRevised.sorted {kind : String} {t t' : Tree} (h : DataRevised kind t t')
    (hdistinct : t.Distinct) {v : Value} (hread : t.sorted? (Json.nestingLimit - 1) = some v) :
    ∃ v', t'.sorted? (Json.nestingLimit - 1) = some v' ∧ v.Agrees (payloadNames kind) v' := by
  cases h with
  | reordered h => exact ⟨v, (h.sorted hdistinct _).trans hread, .same v⟩
  | members h => exact h.sorted hdistinct hread

namespace Envelope

/-- The members of an envelope of the kind as a newer backend may put them: in another order, with data
    that is revised, and among members that the client does not know. -/
def Revised (kind : String) : List (List Glyph × Tree) → List (List Glyph × Tree) → Prop :=
  Json.Revised record.names
    (fun name t t' => if stringOf? name = some "data" then Event.DataRevised kind t t' else t' = t)
    (fun _ => True)

/-- Envelopes that differ at most in what a payload does not know. -/
structure Alike (declared : List String) (e e' : Envelope) : Prop where
  kind : e'.kind = e.kind
  message : e'.message = e.message
  data : Option.Rel (Value.Agrees declared) e.data e'.data

theorem coherent : ∀ m ∈ record.members, m.Coherent := by
  simp only [record, List.forall_mem_cons]
  exact ⟨coherent_string.member _ _ _ _, coherent_value.sparse _ _ _, coherent_string.sparse _ _ _,
    List.forall_mem_nil _⟩

theorem commutes : record.Commutes := by
  intro m hm m' hm' hne a v v'
  simp only [record, List.mem_cons, List.not_mem_nil, or_false] at hm hm'
  rcases hm with rfl | rfl | rfl <;> rcases hm' with rfl | rfl | rfl
  case inl.inl | inr.inl.inr.inl | inr.inr.inr.inr => exact absurd rfl hne
  all_goals exact Record.ofValue_comm (fun _ _ => rfl) (fun _ _ => rfl) (fun _ _ _ => rfl) a v v'

/-- The data of an envelope is what is there of the value, sorted. -/
theorem ofValue_data (e : Envelope) (v : Value) :
    (Member.sparse "data" data (fun r v => { r with data := v.map Value.sorted })).ofValue e v =
      .ok { e with data := v.sorted.present? } := by
  cases v <;> rfl

/-- What is kept of a member is read to envelopes that are alike. -/
theorem ofValue_alike {kind : String} {m : Member Envelope} (hm : m ∈ record.members) {name : List Glyph}
    {t t' : Tree} {v : Value} {a a' b : Envelope} (hname : stringOf? name = some m.name)
    (halike : if stringOf? name = some "data" then Event.DataRevised kind t t' else t' = t)
    (hdistinct : t.Distinct) (hv : t.value? (Json.nestingLimit - 1) = some v)
    (hread : m.ofValue a v = .ok b) (hlike : Alike (Event.payloadNames kind) a a') :
    ∃ v' b', t'.value? (Json.nestingLimit - 1) = some v' ∧ m.ofValue a' v' = .ok b' ∧
      Alike (Event.payloadNames kind) b b' := by
  simp only [record, List.mem_cons, List.not_mem_nil, or_false] at hm
  rcases hm with rfl | rfl | rfl
  · have hother : stringOf? name ≠ some "data" := by rw [hname]; decide
    rw [if_neg hother] at halike
    subst halike
    obtain ⟨s, rfl, hsame⟩ := Record.ofValue_eq_ok (fun _ _ => rfl) hread
    exact ⟨v, _, hv, hsame a', rfl, hlike.message, hlike.data⟩
  · have hdata : stringOf? name = some "data" := hname
    rw [if_pos hdata] at halike
    obtain ⟨w, hw, hagrees⟩ := halike.sorted hdistinct (by rw [Tree.sorted?, hv]; rfl)
    obtain ⟨v', hv', rfl⟩ := Option.map_eq_some_iff.1 hw
    rw [ofValue_data] at hread
    cases hread
    exact ⟨v', _, hv', ofValue_data a' v', hlike.kind, hlike.message, hagrees.present⟩
  · have hother : stringOf? name ≠ some "data" := by rw [hname]; decide
    rw [if_neg hother] at halike
    subst halike
    obtain ⟨s, rfl, hsame⟩ := Record.ofValue_eq_ok (fun _ _ => rfl) hread
    exact ⟨v, _, hv, hsame a', hlike.kind, rfl, hlike.data⟩

/-- **An envelope that is revised** is read if the original is, and as one like it. -/
theorem parse_revised {members members' : List (List Glyph × Tree)} {text text' : String} {e : Envelope}
    (htext : (Tree.object members).TextOf text) (htext' : (Tree.object members').TextOf text')
    (hdistinct : (Tree.object members).Distinct) (h : Revised e.kind members members')
    (hread : Json.parse Envelope text = .ok e) :
    ∃ e', Json.parse Envelope text' = .ok e' ∧ Alike (Event.payloadNames e.kind) e e' := by
  have hmembers : (Json.parse Envelope text).toOption = _ := Record.whole_textOf coherent htext
  have hmembers' : (Json.parse Envelope text').toOption = _ := Record.whole_textOf coherent htext'
  rw [toOption_eq_some_iff.2 hread] at hmembers
  cases hdistinct with
  | object _ hvalues =>
      obtain ⟨e', hread', hlike⟩ := Record.reading?_revised commutes
        (fun m hm _ _ _ _ _ _ _ => ofValue_alike hm) h hvalues ⟨rfl, rfl, .none⟩ hmembers.symm
      exact ⟨e', toOption_eq_some_iff.1 (hmembers'.trans hread'), hlike⟩

end Envelope

/-! ## What messages mean -/

namespace Event

section

variable {α : Type} {r : Record α} {data data' : Option Value}

theorem optionalPayload_congr (kind : String) (h : Option.Rel (Value.Agrees r.names) data data') :
    optionalPayload r kind data = optionalPayload r kind data' := by
  cases h with
  | none => rfl
  | some h => rw [optionalPayload, optionalPayload, payload, payload, r.ofValue_congr h]

theorem requiredPayload_congr (kind : String) (h : Option.Rel (Value.Agrees r.names) data data') :
    requiredPayload r kind data = requiredPayload r kind data' := by
  cases h with
  | none => rfl
  | some h => rw [requiredPayload, requiredPayload, payload, payload, r.ofValue_congr h]

end

/-- **What a payload does not know makes no difference** for what the envelope means. -/
theorem ofEnvelope_congr {e e' : Envelope} (h : e.Alike (payloadNames e.kind) e') :
    ofEnvelope e = ofEnvelope e' := by
  obtain ⟨kind, data, message⟩ := e
  obtain ⟨kind', data', message'⟩ := e'
  obtain ⟨hkind, hmessage, hdata⟩ := h
  dsimp only at hkind hmessage hdata
  subst hkind hmessage
  by_cases hpayload : kind' ∈ ["progress", "test_complete", "error", "server_status", "stats",
      "multi_size_progress", "multi_size_result", "multi_size_complete"]
  · simp only [List.mem_cons, List.not_mem_nil, or_false] at hpayload
    rcases hpayload with rfl | rfl | rfl | rfl | rfl | rfl | rfl | rfl
    · exact congrArg (Except.map progress) (optionalPayload_congr _ hdata)
    · exact congrArg (Except.map testComplete) (optionalPayload_congr _ hdata)
    · exact congrArg (Except.map _) (optionalPayload_congr _ hdata)
    · exact congrArg (Except.map serverStatus) (requiredPayload_congr _ hdata)
    · exact congrArg (Except.map stats) (optionalPayload_congr _ hdata)
    · exact congrArg (Except.map sweepProgress) (requiredPayload_congr _ hdata)
    · exact congrArg (Except.map sweepPoint) (requiredPayload_congr _ hdata)
    · exact congrArg (Except.map _) (optionalPayload_congr _ hdata)
  · simp only [List.mem_cons, List.not_mem_nil, or_false, not_or] at hpayload
    simp only [ofEnvelope, hpayload, if_false]

/-- **A message that is revised means what it meant,** however the one and the other are spelled out. -/
theorem decode_revised {members members' : List (List Glyph × Tree)} {text text' : String}
    {envelope : Envelope} {e : Event} (htext : (Tree.object members).TextOf text)
    (htext' : (Tree.object members').TextOf text') (hdistinct : (Tree.object members).Distinct)
    (henvelope : Json.parse Envelope text = .ok envelope)
    (h : Envelope.Revised envelope.kind members members') (hdecode : decode text = .ok e) :
    decode text' = .ok e := by
  obtain ⟨envelope', henvelope', hlike⟩ := Envelope.parse_revised htext htext' hdistinct h henvelope
  rw [decode, henvelope] at hdecode
  rw [decode, henvelope']
  exact (ofEnvelope_congr hlike).symm.trans hdecode

/-- The characters of a text that stand for themselves in a string. -/
def plainly (text : String) : List Glyph :=
  text.toList.filterMap fun c =>
    if h : c ≠ '"' ∧ c ≠ '\\' ∧ ¬c.toNat < 0x20 then some (.plain c h) else none

/-- An error with its cause. -/
def olderError : List (List Glyph × Tree) :=
  [(plainly "type", .scalar (.string (plainly "error"))),
   (plainly "data", .object
     [(plainly "message", .scalar (.string (plainly "down"))),
      (plainly "cause", .object [(plainly "b", .scalar (.bool true)), (plainly "a", .scalar .null)]),
      (plainly "old", .array [])])]

/-- The same error in another order, with a version in its envelope and a hint in its data. -/
def newerError : List (List Glyph × Tree) :=
  [(plainly "version", .array []),
   (plainly "data", .object
     [(plainly "hint", .object []),
      (plainly "cause", .object [(plainly "a", .scalar .null), (plainly "b", .scalar (.bool true))]),
      (plainly "message", .scalar (.string (plainly "down")))]),
   (plainly "type", .scalar (.string (plainly "error")))]

theorem decode_revised_newerError :
    Envelope.Revised "error" olderError newerError ∧
      decode (String.ofList (Tree.object newerError).text) = .ok (.error "down") := by
  have hdata : DataRevised "error" olderError[1].2 newerError[1].2 := by
    have hhint : stringOf? (plainly "hint") = some "hint" := by decide +kernel
    have hhint' : "hint" ∉ payloadNames "error" := by decide +kernel
    have hold : ∀ name, stringOf? (plainly "old") = some name → name ∉ payloadNames "error" := by
      decide +kernel
    have hfit : (Tree.object []).Accepted (Json.nestingLimit - 2) :=
      ⟨_, .object [], Tree.spells_text _, rfl⟩
    refine .members (.order ((List.Perm.swap _ _ _).cons _) (.add hhint hhint' hfit ?_))
    exact .keep (.refl _) (.keep (.order (.swap _ _ _)) (.remove hold .nil))
  have hrevised : Envelope.Revised "error" olderError newerError := by
    have hversion : stringOf? (plainly "version") = some "version" := by decide +kernel
    have hversion' : "version" ∉ Envelope.record.names := by decide +kernel
    refine .order ((List.Perm.swap _ _ _).cons _) (.add hversion hversion' trivial ?_)
    refine .keep ?_ (.keep ?_ .nil)
    · rw [if_neg (by decide +kernel)]
    · rwa [if_pos (by decide +kernel)]
  have hdistinct : (Tree.object olderError).Distinct := by
    have hcause : ∀ m ∈ [(plainly "b", Tree.scalar (.bool true)), (plainly "a", .scalar .null)],
        m.2.Distinct := by
      rw [List.forall_mem_cons, List.forall_mem_singleton]
      exact ⟨.scalar _, .scalar _⟩
    refine .object (by decide +kernel) ?_
    rw [olderError, List.forall_mem_cons, List.forall_mem_singleton]
    refine ⟨.scalar _, .object (by decide +kernel) ?_⟩
    simp only [List.forall_mem_cons]
    exact ⟨.scalar _, .object (by decide +kernel) hcause, .array nofun, nofun⟩
  have hkind : ((Json.parse Envelope (String.ofList (Tree.object olderError).text)).toOption.map
      Envelope.kind) = some "error" := by decide +kernel
  have hmeaning : (match decode (String.ofList (Tree.object olderError).text) with
      | .ok (.error message) => some message
      | _ => none) = some "down" := by decide +kernel
  obtain ⟨envelope, henvelope, hkind⟩ := Option.map_eq_some_iff.1 hkind
  refine ⟨hrevised, ?_⟩
  refine decode_revised (Tree.textOf_text _) (Tree.textOf_text _) hdistinct
    (toOption_eq_some_iff.1 henvelope) (hkind ▸ hrevised) ?_
  split at hmeaning
  · next message h => rw [h, Option.some.inj hmeaning]
  · cases hmeaning

end Event

end NetGauge
