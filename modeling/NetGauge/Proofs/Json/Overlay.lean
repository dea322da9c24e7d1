import NetGauge.Proofs.Json.Unordered

set_option autoImplicit false

/-! # Objects laid over a record

An object that names some members of a record, each once, is read as what its members make of the blank
record, one after the other (`Record.Overlaid`). Where the members set parts of their own, their order
makes no difference (`Overlaid.perm`). So an object with a few members overrides a few parts of a record,
and one that is written with all of them gives the record back. -/

namespace NetGauge.Json

variable {α σ ω : Type}

/-! ## Reading what was written -/

/-- A form reads the values that it writes. -/
def Recovers (α : Type) [Form α] : Prop :=
  ∀ a : α, (Form.ofValue (Form.toValue a) : Except Misfit α) = .ok a

theorem recovers_string : Recovers String := fun _ => rfl

theorem recovers_word (name : String) {bound : Nat} {toNat : α → Nat} {ofNat : Nat → α}
    (hlt : ∀ a, toNat a < bound) (hback : ∀ a, ofNat (toNat a) = a) :
    @Recovers α (wordForm name bound toNat ofNat) := by
  intro a
  have hconvert : (Number.integer (toNat a)).toNat name bound = .ok (toNat a) := by
    simp [Number.toNat, hlt a]
  show ((Number.integer (toNat a)).toNat name bound).map ofNat = _
  rw [hconvert]
  exact congrArg Except.ok (hback a)

theorem recovers_uint16 : Recovers UInt16 := recovers_word "u16" UInt16.toNat_lt fun n => n.ofNat_toNat

theorem recovers_uint32 : Recovers UInt32 := recovers_word "u32" UInt32.toNat_lt fun n => n.ofNat_toNat

theorem recovers_uint64 : Recovers UInt64 := recovers_word "u64" UInt64.toNat_lt fun n => n.ofNat_toNat

/-- A value that is there is read as one that is there. -/
theorem ofValue_some [Form α] (h : Recovers α) (hnull : ∀ a : α, Form.toValue a ≠ .null) (a : α) :
    (Form.ofValue (Form.toValue a) : Except Misfit (Option α)) = .ok (some a) := by
  have hpresent : (Form.ofValue (Form.toValue a) : Except Misfit (Option α)) =
      (Form.ofValue (Form.toValue a) : Except Misfit α).map some := by
    have hne := hnull a
    generalize Form.toValue a = v at hne
    cases v with
    | null => exact absurd rfl hne
    | _ => rfl
  rw [hpresent, h a]
  rfl

theorem Recovers.option [Form α] (h : Recovers α) (hnull : ∀ a : α, Form.toValue a ≠ .null) :
    Recovers (Option α) := by
  intro o
  cases o with
  | none => rfl
  | some a => exact ofValue_some h hnull a

theorem Recovers.list [Form α] (h : Recovers α) : Recovers (List α) := by
  intro as
  show (as.map Form.toValue).mapM Form.ofValue = .ok as
  induction as with
  | nil => rfl
  | cons a as ih =>
      rw [List.map_cons, List.mapM_cons, h a]
      show ((as.map Form.toValue).mapM Form.ofValue >>= fun as => .ok (a :: as)) = _
      rw [ih]
      rfl

theorem Names.recovers (names : Names α) (h : ∀ a, names.all.lookup (names.name a) = some a) :
    @Recovers α names.form := by
  intro a
  show names.find (names.name a) = _
  rw [Names.find, h a]

/-- What is written differently was different. -/
theorem Recovers.injective [Form α] (h : Recovers α) : Function.Injective (Form.toValue : α → Value) := by
  intro a b heq
  have hread := h a
  rw [heq, h b] at hread
  exact (Except.ok.inj hread).symm

theorem Member.ofValue_of [Form α] {presence : Presence} {name : String} {get : σ → α} {set : σ → α → σ}
    {v : Value} {x : α} (h : (Form.ofValue v : Except Misfit α) = .ok x) (a : σ) :
    (Member.of presence name get set).ofValue a v = .ok (set a x) := by
  show (Form.ofValue v : Except Misfit α).map (set a) = _
  rw [h]
  rfl

/-! ## Members laid over a record -/

namespace Record

variable (r : Record σ)

/-- What members make of a record, one after the other, all of them being known. -/
inductive Overlaid : List (String × Value) → σ → σ → Prop
  | nil (a : σ) : Overlaid [] a a
  | cons {name : String} {v : Value} {members : List (String × Value)} {m : Member σ} {a b c : σ}
      (hmember : r.member? name = some m) (h : m.ofValue a v = .ok b) (hlater : Overlaid members b c) :
      Overlaid ((name, v) :: members) a c

variable {r} {members members' : List (String × Value)} {a b c : σ}

theorem Overlaid.append (h : Overlaid r members a b) (hlater : Overlaid r members' b c) :
    Overlaid r (members ++ members') a c := by
  induction h with
  | nil _ => exact hlater
  | cons hmember hread _ ih => exact .cons hmember hread (ih hlater)

/-- A record that needs no member never misses one. -/
theorem missing?_of_optional (hoptional : ∀ m ∈ r.members, m.presence ≠ .required) (seen : List String) :
    r.missing? seen = none := by
  rw [missing?, Option.map_eq_none_iff, List.find?_eq_none]
  intro m hm
  simp [hoptional m hm]

theorem Overlaid.membersOfValue (h : Overlaid r members a b)
    (hoptional : ∀ m ∈ r.members, m.presence ≠ .required) (hnodup : (members.map Prod.fst).Nodup)
    {seen : List String} (hunseen : ∀ name ∈ members.map Prod.fst, name ∉ seen) :
    r.membersOfValue seen a members = .ok b := by
  induction h generalizing seen with
  | nil a => rw [Record.membersOfValue, missing?_of_optional hoptional]
  | @cons name v members m a b c hmember hread _ ih =>
      rw [List.map_cons, List.nodup_cons] at hnodup
      rw [List.map_cons, List.forall_mem_cons] at hunseen
      have hnew : seen.contains name = false := by simpa using hunseen.1
      have hlater : ∀ other ∈ members.map Prod.fst, other ∉ name :: seen := by
        intro other hother
        rw [List.mem_cons, not_or]
        exact ⟨fun heq => hnodup.1 (heq ▸ hother), hunseen.2 other hother⟩
      rw [Record.membersOfValue, hmember, hnew]
      show (m.ofValue a v >>= fun b => r.membersOfValue (name :: seen) b members) = _
      rw [hread]
      exact ih hnodup.2 hlater

/-- **An object with members of different names is read as what they make of the blank record.** -/
theorem Overlaid.ofValue (h : Overlaid r members r.blank b)
    (hoptional : ∀ m ∈ r.members, m.presence ≠ .required) (hnodup : (members.map Prod.fst).Nodup) :
    r.ofValue (.object members) = .ok b :=
  h.membersOfValue hoptional hnodup fun _ _ => List.not_mem_nil

/-- The members of an object can come in any order. -/
theorem Overlaid.perm (hcommutes : r.Commutes) (hperm : members.Perm members')
    (hnodup : (members.map Prod.fst).Nodup) (h : Overlaid r members a b) : Overlaid r members' a b := by
  induction hperm generalizing a with
  | nil => exact h
  | cons entry _ ih =>
      rw [List.map_cons, List.nodup_cons] at hnodup
      cases h with
      | cons hmember hread hlater => exact .cons hmember hread (ih hnodup.2 hlater)
  | swap entry' entry members =>
      rw [List.map_cons, List.map_cons, List.nodup_cons] at hnodup
      cases h with
      | @cons name v _ m _ mid _ hmember hread hlater =>
      cases hlater with
      | @cons name' v' _ m' _ last _ hmember' hread' hlater =>
          have hname : m.name = name := by simpa using List.find?_some hmember
          have hname' : m'.name = name' := by simpa using List.find?_some hmember'
          have hne : m.name ≠ m'.name := by
            rw [hname, hname']
            exact fun heq => hnodup.1 (heq ▸ List.mem_cons_self)
          -- The record that is between them is another one, but what comes out is the same.
          have hswap := hcommutes m (List.mem_of_find?_eq_some hmember) m'
            (List.mem_of_find?_eq_some hmember') hne a v v'
          rw [hread, toOption_ok, Option.bind_some, hread', toOption_ok] at hswap
          obtain ⟨other, hfirst, hsecond⟩ := Option.bind_eq_some_iff.1 hswap.symm
          exact .cons hmember' (toOption_eq_some_iff.1 hfirst)
            (.cons hmember (toOption_eq_some_iff.1 hsecond) hlater)
  | trans hfirst _ ih ih' =>
      exact ih' ((hfirst.map Prod.fst).nodup_iff.1 hnodup) (ih hnodup h)

/-- An object with the same members in another order is read as the same. -/
theorem Overlaid.ofValue_perm (hcommutes : r.Commutes) (hoptional : ∀ m ∈ r.members, m.presence ≠ .required)
    (hnodup : (members.map Prod.fst).Nodup) (hperm : members'.Perm members)
    (h : Overlaid r members r.blank b) : r.ofValue (.object members') = .ok b := by
  have hnodup' : (members'.map Prod.fst).Nodup := (hperm.map Prod.fst).nodup_iff.2 hnodup
  exact (h.perm hcommutes hperm.symm hnodup).ofValue hoptional hnodup'

/-! ## Members that are written if they are there -/

/-- A part is overridden if it is there, and kept as it was if not. -/
theorem Overlaid.given [Form α] (h : Recovers α) {presence : Presence} {name : String} {get : σ → α}
    {set : σ → α → σ} (hmember : r.member? name = some (.of presence name get set))
    (hkeep : set a (get a) = a) (part : Option α) :
    Overlaid r ((part.map Form.toValue).map fun v => (name, v)).toList a (set a (part.getD (get a))) := by
  cases part with
  | none =>
      rw [Option.getD_none, hkeep]
      exact .nil a
  | some x => exact .cons hmember (Member.ofValue_of (h x) a) (.nil _)

/-- A part that need not have a value is overridden by one that it is to have. -/
theorem Overlaid.givenSome [Form α] (h : Recovers α) (hnull : ∀ x : α, Form.toValue x ≠ .null)
    {presence : Presence} {name : String} {get : σ → Option α} {set : σ → Option α → σ}
    (hmember : r.member? name = some (.of presence name get set)) (hkeep : set a (get a) = a)
    (part : Option α) :
    Overlaid r ((part.map Form.toValue).map fun v => (name, v)).toList a (set a (part.or (get a))) := by
  cases part with
  | none =>
      rw [Option.none_or, hkeep]
      exact .nil a
  | some x => exact .cons hmember (Member.ofValue_of (ofValue_some h hnull x) a) (.nil _)

/-- What is written of some members is laid over a record member by member. -/
theorem Overlaid.written_cons {o : ω} {m : Member ω} {more : List (Member ω)}
    (h : Overlaid r ((m.write o).map fun v => (m.name, v)).toList a b)
    (hlater : Overlaid r (written o more) b c) : Overlaid r (written o (m :: more)) a c := by
  have hsplit : written o (m :: more) =
      ((m.write o).map fun v => (m.name, v)).toList ++ written o more := by
    rw [written, written, List.filterMap_cons]
    cases m.write o <;> rfl
  rw [hsplit]
  exact h.append hlater

/-- What is written has the names of some members. -/
theorem sublist_written (o : ω) (members : List (Member ω)) :
    List.Sublist ((written o members).map Prod.fst) (members.map Member.name) := by
  induction members with
  | nil => exact .slnil
  | cons m more ih =>
      rw [written, List.filterMap_cons, List.map_cons]
      cases m.write o with
      | none => exact ih.cons _
      | some v => exact ih.cons_cons _

/-- What is written under the name of a member was written by this member. -/
theorem write_of_mem_written {o : ω} {members : List (Member ω)}
    (hnodup : (members.map Member.name).Nodup) {m : Member ω} (hm : m ∈ members) {v : Value}
    (h : (m.name, v) ∈ written o members) : m.write o = some v := by
  obtain ⟨m', hm', hwritten⟩ := List.mem_filterMap.1 h
  obtain ⟨_, hv, hentry⟩ := Option.map_eq_some_iff.1 hwritten
  obtain ⟨hname, rfl⟩ := Prod.mk.inj hentry
  have hfound := find?_name hnodup hm'
  rw [hname, find?_name hnodup hm] at hfound
  rw [Option.some.inj hfound, hv]

end Record

end NetGauge.Json
