import NetGauge.Json.Record
import NetGauge.Proofs.Json.Reader

set_option autoImplicit false

/-! # Reading back what a form writes

The readers of scalars, lists and enumerations find what their writers wrote (`ReadsBack`). A record
is written and read by the list of its members; so it is read back as soon as its members, one after
the other, carry their part of it over into what has been read before (`Record.Copies`). -/

namespace NetGauge.Json

/-! ## Scalars -/

theorem atValue_cons {α : Type} (read : Char → List Char → Except Fault (α × List Char)) {c : Char}
    (rest : List Char) (h : isSpace c = false) : atValue read (c :: rest) = read c rest := by
  rw [atValue, skipSpace_cons _ h]

theorem faithful_string {depth : Nat} (s : String) :
    Faithful Form.ofText depth (Form.toValue s) s := by
  refine ⟨.string depth s, ?_⟩
  intro levels rest _ _
  exact string_stringText s rest

theorem faithful_bool {depth : Nat} (b : Bool) :
    Faithful Form.ofText depth (Form.toValue b) b := by
  refine ⟨.bool depth b, ?_⟩
  intro levels rest _ _
  cases b <;> rfl

theorem numberOfText_digit {α : Type} (expected : String) (convert : Number → Except Misfit α)
    {c : Char} (rest : List Char) (h : isDigit c = true) :
    numberOfText expected convert (c :: rest) =
      (do let (n, rest) ← numberFrom false (c :: rest); placed rest (convert n)) := by
  have hminus : c ≠ '-' := by
    rintro rfl
    cases h
  rw [numberOfText, atValue_cons _ _ (beginsValue_of_isDigit h).1, if_neg hminus, if_pos h]

/-- Numbers of a kind are read back if the kind is within sixty-four bits. -/
theorem faithful_word {α : Type} {depth : Nat} (name : String) {bound : Nat} {toNat : α → Nat}
    {ofNat : Nat → α} (a : α) (hbound : bound ≤ wordMax + 1) (ha : toNat a < bound)
    (hback : ofNat (toNat a) = a) :
    Faithful (wordForm name bound toNat ofNat).ofText depth (.nat (toNat a)) a := by
  have hword : toNat a ≤ wordMax := by omega
  refine ⟨.natural depth (toNat a) hword, ?_⟩
  intro levels rest _ hrest
  obtain ⟨c, more, htext, hc⟩ := natDigits_begins (toNat a)
  have hread := numberFrom_natDigits false hword hrest
  have hconvert : (Number.integer (toNat a)).toNat name bound = .ok (toNat a) := by
    simp [Number.toNat, ha]
  show numberOfText name (fun n => (n.toNat name bound).map ofNat) (natDigits (toNat a) ++ rest) = _
  rw [htext, List.cons_append] at hread ⊢
  rw [numberOfText_digit _ _ _ hc, hread]
  show placed rest (((Number.integer (toNat a)).toNat name bound).map ofNat) = _
  rw [hconvert]
  show Except.ok (ofNat (toNat a), rest) = _
  rw [hback]

theorem faithful_uint16 {depth : Nat} (n : UInt16) :
    Faithful Form.ofText depth (Form.toValue n) n :=
  faithful_word "u16" n (by decide) n.toNat_lt n.ofNat_toNat

theorem faithful_uint32 {depth : Nat} (n : UInt32) :
    Faithful Form.ofText depth (Form.toValue n) n :=
  faithful_word "u32" n (by decide) n.toNat_lt n.ofNat_toNat

theorem faithful_uint64 {depth : Nat} (n : UInt64) :
    Faithful Form.ofText depth (Form.toValue n) n :=
  faithful_word "u64" n (by decide) n.toNat_lt n.ofNat_toNat

/-! ## Options, lists and enumerations -/

/-- A text that begins like null is that of null, among plain values. -/
theorem Plain.head?_text {depth : Nat} {v : Value} (h : Plain depth v) (hnull : v ≠ .null) :
    v.text.head? ≠ some 'n' := by
  cases h with
  | null => exact absurd rfl hnull
  | bool depth b => cases b <;> nofun
  | natural depth n =>
      obtain ⟨c, more, htext, hc⟩ := natDigits_begins n
      show (natDigits n).head? ≠ _
      rw [htext]
      rintro ⟨⟩
      cases hc
  | negative | string | array | object => nofun

/-- A value that is not null is read back as one that is there. -/
theorem faithful_some {α : Type} [Form α] {depth : Nat} {v : Value} {a : α}
    (h : Faithful Form.ofText depth v a) (hv : v ≠ .null) :
    Faithful Form.ofText depth v (some a) := by
  refine ⟨h.plain, ?_⟩
  intro levels rest hlevels hrest
  have hread := h.readsBack levels rest hlevels hrest
  show optionOfText levels (v.text ++ rest) = _
  rw [optionOfText, skipSpace_text]
  split
  · next more htext =>
      obtain ⟨c, text, hbegins, -⟩ := v.text_begins
      rw [hbegins, List.cons_append] at htext
      cases htext
      exact absurd (by rw [hbegins]; rfl) (h.plain.head?_text hv)
  · rw [hread]
    rfl

/-- Null is read back as the absence of a value, whatever the values are. -/
theorem faithful_none {α : Type} [Form α] {depth : Nat} :
    Faithful Form.ofText depth .null (none : Option α) := by
  refine ⟨.null depth, ?_⟩
  intro levels rest _ _
  rfl

/-- An option is read back if its value is, provided that this is not written like the absence of one. -/
theorem faithful_option {α : Type} [Form α] {depth : Nat} {o : Option α}
    (h : ∀ a, o = some a → Faithful Form.ofText depth (Form.toValue a) a)
    (hnull : ∀ a : α, Form.toValue a ≠ .null) : Faithful Form.ofText depth (Form.toValue o) o := by
  cases o with
  | none => exact faithful_none
  | some a => exact faithful_some (h a rfl) (hnull a)

theorem faithful_list {α : Type} [Form α] {depth : Nat} (as : List α)
    (h : ∀ a ∈ as, Faithful Form.ofText depth (Form.toValue a) a) :
    Faithful Form.ofText (depth + 1) (Form.toValue as) as := by
  refine ⟨.array depth _ ?_, ?_⟩
  · intro v hv
    obtain ⟨a, ha, rfl⟩ := List.mem_map.1 hv
    exact (h a ha).plain
  intro levels rest hlevels _
  obtain ⟨levels, rfl⟩ : ∃ n, levels = n + 2 := ⟨levels - 2, by omega⟩
  have hread := elementsFrom_elementsText Form.toValue as rest
    (fun a ha rest hrest => (h a ha).readsBack (levels + 1) rest (by omega) hrest)
  show (elementsFrom (Form.ofText (levels + 1)) ((elementsText (as.map Form.toValue) ++ rest).length + 1)
    true [] (elementsText (as.map Form.toValue) ++ rest) >>= _) = _
  rw [hread]
  rfl

theorem Names.faithful {α : Type} {depth : Nat} (names : Names α) (a : α)
    (h : names.all.lookup (names.name a) = some a) :
    Faithful names.ofText depth (.string (names.name a)) a := by
  refine ⟨.string depth _, ?_⟩
  intro levels rest _ _
  have hfind : names.find (names.name a) = .ok a := by rw [Names.find, h]
  show (string ((names.name a).toList.flatMap escapeChar ++ ['"'] ++ rest) >>=
    fun p => placed p.2 (names.find p.1)) = _
  rw [string_stringText]
  show placed rest (names.find (names.name a)) = _
  rw [hfind]
  rfl

/-! ## Records -/

namespace Member

variable {σ α : Type}

/-- Reading back what a member writes of `a` takes what has been read before to `next`. -/
def Carries (m : Member σ) (depth : Nat) (a before next : σ) : Prop :=
  match m.write a with
  | some v => Faithful (fun levels => m.ofText levels before) depth v next
  | none => m.presence ≠ .required ∧ next = before

/-- A member that is read back in a form hands over its value. -/
theorem carries_of [Form α] {depth : Nat} {presence : Presence} {name : String} {get : σ → α}
    {set : σ → α → σ} {a before : σ}
    (h : Faithful Form.ofText depth (Form.toValue (get a)) (get a)) :
    (of presence name get set).Carries depth a before (set before (get a)) := by
  refine ⟨h.plain, ?_⟩
  intro levels rest hlevels hrest
  show (Form.ofText levels ((Form.toValue (get a)).text ++ rest) >>=
    fun p => .ok (set before p.1, p.2)) = _
  rw [h.readsBack levels rest hlevels hrest]
  rfl

/-- A member that is left out keeps what it had. -/
theorem carries_sparse [Form α] {depth : Nat} {name : String} {get : σ → Option α}
    {set : σ → Option α → σ} {a before : σ}
    (h : ∀ x, get a = some x → Faithful Form.ofText depth (Form.toValue x) (some x))
    (hnone : get a = none → set before none = before) :
    (sparse name get set).Carries depth a before (set before (get a)) := by
  cases hget : get a with
  | none =>
      simp only [Carries, sparse, hget, Option.map_none]
      exact ⟨by simp [of], hnone hget⟩
  | some x =>
      simp only [Carries, sparse, hget, Option.map_some]
      refine ⟨(h x hget).plain, ?_⟩
      intro levels rest hlevels hrest
      show (Form.ofText levels ((Form.toValue x).text ++ rest) >>=
        fun p => .ok (set before p.1, p.2)) = _
      rw [(h x hget).readsBack levels rest hlevels hrest]
      rfl

end Member

namespace Record

variable {σ : Type}

/-- Reading back what the members write of `a`, one after the other, takes what has been read before
    to `next`. -/
inductive Copies (depth : Nat) (a : σ) : List (Member σ) → σ → σ → Prop
  | nil (before : σ) : Copies depth a [] before before
  | cons {m : Member σ} {members : List (Member σ)} {before between next : σ}
      (h : m.Carries depth a before between) (hlater : Copies depth a members between next) :
      Copies depth a (m :: members) before next

/-- What members write of `a`. -/
def written (a : σ) (members : List (Member σ)) : List (String × Value) :=
  members.filterMap (fun m => (m.write a).map (fun v => (m.name, v)))

theorem find?_name {members : List (Member σ)} (hnodup : (members.map Member.name).Nodup)
    {m : Member σ} (hm : m ∈ members) : members.find? (fun other => other.name == m.name) = some m := by
  induction members with
  | nil => cases hm
  | cons first members ih =>
      rw [List.map_cons, List.nodup_cons] at hnodup
      rcases List.mem_cons.1 hm with rfl | hm
      · rw [List.find?_cons_of_pos (by simp)]
      · have hne : first.name ≠ m.name := by
          intro heq
          exact hnodup.1 (heq ▸ List.mem_map_of_mem hm)
        rw [List.find?_cons_of_neg (by simpa using hne)]
        exact ih hnodup.2 hm

/-- The names that have been seen once the members `done` are passed: none but theirs, and those of all
    of them that may not be absent. -/
structure Passed (done : List (Member σ)) (seen : List String) : Prop where
  only : ∀ name ∈ seen, name ∈ done.map Member.name
  required : ∀ m ∈ done, m.presence = .required → m.name ∈ seen

namespace Passed

variable {done members : List (Member σ)} {seen : List String} {m : Member σ}

theorem nil : Passed ([] : List (Member σ)) [] where
  only := nofun
  required := nofun

theorem absent (h : Passed done seen) (hpresence : m.presence ≠ .required) :
    Passed (done ++ [m]) seen where
  only name hname := by
    rw [List.map_append]
    exact List.mem_append_left _ (h.only name hname)
  required other hother hother' := by
    rcases List.mem_append.1 hother with hother | hother
    · exact h.required other hother hother'
    · rw [List.mem_singleton.1 hother] at hother'
      exact absurd hother' hpresence

theorem present (h : Passed done seen) : Passed (done ++ [m]) (m.name :: seen) where
  only name hname := by
    rw [List.map_append]
    rcases List.mem_cons.1 hname with rfl | hname
    · exact List.mem_append_right _ List.mem_cons_self
    · exact List.mem_append_left _ (h.only name hname)
  required other hother hother' := by
    rcases List.mem_append.1 hother with hother | hother
    · exact List.mem_cons_of_mem _ (h.required other hother hother')
    · rw [List.mem_singleton.1 hother]
      exact List.mem_cons_self

/-- The next member has not been seen: its name is none of those before it. -/
theorem not_mem (h : Passed done seen) (hnodup : ((done ++ m :: members).map Member.name).Nodup) :
    m.name ∉ seen := by
  intro hname
  rw [List.map_append, List.map_cons, List.nodup_append] at hnodup
  exact hnodup.2.2 m.name (h.only m.name hname) m.name List.mem_cons_self rfl

/-- Nothing is missing once all members are passed. -/
theorem missing?_eq_none {r : Record σ} (h : Passed r.members seen) : r.missing? seen = none := by
  rw [missing?, Option.map_eq_none_iff, List.find?_eq_none]
  intro m hm
  by_cases hpresence : m.presence = .required
  · simp [h.required m hm hpresence]
  · simp [hpresence]

end Passed

/-- What is left to read of an object takes what has been read so far to the end. The induction is on
    the members that are left; those that are written come before the others in their order. -/
theorem membersOfText_objectText (r : Record σ) {depth levels : Nat} {a : σ}
    (hnodup : (r.members.map Member.name).Nodup) (hlevels : depth < levels)
    {members : List (Member σ)} {before next : σ} (hcopies : Copies depth a members before next)
    {done : List (Member σ)} (hsplit : r.members = done ++ members) (first : Bool)
    {seen : List String} (hpassed : Passed done seen) (fuel : Nat) (rest : List Char)
    (hfuel : (written a members).length < fuel) :
    r.membersOfText levels fuel first seen before
      (objectText first (written a members) ++ rest) = .ok (next, '}' :: rest) := by
  induction hcopies generalizing done first seen fuel with
  | nil before =>
      obtain ⟨fuel, rfl⟩ : ∃ n, fuel = n + 1 := ⟨fuel - 1, by omega⟩
      rw [List.append_nil] at hsplit
      have hmissing : r.missing? seen = none := (hsplit ▸ hpassed).missing?_eq_none
      rw [written, List.filterMap_nil, membersOfText, nextKey_nil]
      simp only [Halt.lift, bind, Except.bind, hmissing]
      rfl
  | @cons m members before between next h hlater ih =>
      have hsplit' : r.members = done ++ [m] ++ members := by simp [hsplit]
      cases hwrite : m.write a with
      | none =>
          have hwritten : written a (m :: members) = written a members := by simp [written, hwrite]
          simp only [Member.Carries, hwrite] at h
          obtain ⟨hpresence, rfl⟩ := h
          rw [hwritten] at hfuel ⊢
          exact ih hsplit' first (hpassed.absent hpresence) fuel hfuel
      | some v =>
          have hwritten : written a (m :: members) = (m.name, v) :: written a members := by
            simp [written, hwrite]
          simp only [Member.Carries, hwrite] at h
          rw [hwritten, List.length_cons] at hfuel
          obtain ⟨fuel, rfl⟩ : ∃ n, fuel = n + 1 := ⟨fuel - 1, by omega⟩
          have hmember : r.member? m.name = some m := find?_name hnodup (by simp [hsplit])
          have hunseen : seen.contains m.name = false := by
            simpa using hpassed.not_mem (hsplit ▸ hnodup)
          have hread := h.readsBack levels (objectText false (written a members) ++ rest) hlevels
            (afterValue_objectText _ rest)
          rw [hwritten, membersOfText, nextKey_cons]
          simp only [Halt.lift, bind, Except.bind, hmember, hunseen, afterKey_colon, hread,
            Bool.false_eq_true, if_false]
          exact ih hsplit' false hpassed.present fuel (by omega)

theorem plain_written {depth : Nat} {a : σ} {members : List (Member σ)} {before next : σ}
    (h : Copies depth a members before next) : ∀ entry ∈ written a members, Plain depth entry.2 := by
  induction h with
  | nil before => nofun
  | @cons m members before between next h hlater ih =>
      intro entry hentry
      cases hwrite : m.write a with
      | none => exact ih entry (by simpa [written, hwrite] using hentry)
      | some v =>
          simp only [Member.Carries, hwrite] at h
          have hentry : entry = (m.name, v) ∨ entry ∈ written a members := by
            simpa [written, hwrite] using hentry
          rcases hentry with rfl | hentry
          · exact h.plain
          · exact ih entry hentry

/-- **A record is read back** if its members have different names and carry all of it over. -/
theorem faithful (r : Record σ) {depth : Nat} {a : σ}
    (hnodup : (r.members.map Member.name).Nodup) (hcopies : Copies depth a r.members r.blank a) :
    Faithful r.ofText (depth + 1) (r.toValue a) a := by
  refine ⟨.object depth _ (plain_written hcopies), ?_⟩
  intro levels rest hlevels _
  obtain ⟨levels, rfl⟩ : ∃ n, levels = n + 2 := ⟨levels - 2, by omega⟩
  have hlength := length_le_membersText (written a r.members)
  have hread : r.membersOfText (levels + 1) ((membersText (written a r.members) ++ rest).length + 1)
      true [] r.blank (membersText (written a r.members) ++ rest) = .ok (a, '}' :: rest) :=
    r.membersOfText_objectText hnodup (by omega) hcopies (List.nil_append _).symm true Passed.nil _ rest
      (by rw [List.length_append]; omega)
  have htext : (r.toValue a).text ++ rest = '{' :: (membersText (written a r.members) ++ rest) := rfl
  rw [htext, ofText, atValue_cons _ _ rfl]
  dsimp only
  rw [if_pos rfl, hread]
  rfl

end Record

end NetGauge.Json
