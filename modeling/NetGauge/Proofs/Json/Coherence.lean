import NetGauge.Proofs.Json.Record
import NetGauge.Proofs.Json.Unordered

set_option autoImplicit false

/-! # Reading a text as its value

There are two readers for every form: one that goes along a text, and one for a value that has been read
before. For strings, numbers, options and lists the two agree on every text of a tree
(`coherent_word`, `Coherent.list`). They differ on the names of an enumeration, which may stand in an object
of their own with more in it for the one than for the other; but they agree on strings
(`Names.coherentFor_string`). So a record is read from the text of an object as it is read from the object,
as long as its members are (`Record.coherentFor_object`). -/

namespace NetGauge.Json

variable {α σ : Type}

/-! ## What trees stand for -/

theorem Tree.value?_array {elements : List Tree} {levels : Nat} {v : Value}
    (h : (Tree.array elements).value? levels = some v) : ∃ values, v = .array values := by
  match levels, h with
  | levels + 2, h =>
      obtain ⟨values, -, rfl⟩ := Option.map_eq_some_iff.1 h
      exact ⟨values, rfl⟩

theorem Tree.value?_object {entries : List (List Glyph × Tree)} {levels : Nat} {v : Value}
    (h : (Tree.object entries).value? levels = some v) : ∃ members, v = .object members := by
  match levels, h with
  | levels + 2, h =>
      obtain ⟨members, -, rfl⟩ := Option.map_eq_some_iff.1 h
      exact ⟨members, rfl⟩

/-- Where no array is read, what stands for one is not read. -/
theorem Tree.array_bind_eq_none {read : Value → Option α} (h : ∀ values, read (.array values) = none)
    (elements : List Tree) (levels : Nat) : ((Tree.array elements).value? levels).bind read = none := by
  rw [Option.bind_eq_none_iff]
  intro v hv
  obtain ⟨values, rfl⟩ := value?_array hv
  exact h values

/-- Where no object is read, what stands for one is not read. -/
theorem Tree.object_bind_eq_none {read : Value → Option α} (h : ∀ members, read (.object members) = none)
    (entries : List (List Glyph × Tree)) (levels : Nat) :
    ((Tree.object entries).value? levels).bind read = none := by
  rw [Option.bind_eq_none_iff]
  intro v hv
  obtain ⟨members, rfl⟩ := value?_object hv
  exact h members

/-- Only an object stands for an object. -/
theorem Tree.value?_eq_object {t : Tree} {levels : Nat} {members : List (String × Value)}
    (h : t.value? levels = some (.object members)) :
    ∃ entries more, t = .object entries ∧ levels = more + 2 ∧
      memberValues? (more + 1) entries = some members := by
  match t, levels, h with
  | .scalar l, _, h =>
      rw [value?] at h
      cases l with
      | null => cases h
      | bool b => cases h
      | number n =>
          obtain ⟨_, -, hv⟩ := Option.map_eq_some_iff.1 h
          cases hv
      | string glyphs =>
          obtain ⟨_, -, hv⟩ := Option.map_eq_some_iff.1 h
          cases hv
  | .array elements, _, h =>
      obtain ⟨_, hv⟩ := value?_array h
      cases hv
  | .object entries, levels + 2, h =>
      obtain ⟨_, hentries, hv⟩ := Option.map_eq_some_iff.1 h
      cases hv
      exact ⟨entries, levels, rfl, rfl, hentries⟩

/-- Members stand for the first of them and for those behind it. -/
theorem memberValues?_cons_eq_some {levels : Nat} {glyphs : List Glyph} {t : Tree}
    {entries : List (List Glyph × Tree)} {members : List (String × Value)}
    (h : memberValues? levels ((glyphs, t) :: entries) = some members) :
    ∃ name v more, members = (name, v) :: more ∧ stringOf? glyphs = some name ∧
      t.value? levels = some v ∧ memberValues? levels entries = some more := by
  rw [memberValues?] at h
  obtain ⟨name, hname, h⟩ := Option.bind_eq_some_iff.1 h
  obtain ⟨v, hv, h⟩ := Option.bind_eq_some_iff.1 h
  obtain ⟨more, hmore, h⟩ := Option.bind_eq_some_iff.1 h
  cases h
  exact ⟨name, v, more, rfl, hname, hv, hmore⟩

/-- The name and the value of a member are there among those of all members. -/
theorem mem_of_memberValues? {levels : Nat} {entries : List (List Glyph × Tree)}
    {members : List (String × Value)} (h : memberValues? levels entries = some members)
    {entry : List Glyph × Tree} (hentry : entry ∈ entries) :
    ∃ m ∈ members, stringOf? entry.1 = some m.1 ∧ entry.2.value? levels = some m.2 := by
  induction entries generalizing members with
  | nil => cases hentry
  | cons first entries ih =>
      obtain ⟨name, v, more, rfl, hname, hv, hmore⟩ := memberValues?_cons_eq_some h
      rcases List.mem_cons.1 hentry with rfl | hentry
      · exact ⟨(name, v), List.mem_cons_self, hname, hv⟩
      · obtain ⟨m, hm, hfound⟩ := ih hmore hentry
        exact ⟨m, List.mem_cons_of_mem _ hm, hfound⟩

/-! ## Numbers -/

theorem atValue_blanks (read : Char → List Char → Except Fault (α × List Char)) {before : List Char}
    (h : Blanks before) (text : List Char) : atValue read (before ++ text) = atValue read text := by
  rw [atValue, atValue, skipSpace_blanks h]

theorem toOption_placed (x : Except Misfit α) (rest : List Char) :
    (placed rest x).toOption = x.toOption.map fun a => (a, rest) := by
  cases x <;> rfl

/-- A number is read from its text and converted. -/
theorem numberOfText_numeral (expected : String) (convert : Number → Except Misfit α) (n : Numeral)
    {rest : List Char} (hrest : Ends rest) :
    (numberOfText expected convert (n.text ++ rest)).toOption =
      ((found? (numberFrom n.negative) n.unsigned).bind fun number => (convert number).toOption).map
        fun a => (a, rest) := by
  have hread := n.settled_unsigned n.negative rest hrest
  have hnumber : numberOfText expected convert (n.text ++ rest) =
      numberFrom n.negative (n.unsigned ++ rest) >>= fun p => placed p.2 (convert p.1) := by
    rcases Literal.numeral_cases n rest with ⟨hsign, htext⟩ | ⟨hsign, c, more, hc, hunsigned, htext⟩
    · rw [htext, hsign]
      rfl
    · rw [htext, numberOfText_digit _ _ _ hc, hsign, hunsigned]
  rw [hnumber, toOption_bind, hread]
  cases found? (numberFrom n.negative) n.unsigned with
  | none => rfl
  | some number => exact toOption_placed (convert number) rest

/-- Words are read from a text as from its value. -/
theorem coherent_word (name : String) {bound : Nat} {toNat : α → Nat} {ofNat : Nat → α} :
    @Coherent α (wordForm name bound toNat ofNat) := by
  intro levels t before text rest hbefore h hrest
  have hblanks : numberOfText name (fun n => (n.toNat name bound).map ofNat) (before ++ (text ++ rest)) =
      numberOfText name (fun n => (n.toNat name bound).map ofNat) (text ++ rest) :=
    atValue_blanks _ hbefore _
  show (numberOfText name (fun n => (n.toNat name bound).map ofNat) (before ++ (text ++ rest))).toOption = _
  rw [hblanks]
  cases h with
  | scalar l =>
      cases l with
      | number n =>
          have hread := numberOfText_numeral name (fun n => (n.toNat name bound).map ofNat) n hrest
          show (numberOfText _ _ (n.text ++ rest)).toOption = _
          rw [hread, Tree.value?, Literal.value?]
          cases found? (numberFrom n.negative) n.unsigned <;> rfl
      | null => rfl
      | bool b => cases b <;> rfl
      | string glyphs =>
          rw [Tree.value?, Literal.value?]
          cases stringOf? glyphs <;> rfl
  | array h =>
      rw [Tree.array_bind_eq_none fun _ => rfl]
      rfl
  | object h =>
      rw [Tree.object_bind_eq_none fun _ => rfl]
      rfl

theorem coherent_uint16 : Coherent UInt16 := coherent_word "u16"

theorem coherent_uint32 : Coherent UInt32 := coherent_word "u32"

theorem coherent_uint64 : Coherent UInt64 := coherent_word "u64"

/-! ## Lists -/

/-- The elements of an array are read one by one, each to its end. -/
theorem elementsFrom_items {one : List Char → Except Fault (α × List Char)} {item? : Tree → Option α}
    {first : Bool} {elements : List Tree} {inside : List Char} (h : ElementsSpell first elements inside)
    (hone : ∀ t text rest, Tree.Spells t text → Ends rest →
      (one (text ++ rest)).toOption = (item? t).map fun a => (a, rest)) :
    ∀ fuel done rest, elements.length < fuel →
      (elementsFrom one fuel first done (inside ++ ']' :: rest)).toOption =
        (elements.mapM item?).map fun as => (done.reverse ++ as, ']' :: rest) := by
  induction elements generalizing first inside with
  | nil =>
      intro fuel done rest hfuel
      obtain ⟨fuel, rfl⟩ : ∃ n, fuel = n + 1 := ⟨fuel - 1, by omega⟩
      cases h with
      | nil hgap =>
          have hnone : (([] : List Tree).mapM item?).map (fun as => (done.reverse ++ as, ']' :: rest)) =
              some (done.reverse, ']' :: rest) := by simp
          rw [elementsFrom, nextElement_end _ hgap, hnone]
          rfl
  | cons t elements ih =>
      intro fuel done rest hfuel
      rw [List.length_cons] at hfuel
      obtain ⟨fuel, rfl⟩ : ∃ n, fuel = n + 1 := ⟨fuel - 1, by omega⟩
      cases h with
      | @cons _ _ _ gap before text more hgap hbefore h hmore =>
          obtain ⟨c, tail, htext, hc⟩ := h.begins
          have hpart := nextElement_part first hgap hbefore hc (tail ++ (more ++ ']' :: rest))
          have hitem := hone t text (more ++ ']' :: rest) h (hmore.ends rest)
          rw [htext] at hitem
          rw [htext, element_append, elementsFrom, hpart]
          show (one (c :: tail ++ (more ++ ']' :: rest)) >>=
            fun p => elementsFrom one fuel false (p.1 :: done) p.2).toOption = _
          rw [toOption_bind, hitem, List.mapM_cons]
          cases item? t with
          | none => rfl
          | some a =>
              refine (ih hmore fuel (a :: done) rest (by omega)).trans ?_
              cases hitems : elements.mapM item? with
              | none => rfl
              | some as => simp

theorem toOption_mapM {β ε : Type} (f : β → Except ε α) (items : List β) :
    (items.mapM f).toOption = items.mapM fun x => (f x).toOption := by
  induction items with
  | nil => rfl
  | cons x items ih =>
      rw [List.mapM_cons, List.mapM_cons, ← ih]
      cases f x with
      | error _ => rfl
      | ok a => cases items.mapM f <;> rfl

/-- It makes no difference whether items are converted one by one or when all are there. -/
theorem mapM_bind {β γ : Type} (f : β → Option γ) (g : γ → Option α) (items : List β) :
    (items.mapM fun x => (f x).bind g) = (items.mapM f).bind fun ys => ys.mapM g := by
  induction items with
  | nil => rfl
  | cons x items ih =>
      simp only [List.mapM_cons, ih]
      cases f x with
      | none => rfl
      | some y =>
          cases items.mapM f with
          | none => cases hy : g y <;> simp [hy]
          | some ys => simp

/-- Lists are read from a text as from their value if their elements are. -/
theorem Coherent.list [Form α] (hform : Coherent α) : Coherent (List α) := by
  intro levels t before text rest hbefore h hrest
  have hblanks : (Form.ofText levels (before ++ (text ++ rest)) : Except Fault (List α × List Char)) =
      Form.ofText levels (text ++ rest) := atValue_blanks _ hbefore _
  rw [hblanks]
  cases h with
  | scalar l =>
      cases l with
      | null => rfl
      | bool b => cases b <;> rfl
      | number n =>
          -- A number begins with a digit or a sign, whatever it is.
          obtain ⟨c, more, htext, hc⟩ := n.text_begins
          have hne : c ≠ '[' := by
            rintro rfl
            rcases hc with hc | hc <;> cases hc
          have hspace : isSpace c = false := by
            rcases hc with hc | rfl
            · exact (beginsValue_of_isDigit hc).1
            · rfl
          rw [Literal.text, htext, List.cons_append]
          show (atValue _ (c :: (more ++ rest))).toOption = _
          rw [atValue_cons _ _ hspace, if_neg hne, Tree.value?, Literal.value?]
          cases found? (numberFrom n.negative) n.unsigned <;> rfl
      | string glyphs =>
          rw [Tree.value?, Literal.value?]
          cases stringOf? glyphs <;> rfl
  | @array elements inside h =>
      rcases levels with _ | _ | levels
      · rfl
      · rfl
      · have hlength := h.length_le
        have hitems := elementsFrom_items h (fun t text rest ht hrest =>
          hform (levels + 1) t [] text rest blanks_nil ht hrest)
          ((inside ++ ']' :: rest).length + 1) [] rest (by simp; omega)
        have htext : '[' :: (inside ++ [']']) ++ rest = '[' :: (inside ++ ']' :: rest) := by simp
        rw [htext]
        -- The one reader converts every element as it comes, the other when all of them are there. They
        -- may stop at different things, but they stop at the same lists.
        show (elementsFrom (Form.ofText (levels + 1)) ((inside ++ ']' :: rest).length + 1) true []
          (inside ++ ']' :: rest) >>= fun p => endList p.2 >>= fun rest => .ok (p.1, rest)).toOption = _
        rw [toOption_bind, hitems, mapM_bind, ← elementValues?_eq_mapM, Tree.value?]
        cases elementValues? (levels + 1) elements with
        | none => rfl
        | some vs =>
            show ((vs.mapM fun v => (Form.ofValue v).toOption).map _).bind _ =
              (vs.mapM Form.ofValue).toOption.map _
            rw [toOption_mapM]
            cases vs.mapM fun v => (Form.ofValue v : Except Misfit α).toOption <;> rfl
  | object h =>
      rw [Tree.object_bind_eq_none fun _ => rfl]
      rfl

/-! ## Values that are read alike -/

/-- A form that reads every text of a value as it reads the value. -/
def CoherentFor (α : Type) [Form α] (v : Value) : Prop :=
  ∀ levels (t : Tree), t.value? levels = some v → CoherentAt α levels t

/-- A member that is read from every text of a value as it is read from the value. -/
def Member.CoherentFor (m : Member σ) (v : Value) : Prop :=
  ∀ levels (t : Tree), t.value? levels = some v → m.CoherentAt levels t

theorem Member.Coherent.coherentFor {m : Member σ} (h : m.Coherent) (v : Value) : m.CoherentFor v :=
  fun levels t _ a => h levels a t

theorem CoherentFor.member [Form α] {v : Value} (h : CoherentFor α v) (presence : Presence)
    (name : String) (get : σ → α) (set : σ → α → σ) : (Member.of presence name get set).CoherentFor v :=
  fun levels t hvalue => (h levels t hvalue).member presence name get set

/-- The names of an enumeration are read from a text as from its value, where this is a string. -/
theorem Names.coherentFor_string (names : Names α) (s : String) : @CoherentFor α names.form (.string s) := by
  intro levels t hvalue before text rest hbefore h hrest
  obtain ⟨glyphs, rfl, hs⟩ := Tree.value?_eq_string hvalue
  rw [hvalue]
  cases h
  show (atValue _ (before ++ ('"' :: (closedText glyphs ++ rest)))).toOption = _
  rw [atValue_blanks _ hbefore, atValue_cons _ _ rfl, if_pos rfl, toOption_bind, string_closedText, hs]
  exact toOption_placed (names.find s) rest

/-! ## Records -/

namespace Record

variable (r : Record σ)

/-- The members of an object are read as the values that they stand for. -/
theorem reading?_eq_membersOfValue {levels : Nat} {entries : List (List Glyph × Tree)}
    {members : List (String × Value)} (h : memberValues? levels entries = some members)
    (seen : List String) (a : σ) :
    r.reading? levels seen a entries = (r.membersOfValue seen a members).toOption := by
  induction entries generalizing members seen a with
  | nil =>
      cases h
      rw [reading?, membersOfValue]
      cases r.missing? seen <;> rfl
  | cons entry entries ih =>
      obtain ⟨name, v, more, rfl, hname, hv, hmore⟩ := memberValues?_cons_eq_some h
      rw [reading?, hname, Option.bind_some, membersOfValue]
      cases r.member? name with
      | none => exact ih hmore seen a
      | some m =>
          dsimp only
          split
          · rfl
          · rw [hv, Option.bind_some, toOption_bind]
            exact congrArg _ (funext fun b => ih hmore (name :: seen) b)

/-- **A record is read from the text of an object as from the object,** if its members are. -/
theorem coherentFor_object {members : List (String × Value)}
    (hmembers : ∀ m ∈ r.members, ∀ v, (m.name, v) ∈ members → m.CoherentFor v) :
    @CoherentFor σ r.form (.object members) := by
  intro levels t hvalue before text rest hbefore h hrest
  rw [hvalue]
  obtain ⟨entries, levels, rfl, rfl, hentries⟩ := Tree.value?_eq_object hvalue
  have hcoherent : ∀ entry ∈ entries, ∀ m ∈ r.members, stringOf? entry.1 = some m.name →
      m.CoherentAt (levels + 1) entry.2 := by
    intro entry hentry m hm hname
    obtain ⟨⟨name, v⟩, hmem, hname', hv⟩ := mem_of_memberValues? hentries hentry
    obtain rfl : m.name = name := Option.some.inj (hname.symm.trans hname')
    exact hmembers m hm v hmem (levels + 1) entry.2 hv
  show (r.ofText (levels + 2) (before ++ (text ++ rest))).toOption = _
  rw [r.ofText_spells hcoherent hbefore h rest, r.reading?_eq_membersOfValue hentries]
  rfl

end Record

/-- **A text is read as the value that it stands for.** -/
theorem CoherentFor.parse [Form α] {v : Value} (h : CoherentFor α v) {t : Tree} {text : String}
    (htext : t.TextOf text) (hvalue : t.value? nestingLimit = some v) :
    (Json.parse α text).toOption = (Form.ofValue v : Except Misfit α).toOption := by
  obtain ⟨before, inner, after, hbefore, hinner, hafter, htext⟩ := htext
  have hend : Ends after := by
    have hnil : Ends [] := trivial
    have h := hnil.of_blanks hafter
    rwa [List.append_nil] at h
  have hread := h nestingLimit t hvalue before inner after hbefore hinner hend
  rw [hvalue] at hread
  exact toOption_whole htext hafter hread

end NetGauge.Json
