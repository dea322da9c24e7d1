import NetGauge.Proofs.Json.Double
import NetGauge.Proofs.Json.Record
import NetGauge.Proofs.Json.Tree

set_option autoImplicit false

/-! # Reading back indented values

The indented layout of a value spells out a tree, with line breaks and blanks between its parts. So it is
read to its end, and as the value itself but for the doubles: of these the reader makes what it makes of
their texts (`Value.reread`), if it accepts them at all. A value whose doubles are accepted is therefore
read back in its indented layout, however many strings it has and whatever they say
(`Value.parse_indented`). -/

namespace NetGauge.Json

/-! ## What is read back -/

mutual

/-- The doubles that a value holds. -/
def Value.floats : Value → List Float
  | .array elements => elementFloats elements
  | .object members => memberFloats members
  | .number (.float x) => [x]
  | _ => []

def elementFloats : List Value → List Float
  | [] => []
  | v :: rest => v.floats ++ elementFloats rest

def memberFloats : List (String × Value) → List Float
  | [] => []
  | (_, v) :: rest => v.floats ++ memberFloats rest

end

/-- The text of a double is accepted by the reader. -/
def Legible (x : Float) : Prop := (Value.parse (Value.float x).compact).isOk = true

instance (x : Float) : Decidable (Legible x) := inferInstanceAs (Decidable (_ = true))

mutual

/-- A value with its doubles as they are read back. -/
def Value.reread : Value → Value
  | .array elements => .array (rereadElements elements)
  | .object members => .object (rereadMembers members)
  | .number (.float x) => (Value.parse (Value.float x).compact).toOption.getD .null
  | v => v

def rereadElements : List Value → List Value
  | [] => []
  | v :: rest => v.reread :: rereadElements rest

def rereadMembers : List (String × Value) → List (String × Value)
  | [] => []
  | (name, v) :: rest => (name, v.reread) :: rereadMembers rest

end

theorem elementFloats_eq (elements : List Value) : elementFloats elements = elements.flatMap Value.floats := by
  induction elements with
  | nil => rfl
  | cons v rest ih => rw [elementFloats, ih, List.flatMap_cons]

theorem memberFloats_eq (members : List (String × Value)) :
    memberFloats members = members.flatMap (fun m => m.2.floats) := by
  induction members with
  | nil => rfl
  | cons m rest ih =>
      obtain ⟨name, v⟩ := m
      rw [memberFloats, ih, List.flatMap_cons]

theorem rereadElements_eq (elements : List Value) : rereadElements elements = elements.map Value.reread := by
  induction elements with
  | nil => rfl
  | cons v rest ih => rw [rereadElements, ih, List.map_cons]

theorem rereadMembers_eq (members : List (String × Value)) :
    rereadMembers members = members.map (fun m => (m.1, m.2.reread)) := by
  induction members with
  | nil => rfl
  | cons m rest ih =>
      obtain ⟨name, v⟩ := m
      rw [rereadMembers, ih, List.map_cons]

/-- A member is found under its name in what is read back. -/
theorem get?_reread (name : String) (members : List (String × Value)) :
    (Value.object members).reread.get? name = ((Value.object members).get? name).map Value.reread := by
  have hsame : ((fun m => m.1 == name) ∘ fun m : String × Value => (m.1, m.2.reread)) =
      fun m => m.1 == name := rfl
  rw [Value.reread, rereadMembers_eq, Value.get?, Value.get?, ← List.map_reverse, List.find?_map, hsame,
    Option.map_map, Option.map_map]
  rfl

/-- The doubles of a member are doubles of the object. -/
theorem mem_floats_of_get? {name : String} {members : List (String × Value)} {v : Value}
    (h : (Value.object members).get? name = some v) {x : Float} (hx : x ∈ v.floats) :
    x ∈ (Value.object members).floats := by
  obtain ⟨m, hfound, rfl⟩ := Option.map_eq_some_iff.1 h
  have hmem : m ∈ members := List.mem_reverse.1 (List.mem_of_find?_eq_some hfound)
  rw [Value.floats, memberFloats_eq]
  exact List.mem_flatMap.2 ⟨m, hmem, hx⟩

/-- A value without doubles is itself what is read back. -/
theorem Plain.reread_eq {depth : Nat} {v : Value} (h : Plain depth v) : v.reread = v := by
  induction h with
  | array depth elements _ ih =>
      rw [Value.reread, rereadElements_eq, List.map_congr_left ih, List.map_id']
  | object depth members _ ih =>
      have hsame : ∀ m ∈ members, (m.1, m.2.reread) = m := fun m hm => by rw [ih m hm]
      rw [Value.reread, rereadMembers_eq, List.map_congr_left hsame, List.map_id']
  | _ => rfl

/-- What is accepted is read as something. -/
theorem Legible.toOption_parse {x : Float} (h : Legible x) :
    (Value.parse (Value.float x).compact).toOption = some (Value.float x).reread := by
  unfold Legible at h
  show _ = some ((Value.parse (Value.float x).compact).toOption.getD .null)
  cases hparse : Value.parse (Value.float x).compact with
  | ok v => rfl
  | error f =>
      rw [hparse] at h
      cases h

/-! ## Literals -/

/-- What a text of its own is read as, if it is that of a literal. -/
theorem Literal.value?_eq_parse (l : Literal) :
    l.value? = (Value.parse (String.ofList l.text)).toOption := by
  have hend : Ends [] := trivial
  have hread := l.valueFrom_text nestingLimit hend
  rw [List.append_nil] at hread
  rw [Value.parse, whole, String.toList_ofList, toOption_bind, hread]
  cases l.value? <;> rfl

/-- A literal with the text of a plain value stands for this value. -/
theorem Literal.value?_of_plain {l : Literal} {depth : Nat} {v : Value} (h : Plain depth v)
    (hdepth : depth < nestingLimit) (htext : l.text = v.text) : l.value? = some v := by
  rw [l.value?_eq_parse, htext]
  exact congrArg Except.toOption (Value.parse_compact h hdepth)

/-- A character is written as one piece of a string literal. -/
theorem exists_glyph (c : Char) : ∃ g : Glyph, g.text = escapeChar c := by
  unfold escapeChar
  split
  · exact ⟨.letter '"' rfl, rfl⟩
  split
  · exact ⟨.letter '\\' rfl, rfl⟩
  split
  · next hcontrol =>
      split
      · exact ⟨.letter 'b' rfl, rfl⟩
      · exact ⟨.letter 't' rfl, rfl⟩
      · exact ⟨.letter 'n' rfl, rfl⟩
      · exact ⟨.letter 'f' rfl, rfl⟩
      · exact ⟨.letter 'r' rfl, rfl⟩
      · exact ⟨.digits _ _ _ _ (hexFour_hexDigit c.toNat hcontrol ▸ rfl), rfl⟩
  · next hquote hbackslash hcontrol => exact ⟨.plain c ⟨hquote, hbackslash, hcontrol⟩, rfl⟩

/-- A string is written as a string literal. -/
theorem exists_glyphs (s : String) : ∃ glyphs, '"' :: closedText glyphs = stringText s := by
  have hpieces (cs : List Char) : ∃ glyphs : List Glyph, glyphs.flatMap Glyph.text = cs.flatMap escapeChar := by
    induction cs with
    | nil => exact ⟨[], rfl⟩
    | cons c cs ih =>
        obtain ⟨g, hg⟩ := exists_glyph c
        obtain ⟨glyphs, hglyphs⟩ := ih
        exact ⟨g :: glyphs, by rw [List.flatMap_cons, List.flatMap_cons, hg, hglyphs]⟩
  obtain ⟨glyphs, hglyphs⟩ := hpieces s.toList
  exact ⟨glyphs, by rw [closedText, hglyphs, stringText]⟩

/-- The string that is written is the one that its literal stands for. -/
theorem stringOf?_of_text {glyphs : List Glyph} {s : String} (h : '"' :: closedText glyphs = stringText s) :
    stringOf? glyphs = some s := by
  have hread := string_stringText s []
  rw [List.append_nil] at hread
  rw [stringOf?, found?, List.tail_eq_of_cons_eq h, hread]
  rfl

theorem whole_natDigits (n : Nat) : Whole (natDigits n) := by
  by_cases hn : n = 0
  · subst hn
    exact whole_zero
  · have hwhole := whole_take hn (natDigits_ne_nil n ∘ List.length_eq_zero_iff.1)
    rwa [List.take_length] at hwhole

/-- A value without parts is written the same in both layouts. -/
theorem Plain.text_eq {v : Value} (h : Plain 0 v) (level : Nat) : v.text = v.indentedText level := by
  cases h with
  | bool _ b => cases b <;> rfl
  | _ => rfl

/-- A plain value without parts is written as a literal. -/
theorem Plain.literal {v : Value} (h : Plain 0 v) : ∃ l : Literal, l.text = v.text := by
  have hinteger (negative : Bool) (n : Nat) :
      ∃ m : Numeral, m.negative = negative ∧ m.unsigned = natDigits n := by
    obtain ⟨m, hnegative, hfraction, hexponent, htext⟩ :=
      exists_numeral negative (whole_natDigits n) none none
    refine ⟨m, hnegative, ?_⟩
    simp [Numeral.unsigned, Numeral.tail, Numeral.scale, hfraction, hexponent, htext]
  cases h with
  | null => exact ⟨.null, rfl⟩
  | bool _ b => exact ⟨.bool b, by cases b <;> rfl⟩
  | natural _ n _ =>
      obtain ⟨m, hnegative, htext⟩ := hinteger false n
      exact ⟨.number m, by rw [Literal.text, Numeral.text, hnegative, htext]; rfl⟩
  | negative _ n _ =>
      obtain ⟨m, hnegative, htext⟩ := hinteger true (n + 1)
      exact ⟨.number m, by rw [Literal.text, Numeral.text, hnegative, htext]; rfl⟩
  | string _ s =>
      obtain ⟨glyphs, hglyphs⟩ := exists_glyphs s
      exact ⟨.string glyphs, hglyphs⟩

/-! ## Values spelled out in lines -/

/-- Values that are at most so deep, with integers of sixty-four bits. -/
inductive Within : Nat → Value → Prop
  | scalar {depth : Nat} {v : Value} (h : Plain 0 v) : Within depth v
  | float (depth : Nat) (x : Float) : Within depth (.float x)
  | array {depth : Nat} {elements : List Value} (h : ∀ v ∈ elements, Within depth v) :
      Within (depth + 1) (.array elements)
  | object {depth : Nat} {members : List (String × Value)} (h : ∀ m ∈ members, Within depth m.2) :
      Within (depth + 1) (.object members)

theorem Plain.within {depth : Nat} {v : Value} (h : Plain depth v) : Within depth v := by
  induction h with
  | null => exact .scalar (.null 0)
  | bool _ b => exact .scalar (.bool 0 b)
  | natural _ n hn => exact .scalar (.natural 0 n hn)
  | negative _ n hn => exact .scalar (.negative 0 n hn)
  | string _ s => exact .scalar (.string 0 s)
  | array _ _ _ ih => exact .array ih
  | object _ _ _ ih => exact .object ih

/-- What is so deep at most is no deeper than more. -/
theorem Within.mono {depth more : Nat} {v : Value} (h : Within depth v) (hle : depth ≤ more) :
    Within more v := by
  induction h generalizing more with
  | scalar h => exact .scalar h
  | float _ x => exact .float more x
  | array _ ih =>
      obtain ⟨more, rfl⟩ : ∃ n, more = n + 1 := ⟨more - 1, by omega⟩
      exact .array fun v hv => ih v hv (by omega)
  | object _ ih =>
      obtain ⟨more, rfl⟩ : ∃ n, more = n + 1 := ⟨more - 1, by omega⟩
      exact .object fun m hm => ih m hm (by omega)

/-- A list is written one level deeper than its elements. -/
theorem Within.ofList {α : Type} {depth : Nat} {write : α → Value} (h : ∀ a, Within depth (write a))
    (as : List α) : Within (depth + 1) (Value.ofList write as) :=
  .array (List.forall_mem_map.2 fun a _ => h a)

/-- A record is written one level deeper than its members. -/
theorem Within.record {σ : Type} (r : Record σ) {depth : Nat} {a : σ}
    (h : ∀ m ∈ r.members, ∀ v ∈ m.write a, Within depth v) : Within (depth + 1) (r.toValue a) := by
  refine .object ?_
  rintro ⟨name, v⟩ hmem
  obtain ⟨m, hm, hwritten⟩ := List.mem_filterMap.1 hmem
  obtain ⟨_, hv, ⟨⟩⟩ := Option.map_eq_some_iff.1 hwritten
  exact h m hm v hv

/-- A member that is left out where it has no value writes what it has. -/
theorem Within.sparse {α σ : Type} [Form α] {depth : Nat} (h : ∀ x : α, Within depth (Form.toValue x))
    (name : String) (get : σ → Option α) (set : σ → Option α → σ) (a : σ) :
    ∀ v ∈ (Member.sparse name get set).write a, Within depth v := by
  intro v hv
  obtain ⟨x, -, rfl⟩ := Option.map_eq_some_iff.1 hv
  exact h x

theorem within_uint32 {depth : Nat} (n : UInt32) : Within depth (Form.toValue n) :=
  .scalar (faithful_uint32 n).plain

theorem within_uint64 {depth : Nat} (n : UInt64) : Within depth (Form.toValue n) :=
  .scalar (faithful_uint64 n).plain

theorem within_float {depth : Nat} (x : Float) : Within depth (Form.toValue x) := .float depth x

theorem blanks_lineBreak (level : Nat) : Blanks (lineBreak level) := by
  intro c hc
  rcases List.mem_cons.1 hc with rfl | hc
  · rfl
  · rw [List.eq_of_mem_replicate hc]
    rfl

theorem blanks_space : Blanks [' '] := List.forall_mem_singleton.2 rfl

/-- A value that is spelled out on lines of its own, and that is read back as it is expected. -/
def Spelled (level levels : Nat) (v : Value) : Prop :=
  ∃ t : Tree, t.Spells (v.indentedText level) ∧ t.value? levels = some v.reread

/-- Further elements, each behind a comma and on a line of its own. -/
theorem elementsSpell_indented {level levels : Nat} {elements : List Value}
    (h : ∀ v ∈ elements, Spelled level levels v) {gap : List Char} (hgap : Blanks gap) :
    ∃ trees, ElementsSpell false trees (indentedElements level elements ++ gap) ∧
      elementValues? levels trees = some (rereadElements elements) := by
  induction elements with
  | nil => exact ⟨[], .nil hgap, rfl⟩
  | cons v rest ih =>
      rw [List.forall_mem_cons] at h
      obtain ⟨t, htext, hvalue⟩ := h.1
      obtain ⟨trees, hmore, hvalues⟩ := ih h.2
      refine ⟨t :: trees, ?_, ?_⟩
      · have hspells : ElementsSpell false _ _ := .cons blanks_nil (blanks_lineBreak level) htext hmore
        simpa [indentedElements, comma] using hspells
      · rw [elementValues?, hvalue, hvalues]
        rfl

/-- Further members, each behind a comma and on a line of its own. -/
theorem membersSpell_indented {level levels : Nat} {members : List (String × Value)}
    (h : ∀ m ∈ members, Spelled level levels m.2) {gap : List Char} (hgap : Blanks gap) :
    ∃ trees, MembersSpell false trees (indentedMembers level members ++ gap) ∧
      memberValues? levels trees = some (rereadMembers members) := by
  induction members with
  | nil => exact ⟨[], .nil hgap, rfl⟩
  | cons m rest ih =>
      obtain ⟨name, v⟩ := m
      rw [List.forall_mem_cons] at h
      obtain ⟨t, htext, hvalue⟩ := h.1
      obtain ⟨trees, hmore, hvalues⟩ := ih h.2
      obtain ⟨glyphs, hglyphs⟩ := exists_glyphs name
      refine ⟨(glyphs, t) :: trees, ?_, ?_⟩
      · have hspells : MembersSpell false ((glyphs, t) :: trees) _ :=
          .cons blanks_nil (blanks_lineBreak level) blanks_nil blanks_space htext hmore
        simpa [indentedMembers, comma, ← hglyphs] using hspells
      · rw [memberValues?, stringOf?_of_text hglyphs, hvalue, hvalues]
        rfl

/-- **The indented layout of a value spells out a tree** that stands for what is read back of the value,
    provided that its doubles are accepted. -/
theorem Within.spelled {depth : Nat} {v : Value} (h : Within depth v) (hfloats : ∀ x ∈ v.floats, Legible x)
    (level : Nat) {levels : Nat} (hlevels : depth < levels) : Spelled level levels v := by
  induction h generalizing level levels with
  | scalar h =>
      obtain ⟨l, htext⟩ := h.literal
      have hvalue := Literal.value?_of_plain h (by decide) htext
      refine ⟨.scalar l, ?_, ?_⟩
      · have hindented : l.text = _ := htext.trans (h.text_eq level)
        exact hindented ▸ .scalar l
      · rw [Tree.value?, hvalue, h.reread_eq]
  | float depth x =>
      obtain ⟨l, htext, -⟩ := floatText_literal x
      have haccepted : Legible x := hfloats x List.mem_cons_self
      refine ⟨.scalar l, ?_, ?_⟩
      · show Tree.Spells _ (floatText x)
        exact htext ▸ .scalar l
      · have hvalue : l.value? = (Value.parse (Value.float x).compact).toOption := by
          rw [l.value?_eq_parse, htext]
          rfl
        rw [Tree.value?, hvalue, haccepted.toOption_parse]
  | @array depth elements _ ih =>
      -- The reader enters an array with two levels left at least, and its elements have one of them less.
      obtain ⟨levels, rfl⟩ : ∃ n, levels = n + 2 := ⟨levels - 2, by omega⟩
      have hspelled : ∀ v ∈ elements, Spelled (level + 1) (levels + 1) v := by
        intro v hv
        refine ih v hv (fun x hx => hfloats x ?_) (level + 1) (by omega)
        rw [Value.floats, elementFloats_eq]
        exact List.mem_flatMap.2 ⟨v, hv, hx⟩
      cases elements with
      | nil => exact ⟨.array [], .array (.nil blanks_nil), rfl⟩
      | cons v rest =>
          rw [List.forall_mem_cons] at hspelled
          obtain ⟨t, htext, hvalue⟩ := hspelled.1
          obtain ⟨trees, hmore, hvalues⟩ := elementsSpell_indented hspelled.2 (blanks_lineBreak level)
          refine ⟨.array (t :: trees), ?_, ?_⟩
          · have hspells : (Tree.array (t :: trees)).Spells _ :=
              .array (.cons (blanks_lineBreak (level + 1)) blanks_nil htext hmore)
            simpa [Value.indentedText, comma] using hspells
          · rw [Tree.value?, elementValues?, hvalue, hvalues]
            rfl
  | @object depth members _ ih =>
      obtain ⟨levels, rfl⟩ : ∃ n, levels = n + 2 := ⟨levels - 2, by omega⟩
      have hspelled : ∀ m ∈ members, Spelled (level + 1) (levels + 1) m.2 := by
        intro m hm
        refine ih m hm (fun x hx => hfloats x ?_) (level + 1) (by omega)
        rw [Value.floats, memberFloats_eq]
        exact List.mem_flatMap.2 ⟨m, hm, hx⟩
      cases members with
      | nil => exact ⟨.object [], .object (.nil blanks_nil), rfl⟩
      | cons m rest =>
          obtain ⟨name, v⟩ := m
          rw [List.forall_mem_cons] at hspelled
          obtain ⟨t, htext, hvalue⟩ := hspelled.1
          obtain ⟨trees, hmore, hvalues⟩ := membersSpell_indented hspelled.2 (blanks_lineBreak level)
          obtain ⟨glyphs, hglyphs⟩ := exists_glyphs name
          refine ⟨.object ((glyphs, t) :: trees), ?_, ?_⟩
          · have hspells : (Tree.object ((glyphs, t) :: trees)).Spells _ :=
              .object (.cons (blanks_lineBreak (level + 1)) blanks_nil blanks_nil blanks_space htext hmore)
            simpa [Value.indentedText, comma, ← hglyphs] using hspells
          · rw [Tree.value?, memberValues?, stringOf?_of_text hglyphs, hvalue, hvalues]
            rfl

/-- **A value is read back in its indented layout,** its doubles as they are read from their texts. -/
theorem Value.parse_indented {depth : Nat} {v : Value} (h : Within depth v) (hdepth : depth < nestingLimit)
    (hfloats : ∀ x ∈ v.floats, Legible x) : Value.parse v.indented = .ok v.reread := by
  obtain ⟨t, htext, hvalue⟩ := h.spelled hfloats 0 hdepth
  have hread := valueFrom_spells htext nestingLimit [] trivial
  rw [List.append_nil, hvalue, Option.map_some, toOption_eq_some_iff] at hread
  rw [Value.parse, whole, Value.indented, String.toList_ofList, hread]
  rfl

/-- **A double that is accepted is read back as null exactly if it is no number.** -/
theorem reread_float_eq_null_iff {x : Float} (h : Legible x) :
    (Value.float x).reread = .null ↔ ¬x.isFinite = true := by
  obtain ⟨l, htext, hfinite, hnull⟩ := floatText_literal x
  have hvalue : l.value? = some (Value.float x).reread := by
    rw [l.value?_eq_parse, htext, ← h.toOption_parse]
    rfl
  constructor
  · intro hreread hx
    obtain ⟨n, rfl⟩ := hfinite hx
    rw [hreread] at hvalue
    obtain ⟨_, -, hnumber⟩ := Option.map_eq_some_iff.1 hvalue
    cases hnumber
  · intro hx
    rw [hnull hx] at hvalue
    exact (Option.some.inj hvalue).symm

end NetGauge.Json
