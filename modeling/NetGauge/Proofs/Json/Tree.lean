import NetGauge.Proofs.Json.Literal

set_option autoImplicit false

/-! # Texts of values

The grammar of JSON: a tree of literals, arrays and objects, spelled out with any blanks between its
parts (`Tree.Spells`). Whatever the tree, the reader that nobody asked passes over its text to the end
(`skipValue_spells`), while the reader of values comes to what the tree stands for, or refuses it
(`valueFrom_spells`). -/

namespace NetGauge.Json

/-- The parts of a value as they are written, without the blanks between them. -/
inductive Tree where
  | scalar (literal : Literal)
  | array (elements : List Tree)
  | object (members : List (List Glyph × Tree))

/-- The comma before a part that is not the first. -/
def comma (first : Bool) : List Char := if first then [] else [',']

mutual

/-- A tree spelled out. -/
inductive Tree.Spells : Tree → List Char → Prop
  | scalar (l : Literal) : Tree.Spells (.scalar l) l.text
  | array {elements : List Tree} {inside : List Char} (h : ElementsSpell true elements inside) :
      Tree.Spells (.array elements) ('[' :: (inside ++ [']']))
  | object {members : List (List Glyph × Tree)} {inside : List Char}
      (h : MembersSpell true members inside) :
      Tree.Spells (.object members) ('{' :: (inside ++ ['}']))

/-- Elements spelled out, behind the opening bracket or behind an earlier element. -/
inductive ElementsSpell : Bool → List Tree → List Char → Prop
  | nil {first : Bool} {gap : List Char} (hgap : Blanks gap) : ElementsSpell first [] gap
  | cons {first : Bool} {t : Tree} {elements : List Tree} {gap before text more : List Char}
      (hgap : Blanks gap) (hbefore : Blanks before) (h : Tree.Spells t text)
      (hmore : ElementsSpell false elements more) :
      ElementsSpell first (t :: elements) (gap ++ (comma first ++ (before ++ (text ++ more))))

/-- Members spelled out, behind the opening brace or behind an earlier member. -/
inductive MembersSpell : Bool → List (List Glyph × Tree) → List Char → Prop
  | nil {first : Bool} {gap : List Char} (hgap : Blanks gap) : MembersSpell first [] gap
  | cons {first : Bool} {name : List Glyph} {t : Tree} {members : List (List Glyph × Tree)}
      {gap before colon after text more : List Char} (hgap : Blanks gap) (hbefore : Blanks before)
      (hcolon : Blanks colon) (hafter : Blanks after) (h : Tree.Spells t text)
      (hmore : MembersSpell false members more) :
      MembersSpell first ((name, t) :: members) (gap ++ (comma first ++ (before ++
        ('"' :: (closedText name ++ (colon ++ (':' :: (after ++ (text ++ more)))))))))

end

/-- Members are spelled out one by one, so what holds of each with those behind it holds of all. -/
@[elab_as_elim]
theorem MembersSpell.induct
    {motive : ∀ (first : Bool) (members : List (List Glyph × Tree)) (inside : List Char),
      MembersSpell first members inside → Prop}
    (nil : ∀ first gap (hgap : Blanks gap), motive first [] gap (.nil hgap))
    (cons : ∀ first name t members gap before colon after text more (hgap : Blanks gap)
      (hbefore : Blanks before) (hcolon : Blanks colon) (hafter : Blanks after)
      (h : Tree.Spells t text) (hmore : MembersSpell false members more),
      motive false members more hmore →
        motive first ((name, t) :: members) _ (.cons hgap hbefore hcolon hafter h hmore))
    {first : Bool} {members : List (List Glyph × Tree)} {inside : List Char} :
    ∀ h : MembersSpell first members inside, motive first members inside h
  | .nil hgap => nil _ _ hgap
  | .cons hgap hbefore hcolon hafter h hmore =>
    cons _ _ _ _ _ _ _ _ _ _ hgap hbefore hcolon hafter h hmore (hmore.induct nil cons)

/-! ## Texts without blanks -/

mutual

/-- The parts of a tree one behind the other. -/
def Tree.text : Tree → List Char
  | .scalar l => l.text
  | .array elements => '[' :: (Tree.elementsText true elements ++ [']'])
  | .object members => '{' :: (Tree.membersText true members ++ ['}'])

def Tree.elementsText : Bool → List Tree → List Char
  | _, [] => []
  | first, t :: elements => comma first ++ (t.text ++ Tree.elementsText false elements)

def Tree.membersText : Bool → List (List Glyph × Tree) → List Char
  | _, [] => []
  | first, (name, t) :: members =>
    comma first ++ ('"' :: (closedText name ++ (':' :: (t.text ++ Tree.membersText false members))))

end

mutual

theorem Tree.spells_text : ∀ t : Tree, t.Spells t.text
  | .scalar l => .scalar l
  | .array elements => .array (elementsSpell_text true elements)
  | .object members => .object (membersSpell_text true members)

theorem elementsSpell_text : ∀ (first : Bool) (elements : List Tree),
    ElementsSpell first elements (Tree.elementsText first elements)
  | _, [] => .nil blanks_nil
  | _, t :: elements =>
    .cons blanks_nil blanks_nil t.spells_text (elementsSpell_text false elements)

theorem membersSpell_text : ∀ (first : Bool) (members : List (List Glyph × Tree)),
    MembersSpell first members (Tree.membersText first members)
  | _, [] => .nil blanks_nil
  | _, (_, t) :: members =>
    .cons blanks_nil blanks_nil blanks_nil blanks_nil t.spells_text (membersSpell_text false members)

end

/-! ## Where parts begin and end -/

theorem Tree.Spells.begins {t : Tree} {text : List Char} (h : t.Spells text) :
    ∃ c more, text = c :: more ∧ BeginsValue c := by
  cases h with
  | scalar l => exact l.text_begins
  | array h => exact ⟨'[', _, rfl, rfl, by decide⟩
  | object h => exact ⟨'{', _, rfl, rfl, by decide⟩

theorem Tree.Spells.skipSpace_append {t : Tree} {text : List Char} (h : t.Spells text)
    (rest : List Char) : skipSpace (text ++ rest) = text ++ rest := by
  obtain ⟨c, more, rfl, hspace, -⟩ := h.begins
  exact skipSpace_cons _ hspace

theorem ElementsSpell.ends {elements : List Tree} {text : List Char}
    (h : ElementsSpell false elements text) (rest : List Char) : Ends (text ++ ']' :: rest) := by
  cases h with
  | nil hgap => exact .of_blanks hgap (.inr (.inr (.inl rfl)))
  | cons hgap =>
      rw [List.append_assoc]
      exact .of_blanks hgap (.inr (.inl rfl))

theorem MembersSpell.ends {members : List (List Glyph × Tree)} {text : List Char}
    (h : MembersSpell false members text) (rest : List Char) : Ends (text ++ '}' :: rest) := by
  cases h with
  | nil hgap => exact .of_blanks hgap (.inr (.inr (.inr rfl)))
  | cons hgap =>
      rw [List.append_assoc]
      exact .of_blanks hgap (.inr (.inl rfl))

/-- What stands behind the elements stands behind each of them. -/
theorem element_append (first : Bool) (gap before : List Char) (c : Char) (tail more behind : List Char) :
    gap ++ (comma first ++ (before ++ (c :: tail ++ more))) ++ behind =
      gap ++ (comma first ++ (before ++ c :: (tail ++ (more ++ behind)))) := by
  simp

/-- What stands behind the members stands behind each of them. -/
theorem member_append (first : Bool) (gap before : List Char) (name : List Glyph)
    (colon after text more behind : List Char) :
    gap ++ (comma first ++ (before ++ ('"' :: (closedText name ++ (colon ++ (':' :: (after ++
        (text ++ more)))))))) ++ behind =
      gap ++ (comma first ++ (before ++ '"' :: (closedText name ++ (colon ++ ':' :: (after ++
        (text ++ (more ++ behind))))))) := by
  simp

/-! ## Passing over a text -/

/-- The way on behind a part: out of the brackets that close here, and over the next value if there is
    one. -/
def onward (afterPart : Bool) (fuel : Nat) (brackets : List Bracket) (text : List Char) :
    Except Fault (List Char) := do
  let (brackets, rest) ← closeBrackets afterPart brackets text
  match brackets with
  | [] => return rest
  | .list :: _ => skipFrom fuel brackets rest
  | .object :: _ => skipFrom fuel brackets (← skipKey rest)

theorem skipFrom_scalar {fuel : Nat} {brackets : List Bracket} {text rest : List Char}
    (h : skipPart text = .ok (none, rest)) :
    skipFrom (fuel + 1) brackets text = onward true fuel brackets rest := by
  rw [skipFrom, h]
  rfl

theorem skipFrom_bracket {fuel : Nat} {brackets : List Bracket} {text rest : List Char} {b : Bracket}
    (h : skipPart text = .ok (some b, rest)) :
    skipFrom (fuel + 1) brackets text = onward false fuel (b :: brackets) rest := by
  rw [skipFrom, h]
  rfl

/-- Blanks before a value make no difference. -/
theorem skipFrom_congr {text other : List Char} (h : skipSpace text = skipSpace other) (fuel : Nat)
    (brackets : List Bracket) :
    skipFrom (fuel + 1) brackets text = skipFrom (fuel + 1) brackets other := by
  have hpart : skipPart text = skipPart other := by rw [skipPart, h, skipPart]
  rw [skipFrom, hpart, skipFrom]

/-- What closes the innermost bracket closes it also behind blanks. -/
theorem onward_close (afterPart : Bool) (fuel : Nat) (b : Bracket) (outer : List Bracket)
    {gap : List Char} (hgap : Blanks gap) (rest : List Char) :
    onward afterPart fuel (b :: outer) (gap ++ b.close :: rest) = onward true fuel outer rest := by
  have hclose : closeBrackets afterPart (b :: outer) (gap ++ b.close :: rest) =
      closeBrackets true outer rest := by
    rw [closeBrackets, skipSpace_blanks hgap]
    cases b <;> cases afterPart <;> rfl
  rw [onward, hclose, onward]

/-- A next part stays inside the innermost bracket. -/
theorem closeBrackets_part (first : Bool) (b : Bracket) (outer : List Bracket)
    {gap before : List Char} (hgap : Blanks gap) (hbefore : Blanks before) {c : Char}
    (hspace : isSpace c = false) (hclose : c ≠ b.close) (rest : List Char) :
    ∃ text, closeBrackets (!first) (b :: outer) (gap ++ (comma first ++ (before ++ c :: rest))) =
      .ok (b :: outer, text) ∧ skipSpace text = c :: rest := by
  have hskip : skipSpace (before ++ c :: rest) = c :: rest := by
    rw [skipSpace_blanks hbefore, skipSpace_cons _ hspace]
  cases first with
  | true =>
      refine ⟨c :: rest, ?_, skipSpace_cons rest hspace⟩
      have htext : gap ++ (comma true ++ (before ++ c :: rest)) = gap ++ (before ++ c :: rest) := rfl
      rw [htext, closeBrackets, skipSpace_blanks hgap, hskip]
      simp [hclose]
  | false =>
      refine ⟨before ++ c :: rest, ?_, hskip⟩
      rw [closeBrackets, skipSpace_blanks hgap]
      rfl

theorem afterKey_colon_blanks {colon : List Char} (h : Blanks colon) (rest : List Char) :
    afterKey (colon ++ ':' :: rest) = .ok rest := by
  rw [afterKey, skipSpace_blanks h]
  rfl

/-- A name and its colon are passed over. -/
theorem skipKey_closedText {text colon rest : List Char} {name : List Glyph} (hcolon : Blanks colon)
    (h : skipSpace text = '"' :: (closedText name ++ (colon ++ ':' :: rest))) :
    skipKey text = .ok rest := by
  rw [skipKey, h]
  show (skipString (closedText name ++ (colon ++ ':' :: rest)) >>= afterKey) = _
  rw [skipString_closedText]
  exact afterKey_colon_blanks hcolon rest

mutual

theorem Tree.Spells.passes {t : Tree} {text : List Char} :
    t.Spells text → ∃ steps, 0 < steps ∧ steps ≤ text.length ∧
      ∀ fuel brackets rest, Ends rest →
        skipFrom (fuel + steps) brackets (text ++ rest) = onward true fuel brackets rest
  | .scalar l => by
      obtain ⟨c, more, htext, -⟩ := l.text_begins
      refine ⟨1, Nat.one_pos, by simp [htext], fun fuel brackets rest hrest => ?_⟩
      exact skipFrom_scalar (l.skipPart_text hrest)
  | .array h => by
      obtain ⟨steps, hsteps, hpass⟩ := h.passes
      refine ⟨steps + 1, Nat.succ_pos _, by simp; omega, fun fuel brackets rest hrest => ?_⟩
      rw [← Nat.add_assoc, skipFrom_bracket rfl, ← hpass fuel brackets rest]
      simp
  | .object h => by
      obtain ⟨steps, hsteps, hpass⟩ := h.passes
      refine ⟨steps + 1, Nat.succ_pos _, by simp; omega, fun fuel brackets rest hrest => ?_⟩
      rw [← Nat.add_assoc, skipFrom_bracket rfl, ← hpass fuel brackets rest]
      simp

theorem ElementsSpell.passes {first : Bool} {elements : List Tree} {inside : List Char} :
    ElementsSpell first elements inside → ∃ steps ≤ inside.length,
      ∀ fuel outer rest,
        onward (!first) (fuel + steps) (.list :: outer) (inside ++ ']' :: rest) =
          onward true fuel outer rest
  | .nil hgap => ⟨0, Nat.zero_le _, fun fuel outer rest => onward_close _ fuel .list outer hgap rest⟩
  | @ElementsSpell.cons _ _ _ gap before text more hgap hbefore h hmore => by
      obtain ⟨steps, hpositive, hsteps, hpass⟩ := h.passes
      obtain ⟨later, hlater, hpassMore⟩ := hmore.passes
      refine ⟨later + steps, by simp; omega, fun fuel outer rest => ?_⟩
      obtain ⟨c, tail, htext, hspace, hclose⟩ := h.begins
      obtain ⟨part, hpart, hskip⟩ := closeBrackets_part first .list outer hgap hbefore hspace hclose
        (tail ++ (more ++ ']' :: rest))
      have hvalue : skipFrom (fuel + later + steps) (.list :: outer) part =
          skipFrom (fuel + later + steps) (.list :: outer) (text ++ (more ++ ']' :: rest)) := by
        obtain ⟨steps, rfl⟩ : ∃ n, steps = n + 1 := ⟨steps - 1, by omega⟩
        refine skipFrom_congr ?_ _ _
        rw [hskip, h.skipSpace_append, htext]
        rfl
      rw [htext, element_append, onward, hpart, ← Nat.add_assoc]
      show skipFrom (fuel + later + steps) (.list :: outer) part = _
      rw [hvalue, hpass _ _ _ (hmore.ends rest)]
      exact hpassMore fuel outer rest

theorem MembersSpell.passes {first : Bool} {members : List (List Glyph × Tree)} {inside : List Char} :
    MembersSpell first members inside → ∃ steps ≤ inside.length,
      ∀ fuel outer rest,
        onward (!first) (fuel + steps) (.object :: outer) (inside ++ '}' :: rest) =
          onward true fuel outer rest
  | .nil hgap => ⟨0, Nat.zero_le _, fun fuel outer rest => onward_close _ fuel .object outer hgap rest⟩
  | @MembersSpell.cons _ name _ _ gap before colon after text more hgap hbefore hcolon hafter h hmore => by
      obtain ⟨steps, hpositive, hsteps, hpass⟩ := h.passes
      obtain ⟨later, hlater, hpassMore⟩ := hmore.passes
      refine ⟨later + steps, by simp; omega, fun fuel outer rest => ?_⟩
      obtain ⟨part, hpart, hskip⟩ := closeBrackets_part first .object outer hgap hbefore
        (show isSpace '"' = false from rfl) (by decide)
        (closedText name ++ (colon ++ ':' :: (after ++ (text ++ (more ++ '}' :: rest)))))
      have hkey : skipKey part = .ok (after ++ (text ++ (more ++ '}' :: rest))) :=
        skipKey_closedText hcolon hskip
      have hvalue : skipFrom (fuel + later + steps) (.object :: outer)
            (after ++ (text ++ (more ++ '}' :: rest))) =
          skipFrom (fuel + later + steps) (.object :: outer) (text ++ (more ++ '}' :: rest)) := by
        obtain ⟨steps, rfl⟩ : ∃ n, steps = n + 1 := ⟨steps - 1, by omega⟩
        exact skipFrom_congr (skipSpace_blanks hafter _) _ _
      rw [member_append, onward, hpart, ← Nat.add_assoc]
      show (skipKey part >>= skipFrom (fuel + later + steps) (.object :: outer)) = _
      rw [hkey]
      exact hvalue.trans ((hpass _ _ _ (hmore.ends rest)).trans (hpassMore fuel outer rest))

end

/-- **Any value is passed over to its end.** -/
theorem skipValue_spells {t : Tree} {text before rest : List Char} (h : t.Spells text)
    (hbefore : Blanks before) (hrest : Ends rest) : skipValue (before ++ (text ++ rest)) = .ok rest := by
  obtain ⟨steps, hpositive, hsteps, hpass⟩ := h.passes
  let fuel := (before ++ (text ++ rest)).length + 1 - steps
  have hfuel : (before ++ (text ++ rest)).length + 1 = fuel + (steps - 1) + 1 := by
    simp only [fuel, List.length_append]
    omega
  rw [skipValue, hfuel, skipFrom_congr (skipSpace_blanks hbefore _), Nat.add_assoc,
    Nat.sub_add_cancel hpositive, hpass fuel [] rest hrest]
  rfl

/-! ## Reading a text -/

mutual

/-- What a tree stands for, with so many levels left. -/
def Tree.value? : Nat → Tree → Option Value
  | _, .scalar l => l.value?
  | levels + 2, .array elements => (elementValues? (levels + 1) elements).map .array
  | levels + 2, .object members => (memberValues? (levels + 1) members).map .object
  | _, _ => none

def elementValues? : Nat → List Tree → Option (List Value)
  | _, [] => some []
  | levels, t :: elements => do return (← t.value? levels) :: (← elementValues? levels elements)

def memberValues? : Nat → List (List Glyph × Tree) → Option (List (String × Value))
  | _, [] => some []
  | levels, (name, t) :: members => do
    return (← stringOf? name, ← t.value? levels) :: (← memberValues? levels members)

end

theorem valueFrom_blanks {before : List Char} (h : Blanks before) (levels : Nat) (text : List Char) :
    valueFrom levels (before ++ text) = valueFrom levels text := by
  rw [valueFrom.eq_def, valueFrom.eq_def levels text]
  dsimp only
  rw [skipSpace_blanks h]

theorem nextElement_end (first : Bool) {gap : List Char} (hgap : Blanks gap) (rest : List Char) :
    nextElement first (gap ++ ']' :: rest) = .ok (false, ']' :: rest) := by
  rw [nextElement, skipSpace_blanks hgap]
  rfl

theorem nextElement_part (first : Bool) {gap before : List Char} (hgap : Blanks gap)
    (hbefore : Blanks before) {c : Char} (hc : BeginsValue c) (rest : List Char) :
    nextElement first (gap ++ (comma first ++ (before ++ c :: rest))) = .ok (true, c :: rest) := by
  have hskip : skipSpace (before ++ c :: rest) = c :: rest := by
    rw [skipSpace_blanks hbefore, skipSpace_cons _ hc.1]
  have hcomma : skipSpace (',' :: (before ++ c :: rest)) = ',' :: (before ++ c :: rest) :=
    skipSpace_cons _ rfl
  rw [nextElement, skipSpace_blanks hgap]
  cases first <;> simp [comma, hskip, hcomma, hc.2]

theorem nextKey_end (first : Bool) {gap : List Char} (hgap : Blanks gap) (rest : List Char) :
    nextKey first (gap ++ '}' :: rest) = .ok (none, '}' :: rest) := by
  rw [nextKey, skipSpace_blanks hgap]
  rfl

theorem nextKey_name (first : Bool) {gap before : List Char} (hgap : Blanks gap)
    (hbefore : Blanks before) (name : List Glyph) (rest : List Char) :
    (nextKey first (gap ++ (comma first ++ (before ++ '"' :: (closedText name ++ rest))))).toOption =
      (stringOf? name).map (fun s => (some s, rest)) := by
  have hskip : skipSpace (before ++ '"' :: (closedText name ++ rest)) =
      '"' :: (closedText name ++ rest) := by
    rw [skipSpace_blanks hbefore, skipSpace_cons _ rfl]
  have hname : nextKey first (gap ++ (comma first ++ (before ++ '"' :: (closedText name ++ rest)))) =
      (string (closedText name ++ rest) >>= fun p => .ok (some p.1, p.2)) := by
    have hcomma : skipSpace (',' :: (before ++ '"' :: (closedText name ++ rest))) =
        ',' :: (before ++ '"' :: (closedText name ++ rest)) := skipSpace_cons _ rfl
    rw [nextKey, skipSpace_blanks hgap]
    cases first <;> simp [comma, hskip, hcomma] <;> rfl
  rw [hname, toOption_bind, string_closedText]
  cases stringOf? name <;> rfl

theorem ElementsSpell.length_le {first : Bool} {elements : List Tree} {inside : List Char} :
    ElementsSpell first elements inside → elements.length ≤ inside.length
  | .nil _ => Nat.zero_le _
  | .cons hgap hbefore h hmore => by
      obtain ⟨c, more, rfl, -⟩ := h.begins
      have := hmore.length_le
      simp
      omega

theorem MembersSpell.length_le {first : Bool} {members : List (List Glyph × Tree)}
    {inside : List Char} : MembersSpell first members inside → members.length ≤ inside.length
  | .nil _ => Nat.zero_le _
  | .cons hgap hbefore hcolon hafter h hmore => by
      have := hmore.length_le
      simp
      omega

mutual

/-- **A text is read as what its tree stands for,** or refused if it stands for nothing. -/
theorem valueFrom_spells {t : Tree} {text : List Char} : t.Spells text →
    ∀ levels rest, Ends rest →
      (valueFrom levels (text ++ rest)).toOption = (t.value? levels).map (fun v => (v, rest))
  | .scalar l => by
      intro levels rest hrest
      rw [Tree.value?]
      exact l.valueFrom_text levels hrest
  | @Tree.Spells.array elements inside h => by
      intro levels rest hrest
      have htext : '[' :: (inside ++ [']']) ++ rest = '[' :: (inside ++ ']' :: rest) := by simp
      have hlength := h.length_le
      rw [htext]
      match levels with
      | 0 | 1 =>
          rw [valueFrom.eq_def]
          rfl
      | levels + 2 =>
          have hread := elementsFrom_spells h (levels + 1) ((inside ++ ']' :: rest).length + 1) [] rest
            (by simp; omega)
          rw [valueFrom_bracket, toOption_bind, hread, Tree.value?]
          cases elementValues? (levels + 1) elements <;> rfl
  | @Tree.Spells.object members inside h => by
      intro levels rest hrest
      have htext : '{' :: (inside ++ ['}']) ++ rest = '{' :: (inside ++ '}' :: rest) := by simp
      have hlength := h.length_le
      rw [htext]
      match levels with
      | 0 | 1 =>
          rw [valueFrom.eq_def]
          rfl
      | levels + 2 =>
          have hread := membersFrom_spells h (levels + 1) ((inside ++ '}' :: rest).length + 1) [] rest
            (by simp; omega)
          rw [valueFrom_brace, toOption_bind, hread, Tree.value?]
          cases memberValues? (levels + 1) members <;> rfl

theorem elementsFrom_spells {first : Bool} {elements : List Tree} {inside : List Char} :
    ElementsSpell first elements inside → ∀ levels fuel done rest, elements.length < fuel →
      (elementsFrom (valueFrom levels) fuel first done (inside ++ ']' :: rest)).toOption =
        (elementValues? levels elements).map (fun vs => (done.reverse ++ vs, ']' :: rest))
  | .nil hgap => by
      intro levels fuel done rest hfuel
      obtain ⟨fuel, rfl⟩ : ∃ n, fuel = n + 1 := ⟨fuel - 1, by omega⟩
      rw [elementsFrom, nextElement_end _ hgap, elementValues?, Option.map_some, List.append_nil]
      rfl
  | @ElementsSpell.cons first t elements gap before text more hgap hbefore h hmore => by
      intro levels fuel done rest hfuel
      rw [List.length_cons] at hfuel
      obtain ⟨fuel, rfl⟩ : ∃ n, fuel = n + 1 := ⟨fuel - 1, by omega⟩
      obtain ⟨c, tail, htext, hc⟩ := h.begins
      have hpart := nextElement_part first hgap hbefore hc (tail ++ (more ++ ']' :: rest))
      have hvalue := valueFrom_spells h levels (more ++ ']' :: rest) (hmore.ends rest)
      rw [htext] at hvalue
      rw [htext, element_append, elementsFrom, hpart]
      show (valueFrom levels (c :: tail ++ (more ++ ']' :: rest)) >>=
        fun p => elementsFrom (valueFrom levels) fuel false (p.1 :: done) p.2).toOption = _
      rw [toOption_bind, hvalue, elementValues?]
      cases t.value? levels with
      | none => rfl
      | some v =>
          refine (elementsFrom_spells hmore levels fuel (v :: done) rest (by omega)).trans ?_
          cases elementValues? levels elements with
          | none => rfl
          | some vs => simp

theorem membersFrom_spells {first : Bool} {members : List (List Glyph × Tree)} {inside : List Char} :
    MembersSpell first members inside → ∀ levels fuel done rest, members.length < fuel →
      (membersFrom (valueFrom levels) fuel first done (inside ++ '}' :: rest)).toOption =
        (memberValues? levels members).map (fun vs => (done.reverse ++ vs, '}' :: rest))
  | .nil hgap => by
      intro levels fuel done rest hfuel
      obtain ⟨fuel, rfl⟩ : ∃ n, fuel = n + 1 := ⟨fuel - 1, by omega⟩
      rw [membersFrom, nextKey_end _ hgap, memberValues?, Option.map_some, List.append_nil]
      rfl
  | @MembersSpell.cons first name t members gap before colon after text more hgap hbefore hcolon hafter
      h hmore => by
      intro levels fuel done rest hfuel
      rw [List.length_cons] at hfuel
      obtain ⟨fuel, rfl⟩ : ∃ n, fuel = n + 1 := ⟨fuel - 1, by omega⟩
      have hkey := nextKey_name first hgap hbefore name
        (colon ++ ':' :: (after ++ (text ++ (more ++ '}' :: rest))))
      have hvalue := valueFrom_spells h levels (more ++ '}' :: rest) (hmore.ends rest)
      rw [member_append, membersFrom, toOption_bind, hkey, memberValues?]
      cases stringOf? name with
      | none => rfl
      | some s =>
          simp only [Option.map_some, Option.bind_some]
          show (afterKey (colon ++ ':' :: (after ++ (text ++ (more ++ '}' :: rest)))) >>= fun rest =>
            valueFrom levels rest >>= fun p =>
              membersFrom (valueFrom levels) fuel false ((s, p.1) :: done) p.2).toOption = _
          rw [afterKey_colon_blanks hcolon, toOption_bind, toOption_ok, Option.bind_some,
            valueFrom_blanks hafter, toOption_bind, hvalue]
          cases t.value? levels with
          | none => rfl
          | some v =>
              refine (membersFrom_spells hmore levels fuel ((s, v) :: done) rest (by omega)).trans ?_
              cases memberValues? levels members with
              | none => rfl
              | some vs => simp

end

end NetGauge.Json
