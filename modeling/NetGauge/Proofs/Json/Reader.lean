import NetGauge.Json.Reader
import NetGauge.Proofs.Json.Scan

set_option autoImplicit false

/-! # Reading back values

What the writer makes of a value is read back as this value, wherever it stands in a larger text and
as long as enough levels are left (`ReadsBack`). This holds of values without doubles whose integers
are within sixty-four bits (`Plain`): a double need not be read back as itself, and a greater integer is
read as a double. The steps inside arrays and objects are those of all other readers too, so what is
shown here of one step serves each of them. -/

namespace NetGauge.Json

/-! ## How a value begins -/

/-- A character that is no blank and closes no list. -/
def BeginsValue (c : Char) : Prop := isSpace c = false ∧ c ≠ ']'

theorem beginsValue_of_isDigit {c : Char} (h : isDigit c = true) : BeginsValue c := by
  refine ⟨?_, ?_⟩
  · rw [isSpace]
    simp only [Bool.or_eq_false_iff, decide_eq_false_iff_not]
    refine ⟨⟨⟨?_, ?_⟩, ?_⟩, ?_⟩ <;> (rintro rfl; cases h)
  · rintro rfl
    cases h

theorem Value.text_begins (v : Value) : ∃ c more, v.text = c :: more ∧ BeginsValue c := by
  cases v with
  | null => exact ⟨'n', _, rfl, rfl, by decide⟩
  | bool b => cases b <;> exact ⟨_, _, rfl, rfl, by decide⟩
  | string s => exact ⟨'"', _, rfl, rfl, by decide⟩
  | array elements => exact ⟨'[', _, rfl, rfl, by decide⟩
  | object members => exact ⟨'{', _, rfl, rfl, by decide⟩
  | number n =>
      obtain ⟨c, more, htext, hc⟩ := n.text_begins
      refine ⟨c, more, htext, ?_⟩
      rcases hc with hc | rfl | rfl
      · exact beginsValue_of_isDigit hc
      · exact ⟨rfl, by decide⟩
      · exact ⟨rfl, by decide⟩

theorem skipSpace_cons {c : Char} (rest : List Char) (h : isSpace c = false) :
    skipSpace (c :: rest) = c :: rest := by
  rw [skipSpace, List.dropWhile_cons_of_neg (by simp [h])]

theorem skipSpace_text (v : Value) (rest : List Char) : skipSpace (v.text ++ rest) = v.text ++ rest := by
  obtain ⟨c, more, htext, hspace, -⟩ := v.text_begins
  rw [htext, List.cons_append, skipSpace_cons _ hspace]

/-! ## The steps inside arrays -/

/-- Elements as they stand after the opening bracket, or after an earlier element. -/
def listText (first : Bool) (elements : List Value) : List Char :=
  if first then elementsText elements else moreElementsText elements

theorem afterValue_listText (elements : List Value) (rest : List Char) :
    AfterValue (listText false elements ++ rest) := by
  cases elements with
  | nil => exact .inr (.inl rfl)
  | cons v elements => exact .inl rfl

theorem nextElement_nil (first : Bool) (rest : List Char) :
    nextElement first (listText first [] ++ rest) = .ok (false, ']' :: rest) := by
  cases first <;> rfl

theorem nextElement_cons (first : Bool) (v : Value) (elements : List Value) (rest : List Char) :
    nextElement first (listText first (v :: elements) ++ rest) =
      .ok (true, v.text ++ (listText false elements ++ rest)) := by
  obtain ⟨c, more, htext, hspace, hclose⟩ := v.text_begins
  have hskip := skipSpace_cons (more ++ (moreElementsText elements ++ rest)) hspace
  cases first with
  | true =>
      have hlist : listText true (v :: elements) ++ rest =
          c :: (more ++ (moreElementsText elements ++ rest)) := by
        simp [listText, elementsText, htext]
      rw [hlist, nextElement, hskip, htext]
      simp [hclose, listText]
  | false =>
      have hlist : listText false (v :: elements) ++ rest =
          ',' :: c :: (more ++ (moreElementsText elements ++ rest)) := by
        simp [listText, moreElementsText, htext]
      rw [hlist, nextElement, skipSpace_cons _ rfl]
      simp [hskip, hclose, htext, listText]

theorem length_le_moreElementsText (elements : List Value) :
    elements.length ≤ (moreElementsText elements).length := by
  induction elements with
  | nil => exact Nat.zero_le _
  | cons v elements ih =>
      rw [moreElementsText, List.length_cons, List.length_cons, List.length_append]
      omega

/-- An element takes at least one character, so the length of the text is fuel enough. -/
theorem length_le_elementsText (elements : List Value) :
    elements.length ≤ (elementsText elements).length := by
  cases elements with
  | nil => exact Nat.zero_le _
  | cons v elements =>
      obtain ⟨c, more, htext, -⟩ := v.text_begins
      have hmore := length_le_moreElementsText elements
      rw [elementsText, htext, List.length_append, List.length_cons, List.length_cons]
      omega

/-- Elements that are read back one by one are read back together. -/
theorem elementsFrom_listText {α : Type} {one : List Char → Except Fault (α × List Char)}
    {write : α → Value} (as : List α) (first : Bool) (done : List α) (fuel : Nat) (rest : List Char)
    (hone : ∀ a ∈ as, ∀ rest, AfterValue rest → one ((write a).text ++ rest) = .ok (a, rest))
    (hfuel : as.length < fuel) :
    elementsFrom one fuel first done (listText first (as.map write) ++ rest) =
      .ok (done.reverse ++ as, ']' :: rest) := by
  induction as generalizing first done fuel with
  | nil =>
      cases fuel with
      | zero => exact absurd hfuel (Nat.not_lt_zero _)
      | succ fuel =>
          rw [List.map_nil, elementsFrom, nextElement_nil, List.append_nil]
          rfl
  | cons a as ih =>
      cases fuel with
      | zero => exact absurd hfuel (Nat.not_lt_zero _)
      | succ fuel =>
          have hread := hone a List.mem_cons_self _ (afterValue_listText (as.map write) rest)
          have hlater := ih false (a :: done) fuel
            (fun b hb => hone b (List.mem_cons_of_mem a hb)) (Nat.lt_of_succ_lt_succ hfuel)
          rw [List.reverse_cons, List.append_assoc, List.singleton_append] at hlater
          rw [List.map_cons, elementsFrom, nextElement_cons]
          show (one ((write a).text ++ _) >>= fun p => elementsFrom one fuel false (p.1 :: done) p.2) = _
          rw [hread]
          exact hlater

theorem elementsFrom_elementsText {α : Type} {one : List Char → Except Fault (α × List Char)}
    (write : α → Value) (as : List α) (rest : List Char)
    (hone : ∀ a ∈ as, ∀ rest, AfterValue rest → one ((write a).text ++ rest) = .ok (a, rest)) :
    elementsFrom one ((elementsText (as.map write) ++ rest).length + 1) true []
      (elementsText (as.map write) ++ rest) = .ok (as, ']' :: rest) := by
  refine elementsFrom_listText as true [] _ rest hone ?_
  have hlength := length_le_elementsText (as.map write)
  rw [List.length_map] at hlength
  rw [List.length_append]
  omega

/-! ## The steps inside objects -/

/-- Members as they stand after the opening brace, or after an earlier member. -/
def objectText (first : Bool) (members : List (String × Value)) : List Char :=
  if first then membersText members else moreMembersText members

theorem afterValue_objectText (members : List (String × Value)) (rest : List Char) :
    AfterValue (objectText false members ++ rest) := by
  cases members with
  | nil => exact .inr (.inr rfl)
  | cons m members => exact .inl rfl

theorem nextKey_nil (first : Bool) (rest : List Char) :
    nextKey first (objectText first [] ++ rest) = .ok (none, '}' :: rest) := by
  cases first <;> rfl

theorem nextKey_cons (first : Bool) (name : String) (v : Value) (members : List (String × Value))
    (rest : List Char) :
    nextKey first (objectText first ((name, v) :: members) ++ rest) =
      .ok (some name, ':' :: (v.text ++ (objectText false members ++ rest))) := by
  have hname := string_stringText name (':' :: (v.text ++ (moreMembersText members ++ rest)))
  cases first with
  | true =>
      have hobject : objectText true ((name, v) :: members) ++ rest =
          '"' :: (name.toList.flatMap escapeChar ++ ['"'] ++
            ':' :: (v.text ++ (moreMembersText members ++ rest))) := by
        simp [objectText, membersText, stringText]
      rw [hobject]
      show (string _ >>= fun p => .ok (some p.1, p.2)) = _
      rw [hname]
      rfl
  | false =>
      have hobject : objectText false ((name, v) :: members) ++ rest =
          ',' :: '"' :: (name.toList.flatMap escapeChar ++ ['"'] ++
            ':' :: (v.text ++ (moreMembersText members ++ rest))) := by
        simp [objectText, moreMembersText, stringText]
      rw [hobject]
      show (string _ >>= fun p => .ok (some p.1, p.2)) = _
      rw [hname]
      rfl

theorem afterKey_colon (rest : List Char) : afterKey (':' :: rest) = .ok rest := rfl

theorem length_le_moreMembersText (members : List (String × Value)) :
    members.length ≤ (moreMembersText members).length := by
  induction members with
  | nil => exact Nat.zero_le _
  | cons m members ih =>
      rw [moreMembersText, List.length_cons, List.length_cons, List.length_append,
        List.length_cons, List.length_append]
      omega

theorem length_le_membersText (members : List (String × Value)) :
    members.length ≤ (membersText members).length := by
  cases members with
  | nil => exact Nat.zero_le _
  | cons m members =>
      have hmore := length_le_moreMembersText members
      rw [membersText, List.length_append, List.length_cons, List.length_cons, List.length_append]
      omega

/-- Members whose values are read back one by one are read back together. -/
theorem membersFrom_objectText {one : List Char → Except Fault (Value × List Char)}
    (members : List (String × Value)) (first : Bool) (done : List (String × Value)) (fuel : Nat)
    (rest : List Char)
    (hone : ∀ m ∈ members, ∀ rest, AfterValue rest → one (m.2.text ++ rest) = .ok (m.2, rest))
    (hfuel : members.length < fuel) :
    membersFrom one fuel first done (objectText first members ++ rest) =
      .ok (done.reverse ++ members, '}' :: rest) := by
  induction members generalizing first done fuel with
  | nil =>
      cases fuel with
      | zero => exact absurd hfuel (Nat.not_lt_zero _)
      | succ fuel =>
          rw [membersFrom, nextKey_nil, List.append_nil]
          rfl
  | cons m members ih =>
      obtain ⟨name, v⟩ := m
      cases fuel with
      | zero => exact absurd hfuel (Nat.not_lt_zero _)
      | succ fuel =>
          have hread := hone (name, v) List.mem_cons_self _ (afterValue_objectText members rest)
          have hlater := ih false ((name, v) :: done) fuel
            (fun m hm => hone m (List.mem_cons_of_mem _ hm)) (Nat.lt_of_succ_lt_succ hfuel)
          rw [List.reverse_cons, List.append_assoc, List.singleton_append] at hlater
          rw [membersFrom, nextKey_cons]
          show (one (v.text ++ _) >>= fun p => membersFrom one fuel false ((name, p.1) :: done) p.2) = _
          rw [hread]
          exact hlater

/-! ## Values -/

/-- `read` finds `a` in the text of a value wherever it stands, if more than so many levels are left. -/
def ReadsBack {α : Type} (read : Nat → List Char → Except Fault (α × List Char)) (depth : Nat)
    (v : Value) (a : α) : Prop :=
  ∀ levels rest, depth < levels → AfterValue rest → read levels (v.text ++ rest) = .ok (a, rest)

/-- Values without doubles, with integers of sixty-four bits and at most so deep. -/
inductive Plain : Nat → Value → Prop
  | null (depth : Nat) : Plain depth .null
  | bool (depth : Nat) (b : Bool) : Plain depth (.bool b)
  | natural (depth n : Nat) (h : n ≤ wordMax) : Plain depth (.int n)
  | negative (depth n : Nat) (h : n < Nat.pow 2 63) : Plain depth (.int (.negSucc n))
  | string (depth : Nat) (s : String) : Plain depth (.string s)
  | array (depth : Nat) (elements : List Value) (h : ∀ v ∈ elements, Plain depth v) :
      Plain (depth + 1) (.array elements)
  | object (depth : Nat) (members : List (String × Value)) (h : ∀ m ∈ members, Plain depth m.2) :
      Plain (depth + 1) (.object members)

theorem valueFrom_digit (levels : Nat) {c : Char} (rest : List Char) (h : isDigit c = true) :
    valueFrom levels (c :: rest) =
      (do let (n, rest) ← numberFrom false (c :: rest); return (.number n, rest)) := by
  have hne : ∀ d, isDigit d = false → c ≠ d := by
    rintro d hd rfl
    rw [h] at hd
    cases hd
  rw [valueFrom.eq_def]
  dsimp only
  rw [skipSpace_cons _ (beginsValue_of_isDigit h).1]
  simp only [h, hne 'n' rfl, hne 't' rfl, hne 'f' rfl, hne '-' rfl, if_true, if_false]

theorem valueFrom_minus (levels : Nat) (rest : List Char) :
    valueFrom levels ('-' :: rest) =
      (do let (n, rest) ← numberFrom true rest; return (.number n, rest)) := by
  rw [valueFrom.eq_def]
  rfl

theorem valueFrom_quote (levels : Nat) (rest : List Char) :
    valueFrom levels ('"' :: rest) =
      (do let (s, rest) ← string rest; return (.string s, rest)) := by
  rw [valueFrom.eq_def]
  rfl

theorem valueFrom_bracket (levels : Nat) (rest : List Char) :
    valueFrom (levels + 2) ('[' :: rest) = (do
      let (elements, rest) ← elementsFrom (valueFrom (levels + 1)) (rest.length + 1) true [] rest
      return (.array elements, ← endList rest)) := by
  rw [valueFrom.eq_def]
  rfl

theorem valueFrom_brace (levels : Nat) (rest : List Char) :
    valueFrom (levels + 2) ('{' :: rest) = (do
      let (members, rest) ← membersFrom (valueFrom (levels + 1)) (rest.length + 1) true [] rest
      return (.object members, ← endObject rest)) := by
  rw [valueFrom.eq_def]
  rfl

/-- **Plain values are read back as they are.** -/
theorem readsBack_value {depth : Nat} {v : Value} (h : Plain depth v) :
    ReadsBack valueFrom depth v v := by
  induction h with
  | null depth =>
      intro levels rest _ _
      rw [valueFrom.eq_def]
      rfl
  | bool depth b =>
      intro levels rest _ _
      rw [valueFrom.eq_def]
      cases b <;> rfl
  | natural depth n hn =>
      intro levels rest _ hrest
      obtain ⟨c, more, htext, hc⟩ := natDigits_begins n
      have hread := numberFrom_natDigits false hn hrest
      show valueFrom levels (natDigits n ++ rest) = _
      rw [htext, List.cons_append] at hread ⊢
      rw [valueFrom_digit levels _ hc, hread]
      rfl
  | negative depth n hn =>
      intro levels rest _ hrest
      have hword : n + 1 ≤ wordMax := by
        have : Nat.pow 2 63 ≤ wordMax := by decide
        omega
      show valueFrom levels ('-' :: (natDigits (n + 1) ++ rest)) = _
      rw [valueFrom_minus, numberFrom_natDigits true hword hrest, integerResult_negSucc hn]
      rfl
  | string depth s =>
      intro levels rest _ _
      show valueFrom levels ('"' :: (s.toList.flatMap escapeChar ++ ['"'] ++ rest)) = _
      rw [valueFrom_quote, string_stringText]
      rfl
  | array depth elements _ ih =>
      intro levels rest hlevels _
      obtain ⟨levels, rfl⟩ : ∃ n, levels = n + 2 := ⟨levels - 2, by omega⟩
      have hread := elementsFrom_elementsText id elements rest
        (fun v hv rest hrest => ih v hv (levels + 1) rest (by omega) hrest)
      rw [List.map_id] at hread
      show valueFrom (levels + 2) ('[' :: (elementsText elements ++ rest)) = _
      rw [valueFrom_bracket, hread]
      rfl
  | object depth members _ ih =>
      intro levels rest hlevels _
      obtain ⟨levels, rfl⟩ : ∃ n, levels = n + 2 := ⟨levels - 2, by omega⟩
      have hlength := length_le_membersText members
      have hread := membersFrom_objectText members true []
        ((membersText members ++ rest).length + 1) rest
        (fun m hm rest hrest => ih m hm (levels + 1) rest (by omega) hrest)
        (by rw [List.length_append]; omega)
      show valueFrom (levels + 2) ('{' :: (membersText members ++ rest)) = _
      rw [valueFrom_brace]
      show (membersFrom _ _ _ _ (objectText true members ++ rest) >>= _) = _
      rw [hread]
      rfl

/-- A value that is plain and from which `read` gets `a` back. -/
structure Faithful {α : Type} (read : Nat → List Char → Except Fault (α × List Char)) (depth : Nat)
    (v : Value) (a : α) : Prop where
  plain : Plain depth v
  readsBack : ReadsBack read depth v a

/-! ## Whole texts -/

/-- What is read back wherever it stands is read back from a text of its own. -/
theorem whole_compact {α : Type} {read : Nat → List Char → Except Fault (α × List Char)}
    {depth : Nat} {v : Value} {a : α} (h : ReadsBack read depth v a) (hdepth : depth < nestingLimit) :
    whole read v.compact = .ok a := by
  have hread := h nestingLimit [] hdepth trivial
  rw [List.append_nil] at hread
  rw [whole, Value.compact, String.toList_ofList, hread]
  rfl

/-- A plain value is what its text holds. -/
theorem Value.parse_compact {depth : Nat} {v : Value} (h : Plain depth v)
    (hdepth : depth < nestingLimit) : Value.parse v.compact = .ok v :=
  whole_compact (readsBack_value h) hdepth

end NetGauge.Json
