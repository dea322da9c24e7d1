import NetGauge.Proofs.Json.Reordered

set_option autoImplicit false

/-! # Reading records from objects in any order

What a record is read from is the text of an object: its members in any order, and among them others that
are passed over. Whether it can be read, and as what, is said by the members that it knows and by the
values they hold (`Record.reading?`). If members of different names can be read in either order
(`Record.Commutes`), the object may name them in any order (`Record.reading?_perm`). -/

namespace NetGauge.Json

variable {α σ : Type}

/-! ## Forms that read a text as they read its value -/

/-- A form that reads a text as it reads the value that the text holds. -/
def Coherent (α : Type) [Form α] : Prop :=
  ∀ levels (t : Tree) (before text rest : List Char), Blanks before → t.Spells text → Ends rest →
    (Form.ofText levels (before ++ (text ++ rest)) : Except Fault (α × List Char)).toOption =
      ((t.value? levels).bind (fun v => (Form.ofValue v : Except Misfit α).toOption)).map
        (fun a => (a, rest))

/-- A form that reads the texts of a tree as it reads what the tree stands for. -/
def CoherentAt (α : Type) [Form α] (levels : Nat) (t : Tree) : Prop :=
  ∀ before text rest : List Char, Blanks before → t.Spells text → Ends rest →
    (Form.ofText levels (before ++ (text ++ rest)) : Except Fault (α × List Char)).toOption =
      ((t.value? levels).bind (fun v => (Form.ofValue v : Except Misfit α).toOption)).map
        (fun a => (a, rest))

theorem coherent_value : Coherent Value := by
  intro levels t before text rest hbefore h hrest
  show (valueFrom levels (before ++ (text ++ rest))).toOption = _
  rw [valueFrom_blanks hbefore, valueFrom_spells h levels rest hrest]
  cases t.value? levels <;> rfl

/-- The text of a number begins with a digit or a sign. -/
theorem Numeral.text_begins (n : Numeral) :
    ∃ c more, n.text = c :: more ∧ (isDigit c = true ∨ c = '-') := by
  have hcases := Literal.numeral_cases n []
  simp only [List.append_nil] at hcases
  rcases hcases with ⟨-, htext⟩ | ⟨-, c, more, hc, -, htext⟩
  · exact ⟨'-', _, htext, .inr rfl⟩
  · exact ⟨c, more, htext, .inl hc⟩

/-- Only a string begins with a quote. -/
theorem Tree.Spells.of_quote {t : Tree} {more : List Char} (h : t.Spells ('"' :: more)) :
    ∃ glyphs, t = .scalar (.string glyphs) ∧ more = closedText glyphs := by
  generalize htext : '"' :: more = text at h
  cases h with
  | scalar l =>
      cases l with
      | null => cases htext
      | bool b => cases b <;> cases htext
      | number n =>
          obtain ⟨c, tail, hbegins, hc⟩ := n.text_begins
          rw [Literal.text, hbegins] at htext
          cases htext
          rcases hc with hc | hc <;> cases hc
      | string glyphs =>
          cases htext
          exact ⟨glyphs, rfl, rfl⟩
  | array h => cases htext
  | object h => cases htext

/-- Only null begins like null. -/
theorem Tree.Spells.of_n {t : Tree} {more : List Char} (h : t.Spells ('n' :: more)) :
    t = .scalar .null := by
  generalize htext : 'n' :: more = text at h
  cases h with
  | scalar l =>
      cases l with
      | null => rfl
      | bool b => cases b <;> cases htext
      | number n =>
          obtain ⟨c, tail, hbegins, hc⟩ := n.text_begins
          rw [Literal.text, hbegins] at htext
          cases htext
          rcases hc with hc | hc <;> cases hc
      | string glyphs => cases htext
  | array h => cases htext
  | object h => cases htext

/-- A value is that of a literal, or an array, or an object. -/
theorem Tree.value?_cases {t : Tree} {levels : Nat} {v : Value} (h : t.value? levels = some v) :
    (∃ l, t = .scalar l ∧ l.value? = some v) ∨ (∃ elements, v = .array elements) ∨
      ∃ members, v = .object members := by
  match t, levels, h with
  | .scalar l, _, h =>
      rw [value?] at h
      exact .inl ⟨l, rfl, h⟩
  | .array elements, levels + 2, h =>
      obtain ⟨values, -, rfl⟩ := Option.map_eq_some_iff.1 h
      exact .inr (.inl ⟨values, rfl⟩)
  | .object members, levels + 2, h =>
      obtain ⟨values, -, rfl⟩ := Option.map_eq_some_iff.1 h
      exact .inr (.inr ⟨values, rfl⟩)

/-- Only a string stands for a string. -/
theorem Tree.value?_eq_string {t : Tree} {levels : Nat} {s : String}
    (h : t.value? levels = some (.string s)) :
    ∃ glyphs, t = .scalar (.string glyphs) ∧ stringOf? glyphs = some s := by
  rcases value?_cases h with ⟨l, rfl, hl⟩ | ⟨_, hv⟩ | ⟨_, hv⟩
  · cases l with
    | null => cases hl
    | bool b => cases hl
    | number n =>
        obtain ⟨_, -, hv⟩ := Option.map_eq_some_iff.1 hl
        cases hv
    | string glyphs =>
        obtain ⟨_, hs, hv⟩ := Option.map_eq_some_iff.1 hl
        cases hv
        exact ⟨glyphs, rfl, hs⟩
  · cases hv
  · cases hv

/-- Only null stands for null. -/
theorem Tree.value?_eq_null {t : Tree} {levels : Nat} (h : t.value? levels = some .null) :
    t = .scalar .null := by
  rcases value?_cases h with ⟨l, rfl, hl⟩ | ⟨_, hv⟩ | ⟨_, hv⟩
  · cases l with
    | null => rfl
    | bool b => cases hl
    | number n =>
        obtain ⟨_, -, hv⟩ := Option.map_eq_some_iff.1 hl
        cases hv
    | string glyphs =>
        obtain ⟨_, -, hv⟩ := Option.map_eq_some_iff.1 hl
        cases hv
  · cases hv
  · cases hv

theorem coherent_string : Coherent String := by
  intro levels t before text rest hbefore h hrest
  obtain ⟨c, more, rfl, hspace, -⟩ := h.begins
  have hread : (Form.ofText levels (before ++ (c :: more ++ rest)) : Except Fault (String × List Char)) =
      if c = '"' then string (more ++ rest) else .error (wrongType "a string" (c :: (more ++ rest))) := by
    show stringOfText _ = _
    rw [stringOfText, atValue, skipSpace_blanks hbefore, List.cons_append, skipSpace_cons _ hspace]
  rw [hread]
  by_cases hquote : c = '"'
  · subst hquote
    obtain ⟨glyphs, rfl, rfl⟩ := h.of_quote
    rw [if_pos rfl, string_closedText, Tree.value?, Literal.value?]
    cases stringOf? glyphs <;> rfl
  · rw [if_neg hquote, toOption_error]
    symm
    rw [Option.map_eq_none_iff, Option.bind_eq_none_iff]
    intro v hv
    cases v with
    | string s =>
        obtain ⟨glyphs, rfl, -⟩ := Tree.value?_eq_string hv
        generalize htext : c :: more = text at h
        cases h
        cases htext
        exact absurd rfl hquote
    | _ => rfl

theorem Coherent.option [Form α] (hform : Coherent α) : Coherent (Option α) := by
  intro levels t before text rest hbefore h hrest
  have hread : (Form.ofText levels (before ++ (text ++ rest)) : Except Fault (Option α × List Char)) =
      optionOfText levels (text ++ rest) := by
    show optionOfText levels _ = _
    rw [optionOfText, skipSpace_blanks hbefore]
    rfl
  rw [hread, optionOfText, h.skipSpace_append]
  by_cases hnull : t = .scalar .null
  · subst hnull
    cases h
    rfl
  · have hvalue := hform levels t [] text rest blanks_nil h hrest
    rw [List.nil_append] at hvalue
    split
    · next more htext =>
        obtain ⟨c, tail, rfl, -⟩ := h.begins
        cases htext
        exact absurd h.of_n hnull
    · rw [toOption_bind, hvalue]
      cases hv : t.value? levels with
      | none => rfl
      | some v =>
          have hne : v ≠ .null := by
            rintro rfl
            exact hnull (Tree.value?_eq_null hv)
          have hsome : (Form.ofValue v : Except Misfit (Option α)) =
              (Form.ofValue v : Except Misfit α).map some := by
            cases v with
            | null => exact absurd rfl hne
            | _ => rfl
          rw [Option.bind_some, Option.bind_some, hsome]
          cases (Form.ofValue v : Except Misfit α) <;> rfl

/-! ## Members that are read as their values -/

/-- A member that is read from a text as it is read from the value that the text holds. -/
def Member.Coherent (m : Member σ) : Prop :=
  ∀ levels a (t : Tree) (before text rest : List Char), Blanks before → t.Spells text → Ends rest →
    (m.ofText levels a (before ++ (text ++ rest))).toOption =
      ((t.value? levels).bind (fun v => (m.ofValue a v).toOption)).map (fun b => (b, rest))

/-- A member that is read from the texts of a tree as it is read from what the tree stands for. -/
def Member.CoherentAt (m : Member σ) (levels : Nat) (t : Tree) : Prop :=
  ∀ a (before text rest : List Char), Blanks before → t.Spells text → Ends rest →
    (m.ofText levels a (before ++ (text ++ rest))).toOption =
      ((t.value? levels).bind (fun v => (m.ofValue a v).toOption)).map (fun b => (b, rest))

theorem CoherentAt.member [Form α] {levels : Nat} {t : Tree} (h : CoherentAt α levels t)
    (presence : Presence) (name : String) (get : σ → α) (set : σ → α → σ) :
    (Member.of presence name get set).CoherentAt levels t := by
  intro a before text rest hbefore htext hrest
  show (Form.ofText levels (before ++ (text ++ rest)) >>= fun p => .ok (set a p.1, p.2)).toOption = _
  rw [toOption_bind, h before text rest hbefore htext hrest]
  show _ = ((t.value? levels).bind fun v => ((Form.ofValue v).map (set a)).toOption).map _
  cases t.value? levels with
  | none => rfl
  | some v =>
      rw [Option.bind_some, Option.bind_some]
      cases (Form.ofValue v : Except Misfit α) <;> rfl

theorem Coherent.member [Form α] (h : Coherent α) (presence : Presence) (name : String) (get : σ → α)
    (set : σ → α → σ) : (Member.of presence name get set).Coherent := by
  intro levels a t
  have hat : CoherentAt α levels t := h levels t
  exact hat.member presence name get set a

theorem Coherent.sparse [Form α] (h : Coherent α) (name : String) (get : σ → Option α)
    (set : σ → Option α → σ) : (Member.sparse name get set).Coherent :=
  h.option.member .optional name get set

namespace Record

variable (r : Record σ)

/-- The names that the record knows. -/
def names : List String := r.members.map Member.name

/-- What the members of an object make of what has been read before: each that is known is read from its
    value, and the others are passed over. -/
def reading? (levels : Nat) : List String → σ → List (List Glyph × Tree) → Option σ
  | seen, a, [] => if (r.missing? seen).isNone then some a else none
  | seen, a, (name, t) :: members =>
    (stringOf? name).bind fun name =>
      match r.member? name with
      | some m =>
        if seen.contains name then none
        else ((t.value? levels).bind fun v => (m.ofValue a v).toOption).bind fun b =>
          reading? levels (name :: seen) b members
      | none => reading? levels seen a members

theorem toOption_lift (x : Except Fault α) : (Halt.lift x).toOption = x.toOption := by
  cases x <;> rfl

/-- **The members of an object are read as what they say,** whatever is spelled out around them. -/
theorem membersOfText_spells {levels : Nat} {first : Bool} {members : List (List Glyph × Tree)}
    {inside : List Char} (h : MembersSpell first members inside)
    (hcoherent : ∀ entry ∈ members, ∀ m ∈ r.members, stringOf? entry.1 = some m.name →
      m.CoherentAt levels entry.2) :
    ∀ fuel seen a rest, members.length < fuel →
      (r.membersOfText levels fuel first seen a (inside ++ '}' :: rest)).toOption =
        (r.reading? levels seen a members).map (fun b => (b, '}' :: rest)) := by
  induction h using MembersSpell.induct with
  | nil first gap hgap =>
      intro fuel seen a rest hfuel
      obtain ⟨fuel, rfl⟩ : ∃ n, fuel = n + 1 := ⟨fuel - 1, by omega⟩
      rw [membersOfText, nextKey_end _ hgap, reading?]
      simp only [Halt.lift, bind, Except.bind]
      cases r.missing? seen <;> rfl
  | cons first name t members gap before colon after text more hgap hbefore hcolon hafter h hmore ih =>
      intro fuel seen a rest hfuel
      rw [List.forall_mem_cons] at hcoherent
      rw [List.length_cons] at hfuel
      obtain ⟨fuel, rfl⟩ : ∃ n, fuel = n + 1 := ⟨fuel - 1, by omega⟩
      have hkey := nextKey_name first hgap hbefore name
        (colon ++ ':' :: (after ++ (text ++ (more ++ '}' :: rest))))
      have hlater := fun seen a => ih hcoherent.2 fuel seen a rest (by omega)
      rw [member_append, membersOfText, toOption_bind, toOption_lift, hkey, reading?]
      cases hname : stringOf? name with
      | none => rfl
      | some s =>
          simp only [Option.map_some, Option.bind_some]
          cases hmember : r.member? s with
          | none =>
              have hskip := skipValue_spells h hafter (hmore.ends rest)
              simp only [afterKey_colon_blanks hcolon, bind, Except.bind, hskip, Halt.lift]
              exact hlater seen a
          | some m =>
              have hm : m ∈ r.members := List.mem_of_find?_eq_some hmember
              have hmname : m.name = s := by simpa using List.find?_some hmember
              have hread := hcoherent.1 m hm (hmname ▸ hname) a after text _ hafter h (hmore.ends rest)
              dsimp only
              by_cases hseen : seen.contains s = true
              · rw [if_pos hseen, if_pos hseen]
                rfl
              · rw [if_neg hseen, if_neg hseen, toOption_bind, toOption_lift]
                simp only [afterKey_colon_blanks hcolon, bind, Except.bind, hread]
                cases (t.value? levels).bind fun v => (m.ofValue a v).toOption with
                | none => rfl
                | some b => exact hlater (s :: seen) b

/-! ## Any order -/

/-- Members of different names are read to the same end in either order. -/
def Commutes : Prop :=
  ∀ m ∈ r.members, ∀ m' ∈ r.members, m.name ≠ m'.name → ∀ a v v',
    ((m.ofValue a v).toOption.bind fun b => (m'.ofValue b v').toOption) =
      (m'.ofValue a v').toOption.bind fun b => (m.ofValue b v).toOption

/-- Members that set different parts can be read in either order. -/
theorem ofValue_comm {β : Type} {m m' : Member σ} {read : Value → Except Misfit α}
    {read' : Value → Except Misfit β} {set : σ → α → σ} {set' : σ → β → σ}
    (hm : ∀ a v, m.ofValue a v = (read v).map (set a))
    (hm' : ∀ a v, m'.ofValue a v = (read' v).map (set' a))
    (hset : ∀ a x y, set' (set a x) y = set (set' a y) x) (a : σ) (v v' : Value) :
    ((m.ofValue a v).toOption.bind fun b => (m'.ofValue b v').toOption) =
      (m'.ofValue a v').toOption.bind fun b => (m.ofValue b v).toOption := by
  simp only [hm, hm']
  cases read v with
  | error _ => cases read' v' <;> rfl
  | ok x =>
      cases read' v' with
      | error _ => rfl
      | ok y => exact congrArg some (hset a x y)

/-- What a member has read it reads into any record. -/
theorem ofValue_eq_ok {m : Member σ} {read : Value → Except Misfit α} {set : σ → α → σ}
    (hm : ∀ a v, m.ofValue a v = (read v).map (set a)) {a b : σ} {v : Value}
    (h : m.ofValue a v = .ok b) : ∃ x, b = set a x ∧ ∀ a', m.ofValue a' v = .ok (set a' x) := by
  rw [hm] at h
  cases hread : read v with
  | error _ =>
      rw [hread] at h
      cases h
  | ok x =>
      rw [hread] at h
      cases h
      exact ⟨x, rfl, fun a' => by rw [hm, hread]; rfl⟩

variable {r}

/-- It only matters which names have been seen. -/
theorem reading?_congr {levels : Nat} {seen seen' : List String}
    (h : ∀ name, seen.contains name = seen'.contains name) (a : σ)
    (members : List (List Glyph × Tree)) :
    r.reading? levels seen a members = r.reading? levels seen' a members := by
  induction members generalizing seen seen' a with
  | nil =>
      have hmissing : r.missing? seen = r.missing? seen' := by simp only [missing?, h]
      rw [reading?, reading?, hmissing]
  | cons m members ih =>
      have hcons : ∀ name other, (name :: seen).contains other = (name :: seen').contains other := by
        intro name other
        rw [List.contains_cons, List.contains_cons, h]
      rw [reading?, reading?]
      simp only [h, ih h, fun name => ih (hcons name)]

/-- A member that cannot be named cannot be read, whatever comes before it. -/
theorem reading?_unnamed (levels : Nat) (seen : List String) (a : σ) {m : List Glyph × Tree}
    (hname : stringOf? m.1 = none) (m' : List Glyph × Tree) (members : List (List Glyph × Tree)) :
    r.reading? levels seen a (m' :: m :: members) = none := by
  simp only [reading?, hname, Option.bind_none]
  cases stringOf? m'.1 with
  | none => rfl
  | some name =>
      rw [Option.bind_some]
      split
      · simp
      · rfl

/-- Two members can be read in the other order. -/
theorem reading?_swap (hcommutes : r.Commutes) (levels : Nat) (seen : List String) (a : σ)
    (m m' : List Glyph × Tree) (members : List (List Glyph × Tree)) :
    r.reading? levels seen a (m :: m' :: members) = r.reading? levels seen a (m' :: m :: members) := by
  cases hname : stringOf? m.1 with
  | none =>
      rw [reading?_unnamed levels seen a hname, reading?, hname]
      rfl
  | some name =>
  cases hname' : stringOf? m'.1 with
  | none =>
      rw [reading?_unnamed levels seen a hname', reading?, hname']
      rfl
  | some name' =>
  simp only [reading?, hname, hname', Option.bind_some]
  cases hmember : r.member? name with
  | none => rfl
  | some known =>
  cases hmember' : r.member? name' with
  | none => rfl
  | some known' =>
  dsimp only
  by_cases heq : name = name'
  · subst heq
    simp
  · have hne : known.name ≠ known'.name := by
      have h := List.find?_some hmember
      have h' := List.find?_some hmember'
      simp only [beq_iff_eq] at h h'
      rwa [h, h']
    have hmem := List.mem_of_find?_eq_some hmember
    have hmem' := List.mem_of_find?_eq_some hmember'
    have hseen : (name :: seen).contains name' = seen.contains name' := by simp [Ne.symm heq]
    have hseen' : (name' :: seen).contains name = seen.contains name := by simp [heq]
    have hboth : ∀ c, r.reading? levels (name' :: name :: seen) c members =
        r.reading? levels (name :: name' :: seen) c members := by
      refine fun c => reading?_congr (fun other => ?_) c members
      simp only [List.contains_cons, Bool.or_left_comm]
    simp only [hseen, hseen', hboth]
    cases m.2.value? levels with
    | none => simp
    | some v =>
    cases m'.2.value? levels with
    | none => simp
    | some v' =>
      have hswap := hcommutes known hmem known' hmem' hne a v v'
      simp only [Option.bind_some]
      generalize seen.contains name = first
      generalize seen.contains name' = second
      cases first with
      | true => simp
      | false =>
      cases second with
      | true => simp
      | false =>
        simp only [Bool.false_eq_true, if_false]
        rw [← Option.bind_assoc, ← Option.bind_assoc, hswap]

/-- **The order of the members makes no difference.** -/
theorem reading?_perm (hcommutes : r.Commutes) {levels : Nat} {members members' : List (List Glyph × Tree)}
    (h : members.Perm members') (seen : List String) (a : σ) :
    r.reading? levels seen a members = r.reading? levels seen a members' := by
  induction h generalizing seen a with
  | nil => rfl
  | cons m _ ih =>
      rw [reading?, reading?]
      simp only [ih]
  | swap m m' members => exact reading?_swap hcommutes levels seen a m' m members
  | trans _ _ ih ih' => exact (ih seen a).trans (ih' seen a)

theorem member?_eq_none {name : String} (hname : name ∉ r.names) : r.member? name = none := by
  rw [member?, List.find?_eq_none]
  intro m hm
  have hne : m.name ≠ name := fun heq => hname (heq ▸ List.mem_map_of_mem hm)
  simpa using hne

/-- **Revised members are read to like ends.** What is kept has to be read to like ends from like
    beginnings, and no member that the record knows may be added or removed. -/
theorem reading?_revised (hcommutes : r.Commutes) {levels : Nat}
    {alike : List Glyph → Tree → Tree → Prop} {fit : Tree → Prop} {Alike : σ → σ → Prop}
    (hkeep : ∀ m ∈ r.members, ∀ name t t' v a a' b, stringOf? name = some m.name → alike name t t' →
      t.Distinct → t.value? levels = some v → m.ofValue a v = .ok b → Alike a a' →
      ∃ v' b', t'.value? levels = some v' ∧ m.ofValue a' v' = .ok b' ∧ Alike b b')
    {members members' : List (List Glyph × Tree)} (h : Revised r.names alike fit members members')
    (hdistinct : ∀ m ∈ members, m.2.Distinct) {seen : List String} {a a' b : σ} (hlike : Alike a a')
    (hread : r.reading? levels seen a members = some b) :
    ∃ b', r.reading? levels seen a' members' = some b' ∧ Alike b b' := by
  induction h generalizing seen a a' with
  | nil =>
      rw [reading?] at hread
      split at hread
      · next hmissing =>
          cases hread
          exact ⟨a', by rw [reading?, if_pos hmissing], hlike⟩
      · cases hread
  | @keep name t t' members members' halike _ ih =>
      rw [List.forall_mem_cons] at hdistinct
      rw [reading?] at hread ⊢
      obtain ⟨s, hs, hread⟩ := Option.bind_eq_some_iff.1 hread
      rw [hs, Option.bind_some]
      cases hmember : r.member? s with
      | none =>
          rw [hmember] at hread
          exact ih hdistinct.2 hlike hread
      | some m =>
          rw [hmember] at hread
          dsimp only at hread ⊢
          have hm := List.mem_of_find?_eq_some hmember
          have hmname : m.name = s := by simpa using List.find?_some hmember
          by_cases hseen : seen.contains s = true
          · rw [if_pos hseen] at hread
            cases hread
          · rw [if_neg hseen] at hread ⊢
            obtain ⟨c, hc, hread⟩ := Option.bind_eq_some_iff.1 hread
            obtain ⟨v, hv, hc⟩ := Option.bind_eq_some_iff.1 hc
            obtain ⟨v', c', hv', hc', hlike'⟩ := hkeep m hm name t t' v a a' c (hmname ▸ hs) halike
              hdistinct.1 hv (toOption_eq_some_iff.1 hc) hlike
            rw [hv', Option.bind_some, hc', toOption_ok, Option.bind_some]
            exact ih hdistinct.2 hlike' hread
  | @remove m members members' hname _ ih =>
      rw [List.forall_mem_cons] at hdistinct
      obtain ⟨name, hm, hread⟩ := Option.bind_eq_some_iff.1 hread
      rw [member?_eq_none (hname name hm)] at hread
      exact ih hdistinct.2 hlike hread
  | @add m name members members' hname hnew _ _ ih =>
      obtain ⟨b', hread', hlike'⟩ := ih hdistinct hlike hread
      refine ⟨b', ?_, hlike'⟩
      rw [reading?, hname, Option.bind_some, member?_eq_none hnew]
      exact hread'
  | order hperm _ ih =>
      obtain ⟨b', hread', hlike'⟩ := ih hdistinct hlike hread
      exact ⟨b', (reading?_perm hcommutes hperm seen a').symm.trans hread', hlike'⟩

/-! ## Values -/

/-- Of members that have been read as values, too, those of other names are passed over. -/
theorem membersOfValue_filter (seen : List String) (a : σ) (members : List (String × Value)) :
    r.membersOfValue seen a (members.filter (fun m => decide (m.1 ∈ r.names))) =
      r.membersOfValue seen a members := by
  induction members generalizing seen a with
  | nil => rfl
  | cons m members ih =>
      obtain ⟨name, v⟩ := m
      by_cases hname : name ∈ r.names
      · rw [List.filter_cons_of_pos (by simpa using hname), membersOfValue, membersOfValue]
        simp only [ih]
      · rw [List.filter_cons_of_neg (by simpa using hname), ih, membersOfValue,
          member?_eq_none hname]

/-- **Values that differ in other members at most are read alike.** -/
theorem ofValue_congr {v v' : Value} (h : v.Agrees r.names v') : r.ofValue v = r.ofValue v' := by
  cases h with
  | same v => rfl
  | @object members members' h =>
      show r.membersOfValue [] r.blank members = r.membersOfValue [] r.blank members'
      rw [← membersOfValue_filter, h, membersOfValue_filter]

/-! ## Whole texts -/

theorem ofText_spells {levels : Nat} {members : List (List Glyph × Tree)}
    (hcoherent : ∀ entry ∈ members, ∀ m ∈ r.members, stringOf? entry.1 = some m.name →
      m.CoherentAt (levels + 1) entry.2)
    {text before : List Char} (hbefore : Blanks before) (h : (Tree.object members).Spells text)
    (rest : List Char) :
    (r.ofText (levels + 2) (before ++ (text ++ rest))).toOption =
      (r.reading? (levels + 1) [] r.blank members).map (fun a => (a, rest)) := by
  cases h with
  | @object _ inside h =>
      have hlength := h.length_le
      have hread := r.membersOfText_spells h hcoherent ((inside ++ '}' :: rest).length + 1) [] r.blank
        rest (by simp; omega)
      have htext : '{' :: (inside ++ ['}']) ++ rest = '{' :: (inside ++ '}' :: rest) := by simp
      rw [ofText, atValue, skipSpace_blanks hbefore, htext, skipSpace_cons _ rfl]
      dsimp only
      rw [if_pos rfl]
      cases hmembers : r.membersOfText (levels + 1) ((inside ++ '}' :: rest).length + 1) true [] r.blank
          (inside ++ '}' :: rest) with
      | error halt =>
          rw [hmembers, toOption_error] at hread
          rw [Option.map_eq_none_iff.1 hread.symm]
          rfl
      | ok p =>
          rw [hmembers, toOption_ok] at hread
          obtain ⟨b, hb, rfl⟩ := Option.map_eq_some_iff.1 hread.symm
          rw [hb]
          rfl

end Record

/-- A text that holds a tree and nothing else. -/
def Tree.TextOf (t : Tree) (text : String) : Prop :=
  ∃ before inner after, Blanks before ∧ t.Spells inner ∧ Blanks after ∧
    text.toList = before ++ (inner ++ after)

theorem Tree.textOf_text (t : Tree) : t.TextOf (String.ofList t.text) :=
  ⟨[], t.text, [], blanks_nil, t.spells_text, blanks_nil, by simp⟩

/-- A whole text is read as what is found between its blanks. -/
theorem toOption_whole {read : Nat → List Char → Except Fault (α × List Char)} {text : String}
    {before inner after : List Char} {a : Option α} (htext : text.toList = before ++ (inner ++ after))
    (hafter : Blanks after)
    (hread : (read nestingLimit (before ++ (inner ++ after))).toOption = a.map fun a => (a, after)) :
    (whole read text).toOption = a := by
  have hend : endText after = .ok () := by
    have hskip := skipSpace_blanks hafter []
    rw [List.append_nil] at hskip
    rw [endText, hskip]
    rfl
  rw [whole, htext, toOption_bind, hread]
  cases a with
  | none => rfl
  | some a =>
      show (endText after >>= fun _ => .ok a).toOption = _
      rw [hend]
      rfl

/-- **A record is read from the text of an object as its members say.** -/
theorem Record.whole_textOf {r : Record σ} (hcoherent : ∀ m ∈ r.members, m.Coherent)
    {members : List (List Glyph × Tree)} {text : String} (h : (Tree.object members).TextOf text) :
    (whole r.ofText text).toOption = r.reading? (nestingLimit - 1) [] r.blank members := by
  obtain ⟨before, inner, after, hbefore, hinner, hafter, htext⟩ := h
  have hat : ∀ entry ∈ members, ∀ m ∈ r.members, stringOf? entry.1 = some m.name →
      m.CoherentAt (nestingLimit - 2 + 1) entry.2 :=
    fun entry _ m hm _ a => hcoherent m hm _ a entry.2
  exact toOption_whole htext hafter (r.ofText_spells hat hbefore hinner after)

end NetGauge.Json
