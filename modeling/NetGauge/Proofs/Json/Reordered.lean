import NetGauge.Proofs.Json.Sorted
import NetGauge.Proofs.Json.Tree

set_option autoImplicit false

/-! # Reordered values

A value whose objects have their members in another order, at any depth (`Tree.Reordered`). If no object
has two members of one name, such a value is read exactly if the original is, and the two have the same
sorted form (`Tree.Reordered.sorted`): that no name comes twice is what makes the order irrelevant, for
the last of two would win. -/

namespace NetGauge.Json

/-! ## Reading one thing after the other -/

section

variable {α β γ : Type} {f : α → Option β}

/-- Things that can be read one after the other can be read in any order. -/
theorem mapM_perm {l l' : List α} (h : l.Perm l') {r : List β} (hr : l.mapM f = some r) :
    ∃ r', l'.mapM f = some r' ∧ r.Perm r' := by
  induction h generalizing r with
  | nil => exact ⟨r, hr, .refl r⟩
  | cons a _ ih =>
      rw [List.mapM_cons] at hr
      obtain ⟨b, hb, hr⟩ := Option.bind_eq_some_iff.1 hr
      obtain ⟨s, hs, hr⟩ := Option.bind_eq_some_iff.1 hr
      obtain ⟨s', hs', hperm⟩ := ih hs
      cases hr
      refine ⟨b :: s', ?_, hperm.cons b⟩
      rw [List.mapM_cons, hb, hs']
      rfl
  | swap a a' l =>
      simp only [List.mapM_cons] at hr
      obtain ⟨b', hb', hr⟩ := Option.bind_eq_some_iff.1 hr
      obtain ⟨s, hs, hr⟩ := Option.bind_eq_some_iff.1 hr
      obtain ⟨b, hb, hs⟩ := Option.bind_eq_some_iff.1 hs
      obtain ⟨t, ht, hs⟩ := Option.bind_eq_some_iff.1 hs
      cases hs
      cases hr
      refine ⟨b :: b' :: t, ?_, .swap ..⟩
      simp only [List.mapM_cons, hb, hb', ht]
      rfl
  | trans _ _ ih ih' =>
      obtain ⟨s, hs, hperm⟩ := ih hr
      obtain ⟨t, ht, hperm'⟩ := ih' hs
      exact ⟨t, ht, hperm.trans hperm'⟩

theorem map_mapM (f : α → Option β) (g : β → γ) (l : List α) :
    (l.mapM f).map (List.map g) = l.mapM (fun a => (f a).map g) := by
  induction l with
  | nil => rfl
  | cons a l ih =>
      rw [List.mapM_cons, List.mapM_cons, ← ih]
      cases f a with
      | none => rfl
      | some b => cases l.mapM f <;> rfl

/-- Only what is read of each thing matters. -/
theorem mapM_middle_congr {a a' : α} (h : f a = f a') (before after : List α) :
    (before ++ a :: after).mapM f = (before ++ a' :: after).mapM f := by
  rw [List.mapM_append, List.mapM_append, List.mapM_cons, List.mapM_cons, h]

end

theorem elementValues?_eq_mapM (levels : Nat) (elements : List Tree) :
    elementValues? levels elements = elements.mapM (Tree.value? levels) := by
  induction elements with
  | nil => rfl
  | cons t elements ih => rw [elementValues?, ih, List.mapM_cons]

/-- The name and the value of a member. -/
def memberValue? (levels : Nat) (m : List Glyph × Tree) : Option (String × Value) := do
  return (← stringOf? m.1, ← m.2.value? levels)

theorem memberValues?_eq_mapM (levels : Nat) (members : List (List Glyph × Tree)) :
    memberValues? levels members = members.mapM (memberValue? levels) := by
  induction members with
  | nil => rfl
  | cons m members ih =>
      rw [memberValues?, ih, List.mapM_cons, memberValue?]
      cases stringOf? m.1 with
      | none => rfl
      | some name => cases m.2.value? levels <;> rfl

/-! ## Sorted forms -/

/-- The sorted form of what a tree stands for. -/
def Tree.sorted? (levels : Nat) (t : Tree) : Option Value := (t.value? levels).map Value.sorted

/-- The name of a member and the sorted form of its value. -/
def sortedMember? (levels : Nat) (m : List Glyph × Tree) : Option (String × Value) := do
  return (← stringOf? m.1, ← m.2.sorted? levels)

theorem map_memberValue? (levels : Nat) (m : List Glyph × Tree) :
    (memberValue? levels m).map (fun p => (p.1, p.2.sorted)) = sortedMember? levels m := by
  rw [memberValue?, sortedMember?, Tree.sorted?]
  cases stringOf? m.1 with
  | none => rfl
  | some name => cases m.2.value? levels <;> rfl

theorem map_memberValues? (levels : Nat) (members : List (List Glyph × Tree)) :
    (memberValues? levels members).map sortedMembers = members.mapM (sortedMember? levels) := by
  rw [memberValues?_eq_mapM, funext Value.sortedMembers_eq_map, map_mapM]
  simp only [map_memberValue?]

theorem sortedMember?_eq_some {levels : Nat} {m : List Glyph × Tree} {p : String × Value}
    (h : sortedMember? levels m = some p) :
    stringOf? m.1 = some p.1 ∧ m.2.sorted? levels = some p.2 := by
  obtain ⟨name, hname, h⟩ := Option.bind_eq_some_iff.1 h
  obtain ⟨v, hv, h⟩ := Option.bind_eq_some_iff.1 h
  cases h
  exact ⟨hname, hv⟩

/-- The names of members that have been read. -/
theorem map_fst_of_mapM {levels : Nat} {members : List (List Glyph × Tree)}
    {values : List (String × Value)} (h : members.mapM (sortedMember? levels) = some values) :
    values.map Prod.fst = members.filterMap (fun m => stringOf? m.1) := by
  induction members generalizing values with
  | nil => cases h; rfl
  | cons m members ih =>
      rw [List.mapM_cons] at h
      obtain ⟨p, hp, h⟩ := Option.bind_eq_some_iff.1 h
      obtain ⟨later, hlater, h⟩ := Option.bind_eq_some_iff.1 h
      cases h
      rw [List.map_cons, ih hlater, List.filterMap_cons, (sortedMember?_eq_some hp).1]

namespace Tree

theorem sorted?_array (levels : Nat) (elements : List Tree) :
    (array elements).sorted? (levels + 2) = (elements.mapM (sorted? (levels + 1))).map .array := by
  have hmap := map_mapM (value? (levels + 1)) Value.sorted elements
  rw [sorted?, value?, Option.map_map, elementValues?_eq_mapM]
  show _ = (elements.mapM fun t : Tree => (t.value? (levels + 1)).map Value.sorted).map _
  rw [← hmap, Option.map_map]
  congr 1
  funext values
  show (Value.array values).sorted = _
  rw [Value.sorted, Value.sortedElements_eq_map]
  rfl

theorem sorted?_object (levels : Nat) (members : List (List Glyph × Tree)) :
    (object members).sorted? (levels + 2) =
      (members.mapM (sortedMember? (levels + 1))).map (fun values => .object (insertMembers [] values)) := by
  rw [sorted?, value?, Option.map_map, ← map_memberValues?, Option.map_map]
  congr 1

/-- No object has two members of one name, at any depth. -/
inductive Distinct : Tree → Prop
  | scalar (l : Literal) : Distinct (.scalar l)
  | array {elements : List Tree} (h : ∀ t ∈ elements, Distinct t) : Distinct (.array elements)
  | object {members : List (List Glyph × Tree)}
      (hnames : (members.filterMap (fun m => stringOf? m.1)).Nodup)
      (h : ∀ m ∈ members, Distinct m.2) : Distinct (.object members)

/-- The same value with the members of objects in another order, at any depth. -/
inductive Reordered : Tree → Tree → Prop
  | refl (t : Tree) : Reordered t t
  | trans {t t' t'' : Tree} (h : Reordered t t') (h' : Reordered t' t'') : Reordered t t''
  | element {t t' : Tree} (before after : List Tree) (h : Reordered t t') :
      Reordered (.array (before ++ t :: after)) (.array (before ++ t' :: after))
  | member {t t' : Tree} (before after : List (List Glyph × Tree)) (name : List Glyph)
      (h : Reordered t t') :
      Reordered (.object (before ++ (name, t) :: after)) (.object (before ++ (name, t') :: after))
  | order {members members' : List (List Glyph × Tree)} (h : members.Perm members') :
      Reordered (.object members) (.object members')

/-- Names stay distinct. -/
theorem Reordered.distinct {t t' : Tree} (h : Reordered t t') (hdistinct : t.Distinct) :
    t'.Distinct := by
  induction h with
  | refl t => exact hdistinct
  | trans _ _ ih ih' => exact ih' (ih hdistinct)
  | element before after _ ih =>
      cases hdistinct with
      | array h =>
          rw [List.forall_mem_append, List.forall_mem_cons] at h
          obtain ⟨hbefore, ht, hafter⟩ := h
          refine .array ?_
          rw [List.forall_mem_append, List.forall_mem_cons]
          exact ⟨hbefore, ih ht, hafter⟩
  | member before after name _ ih =>
      cases hdistinct with
      | object hnames h =>
          rw [List.forall_mem_append, List.forall_mem_cons] at h
          obtain ⟨hbefore, ht, hafter⟩ := h
          refine .object ?_ ?_
          · simpa [List.filterMap_append, List.filterMap_cons] using hnames
          · rw [List.forall_mem_append, List.forall_mem_cons]
            exact ⟨hbefore, ih ht, hafter⟩
  | order hperm =>
      cases hdistinct with
      | object hnames h =>
          refine .object ((hperm.filterMap _).nodup_iff.1 hnames) ?_
          exact fun m hm => h m (hperm.mem_iff.2 hm)

/-- **The order of members makes no difference to the sorted form.** -/
theorem Reordered.sorted {t t' : Tree} (h : Reordered t t') (hdistinct : t.Distinct) (levels : Nat) :
    t'.sorted? levels = t.sorted? levels := by
  induction h generalizing levels with
  | refl t => rfl
  | trans h _ ih ih' => exact (ih' (h.distinct hdistinct) levels).trans (ih hdistinct levels)
  | @element t t' before after _ ih =>
      cases hdistinct with
      | array h =>
          rcases levels with _ | _ | levels
          · rfl
          · rfl
          · have hsame := ih (h t (by simp)) (levels + 1)
            rw [sorted?_array, sorted?_array, mapM_middle_congr hsame]
  | @member t t' before after name _ ih =>
      cases hdistinct with
      | object hnames h =>
          rcases levels with _ | _ | levels
          · rfl
          · rfl
          · have hsame := ih (h (name, t) (by simp)) (levels + 1)
            have hmember : sortedMember? (levels + 1) (name, t') =
                sortedMember? (levels + 1) (name, t) := by
              simp only [sortedMember?, hsame]
            rw [sorted?_object, sorted?_object, mapM_middle_congr hmember]
  | @order members members' hperm =>
      cases hdistinct with
      | object hnames h =>
          rcases levels with _ | _ | levels
          · rfl
          · rfl
          · rw [sorted?_object, sorted?_object]
            cases hread : members.mapM (sortedMember? (levels + 1)) with
            | none =>
                -- What could be read in the new order could be read in the old one.
                cases hread' : members'.mapM (sortedMember? (levels + 1)) with
                | none => rfl
                | some values' =>
                    obtain ⟨values, hvalues, -⟩ := mapM_perm hperm.symm hread'
                    rw [hread] at hvalues
                    cases hvalues
            | some values =>
                obtain ⟨values', hread', hvalues⟩ := mapM_perm hperm hread
                have hnodup : (values.map Prod.fst).Nodup := by
                  rw [map_fst_of_mapM hread]
                  exact hnames
                rw [hread', Option.map_some, Option.map_some, insertMembers_congr hnodup hvalues]

end Tree

/-! ## Revised members -/

/-- Members that come from others: some are kept, with their values changed as `alike` allows, some of
    undeclared names are removed, some are added, with values that are `fit`, and all of it is brought
    into any order. -/
inductive Revised (declared : List String) (alike : List Glyph → Tree → Tree → Prop)
    (fit : Tree → Prop) : List (List Glyph × Tree) → List (List Glyph × Tree) → Prop
  | nil : Revised declared alike fit [] []
  | keep {name : List Glyph} {t t' : Tree} {members members' : List (List Glyph × Tree)}
      (halike : alike name t t') (h : Revised declared alike fit members members') :
      Revised declared alike fit ((name, t) :: members) ((name, t') :: members')
  | remove {m : List Glyph × Tree} {members members' : List (List Glyph × Tree)}
      (hname : ∀ name, stringOf? m.1 = some name → name ∉ declared)
      (h : Revised declared alike fit members members') :
      Revised declared alike fit (m :: members) members'
  | add {m : List Glyph × Tree} {name : String} {members members' : List (List Glyph × Tree)}
      (hname : stringOf? m.1 = some name) (hnew : name ∉ declared) (hfit : fit m.2)
      (h : Revised declared alike fit members members') :
      Revised declared alike fit members (m :: members')
  | order {members members' members'' : List (List Glyph × Tree)} (hperm : members'.Perm members'')
      (h : Revised declared alike fit members members') :
      Revised declared alike fit members members''

/-- The reader of values accepts the value with so many levels left. -/
def Tree.Accepted (levels : Nat) (t : Tree) : Prop :=
  ∃ text v, t.Spells text ∧ valueFrom levels text = .ok (v, [])

theorem Tree.Accepted.value? {levels : Nat} {t : Tree} (h : t.Accepted levels) :
    ∃ v, t.value? levels = some v := by
  obtain ⟨text, v, hspells, hread⟩ := h
  have hvalue := valueFrom_spells hspells levels [] trivial
  rw [List.append_nil, hread] at hvalue
  obtain ⟨w, hw, -⟩ := Option.map_eq_some_iff.1 hvalue.symm
  exact ⟨w, hw⟩

/-- Values that differ in undeclared members at most. -/
inductive Value.Agrees (declared : List String) : Value → Value → Prop
  | same (v : Value) : Agrees declared v v
  | object {members members' : List (String × Value)}
      (h : members.filter (fun m => decide (m.1 ∈ declared)) =
        members'.filter (fun m => decide (m.1 ∈ declared))) :
      Agrees declared (.object members) (.object members')

/-- Revised members are read if the original ones are, and among the declared names to the same values
    in some order. -/
theorem Revised.mapM_sortedMember? {declared : List String} {levels : Nat}
    {members members' : List (List Glyph × Tree)}
    (h : Revised declared (fun _ => Tree.Reordered) (Tree.Accepted levels) members members')
    (hdistinct : ∀ m ∈ members, m.2.Distinct) {values : List (String × Value)}
    (hread : members.mapM (sortedMember? levels) = some values) :
    ∃ values', members'.mapM (sortedMember? levels) = some values' ∧
      (values.filter (fun m => decide (m.1 ∈ declared))).Perm
        (values'.filter (fun m => decide (m.1 ∈ declared))) := by
  induction h generalizing values with
  | nil => exact ⟨values, hread, .refl _⟩
  | @keep name t t' members members' halike _ ih =>
      rw [List.forall_mem_cons] at hdistinct
      rw [List.mapM_cons] at hread
      obtain ⟨p, hp, hread⟩ := Option.bind_eq_some_iff.1 hread
      obtain ⟨later, hlater, hread⟩ := Option.bind_eq_some_iff.1 hread
      cases hread
      obtain ⟨later', hlater', hperm⟩ := ih hdistinct.2 hlater
      have hsame : sortedMember? levels (name, t') = some p := by
        rw [← hp]
        simp only [sortedMember?, halike.sorted hdistinct.1]
      refine ⟨p :: later', ?_, ?_⟩
      · rw [List.mapM_cons, hsame, hlater']
        rfl
      · rw [List.filter_cons, List.filter_cons]
        split
        · exact hperm.cons p
        · exact hperm
  | @remove m members members' hname _ ih =>
      rw [List.forall_mem_cons] at hdistinct
      rw [List.mapM_cons] at hread
      obtain ⟨p, hp, hread⟩ := Option.bind_eq_some_iff.1 hread
      obtain ⟨later, hlater, hread⟩ := Option.bind_eq_some_iff.1 hread
      cases hread
      obtain ⟨later', hlater', hperm⟩ := ih hdistinct.2 hlater
      have hnew : p.1 ∉ declared := hname p.1 (sortedMember?_eq_some hp).1
      refine ⟨later', hlater', ?_⟩
      rwa [List.filter_cons_of_neg (by simpa using hnew)]
  | @add m name members members' hname hnew hfit _ ih =>
      obtain ⟨values', hread', hperm⟩ := ih hdistinct hread
      obtain ⟨v, hv⟩ := hfit.value?
      have hadded : sortedMember? levels m = some (name, v.sorted) := by
        rw [sortedMember?, hname, Tree.sorted?, hv]
        rfl
      refine ⟨(name, v.sorted) :: values', ?_, ?_⟩
      · rw [List.mapM_cons, hadded, hread']
        rfl
      · rwa [List.filter_cons_of_neg (by simpa using hnew)]
  | order hperm _ ih =>
      obtain ⟨values', hread', hvalues⟩ := ih hdistinct hread
      obtain ⟨values'', hread'', hvalues'⟩ := mapM_perm hperm hread'
      exact ⟨values'', hread'', hvalues.trans (hvalues'.filter _)⟩

/-- **An object whose members are revised** is read if the original is, and agrees with it on the
    declared members. -/
theorem Revised.sorted {declared : List String} {levels : Nat}
    {members members' : List (List Glyph × Tree)}
    (h : Revised declared (fun _ => Tree.Reordered) (Tree.Accepted (levels + 1)) members members')
    (hdistinct : (Tree.object members).Distinct) {v : Value}
    (hread : (Tree.object members).sorted? (levels + 2) = some v) :
    ∃ v', (Tree.object members').sorted? (levels + 2) = some v' ∧ v.Agrees declared v' := by
  cases hdistinct with
  | object hnames hvalues =>
      rw [Tree.sorted?_object] at hread
      obtain ⟨values, hmembers, rfl⟩ := Option.map_eq_some_iff.1 hread
      obtain ⟨values', hread', hperm⟩ := h.mapM_sortedMember? hvalues hmembers
      have hnodup : (values.map Prod.fst).Nodup := by
        rw [map_fst_of_mapM hmembers]
        exact hnames
      refine ⟨.object (insertMembers [] values'), ?_, .object ?_⟩
      · rw [Tree.sorted?_object, hread']
        rfl
      · exact filter_insertMembers_congr (p := fun name => decide (name ∈ declared))
          (hnodup.sublist (List.filter_sublist.map Prod.fst)) hperm

end NetGauge.Json
