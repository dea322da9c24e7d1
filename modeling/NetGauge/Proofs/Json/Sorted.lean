import NetGauge.Json.Value

set_option autoImplicit false

/-! # Sorted values

What the sorted form of a value is: a value in which the names of every object increase
(`Value.Ordered`). Putting members in one after the other brings about such an order, and where there is
one already it leaves everything in its place; so a value is its own sorted form exactly if it is ordered
(`Value.sorted_eq_self_iff`). -/

namespace NetGauge.Json

/-! ## Members -/

section

variable {α : Type}

/-- The names of members increase, so that none of them comes twice. -/
def Increasing (members : List (String × α)) : Prop :=
  (members.map Prod.fst).Pairwise (· < ·)

theorem increasing_nil : Increasing ([] : List (String × α)) := List.Pairwise.nil

/-- Putting a member in keeps the order. -/
theorem Increasing.insertMember {members : List (String × α)} (h : Increasing members) (name : String)
    (value : α) : Increasing (insertMember name value members) := by
  induction members with
  | nil => exact List.pairwise_singleton _ _
  | cons m rest ih =>
      obtain ⟨other, old⟩ := m
      have hlater : ∀ later ∈ rest.map Prod.fst, other < later := (List.pairwise_cons.1 h).1
      have hrest : Increasing rest := (List.pairwise_cons.1 h).2
      unfold Json.insertMember
      split
      · next hlt =>
          refine List.pairwise_cons.2 ⟨?_, h⟩
          intro later hmem
          rcases List.mem_cons.1 hmem with rfl | hmem
          · exact hlt
          · exact String.lt_trans hlt (hlater later hmem)
      · next hnot =>
          split
          · next heq =>
              subst heq
              exact List.pairwise_cons.2 ⟨hlater, hrest⟩
          · next hne =>
              have hlt : other < name := by
                refine Decidable.byContradiction fun hge => ?_
                exact hne (String.le_antisymm (String.not_lt.1 hge) (String.not_lt.1 hnot))
              refine List.pairwise_cons.2 ⟨?_, ih hrest⟩
              intro later hmem
              rcases (mem_insertMember name value rest later).1 hmem with rfl | hmem
              · exact hlt
              · exact hlater later hmem

/-- A member behind all others is put at the end. -/
theorem insertMember_of_lt {name : String} (value : α) {members : List (String × α)}
    (h : ∀ other ∈ members.map Prod.fst, other < name) :
    insertMember name value members = members ++ [(name, value)] := by
  induction members with
  | nil => rfl
  | cons m rest ih =>
      obtain ⟨other, old⟩ := m
      have hlt : other < name := h other List.mem_cons_self
      have hne : name ≠ other := by
        rintro rfl
        exact String.lt_irrefl name hlt
      have hrest := ih fun later hlater => h later (List.mem_cons_of_mem other hlater)
      rw [insertMember, if_neg (String.lt_asymm hlt), if_neg hne, hrest, List.cons_append]

theorem mem_of_mem_insertMember {name : String} {value : α} {members : List (String × α)}
    {m : String × α} (h : m ∈ insertMember name value members) : m = (name, value) ∨ m ∈ members := by
  induction members with
  | nil => exact .inl (List.mem_singleton.1 h)
  | cons first rest ih =>
      obtain ⟨other, old⟩ := first
      unfold insertMember at h
      split at h
      · exact List.mem_cons.1 h
      · split at h
        · rcases List.mem_cons.1 h with h | h
          · exact .inl h
          · exact .inr (List.mem_cons_of_mem _ h)
        · rcases List.mem_cons.1 h with h | h
          · exact .inr (h ▸ List.mem_cons_self)
          · exact (ih h).imp_right (List.mem_cons_of_mem _)

/-- Members put one after the other into members that are there. -/
def insertMembers (done members : List (String × α)) : List (String × α) :=
  members.foldl (fun done m => insertMember m.1 m.2 done) done

theorem Increasing.insertMembers {done : List (String × α)} (h : Increasing done)
    (members : List (String × α)) : Increasing (insertMembers done members) := by
  induction members generalizing done with
  | nil => exact h
  | cons m members ih => exact ih (h.insertMember m.1 m.2)

theorem mem_of_mem_insertMembers {done members : List (String × α)} {m : String × α}
    (h : m ∈ insertMembers done members) : m ∈ done ∨ m ∈ members := by
  induction members generalizing done with
  | nil => exact .inl h
  | cons first members ih =>
      rcases ih h with hmem | hmem
      · rcases mem_of_mem_insertMember hmem with rfl | hmem
        · exact .inr List.mem_cons_self
        · exact .inl hmem
      · exact .inr (List.mem_cons_of_mem _ hmem)

/-- Members in their order stay in it. -/
theorem insertMembers_of_increasing {done members : List (String × α)}
    (h : Increasing (done ++ members)) : insertMembers done members = done ++ members := by
  induction members generalizing done with
  | nil => exact (List.append_nil done).symm
  | cons m members ih =>
      have hsplit : done ++ m :: members = done ++ [m] ++ members := by simp
      have hbehind : ∀ other ∈ done.map Prod.fst, other < m.1 := by
        intro other hother
        rw [Increasing, List.map_append, List.pairwise_append] at h
        exact h.2.2 other hother m.1 List.mem_cons_self
      have hstep : insertMembers done (m :: members) = insertMembers (done ++ [m]) members := by
        rw [← insertMember_of_lt m.2 hbehind]
        rfl
      rw [hstep, hsplit]
      exact ih (hsplit ▸ h)

section

variable {p : String → Bool}

/-- Among the members of some names, one that is put in is added, if its name is new there. -/
theorem perm_filter_insertMember {name : String} (value : α) {members : List (String × α)}
    (hnew : p name = true → name ∉ members.map Prod.fst) :
    ((insertMember name value members).filter (fun m => p m.1)).Perm
      (((name, value) :: members).filter (fun m => p m.1)) := by
  induction members with
  | nil => rfl
  | cons m rest ih =>
      obtain ⟨other, old⟩ := m
      have hrest := ih fun hp hmem => hnew hp (List.mem_cons_of_mem other hmem)
      unfold insertMember
      split
      · rfl
      split
      · next heq =>
          subst heq
          have hp : ¬p name = true := fun hp => hnew hp List.mem_cons_self
          simp [hp]
      · rw [List.filter_cons]
        by_cases hother : p other = true
        · rw [if_pos hother]
          refine (hrest.cons (other, old)).trans ?_
          by_cases hp : p name = true
          · simp only [List.filter_cons, hp, hother, if_true]
            exact .swap ..
          · simp [hp, hother]
        · rw [if_neg hother]
          refine hrest.trans ?_
          simp [List.filter_cons, hother]

/-- Members of some names that are put in are added, if they have different names. -/
theorem perm_filter_insertMembers {done members : List (String × α)}
    (hnodup : (((done ++ members).filter (fun m => p m.1)).map Prod.fst).Nodup) :
    ((insertMembers done members).filter (fun m => p m.1)).Perm
      ((done ++ members).filter (fun m => p m.1)) := by
  induction members generalizing done with
  | nil => rw [List.append_nil]; rfl
  | cons m rest ih =>
      have hmiddle : ((done ++ m :: rest).filter (fun m => p m.1)).Perm
          ((m :: done ++ rest).filter (fun m => p m.1)) := List.perm_middle.filter _
      have hnodup' := (hmiddle.map Prod.fst).nodup_iff.1 hnodup
      have hnew : p m.1 = true → m.1 ∉ done.map Prod.fst := by
        intro hp hmem
        obtain ⟨other, hother, heq⟩ := List.mem_map.1 hmem
        rw [List.cons_append, List.filter_cons, if_pos hp, List.map_cons, List.nodup_cons] at hnodup'
        refine hnodup'.1 (List.mem_map.2 ⟨other, List.mem_filter.2 ⟨?_, heq ▸ hp⟩, heq⟩)
        exact List.mem_append_left _ hother
      have hstep : ((insertMember m.1 m.2 done ++ rest).filter (fun m => p m.1)).Perm
          ((m :: done ++ rest).filter (fun m => p m.1)) := by
        rw [List.filter_append, List.filter_append]
        exact (perm_filter_insertMember m.2 hnew).append_right _
      have hrest := ih ((hstep.map Prod.fst).nodup_iff.2 hnodup')
      exact (hrest.trans hstep).trans hmiddle.symm

theorem Increasing.filter {members : List (String × α)} (h : Increasing members) :
    Increasing (members.filter (fun m => p m.1)) :=
  List.Pairwise.sublist (List.filter_sublist.map Prod.fst) h

/-- **The order in which members are put in makes no difference** if they have different names; nor do
    other members, for those of some names. -/
theorem filter_insertMembers_congr {members others : List (String × α)}
    (hnodup : ((members.filter (fun m => p m.1)).map Prod.fst).Nodup)
    (hperm : (members.filter (fun m => p m.1)).Perm (others.filter (fun m => p m.1))) :
    (insertMembers [] members).filter (fun m => p m.1) =
      (insertMembers [] others).filter (fun m => p m.1) := by
  have hmembers : ((insertMembers [] members).filter (fun m => p m.1)).Perm
      (members.filter (fun m => p m.1)) := perm_filter_insertMembers hnodup
  have hothers : ((insertMembers [] others).filter (fun m => p m.1)).Perm
      (others.filter (fun m => p m.1)) :=
    perm_filter_insertMembers ((hperm.map Prod.fst).nodup_iff.1 hnodup)
  have hasymm : ∀ m n : String × α, m.1 < n.1 → n.1 < m.1 → m = n :=
    fun m n hlt hgt => absurd hgt (String.lt_asymm hlt)
  exact List.Perm.eq_of_pairwise (fun m n _ _ => hasymm m n)
    (List.pairwise_map.1 (increasing_nil.insertMembers members).filter)
    (List.pairwise_map.1 (increasing_nil.insertMembers others).filter)
    ((hmembers.trans hperm).trans hothers.symm)

theorem insertMembers_congr {members others : List (String × α)}
    (hnodup : (members.map Prod.fst).Nodup) (hperm : members.Perm others) :
    insertMembers [] members = insertMembers [] others := by
  have hall : ∀ ms : List (String × α), ms.filter (fun m => (fun _ => true) m.1) = ms :=
    fun ms => List.filter_eq_self.2 fun _ _ => rfl
  have h := @filter_insertMembers_congr _ (fun _ => true) members others
  rw [hall, hall, hall, hall] at h
  exact h hnodup hperm

end

end

/-! ## Values -/

namespace Value

/-- In every object of the value, at any depth, the names increase. -/
inductive Ordered : Value → Prop
  | null : Ordered .null
  | bool (b : Bool) : Ordered (.bool b)
  | number (n : Number) : Ordered (.number n)
  | string (s : String) : Ordered (.string s)
  | array (elements : List Value) (h : ∀ v ∈ elements, Ordered v) : Ordered (.array elements)
  | object (members : List (String × Value)) (hnames : Increasing members)
      (h : ∀ m ∈ members, Ordered m.2) : Ordered (.object members)

theorem sortedElements_eq_self {elements : List Value} (h : ∀ v ∈ elements, v.sorted = v) :
    sortedElements elements = elements := by
  induction elements with
  | nil => rfl
  | cons v rest ih =>
      rw [sortedElements, h v List.mem_cons_self, ih fun w hw => h w (List.mem_cons_of_mem v hw)]

theorem sortedMembers_eq_self {members : List (String × Value)} (h : ∀ m ∈ members, m.2.sorted = m.2) :
    sortedMembers members = members := by
  induction members with
  | nil => rfl
  | cons m rest ih =>
      rw [sortedMembers, h m List.mem_cons_self, ih fun n hn => h n (List.mem_cons_of_mem m hn)]

theorem sortedElements_eq_map (elements : List Value) :
    sortedElements elements = elements.map Value.sorted := by
  induction elements with
  | nil => rfl
  | cons v rest ih => rw [sortedElements, ih, List.map_cons]

theorem sortedMembers_eq_map (members : List (String × Value)) :
    sortedMembers members = members.map (fun m => (m.1, m.2.sorted)) := by
  induction members with
  | nil => rfl
  | cons m rest ih => rw [sortedMembers, ih, List.map_cons]

theorem Ordered.sorted {v : Value} (h : v.Ordered) : v.sorted = v := by
  induction h with
  | null | bool | number | string => rfl
  | array elements _ ih => rw [Value.sorted, sortedElements_eq_self ih]
  | object members hnames _ ih =>
      rw [Value.sorted, sortedMembers_eq_self ih]
      exact congrArg Value.object (insertMembers_of_increasing hnames)

mutual

/-- The sorted form of a value is ordered. -/
theorem ordered_sorted : ∀ v : Value, v.sorted.Ordered
  | .null => .null
  | .bool b => .bool b
  | .number n => .number n
  | .string s => .string s
  | .array elements => .array _ (ordered_sortedElements elements)
  | .object members => by
      refine .object _ (increasing_nil.insertMembers _) ?_
      intro m hm
      rcases mem_of_mem_insertMembers hm with hm | hm
      · cases hm
      · exact ordered_sortedMembers members m hm

theorem ordered_sortedElements : ∀ elements : List Value, ∀ v ∈ sortedElements elements, v.Ordered
  | [] => nofun
  | first :: rest => by
      intro v hv
      rcases List.mem_cons.1 hv with rfl | hv
      · exact ordered_sorted first
      · exact ordered_sortedElements rest v hv

theorem ordered_sortedMembers :
    ∀ members : List (String × Value), ∀ m ∈ sortedMembers members, m.2.Ordered
  | [] => nofun
  | (_, first) :: rest => by
      intro m hm
      rcases List.mem_cons.1 hm with rfl | hm
      · exact ordered_sorted first
      · exact ordered_sortedMembers rest m hm

end

/-- **Sorting moves what is out of order,** and nothing else. -/
theorem sorted_eq_self_iff (v : Value) : v.sorted = v ↔ v.Ordered :=
  ⟨fun h => h ▸ v.ordered_sorted, Ordered.sorted⟩

end Value

end NetGauge.Json
