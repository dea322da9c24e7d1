set_option autoImplicit false

/-! # Texts in pieces

A text is cut into pieces at its marks, and put together with marks between the pieces. The pieces are read one
by one, and the whole is read when all of them are. -/

namespace NetGauge

/-! ## Marks between texts -/

section

variable {α : Type} {mark x : α} {texts : List (List α)}

/-- Texts that are each closed by a mark are found again between the marks, and nothing behind the last. -/
theorem splitOn_closed [BEq α] [LawfulBEq α] (h : ∀ text ∈ texts, mark ∉ text) :
    (texts.flatMap (fun text => text ++ [mark])).splitOn mark = texts ++ [[]] := by
  induction texts with
  | nil => exact List.splitOn_nil mark
  | cons text texts ih =>
      have htext := h text List.mem_cons_self
      have hlater := ih fun later hlater => h later (List.mem_cons_of_mem text hlater)
      rw [List.flatMap_cons, List.append_assoc, List.singleton_append,
        List.splitOn_append_cons_self_of_not_mem htext, hlater, List.cons_append]

/-- What stands in texts with marks between them is a mark or stands in one of the texts. -/
theorem mem_of_mem_intercalate (h : x ∈ [mark].intercalate texts) : x = mark ∨ ∃ text ∈ texts, x ∈ text := by
  induction texts with
  | nil => cases h
  | cons text texts ih =>
      by_cases hlast : texts = []
      · subst hlast
        rw [List.intercalate_singleton] at h
        exact .inr ⟨text, List.mem_cons_self, h⟩
      · rw [List.intercalate_cons_of_ne_nil hlast, List.mem_append, List.mem_append] at h
        rcases h with (h | h) | h
        · exact .inr ⟨text, List.mem_cons_self, h⟩
        · exact .inl (List.mem_singleton.1 h)
        · refine (ih h).imp_right ?_
          rintro ⟨later, hlater, hx⟩
          exact ⟨later, List.mem_cons_of_mem text hlater, hx⟩

/-- The pieces between marks hold what the whole does, but for the marks. -/
theorem mem_of_mem_splitOn [BEq α] [LawfulBEq α] {whole piece : List α} (hpiece : piece ∈ whole.splitOn mark)
    (hx : x ∈ piece) : x ∈ whole ∧ x ≠ mark := by
  induction whole generalizing piece with
  | nil =>
      rw [List.splitOn_nil, List.mem_singleton] at hpiece
      subst hpiece
      cases hx
  | cons y whole ih =>
      rw [List.splitOn_cons_eq_if_modifyHead] at hpiece
      by_cases hmark : (y == mark) = true
      · rw [if_pos hmark, List.mem_cons] at hpiece
        rcases hpiece with rfl | hpiece
        · cases hx
        · exact (ih hpiece hx).imp_left (List.mem_cons_of_mem y)
      · obtain ⟨first, pieces, hpieces⟩ := List.exists_cons_of_ne_nil (List.splitOn_ne_nil mark whole)
        rw [hpieces] at ih
        rw [if_neg hmark, hpieces, List.modifyHead_cons, List.mem_cons] at hpiece
        rcases hpiece with rfl | hpiece
        · rcases List.mem_cons.1 hx with rfl | hx
          · exact ⟨List.mem_cons_self, by simpa using hmark⟩
          · exact (ih List.mem_cons_self hx).imp_left (List.mem_cons_of_mem y)
        · exact (ih (List.mem_cons_of_mem first hpiece) hx).imp_left (List.mem_cons_of_mem y)

end

/-! ## Parts one by one -/

section

variable {α β : Type} {f : α → Option β}

theorem mapM_eq_some_map {g : α → β} {l : List α} (h : ∀ a ∈ l, f a = some (g a)) : l.mapM f = some (l.map g) := by
  induction l with
  | nil => rfl
  | cons a l ih =>
      simp only [List.mem_cons, forall_eq_or_imp] at h
      simp [h.1, ih h.2]

theorem mapM_eq_some_cons {a : α} {l : List α} {r : List β} (h : (a :: l).mapM f = some r) :
    ∃ b bs, f a = some b ∧ l.mapM f = some bs ∧ r = b :: bs := by
  simp only [List.mapM_cons, Option.bind_eq_bind, Option.bind_eq_some_iff] at h
  obtain ⟨b, hb, bs, hbs, hr⟩ := h
  exact ⟨b, bs, hb, hbs, (Option.some.inj hr).symm⟩

/-- Every part of the result has one that it comes from. -/
theorem exists_of_mem_mapM {l : List α} {r : List β} (h : l.mapM f = some r) : ∀ b ∈ r, ∃ a ∈ l, f a = some b := by
  induction l generalizing r with
  | nil =>
      cases h
      simp
  | cons a l ih =>
      obtain ⟨b, bs, hb, hbs, rfl⟩ := mapM_eq_some_cons h
      simp only [List.mem_cons, forall_eq_or_imp, exists_eq_or_imp]
      exact ⟨.inl hb, fun c hc => .inr (ih hbs c hc)⟩

/-- Parts that are undone if they satisfy a condition are undone together if they all do. -/
theorem mapM_map_guarded {g : β → α} {p : β → Bool} {l : List β}
    (h : ∀ b ∈ l, f (g b) = if p b then some b else none) :
    (l.map g).mapM f = if l.all p then some l else none := by
  induction l with
  | nil => rfl
  | cons b l ih =>
      simp only [List.mem_cons, forall_eq_or_imp] at h
      rw [List.map_cons, List.mapM_cons, h.1, ih h.2]
      by_cases hb : p b = true
      · by_cases hl : l.all p = true <;> simp [hb, hl]
      · simp [hb]

end

end NetGauge
