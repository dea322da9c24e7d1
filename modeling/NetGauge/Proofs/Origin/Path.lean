import Mathlib.Data.List.TakeWhile
import NetGauge.Origin.Path
import NetGauge.Proofs.Text.Pieces

set_option autoImplicit false

/-! # Paths read back

The text of a path is read as that path (`Path.parse_toList_text`), since nothing is left in it that would be encoded or
followed (`Path.sound_of_parse`). -/

namespace NetGauge.Origin

open Text (percentEncode percentEncode_of_not_escaped)

variable {marks cs : List Char} {c : Char}

/-! ## Written form -/

theorem lt_of_not_escaped (hspace : ' ' ∈ marks) (h : isEscaped marks c = false) : 32 < c.toNat := by
  simp only [isEscaped, Bool.or_eq_false_iff, decide_eq_false_iff_not] at h
  obtain ⟨⟨hcontrol, -⟩, hmark⟩ := h
  have hne : c ≠ ' ' := by
    rintro rfl
    simp [hspace] at hmark
  have hnat : c.toNat ≠ 32 := fun heq => hne (Char.toNat_inj.1 heq)
  omega

/-- What has nothing that is escaped is written as it is. -/
theorem written_toList {part : String} (h : ∀ c ∈ part.toList, isEscaped marks c = false) :
    written marks part.toList = part := by
  rw [written, percentEncode_of_not_escaped _ _ h, String.ofList_toList]

theorem map_written {part : Option String} (hpart : ∀ text ∈ part, ∀ c ∈ text.toList, isEscaped marks c = false) :
    (part.map String.toList).map (written marks) = part := by
  cases part with
  | none => rfl
  | some text => exact congrArg some (written_toList (hpart text rfl))

/-- Nothing that is escaped is left in a part that is written, if what stands for it is none of the marks. -/
theorem not_escaped_of_mem_written (hpercent : isEscaped marks '%' = false)
    (hcapital : ∀ n < 16, isEscaped marks (Text.hexCapital n) = false) (h : c ∈ (written marks cs).toList) :
    isEscaped marks c = false := by
  rw [written, String.toList_ofList] at h
  exact Text.not_escaped_of_mem_percentEncode hpercent hcapital h

/-! ## Splitting at a mark -/

/-- What stands from a mark on. -/
def marked (mark : Char) : Option (List Char) → List Char
  | none => []
  | some rest => mark :: rest

/-- Behind the mark there is nothing that is escaped in its part. -/
theorem mem_marked {mark : Char} {part : Option String}
    (hpart : ∀ text ∈ part, ∀ c ∈ text.toList, isEscaped marks c = false)
    (hc : c ∈ marked mark (part.map String.toList)) : c = mark ∨ isEscaped marks c = false := by
  cases part with
  | none => simp [marked] at hc
  | some text =>
      rw [Option.map_some, marked, List.mem_cons] at hc
      exact hc.imp_right (hpart text rfl c)

theorem splitFirst_marked {mark : Char} {front : List Char} (h : mark ∉ front) (rest : Option (List Char)) :
    splitFirst mark (front ++ marked mark rest) = (front, rest) := by
  have hfront : ∀ c ∈ front, decide (c ≠ mark) = true := by
    intro c hc
    simp only [decide_eq_true_eq]
    rintro rfl
    exact h hc
  cases rest with
  | none =>
      have hdrop : front.dropWhile (· ≠ mark) = [] := List.dropWhile_eq_nil_iff.2 hfront
      simp only [splitFirst, marked, List.append_nil, hdrop]
  | some rest =>
      have hdrop : (front ++ mark :: rest).dropWhile (· ≠ mark) = mark :: rest := by
        rw [List.dropWhile_append_of_pos hfront, List.dropWhile_cons_of_neg (by simp)]
      have htake : (front ++ mark :: rest).takeWhile (· ≠ mark) = front := by
        rw [List.takeWhile_append_of_pos hfront, List.takeWhile_cons_of_neg (by simp), List.append_nil]
      simp only [splitFirst, marked, hdrop, htake]

/-! ## Segments -/

namespace Path

/-- Whether a character can stand in a segment. -/
def isSegmentChar (c : Char) : Bool := !isEscaped pathMarks c && c ≠ '/' && c ≠ '\\'

theorem isSegmentChar_iff : isSegmentChar c = true ↔ isEscaped pathMarks c = false ∧ c ≠ '/' ∧ c ≠ '\\' := by
  simp [isSegmentChar, and_assoc]

/-- What holds of a segment that was read. -/
structure IsSegment (segment : List Char) : Prop where
  chars : ∀ c ∈ segment, isSegmentChar c = true
  dot : isDot segment = false
  doubleDot : isDoubleDot segment = false

/-- What holds of a path that was read. -/
structure IsSound (path : List String) : Prop where
  some : path ≠ []
  segments : ∀ segment ∈ path, IsSegment segment.toList

theorem IsSound.chars {path : List String} (h : IsSound path) {segment : String} (hsegment : segment ∈ path)
    {c : Char} (hc : c ∈ segment.toList) : isEscaped pathMarks c = false ∧ c ≠ '/' ∧ c ≠ '\\' :=
  isSegmentChar_iff.1 ((h.segments segment hsegment).chars c hc)

theorem isSegment_nil : IsSegment [] := ⟨by simp, by decide, by decide⟩

variable {reached segments : List (List Char)}

/-- Segments that are no dots are all reached. -/
theorem follow_of_segments (h : ∀ segment ∈ segments, IsSegment segment) :
    follow reached segments = reached.reverse ++ segments := by
  induction segments generalizing reached with
  | nil => simp [follow]
  | cons segment segments ih =>
      simp only [List.mem_cons, forall_eq_or_imp] at h
      rw [follow, if_neg (by simp [h.1.dot, h.1.doubleDot]), ih h.2]
      simp

/-- Where a path leads there is a segment. -/
theorem follow_ne_nil (h : reached ≠ [] ∨ segments ≠ []) : follow reached segments ≠ [] := by
  induction segments generalizing reached with
  | nil => simpa [follow] using h
  | cons segment segments ih =>
      rw [follow]
      by_cases hdots : isDot segment ∨ isDoubleDot segment
      · rw [if_pos hdots]
        refine ih ?_
        cases segments with
        | nil => exact .inl (by simp)
        | cons next segments => exact .inr (by simp)
      · rw [if_neg hdots]
        exact ih (.inl (by simp))

/-- No dots are left where a path leads. -/
theorem isSegment_of_mem_follow (hreached : ∀ segment ∈ reached, IsSegment segment)
    (hchars : ∀ segment ∈ segments, ∀ c ∈ segment, isSegmentChar c = true) :
    ∀ segment ∈ follow reached segments, IsSegment segment := by
  induction segments generalizing reached with
  | nil =>
      intro segment hsegment
      exact hreached segment (List.mem_reverse.1 hsegment)
  | cons segment segments ih =>
      simp only [List.mem_cons, forall_eq_or_imp] at hchars
      rw [follow]
      by_cases hdots : isDot segment ∨ isDoubleDot segment
      · rw [if_pos hdots]
        have hback : ∀ other ∈ if isDoubleDot segment then reached.tail else reached, IsSegment other := by
          intro other hother
          split at hother
          · exact hreached other (List.mem_of_mem_tail hother)
          · exact hreached other hother
        refine ih (fun other hother => ?_) hchars.2
        split at hother
        · rcases List.mem_cons.1 hother with rfl | hother
          · exact isSegment_nil
          · exact hback other hother
        · exact hback other hother
      · rw [if_neg hdots]
        simp only [not_or, Bool.not_eq_true] at hdots
        refine ih (fun other hother => ?_) hchars.2
        rcases List.mem_cons.1 hother with rfl | hother
        · exact ⟨hchars.1, hdots.1, hdots.2⟩
        · exact hreached other hother

/-! ## Paths -/

theorem slashed_ne (c : Char) : slashed c ≠ '\\' := by
  unfold slashed
  by_cases hc : c = '\\'
  · rw [if_pos hc]
    decide
  · rwa [if_neg hc]

/-- The segments that a path is made of before they are followed. -/
theorem exists_segments (cs : List Char) :
    ∃ segments : List (List Char), segments ≠ [] ∧ (∀ segment ∈ segments, ∀ c ∈ segment, c ≠ '/' ∧ c ≠ '\\') ∧
      parse cs = (follow [] (segments.map (percentEncode (isEscaped pathMarks)))).map String.ofList := by
  have hsplit : ∀ rest : List Char, (∀ c ∈ rest, c ≠ '\\') →
      ∀ segment ∈ rest.splitOn '/', ∀ c ∈ segment, c ≠ '/' ∧ c ≠ '\\' := by
    intro rest hrest segment hsegment c hc
    obtain ⟨hmem, hne⟩ := mem_of_mem_splitOn hsegment hc
    exact ⟨hne, hrest c hmem⟩
  have hslashed : ∀ c ∈ cs.map slashed, c ≠ '\\' := by
    intro c hc
    obtain ⟨d, -, rfl⟩ := List.mem_map.1 hc
    exact slashed_ne d
  unfold parse
  generalize cs.map slashed = cs at hslashed
  dsimp only
  split
  · next rest =>
      refine ⟨_, List.splitOn_ne_nil '/' rest, hsplit rest fun c hc => ?_, rfl⟩
      exact hslashed c (List.mem_cons_of_mem _ hc)
  · exact ⟨_, List.splitOn_ne_nil '/' cs, hsplit cs hslashed, rfl⟩

/-- **What is read for a path is sound.** -/
theorem sound_of_parse (cs : List Char) : IsSound (parse cs) := by
  obtain ⟨segments, hne, hchars, hparse⟩ := exists_segments cs
  rw [hparse]
  refine ⟨?_, fun segment hsegment => ?_⟩
  · rw [ne_eq, List.map_eq_nil_iff]
    exact follow_ne_nil (.inr (by simpa using hne))
  · obtain ⟨segment, hmem, rfl⟩ := List.mem_map.1 hsegment
    rw [String.toList_ofList]
    refine isSegment_of_mem_follow (by simp) (fun part hpart c hc => ?_) segment hmem
    obtain ⟨source, hsource, rfl⟩ := List.mem_map.1 hpart
    have hcapital : ∀ n < 16, isSegmentChar (Text.hexCapital n) = true := by decide
    rcases Text.mem_percentEncode hc with ⟨hmem, hescaped⟩ | rfl | ⟨n, hn, rfl⟩
    · exact isSegmentChar_iff.2 ⟨hescaped, hchars source hsource c hmem⟩
    · decide
    · exact hcapital n hn

variable {path : List String}

/-- **A path is read from its text.** -/
theorem parse_toList_text (h : IsSound path) : parse (text path).toList = path := by
  have hsplit : (['/'].intercalate (path.map String.toList)).splitOn '/' = path.map String.toList := by
    refine List.splitOn_intercalate '/' (fun part hpart hslash => ?_) (by simpa using h.some)
    obtain ⟨segment, hsegment, rfl⟩ := List.mem_map.1 hpart
    exact (h.chars hsegment hslash).2.1 rfl
  have hback : ∀ c ∈ ['/'].intercalate (path.map String.toList), slashed c = c := by
    intro c hc
    rcases mem_of_mem_intercalate hc with rfl | ⟨part, hpart, hc⟩
    · rfl
    · obtain ⟨segment, hsegment, rfl⟩ := List.mem_map.1 hpart
      exact if_neg (h.chars hsegment hc).2.2
  have hslashed : (text path).toList.map slashed = '/' :: ['/'].intercalate (path.map String.toList) := by
    rw [text, String.toList_ofList, List.map_cons, List.map_congr_left hback, List.map_id']
    rfl
  have hencoded : (path.map String.toList).map (percentEncode (isEscaped pathMarks)) = path.map String.toList := by
    rw [List.map_map]
    refine List.map_congr_left fun segment hsegment => ?_
    exact percentEncode_of_not_escaped _ _ fun c hc => (h.chars hsegment hc).1
  have hsegments : ∀ segment ∈ path.map String.toList, IsSegment segment := by
    intro part hpart
    obtain ⟨segment, hsegment, rfl⟩ := List.mem_map.1 hpart
    exact h.segments segment hsegment
  simp only [parse, hslashed, hsplit, hencoded, follow_of_segments hsegments]
  simp

end Path

end NetGauge.Origin
