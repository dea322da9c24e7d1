import NetGauge.Origin.Domain
import NetGauge.Proofs.Text.Pieces
import NetGauge.Proofs.Text.Punycode.ReadBack

set_option autoImplicit false

/-! # Names read back

The ASCII form of a name is its own ASCII form, unless one of its labels is too long to be decoded
(`ascii?_of_ascii?`). For this it is enough to know of every label what can be written in it: `Label.IsSound` holds
of what is read (`sound_of_label?`), and what is written for a sound label is read as that label
(`label?_written`). -/

namespace NetGauge.Origin.Domain

open Text (Punycode.decode? Punycode.encode)

/-! ## Characters -/

/-- Whether a character can stand in the ASCII form of a name. -/
def isWritten (c : Char) : Bool := c.toNat < 128 && Spelling.isPlain c && !isForbidden c

theorem isWritten_iff {c : Char} :
    isWritten c = true ↔ c.toNat < 128 ∧ Spelling.isPlain c = true ∧ isForbidden c = false := by
  simp [isWritten, and_assoc]

/-- What holds of all ASCII characters can be tried out. -/
theorem forall_ascii {p : Char → Prop} (h : ∀ n < 128, p (Char.ofNat n)) {c : Char} (hc : c.toNat < 128) : p c := by
  have hof := h c.toNat hc
  rwa [Char.ofNat_toNat] at hof

theorem spelled?_of_isWritten {c : Char} (h : isWritten c = true) : Spelling.spelled? c = some [c] := by
  obtain ⟨hascii, hplain, -⟩ := isWritten_iff.1 h
  have hlower : c.toLower = c := by
    refine forall_ascii (p := fun c => Spelling.isPlain c = true → c.toLower = c) ?_ hascii hplain
    decide
  simp [Spelling.spelled?, hascii, hlower]

theorem isWritten_digit : ∀ n < 36, isWritten (Text.Punycode.digit n) = true ∧ Text.Punycode.digit n ≠ '.' := by
  decide

/-- The spelling that counts is not spelled in another way. -/
theorem spelled?_of_written {name : List Char} (h : ∀ c ∈ name, isWritten c = true) : spelled? name = some name := by
  have hspelled : name.mapM Spelling.spelled? = some (name.map ([·])) :=
    mapM_eq_some_map fun c hc => spelled?_of_isWritten (h c hc)
  have hascii : ∀ c ∈ name, c.toNat < 128 := fun c hc => (isWritten_iff.1 (h c hc)).1
  have hallowed : name.any isForbidden = false :=
    List.any_eq_false.2 fun c hc => by simp [(isWritten_iff.1 (h c hc)).2.2]
  have hflatten : (name.map ([·])).flatten = name := by
    rw [← List.flatMap_def, List.flatMap_singleton']
  simp only [spelled?, hspelled, Option.bind_eq_bind, Option.bind_some, hflatten, Text.compose_of_ascii name hascii,
    hallowed, Bool.false_eq_true, if_false]

theorem not_isForbidden_of_spelled? {name spelled : List Char} (h : spelled? name = some spelled) :
    ∀ c ∈ spelled, isForbidden c = false := by
  simp only [spelled?, Option.bind_eq_bind, Option.bind_eq_some_iff] at h
  obtain ⟨parts, -, h⟩ := h
  split at h
  · cases h
  · next hany =>
      injection h with h
      subst h
      simpa using hany

/-! ## Labels -/

namespace Label

/-- Whether what is written for a label is short enough to be decoded. -/
def isReadable : Label → Bool
  | .ascii _ => true
  | .encoded text => decide ((Punycode.encode text).length ≤ maxEncodedLength)

/-- What holds of a label of a name that has an ASCII form. -/
inductive IsSound : Label → Prop where
  | ascii {text : List Char} (hwritten : ∀ c ∈ text, isWritten c = true ∧ c ≠ '.') (hmark : ¬mark <+: text) :
      IsSound (.ascii text)
  | encoded {text : List Char} (hhold : mayHold text = true) (hdot : '.' ∉ text)
      (hbeyond : ∃ c ∈ text, 128 ≤ c.toNat) : IsSound (.encoded text)

variable {label : Label}

/-- What a label may hold beside characters beyond ASCII. -/
theorem isWritten_of_mayHold {text : List Char} (h : mayHold text = true) {c : Char} (hc : c ∈ text)
    (hascii : c.toNat < 128) : isWritten c = true := by
  simp only [mayHold, Bool.and_eq_true, List.all_eq_true, Bool.not_eq_true', List.any_eq_false,
    Bool.not_eq_true] at h
  obtain ⟨⟨⟨⟨⟨hplain, hforbidden⟩, -⟩, -⟩, -⟩, -⟩ := h
  exact isWritten_iff.2 ⟨hascii, hplain c hc, hforbidden c hc⟩

theorem length_le_of_mayHold {text : List Char} (h : mayHold text = true) :
    text.length ≤ Text.Punycode.maxLength := by
  simp only [mayHold, Bool.and_eq_true, decide_eq_true_eq] at h
  exact h.2

theorem IsSound.mem_written (h : label.IsSound) {c : Char} (hc : c ∈ label.written) :
    isWritten c = true ∧ c ≠ '.' := by
  cases h with
  | ascii hwritten => exact hwritten c hc
  | encoded hhold hdot =>
      have hmark : mark.all (fun c => isWritten c && c ≠ '.') = true := by decide
      rw [written, List.mem_append] at hc
      rcases hc with hc | hc
      · simpa using List.all_eq_true.1 hmark c hc
      · rcases Text.Punycode.mem_encode hc with ⟨hmem, hascii⟩ | rfl | ⟨n, hn, rfl⟩
        · exact ⟨isWritten_of_mayHold hhold hmem hascii, fun heq => hdot (heq ▸ hmem)⟩
        · decide
        · exact isWritten_digit n hn

end Label

theorem encoded?_eq_some {text : List Char} {label : Label} (h : encoded? text = some label) :
    mayHold text = true ∧ label = .encoded text := by
  unfold encoded? at h
  split at h
  · next hhold =>
      injection h with h
      exact ⟨hhold, h.symm⟩
  · cases h

theorem decoded?_eq_some {coded text : List Char} (h : decoded? coded = some text) :
    (∀ c ∈ text, c ∈ coded ∨ 128 ≤ c.toNat) ∧ ∃ c ∈ text, 128 ≤ c.toNat := by
  unfold decoded? at h
  split at h
  · next hread =>
      obtain ⟨-, hne, hlast, -⟩ := hread
      exact Text.Punycode.sound_of_decode? h (by simpa using hne) hlast
  · cases h

/-- What is read for a part of a name is sound. -/
theorem sound_of_label? {cs : List Char} {label : Label} (h : label? cs = some label) (hdot : '.' ∉ cs)
    (hallowed : ∀ c ∈ cs, isForbidden c = false) : label.IsSound := by
  unfold label? at h
  split at h
  · next coded =>
      obtain ⟨text, hdecoded, hencoded⟩ := Option.bind_eq_some_iff.1 h
      obtain ⟨hhold, rfl⟩ := encoded?_eq_some hencoded
      obtain ⟨hmem, hbeyond⟩ := decoded?_eq_some hdecoded
      refine .encoded hhold (fun hin => ?_) hbeyond
      rcases hmem '.' hin with hin | hlarge
      · exact hdot (by simp [hin])
      · exact absurd hlarge (by decide)
  · next hmark =>
      by_cases hascii : isAscii cs = true
      · rw [if_neg (by simp [hascii])] at h
        split at h
        · next hplain =>
            injection h with h
            subst h
            refine .ascii (fun c hc => ⟨isWritten_iff.2 ⟨?_, List.all_eq_true.1 hplain c hc, hallowed c hc⟩, ?_⟩) ?_
            · simpa using List.all_eq_true.1 hascii c hc
            · exact fun heq => hdot (heq ▸ hc)
            · rintro ⟨coded, rfl⟩
              exact hmark coded rfl
        · cases h
      · rw [if_pos (by simp [hascii])] at h
        obtain ⟨hhold, rfl⟩ := encoded?_eq_some h
        refine .encoded hhold hdot ?_
        simpa [isAscii] using hascii

/-- **What is written for a sound label is read as that label**, if it is short enough. -/
theorem label?_written {label : Label} (h : label.IsSound) :
    label? label.written = if label.isReadable then some label else none := by
  cases h with
  | @ascii text hwritten hmark =>
      have hascii : isAscii text = true :=
        List.all_eq_true.2 fun c hc => by simpa using (isWritten_iff.1 (hwritten c hc).1).1
      have hplain : text.all Spelling.isPlain = true :=
        List.all_eq_true.2 fun c hc => (isWritten_iff.1 (hwritten c hc).1).2.1
      rw [Label.written, label?]
      · simp [hascii, hplain, Label.isReadable]
      · intro coded heq
        exact hmark ⟨coded, heq.symm⟩
  | @encoded text hhold hdot hbeyond =>
      obtain ⟨last, hlast, hdigit⟩ := Text.Punycode.getLast?_encode hbeyond
      have hascii : isAscii (Punycode.encode text) = true := by
        have hsound : (Label.encoded text).IsSound := .encoded hhold hdot hbeyond
        refine List.all_eq_true.2 fun c hc => ?_
        simpa using (isWritten_iff.1 (hsound.mem_written (List.mem_append_right mark hc)).1).1
      have hread := Text.Punycode.decode?_encode (Label.length_le_of_mayHold hhold)
      have hmark : Label.written (.encoded text) = 'x' :: 'n' :: '-' :: '-' :: Punycode.encode text := rfl
      by_cases hlength : (Punycode.encode text).length ≤ maxEncodedLength
      · simp [hmark, label?, decoded?, hascii, hlast, hdigit.ne_hyphen, hlength, hread, encoded?, hhold,
          Label.isReadable]
      · simp [hmark, label?, decoded?, hlength, Label.isReadable]

/-! ## Names -/

/-- Whether all labels of the ASCII form of a name are short enough to be decoded, if they are encoded. -/
def isReadable (name : List Char) : Bool :=
  (name.splitOn '.').all (fun part => !mark.isPrefixOf part || part.length ≤ mark.length + maxEncodedLength)

variable {labels : List Label}

/-- What is written for labels, with dots between them. -/
def joined (labels : List Label) : List Char := ['.'].intercalate (labels.map Label.written)

theorem splitOn_joined (hne : labels ≠ []) (hsound : ∀ label ∈ labels, label.IsSound) :
    (joined labels).splitOn '.' = labels.map Label.written := by
  refine List.splitOn_intercalate '.' ?_ (by simpa using hne)
  intro part hpart hdot
  obtain ⟨label, hlabel, rfl⟩ := List.mem_map.1 hpart
  exact ((hsound label hlabel).mem_written hdot).2 rfl

theorem isWritten_of_mem_joined (hsound : ∀ label ∈ labels, label.IsSound) {c : Char} (hc : c ∈ joined labels) :
    isWritten c = true := by
  rcases mem_of_mem_intercalate hc with rfl | ⟨part, hpart, hc⟩
  · decide
  · obtain ⟨label, hlabel, rfl⟩ := List.mem_map.1 hpart
    exact ((hsound label hlabel).mem_written hc).1

theorem Label.IsSound.isReadable_eq {label : Label} (h : label.IsSound) :
    (!mark.isPrefixOf label.written || label.written.length ≤ mark.length + maxEncodedLength) = label.isReadable := by
  cases h with
  | @ascii text _ hmark =>
      have hunmarked : mark.isPrefixOf text = false := by
        rwa [← Bool.not_eq_true, List.isPrefixOf_iff_prefix]
      simp [hunmarked, written, isReadable]
  | @encoded text =>
      have hmark : mark.isPrefixOf (mark ++ Punycode.encode text) = true :=
        List.isPrefixOf_iff_prefix.2 (List.prefix_append _ _)
      simp [hmark, written, isReadable]

theorem isReadable_joined (hne : labels ≠ []) (hsound : ∀ label ∈ labels, label.IsSound) :
    isReadable (joined labels) = labels.all Label.isReadable := by
  rw [isReadable, splitOn_joined hne hsound, List.all_map, Bool.eq_iff_iff, List.all_eq_true, List.all_eq_true]
  exact forall₂_congr fun label hlabel => by rw [← (hsound label hlabel).isReadable_eq]; rfl

/-- The labels of a name that has an ASCII form. -/
theorem exists_labels {name ascii : List Char} (h : ascii? name = some ascii) :
    ∃ labels, labels ≠ [] ∧ (∀ label ∈ labels, label.IsSound) ∧ areOrdered labels = true ∧ ascii = joined labels := by
  simp only [ascii?, Option.bind_eq_bind, Option.bind_eq_some_iff] at h
  obtain ⟨spelled, hspelled, labels, hlabels, h⟩ := h
  have hallowed := not_isForbidden_of_spelled? hspelled
  split at h
  · next hordered =>
      injection h with h
      have hsound : ∀ label ∈ labels, label.IsSound := by
        intro label hlabel
        obtain ⟨part, hpart, hread⟩ := exists_of_mem_mapM hlabels label hlabel
        refine sound_of_label? hread ?_ ?_
        · exact fun hdot => (mem_of_mem_splitOn hpart hdot).2 rfl
        · exact fun c hc => hallowed c (mem_of_mem_splitOn hpart hc).1
      refine ⟨labels, ?_, hsound, hordered, h.symm⟩
      rintro rfl
      obtain ⟨first, others, hparts⟩ := List.exists_cons_of_ne_nil (List.splitOn_ne_nil '.' spelled)
      rw [hparts] at hlabels
      obtain ⟨_, _, -, -, hnil⟩ := mapM_eq_some_cons hlabels
      cases hnil
  · cases h

/-- Labels that are sound, in order and short enough are read from their written form. -/
theorem ascii?_joined (hne : labels ≠ []) (hsound : ∀ label ∈ labels, label.IsSound)
    (hordered : areOrdered labels = true) :
    ascii? (joined labels) = if isReadable (joined labels) then some (joined labels) else none := by
  have hspelled := spelled?_of_written fun c hc => isWritten_of_mem_joined hsound hc
  have hread := mapM_map_guarded fun label hlabel => label?_written (hsound label hlabel)
  rw [isReadable_joined hne hsound]
  simp only [ascii?, hspelled, splitOn_joined hne hsound, hread, Option.bind_eq_bind, Option.bind_some]
  by_cases hreadable : labels.all Label.isReadable = true
  · simp [hreadable, hordered, joined]
  · simp [hreadable]

/-- **The ASCII form of a name is its own ASCII form**, unless it has a label that is too long. -/
theorem ascii?_of_ascii? {name ascii : List Char} (h : ascii? name = some ascii) :
    ascii? ascii = if isReadable ascii then some ascii else none := by
  obtain ⟨labels, hne, hsound, hordered, rfl⟩ := exists_labels h
  exact ascii?_joined hne hsound hordered

theorem isWritten_of_mem_ascii? {name ascii : List Char} (h : ascii? name = some ascii) {c : Char} (hc : c ∈ ascii) :
    isWritten c = true := by
  obtain ⟨labels, -, hsound, -, rfl⟩ := exists_labels h
  exact isWritten_of_mem_joined hsound hc

end NetGauge.Origin.Domain
