import NetGauge.Proofs.Origin.Ideographs
import NetGauge.Proofs.Origin.Url
import NetGauge.Proofs.Text.Punycode.Ascending

set_option autoImplicit false

/-! # A label that is too long to be decoded

A name of ideographs is a name as it stands (`Domain.ascii?_ideographs`). When they lie far apart every one of them
takes three digits in the label, so that a label that may still be encoded becomes one that may not be decoded
(`Host.not_isReadable_longName`). -/

namespace NetGauge.Origin

variable {c : Char} {cs : List Char}

/-! ## Composing -/

theorem parts_ideograph (hc : IsIdeograph c) (depth : Nat) : Text.parts depth c = [c] := by
  cases depth with
  | zero => rfl
  | succ depth => simp [Text.parts, split?_eq_none hc]

theorem putMark_ideograph (hc : IsIdeograph c) (before : List Char) : Text.putMark c before = c :: before := by
  cases before with
  | nil => rfl
  | cons d before => simp [Text.putMark, combiningClass_eq_zero hc]

theorem foldl_putMark_ideographs (h : ∀ c ∈ cs, IsIdeograph c) (before : List Char) :
    cs.foldl (fun before c => Text.putMark c before) before = cs.reverse ++ before := by
  induction cs generalizing before with
  | nil => rfl
  | cons c cs ih =>
      simp only [List.mem_cons, forall_eq_or_imp] at h
      rw [List.foldl_cons, putMark_ideograph h.1, ih h.2]
      simp

theorem decompose_ideographs (h : ∀ c ∈ cs, IsIdeograph c) : Text.decompose cs = cs := by
  have hparts : cs.flatMap (Text.parts Text.splitDepth) = cs := by
    rw [List.flatMap_congr fun c hc => parts_ideograph (h c hc) _, List.flatMap_singleton']
  rw [Text.decompose, hparts, foldl_putMark_ideographs h, List.append_nil, List.reverse_reverse]

theorem step_ideograph (hc : IsIdeograph c) {s : Text.Composing} (hs : s.marks = []) :
    s.step c = { base := some c, before := s.all } := by
  have hblocks : s.blocks c = false := by rw [Text.Composing.blocks, hs]
  have hjoin : (s.base.bind fun base => Text.join? base c) = none := by
    cases s.base with
    | none => rfl
    | some base => exact join?_eq_none hc base
  simp [Text.Composing.step, hblocks, hjoin, combiningClass_eq_zero hc]

/-- Every ideograph becomes a base that no other one joins. -/
theorem foldl_step_ideographs (h : ∀ c ∈ cs, IsIdeograph c) {s : Text.Composing} (hs : s.marks = []) :
    (cs.foldl Text.Composing.step s).all = cs.reverse ++ s.all := by
  induction cs generalizing s with
  | nil => rfl
  | cons c cs ih =>
      simp only [List.mem_cons, forall_eq_or_imp] at h
      rw [List.foldl_cons, step_ideograph h.1 hs, ih h.2 rfl]
      simp [Text.Composing.all]

theorem compose_ideographs (h : ∀ c ∈ cs, IsIdeograph c) : Text.compose cs = cs := by
  have hall := foldl_step_ideographs h (s := {}) rfl
  rw [Text.compose, decompose_ideographs h, hall]
  simp [Text.Composing.all]

/-! ## Names -/

namespace Domain

theorem ne_of_ideograph (hc : IsIdeograph c) {d : Char} (hd : d.toNat < 0x4E00) : c ≠ d := by
  rintro rfl
  exact absurd hc.1 (by omega)

theorem isForbidden_ideograph (hc : IsIdeograph c) : isForbidden c = false := by
  have hlow := hc.1
  have hdelimiter : ∀ d ∈ [' ', '#', '/', ':', '<', '>', '?', '@', '[', '\\', ']', '^', '|'], d.toNat < 0x4E00 := by
    simp
  have hnone : isDelimiter c = false := by
    rw [isDelimiter, List.contains_eq_mem, decide_eq_false_iff_not]
    exact fun hmem => ne_of_ideograph hc (hdelimiter c hmem) rfl
  have hpercent : c ≠ '%' := ne_of_ideograph hc (by decide)
  have hcontrol : ¬c.toNat < 32 := by omega
  have hdelete : ¬c.toNat = 127 := by omega
  simp [isForbidden, hnone, hpercent, hcontrol, hdelete]

theorem any_isForbidden_ideographs (h : ∀ c ∈ cs, IsIdeograph c) : cs.any isForbidden = false :=
  List.any_eq_false.2 fun c hc => by simp [isForbidden_ideograph (h c hc)]

theorem isPlain_ideograph (hc : IsIdeograph c) : Spelling.isPlain c = true := by
  have hlow := hc.1
  rw [Spelling.isPlain]
  rw [if_neg (by omega), plainRanges_contains hc]

theorem spelled?_ideographs (h : ∀ c ∈ cs, IsIdeograph c) : spelled? cs = some cs := by
  have hspelled : cs.mapM Spelling.spelled? = some (cs.map ([·])) := mapM_eq_some_map fun c hc => by
    have hlow := (h c hc).1
    rw [Spelling.spelled?]
    rw [if_neg (by omega), if_pos (plainRanges_contains (h c hc))]
  have hflatten : (cs.map ([·])).flatten = cs := by
    rw [← List.flatMap_def, List.flatMap_singleton']
  simp only [spelled?, hspelled, Option.bind_eq_bind, Option.bind_some, hflatten, compose_ideographs h,
    any_isForbidden_ideographs h, Bool.false_eq_true, if_false]

theorem joinersFit_ideographs (h : ∀ c ∈ cs, IsIdeograph c) (before : List Char) : joinersFit before cs = true := by
  induction cs generalizing before with
  | nil => rfl
  | cons c cs ih =>
      simp only [List.mem_cons, forall_eq_or_imp] at h
      have hjoiner : c ≠ '\u200C' := ne_of_ideograph h.1 (by decide)
      have hother : c ≠ '\u200D' := ne_of_ideograph h.1 (by decide)
      simp [joinersFit, hjoiner, hother, ih h.2]

theorem mayHold_ideographs (h : ∀ c ∈ cs, IsIdeograph c) (hlength : cs.length ≤ maxLength) : mayHold cs = true := by
  have hplain : cs.all Spelling.isPlain = true := List.all_eq_true.2 fun c hc => isPlain_ideograph (h c hc)
  have hmark : cs.head?.any Text.isMark = false := by
    cases cs with
    | nil => rfl
    | cons c cs => exact isMark_eq_false (h c List.mem_cons_self)
  simp [mayHold, hplain, any_isForbidden_ideographs h, compose_ideographs h, hmark, joinersFit_ideographs h, hlength]

theorem label?_ideographs (h : ∀ c ∈ cs, IsIdeograph c) (hne : cs ≠ []) (hlength : cs.length ≤ maxLength) :
    label? cs = some (.encoded cs) := by
  obtain ⟨c, rest, rfl⟩ := List.exists_cons_of_ne_nil hne
  have hc := h c List.mem_cons_self
  have hascii : isAscii (c :: rest) = false := by
    have hlow := hc.1
    have hbeyond : ¬c.toNat < 128 := by omega
    simp [isAscii, hbeyond]
  rw [label?]
  · simp [hascii, encoded?, mayHold_ideographs h hlength]
  · intro coded heq
    exact ne_of_ideograph hc (by decide) (List.cons.inj heq).1

/-- **A name of ideographs** is one label, which is encoded as it stands. -/
theorem ascii?_ideographs (h : ∀ c ∈ cs, IsIdeograph c) (hne : cs ≠ []) (hlength : cs.length ≤ maxLength) :
    ascii? cs = some (mark ++ Text.Punycode.encode cs) := by
  have hdot : '.' ∉ cs := fun hmem => ne_of_ideograph (h '.' hmem) (by decide) rfl
  have hordered : areOrdered [.encoded cs] = true := by
    have hnone : ∀ c ∈ cs, (Text.Direction.ofChar c).isRightToLeft = false :=
      fun c hc => isRightToLeft_eq_false (h c hc)
    have hany : cs.any (fun c => (Text.Direction.ofChar c).isRightToLeft) = false :=
      List.any_eq_false.2 fun c hc => by simp [hnone c hc]
    simp [areOrdered, hasRightToLeft, hany]
  simp [ascii?, spelled?_ideographs h, List.splitOn_eq_singleton hdot, label?_ideographs h hne hlength, hordered,
    Label.written]

theorem sound_ideographs (h : ∀ c ∈ cs, IsIdeograph c) (hne : cs ≠ []) (hlength : cs.length ≤ maxLength) :
    (Label.encoded cs).IsSound := by
  obtain ⟨c, hc⟩ := List.exists_mem_of_ne_nil cs hne
  refine .encoded (mayHold_ideographs h hlength) (fun hdot => ?_) ⟨c, hc, ?_⟩
  · exact ne_of_ideograph (h '.' hdot) (by decide) rfl
  · have hlow := (h c hc).1
    omega

end Domain

/-! ## A label that is too long -/

/-- As many ideographs as a label may have to be encoded and more than it may have to be decoded, far apart. -/
def longLabel : List Char := (List.range 700).map (fun i => Char.ofNat (0x4E00 + 29 * i))

theorem longLabel_ideographs : ∀ c ∈ longLabel, IsIdeograph c := by
  intro c hc
  obtain ⟨i, hi, rfl⟩ := List.mem_map.1 hc
  rw [List.mem_range] at hi
  rw [IsIdeograph, Text.Punycode.toNat_ofNat (.inl (by omega))]
  omega

theorem longLabel_gaps : (128 :: longLabel.map Char.toNat).IsChain (fun m n => m + 29 ≤ n) := by
  decide +kernel

theorem longLabel_ascending : Text.Punycode.Ascending longLabel := by
  have hchain : (128 :: longLabel.map Char.toNat).IsChain (· < ·) :=
    longLabel_gaps.imp fun m n hgap => by omega
  have hpairwise := List.isChain_iff_pairwise.1 hchain
  exact List.pairwise_map.1 (List.pairwise_cons.1 hpairwise).2

theorem length_longLabel : longLabel.length = 700 := by simp [longLabel]

theorem longLabel_ne_nil : longLabel ≠ [] := List.ne_nil_of_length_pos (by simp [length_longLabel])

/-- Three digits for each ideograph but the first few are more than a label may have. -/
theorem maxEncodedLength_lt : Domain.maxEncodedLength < (Text.Punycode.encode longLabel).length := by
  have hbeyond : ∀ c ∈ longLabel, 128 ≤ c.toNat := fun c hc => by
    have hlow := (longLabel_ideographs c hc).1
    omega
  have hthree := Text.Punycode.three_mul_length_le (show 911 ≤ 29 * (31 + 1) by decide) longLabel_gaps 72 true 0
  rw [← Text.Punycode.encode_ascending longLabel_ascending hbeyond, length_longLabel] at hthree
  have hmax : Domain.maxEncodedLength = 2000 := rfl
  omega

theorem length_longLabel_le : longLabel.length ≤ Domain.maxLength := by simp [length_longLabel, Domain.maxLength]

/-- The ASCII form of the label. -/
def longName : List Char := Domain.mark ++ Text.Punycode.encode longLabel

/-- The name has the label and no other one. -/
theorem joined_longLabel : Domain.joined [.encoded longLabel] = longName := by
  simp [Domain.joined, Domain.Label.written, longName]

theorem longLabel_sound : ∀ label ∈ [Domain.Label.encoded longLabel], label.IsSound := by
  simpa using Domain.sound_ideographs longLabel_ideographs longLabel_ne_nil length_longLabel_le

namespace Host

/-- The label is no number, so that the name is not meant as an address. -/
theorem isMeant_longName : Ipv4.isMeant longName = false := by
  have hsplit := Domain.splitOn_joined (by simp) longLabel_sound
  rw [joined_longLabel, List.map_singleton, Domain.Label.written, ← longName] at hsplit
  have hpart : ∀ rest, Ipv4.part? ('x' :: rest) = none := fun _ => rfl
  have hdigits : ∀ rest, ('x' :: rest).all Char.isDigit = false := fun _ => rfl
  obtain ⟨rest, hcons⟩ : ∃ rest, longName = 'x' :: rest := ⟨_, rfl⟩
  rw [hcons] at hsplit ⊢
  simp only [Ipv4.isMeant, Ipv4.parts, hsplit]
  simp [hpart, hdigits]

theorem parse_longLabel : parse longLabel = .ok (.named (String.ofList longName)) := by
  have hne (d : Char) (hd : d.toNat < 0x4E00) : d ∉ longLabel :=
    fun hmem => Domain.ne_of_ideograph (longLabel_ideographs d hmem) hd rfl
  have hascii : Domain.ascii? longLabel = some longName :=
    Domain.ascii?_ideographs longLabel_ideographs longLabel_ne_nil length_longLabel_le
  have hsome : longName ≠ [] := by simp [longName, Domain.mark]
  rw [parse_of_not_mem (hne '[' (by decide)) (hne '%' (by decide)), hascii]
  simp [ofName, isMeant_longName, hsome]

theorem isReadable_longName : (named (String.ofList longName)).isReadable = false := by
  have hreadable := Domain.isReadable_joined (by simp) longLabel_sound
  rw [isReadable, String.toList_ofList, ← joined_longLabel, hreadable]
  simp [Domain.Label.isReadable, maxEncodedLength_lt]

end Host

/-! ## An origin with the label -/

/-- An origin of a page whose host is the label. -/
def longOrigin : String := "http://" ++ String.ofList longLabel

theorem toList_longOrigin : longOrigin.toList = ['h', 't', 't', 'p', ':', '/', '/'] ++ longLabel := by
  simp [longOrigin]

theorem isWithin_ideograph (hc : IsIdeograph c) : isWithin c = true := by
  have hends := endsAuthority_eq_false.2 ⟨Domain.ne_of_ideograph hc (by decide), Domain.ne_of_ideograph hc (by decide),
    Domain.ne_of_ideograph hc (by decide), Domain.ne_of_ideograph hc (by decide)⟩
  have hlow := hc.1
  exact isWithin_iff.2 ⟨by omega, hends⟩

theorem isBlank_ideograph (hc : IsIdeograph c) : Text.isBlank c = false := by
  have hlow := hc.1
  rw [← Bool.not_eq_true]
  simp only [Text.isBlank, Bool.or_eq_true, Bool.and_eq_true, decide_eq_true_eq, beq_iff_eq]
  omega

theorem trim_longOrigin : Text.trim longOrigin = longOrigin := by
  have hhead : longOrigin.toList.head? = some 'h' := by
    rw [toList_longOrigin]
    rfl
  have hlast : longOrigin.toList.getLast? = some (longLabel.getLast longLabel_ne_nil) := by
    rw [toList_longOrigin, List.getLast?_append, List.getLast?_eq_some_getLast longLabel_ne_nil]
    rfl
  have hend := longLabel_ideographs _ (List.getLast_mem longLabel_ne_nil)
  exact Text.trim_eq_self hhead hlast (by decide) (isBlank_ideograph hend)

theorem authority_longLabel :
    authority 80 longLabel = .ok { host := .named (String.ofList longName) } := by
  have hne (d : Char) (hd : d.toNat < 0x4E00) : ∀ c ∈ longLabel, c ≠ d :=
    fun c hc => Domain.ne_of_ideograph (longLabel_ideographs c hc) hd
  have hat : '@' ∉ longLabel := fun hmem => hne '@' (by decide) '@' hmem rfl
  have hport : splitPort false longLabel = (longLabel, none) := by
    have happend := splitPort_append (fun c hc => ⟨hne ':' (by decide) c hc, hne '[' (by decide) c hc,
      hne ']' (by decide) c hc⟩) []
    simpa [splitPort] using happend
  rw [authority_eq (splitUser_of_not_mem hat) hport, if_neg (by simp [longLabel_ne_nil]), Host.parse_longLabel]
  rfl

/-- **The origin is read**, and its host is the name of the label. -/
theorem parse_longOrigin :
    parse longOrigin =
      .ok (.web { scheme := ⟨false, false⟩, authority := { host := .named (String.ofList longName) } }) := by
  have hscheme : ∀ rest, scheme? ('h' :: 't' :: 't' :: 'p' :: ':' :: rest) = some ("http", rest) := fun _ => rfl
  have hknown : WebScheme.ofName? "http" = some ⟨false, false⟩ := rfl
  have hmark : ∀ c ∈ ['h', 't', 't', 'p', ':', '/', '/'], 32 < c.toNat := by simp
  have hwithin : ∀ c ∈ longLabel, 32 < c.toNat ∧ endsAuthority true c = false :=
    fun c hc => isWithin_iff.1 (isWithin_ideograph (longLabel_ideographs c hc))
  obtain ⟨hauthority, hbehind⟩ := split_authority [] longLabel_ne_nil (fun c hc => (hwithin c hc).2) (by simp)
  rw [List.append_nil] at hauthority hbehind
  have hplace : Url.ofScheme ⟨false, false⟩ ('/' :: '/' :: longLabel) =
      .ok { scheme := ⟨false, false⟩, authority := { host := .named (String.ofList longName) } } := by
    rw [Url.ofScheme_eq (congrArg (splitFirst '#') hbehind) rfl, commonAuthority, hauthority,
      show (WebScheme.mk false false).defaultPort = 80 from rfl, authority_longLabel]
    rfl
  rw [parse, significant_of_within, toList_longOrigin]
  · simp only [List.cons_append, List.nil_append, hscheme, ofScheme, hknown, hplace]
    rfl
  · intro c hc
    rw [toList_longOrigin, List.mem_append] at hc
    rcases hc with hc | hc
    · exact hmark c hc
    · exact (hwithin c hc).1

end NetGauge.Origin
