import NetGauge.Origin.Host
import NetGauge.Proofs.Origin.Address
import NetGauge.Proofs.Origin.Domain
import NetGauge.Proofs.Text.Utf8

set_option autoImplicit false

/-! # Hosts read back

The text of a host is read as that host (`parse_toList_text`), unless it is a name with a label that is too long. What
is read for a host is sound (`sound_of_parse`): a name is in its ASCII form, which holds nothing that has a meaning
elsewhere in an origin. -/

namespace NetGauge.Origin.Host

open Domain (isWritten isWritten_iff)

/-- What holds of a host that was read. -/
def IsSound : Host → Prop
  | .named name =>
    name.toList ≠ [] ∧ Ipv4.isMeant name.toList = false ∧ ∃ source, Domain.ascii? source = some name.toList
  | _ => True

/-- Whether the text of a host can be read: the labels of a name must not be too long to be decoded. -/
def isReadable : Host → Bool
  | .named name => Domain.isReadable name.toList
  | _ => true

variable {host : Host}

theorem sound_of_ofName {source name : List Char} (hascii : Domain.ascii? source = some name)
    (h : ofName name = .ok host) : host.IsSound := by
  unfold ofName at h
  split at h
  · cases h
  · next hempty =>
      split at h
      · split at h
        · cases h
          trivial
        · cases h
      · next hmeant =>
          cases h
          refine ⟨by simpa using hempty, by simpa using hmeant, source, by simpa using hascii⟩

/-- **What is read for a host is sound.** -/
theorem sound_of_parse {cs : List Char} (h : parse cs = .ok host) : host.IsSound := by
  unfold parse at h
  split at h
  · next read hbracketed =>
      subst h
      unfold bracketed? at hbracketed
      split at hbracketed
      · injection hbracketed with hbracketed
        split at hbracketed
        · split at hbracketed
          · cases hbracketed
            trivial
          · cases hbracketed
        · cases hbracketed
      · cases hbracketed
  · split at h
    · next name hascii => exact sound_of_ofName hascii h
    · cases h

/-! ## Characters of a host -/

/-- Whether a character can stand in the text of a host: brackets and colons only in an address. -/
def isHostChar (c : Char) : Bool := isWritten c || ['[', ':', ']'].contains c

theorem isWritten_digitChar : ∀ d < 16, isWritten d.digitChar = true := by decide

theorem isWritten_of_isDigit {c : Char} (h : c.isDigit = true) : isWritten c = true := by
  have hascii : c.toNat < 128 := by
    simp only [Char.isDigit, Bool.and_eq_true, decide_eq_true_eq, UInt32.le_iff_toNat_le] at h
    exact Nat.lt_of_le_of_lt h.2 (by decide)
  refine Domain.forall_ascii (p := fun c => c.isDigit = true → isWritten c = true) ?_ hascii h
  decide

theorem isWritten_ipv4 {a : Ipv4} {c : Char} (h : c ∈ a.text.toList) : isWritten c = true := by
  rw [Ipv4.toList_text] at h
  rcases mem_of_mem_intercalate h with rfl | ⟨digits, hdigits, hc⟩
  · decide
  · exact isWritten_of_isDigit (Ipv4.isDigit_of_mem_decimals hdigits c hc)

theorem isWritten_named {name : String} (h : (named name).IsSound) {c : Char} (hc : c ∈ name.toList) :
    isWritten c = true := by
  obtain ⟨-, -, source, hascii⟩ := h
  exact Domain.isWritten_of_mem_ascii? hascii hc

theorem toList_text_ipv6 (a : Ipv6) : (ipv6 a).text.toList = '[' :: (a.text.toList ++ [']']) := by
  simp [text]

theorem toList_text_ne_nil (h : host.IsSound) : host.text.toList ≠ [] := by
  cases host with
  | named name => exact h.1
  | ipv4 a =>
      intro hnil
      have hmeant := a.isMeant_text
      rw [text] at hnil
      rw [hnil] at hmeant
      exact absurd hmeant (by decide)
  | ipv6 a => simp [toList_text_ipv6]

theorem isHostChar_of_mem_text (h : host.IsSound) {c : Char} (hc : c ∈ host.text.toList) : isHostChar c = true := by
  cases host with
  | named name => simp [isHostChar, isWritten_named h hc]
  | ipv4 a => simp [isHostChar, isWritten_ipv4 hc]
  | ipv6 a =>
      rw [toList_text_ipv6, List.mem_cons, List.mem_append, List.mem_singleton] at hc
      rcases hc with rfl | hc | rfl
      · decide
      · rcases Ipv6.mem_text hc with rfl | ⟨d, hd, rfl⟩
        · decide
        · simp [isHostChar, isWritten_digitChar d hd]
      · decide

/-! ## Reading -/

/-- Without brackets and percent signs a host is a name that is read as it stands. -/
theorem parse_of_not_mem {cs : List Char} (hbracket : '[' ∉ cs) (hpercent : '%' ∉ cs) :
    parse cs = match Domain.ascii? cs with
      | some name => ofName name
      | none => .error .name := by
  have hbracketed : bracketed? cs = none := by
    unfold bracketed?
    split
    · exact absurd List.mem_cons_self hbracket
    · rfl
  have hdecoded : Text.decodeFrom none (Text.percentDecode cs) = cs := by
    rw [Text.percentDecode_of_not_mem hpercent, Text.decodeFrom_encode]
  cases hascii : Domain.ascii? cs with
  | none => simp only [parse, hbracketed, hdecoded, hascii]
  | some name => simp only [parse, hbracketed, hdecoded, hascii]

theorem parse_of_written {cs : List Char} (h : ∀ c ∈ cs, isWritten c = true) :
    parse cs = match Domain.ascii? cs with
      | some name => ofName name
      | none => .error .name :=
  parse_of_not_mem (fun hmem => absurd (h '[' hmem) (by decide)) (fun hmem => absurd (h '%' hmem) (by decide))

/-- The parts of an address are labels of a name, which is its own ASCII form. -/
theorem ascii?_ipv4 (a : Ipv4) : Domain.ascii? a.text.toList = some a.text.toList := by
  have hjoined : Domain.joined (a.decimals.map .ascii) = a.text.toList := by
    rw [Ipv4.toList_text, Domain.joined, List.map_map]
    exact congrArg _ (List.map_id _)
  have hne : a.decimals.map Domain.Label.ascii ≠ [] := by simp [Ipv4.decimals, Ipv4.bytes]
  have hsound : ∀ label ∈ a.decimals.map Domain.Label.ascii, label.IsSound := by
    intro label hlabel
    obtain ⟨digits, hdigits, rfl⟩ := List.mem_map.1 hlabel
    have hdigit := Ipv4.isDigit_of_mem_decimals hdigits
    refine .ascii (fun c hc => ⟨isWritten_of_isDigit (hdigit c hc), ?_⟩) ?_
    · rintro rfl
      exact absurd (hdigit '.' hc) (by decide)
    · rintro ⟨coded, rfl⟩
      exact absurd (hdigit 'x' (by simp [Domain.mark])) (by decide)
  have hordered : Domain.areOrdered (a.decimals.map .ascii) = true := by
    simp [Domain.areOrdered, Domain.hasRightToLeft]
  have hreadable : Domain.isReadable (Domain.joined (a.decimals.map .ascii)) = true := by
    simp [Domain.isReadable_joined hne hsound, Domain.Label.isReadable]
  have hread := Domain.ascii?_joined hne hsound hordered
  rwa [if_pos hreadable, hjoined] at hread

/-- **A host is read from its text**, if it has no label that is too long. -/
theorem parse_toList_text (h : host.IsSound) :
    parse host.text.toList = if host.isReadable then .ok host else .error .name := by
  cases host with
  | named name =>
      have hname := fun c hc => isWritten_named (c := c) h hc
      obtain ⟨hne, hmeant, source, hascii⟩ := h
      rw [text, parse_of_written hname, Domain.ascii?_of_ascii? hascii]
      by_cases hreadable : Domain.isReadable name.toList = true
      · have hsome : name.toList.isEmpty = false := by simpa using hne
        simp [hreadable, isReadable, ofName, hmeant, hsome]
      · simp [hreadable, isReadable]
  | ipv4 a =>
      have hne := toList_text_ne_nil h
      rw [text] at hne
      have hsome : a.text.toList.isEmpty = false := by simpa using hne
      rw [text, parse_of_written fun c hc => isWritten_ipv4 hc, ascii?_ipv4]
      simp [ofName, hsome, Ipv4.isMeant_text, Ipv4.parse?_text, isReadable]
  | ipv6 a =>
      rw [toList_text_ipv6, parse, bracketed?]
      simp [Ipv6.parse?_text, isReadable]

end NetGauge.Origin.Host
