import NetGauge.Proofs.Origin.Authority

set_option autoImplicit false

/-! # Places read back

What is read for an origin of the web is sound (`sound_of_parse`), and the text of a sound place is read as that
place (`parse_url_text`), unless its host cannot be read: every part of it ends where the next one begins. -/

namespace NetGauge.Origin

/-- What holds of a place that was read. -/
structure Url.IsSound (url : Url) : Prop where
  authority : url.authority.IsSound url.scheme.defaultPort
  path : Path.IsSound url.path
  query : ∀ query ∈ url.query, ∀ c ∈ query.toList, isEscaped queryMarks c = false
  fragment : ∀ fragment ∈ url.fragment, ∀ c ∈ fragment.toList, isEscaped fragmentMarks c = false

/-! ## Reading an origin -/

/-- A part that may be missing, in its written form. -/
theorem not_escaped_of_mem_part {marks : List Char} (hpercent : isEscaped marks '%' = false)
    (hcapital : ∀ n < 16, isEscaped marks (Text.hexCapital n) = false) (part : Option (List Char)) :
    ∀ text ∈ part.map (written marks), ∀ c ∈ text.toList, isEscaped marks c = false := by
  intro text htext c hc
  obtain ⟨part, -, rfl⟩ := Option.map_eq_some_iff.1 htext
  exact not_escaped_of_mem_written hpercent hcapital hc

theorem not_escaped_of_mem_query (query : Option (List Char)) :
    ∀ text ∈ query.map (written queryMarks), ∀ c ∈ text.toList, isEscaped queryMarks c = false :=
  not_escaped_of_mem_part (by decide) (by decide) query

theorem not_escaped_of_mem_fragment (fragment : Option (List Char)) :
    ∀ text ∈ fragment.map (written fragmentMarks), ∀ c ∈ text.toList, isEscaped fragmentMarks c = false :=
  not_escaped_of_mem_part (by decide) (by decide) fragment

/-- A place in its parts. -/
theorem Url.ofScheme_eq {scheme : WebScheme} {rest front path : List Char} {fragment query : Option (List Char)}
    (hfront : splitFirst '#' ((rest.dropWhile isSlash).dropWhile (fun c => !endsAuthority true c)) = (front, fragment))
    (hpath : splitFirst '?' front = (path, query)) :
    Url.ofScheme scheme rest = (commonAuthority scheme.defaultPort rest).map fun authority => {
      scheme := scheme
      authority := authority
      path := Path.parse path
      query := query.map (written queryMarks)
      fragment := fragment.map (written fragmentMarks) } := by
  simp only [Url.ofScheme, hfront, hpath]
  cases commonAuthority scheme.defaultPort rest <;> rfl

theorem Url.sound_of_ofScheme {scheme : WebScheme} {rest : List Char} {url : Url}
    (h : Url.ofScheme scheme rest = .ok url) : url.IsSound := by
  obtain ⟨front, fragment, hfront⟩ : ∃ front fragment,
      splitFirst '#' ((rest.dropWhile isSlash).dropWhile (fun c => !endsAuthority true c)) = (front, fragment) :=
    ⟨_, _, rfl⟩
  obtain ⟨path, query, hpath⟩ : ∃ path query, splitFirst '?' front = (path, query) := ⟨_, _, rfl⟩
  rw [Url.ofScheme_eq hfront hpath] at h
  cases hread : commonAuthority scheme.defaultPort rest with
  | error fault =>
      rw [hread] at h
      cases h
  | ok authority =>
      rw [hread] at h
      cases h
      exact ⟨sound_of_authority hread, Path.sound_of_parse path, not_escaped_of_mem_query _,
        not_escaped_of_mem_fragment _⟩

/-- What follows a scheme of the web is a place; of another scheme only the name is kept. -/
theorem ofScheme_eq_ok {scheme : String} {rest : List Char} {o : Origin} (h : ofScheme scheme rest = .ok o) :
    (∃ url, o = .web url ∧ url.IsSound) ∨ (o = .other scheme ∧ WebScheme.ofName? scheme = none) := by
  unfold ofScheme at h
  split at h
  · next known _ =>
      cases hread : Url.ofScheme known rest with
      | error fault =>
          rw [hread] at h
          cases h
      | ok url =>
          rw [hread] at h
          cases h
          exact .inl ⟨url, rfl, Url.sound_of_ofScheme hread⟩
  · next hnone =>
      simp only at h
      generalize (if scheme = "ftp" then _ else _ : Except Fault Unit) = checked at h
      cases checked with
      | error fault => cases h
      | ok _ =>
          cases h
          exact .inr ⟨rfl, hnone⟩

/-- **What is read is sound**: a place on the web, or the name of another scheme. -/
theorem parse_eq_ok {text : String} {o : Origin} (h : parse text = .ok o) :
    (∃ url, o = .web url ∧ url.IsSound) ∨ ∃ name, o = .other name ∧ WebScheme.ofName? name = none := by
  unfold parse at h
  split at h
  · cases h
  · next scheme _ _ => exact (ofScheme_eq_ok h).imp_right fun hother => ⟨scheme, hother⟩

variable {url : Url}

theorem sound_of_parse {text : String} (h : parse text = .ok (.web url)) : url.IsSound := by
  rcases parse_eq_ok h with ⟨_, heq, hsound⟩ | ⟨name, heq, -⟩
  · cases heq
    exact hsound
  · cases heq

theorem ofName?_of_parse {text name : String} (h : parse text = .ok (.other name)) : WebScheme.ofName? name = none := by
  rcases parse_eq_ok h with ⟨url, heq, -⟩ | ⟨name, heq, hother⟩
  · cases heq
  · cases heq
    exact hother

/-! ## Reading a text that was written -/

/-- Text without blanks and controls counts as it is. -/
theorem significant_of_within {cs : List Char} (h : ∀ c ∈ cs, 32 < c.toNat) : significant cs = cs := by
  have hfront : cs.dropWhile (fun c => c.toNat ≤ 32) = cs :=
    Text.dropWhile_eq_self fun c hc => by simpa using h c (List.mem_of_mem_head? hc)
  have hback : Text.dropTrailing (fun c => c.toNat ≤ 32) cs = cs :=
    Text.dropTrailing_of_getLast fun hne => by simpa using h _ (List.getLast_mem hne)
  rw [significant, hfront, hback, List.filter_eq_self]
  intro c hc
  have hlarge := h c hc
  have hmarks : ∀ mark ∈ ['\t', '\n', '\r'], mark.toNat ≤ 32 := by simp
  have hnone : c ∉ ['\t', '\n', '\r'] := fun hmem => by
    have hsmall := hmarks c hmem
    omega
  simpa [not_or, and_assoc] using hnone

/-- The slashes before an authority do not belong to it, nor does what follows its end. -/
theorem split_authority {cs : List Char} (rest : List Char) (hne : cs ≠ [])
    (hwithin : ∀ c ∈ cs, endsAuthority true c = false)
    (hrest : ∀ c ∈ rest.head?, endsAuthority true c = true) :
    (('/' :: '/' :: (cs ++ rest)).dropWhile isSlash).takeWhile (fun c => !endsAuthority true c) = cs ∧
      (('/' :: '/' :: (cs ++ rest)).dropWhile isSlash).dropWhile (fun c => !endsAuthority true c) = rest := by
  have hslashes : (cs ++ rest).dropWhile isSlash = cs ++ rest := by
    refine Text.dropWhile_eq_self fun c hc => ?_
    rw [List.head?_append_of_ne_nil _ hne] at hc
    obtain ⟨hslash, -, -, hback⟩ := endsAuthority_eq_false.1 (hwithin c (List.mem_of_mem_head? hc))
    simp [isSlash, hslash, hback]
  have hall : ∀ c ∈ cs, (!endsAuthority true c) = true := by simpa using hwithin
  rw [List.dropWhile_cons_of_pos (by decide), List.dropWhile_cons_of_pos (by decide), hslashes,
    List.takeWhile_append_of_pos hall, List.dropWhile_append_of_pos hall]
  cases rest with
  | nil => simp
  | cons c rest => simp [hrest c rfl]

/-- What stands behind the authority in the text of a place. -/
def Url.behind (url : Url) : List Char :=
  (Path.text url.path).toList ++ marked '?' (url.query.map String.toList) ++
    marked '#' (url.fragment.map String.toList)

theorem Url.toList_text (url : Url) :
    url.text.toList =
      url.scheme.name.toList ++ ':' :: '/' :: '/' :: (url.authority.text.toList ++ url.behind) := by
  unfold Url.text Url.behind
  cases url.query with
  | none => cases url.fragment <;> simp [marked]
  | some query => cases url.fragment <;> simp [marked]

theorem scheme?_name (scheme : WebScheme) (rest : List Char) :
    scheme? (scheme.name.toList ++ ':' :: rest) = some (scheme.name, rest) := by
  obtain ⟨secure, socket⟩ := scheme
  cases secure <;> cases socket <;> rfl

theorem ofName?_name (scheme : WebScheme) : WebScheme.ofName? scheme.name = some scheme := by
  obtain ⟨secure, socket⟩ := scheme
  cases secure <;> cases socket <;> rfl

namespace Url

variable {c : Char}

/-- The characters of the text of a path. -/
theorem IsSound.mem_path (h : url.IsSound) (hc : c ∈ (Path.text url.path).toList) :
    c = '/' ∨ isEscaped pathMarks c = false := by
  rw [Path.text, String.toList_ofList, List.mem_cons] at hc
  rcases hc with rfl | hc
  · exact .inl rfl
  · rcases mem_of_mem_intercalate hc with rfl | ⟨part, hpart, hc⟩
    · exact .inl rfl
    · obtain ⟨segment, hsegment, rfl⟩ := List.mem_map.1 hpart
      exact .inr (h.path.chars hsegment hc).1

/-- There are neither blanks nor controls in the text of a place. -/
theorem IsSound.lt_of_mem_text (h : url.IsSound) (hc : c ∈ url.text.toList) : 32 < c.toNat := by
  have hname : ∀ secure socket, (WebScheme.mk secure socket).name.toList.all (32 < ·.toNat) = true := by decide
  rw [toList_text, List.mem_append, List.mem_cons, List.mem_cons, List.mem_cons, List.mem_append, behind,
    List.mem_append, List.mem_append] at hc
  rcases hc with hc | rfl | rfl | rfl | hc | (hc | hc) | hc
  · simpa using List.all_eq_true.1 (hname url.scheme.secure url.scheme.socket) c hc
  · decide
  · decide
  · decide
  · exact (isWithin_iff.1 (isWithin_of_mem_text h.authority hc)).1
  · rcases h.mem_path hc with rfl | hc
    · decide
    · exact lt_of_not_escaped (by decide) hc
  · rcases mem_marked h.query hc with rfl | hc
    · decide
    · exact lt_of_not_escaped (by decide) hc
  · rcases mem_marked h.fragment hc with rfl | hc
    · decide
    · exact lt_of_not_escaped (by decide) hc

/-- The query ends where the fragment begins. -/
theorem IsSound.splitFirst_behind (h : url.IsSound) :
    splitFirst '#' url.behind =
      ((Path.text url.path).toList ++ marked '?' (url.query.map String.toList), url.fragment.map String.toList) := by
  refine splitFirst_marked (fun hmem => ?_) _
  rcases List.mem_append.1 hmem with hmem | hmem
  · rcases h.mem_path hmem with heq | hescaped
    · exact absurd heq (by decide)
    · exact absurd hescaped (by decide)
  · rcases mem_marked h.query hmem with heq | hescaped
    · exact absurd heq (by decide)
    · exact absurd hescaped (by decide)

/-- The path ends where the query begins. -/
theorem IsSound.splitFirst_path (h : url.IsSound) :
    splitFirst '?' ((Path.text url.path).toList ++ marked '?' (url.query.map String.toList)) =
      ((Path.text url.path).toList, url.query.map String.toList) := by
  refine splitFirst_marked (fun hmem => ?_) _
  rcases h.mem_path hmem with heq | hescaped
  · exact absurd heq (by decide)
  · exact absurd hescaped (by decide)

/-- What follows the scheme in the text of a place is read as the place. -/
theorem ofScheme_text (h : url.IsSound) :
    Url.ofScheme url.scheme ('/' :: '/' :: (url.authority.text.toList ++ url.behind)) =
      if url.authority.host.isReadable then .ok url else .error .name := by
  obtain ⟨hauthority, hbehind⟩ := split_authority url.behind (toList_text_ne_nil h.authority)
    (fun c hc => (isWithin_iff.1 (isWithin_of_mem_text h.authority hc)).2)
    (by simp [behind, Path.text, endsAuthority])
  rw [Url.ofScheme_eq (by rw [hbehind, h.splitFirst_behind]) h.splitFirst_path, commonAuthority, hauthority,
    authority_text h.authority, Path.parse_toList_text h.path, map_written h.query, map_written h.fragment]
  by_cases hreadable : url.authority.host.isReadable = true
  · rw [if_pos hreadable, if_pos hreadable]
    rfl
  · rw [if_neg hreadable, if_neg hreadable]
    rfl

end Url

/-- **A place is read from its text**, if its host can be read. -/
theorem parse_url_text (h : url.IsSound) :
    parse url.text = if url.authority.host.isReadable then .ok (.web url) else .error .name := by
  rw [parse, significant_of_within fun c hc => h.lt_of_mem_text hc, Url.toList_text, scheme?_name]
  simp only [ofScheme, ofName?_name, Url.ofScheme_text h]
  by_cases hreadable : url.authority.host.isReadable = true
  · rw [if_pos hreadable, if_pos hreadable]
    rfl
  · rw [if_neg hreadable, if_neg hreadable]
    rfl

end NetGauge.Origin
