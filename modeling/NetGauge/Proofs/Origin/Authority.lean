import Mathlib.Data.List.TakeWhile
import NetGauge.Origin.Basic
import NetGauge.Proofs.Origin.Host
import NetGauge.Proofs.Origin.Path

set_option autoImplicit false

/-! # Authorities read back

The text of an authority is read as that authority (`authority_text`), unless its host cannot be read. Credentials
are taken apart again because they are written percent-encoded: no `@` is left in them and no colon but the one
between user and password (`credentials?_text`), and a port because hosts have colons only between brackets
(`splitPort_text`). -/

namespace NetGauge.Origin

/-! ## Credentials -/

/-- What holds of credentials that were read: they are written percent-encoded, and there are some. -/
structure Credentials.IsSound (c : Credentials) : Prop where
  user : ∀ x ∈ c.user.toList, isEscaped userMarks x = false
  password : ∀ password ∈ c.password, password.toList ≠ [] ∧ ∀ x ∈ password.toList, isEscaped userMarks x = false
  some : c.user.toList ≠ [] ∨ c.password.isSome

theorem sound_of_credentials? {cs : List Char} {c : Credentials} (h : credentials? cs = some c) : c.IsSound := by
  simp only [credentials?] at h
  generalize cs.takeWhile (· ≠ ':') = user at h
  generalize (cs.dropWhile (· ≠ ':')).drop 1 = password at h
  split at h
  · cases h
  · next hsome =>
      injection h with h
      subst h
      refine ⟨fun x hx => not_escaped_of_mem_written (by decide) (by decide) hx, ?_, ?_⟩
      · intro written hwritten
        by_cases hempty : password = []
        · simp [hempty] at hwritten
        · simp only [List.isEmpty_iff, hempty, if_false, Option.mem_def, Option.some.injEq] at hwritten
          subst hwritten
          refine ⟨?_, fun x hx => not_escaped_of_mem_written (by decide) (by decide) hx⟩
          rw [written, String.toList_ofList]
          exact Text.percentEncode_ne_nil hempty
      · by_cases hempty : password = []
        · refine .inl ?_
          rw [written, String.toList_ofList]
          exact Text.percentEncode_ne_nil fun hnil => hsome ⟨by simp [hnil], by simp [hempty]⟩
        · exact .inr (by simp [hempty])

theorem Credentials.toList_text (c : Credentials) :
    c.text.toList = c.user.toList ++ match c.password with
      | none => []
      | Option.some password => ':' :: password.toList := by
  unfold text
  cases c.password with
  | none => simp
  | some password => simp

/-- **Credentials are read from their text.** -/
theorem credentials?_text {c : Credentials} (h : c.IsSound) : credentials? c.text.toList = some c := by
  obtain ⟨user, password⟩ := c
  have huser : ∀ x ∈ user.toList, x ≠ ':' := by
    rintro x hx rfl
    exact absurd (h.user ':' hx) (by decide)
  have hwritten : written userMarks user.toList = user := written_toList h.user
  rw [Credentials.toList_text]
  cases password with
  | none =>
      have hsome : user.toList ≠ [] := by simpa using h.some
      have htake : user.toList.takeWhile (· ≠ ':') = user.toList := List.takeWhile_eq_self_iff.2 (by simpa using huser)
      have hdrop : user.toList.dropWhile (· ≠ ':') = [] := List.dropWhile_eq_nil_iff.2 (by simpa using huser)
      simp only [credentials?, List.append_nil, htake, hdrop]
      simp [hwritten, hsome]
  | some password =>
      obtain ⟨hsome, hpassword⟩ := h.password password rfl
      have hwritten' : written userMarks password.toList = password := written_toList hpassword
      have htake : (user.toList ++ ':' :: password.toList).takeWhile (· ≠ ':') = user.toList := by
        rw [List.takeWhile_append_of_pos (by simpa using huser), List.takeWhile_cons_of_neg (by simp), List.append_nil]
      have hdrop : (user.toList ++ ':' :: password.toList).dropWhile (· ≠ ':') = ':' :: password.toList := by
        rw [List.dropWhile_append_of_pos (by simpa using huser), List.dropWhile_cons_of_neg (by simp)]
      simp only [credentials?, htake, hdrop]
      simp [hwritten, hwritten', hsome]

theorem not_escaped_of_mem_text {c : Credentials} (h : c.IsSound) {x : Char} (hx : x ∈ c.text.toList) :
    x = ':' ∨ isEscaped userMarks x = false := by
  rw [Credentials.toList_text, List.mem_append] at hx
  rcases hx with hx | hx
  · exact .inr (h.user x hx)
  · cases hpassword : c.password with
    | none => simp [hpassword] at hx
    | some password =>
        rw [hpassword, List.mem_cons] at hx
        exact hx.imp_right ((h.password password hpassword).2 x)

/-! ## Parts of an authority -/

theorem splitUser_append {user rest : List Char} (h : '@' ∉ rest) :
    splitUser (user ++ '@' :: rest) = (some user, rest) := by
  have htake : ((user ++ '@' :: rest).reverse.takeWhile (· ≠ '@')).reverse = rest := by
    have hall : ∀ c ∈ rest.reverse, decide (c ≠ '@') = true := by
      intro c hc
      simp only [decide_eq_true_eq]
      rintro rfl
      exact h (List.mem_reverse.1 hc)
    rw [List.reverse_append, List.reverse_cons, List.append_assoc, List.singleton_append,
      List.takeWhile_append_of_pos hall, List.takeWhile_cons_of_neg (by simp), List.append_nil, List.reverse_reverse]
  have hlength : (user ++ '@' :: rest).length - rest.length - 1 = user.length := by
    rw [List.length_append, List.length_cons]
    omega
  simp only [splitUser, htake, hlength, List.take_left]
  simp

theorem splitUser_of_not_mem {rest : List Char} (h : '@' ∉ rest) : splitUser rest = (none, rest) := by
  rw [splitUser, if_neg (by simpa using h)]

/-- Outside brackets what has neither colons nor brackets belongs to the host. -/
theorem splitPort_append {front : List Char} (h : ∀ c ∈ front, c ≠ ':' ∧ c ≠ '[' ∧ c ≠ ']') (rest : List Char) :
    splitPort false (front ++ rest) = (front ++ (splitPort false rest).1, (splitPort false rest).2) := by
  induction front with
  | nil => rfl
  | cons c front ih =>
      simp only [List.mem_cons, forall_eq_or_imp] at h
      obtain ⟨⟨hcolon, hopen, hclose⟩, h⟩ := h
      rw [List.cons_append, splitPort, if_neg (by simp [hcolon])]
      simp [hopen, hclose, ih h]

/-- Up to a closing bracket everything belongs to the host. -/
theorem splitPort_brackets {inside : List Char} (h : ']' ∉ inside) (rest : List Char) :
    splitPort true (inside ++ ']' :: rest) =
      (inside ++ ']' :: (splitPort false rest).1, (splitPort false rest).2) := by
  induction inside with
  | nil => simp [splitPort]
  | cons c inside ih =>
      simp only [List.mem_cons, not_or] at h
      rw [List.cons_append, splitPort, if_neg (by simp)]
      by_cases hopen : c = '['
      · simp [hopen, ih h.2]
      · simp [hopen, Ne.symm h.1, ih h.2]

theorem splitPort_text {host : Host} (h : host.IsSound) (rest : List Char) :
    splitPort false (host.text.toList ++ rest) =
      (host.text.toList ++ (splitPort false rest).1, (splitPort false rest).2) := by
  have hwritten : ∀ c, Domain.isWritten c = true → c ≠ ':' ∧ c ≠ '[' ∧ c ≠ ']' := by
    intro c hc
    refine ⟨?_, ?_, ?_⟩ <;> rintro rfl <;> exact absurd hc (by decide)
  cases host with
  | named name => exact splitPort_append (fun c hc => hwritten c (Host.isWritten_named h hc)) rest
  | ipv4 a => exact splitPort_append (fun c hc => hwritten c (Host.isWritten_ipv4 hc)) rest
  | ipv6 a =>
      have hclose : ']' ∉ a.text.toList := by
        intro hmem
        rcases Ipv6.mem_text hmem with heq | ⟨d, hd, heq⟩
        · exact absurd heq (by decide)
        · exact (hwritten _ (Host.isWritten_digitChar d hd)).2.2 heq.symm
      rw [Host.toList_text_ipv6, List.cons_append, splitPort, if_neg (by simp), List.append_assoc,
        List.singleton_append]
      simp [splitPort_brackets hclose]

/-- **A port is read from its digits.** -/
theorem port_toDigits (p : UInt16) : port (Nat.toDigits 10 p.toNat) = .ok (some p.toNat) := by
  have hdigits : (Nat.toDigits 10 p.toNat).all Char.isDigit = true :=
    List.all_eq_true.2 fun c hc => Nat.isDigit_of_mem_toDigits (by decide) (by decide) hc
  have hvalue : (Nat.toDigits 10 p.toNat).foldl (fun n c => n * 10 + (c.toNat - 48)) 0 = p.toNat := by
    have hten : Nat.ofDigitChars 10 (Nat.toDigits 10 p.toNat) 0 = p.toNat := Nat.ofDigitChars_ten_toDigits
    simp only [Nat.ofDigitChars, Nat.mul_comm 10] at hten
    exact hten
  have hsome : (Nat.toDigits 10 p.toNat).isEmpty = false := by simp
  have hbound : p.toNat < 65536 := p.toNat_lt
  simp only [port, hdigits, hvalue, hbound, hsome, if_true]
  rfl

/-! ## Authorities -/

/-- What holds of an authority that was read for a scheme with this default port. -/
structure Authority.IsSound (defaultPort : Nat) (a : Authority) : Prop where
  credentials : ∀ c ∈ a.credentials, c.IsSound
  host : a.host.IsSound
  port : ∀ port ∈ a.port, port.toNat ≠ defaultPort

variable {defaultPort : Nat} {a : Authority}

/-- An authority in its parts. -/
theorem authority_eq {cs rest host : List Char} {user digits : Option (List Char)}
    (huser : splitUser cs = (user, rest)) (hport : splitPort false rest = (host, digits)) :
    authority defaultPort cs =
      if host.isEmpty then .error .emptyHost
      else (Host.parse host).bind fun host => (port (digits.getD [])).map fun port => {
        credentials := user.bind credentials?
        host := host
        port := (port.filter (· ≠ defaultPort)).map UInt16.ofNat } := by
  simp only [authority, huser, hport]
  by_cases hempty : host.isEmpty = true
  · rw [if_pos hempty, if_pos hempty]
    rfl
  · rw [if_neg hempty, if_neg hempty]
    cases Host.parse host with
    | error fault => rfl
    | ok host => cases port (digits.getD []) <;> rfl

theorem lt_of_port {digits : List Char} {n : Nat} (h : port digits = .ok (some n)) : n < 65536 := by
  unfold port at h
  simp only at h
  split at h
  · split at h
    · next hbound =>
        split at h
        · cases h
        · injection h with h
          injection h with h
          exact h ▸ hbound
    · cases h
  · cases h

/-- **What is read for an authority is sound.** -/
theorem sound_of_authority {cs : List Char} (h : authority defaultPort cs = .ok a) : a.IsSound defaultPort := by
  obtain ⟨user, rest, huser⟩ : ∃ user rest, splitUser cs = (user, rest) := ⟨_, _, rfl⟩
  obtain ⟨written, digits, hsplit⟩ : ∃ written digits, splitPort false rest = (written, digits) := ⟨_, _, rfl⟩
  rw [authority_eq huser hsplit] at h
  split at h
  · cases h
  · cases hhost : Host.parse written with
    | error fault =>
        rw [hhost] at h
        cases h
    | ok host =>
        rw [hhost] at h
        cases hport : port (digits.getD []) with
        | error fault =>
            rw [hport] at h
            cases h
        | ok n =>
            rw [hport] at h
            injection h with h
            subst h
            refine ⟨?_, Host.sound_of_parse hhost, ?_⟩
            · intro c hc
              obtain ⟨cs, -, hc⟩ := Option.bind_eq_some_iff.1 hc
              exact sound_of_credentials? hc
            · intro p hp
              obtain ⟨m, hm, rfl⟩ := Option.map_eq_some_iff.1 hp
              obtain ⟨rfl, hother⟩ := Option.filter_eq_some_iff.1 hm
              have hbound := lt_of_port hport
              rw [UInt16.toNat_ofNat_of_lt' hbound]
              simpa using hother

/-- What stands behind the host. -/
def Authority.portText (a : Authority) : List Char :=
  match a.port with
  | none => []
  | some port => ':' :: Nat.toDigits 10 port.toNat

theorem Authority.toList_text (a : Authority) :
    a.text.toList =
      (match a.credentials with
        | none => []
        | some credentials => credentials.text.toList ++ ['@']) ++ (a.host.text.toList ++ a.portText) := by
  unfold text portText
  cases a.credentials with
  | none => cases a.port <;> simp
  | some credentials => cases a.port <;> simp

/-- Whether a character can stand behind the credentials. -/
theorem isHostChar_of_mem {a : Authority} (h : a.host.IsSound) {c : Char}
    (hc : c ∈ a.host.text.toList ++ a.portText) : Host.isHostChar c = true := by
  rw [List.mem_append] at hc
  rcases hc with hc | hc
  · exact Host.isHostChar_of_mem_text h hc
  · unfold Authority.portText at hc
    split at hc
    · cases hc
    · rcases List.mem_cons.1 hc with rfl | hc
      · decide
      · have hdigit := Nat.isDigit_of_mem_toDigits (by decide) (by decide) hc
        simp [Host.isHostChar, Host.isWritten_of_isDigit hdigit]

theorem splitUser_text (h : a.IsSound defaultPort) :
    splitUser a.text.toList = (a.credentials.map (·.text.toList), a.host.text.toList ++ a.portText) := by
  have hat : '@' ∉ a.host.text.toList ++ a.portText :=
    fun hmem => absurd (isHostChar_of_mem h.host hmem) (by decide)
  rw [Authority.toList_text]
  cases a.credentials with
  | none => exact splitUser_of_not_mem hat
  | some credentials =>
      rw [List.append_assoc, List.singleton_append]
      exact splitUser_append hat

theorem splitPort_portText (a : Authority) :
    splitPort false a.portText = ([], a.port.map (fun port => Nat.toDigits 10 port.toNat)) := by
  unfold Authority.portText
  cases a.port with
  | none => rfl
  | some port => simp [splitPort]

/-- **An authority is read from its text**, if its host can be read. -/
theorem authority_text (h : a.IsSound defaultPort) :
    authority defaultPort a.text.toList = if a.host.isReadable then .ok a else .error .name := by
  have hhost : splitPort false (a.host.text.toList ++ a.portText) =
      (a.host.text.toList, a.port.map (fun port => Nat.toDigits 10 port.toNat)) := by
    rw [splitPort_text h.host, splitPort_portText, List.append_nil]
  have hport : port ((a.port.map (fun port => Nat.toDigits 10 port.toNat)).getD []) =
      .ok (a.port.map UInt16.toNat) := by
    cases a.port with
    | none => rfl
    | some p => exact port_toDigits p
  have hfilter : ((a.port.map UInt16.toNat).filter (· ≠ defaultPort)).map UInt16.ofNat = a.port := by
    cases hp : a.port with
    | none => rfl
    | some p => simp [h.port p hp]
  have hcredentials : (a.credentials.map (·.text.toList)).bind credentials? = a.credentials := by
    cases hc : a.credentials with
    | none => rfl
    | some c => exact credentials?_text (h.credentials c hc)
  rw [authority_eq (splitUser_text h) hhost, if_neg (by simpa using Host.toList_text_ne_nil h.host),
    Host.parse_toList_text h.host, hport]
  by_cases hreadable : a.host.isReadable = true
  · rw [if_pos hreadable, if_pos hreadable]
    simp only [Except.bind, Except.map, hfilter, hcredentials]
  · rw [if_neg hreadable, if_neg hreadable]
    rfl

/-- Whether a character is neither blank nor the end of an authority. -/
def isWithin (c : Char) : Bool := 32 < c.toNat && !endsAuthority true c

theorem isWithin_of_not_escaped {c : Char} (h : isEscaped userMarks c = false) : isWithin c = true := by
  have hascii : c.toNat < 128 := by
    simp only [isEscaped, Bool.or_eq_false_iff, decide_eq_false_iff_not] at h
    omega
  refine Domain.forall_ascii (p := fun c => isEscaped userMarks c = false → isWithin c = true) ?_ hascii h
  decide

theorem isWithin_of_isHostChar {c : Char} (h : Host.isHostChar c = true) : isWithin c = true := by
  rcases Bool.or_eq_true_iff.1 h with hwritten | hmark
  · refine Domain.forall_ascii (p := fun c => Domain.isWritten c = true → isWithin c = true) ?_
      (Domain.isWritten_iff.1 hwritten).1 hwritten
    decide
  · have hmarks : ['[', ':', ']'].all isWithin = true := by decide
    exact List.all_eq_true.1 hmarks c (by simpa using hmark)

/-- **Nothing in the text of an authority ends it**, and there are no blanks in it. -/
theorem isWithin_of_mem_text (h : a.IsSound defaultPort) {c : Char} (hc : c ∈ a.text.toList) : isWithin c = true := by
  rw [Authority.toList_text, List.mem_append] at hc
  rcases hc with hc | hc
  · cases hcredentials : a.credentials with
    | none => simp [hcredentials] at hc
    | some credentials =>
        rw [hcredentials, List.mem_append, List.mem_singleton] at hc
        rcases hc with hc | rfl
        · rcases not_escaped_of_mem_text (h.credentials credentials hcredentials) hc with rfl | hc
          · decide
          · exact isWithin_of_not_escaped hc
        · decide
  · exact isWithin_of_isHostChar (isHostChar_of_mem h.host hc)

theorem toList_text_ne_nil (h : a.IsSound defaultPort) : a.text.toList ≠ [] := by
  rw [Authority.toList_text]
  simp [Host.toList_text_ne_nil h.host]

theorem endsAuthority_eq_false {c : Char} :
    endsAuthority true c = false ↔ c ≠ '/' ∧ c ≠ '?' ∧ c ≠ '#' ∧ c ≠ '\\' := by
  simp [endsAuthority, and_assoc]

theorem isWithin_iff {c : Char} : isWithin c = true ↔ 32 < c.toNat ∧ endsAuthority true c = false := by
  simp [isWithin]

end NetGauge.Origin
