import NetGauge.Proofs.Json.Record

set_option autoImplicit false

/-! # Literals

The strings, numbers and words of JSON as they are written, and what the readers make of them. A reader
of literals is settled by the literal: it reads it to its end and no further, or refuses it, and nothing
that may stand behind a value makes a difference (`Settled`). The readers that pass over a literal never
refuse one. So a literal is the same in every place of a text. -/

namespace NetGauge.Json

variable {α : Type}

/-! ## Outcomes

Faults tell where they were noticed, which changes with everything around. What is compared is whether
there is a result, and which. -/

section

variable {β ε : Type}

@[simp] theorem toOption_ok (a : α) : (Except.ok a : Except ε α).toOption = some a := rfl

@[simp] theorem toOption_error (e : ε) : (Except.error e : Except ε α).toOption = none := rfl

theorem toOption_bind (x : Except ε α) (f : α → Except ε β) :
    (x >>= f).toOption = x.toOption.bind (fun a => (f a).toOption) := by
  cases x <;> rfl

theorem toOption_eq_some_iff {x : Except ε α} {a : α} : x.toOption = some a ↔ x = .ok a := by
  cases x <;> simp

end

/-! ## What stands around values -/

/-- Characters that are all blanks. -/
def Blanks (text : List Char) : Prop := ∀ c ∈ text, isSpace c = true

/-- What may stand behind a value: nothing, a blank, or a mark that ends it. -/
def Ends : List Char → Prop
  | [] => True
  | c :: _ => isSpace c = true ∨ c = ',' ∨ c = ']' ∨ c = '}'

theorem blanks_nil : Blanks [] := nofun

theorem skipSpace_blanks {before : List Char} (h : Blanks before) (text : List Char) :
    skipSpace (before ++ text) = skipSpace text := by
  induction before with
  | nil => rfl
  | cons c before ih =>
      have hspace : isSpace c = true := h c List.mem_cons_self
      rw [List.cons_append, skipSpace, List.dropWhile_cons_of_pos hspace]
      exact ih fun d hd => h d (List.mem_cons_of_mem c hd)

/-- Blanks may come before what ends a value. -/
theorem Ends.of_blanks {after rest : List Char} (h : Blanks after) (hrest : Ends rest) :
    Ends (after ++ rest) := by
  cases after with
  | nil => exact hrest
  | cons c after => exact .inl (h c List.mem_cons_self)

namespace Ends

variable {rest : List Char}

theorem startsWithDigit_eq (h : Ends rest) : startsWithDigit rest = false := by
  cases rest with
  | nil => rfl
  | cons c rest =>
      rcases h with h | rfl | rfl | rfl
      · simp only [isSpace, Bool.or_eq_true, decide_eq_true_eq] at h
        rcases h with ((rfl | rfl) | rfl) | rfl <;> rfl
      all_goals rfl

theorem startsWithExponent_eq (h : Ends rest) : startsWithExponent rest = false := by
  cases rest with
  | nil => rfl
  | cons c rest =>
      rcases h with h | rfl | rfl | rfl
      · simp only [isSpace, Bool.or_eq_true, decide_eq_true_eq] at h
        rcases h with ((rfl | rfl) | rfl) | rfl <;> rfl
      all_goals rfl

theorem ne_point (h : Ends rest) (more : List Char) : rest ≠ '.' :: more := by
  rintro rfl
  rcases h with h | h | h | h <;> cases h

end Ends

/-! ## Readers that are settled by what they read -/

/-- What a reader finds in a text of its own. -/
def found? (read : List Char → Except Fault (α × List Char)) (text : List Char) : Option α :=
  (read text).toOption.map Prod.fst

/-- A reader reads a text to its end and no further, or refuses it, whatever comes behind. -/
def Settled (read : List Char → Except Fault (α × List Char)) (text : List Char) : Prop :=
  ∀ rest, Ends rest → (read (text ++ rest)).toOption = (found? read text).map (fun a => (a, rest))

/-- It is enough to know of some result that nothing behind the text changes it. -/
theorem settled_of {read : List Char → Except Fault (α × List Char)} {text : List Char}
    (h : ∃ found : Option α, ∀ rest, Ends rest →
      (read (text ++ rest)).toOption = found.map (fun a => (a, rest))) : Settled read text := by
  obtain ⟨found, hfound⟩ := h
  have halone : found? read text = found := by
    have h := hfound [] trivial
    rw [List.append_nil] at h
    rw [found?, h]
    cases found <;> rfl
  rw [Settled, halone]
  exact hfound

/-- A reader is settled if it goes on as one that is. -/
theorem Settled.of_eq {read other : List Char → Except Fault (α × List Char)} {text behind : List Char}
    (h : Settled other behind) (heq : ∀ rest, Ends rest → read (text ++ rest) = other (behind ++ rest)) :
    Settled read text :=
  settled_of ⟨_, fun rest hrest => (congrArg Except.toOption (heq rest hrest)).trans (h rest hrest)⟩

/-! ## Strings -/

/-- A piece of a string literal: a character that stands for itself, a letter behind a backslash, or
    four digits behind a backslash and a `u`. -/
inductive Glyph where
  | plain (c : Char) (h : c ≠ '"' ∧ c ≠ '\\' ∧ ¬c.toNat < 0x20)
  | letter (c : Char) (h : (simpleEscape c).isSome = true)
  | digits (a b c d : Char) (h : (hexFour a b c d).isSome = true)

namespace Glyph

/-- The characters of a piece. -/
def text : Glyph → List Char
  | plain c _ => [c]
  | letter c _ => ['\\', c]
  | digits a b c d _ => ['\\', 'u', a, b, c, d]

theorem ne_u {c : Char} (h : (simpleEscape c).isSome = true) : c ≠ 'u' := by
  rintro rfl
  cases h

end Glyph

/-- A string literal behind its opening quote. -/
def closedText (glyphs : List Glyph) : List Char := glyphs.flatMap Glyph.text ++ ['"']

/-- The string that a literal stands for, unless surrogates are left alone in it. -/
def stringOf? (glyphs : List Glyph) : Option String := found? string (closedText glyphs)

theorem closedText_cons (g : Glyph) (glyphs : List Glyph) (rest : List Char) :
    closedText (g :: glyphs) ++ rest = g.text ++ (closedText glyphs ++ rest) := by
  simp [closedText]

/-- A string literal is passed over. -/
theorem skipString_closedText (glyphs : List Glyph) (rest : List Char) :
    skipString (closedText glyphs ++ rest) = .ok rest := by
  induction glyphs with
  | nil =>
      rw [skipString.eq_def]
      rfl
  | cons g glyphs ih =>
      rw [closedText_cons, skipString.eq_def]
      cases g with
      | plain c h =>
          obtain ⟨hquote, hbackslash, hcontrol⟩ := h
          simp only [Glyph.text, List.singleton_append, hquote, hbackslash, hcontrol, if_false, ih]
      | letter c h =>
          obtain ⟨d, hd⟩ := Option.isSome_iff_exists.1 h
          have hu := Glyph.ne_u h
          simp only [Glyph.text, List.cons_append, List.nil_append, Char.reduceEq, if_false, if_true, hd,
            ih]
      | digits a b c d h =>
          obtain ⟨n, hn⟩ := Option.isSome_iff_exists.1 h
          simp only [Glyph.text, List.cons_append, List.nil_append, Char.reduceEq, if_false, if_true, hn,
            ih]

theorem stringFrom_letter (done : List Char) {c d : Char} (h : simpleEscape c = some d)
    (rest : List Char) : stringFrom done ('\\' :: c :: rest) = stringFrom (d :: done) rest := by
  have hu : c ≠ 'u' := Glyph.ne_u (h ▸ rfl)
  rw [stringFrom.eq_def]
  simp only [Char.reduceEq, if_false, if_true, h]

/-- Four digits that are no surrogate stand for a character. -/
theorem stringFrom_digits (done : List Char) {a b c d : Char} {n : Nat} (h : hexFour a b c d = some n)
    (htrail : isTrailSurrogate n = false) (hlead : isLeadSurrogate n = false) (rest : List Char) :
    stringFrom done ('\\' :: 'u' :: a :: b :: c :: d :: rest) =
      stringFrom (Char.ofNat n :: done) rest := by
  rw [stringFrom.eq_def]
  simp only [Char.reduceEq, if_false, if_true, h, htrail, hlead, Bool.false_eq_true]

/-- The second of two surrogates does not come first. -/
theorem stringFrom_trail (done : List Char) {a b c d : Char} {n : Nat} (h : hexFour a b c d = some n)
    (htrail : isTrailSurrogate n = true) (rest : List Char) :
    (stringFrom done ('\\' :: 'u' :: a :: b :: c :: d :: rest)).toOption = none := by
  rw [stringFrom.eq_def]
  simp only [Char.reduceEq, if_false, if_true, h, htrail, toOption_error]

/-- The first of two surrogates is followed by the second. -/
theorem stringFrom_lead_digits (done : List Char) {a b c d a' b' c' d' : Char} {n m : Nat}
    (h : hexFour a b c d = some n) (htrail : isTrailSurrogate n = false)
    (hlead : isLeadSurrogate n = true) (h' : hexFour a' b' c' d' = some m) (rest : List Char) :
    (stringFrom done
        ('\\' :: 'u' :: a :: b :: c :: d :: '\\' :: 'u' :: a' :: b' :: c' :: d' :: rest)).toOption =
      if isTrailSurrogate m then (stringFrom (joinSurrogates n m :: done) rest).toOption else none := by
  rw [stringFrom.eq_def]
  simp only [Char.reduceEq, if_false, if_true, h, htrail, hlead, h', Bool.false_eq_true]
  split <;> rfl

/-- Nothing else may follow the first of two surrogates. -/
theorem stringFrom_lead (done : List Char) {a b c d : Char} {n : Nat} (h : hexFour a b c d = some n)
    (htrail : isTrailSurrogate n = false) (hlead : isLeadSurrogate n = true) {rest : List Char}
    (hrest : ∀ more, rest ≠ '\\' :: 'u' :: more) :
    (stringFrom done ('\\' :: 'u' :: a :: b :: c :: d :: rest)).toOption = none := by
  rw [stringFrom.eq_def]
  simp only [Char.reduceEq, if_false, if_true, h, htrail, hlead, Bool.false_eq_true]
  split
  · rfl
  · rfl
  · next digits => exact absurd rfl (hrest digits)
  · rfl
  · rfl

/-- What is made of a string literal depends on the literal alone. The induction is on its pieces; two
    surrogates are taken together. -/
theorem stringFrom_closedText (glyphs : List Glyph) (done : List Char) :
    ∃ found : Option String, ∀ rest,
      (stringFrom done (closedText glyphs ++ rest)).toOption = found.map (fun s => (s, rest)) := by
  -- A lead surrogate takes the next piece with it, so the induction is on the number of pieces.
  induction hlength : glyphs.length using Nat.strongRecOn generalizing glyphs done with
  | ind length ih =>
  subst hlength
  cases glyphs with
  | nil =>
      refine ⟨some (String.ofList done.reverse), fun rest => ?_⟩
      show (stringFrom done ('"' :: rest)).toOption = _
      rw [stringFrom.eq_def]
      rfl
  | cons g glyphs =>
  have hlater := fun done => ih glyphs.length (Nat.lt_succ_self _) glyphs done rfl
  cases g with
  | plain c h =>
      obtain ⟨found, hfound⟩ := hlater (c :: done)
      refine ⟨found, fun rest => ?_⟩
      rw [← hfound, closedText_cons]
      exact congrArg _ (stringFrom_plain done c _ h.1 h.2.1 h.2.2)
  | letter c h =>
      obtain ⟨d, hd⟩ := Option.isSome_iff_exists.1 h
      obtain ⟨found, hfound⟩ := hlater (d :: done)
      refine ⟨found, fun rest => ?_⟩
      rw [← hfound, closedText_cons]
      exact congrArg _ (stringFrom_letter done hd _)
  | digits a b c d h =>
      obtain ⟨n, hn⟩ := Option.isSome_iff_exists.1 h
      cases htrail : isTrailSurrogate n with
      | true =>
          refine ⟨none, fun rest => ?_⟩
          rw [closedText_cons]
          exact stringFrom_trail done hn htrail _
      | false =>
      cases hlead : isLeadSurrogate n with
      | false =>
          obtain ⟨found, hfound⟩ := hlater (Char.ofNat n :: done)
          refine ⟨found, fun rest => ?_⟩
          rw [← hfound, closedText_cons]
          exact congrArg _ (stringFrom_digits done hn htrail hlead _)
      | true =>
      cases glyphs with
      | nil =>
          refine ⟨none, fun rest => stringFrom_lead done hn htrail hlead ?_⟩
          rintro more ⟨⟩
      | cons g' glyphs =>
      cases g' with
      | digits a' b' c' d' h' =>
          obtain ⟨m, hm⟩ := Option.isSome_iff_exists.1 h'
          obtain ⟨found, hfound⟩ := ih glyphs.length (Nat.lt_add_of_pos_right Nat.two_pos) glyphs
            (joinSurrogates n m :: done) rfl
          refine ⟨if isTrailSurrogate m then found else none, fun rest => ?_⟩
          rw [closedText_cons, closedText_cons]
          refine (stringFrom_lead_digits done hn htrail hlead hm (closedText glyphs ++ rest)).trans ?_
          rw [hfound]
          split <;> rfl
      | plain c' h' =>
          refine ⟨none, fun rest => ?_⟩
          rw [closedText_cons, closedText_cons]
          refine stringFrom_lead done hn htrail hlead ?_
          intro more heq
          exact h'.2.1 (List.head_eq_of_cons_eq heq)
      | letter c' h' =>
          refine ⟨none, fun rest => ?_⟩
          rw [closedText_cons, closedText_cons]
          refine stringFrom_lead done hn htrail hlead ?_
          rintro more ⟨⟩
          exact Glyph.ne_u h' rfl

/-- A string literal is read to its end and no further, or refused. -/
theorem string_closedText (glyphs : List Glyph) (rest : List Char) :
    (string (closedText glyphs ++ rest)).toOption = (stringOf? glyphs).map (fun s => (s, rest)) := by
  obtain ⟨found, hfound⟩ := stringFrom_closedText glyphs []
  have halone : stringOf? glyphs = found := by
    have h := hfound []
    rw [List.append_nil] at h
    rw [stringOf?, found?, string, h]
    cases found <;> rfl
  rw [halone]
  exact hfound rest

/-! ## Numbers -/

/-- One digit or more. -/
structure DigitRun where
  first : Char
  more : List Char
  isDigit_first : isDigit first = true
  isDigit_more : ∀ c ∈ more, isDigit c = true

def DigitRun.text (ds : DigitRun) : List Char := ds.first :: ds.more

theorem DigitRun.text_append (ds : DigitRun) (rest : List Char) :
    ds.text ++ rest = ds.first :: (ds.more ++ rest) := rfl

theorem DigitRun.isDigit_text (ds : DigitRun) : ∀ c ∈ ds.text, isDigit c = true :=
  List.forall_mem_cons.2 ⟨ds.isDigit_first, ds.isDigit_more⟩

/-- The exponent of a number. -/
structure Exponent where
  mark : Char
  sign : Option Char
  digits : DigitRun
  isMark : mark = 'e' ∨ mark = 'E'
  isSign : ∀ c ∈ sign, c = '+' ∨ c = '-'

/-- What stands behind the mark of an exponent. -/
def Exponent.behind (x : Exponent) : List Char := x.sign.toList ++ x.digits.text

def Exponent.text (x : Exponent) : List Char := x.mark :: x.behind

/-- A number as it is written: a sign, digits without a needless zero, a fraction and an exponent. -/
structure Numeral where
  negative : Bool
  whole : DigitRun
  fraction : Option DigitRun
  exponent : Option Exponent
  leading : whole.first = '0' → whole.more = []

namespace Numeral

/-- What stands behind the fraction. -/
def scale (n : Numeral) : List Char := (n.exponent.map Exponent.text).getD []

/-- What stands behind the digits before the point. -/
def tail (n : Numeral) : List Char :=
  match n.fraction with
  | some ds => '.' :: (ds.text ++ n.scale)
  | none => n.scale

/-- The number without its sign. -/
def unsigned (n : Numeral) : List Char := n.whole.text ++ n.tail

def text (n : Numeral) : List Char := (if n.negative then ['-'] else []) ++ n.unsigned

end Numeral

/-! ### What stops digits -/

section

variable {ds tail : List Char}

theorem dropWhile_isDigit_append (hds : ∀ c ∈ ds, isDigit c = true)
    (htail : startsWithDigit tail = false) : (ds ++ tail).dropWhile isDigit = tail := by
  rw [List.dropWhile_append_of_pos hds]
  cases tail with
  | nil => rfl
  | cons c tail => exact List.dropWhile_cons_of_neg (Bool.eq_false_iff.1 htail)

theorem takeWhile_isDigit_append (hds : ∀ c ∈ ds, isDigit c = true)
    (htail : startsWithDigit tail = false) : (ds ++ tail).takeWhile isDigit = ds := by
  rw [List.takeWhile_append_of_pos hds]
  cases tail with
  | nil => exact List.append_nil ds
  | cons c tail =>
      have hc : ¬isDigit c = true := Bool.eq_false_iff.1 htail
      rw [List.takeWhile_cons_of_neg hc, List.append_nil]

/-- Digits are taken, and left, in the same way whatever follows them. -/
theorem takeDigits_isDigit (bound value count : Nat) (hds : ∀ c ∈ ds, isDigit c = true) :
    ∃ taken times left, (∀ c ∈ left, isDigit c = true) ∧ ∀ tail, startsWithDigit tail = false →
      takeDigits bound value count (ds ++ tail) = ⟨taken, times, left ++ tail⟩ := by
  induction ds generalizing value count with
  | nil =>
      refine ⟨value, count, [], nofun, fun tail htail => ?_⟩
      cases tail with
      | nil => rfl
      | cons c tail =>
          have hc : isDigit c = false := htail
          simp [takeDigits, hc]
  | cons c ds ih =>
      have hc := hds c List.mem_cons_self
      by_cases hbound : value * 10 + digitValue c ≤ bound
      · obtain ⟨taken, times, left, hleft, htake⟩ := ih (value * 10 + digitValue c) (count + 1)
          fun d hd => hds d (List.mem_cons_of_mem c hd)
        refine ⟨taken, times, left, hleft, fun tail htail => ?_⟩
        rw [List.cons_append, takeDigits, if_pos (by simp [hc, hbound]), htake tail htail]
      · refine ⟨value, count, c :: ds, hds, fun tail _ => ?_⟩
        rw [List.cons_append, takeDigits, if_neg (by simp [hbound])]

end

/-- Scaling a number takes no further characters. -/
theorem settled_floatResult (negative : Bool) (value : Nat) (exponent : Int) :
    Settled (floatResult negative value exponent) [] := by
  refine settled_of ⟨(scaleFloat value exponent).map (fun x => .float (if negative then -x else x)),
    fun rest _ => ?_⟩
  unfold floatResult
  cases scaleFloat value exponent <;> rfl

/-! ### Exponents -/

section

variable (x : Exponent)

theorem isDigit_ne {c d : Char} (hc : isDigit c = true) (hd : isDigit d = false) : c ≠ d := by
  rintro rfl
  rw [hc] at hd
  cases hd

theorem Exponent.exponentSign_behind :
    ∃ down, ∀ rest, exponentSign (x.behind ++ rest) = (down, x.digits.text ++ rest) := by
  cases hsign : x.sign with
  | none =>
      refine ⟨false, fun rest => ?_⟩
      have hfirst := x.digits.isDigit_first
      rw [Exponent.behind, hsign]
      show exponentSign (x.digits.first :: _) = _
      unfold exponentSign
      split
      · next heq => exact absurd (List.head_eq_of_cons_eq heq) (isDigit_ne hfirst rfl)
      · next heq => exact absurd (List.head_eq_of_cons_eq heq) (isDigit_ne hfirst rfl)
      · rfl
  | some c =>
      rcases x.isSign c hsign with rfl | rfl
      · refine ⟨false, fun rest => ?_⟩
        rw [Exponent.behind, hsign]
        rfl
      · refine ⟨true, fun rest => ?_⟩
        rw [Exponent.behind, hsign]
        rfl

/-- An exponent is passed over. -/
theorem Exponent.skip {rest : List Char} (hrest : Ends rest) :
    skipExponent (x.behind ++ rest) = .ok rest := by
  obtain ⟨down, hsign⟩ := x.exponentSign_behind
  simp only [skipExponent, hsign, DigitRun.text_append, x.digits.isDigit_first, if_true,
    dropWhile_isDigit_append x.digits.isDigit_more hrest.startsWithDigit_eq]

theorem Exponent.settled (negative : Bool) (value : Nat) (exponent : Int) :
    Settled (exponentFrom negative value exponent) x.behind := by
  obtain ⟨down, hsign⟩ := x.exponentSign_behind
  obtain ⟨taken, times, left, hleft, htake⟩ :=
    takeDigits_isDigit exponentMax (digitValue x.digits.first) 1 x.digits.isDigit_more
  have hread : ∀ rest, Ends rest → exponentFrom negative value exponent (x.behind ++ rest) =
      if startsWithDigit (left ++ rest) then
        if value != 0 && !down then .error (.before .numberOutOfRange ((left ++ rest).drop 1))
        else .ok (.float (if negative then -0.0 else 0.0), (left ++ rest).dropWhile isDigit)
      else
        floatResult negative value (if down then exponent - taken else exponent + taken)
          (left ++ rest) := by
    intro rest hrest
    simp only [exponentFrom, hsign, DigitRun.text_append, x.digits.isDigit_first, if_true,
      htake rest hrest.startsWithDigit_eq]
  cases left with
  | nil =>
      have hscaled := settled_floatResult negative value
        (if down then exponent - taken else exponent + taken)
      refine hscaled.of_eq fun rest hrest => ?_
      rw [hread rest hrest, List.nil_append, if_neg (by simp [hrest.startsWithDigit_eq])]
  | cons c left =>
      -- There are more digits than can be counted.
      have hc : ∀ rest, startsWithDigit (c :: left ++ rest) = true :=
        fun _ => hleft c List.mem_cons_self
      refine settled_of ⟨if value != 0 && !down then none
        else some (.float (if negative then -0.0 else 0.0)), fun rest hrest => ?_⟩
      rw [hread rest hrest, if_pos (hc rest),
        dropWhile_isDigit_append hleft hrest.startsWithDigit_eq]
      split <;> rfl

end

/-! ### Whole numbers -/

namespace Numeral

variable (n : Numeral)

theorem startsWithDigit_scale {rest : List Char} (hrest : Ends rest) :
    startsWithDigit (n.scale ++ rest) = false := by
  unfold scale
  cases n.exponent with
  | none => exact hrest.startsWithDigit_eq
  | some x => rcases x.isMark with h | h <;> simp [Exponent.text, startsWithDigit, h, isDigit]

theorem startsWithDigit_tail {rest : List Char} (hrest : Ends rest) :
    startsWithDigit (n.tail ++ rest) = false := by
  unfold tail
  cases n.fraction with
  | none => exact n.startsWithDigit_scale hrest
  | some ds => rfl

theorem scale_ne_point {rest : List Char} (hrest : Ends rest) (more : List Char) :
    n.scale ++ rest ≠ '.' :: more := by
  unfold scale
  cases n.exponent with
  | none => exact hrest.ne_point more
  | some x =>
      intro heq
      have hmark : x.mark = '.' := List.head_eq_of_cons_eq heq
      rcases x.isMark with h | h <;> rw [h] at hmark <;> cases hmark

/-- Behind the digits of a number there is an exponent, or what ends the number. -/
theorem scale_cases :
    n.scale = [] ∨ ∃ x : Exponent, n.scale = x.text ∧ ∀ rest, startsWithExponent (x.text ++ rest) = true := by
  unfold scale
  cases n.exponent with
  | none => exact .inl rfl
  | some x =>
      refine .inr ⟨x, rfl, fun rest => ?_⟩
      rcases x.isMark with h | h <;> simp [Exponent.text, startsWithExponent, h]

/-! The number is passed over from its exponent backwards. -/

theorem skip_scale {rest : List Char} (hrest : Ends rest) :
    (if startsWithExponent (n.scale ++ rest) then skipExponent ((n.scale ++ rest).drop 1)
      else .ok (n.scale ++ rest)) = .ok rest := by
  rcases n.scale_cases with hscale | ⟨x, hscale, hmark⟩
  · rw [hscale, List.nil_append, if_neg (by simp [hrest.startsWithExponent_eq])]
  · rw [hscale, if_pos (hmark rest)]
    exact x.skip hrest

theorem skipTail_tail {rest : List Char} (hrest : Ends rest) : skipTail (n.tail ++ rest) = .ok rest := by
  unfold tail
  cases n.fraction with
  | none =>
      rw [skipTail.eq_2 _ fun more => n.scale_ne_point hrest more]
      exact n.skip_scale hrest
  | some ds =>
      have hdigit : startsWithDigit (ds.text ++ n.scale ++ rest) = true := ds.isDigit_first
      have hdrop : (ds.text ++ n.scale ++ rest).dropWhile isDigit = n.scale ++ rest := by
        rw [List.append_assoc]
        exact dropWhile_isDigit_append ds.isDigit_text (n.startsWithDigit_scale hrest)
      show skipTail ('.' :: (ds.text ++ n.scale ++ rest)) = _
      rw [skipTail.eq_1, if_pos hdigit, hdrop]
      exact n.skip_scale hrest

/-- A number is passed over. -/
theorem skipNumber_unsigned {rest : List Char} (hrest : Ends rest) :
    skipNumber (n.unsigned ++ rest) = .ok rest := by
  have hstop := n.startsWithDigit_tail hrest
  rw [unsigned, List.append_assoc, DigitRun.text_append, skipNumber, n.whole.isDigit_first,
    dropWhile_isDigit_append n.whole.isDigit_more hstop]
  simp only [Bool.not_true, Bool.false_eq_true, if_false, n.skipTail_tail hrest]
  split
  · next hzero =>
      rw [n.leading hzero, List.nil_append, if_neg (by simp [hstop])]
      exact n.skipTail_tail hrest
  · rfl

/-! And it is read from its exponent backwards. -/

theorem settled_scale (negative : Bool) (value : Nat) (exponent : Int) :
    Settled (fun text =>
      if startsWithExponent text then exponentFrom negative value exponent (text.drop 1)
      else floatResult negative value exponent text) n.scale := by
  rcases n.scale_cases with hscale | ⟨x, hscale, hmark⟩
  · refine (settled_floatResult negative value exponent).of_eq fun rest hrest => ?_
    rw [hscale, List.nil_append, if_neg (by simp [hrest.startsWithExponent_eq])]
  · refine (x.settled negative value exponent).of_eq fun rest _ => ?_
    rw [hscale, if_pos (hmark rest)]
    rfl

theorem settled_fraction (negative : Bool) (value : Nat) (exponent : Int) (ds : DigitRun) :
    Settled (fractionFrom negative value exponent) (ds.text ++ n.scale) := by
  obtain ⟨taken, times, left, hleft, htake⟩ := takeDigits_isDigit wordMax value 0 ds.isDigit_text
  have hscale := n.settled_scale negative taken (exponent - times)
  have hmore : ∀ rest, Ends rest → startsWithDigit (left ++ (n.scale ++ rest)) = !left.isEmpty := by
    intro rest hrest
    cases left with
    | nil => exact n.startsWithDigit_scale hrest
    | cons c left => exact hleft c List.mem_cons_self
  by_cases hnone : (times == 0 && left.isEmpty) = true
  · refine settled_of ⟨none, fun rest hrest => ?_⟩
    have hstop := n.startsWithDigit_scale hrest
    simp only [List.append_assoc, fractionFrom, htake _ hstop, hmore rest hrest, Bool.not_not, hnone,
      if_true]
    split <;> rfl
  · refine hscale.of_eq fun rest hrest => ?_
    have hstop := n.startsWithDigit_scale hrest
    simp only [List.append_assoc, fractionFrom, htake _ hstop, hmore rest hrest, Bool.not_not, hnone,
      dropWhile_isDigit_append hleft hstop]
    rfl

/-- A number is read to its end, or refused. -/
theorem settled_unsigned (negative : Bool) : Settled (numberFrom negative) n.unsigned := by
  obtain ⟨taken, times, left, hleft, htake⟩ :=
    takeDigits_isDigit wordMax (digitValue n.whole.first) 1 n.whole.isDigit_more
  have hread : ∀ rest, Ends rest →
      (∀ more, n.tail ++ rest = '.' :: more →
        numberFrom negative (n.unsigned ++ rest) = fractionFrom negative taken left.length more) ∧
      ((∀ more, n.tail ++ rest ≠ '.' :: more) → numberFrom negative (n.unsigned ++ rest) =
        if startsWithExponent (n.tail ++ rest) then
          exponentFrom negative taken left.length ((n.tail ++ rest).drop 1)
        else if left.length == 0 then .ok (integerResult negative taken, n.tail ++ rest)
        else floatResult negative taken left.length (n.tail ++ rest)) := by
    intro rest hrest
    have hstop := n.startsWithDigit_tail hrest
    have hzero : (decide (n.whole.first = '0') && startsWithDigit (n.whole.more ++ (n.tail ++ rest))) =
        false := by
      by_cases h : n.whole.first = '0'
      · rw [n.leading h, List.nil_append, hstop, Bool.and_false]
      · simp [h]
    rw [unsigned, List.append_assoc, DigitRun.text_append, numberFrom, n.whole.isDigit_first, hzero,
      htake _ hstop]
    simp only [Bool.not_true, Bool.false_eq_true, if_false, takeWhile_isDigit_append hleft hstop,
      dropWhile_isDigit_append hleft hstop]
    refine ⟨fun more hpoint => ?_, fun hother => ?_⟩
    · simp only [hpoint]
    · split
      · next heq => exact absurd heq (hother _)
      · rfl
  cases hfraction : n.fraction with
  | some ds =>
      refine (n.settled_fraction negative taken left.length ds).of_eq fun rest hrest => ?_
      have htail : n.tail ++ rest = '.' :: (ds.text ++ n.scale ++ rest) := by simp [tail, hfraction]
      exact (hread rest hrest).1 _ htail
  | none =>
      have htail : n.tail = n.scale := by simp [tail, hfraction]
      rw [htail] at hread
      replace hread := fun rest hrest => (hread rest hrest).2 (n.scale_ne_point hrest)
      rcases n.scale_cases with hscale | ⟨x, hscale, hmark⟩
      · by_cases hshort : left.length == 0
        · refine settled_of ⟨some (integerResult negative taken), fun rest hrest => ?_⟩
          rw [hread rest hrest, hscale, List.nil_append, if_neg (by simp [hrest.startsWithExponent_eq]),
            if_pos hshort]
          rfl
        · refine (settled_floatResult negative taken left.length).of_eq fun rest hrest => ?_
          rw [hread rest hrest, hscale, List.nil_append, if_neg (by simp [hrest.startsWithExponent_eq]),
            if_neg hshort]
      · refine (x.settled negative taken left.length).of_eq fun rest hrest => ?_
        rw [hread rest hrest, hscale, if_pos (hmark rest)]
        rfl

end Numeral

/-! ## Literals -/

/-- A value without parts as it is written. -/
inductive Literal where
  | null
  | bool (b : Bool)
  | number (n : Numeral)
  | string (glyphs : List Glyph)

namespace Literal

def text : Literal → List Char
  | null => ['n', 'u', 'l', 'l']
  | bool true => ['t', 'r', 'u', 'e']
  | bool false => ['f', 'a', 'l', 's', 'e']
  | number n => n.text
  | string glyphs => '"' :: closedText glyphs

/-- What a literal stands for, if it stands for a value. -/
def value? : Literal → Option Value
  | null => some .null
  | bool b => some (.bool b)
  | number n => (found? (numberFrom n.negative) n.unsigned).map .number
  | string glyphs => (stringOf? glyphs).map .string

/-- A number is a digit with what follows, behind a sign or not. -/
theorem numeral_cases (n : Numeral) (rest : List Char) :
    (n.negative = true ∧ n.text ++ rest = '-' :: (n.unsigned ++ rest)) ∨
      (n.negative = false ∧ ∃ c more, isDigit c = true ∧ n.unsigned ++ rest = c :: more ∧
        n.text ++ rest = c :: more) := by
  cases hsign : n.negative with
  | true => exact .inl ⟨rfl, by simp [Numeral.text, hsign]⟩
  | false =>
      refine .inr ⟨rfl, n.whole.first, n.whole.more ++ n.tail ++ rest, n.whole.isDigit_first, rfl, ?_⟩
      simp [Numeral.text, hsign, Numeral.unsigned, DigitRun.text]

/-- A literal begins with a character that is no blank and closes nothing. -/
theorem text_begins (l : Literal) :
    ∃ c more, l.text = c :: more ∧ BeginsValue c := by
  cases l with
  | null => exact ⟨'n', _, rfl, rfl, by decide⟩
  | bool b =>
      cases b with
      | true => exact ⟨'t', _, rfl, rfl, by decide⟩
      | false => exact ⟨'f', _, rfl, rfl, by decide⟩
  | number n =>
      have hcases := numeral_cases n []
      simp only [List.append_nil] at hcases
      rcases hcases with ⟨-, htext⟩ | ⟨-, c, more, hc, -, htext⟩
      · exact ⟨'-', _, htext, rfl, by decide⟩
      · exact ⟨c, more, htext, beginsValue_of_isDigit hc⟩
  | string glyphs => exact ⟨'"', _, rfl, rfl, by decide⟩

theorem skipPart_digit {c : Char} (rest : List Char) (h : isDigit c = true) :
    skipPart (c :: rest) = (do return (none, ← skipNumber (c :: rest))) := by
  have hne : ∀ d, isDigit d = false → c ≠ d := fun d hd => isDigit_ne h hd
  rw [skipPart, skipSpace_cons _ (beginsValue_of_isDigit h).1]
  simp only [h, hne 'n' rfl, hne 't' rfl, hne 'f' rfl, hne '-' rfl, if_true, if_false]

/-- A literal is passed over. -/
theorem skipPart_text (l : Literal) {rest : List Char} (hrest : Ends rest) :
    skipPart (l.text ++ rest) = .ok (none, rest) := by
  cases l with
  | null => rfl
  | bool b => cases b <;> rfl
  | number n =>
      have hskip := n.skipNumber_unsigned hrest
      rcases numeral_cases n rest with ⟨-, htext⟩ | ⟨-, c, more, hc, hunsigned, htext⟩
      · show skipPart (n.text ++ rest) = _
        rw [htext]
        show (skipNumber (n.unsigned ++ rest) >>= fun rest => .ok (none, rest)) = _
        rw [hskip]
        rfl
      · show skipPart (n.text ++ rest) = _
        rw [htext, skipPart_digit _ hc, ← hunsigned, hskip]
        rfl
  | string glyphs =>
      show (skipString (closedText glyphs ++ rest) >>= fun rest => .ok (none, rest)) = _
      rw [skipString_closedText]
      rfl

/-- A literal is read to its end, or refused, however many levels are left. -/
theorem valueFrom_text (l : Literal) (levels : Nat) {rest : List Char} (hrest : Ends rest) :
    (valueFrom levels (l.text ++ rest)).toOption = l.value?.map (fun v => (v, rest)) := by
  cases l with
  | null =>
      rw [valueFrom.eq_def]
      rfl
  | bool b =>
      rw [valueFrom.eq_def]
      cases b <;> rfl
  | number n =>
      have hread := n.settled_unsigned n.negative rest hrest
      have hvalue : (valueFrom levels (n.text ++ rest)).toOption =
          ((numberFrom n.negative (n.unsigned ++ rest)).toOption).map
            (fun p => (.number p.1, p.2)) := by
        rcases numeral_cases n rest with ⟨hsign, htext⟩ | ⟨hsign, c, more, hc, hunsigned, htext⟩
        · rw [htext, valueFrom_minus, hsign, toOption_bind]
          cases (numberFrom true (n.unsigned ++ rest)).toOption <;> rfl
        · rw [htext, valueFrom_digit _ _ hc, hsign, hunsigned, toOption_bind]
          cases (numberFrom false (c :: more)).toOption <;> rfl
      show (valueFrom levels (n.text ++ rest)).toOption = _
      rw [hvalue, hread, value?, Option.map_map, Option.map_map]
      rfl
  | string glyphs =>
      show (valueFrom levels ('"' :: (closedText glyphs ++ rest))).toOption = _
      rw [valueFrom_quote, toOption_bind, string_closedText, value?]
      cases stringOf? glyphs <;> rfl

end Literal

end NetGauge.Json
