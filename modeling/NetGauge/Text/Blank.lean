set_option autoImplicit false

/-! # Blank characters and the edges of a text

The characters with the Unicode property `White_Space`, and the operations that hang on them:
cutting the blank edges off a text and splitting a text into lines. Case is folded for ASCII
letters only, which is all that the program's own keywords need. -/

namespace NetGauge.Text

/-- Whether a character has the Unicode property `White_Space`. -/
def isBlank (c : Char) : Bool :=
  let n := c.toNat
  (0x09 ≤ n && n ≤ 0x0D) || n == 0x20 || n == 0x85 || n == 0xA0 || n == 0x1680 ||
    (0x2000 ≤ n && n ≤ 0x200A) || n == 0x2028 || n == 0x2029 || n == 0x202F || n == 0x205F ||
    n == 0x3000

/-- The characters without the trailing ones that satisfy `p`. -/
def dropTrailing (p : Char → Bool) (cs : List Char) : List Char :=
  (cs.reverse.dropWhile p).reverse

/-- A text without its trailing blanks. -/
def trimEnd (s : String) : String :=
  String.ofList (dropTrailing isBlank s.toList)

/-- A text without its leading and trailing blanks. -/
def trim (s : String) : String :=
  String.ofList (dropTrailing isBlank (s.toList.dropWhile isBlank))

/-- A text with its ASCII capitals made small. -/
def foldCase (s : String) : String :=
  String.ofList (s.toList.map Char.toLower)

/-- The pieces of a text between newlines, blanks at their ends cut off and empty ones left out. -/
def lines (s : String) : List String :=
  ((s.toList.splitOn '\n').map (fun cs => String.ofList (dropTrailing isBlank cs))).filter
    (fun line => !line.isEmpty)

/-! ## Edges -/

theorem dropTrailing_nil (p : Char → Bool) : dropTrailing p [] = [] := rfl

/-- What is left does not end in a dropped character. -/
theorem getLast_dropTrailing (p : Char → Bool) (cs : List Char) (h : dropTrailing p cs ≠ []) :
    p ((dropTrailing p cs).getLast h) = false := by
  unfold dropTrailing at h ⊢
  rw [List.getLast_reverse]
  exact List.head_dropWhile_not _ _

/-- What is left is where the text began. -/
theorem dropTrailing_append_cut (p : Char → Bool) (cs : List Char) :
    ∃ cut, cs = dropTrailing p cs ++ cut := by
  refine ⟨(cs.reverse.takeWhile p).reverse, ?_⟩
  unfold dropTrailing
  rw [← List.reverse_append, List.takeWhile_append_dropWhile, List.reverse_reverse]

theorem dropWhile_eq_self {p : Char → Bool} {cs : List Char} (h : ∀ c ∈ cs.head?, p c = false) :
    cs.dropWhile p = cs := by
  cases cs with
  | nil => rfl
  | cons c cs => rw [List.dropWhile_cons_of_neg (by simp [h c rfl])]

theorem dropTrailing_of_getLast {p : Char → Bool} {cs : List Char}
    (h : ∀ hne : cs ≠ [], p (cs.getLast hne) = false) : dropTrailing p cs = cs := by
  rcases List.eq_nil_or_concat cs with rfl | ⟨front, c, rfl⟩
  · rfl
  · have hc : p c = false := by simpa using h (by simp)
    simp [dropTrailing, hc]

/-- A text that neither begins nor ends with a blank is trimmed as it stands. -/
theorem trim_eq_self {s : String} {first last : Char} (hhead : s.toList.head? = some first)
    (hlast : s.toList.getLast? = some last) (hfirst : isBlank first = false) (hend : isBlank last = false) :
    trim s = s := by
  have hfront : s.toList.dropWhile isBlank = s.toList := dropWhile_eq_self (by simpa [hhead] using hfirst)
  have hback : dropTrailing isBlank s.toList = s.toList := by
    refine dropTrailing_of_getLast fun hne => ?_
    rw [List.getLast?_eq_some_getLast hne, Option.some.injEq] at hlast
    rwa [hlast]
  rw [trim, hfront, hback, String.ofList_toList]

/-- A text that is trimmed has no edges left to cut off. -/
theorem trim_trim (s : String) : trim (trim s) = trim s := by
  unfold trim
  rw [String.toList_ofList]
  obtain ⟨cut, hcut⟩ := dropTrailing_append_cut isBlank (s.toList.dropWhile isBlank)
  have hlast := getLast_dropTrailing isBlank (s.toList.dropWhile isBlank)
  generalize dropTrailing isBlank (s.toList.dropWhile isBlank) = kept at hcut hlast ⊢
  -- The first character that is kept is the first one that is not blank.
  have hfirst : kept.dropWhile isBlank = kept := by
    cases kept with
    | nil => rfl
    | cons c rest =>
        have hne : s.toList.dropWhile isBlank ≠ [] := by rw [hcut]; simp
        have hc := List.head_dropWhile_not isBlank hne
        simp only [hcut, List.cons_append, List.head_cons] at hc
        rw [List.dropWhile_cons_of_neg (by simp [hc])]
  rw [hfirst, dropTrailing_of_getLast hlast]

/-- Core's idea of a blank is part of this one. -/
theorem isBlank_of_isWhitespace (c : Char) (h : c.isWhitespace = true) : isBlank c = true := by
  simp only [Char.isWhitespace, Bool.or_eq_true, decide_eq_true_eq] at h
  rcases h with ((h | h) | h) | h <;> subst h <;> decide

end NetGauge.Text
