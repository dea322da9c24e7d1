import NetGauge.Storage

set_option autoImplicit false

/-! # A storage can be relied on

A file is put into a tree where a directory has room for it (`Entry.HasRoom`). What is found elsewhere stays, but for
the directories on the way to it, which hold one more entry (`Entry.content?_at?_put`). So paths lead where they led,
and a storage is a lawful file system. -/

namespace NetGauge

namespace Entry

variable {name other : String} {entries inner : List (String × Entry)} {place found : List String}

/-! ## Directories -/

theorem lookup_replace (name : String) (entry : Entry) (entries : List (String × Entry)) :
    (replace name entry entries).lookup name = some entry := by
  induction entries with
  | nil => simp [replace]
  | cons e rest ih =>
      obtain ⟨held, inside⟩ := e
      simp only [replace, List.filter_cons] at ih ⊢
      by_cases hheld : held = name
      · simpa [hheld] using ih
      · have hne : (name == held) = false := beq_false_of_ne (Ne.symm hheld)
        simpa [hheld, List.lookup_cons, hne] using ih

theorem lookup_replace_of_ne (hne : other ≠ name) (entry : Entry) (entries : List (String × Entry)) :
    (replace name entry entries).lookup other = entries.lookup other := by
  induction entries with
  | nil => simp [replace, List.lookup_cons, beq_false_of_ne hne]
  | cons e rest ih =>
      obtain ⟨held, inside⟩ := e
      simp only [replace, List.filter_cons, List.lookup_cons] at ih ⊢
      by_cases hheld : held = name
      · subst hheld
        simpa [beq_false_of_ne hne] using ih
      · by_cases hother : other = held
        · simp [hheld, hother]
        · simpa [hheld, List.lookup_cons, beq_false_of_ne hother] using ih

theorem at?_cons (entries : List (String × Entry)) (name : String) (rest : List String) :
    at? entries (name :: rest) = match entries.lookup name with
      | some (directory inner) => at? inner rest
      | some (file content) => if rest.isEmpty then some (file content) else none
      | none => none := rfl

/-! ## Putting in a file -/

/-- There is room for a file at a place: the directories on the way are there, and none is at the place. -/
inductive HasRoom : List (String × Entry) → List String → Prop where
  | here {entries : List (String × Entry)} {name : String} (h : ∀ inner, entries.lookup name ≠ some (directory inner)) :
      HasRoom entries [name]
  | inside {entries inner : List (String × Entry)} {name : String} {place : List String}
      (h : entries.lookup name = some (directory inner)) (hinside : HasRoom inner place) :
      HasRoom entries (name :: place)

theorem HasRoom.ne_nil (h : HasRoom entries place) : place ≠ [] := by
  cases h <;> simp

theorem put_inside (content : String) (h : entries.lookup name = some (directory inner)) (hne : place ≠ []) :
    put content entries (name :: place) = replace name (directory (put content inner place)) entries := by
  obtain ⟨next, rest, rfl⟩ := List.exists_cons_of_ne_nil hne
  rw [put]
  · simp only [h]
  · simp

/-- A directory in which there is none of a name has room for a file. -/
theorem hasRoom_concat (hdirectory : at? entries place = some (directory inner))
    (hnone : ∀ inside, at? entries (place ++ [name]) ≠ some (directory inside)) :
    HasRoom entries (place ++ [name]) := by
  induction place generalizing entries with
  | nil =>
      refine .here fun inside hinside => hnone inside ?_
      rw [List.nil_append, at?_cons, hinside]
      rfl
  | cons first rest ih =>
      rw [at?_cons] at hdirectory
      rw [List.cons_append, at?_cons] at hnone
      cases hfirst : entries.lookup first with
      | none => simp [hfirst] at hdirectory
      | some e =>
          cases e with
          | file text =>
              rw [hfirst] at hdirectory
              by_cases hrest : rest.isEmpty <;> simp [hrest] at hdirectory
          | directory inside =>
              rw [hfirst] at hdirectory hnone
              exact .inside hfirst (ih hdirectory hnone)

/-- Where there is room for a file there is no directory. -/
theorem HasRoom.at?_ne (h : HasRoom entries place) : at? entries place ≠ some (directory inner) := by
  induction h with
  | @here entries name hnone =>
      rw [at?_cons]
      cases hheld : entries.lookup name with
      | none => simp
      | some e =>
          cases e with
          | file text => simp
          | directory inside => exact absurd hheld (hnone inside)
  | @inside entries inside name place hheld _ ih =>
      rw [at?_cons, hheld]
      exact ih

/-- At its place the file is found. -/
theorem at?_put_self (content : String) (h : HasRoom entries place) :
    at? (put content entries place) place = some (file content) := by
  induction h with
  | @here entries name _ =>
      rw [put, at?_cons, lookup_replace]
      rfl
  | @inside entries inner name place h hinside ih =>
      rw [put_inside content h hinside.ne_nil, at?_cons, lookup_replace]
      exact ih

/-- **Elsewhere is found what was found before**, or a directory again. -/
theorem content?_at?_put (content : String) (h : HasRoom entries place) (hne : found ≠ place) :
    (at? (put content entries place) found).map content? = (at? entries found).map content? := by
  induction h generalizing found with
  | @here entries name hnone =>
      rw [put]
      cases found with
      | nil => rfl
      | cons first rest =>
          rw [at?_cons, at?_cons]
          by_cases hfirst : first = name
          · subst hfirst
            have hrest : rest ≠ [] := fun hnil => hne (by rw [hnil])
            have hempty : rest.isEmpty = false := by simpa using hrest
            rw [lookup_replace]
            simp only [hempty, Bool.false_eq_true, if_false]
            cases hheld : entries.lookup first with
            | none => rfl
            | some e =>
                cases e with
                | file text => rfl
                | directory inside => exact absurd hheld (hnone inside)
          · rw [lookup_replace_of_ne hfirst]
  | @inside entries inner name place hheld hinside ih =>
      rw [put_inside content hheld hinside.ne_nil]
      cases found with
      | nil => rfl
      | cons first rest =>
          rw [at?_cons, at?_cons]
          by_cases hfirst : first = name
          · subst hfirst
            rw [lookup_replace, hheld]
            exact ih fun heq => hne (by rw [heq])
          · rw [lookup_replace_of_ne hfirst]

end Entry

namespace Storage

variable {s t : Storage} {path text : String} {place found : List String}

/-- What a file holds. -/
def content? (s : Storage) (place : List String) : Option String := (s.at? place).bind Entry.content?

/-- The place of the file that a path leads to, if it leads to one. -/
def find? (s : Storage) (path : String) : Option (List String) := (s.place path).toOption

/-! ## Where paths lead -/

theorem isDirectory_iff : s.isDirectory place = true ↔ ∃ entries, s.at? place = some (.directory entries) := by
  unfold isDirectory
  cases s.at? place with
  | none => simp
  | some e => cases e <;> simp [Entry.content?]

theorem isDirectory_eq_false : s.isDirectory place = false ↔ ∀ entries, s.at? place ≠ some (.directory entries) := by
  rw [← Bool.not_eq_true, isDirectory_iff, not_exists]

theorem toOption_bind {α β : Type} (x : Except StorageError α) (f : α → Except StorageError β) :
    (x >>= f).toOption = x.toOption.bind fun a => (f a).toOption := by
  cases x <;> rfl

/-- A step depends on nothing but the directories that there are. -/
theorem toOption_step (s : Storage) (place : List String) (name : String) :
    (s.step place name).toOption =
      if name = "" ∨ name = "." then some place
      else if name = ".." then some place.dropLast
      else if maxName < name.utf8ByteSize then none
      else if s.isDirectory (place ++ [name]) then some (place ++ [name]) else none := by
  unfold step look isDirectory
  by_cases hstay : name = "" ∨ name = "."
  · rw [if_pos hstay, if_pos hstay]
    rfl
  rw [if_neg hstay, if_neg hstay]
  by_cases hback : name = ".."
  · rw [if_pos hback, if_pos hback]
    rfl
  rw [if_neg hback, if_neg hback]
  by_cases hlong : maxName < name.utf8ByteSize
  · rw [if_pos hlong, if_pos hlong]
    rfl
  rw [if_neg hlong, if_neg hlong]
  cases s.at? (place ++ [name]) with
  | none => rfl
  | some e => cases e <;> rfl

/-- So does the last step, when it leads to a file. -/
theorem toOption_last (s : Storage) (slash : Bool) (place : List String) (name : String) :
    (s.last slash place name).toOption =
      if slash then none
      else if maxName < name.utf8ByteSize then none
      else if s.isDirectory (place ++ [name]) then none
      else if s.isDirectory place then some (place ++ [name]) else none := by
  have hlast : s.isDirectory (place ++ [name]) = (s.at? (place ++ [name])).any (fun e => e.content?.isNone) := rfl
  unfold last look
  cases slash with
  | true => rfl
  | false =>
      by_cases hlong : maxName < name.utf8ByteSize
      · rw [if_pos hlong, if_pos hlong]
        rfl
      rw [if_neg hlong, if_neg hlong, hlast]
      cases s.at? (place ++ [name]) with
      | none => by_cases hdirectory : s.isDirectory place = true <;> simp [hdirectory] <;> rfl
      | some e =>
          cases e with
          | file text => by_cases hdirectory : s.isDirectory place = true <;> simp [hdirectory, Entry.content?] <;> rfl
          | directory inner => rfl

/-- Two storages have the same directories. -/
structure Agree (s t : Storage) : Prop where
  start : s.start = t.start
  directories (place : List String) : s.isDirectory place = t.isDirectory place

theorem Agree.foldlM (h : s.Agree t) (names : List String) (place : List String) :
    (names.foldlM s.step place).toOption = (names.foldlM t.step place).toOption := by
  induction names generalizing place with
  | nil => rfl
  | cons name names ih =>
      have hstep : (s.step place name).toOption = (t.step place name).toOption := by
        rw [toOption_step, toOption_step, h.directories]
      rw [List.foldlM_cons, List.foldlM_cons, toOption_bind, toOption_bind, hstep]
      exact congrArg _ (funext ih)

theorem Agree.follow (h : s.Agree t) (path : String) : (s.follow path).toOption = (t.follow path).toOption := by
  unfold Storage.follow
  rw [h.start]
  split
  · rfl
  split
  · rfl
  split
  · rfl
  split
  · rfl
  · rw [toOption_bind, toOption_bind, h.foldlM]

/-- **Where there are the same directories paths lead to the same places.** -/
theorem Agree.find? (h : s.Agree t) (path : String) : s.find? path = t.find? path := by
  unfold Storage.find? Storage.place
  rw [toOption_bind, toOption_bind, h.follow]
  congr 1
  funext ⟨directory, name⟩
  exact (s.toOption_last _ directory name).trans (by rw [toOption_last, h.directories, h.directories])

/-! ## Writing -/

/-- A path that leads to a file leads to where there is room for it. -/
theorem hasRoom_of_place (h : s.place path = .ok place) : Entry.HasRoom s.root place := by
  have hfind : s.find? path = some place := by rw [find?, h]; rfl
  rw [find?, Storage.place, toOption_bind, Option.bind_eq_some_iff] at hfind
  obtain ⟨⟨directory, name⟩, -, hlast⟩ := hfind
  rw [toOption_last] at hlast
  split at hlast
  · cases hlast
  split at hlast
  · cases hlast
  split at hlast
  · cases hlast
  next hnone =>
  split at hlast
  · next hdirectory =>
      injection hlast with hplace
      subst hplace
      obtain ⟨entries, hentries⟩ := isDirectory_iff.1 hdirectory
      exact Entry.hasRoom_concat hentries (isDirectory_eq_false.1 (by simpa using hnone))
  · cases hlast

theorem write_of_place (h : s.place path = .ok place) (text : String) :
    s.write path text = (.ok (), { s with root := Entry.put text s.root place }) := by
  simp only [Storage.write, h]

theorem write_of_error {e : StorageError} (h : s.place path = .error e) (text : String) :
    s.write path text = (.error e, s) := by
  simp only [Storage.write, h]

theorem content?_eq (s : Storage) (place : List String) :
    s.content? place = ((s.at? place).map Entry.content?).join := by
  unfold content?
  cases s.at? place <;> rfl

theorem isDirectory_eq (s : Storage) (place : List String) :
    s.isDirectory place = ((s.at? place).map Entry.content?).any Option.isNone := by
  unfold isDirectory
  cases s.at? place <;> rfl

/-- A file that is put in becomes no directory, and no directory becomes one. -/
theorem agree_put (h : Entry.HasRoom s.root place) (text : String) :
    ({ s with root := Entry.put text s.root place } : Storage).Agree s := by
  refine ⟨rfl, fun found => ?_⟩
  by_cases hsame : found = place
  · subst hsame
    have hbefore : s.isDirectory found = false := isDirectory_eq_false.2 fun _ => h.at?_ne
    rw [hbefore, isDirectory_eq, Storage.at?, Entry.at?_put_self text h]
    rfl
  · have helsewhere := Entry.content?_at?_put text h hsame
    rw [isDirectory_eq, isDirectory_eq, Storage.at?, Storage.at?, helsewhere]

/-- **A storage is a lawful file system.** -/
instance : LawfulFileSystem Storage where
  File := List String
  find? := find?
  content? := content?
  find?_write disk path text other := by
    cases hplace : disk.place path with
    | error e => exact congrArg (fun r => (Prod.snd r).find? other) (write_of_error hplace text)
    | ok place =>
        have hwrite := write_of_place hplace text
        exact (congrArg (fun r => (Prod.snd r).find? other) hwrite).trans
          ((agree_put (hasRoom_of_place hplace) text).find? other)
  content?_write := by
    intro disk after path text h
    cases hplace : disk.place path with
    | error e =>
        have hwrite := h.symm.trans (write_of_error hplace text)
        cases hwrite
    | ok place =>
        have hwrite := h.symm.trans (write_of_place hplace text)
        cases hwrite
        refine ⟨place, by rw [find?, hplace]; rfl, ?_⟩
        rw [content?, Storage.at?, Entry.at?_put_self text (hasRoom_of_place hplace)]
        rfl
  content?_write_of_ne := by
    intro disk path file text h
    cases hplace : disk.place path with
    | error e => exact congrArg (fun r => (Prod.snd r).content? file) (write_of_error hplace text)
    | ok place =>
        have hne : file ≠ place := by
          rintro rfl
          exact h (by rw [find?, hplace]; rfl)
        have helsewhere := Entry.content?_at?_put text (hasRoom_of_place hplace) hne
        refine (congrArg (fun r => (Prod.snd r).content? file) (write_of_place hplace text)).trans ?_
        rw [content?_eq, content?_eq, Storage.at?, Storage.at?, helsewhere]

/-- A storage takes every file that a path leads to. -/
theorem write_of_find? (h : s.find? path = some place) (text : String) : (s.write path text).1 = .ok () := by
  cases hplace : s.place path with
  | error e =>
      rw [find?, hplace] at h
      cases h
  | ok place => rw [write_of_place hplace]

/-- What a path leads to can be read under it. -/
theorem read_of_holds (h : LawfulFileSystem.Holds s path text) : s.read path = .ok text := by
  obtain ⟨held, hfind, hcontent⟩ := h
  have hfind : ((s.follow path).toOption.bind fun reached =>
      (s.last (path.endsWith "/") reached.1 reached.2).toOption) = some held :=
    (toOption_bind _ _).symm.trans hfind
  cases hfollow : s.follow path with
  | error e =>
      rw [hfollow] at hfind
      cases hfind
  | ok reached =>
      obtain ⟨directory, name⟩ := reached
      rw [hfollow, Except.toOption, Option.bind_some, toOption_last] at hfind
      split at hfind
      · cases hfind
      next hslash =>
      split at hfind
      · cases hfind
      next hlong =>
      split at hfind
      · cases hfind
      split at hfind
      · injection hfind with hheld
        subst hheld
        obtain ⟨e, he, hfile⟩ := Option.bind_eq_some_iff.1 hcontent
        have hlook : s.look directory name = .ok (some e) := by rw [look, if_neg hlong, he]
        cases e with
        | file content =>
            cases hfile
            simp only [Storage.read, hfollow, hlook, bind, Except.bind, if_neg hslash]
            rfl
        | directory inner => cases hfile
      · cases hfind

/-- What has been written is read next under the same path. -/
theorem read_write (h : s.write path text = (.ok (), t)) : t.read path = .ok text := by
  have h : FileSystem.write s path text = (.ok (), t) := h
  obtain ⟨place, hfind, hheld⟩ := LawfulFileSystem.content?_write h
  have hkept := LawfulFileSystem.find?_write s path text path
  refine read_of_holds ⟨place, ?_, hheld⟩
  rw [h] at hkept
  exact hkept.trans hfind

end Storage

end NetGauge
