import NetGauge.Proofs.Headless.Outcome
import NetGauge.Proofs.Storage

set_option autoImplicit false

/-! # The exports of a run

A run writes its exports however it ended. What they hold is taken from the console at the end of the
run, so the outcome of the run and the fate of its exports are independent: the run is a success if both
are (`runThrough_exports`). This holds on every file system that can be relied on. Two paths may lead to
one file there, which cannot hold two exports; the targets of a run have to be told apart as files
(`ExportTargets.Distinct`), not by their spelling. -/

namespace NetGauge

open FileSystem (write)
open LawfulFileSystem (File find? content? Holds)

/-! ## Files written one after the other -/

namespace ExportFile

section

variable {δ : Type} [FileSystem δ] {files : List ExportFile}

/-- Every file can be written when its turn comes. -/
def Writable : List ExportFile → δ → Prop
  | [], _ => True
  | file :: rest, disk =>
    (write disk file.path file.content).1 = .ok () ∧ Writable rest (write disk file.path file.content).2

theorem writeAll_cons_of_ok {file : ExportFile} {disk : δ}
    (h : (write disk file.path file.content).1 = .ok ()) (rest : List ExportFile) :
    writeAll (file :: rest) disk =
      (((writeAll rest (write disk file.path file.content).2).1.map (file.path :: ·)),
        (writeAll rest (write disk file.path file.content).2).2) := by
  rcases hwrite : write disk file.path file.content with ⟨answer, after⟩
  rw [hwrite] at h
  subst h
  simp only [writeAll, hwrite]

theorem writeAll_cons_of_error {file : ExportFile} {disk : δ} {e : StorageError}
    (h : (write disk file.path file.content).1 = .error e) (rest : List ExportFile) :
    writeAll (file :: rest) disk =
      (.error ⟨file.format, file.path, e⟩, (write disk file.path file.content).2) := by
  rcases hwrite : write disk file.path file.content with ⟨answer, after⟩
  rw [hwrite] at h
  subst h
  simp only [writeAll, hwrite]

theorem writeAll_of_writable {disk : δ} (h : Writable files disk) :
    (writeAll files disk).1 = .ok (files.map ExportFile.path) := by
  induction files generalizing disk with
  | nil => rfl
  | cons file rest ih =>
      rw [writeAll_cons_of_ok h.1, ih h.2]
      rfl

theorem writeAll_of_not_writable {disk : δ} (h : ¬Writable files disk) : ∃ e, (writeAll files disk).1 = .error e := by
  induction files generalizing disk with
  | nil => exact absurd trivial h
  | cons file rest ih =>
      cases hfirst : (write disk file.path file.content).1 with
      | error e => exact ⟨_, by rw [writeAll_cons_of_error hfirst]⟩
      | ok _ =>
          obtain ⟨e, he⟩ := ih fun hrest => h ⟨hfirst, hrest⟩
          refine ⟨e, ?_⟩
          rw [writeAll_cons_of_ok hfirst, he]
          rfl

end

variable {δ : Type} [FileSystem δ] [LawfulFileSystem δ] {files : List ExportFile} {disk : δ}

theorem find?_writeAll (files : List ExportFile) (disk : δ) (path : String) :
    find? (writeAll files disk).2 path = find? disk path := by
  induction files generalizing disk with
  | nil => rfl
  | cons file rest ih =>
      have hfirst := LawfulFileSystem.find?_write disk file.path file.content path
      cases hanswer : (write disk file.path file.content).1 with
      | error e => rw [writeAll_cons_of_error hanswer, hfirst]
      | ok _ => rw [writeAll_cons_of_ok hanswer, ih, hfirst]

/-- A file that no path leads to is left alone, also when not all could be written. -/
theorem content?_writeAll_of_ne {other : File δ} (hne : ∀ file ∈ files, find? disk file.path ≠ some other) :
    content? (writeAll files disk).2 other = content? disk other := by
  induction files generalizing disk with
  | nil => rfl
  | cons file rest ih =>
      have hfirst := LawfulFileSystem.content?_write_of_ne file.content (hne file List.mem_cons_self)
      cases hanswer : (write disk file.path file.content).1 with
      | error e => rw [writeAll_cons_of_error hanswer, hfirst]
      | ok _ =>
          rw [writeAll_cons_of_ok hanswer, ih, hfirst]
          intro later hlater
          rw [LawfulFileSystem.find?_write]
          exact hne later (List.mem_cons_of_mem file hlater)

/-- Of files whose paths lead to different ones each holds what was written to it. -/
theorem holds_writeAll (h : Writable files disk)
    (happart : files.Pairwise (fun f g => ∀ file, find? disk f.path = some file → find? disk g.path ≠ some file))
    {f : ExportFile} (hf : f ∈ files) : Holds (writeAll files disk).2 f.path f.content := by
  induction files generalizing disk with
  | nil => cases hf
  | cons first rest ih =>
      obtain ⟨hfirst, hrest⟩ := List.pairwise_cons.1 happart
      rw [writeAll_cons_of_ok h.1]
      rcases List.mem_cons.1 hf with rfl | hmem
      · obtain ⟨file, hfile, hheld⟩ := LawfulFileSystem.content?_write (Prod.ext h.1 rfl)
        refine ⟨file, ?_, ?_⟩
        · rw [find?_writeAll, LawfulFileSystem.find?_write, hfile]
        · rw [content?_writeAll_of_ne, hheld]
          intro later hlater
          rw [LawfulFileSystem.find?_write]
          exact hfirst later hlater file hfile
      · refine ih h.2 ?_ hmem
        simpa only [LawfulFileSystem.find?_write] using hrest

end ExportFile

/-! ## The exports of a state -/

/-- The paths of the targets lead to different files. -/
def ExportTargets.Distinct {δ : Type} [FileSystem δ] [LawfulFileSystem δ] (targets : ExportTargets) (disk : δ) : Prop :=
  ∀ json csv, targets.json = some json → targets.csv = some csv →
    ∀ file, find? disk json = some file → find? disk csv ≠ some file

namespace ClientState

/-- Every export that is wanted of a state is written: the document, and behind it the table if there are
    points to put in it. -/
structure Exportable {δ : Type} [FileSystem δ] (s : ClientState) (now : Moment) (targets : ExportTargets)
    (disk : δ) : Prop where
  document : ∀ path, targets.json = some path → (write disk path (s.export now)).1 = .ok ()
  table : ∀ path, targets.csv = some path → s.sweep.results ≠ [] →
    (write (targets.json.elim disk fun json => (write disk json (s.export now)).2) path
      (SweepPoint.csv s.sweep.results)).1 = .ok ()

variable {s : ClientState} {now : Moment} {targets : ExportTargets}

theorem mem_exportFiles {f : ExportFile} :
    f ∈ s.exportFiles now targets ↔
      (∃ path, targets.json = some path ∧ f = ⟨.json, path, s.export now⟩) ∨
      (s.sweep.results ≠ [] ∧
        ∃ path, targets.csv = some path ∧ f = ⟨.csv, path, SweepPoint.csv s.sweep.results⟩) := by
  unfold exportFiles
  by_cases hnone : s.sweep.results = []
  · simp [hnone, @eq_comm _ f]
  · simp [hnone, @eq_comm _ f]

/-- The files that are written for a state are the exports that are wanted of it. -/
theorem exportable_iff {δ : Type} [FileSystem δ] {disk : δ} :
    s.Exportable now targets disk ↔ ExportFile.Writable (s.exportFiles now targets) disk := by
  obtain ⟨json, csv⟩ := targets
  have hparts : s.Exportable now ⟨json, csv⟩ disk ↔
      (∀ path, json = some path → (write disk path (s.export now)).1 = .ok ()) ∧
      (∀ path, csv = some path → s.sweep.results ≠ [] →
        (write (json.elim disk fun path => (write disk path (s.export now)).2) path
          (SweepPoint.csv s.sweep.results)).1 = .ok ()) :=
    ⟨fun h => ⟨h.document, h.table⟩, fun h => ⟨h.1, h.2⟩⟩
  rw [hparts, exportFiles]
  cases json <;> cases csv <;> by_cases hnone : s.sweep.results = [] <;> simp [hnone, ExportFile.Writable]

variable {δ : Type} [FileSystem δ] [LawfulFileSystem δ] {disk : δ}

/-- Exports go to different files if their targets are distinct. -/
theorem pairwise_exportFiles (hdistinct : targets.Distinct disk) :
    (s.exportFiles now targets).Pairwise
      (fun f g => ∀ file, find? disk f.path = some file → find? disk g.path ≠ some file) := by
  unfold exportFiles
  cases hjson : targets.json with
  | none => cases targets.csv <;> by_cases hnone : s.sweep.results = [] <;> simp [hnone]
  | some json =>
      cases hcsv : targets.csv with
      | none => simp
      | some csv =>
          have hne := hdistinct json csv hjson hcsv
          by_cases hnone : s.sweep.results = []
          · simp [hnone]
          · simpa [hnone] using hne

/-- An export that was written is held by the file that its path leads to. -/
theorem holds_writeExports (hdistinct : targets.Distinct disk) (h : s.Exportable now targets disk)
    {f : ExportFile} (hf : f ∈ s.exportFiles now targets) :
    Holds (s.writeExports now targets disk).2 f.path f.content :=
  ExportFile.holds_writeAll (exportable_iff.1 h) (pairwise_exportFiles hdistinct) hf

/-- A file that is no target, or only the target of a table without points, is left alone. -/
theorem content?_writeExports {file : File δ}
    (hjson : ∀ path, targets.json = some path → find? disk path ≠ some file)
    (hcsv : ∀ path, targets.csv = some path → s.sweep.results ≠ [] → find? disk path ≠ some file) :
    content? (s.writeExports now targets disk).2 file = content? disk file := by
  refine ExportFile.content?_writeAll_of_ne ?_
  intro f hf
  rcases mem_exportFiles.1 hf with ⟨path, hpath, rfl⟩ | ⟨hpoints, path, hpath, rfl⟩
  · exact hjson path hpath
  · exact hcsv path hpath hpoints

end ClientState

namespace Headless

variable {σ : Type} [CommandSink σ]

section

variable {δ : Type} [FileSystem δ] {s : ClientState} {now : Moment} {targets : ExportTargets} {disk : δ}

theorem conclude_of_exportable (h : s.Exportable now targets disk) (outcome : Except RunError Unit) :
    (conclude s outcome now targets disk).1 = outcome := by
  have hwritten := ExportFile.writeAll_of_writable (ClientState.exportable_iff.1 h)
  unfold conclude ClientState.writeExports
  split
  · next hwrite => rw [hwrite] at hwritten; cases hwritten
  · rfl

theorem conclude_of_not_exportable (h : ¬s.Exportable now targets disk) (outcome : Except RunError Unit) :
    ∃ e, (conclude s outcome now targets disk).1 = .error (.exporting e) := by
  obtain ⟨e, he⟩ := ExportFile.writeAll_of_not_writable (mt ClientState.exportable_iff.2 h)
  unfold conclude ClientState.writeExports
  split
  · exact ⟨_, rfl⟩
  · next hwrite => rw [hwrite] at he; cases he

/-- How a run ended makes no difference to its files. -/
theorem conclude_snd (s : ClientState) (outcome : Except RunError Unit) (now : Moment) (targets : ExportTargets)
    (disk : δ) : (conclude s outcome now targets disk).2 = (s.writeExports now targets disk).2 := by
  unfold conclude
  split
  · next hwrite => rw [hwrite]
  · next hwrite => rw [hwrite]

end

/-- **The exports of a run are written on every outcome.** On every file system that can be relied on: a run
    is a success exactly if it ended well and every export that is wanted of the final state is written; if
    they are, how it ended is its outcome, and if not, it fails with the export that was not. When they are
    written to different files, however the run ended, the document holds the final state and the table its
    points, or is left alone if there are none. No other file is written, not even when an export fails. -/
theorem runThrough_exports {δ : Type} [FileSystem δ] [LawfulFileSystem δ] (config : ClientConfig) (sink : σ)
    (turns : List (Turn σ)) (now : Moment) (targets : ExportTargets) (disk : δ) :
    let driven := driveThrough ⟨.new config sink, false⟩ turns
    let result := runThrough config sink turns now targets disk
    let s := result.2.1.state
    let after := result.2.2
    result.2.1 = driven.2.console ∧
    (result.1 = .ok () ↔ driven.1 = .ok () ∧ s.Exportable now targets disk) ∧
    (s.Exportable now targets disk →
      result.1 = driven.1 ∧
      (targets.Distinct disk →
        (∀ path, targets.json = some path → Holds after path (s.export now)) ∧
        (∀ path, targets.csv = some path →
          if s.sweep.results = [] then
            ∀ file, find? disk path = some file → content? after file = content? disk file
          else Holds after path (SweepPoint.csv s.sweep.results)))) ∧
    (¬s.Exportable now targets disk → ∃ e, result.1 = .error (.exporting e)) ∧
    (∀ file, (∀ path, targets.json = some path → find? disk path ≠ some file) →
      (∀ path, targets.csv = some path → s.sweep.results ≠ [] → find? disk path ≠ some file) →
      content? after file = content? disk file) := by
  intro driven result s after
  have hafter : after = (s.writeExports now targets disk).2 := conclude_snd ..
  refine ⟨rfl, ?_, ?_, fun h => conclude_of_not_exportable h driven.1, ?_⟩
  · show (conclude s driven.1 now targets disk).1 = .ok () ↔ _
    by_cases h : s.Exportable now targets disk
    · simp [conclude_of_exportable h, h]
    · obtain ⟨e, he⟩ := conclude_of_not_exportable h driven.1
      simp [he, h]
  · intro h
    refine ⟨conclude_of_exportable h driven.1, fun hdistinct => ⟨?_, ?_⟩⟩
    · intro path hpath
      rw [hafter]
      have hmem : ⟨.json, path, s.export now⟩ ∈ s.exportFiles now targets :=
        ClientState.mem_exportFiles.2 (.inl ⟨path, hpath, rfl⟩)
      exact ClientState.holds_writeExports hdistinct h hmem
    · intro path hpath
      rw [hafter]
      split
      · next hnone =>
          intro file hfile
          refine ClientState.content?_writeExports ?_ (fun _ _ hpoints => absurd hnone hpoints)
          intro json hjson hsame
          exact hdistinct json path hjson hpath file hsame hfile
      · next hpoints =>
          have hmem : ⟨.csv, path, SweepPoint.csv s.sweep.results⟩ ∈ s.exportFiles now targets :=
            ClientState.mem_exportFiles.2 (.inr ⟨hpoints, path, hpath, rfl⟩)
          exact ClientState.holds_writeExports hdistinct h hmem
  · intro file hjson hcsv
    rw [hafter]
    exact ClientState.content?_writeExports hjson hcsv

/-- A connection, a point of a sweep, and no more messages. -/
def cutShort : List (Turn Console.Willing) :=
  told [("1", .connected),
    ("2", .payload "\x7b\"type\":\"multi_size_result\",\"data\":\x7b\"msg_size\":64\x7d\x7d")]

/-- A file above the directory where paths start, and one in it. -/
def scattered : ExportTargets := ⟨some "/tmp/out.json", some "./sweep.csv"⟩

theorem runThrough_exports_cutShort :
    ∃ (e : RunError) (c : Console Console.Willing) (after : Storage),
      runThrough {} ⟨⟩ cutShort ⟨1714564800, 0⟩ scattered ({} : Storage) = (.error e, c, after) ∧
      c.state.sweep.results ≠ [] ∧
      after.read "/tmp/out.json" = .ok (c.state.export ⟨1714564800, 0⟩) ∧
      after.read "./sweep.csv" = .ok (SweepPoint.csv c.state.sweep.results) := by
  have hjson : Storage.find? {} "/tmp/out.json" = some ["tmp", "out.json"] := by decide +kernel
  have hcsv : Storage.find? {} "./sweep.csv" = some ["tmp", "work", "sweep.csv"] := by decide +kernel
  have hdistinct : scattered.Distinct ({} : Storage) := by
    intro json csv hdocument htable file hfile hsame
    obtain rfl := Option.some.inj (show some "/tmp/out.json" = some json from hdocument)
    obtain rfl := Option.some.inj (show some "./sweep.csv" = some csv from htable)
    have hplaces : ["tmp", "out.json"] = ["tmp", "work", "sweep.csv"] :=
      Option.some.inj ((hjson.symm.trans hfile).trans (hsame.symm.trans hcsv))
    exact absurd hplaces (by decide)
  have hfails : (driveThrough ⟨.new {} Console.Willing.mk, false⟩ cutShort).1.isOk = false := by
    decide +kernel
  have hsome : (driveThrough ⟨.new {} Console.Willing.mk,
      false⟩ cutShort).2.console.state.sweep.results.isEmpty = false := by
    decide +kernel
  have hexports := runThrough_exports {} Console.Willing.mk cutShort ⟨1714564800, 0⟩ scattered ({} : Storage)
  rcases hresult : runThrough {} Console.Willing.mk cutShort ⟨1714564800, 0⟩ scattered ({} : Storage) with
    ⟨outcome, c, after⟩
  rw [hresult] at hexports
  obtain ⟨hconsole, -, hwritten, -, -⟩ := hexports
  have hpoints : c.state.sweep.results ≠ [] := by
    rw [show c = _ from hconsole]
    exact List.isEmpty_eq_false_iff.1 hsome
  have hexportable : c.state.Exportable ⟨1714564800, 0⟩ scattered ({} : Storage) := by
    refine ⟨fun path hpath => ?_, fun path hpath _ => ?_⟩
    · obtain rfl := Option.some.inj (show some "/tmp/out.json" = some path from hpath)
      exact Storage.write_of_find? hjson _
    · obtain rfl := Option.some.inj (show some "./sweep.csv" = some path from hpath)
      have hkept : Storage.find? (Storage.write {} "/tmp/out.json" (c.state.export ⟨1714564800, 0⟩)).2 "./sweep.csv" =
          some ["tmp", "work", "sweep.csv"] :=
        (LawfulFileSystem.find?_write ({} : Storage) _ _ _).trans hcsv
      exact Storage.write_of_find? hkept _
  obtain ⟨houtcome, hfiles⟩ := hwritten hexportable
  obtain ⟨hdocument, htable⟩ := hfiles hdistinct
  have htable := htable _ rfl
  rw [if_neg hpoints] at htable
  rw [← show outcome = _ from houtcome] at hfails
  cases outcome with
  | error e =>
      exact ⟨e, c, after, rfl, hpoints, Storage.read_of_holds (hdocument _ rfl), Storage.read_of_holds htable⟩
  | ok => cases hfails

end Headless

end NetGauge
