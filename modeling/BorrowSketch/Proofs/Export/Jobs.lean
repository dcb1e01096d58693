import BorrowSketch.Export.Run
import BorrowSketch.Proofs.Export.Tree
import Mathlib.Data.List.Nodup

/-! # The jobs of an export

What an export does for its entries, and what doing it on a file tree comes to.

* **`Key.text_injective`**, **`Export.imageFile_injective`** — the files of different images have
  different names.
* **`Export.entryJobs_ofSketch`** — for an entry there is an image for each theme, or one remark.
* **`Export.perform_cases`** — doing jobs writes their files and reports them, or ends with a file
  that cannot be written. -/

namespace BorrowSketch

/-! ## Names of files -/

/-- The line in the text of a key is written in digits. -/
theorem Key.isDigit_of_mem {key : Key} {c : Char} (h : c ∈ Nat.toDigits 10 key.line) :
    c.isDigit = true :=
  Nat.isDigit_of_mem_toDigits (by decide) (by decide) h

/-- The characters in the text of a key. -/
theorem Key.toList_text (key : Key) :
    key.text.toList = Nat.toDigits 10 key.line ++ '_' :: key.code.toList := by
  rw [text, String.toList_append, String.toList_append, List.append_assoc, Nat.toString_eq_repr,
    Nat.toList_repr]
  rfl

/-- The text of a key up to the first underscore is its line. -/
theorem Key.takeWhile_text (key : Key) :
    key.text.toList.takeWhile (· ≠ '_') = Nat.toDigits 10 key.line := by
  have hline : ∀ c ∈ Nat.toDigits 10 key.line, decide (c ≠ '_') = true := by
    intro c hc
    rw [decide_eq_true_iff]
    rintro rfl
    exact absurd (isDigit_of_mem hc) (by decide)
  rw [toList_text, List.takeWhile_append_of_pos hline]
  exact List.append_nil _

/-- Different keys have different texts. -/
theorem Key.text_injective {key other : Key} (h : key.text = other.text) : key = other := by
  have hdigits : Nat.toDigits 10 key.line = Nat.toDigits 10 other.line := by
    rw [← key.takeWhile_text, ← other.takeWhile_text, h]
  have hline : key.line = other.line := by
    rw [← Nat.ofDigitChars_ten_toDigits (n := key.line), hdigits, Nat.ofDigitChars_ten_toDigits]
  have hcode : key.code = other.code := by
    rw [text, text, hline] at h
    exact (String.append_right_inj _).1 h
  obtain ⟨line, code⟩ := key
  obtain ⟨otherLine, otherCode⟩ := other
  rw [Key.mk.injEq]
  exact ⟨hline, hcode⟩

namespace Export

/-- **Different images have different files.** -/
theorem imageFile_injective {key other : Key} {theme otherTheme : Theme}
    (h : imageFile key theme = imageFile other otherTheme) : key = other ∧ theme = otherTheme := by
  -- the themes differ in the last character before the ending
  have htheme : theme = otherTheme := by
    have hend := congrArg (fun file => file.toList.reverse.take 5) h
    cases theme with
    | light =>
      cases otherTheme with
      | light => rfl
      | dark => simp [imageFile, Theme.name] at hend
    | dark =>
      cases otherTheme with
      | light => simp [imageFile, Theme.name] at hend
      | dark => rfl
  subst htheme
  refine ⟨Key.text_injective ?_, rfl⟩
  have hname := (String.append_left_inj _).1 h
  rw [String.append_assoc, String.append_assoc] at hname
  exact (String.append_left_inj _).1 hname

/-- The file of an image has a name, as long as the code is no path. -/
theorem isFileName_imageFile {key : Key} (h : '/' ∉ key.code.toList) (theme : Theme) :
    IsFileName (imageFile key theme) where
  nonempty hempty := by
    have hlength := congrArg String.length hempty
    simp [imageFile] at hlength
  slash hslash := by
    have hkey : '/' ∉ key.text.toList := by
      rw [key.toList_text, List.mem_append, List.mem_cons]
      rintro (hc | hc | hc)
      · exact absurd (Key.isDigit_of_mem hc) (by decide)
      · exact absurd hc (by decide)
      · exact h hc
    have hname : '/' ∉ theme.name.toList := by cases theme <;> decide
    rw [imageFile, String.toList_append, String.toList_append, String.toList_append,
      List.mem_append, List.mem_append, List.mem_append] at hslash
    rcases hslash with ((hc | hc) | hc) | hc
    · exact hkey hc
    · exact absurd hc (by decide)
    · exact hname hc
    · exact absurd hc (by decide)

/-! ## Jobs -/

/-- The name and the content of the file that a job writes. -/
def Job.file? : Job → Option (String × String)
  | .write file content => some (file, content)
  | .skip .. => none

/-- The entry that a job notes to have no image, and why. -/
def Job.skipped? : Job → Option (Key × String)
  | .write .. => none
  | .skip key reason => some (key, reason)

/-- The jobs for an entry. -/
def jobsOf (session : Session) (document : LineView) (key : Key) (entry : Entry) : List Job :=
  if entry.hinted then []
  else match session.handlers.renderers.get? key.code with
    | none => []
    | some renderer =>
      entryJobs (fun theme => renderer ⟨document, session.config⟩ theme entry.diagnostic) key
        Theme.all

/-- The jobs for all entries are those for each of them. -/
theorem jobs_eq (session : Session) (document : LineView) :
    jobs session document =
      session.tracker.entries.toList.flatMap fun entry =>
        jobsOf session document entry.1 entry.2 := rfl

/-- **The jobs for a sketch.** If there is one, it is drawn for each theme; if there is none, this
is noted once. -/
theorem entryJobs_ofSketch (sketch : LineView → Diagnostic → Outcome Sketch) (scene : Scene)
    (d : Diagnostic) (key : Key) :
    entryJobs (fun theme => Renderer.ofSketch sketch scene theme d) key Theme.all =
      match sketch scene.document d with
      | .success plan => Theme.all.map fun theme =>
          .write (imageFile key theme) (plan.picture scene.config theme).image.markup
      | .inapplicable context => [.skip key (context.getD "not applicable")]
      | .failed context => [.skip key context] := by
  simp only [Renderer.ofSketch]
  cases sketch scene.document d <;> rfl

/-! ## Doing jobs -/

/-- A report once jobs are done. -/
def Report.afterJobs (directory : String) (report : Report) (jobs : List Job) : Report :=
  { report with
    written := report.written ++
      (jobs.filterMap Job.file?).map fun file => joinPath directory file.1
    skipped := report.skipped ++ jobs.filterMap Job.skipped? }

/-- Without jobs a report stays as it is. -/
theorem Report.afterJobs_nil (directory : String) (report : Report) :
    report.afterJobs directory [] = report := by
  simp [afterJobs]

/-- A file that is written is reported before the others. -/
theorem Report.afterJobs_write (directory : String) (report : Report) (file content : String)
    (jobs : List Job) :
    report.afterJobs directory (.write file content :: jobs) =
      { report with written := report.written ++ [joinPath directory file] }.afterJobs directory
        jobs := by
  simp [afterJobs, List.filterMap_cons, Job.file?, Job.skipped?]

/-- An entry that is skipped is reported before the others. -/
theorem Report.afterJobs_skip (directory : String) (report : Report) (key : Key) (reason : String)
    (jobs : List Job) :
    report.afterJobs directory (.skip key reason :: jobs) =
      { report with skipped := report.skipped ++ [(key, reason)] }.afterJobs directory jobs := by
  simp [afterJobs, List.filterMap_cons, Job.file?, Job.skipped?]

/-- **What doing jobs on a file tree comes to.** All files are written, in order, and reported along
with what is skipped; or some file cannot be written. -/
theorem perform_cases (directory : String) (report : Report) (jobs : List Job) (tree : FileTree) :
    (∃ after, tree.Writes ((jobs.filterMap Job.file?).map fun file =>
        (joinPath directory file.1, file.2)) after ∧
      (perform directory report jobs : StateM FileTree _) tree =
        (.ok (report.afterJobs directory jobs), after)) ∨
    ∃ path error after, (perform directory report jobs : StateM FileTree _) tree =
      (.error (.file path error), after) := by
  induction jobs generalizing report tree with
  | nil =>
    refine .inl ⟨tree, .nil tree, ?_⟩
    rw [report.afterJobs_nil]
    rfl
  | cons job jobs ih =>
    cases job with
    | skip key reason =>
      rw [report.afterJobs_skip]
      exact ih { report with skipped := report.skipped ++ [(key, reason)] } tree
    | write file content =>
      rw [report.afterJobs_write]
      have hstep : (perform directory report (.write file content :: jobs) : StateM FileTree _)
          tree = match tree.writeText (joinPath directory file) content with
            | .error error => (.error (.file (joinPath directory file) error), tree)
            | .ok next => (perform directory { report with
                written := report.written ++ [joinPath directory file] } jobs :
                  StateM FileTree _) next := by
        rw [perform]
        simp only [bind, StateT.bind, FileAccess.writeText]
        cases tree.writeText (joinPath directory file) content <;> rfl
      rw [hstep]
      cases hwrite : tree.writeText (joinPath directory file) content with
      | error error => exact .inr ⟨_, error, tree, rfl⟩
      | ok next =>
        rcases ih { report with written := report.written ++ [joinPath directory file] } next with
          ⟨after, hwrites, hperform⟩ | hfailure
        · exact .inl ⟨after, .cons hwrite hwrites, hperform⟩
        · exact .inr hfailure

end Export
end BorrowSketch
