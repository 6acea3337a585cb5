import DaemonLaunch.FileSystem.Growth
import DaemonLaunch.Proofs.Preparing

/-!
Setting up the log again and again in one process. The first call that succeeds decides where the
log lines go for good; whether a call succeeds depends on its own settings and on the files there
were at the start, not on the calls before it.
-/

namespace DaemonLaunch

open Activity

namespace Settings

/-- The log that the settings ask for, if their filter has a meaning and their log file can be
opened. -/
def logger? (s : Settings) (files : FileSystem) : Option Logger :=
  match LogFilter.ofText s.logFilter with
  | .error _ => none
  | .ok filter =>
    match s.logFile with
    | none => some ⟨filter, .errorStream⟩
    | some path => (files.appendPlace? path).map fun place => ⟨filter, .file place⟩

variable {σ : Type} {k : Kernel σ} {initial m : Machine σ} {s : Settings}

theorem isSome_logger?_iff (s : Settings) (files : FileSystem) :
    (s.logger? files).isSome ↔
      s.HasFilter ∧ ∀ path, s.logFile = some path → ∃ opened,
        files.openForAppend path = .ok opened := by
  rw [logger?, HasFilter]
  cases LogFilter.ofText s.logFilter with
  | error e => simp
  | ok filter =>
    cases s.logFile with
    | none => simp
    | some path =>
      cases hopen : files.openForAppend path with
      | error failure => simp [FileSystem.appendPlace?, hopen]
      | ok opened =>
        have hopened : ∃ place files', opened = (place, files') := ⟨opened.1, opened.2, rfl⟩
        simp [FileSystem.appendPlace?, hopen, hopened]

theorem logger?_of_grown {files files' : FileSystem} (h : files.Grown files') (s : Settings) :
    s.logger? files' = s.logger? files := by
  simp only [logger?, h.appendPlace?_eq]

/-- What setting up a log comes to: where the settings have a log, it is installed unless there has
been one before, and the log file is there; otherwise nothing is changed. -/
inductive SetsUp (s : Settings) (m : Machine σ) :
    Outcome (Except LaunchError Unit) × Machine σ → Prop
  | done {logger : Logger} {files : FileSystem} (hlogger : s.logger? m.files = some logger)
      (hgrown : m.files.Grown files)
      (hfile : ∀ path, s.logFile = some path → files.isFile path = true) :
      SetsUp s m (.returned (.ok ()),
        { m with files := files, logger := some (m.logger.getD logger) })
  | failed {outcome : Outcome (Except LaunchError Unit)} (hlogger : s.logger? m.files = none)
      (houtcome : outcome ≠ .returned (.ok ())) : SetsUp s m (outcome, m)

theorem setsUp_startLog (s : Settings) (k : Kernel σ) (m : Machine σ) :
    SetsUp s m (run k s.startLog.run m) := by
  rw [run_startLog]
  cases hfilter : LogFilter.ofText s.logFilter with
  | error e =>
    have hnone : s.logger? m.files = none := by rw [logger?, hfilter]
    cases e <;> exact .failed hnone (by simp)
  | ok filter =>
    dsimp only
    cases hfile : s.logFile with
    | none =>
      have hlogger : s.logger? m.files = some ⟨filter, .errorStream⟩ := by
        rw [logger?, hfilter, hfile]
      exact .done hlogger (.refl m.files) (by simp [hfile])
    | some path =>
      dsimp only
      match hopen : m.files.openForAppend path with
      | .error failure =>
        have hnone : s.logger? m.files = none := by
          simp [logger?, hfilter, hfile, FileSystem.appendPlace?, hopen]
        exact .failed hnone (by simp)
      | .ok (place, files) =>
        obtain ⟨hgrown, hisFile, hplace⟩ := FileSystem.grown_of_openForAppend hopen
        have hlogger : s.logger? m.files = some ⟨filter, .file place⟩ := by
          simp [logger?, hfilter, hfile, hplace]
        exact .done hlogger hgrown (by simp [hfile, hisFile])

/-- The machine after logs have been set up one after the other. A process goes on after a call that
fails, and after one that breaks off if it catches that. -/
def afterLogs (k : Kernel σ) (m : Machine σ) (calls : List Settings) : Machine σ :=
  calls.foldl (fun m s => (run k s.startLog.run m).2) m

theorem afterLogs_append_singleton (k : Kernel σ) (m : Machine σ) (before : List Settings)
    (s : Settings) :
    afterLogs k m (before ++ [s]) = (run k s.startLog.run (afterLogs k m before)).2 := by
  simp only [afterLogs, List.foldl_append, List.foldl_cons, List.foldl_nil]

/-- What holds after calls with these settings: files were added at most, and the log is the one
that there was at the start, or else the first one that the settings have on the files of the
start. -/
structure Logged (initial : Machine σ) (calls : List Settings) (m : Machine σ) : Prop where
  files : initial.files.Grown m.files
  logger : m.logger = initial.logger.or (calls.findSome? (·.logger? initial.files))

private theorem Logged.setsUp {calls : List Settings}
    {ran : Outcome (Except LaunchError Unit) × Machine σ}
    (h : Logged initial calls m) (hran : SetsUp s m ran) : Logged initial (calls ++ [s]) ran.2 := by
  have hsame := logger?_of_grown h.files s
  cases hran with
  | done hlogger hgrown hfile =>
    rw [hsame] at hlogger
    refine ⟨h.files.trans hgrown, ?_⟩
    simp only [h.logger, List.findSome?_append, List.findSome?_cons, hlogger]
    cases initial.logger with
    | some logger => rfl
    | none => cases calls.findSome? (·.logger? initial.files) <;> rfl
  | failed hlogger houtcome =>
    rw [hsame] at hlogger
    refine ⟨h.files, ?_⟩
    simp [h.logger, List.findSome?_append, hlogger]

private theorem Logged.afterLogs {done : List Settings} (h : Logged initial done m) (k : Kernel σ)
    (calls : List Settings) :
    Logged initial (done ++ calls) (Settings.afterLogs k m calls) := by
  induction calls generalizing done m with
  | nil => simpa [Settings.afterLogs] using h
  | cons s calls ih =>
    have hnext := ih (h.setsUp (s.setsUp_startLog k m))
    rwa [List.append_assoc, List.singleton_append] at hnext

theorem logged_afterLogs (k : Kernel σ) (initial : Machine σ) (calls : List Settings) :
    Logged initial calls (afterLogs k initial calls) := by
  have hstart : Logged initial [] initial := ⟨.refl initial.files, by simp⟩
  exact hstart.afterLogs k calls

/-- After any calls, one more call succeeds exactly if its filter has a meaning and its file, if it
has one, could have been opened at the start. The log is that of the first successful call, and a
standing one is never replaced. A call that fails changes nothing, a call that succeeds leaves a
file where its settings say, and whatever stood in the file system stays as it was. -/
theorem first_log_stands (k : Kernel σ) (initial : Machine σ) (before : List Settings)
    (s : Settings) :
    let m := afterLogs k initial before
    let m' := afterLogs k initial (before ++ [s])
    ∃ outcome, run k s.startLog.run m = (outcome, m') ∧
      (outcome = .returned (.ok ()) ↔
        s.HasFilter ∧ ∀ path, s.logFile = some path → ∃ opened,
          initial.files.openForAppend path = .ok opened) ∧
      (outcome = .returned (.ok ()) ↔ (s.logger? initial.files).isSome) ∧
      m'.logger = initial.logger.or ((before ++ [s]).findSome? (·.logger? initial.files)) ∧
      (m.logger.isSome → m'.logger = m.logger) ∧
      (outcome ≠ .returned (.ok ()) → m' = m) ∧
      (¬ s.HasFilter → m'.files = m.files) ∧
      (outcome = .returned (.ok ()) → ∀ path, s.logFile = some path → m'.files.isFile path = true) ∧
      ∀ place node, m.files.node? place = some node → m'.files.node? place = some node := by
  intro m m'
  have hbefore : Logged initial before m := logged_afterLogs k initial before
  have hafter : Logged initial (before ++ [s]) m' := logged_afterLogs k initial (before ++ [s])
  have hsame := logger?_of_grown hbefore.files s
  have hsucceeds := s.isSome_logger?_iff initial.files
  have hcall := s.setsUp_startLog k m
  have hlast : m' = (run k s.startLog.run m).2 := afterLogs_append_singleton k initial before s
  refine ⟨(run k s.startLog.run m).1, by rw [hlast], ?_⟩
  rw [← hsucceeds]
  rw [hlast] at hafter ⊢
  generalize run k s.startLog.run m = ran at hcall hafter
  cases hcall with
  | done hlogger hgrown hfile =>
    rw [hsame] at hlogger
    have hsome : (s.logger? initial.files).isSome := by rw [hlogger]; rfl
    refine ⟨by simp [hsome], by simp [hsome], hafter.logger, ?_, by simp,
      fun h => absurd (hsucceeds.mp hsome).1 h,
      fun _ => hfile, fun place node => hgrown.kept⟩
    intro hstanding
    obtain ⟨logger, hlogger⟩ := Option.isSome_iff_exists.mp hstanding
    simp [hlogger]
  | failed hlogger houtcome =>
    rw [hsame] at hlogger
    exact ⟨by simp [hlogger, houtcome], by simp [hlogger, houtcome], hafter.logger, fun _ => rfl,
      fun _ => rfl, fun _ => rfl,
      fun h => absurd h houtcome, fun place node h => h⟩

end Settings

end DaemonLaunch
