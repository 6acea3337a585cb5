import DaemonLaunch.Activity.Script
import DaemonLaunch.FileSystem.Growth
import DaemonLaunch.Proofs.Preparing

/-!
What a check of settings promises for the log. The check looks at the directory that holds the log
file, by a path from which slashes and dots at the end have been dropped, while the file is opened
by the path as it stands, name by name. Both walk the same way for every path that ends in a proper
name or in two dots; they part only at an empty path and at a path that ends in a dot.
-/

namespace DaemonLaunch

open Activity

namespace FileSystem

variable {fs : FileSystem} {start directory : Location} {names : List String} {path name : String}

private theorem leadsTo_dots (count : Nat) :
    fs.LeadsTo start (List.replicate count ".") directory ↔ fs.LeadsTo start [] directory := by
  induction count with
  | zero => rfl
  | succ count ih =>
    rw [List.replicate_succ, leadsTo_cons]
    simp only [step_eq_ok_iff, if_true]
    constructor
    · rintro ⟨next, ⟨-, rfl⟩, hleads⟩
      exact ih.mp hleads
    · intro hleads
      exact ⟨start, ⟨hleads.start_directory, rfl⟩, ih.mpr hleads⟩

private theorem leadsTo_append_dots {count : Nat} :
    fs.LeadsTo start (names ++ List.replicate count ".") directory ↔
      fs.LeadsTo start names directory := by
  induction names generalizing start with
  | nil => exact leadsTo_dots count
  | cons name names ih =>
    rw [List.cons_append, leadsTo_cons, leadsTo_cons]
    simp only [ih]

private theorem walk_concat (fs : FileSystem) (start : Location) (names : List String)
    (name : String) :
    fs.walk start (names ++ [name]) = (fs.walk start names).bind (fs.step · name) := by
  rw [walk, List.foldlM_append]
  exact congrArg _ (funext fun place => bind_pure _)

private theorem names_eq (path : String) :
    FileSystem.names path = (Path.parts path.toList).map String.ofList := rfl

/-- The directory of a path is where all its names but the last lead, unless the last one is a
dot. -/
theorem leadsTo_directory_iff (hnames : FileSystem.names path = names ++ [name])
    (hname : name ≠ ".") :
    fs.LeadsTo (fs.start (Path.directory path)) (FileSystem.names (Path.directory path)) directory ↔
      fs.LeadsTo (fs.start path) names directory := by
  have hlast : ((Path.parts path.toList).map String.ofList).getLast? = some name := by
    rw [← names_eq, hnames, List.getLast?_concat]
  rw [List.getLast?_map, Option.map_eq_some_iff] at hlast
  obtain ⟨last, hlast, rfl⟩ := hlast
  have hdot : last ≠ ['.'] := by
    rintro rfl
    exact hname rfl
  obtain ⟨above, count, hparent, hparts, hroot⟩ := Path.parts_eq_parent hlast hdot
  have habove : FileSystem.names above ++ List.replicate count "." = names := by
    rw [names_eq, hparts, List.map_append, List.map_append, List.map_replicate] at hnames
    exact List.append_inj_left' hnames rfl
  have hstart : fs.start above = fs.start path := by
    simp only [FileSystem.start, beq_iff_eq, hroot]
  rw [← habove, leadsTo_append_dots, ← hstart]
  by_cases hempty : above = ""
  · -- what stands alone is in the working directory, which is written as a dot
    have hhere : Path.directory path = "." := by
      rw [Path.directory, hparent, hempty]
      rfl
    rw [hhere, hempty]
    exact leadsTo_dots 1
  · have hthere : Path.directory path = above := by
      rw [Path.directory, hparent]
      split <;> simp_all
    rw [hthere]

/-- The way to a file whose directory has been found holds no missing name, unless the path ends in
a dot. -/
theorem walk_way_ne_noEntry (hdirectory : fs.isDirectory (Path.directory path) = true)
    (hdot : (FileSystem.names path).getLast? ≠ some ".") :
    fs.walk (fs.start path) (way path) ≠ .error .noEntry := by
  obtain ⟨-, place, hwalk, hplace⟩ := (fs.isDirectory_iff _).mp hdirectory
  cases hlast : (FileSystem.names path).getLast? with
  | none =>
    have hway : way path = [] := by simp [way, List.getLast?_eq_none_iff.mp hlast]
    simp [hway, walk, pure, Except.pure]
  | some name =>
    obtain ⟨names, hnames⟩ := List.getLast?_eq_some_iff.mp hlast
    have hname : name ≠ "." := by
      rintro rfl
      exact hdot hlast
    obtain ⟨hwalk, -⟩ := (leadsTo_directory_iff hnames hname).mp ⟨hwalk, hplace⟩
    by_cases hdots : name = ".."
    · -- from a directory there is always a way up
      have hway : way path = names ++ [".."] := by simp [way, hnames, hdots]
      have hup : fs.step place ".." = .ok place.tail := by simp [step, hplace]
      simp [hway, walk_concat, hwalk, Except.bind, hup]
    · have hway : way path = names := by simp [way, hnames, hname, hdots]
      simp [hway, hwalk]

/-- Paths at which opening fails for want of an entry although the directory of the path has been
found: the empty path, and one that ends in a dot and names nothing. -/
def Misleads (fs : FileSystem) (path : String) : Prop :=
  path = "" ∨ (FileSystem.names path).getLast? = some "." ∧
    fs.resolve path = .error (.system .noEntry)

/-- Once the directory of a path has been found, these are the only ways to miss an entry. -/
theorem openForAppend_eq_noEntry_iff_misleads
    (hdirectory : fs.isDirectory (Path.directory path) = true) :
    fs.openForAppend path = .error (.system .noEntry) ↔ fs.Misleads path := by
  rw [openForAppend_eq_noEntry_iff, Misleads, resolve_eq_noEntry_iff]
  by_cases hempty : path = ""
  · simp [hempty]
  by_cases hdot : (FileSystem.names path).getLast? = some "."
  · have hway : way path = FileSystem.names path := by simp [way, hdot]
    -- a walk that ends with a dot ends in a directory
    have hfound : ¬∃ place, fs.walk (fs.start path) (FileSystem.names path) = .ok place ∧
        fs.node? place = none := by
      rintro ⟨place, hwalk, hnone⟩
      obtain ⟨names, hnames⟩ := List.getLast?_eq_some_iff.mp hdot
      rw [hnames, walk_concat] at hwalk
      cases hhere : fs.walk (fs.start path) names with
      | error code => simp [hhere, Except.bind] at hwalk
      | ok here =>
        rw [hhere, Except.bind, step_eq_ok_iff, if_pos rfl] at hwalk
        obtain ⟨hdirectory, rfl⟩ := hwalk
        simp [hdirectory] at hnone
    simp only [hempty, hdot, hway, hfound, false_or, true_and, or_false]
  · simp [hempty, hdot, walk_way_ne_noEntry hdirectory hdot]

end FileSystem

namespace Settings

variable {σ σ' : Type}

/-- Settings that have passed the check start the log in the same files, unless the log file cannot
be opened; their filter is never refused. For want of an entry the file cannot be opened exactly at
a path that misleads the check. -/
theorem checked_log_lacks_entry_iff_misled (s : Settings) (k : Kernel σ) (k' : Kernel σ')
    {m : Machine σ} {m' : Machine σ'}
    (hfiles : m'.files = m.files) (hcheck : (run k s.check.run m).1 = .returned (.ok ())) :
    ((run k' s.startLog.run m').1 = .returned (.ok ()) ∨ ∃ path failure, s.logFile = some path ∧
        (run k' s.startLog.run m').1 =
          .returned (.error (.configuration (.noLogFile path failure)))) ∧
      ∀ path, (run k' s.startLog.run m').1 =
          .returned (.error (.configuration (.noLogFile path (.system .noEntry)))) ↔
        s.logFile = some path ∧ m.files.Misleads path := by
  obtain ⟨-, ⟨filter, hfilter⟩, hdirectory⟩ := (s.run_check_eq_ok_iff k m).mp hcheck
  rw [run_startLog, hfilter, hfiles]
  cases hfile : s.logFile with
  | none => exact ⟨.inl rfl, fun path => iff_of_false nofun nofun⟩
  | some file =>
    have hmissing := FileSystem.openForAppend_eq_noEntry_iff_misleads (hdirectory file hfile)
    dsimp only
    cases hopen : m.files.openForAppend file with
    | ok opened =>
      refine ⟨.inl rfl, fun path => iff_of_false nofun ?_⟩
      rintro ⟨hpath, hmisleads⟩
      cases hpath
      rw [hopen] at hmissing
      exact nomatch hmissing.mpr hmisleads
    | error failure =>
      refine ⟨.inr ⟨file, failure, rfl, rfl⟩, fun path => ?_⟩
      rw [hopen, Except.error.injEq] at hmissing
      simp only [Outcome.returned.injEq, Except.error.injEq, LaunchError.configuration.injEq,
        ConfigurationCause.noLogFile.injEq, Option.some.injEq]
      constructor
      · rintro ⟨rfl, hfailure⟩
        exact ⟨rfl, hmissing.mp hfailure⟩
      · rintro ⟨rfl, hmisleads⟩
        exact ⟨rfl, hmissing.mpr hmisleads⟩

/-- A file in a directory is opened, however the path to it is written. -/
theorem checked_log_lacks_entry_iff_misled_of_slashes :
    let s : Settings := { logFile := some "logs//./daemon.log" }
    let m : Machine Script := .fresh {} { nodes := [(["logs"], .directory)] } none
    (run Script.kernel s.check.run m).1 = .returned (.ok ()) ∧
      (run Script.kernel s.startLog.run m).1 ≠
        .returned (.error (.configuration
          (.noLogFile "logs//./daemon.log" (.system .noEntry)))) := by
  intro s m
  have hcheck : (run Script.kernel s.check.run m).1 = .returned (.ok ()) := by
    have hoff : HasFilter {} := ⟨_, rfl⟩
    refine (s.run_check_eq_ok_iff Script.kernel m).mpr ⟨by decide, hoff, ?_⟩
    rintro path ⟨⟩
    decide
  refine ⟨hcheck, fun hmissing => ?_⟩
  have hmisleads :=
    ((checked_log_lacks_entry_iff_misled s Script.kernel Script.kernel rfl hcheck).2 _).mp hmissing
  obtain hempty | ⟨hdot, -⟩ := hmisleads.2
  · exact absurd hempty (by decide)
  · exact absurd hdot (by decide)

/-- A dot after a missing name is dropped before the check looks for the directory, and walked when
the file is opened. -/
theorem dot_hides_missing_directory :
    let s : Settings := { logFile := some "missing/." }
    let m : Machine Script := .fresh {} {} none
    (run Script.kernel s.check.run m).1 = .returned (.ok ()) ∧
      (run Script.kernel s.startLog.run m).1 =
        .returned (.error (.configuration (.noLogFile "missing/." (.system .noEntry)))) :=
  ⟨rfl, rfl⟩

end Settings

end DaemonLaunch
