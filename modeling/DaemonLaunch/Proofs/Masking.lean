import DaemonLaunch.Activity.Script
import DaemonLaunch.Proofs.Preparing

/-!
Options and the settings file. What a file gives is checked as it stands; if it holds up, an option
that is given masks what the file says in its place.
-/

namespace DaemonLaunch

open Activity

namespace Settings

/-- The settings agree in every field that the draft leaves open. -/
structure Draft.AgreeOutside (d : Draft) (s s' : Settings) : Prop where
  sleepSeconds : d.sleepSeconds = none → s.sleepSeconds = s'.sleepSeconds
  detachStreams : d.detachStreams = none → s.detachStreams = s'.detachStreams
  enterRoot : d.enterRoot = none → s.enterRoot = s'.enterRoot
  logFilter : d.logFilter = none → s.logFilter = s'.logFilter
  logFile : d.logFile = none → s.logFile = s'.logFile

private theorem getD_eq {α : Type} {given : Option α} {a b : α} (h : given = none → a = b) :
    given.getD a = given.getD b := by
  cases given with
  | none => exact h rfl
  | some value => rfl

theorem Draft.AgreeOutside.fillFrom_eq {d : Draft} {s s' : Settings} (h : d.AgreeOutside s s') :
    d.fillFrom s = d.fillFrom s' := by
  rw [fillFrom, fillFrom, getD_eq h.sleepSeconds, getD_eq h.detachStreams, getD_eq h.enterRoot,
    getD_eq h.logFilter, getD_eq h.logFile]

variable {σ : Type} {k : Kernel σ} {path text : String} {given : Settings} {m : Machine σ}
  {options : CommandLine.Options}

private theorem run_ofOptions (hfile : options.settingsFile = some path)
    (htext : m.files.read path = .ok text.toUTF8)
    (hgiven : ofDocument (Path.extension path) text = .ok given) :
    run k (ofOptions options).run m = run k (given.check >>= fun _ =>
      (options.overrides.fillFrom given).check >>= fun _ =>
        pure (options.overrides.fillFrom given)).run m := by
  rw [ofOptions, hfile]
  dsimp only
  rw [Fallible.run_bind, run_load htext hgiven, ← Fallible.run_bind, LawfulMonad.bind_assoc]
  rfl

/-- Options mask what a file says in their place, provided that the file holds up without them: two
files that differ there only come to the same if they hold up alike, and a file that does not hold
up fails with its own error whatever the options are. -/
theorem options_mask_file (k : Kernel σ) (options : CommandLine.Options) {path : String}
    (hfile : options.settingsFile = some path) {m m' : Machine σ}
    (htree : m.files.SameTree m'.files) {text text' : String}
    (htext : m.files.read path = .ok text.toUTF8) (htext' : m'.files.read path = .ok text'.toUTF8)
    {given given' : Settings} (hgiven : ofDocument (Path.extension path) text = .ok given)
    (hgiven' : ofDocument (Path.extension path) text' = .ok given')
    (hagree : options.overrides.AgreeOutside given given') :
    ((run k given.check.run m).1 = (run k given'.check.run m').1 →
      (run k (ofOptions options).run m).1 = (run k (ofOptions options).run m').1) ∧
    (∀ e, (run k given.check.run m).1 = .returned (.error e) →
      (run k (ofOptions options).run m).1 = .returned (.error e)) ∧
    ∀ ending, (run k given.check.run m).1 = .ended ending →
      (run k (ofOptions options).run m).1 = .ended ending := by
  have hmerged : options.overrides.fillFrom given = options.overrides.fillFrom given' :=
    hagree.fillFrom_eq
  have hlooks : ((options.overrides.fillFrom given).check >>= fun _ =>
      pure (options.overrides.fillFrom given)).run.Only Call.Looks :=
    Only.except_bind (only_check _) fun _ => trivial
  obtain ⟨outcome, hrun⟩ := given.run_check k m
  obtain ⟨outcome', hrun'⟩ := given'.run_check k m'
  rw [run_ofOptions hfile htext hgiven, run_ofOptions hfile htext' hgiven', ← hmerged]
  rw [Fallible.run_bind, Fallible.run_bind, hrun, hrun']
  refine ⟨?_, ?_, ?_⟩
  · rintro rfl
    match outcome with
    | .returned (.ok ()) =>
      obtain ⟨final, hfinal, hfinal'⟩ := hlooks.run_looks k k htree
      dsimp only
      rw [hfinal, hfinal']
    | .returned (.error e) => rfl
    | .ended ending => rfl
  · rintro e rfl
    rfl
  · rintro ending rfl
    rfl

private def holding (text : String) : Machine Script :=
  .fresh {} (FileSystem.put {} ["c.toml"] (.file text.toUTF8)) none

private theorem read_holding (text : String) :
    (holding text).files.read "c.toml" = .ok text.toUTF8 := by
  rfl

/-- Both files hold up, and the option decides. -/
theorem options_mask_file_of_sleep :
    let options : CommandLine.Options := { settingsFile := some "c.toml", sleepSeconds := some 4 }
    (run Script.kernel (ofOptions options).run (holding "sleep_secs = 3\n")).1 =
      (run Script.kernel (ofOptions options).run (holding "sleep_secs = 9\n")).1 := by
  intro options
  have htree : (holding "sleep_secs = 3\n").files.SameTree (holding "sleep_secs = 9\n").files :=
    FileSystem.sameTree_put {} ["c.toml"] _ _
  have hgiven : ofDocument (Path.extension "c.toml") "sleep_secs = 3\n" =
      .ok { sleepSeconds := 3 } := by rfl
  have hgiven' : ofDocument (Path.extension "c.toml") "sleep_secs = 9\n" =
      .ok { sleepSeconds := 9 } := by rfl
  have hagree : options.overrides.AgreeOutside { sleepSeconds := 3 } { sleepSeconds := 9 } :=
    ⟨by simp [options, CommandLine.Options.overrides], fun _ => rfl, fun _ => rfl, fun _ => rfl,
      fun _ => rfl⟩
  obtain ⟨hmask, -, -⟩ :=
    options_mask_file Script.kernel options rfl htree (read_holding _) (read_holding _) hgiven
      hgiven' hagree
  exact hmask rfl

/-- The command line overrides the only field in which the files differ, and one of them is refused
all the same. -/
theorem file_checked_before_options :
    let options : CommandLine.Options := { settingsFile := some "c.toml", sleepSeconds := some 4 }
    CommandLine.read ["--config", "c.toml", "--sleep-secs", "4"] = .ok options ∧
      ofDocument (Path.extension "c.toml") "sleep_secs = 0\n" = .ok { sleepSeconds := 0 } ∧
      ofDocument (Path.extension "c.toml") "sleep_secs = 3\n" = .ok { sleepSeconds := 3 } ∧
      options.overrides.AgreeOutside { sleepSeconds := 0 } { sleepSeconds := 3 } ∧
      (holding "sleep_secs = 0\n").files.SameTree (holding "sleep_secs = 3\n").files ∧
      (run Script.kernel (ofOptions options).run (holding "sleep_secs = 0\n")).1 =
        .returned (.error (.setting .zeroSleep)) ∧
      (run Script.kernel (ofOptions options).run (holding "sleep_secs = 3\n")).1 =
        .returned (.ok { sleepSeconds := 4 }) := by
  refine ⟨rfl, rfl, rfl, ?_, ?_, ?_, ?_⟩
  · exact ⟨by simp [CommandLine.Options.overrides], fun _ => rfl, fun _ => rfl, fun _ => rfl,
      fun _ => rfl⟩
  · exact FileSystem.sameTree_put {} ["c.toml"] _ _
  · rfl
  · rfl

end Settings

end DaemonLaunch
