import DaemonLaunch.Launch.Preparation
import DaemonLaunch.Proofs.Restraint
import DaemonLaunch.Text.Cut

/-!
Runs of the preparation of a launch: a check only looks at the tree of the files, a file is checked
before its settings are used, and a log that has been started writes where the settings say.
-/

namespace DaemonLaunch

open Activity

/-- A call that looks at the tree of the files only. -/
def Call.Looks (c : Call) : Prop := c.Among [.looking]

/-- An activity that only looks at the tree comes to the same on any two machines with the same
tree, and leaves them as they are. -/
theorem Activity.Only.run_looks {σ σ' α : Type} {p : Activity α} (hp : p.Only Call.Looks)
    (k : Kernel σ) (k' : Kernel σ')
    {m : Machine σ} {m' : Machine σ'} (htree : m.files.SameTree m'.files) :
    ∃ outcome, run k p m = (outcome, m) ∧ run k' p m' = (outcome, m') := by
  induction p with
  | done value => exact ⟨_, rfl, rfl⟩
  | stop ending => exact ⟨_, rfl, rfl⟩
  | call c next ih =>
    obtain ⟨hlooks, hnext⟩ := hp
    cases c with
    | isDirectory path =>
      have hanswer : m.files.isDirectory path = m'.files.isDirectory path := htree.isDirectory path
      obtain ⟨outcome, hrun, hrun'⟩ := ih (m.files.isDirectory path) (hnext _)
      refine ⟨outcome, hrun, ?_⟩
      rw [run_call]
      change run k' (next (m'.files.isDirectory path)) m' = (outcome, m')
      rw [← hanswer]
      exact hrun'
    | ask request => cases request <;> cases hlooks
    | _ => cases hlooks

/-- What a look at settings comes to, the machine staying as it is: they are refused, they are
granted, or the look breaks off because of a torn character. -/
inductive Launch.Verdict {σ α : Type} (m : Machine σ) (good : α → Prop) (torn : Prop) :
    Outcome (Except LaunchError α) × Machine σ → Prop
  | refused (e : LaunchError) : Verdict m good torn (.returned (.error e), m)
  | granted (value : α) (hgood : good value) : Verdict m good torn (.returned (.ok value), m)
  | brokenOff (htorn : torn) : Verdict m good torn (.ended .fault, m)

namespace Launch.Verdict

variable {σ α β : Type} {k : Kernel σ} {m : Machine σ} {torn torn' : Prop}

theorem mono {good good' : α → Prop} {ran : Outcome (Except LaunchError α) × Machine σ}
    (h : Verdict m good torn ran)
    (hgood : ∀ value, good value → good' value) (htorn : torn → torn') :
    Verdict m good' torn' ran := by
  cases h with
  | refused e => exact .refused e
  | granted value hvalue => exact .granted value (hgood value hvalue)
  | brokenOff h => exact .brokenOff (htorn h)

theorem bind {good : α → Prop} {good' : β → Prop} {p : Launch α} {f : α → Launch β}
    (hp : Verdict m good torn (run k p.run m))
    (hf : ∀ value, good value → Verdict m good' torn (run k (f value).run m)) :
    Verdict m good' torn (run k (p >>= f).run m) := by
  rw [Fallible.run_bind]
  generalize run k p.run m = ran at hp
  cases hp with
  | refused e => exact .refused e
  | granted value hvalue => exact hf value hvalue
  | brokenOff h => exact .brokenOff h

end Launch.Verdict

variable {σ : Type} {k : Kernel σ} {m : Machine σ}

namespace LogFilter

theorem only_read (good : Call → Prop) (text : String) : (read text).run.Only good := by
  rw [read]
  split
  · trivial
  · trivial
  · trivial

theorem run_read_bind {α : Type} (text : String) (f : LogFilter → Launch α) :
    run k (read text >>= f).run m =
      match ofText text with
      | .ok filter => run k (f filter).run m
      | .error .tornCharacter => (.ended .fault, m)
      | .error e => (.returned (.error (.setting (.badFilter text e))), m) := by
  rw [Fallible.run_bind, read]
  cases ofText text with
  | ok filter => rfl
  | error e => cases e <;> rfl

end LogFilter

namespace Settings

variable {s given base : Settings} {path text : String} {options : CommandLine.Options}

private def checkDirectory (s : Settings) : Launch Unit := do
  match s.logFile with
  | none => return ()
  | some path =>
    if ← perform (.isDirectory (Path.directory path)) then return ()
    else throw (.setting (.noDirectory (Path.directory path)))

private theorem check_eq (s : Settings) :
    s.check =
      if s.sleepSeconds = 0 then throw (.setting .zeroSleep)
      else LogFilter.read s.logFilter >>= fun _ => s.checkDirectory := by
  rw [check]
  split
  · rfl
  · rfl

private theorem only_checkDirectory (s : Settings) : s.checkDirectory.run.Only Call.Looks := by
  rw [checkDirectory]
  cases s.logFile with
  | none => trivial
  | some path =>
    apply Only.except_bind (Only.lift (Only.perform (by rfl)))
    intro found
    cases found with
    | true => trivial
    | false => trivial

theorem only_check (s : Settings) : s.check.run.Only Call.Looks := by
  rw [check_eq]
  split
  · trivial
  · exact Only.except_bind (LogFilter.only_read _ _) fun _ => s.only_checkDirectory

theorem run_check (s : Settings) (k : Kernel σ) (m : Machine σ) :
    ∃ outcome, run k s.check.run m = (outcome, m) := by
  obtain ⟨outcome, hrun, -⟩ := s.only_check.run_looks k k (.refl m.files)
  exact ⟨outcome, hrun⟩

def HasFilter (s : Settings) : Prop := ∃ filter, LogFilter.ofText s.logFilter = .ok filter

private theorem verdict_checkDirectory (s : Settings) (torn : Prop) (k : Kernel σ) (m : Machine σ) :
    Launch.Verdict m (fun _ => True) torn (run k s.checkDirectory.run m) := by
  rw [checkDirectory]
  cases s.logFile with
  | none => exact .granted () trivial
  | some path =>
    simp only
    rw [Fallible.run_lift_bind]
    have hanswer : run k (perform (.isDirectory (Path.directory path))) m =
        (.returned (m.files.isDirectory (Path.directory path)), m) := rfl
    rw [hanswer]
    cases m.files.isDirectory (Path.directory path) with
    | true => exact .granted () trivial
    | false => exact .refused _

/-- A check breaks off only at a filter with a torn character, and only a filter that has a meaning
passes it. -/
theorem verdict_check (s : Settings) (k : Kernel σ) (m : Machine σ) :
    Launch.Verdict m (fun _ => s.HasFilter) (LogFilter.ofText s.logFilter = .error .tornCharacter)
      (run k s.check.run m) := by
  rw [check_eq]
  split
  · exact .refused _
  · rw [LogFilter.run_read_bind]
    split
    · next filter hfilter =>
        exact (s.verdict_checkDirectory _ k m).mono (fun _ _ => ⟨filter, hfilter⟩) id
    · next htorn => exact .brokenOff htorn
    · exact .refused _

private theorem run_checkDirectory_eq_ok_iff (s : Settings) (k : Kernel σ) (m : Machine σ) :
    (run k s.checkDirectory.run m).1 = .returned (.ok ()) ↔
      ∀ path, s.logFile = some path → m.files.isDirectory (Path.directory path) = true := by
  rw [checkDirectory]
  cases s.logFile with
  | none => exact iff_of_true rfl nofun
  | some path =>
    have hanswer : run k (perform (.isDirectory (Path.directory path))) m =
        (.returned (m.files.isDirectory (Path.directory path)), m) := rfl
    simp only [Option.some.injEq, forall_eq']
    rw [Fallible.run_lift_bind, hanswer]
    cases m.files.isDirectory (Path.directory path) with
    | true => exact iff_of_true rfl rfl
    | false => exact iff_of_false nofun nofun

theorem run_check_eq_ok_iff (s : Settings) (k : Kernel σ) (m : Machine σ) :
    (run k s.check.run m).1 = .returned (.ok ()) ↔ s.sleepSeconds ≠ 0 ∧ s.HasFilter ∧
      ∀ path, s.logFile = some path → m.files.isDirectory (Path.directory path) = true := by
  rw [check_eq]
  split
  · next hzero => exact iff_of_false nofun fun hgood => hgood.1 hzero
  · next hsleep =>
    rw [LogFilter.run_read_bind, ← run_checkDirectory_eq_ok_iff s k m, HasFilter]
    cases LogFilter.ofText s.logFilter with
    | ok filter => simp [hsleep]
    | error e => cases e <;> simp

private theorem run_readFile (path : String) (k : Kernel σ) (m : Machine σ) :
    run k (readFile path).run m =
      match m.files.read path with
      | .error failure => (.returned (.error (.configuration (.unreadable failure))), m)
      | .ok bytes =>
        match String.fromUTF8? bytes with
        | some text => (.returned (.ok text), m)
        | none => (.returned (.error (.configuration (.unreadable .notText))), m) := by
  have hanswer : run k (perform (.readFile path)) m = (.returned (m.files.read path), m) := rfl
  rw [readFile, Fallible.run_lift_bind, hanswer]
  cases m.files.read path with
  | error failure => rfl
  | ok bytes => cases hbytes : String.fromUTF8? bytes <;> simp only [hbytes] <;> rfl

private theorem verdict_readFile (path : String) (torn : Prop) (k : Kernel σ) (m : Machine σ) :
    Launch.Verdict m (fun text => m.files.read path = .ok text.toUTF8) torn
      (run k (readFile path).run m) := by
  rw [run_readFile]
  cases m.files.read path with
  | error failure => exact .refused _
  | ok bytes =>
    dsimp only
    cases htext : String.fromUTF8? bytes with
    | none => exact .refused _
    | some text => exact .granted text (by rw [Text.eq_toUTF8_of_fromUTF8? htext])

/-- What a settings file gives is checked before anything is made of it. -/
theorem run_load (htext : m.files.read path = .ok text.toUTF8)
    (hgiven : ofDocument (Path.extension path) text = .ok given) :
    run k (load path).run m = run k (given.check >>= fun _ => pure given).run m := by
  rw [load, Fallible.run_bind, run_readFile, htext]
  simp only [Text.fromUTF8?_toUTF8, hgiven]
  rfl

private theorem verdict_load (path : String) (k : Kernel σ) (m : Machine σ) :
    Launch.Verdict m HasFilter (∃ text given, m.files.read path = .ok text.toUTF8 ∧
      ofDocument (Path.extension path) text = .ok given ∧
      LogFilter.ofText given.logFilter = .error .tornCharacter)
      (run k (load path).run m) := by
  rw [load]
  apply Launch.Verdict.bind (verdict_readFile path _ k m)
  intro text htext
  cases hgiven : ofDocument (Path.extension path) text with
  | error e => exact .refused e
  | ok given =>
    change Launch.Verdict m _ _ (run k (given.check >>= fun _ => pure given).run m)
    refine Launch.Verdict.bind ((given.verdict_check k m).mono (fun _ hfilter => hfilter) ?_)
      fun _ hfilter => .granted given hfilter
    intro htorn
    exact ⟨text, given, htext, hgiven, htorn⟩

private def unmasked (options : CommandLine.Options) : Launch Settings :=
  match options.settingsFile with
  | some path => load path
  | none => pure {}

private theorem ofOptions_eq (options : CommandLine.Options) :
    ofOptions options = unmasked options >>= fun base =>
      (options.overrides.fillFrom base).check >>= fun _ =>
        pure (options.overrides.fillFrom base) := by
  rw [ofOptions, unmasked]
  cases options.settingsFile with
  | none => rfl
  | some path => rfl

theorem sleepSeconds_of_run_check {final : Machine σ}
    (h : run k s.check.run m = (.returned (.ok ()), final)) :
    s.sleepSeconds ≠ 0 := by
  intro hzero
  rw [check_eq, if_pos hzero] at h
  cases h

private theorem run_check_bind_eq_ok {final : Machine σ} {result : Settings}
    (h : run k (s.check >>= fun _ => pure s).run m = (.returned (.ok result), final)) :
    result = s ∧ final = m ∧ run k s.check.run m = (.returned (.ok ()), m) := by
  obtain ⟨⟨⟩, m', hcheck, hresult⟩ := (Fallible.run_bind_eq_ok_iff k m).mp h
  obtain ⟨outcome, hsame⟩ := s.run_check k m
  obtain ⟨rfl, rfl⟩ := Prod.mk.inj (hsame.symm.trans hcheck)
  cases hresult
  exact ⟨rfl, rfl, hcheck⟩

private theorem run_load_eq_ok {final : Machine σ}
    (h : run k (load path).run m = (.returned (.ok given), final)) :
    final = m ∧ ∃ text, m.files.read path = .ok text.toUTF8 ∧
    ofDocument (Path.extension path) text = .ok given := by
  rw [load, Fallible.run_bind_eq_ok_iff] at h
  obtain ⟨text, m', htext, hrest⟩ := h
  have hread := verdict_readFile path True k m
  rw [htext] at hread
  cases hread with
  | granted value hvalue =>
    cases hdocument : ofDocument (Path.extension path) text with
    | error e =>
      rw [hdocument] at hrest
      cases hrest
    | ok found =>
      rw [hdocument] at hrest
      obtain ⟨rfl, rfl, -⟩ := run_check_bind_eq_ok (s := found) hrest
      exact ⟨rfl, text, hvalue, hdocument⟩

/-- Settings that options come to have been checked. They are made from what the settings file
gives, or from the default ones. -/
theorem run_ofOptions_eq_ok {final : Machine σ}
    (h : run k (ofOptions options).run m = (.returned (.ok s), final)) :
    final = m ∧ run k s.check.run m = (.returned (.ok ()), m) ∧ ∃ base,
      s = options.overrides.fillFrom base ∧
      (options.settingsFile = none ∧ base = {} ∨ ∃ path text, options.settingsFile = some path ∧
        m.files.read path = .ok text.toUTF8 ∧
        ofDocument (Path.extension path) text = .ok base) := by
  rw [ofOptions_eq, Fallible.run_bind_eq_ok_iff] at h
  obtain ⟨base, m', hbase, hrest⟩ := h
  obtain ⟨rfl, rfl, hcheck⟩ := run_check_bind_eq_ok hrest
  rw [unmasked] at hbase
  cases hfile : options.settingsFile with
  | none =>
    rw [hfile] at hbase
    cases hbase
    exact ⟨rfl, hcheck, {}, rfl, .inl ⟨rfl, rfl⟩⟩
  | some path =>
    rw [hfile] at hbase
    obtain ⟨rfl, text, htext, hgiven⟩ := run_load_eq_ok hbase
    exact ⟨rfl, hcheck, base, rfl, .inr ⟨path, text, rfl, htext, hgiven⟩⟩

/-- Some filter among the options or in the settings file has a torn character. -/
def Torn (options : CommandLine.Options) (files : FileSystem) : Prop :=
  ∃ filter, LogFilter.ofText filter = .error .tornCharacter ∧ (options.logFilter = some filter ∨
    ∃ path text given, options.settingsFile = some path ∧ files.read path = .ok text.toUTF8 ∧
      ofDocument (Path.extension path) text = .ok given ∧ given.logFilter = filter)

private theorem verdict_unmasked (options : CommandLine.Options) (k : Kernel σ) (m : Machine σ) :
    Launch.Verdict m HasFilter (Torn options m.files) (run k (unmasked options).run m) := by
  rw [unmasked]
  cases hfile : options.settingsFile with
  | none =>
    have hoff : HasFilter {} := ⟨_, rfl⟩
    exact Launch.Verdict.granted ({} : Settings) hoff
  | some path =>
    apply (verdict_load path k m).mono (fun _ hfilter => hfilter)
    rintro ⟨text, given, htext, hgiven, htorn⟩
    exact ⟨_, htorn, .inr ⟨path, text, given, hfile, htext, hgiven, rfl⟩⟩

private theorem torn_of_fillFrom {files : FileSystem} (hbase : base.HasFilter)
    (htorn : LogFilter.ofText (options.overrides.fillFrom base).logFilter = .error .tornCharacter) :
    Torn options files := by
  refine ⟨_, htorn, .inl ?_⟩
  cases hoption : options.logFilter with
  | some filter => simp [Draft.fillFrom, CommandLine.Options.overrides, hoption]
  | none =>
    obtain ⟨filter, hfilter⟩ := hbase
    have hsame : (options.overrides.fillFrom base).logFilter = base.logFilter := by
      simp [Draft.fillFrom, CommandLine.Options.overrides, hoption]
    rw [hsame, hfilter] at htorn
    cases htorn

theorem verdict_ofOptions (options : CommandLine.Options) (k : Kernel σ) (m : Machine σ) :
    Launch.Verdict m HasFilter (Torn options m.files) (run k (ofOptions options).run m) := by
  rw [ofOptions_eq]
  apply (verdict_unmasked options k m).bind
  intro base hbase
  have hcheck := (options.overrides.fillFrom base).verdict_check k m
  exact (hcheck.mono (fun _ hfilter => hfilter) (torn_of_fillFrom hbase)).bind fun _ hfilter =>
    .granted _ hfilter

/-- The log is set up with the filter and the sink of the settings, unless there is a log already. A
log file is opened all the same. -/
theorem run_startLog (s : Settings) (k : Kernel σ) (m : Machine σ) :
    run k s.startLog.run m =
      match LogFilter.ofText s.logFilter with
      | .error .tornCharacter => (.ended .fault, m)
      | .error e => (.returned (.error (.setting (.badFilter s.logFilter e))), m)
      | .ok filter =>
        match s.logFile with
        | none =>
          (.returned (.ok ()), { m with logger := some (m.logger.getD ⟨filter, .errorStream⟩) })
        | some path =>
          match m.files.openForAppend path with
          | .error failure => (.returned (.error (.configuration (.noLogFile path failure))), m)
          | .ok (place, files) =>
            (.returned (.ok ()),
              { m with files := files, logger := some (m.logger.getD ⟨filter, .file place⟩) }) := by
  have hinstall : ∀ (m : Machine σ) (logger : Logger),
      run k ((do
          if ← (liftM (perform .hasLogger) : Launch Bool) then return ()
          else perform (.installLogger logger)) : Launch Unit).run m =
        (.returned (.ok ()), { m with logger := some (m.logger.getD logger) }) := by
    intro m logger
    rw [Fallible.run_lift_bind, perform, run_call, run_done, Machine.perform]
    cases hlogger : m.logger with
    | none => rfl
    | some standing =>
      have hsame : m = { m with logger := some standing } := by rw [← hlogger]
      rw [Option.getD_some, ← hsame]
      rfl
  rw [startLog, LogFilter.run_read_bind]
  cases LogFilter.ofText s.logFilter with
  | error e => cases e <;> rfl
  | ok filter =>
    dsimp only
    rw [Fallible.run_bind, openSink]
    cases s.logFile with
    | none => exact hinstall m ⟨filter, .errorStream⟩
    | some path =>
      simp only
      rw [Fallible.run_lift_bind, perform, run_call, run_done, Machine.perform]
      cases m.files.openForAppend path with
      | error failure => rfl
      | ok opened => exact hinstall { m with files := opened.2 } ⟨filter, .file opened.1⟩

theorem run_startLog_eq_ok {final : Machine σ}
    (h : run k s.startLog.run m = (.returned (.ok ()), final)) :
    ∃ filter, LogFilter.ofText s.logFilter = .ok filter ∧
      (s.logFile = none ∧ final = { m with logger := some (m.logger.getD ⟨filter, .errorStream⟩) } ∨
        ∃ path place files, s.logFile = some path ∧
          m.files.openForAppend path = .ok (place, files) ∧
          final =
            { m with files := files, logger := some (m.logger.getD ⟨filter, .file place⟩) }) := by
  rw [run_startLog] at h
  cases hfilter : LogFilter.ofText s.logFilter with
  | error e => cases e <;> simp [hfilter] at h
  | ok filter =>
    refine ⟨filter, rfl, ?_⟩
    cases hpath : s.logFile with
    | none =>
      simp only [hfilter, hpath, Prod.mk.injEq, true_and] at h
      exact .inl ⟨rfl, h.symm⟩
    | some path =>
      cases hopen : m.files.openForAppend path with
      | error failure => simp [hfilter, hpath, hopen] at h
      | ok opened =>
        simp only [hfilter, hpath, hopen, Prod.mk.injEq, true_and] at h
        exact .inr ⟨path, opened.1, opened.2, rfl, hopen, h.symm⟩

private theorem run_startLog_cases {filter : LogFilter}
    (hfilter : LogFilter.ofText s.logFilter = .ok filter) (k : Kernel σ) (m : Machine σ) :
    (∃ e files, run k s.startLog.run m = (.returned (.error e), { m with files := files })) ∨
      ∃ sink files, (s.logFile.isSome → sink ≠ .errorStream) ∧
        run k s.startLog.run m =
          (.returned (.ok ()),
            { m with files := files, logger := some (m.logger.getD ⟨filter, sink⟩) }) := by
  rw [run_startLog, hfilter]
  cases s.logFile with
  | none => exact .inr ⟨.errorStream, m.files, by simp, rfl⟩
  | some path =>
    dsimp only
    cases m.files.openForAppend path with
    | error failure => exact .inl ⟨_, m.files, rfl⟩
    | ok opened => exact .inr ⟨.file opened.1, opened.2, by simp, rfl⟩

/-- The settings that options ask for, with the log started. -/
def prepared (options : CommandLine.Options) : Launch Settings := do
  let settings ← ofOptions options
  settings.startLog
  return settings

/-- Preparing breaks off only at a filter with a torn character. Otherwise it changes the files and
the log at most, and when it succeeds the log is the one of the settings, unless there has been one
before. -/
theorem run_prepared_cases (options : CommandLine.Options) (k : Kernel σ) (m : Machine σ) :
    (∃ e files, run k (prepared options).run m =
      (.returned (.error e), { m with files := files })) ∨
      (∃ settings filter sink files, LogFilter.ofText settings.logFilter = .ok filter ∧
        (settings.logFile.isSome → sink ≠ .errorStream) ∧
        run k (prepared options).run m =
          (.returned (.ok settings),
            { m with files := files, logger := some (m.logger.getD ⟨filter, sink⟩) })) ∨
      Torn options m.files ∧ run k (prepared options).run m = (.ended .fault, m) := by
  rw [prepared, Fallible.run_bind]
  have hoptions := verdict_ofOptions options k m
  generalize run k (ofOptions options).run m = ran at hoptions
  cases hoptions with
  | refused e => exact .inl ⟨e, m.files, rfl⟩
  | brokenOff htorn => exact .inr (.inr ⟨htorn, rfl⟩)
  | granted settings hgood =>
    obtain ⟨filter, hfilter⟩ := hgood
    dsimp only
    rw [Fallible.run_bind]
    obtain ⟨e, files, hrefused⟩ | ⟨sink, files, hsink, hstarted⟩ := run_startLog_cases hfilter k m
    · rw [hrefused]
      exact .inl ⟨e, files, rfl⟩
    · rw [hstarted]
      exact .inr (.inl ⟨settings, filter, sink, files, hfilter, hsink, rfl⟩)

end Settings

end DaemonLaunch
