import DaemonLaunch.FileSystem.Growth
import DaemonLaunch.Proofs.LoggedRuns
import DaemonLaunch.Proofs.Observation

/-!
The log of a launch that goes to a file. The file only grows by lines of the launch, whatever fails.
A daemon that succeeds writes the same lines whether or not it detaches its standard streams and
changes to the root directory, and none of them to a standard stream.
-/

namespace DaemonLaunch

open Activity

/-- A call that starts a log. -/
def Call.StartsLog (c : Call) : Prop := c.Among [.logging]

theorem Settings.only_startLog (s : Settings) : s.startLog.run.Only Call.StartsLog := by
  have hsink : s.openSink.run.Only Call.StartsLog := by
    rw [openSink]
    cases s.logFile with
    | none => trivial
    | some path =>
      apply Only.except_bind (Only.lift (Only.perform (by rfl)))
      intro opened
      cases opened with
      | ok place => trivial
      | error failure => trivial
  apply Only.except_bind (LogFilter.only_read _ _)
  intro filter
  apply Only.except_bind hsink
  intro sink
  apply Only.except_bind (Only.lift (Only.perform (by rfl)))
  intro standing
  cases standing with
  | true => trivial
  | false => exact Only.lift (Only.perform (by rfl))

/-- A launch that starts its log first. -/
def launchLogged (settings : Settings) : Launch Unit := do
  settings.startLog
  launchSleeper settings

theorem Call.Parts.sparesFiles {c : Call} (hc : c.Parts) : c.SparesFiles := hc.mono (by decide)

theorem Call.Dwells.sparesFiles {c : Call} (hc : c.Dwells) : c.SparesFiles := hc.mono (by decide)

theorem Call.Adjusts.keeps {c : Call} (hc : c.Adjusts) (m : Machine Script) :
    (m.perform Script.kernel c).2.system = m.system ∧
      (m.perform Script.kernel c).2.now = m.now := by
  cases c with
  | ask request =>
    refine ⟨?_, m.ask_now Script.kernel request⟩
    rw [Machine.perform, Machine.ask_system]
    cases request with
    | openNull => rfl
    | redirect stream => rfl
    | enterDirectory path => rfl
    | _ => cases hc
  | _ => cases hc

/-- If the launch succeeds, it has these notes. -/
def Launch.Tells (p : Launch Unit) (m : Machine Script) (told : List Note) : Prop :=
  ∀ final, run Script.kernel p.run m = (.returned (.ok ()), final) →
    notes Script.kernel p.run m = told

theorem Launch.Tells.after {p q : Launch Unit} {m : Machine Script} {told : List Note}
    (hp : p.run.Only Call.Adjusts)
    (hq : ∀ m' : Machine Script, m'.system = m.system → m'.now = m.now → Tells q m' told) :
    Tells (p >>= fun _ => q) m told := by
  intro final hrun
  obtain ⟨⟨⟩, adjusted, hfirst, hrest⟩ := (Fallible.run_bind_eq_ok_iff _ _).mp hrun
  let Kept (m' : Machine Script) : Prop := m'.system = m.system ∧ m'.now = m.now
  have hkeeps : ∀ m' c, c.Adjusts → Kept m' → Kept (m'.perform Script.kernel c).2 :=
    fun m' c hc h =>
    ⟨(hc.keeps m').1.trans h.1, (hc.keeps m').2.trans h.2⟩
  have hkept : Kept (run Script.kernel p.run m).2 := hp.run_keeps hkeeps ⟨rfl, rfl⟩
  rw [hfirst] at hkept
  rw [Fallible.notes_bind_of_ok _ _ hfirst, hp.notes_eq_nil Script.kernel m fun _ => nofun]
  exact hq adjusted hkept.1 hkept.2 final hrest

namespace Sleeper

/-- What a daemon that sleeps for a span gives to the log from a time on. -/
def diary (self : Pid) (now span : Span) : List Note :=
  [⟨now, .info, "doublefork::cli", "Daemon " ++ self.unsignedText ++ " started"⟩,
    ⟨now, .info, "doublefork::daemon::workload",
      "Daemon " ++ self.unsignedText ++ " sleeping for " ++ toString span.seconds ++ "s"⟩,
    ⟨⟨now.nanoseconds + span.nanoseconds⟩, .info, "doublefork::daemon::workload",
      "Daemon " ++ self.unsignedText ++ " finished sleeping"⟩]

/-- What a daemon gives to the log if nothing fails, from its launch on: the session that it was put
in, and what it does then. -/
def chronicle (session self : Pid) (span : Span) : List Note :=
  ⟨⟨0⟩, .debug, "doublefork::daemon::daemonize",
    "Started new session " ++ session.text⟩ :: diary self ⟨0⟩ span

private theorem notes_nap (span : Span) (m : Machine Script) :
    notes Script.kernel (nap span) m = (diary m.system.self m.now span).tail := by
  let asked := (m.ask Script.kernel .ownId).2
  let noted := asked.emit ⟨.info, "doublefork::daemon::workload",
    "Daemon " ++ m.system.self.unsignedText ++ " sleeping for " ++ toString span.seconds ++ "s"⟩
  have hnotes : notes Script.kernel (nap span) m =
      [⟨m.now, .info, "doublefork::daemon::workload",
          "Daemon " ++ m.system.self.unsignedText ++ " sleeping for " ++ toString span.seconds ++
            "s"⟩,
        ⟨⟨noted.now.nanoseconds + span.nanoseconds⟩, .info, "doublefork::daemon::workload",
          "Daemon " ++ noted.system.self.unsignedText ++ " finished sleeping"⟩] := rfl
  rw [hnotes, asked.emit_now, asked.emit_system]
  rfl

private def settle (settings : Settings) : Launch Unit := do
  if settings.detachStreams then Launch.detachStreams
  if settings.enterRoot then Launch.enterRoot
  nap settings.sleepSpan

private theorem tells_settle (settings : Settings) (m : Machine Script) :
    Launch.Tells (settle settings) m (diary m.system.self m.now settings.sleepSpan).tail := by
  -- as in the text of the daemon, what follows a switch stands in both of its branches
  let napping : Launch Unit := liftM (nap settings.sleepSpan)
  let told := (diary m.system.self m.now settings.sleepSpan).tail
  have hnap : ∀ m' : Machine Script, m'.system = m.system → m'.now = m.now →
      Launch.Tells napping m' told := by
    intro m' hsystem hnow _ _
    rw [Fallible.notes_lift, notes_nap, hsystem, hnow]
  have hroot : ∀ m' : Machine Script, m'.system = m.system → m'.now = m.now →
      Launch.Tells
        (if settings.enterRoot then Launch.enterRoot >>= fun _ => napping else napping)
        m' told := by
    intro m' hsystem hnow
    cases settings.enterRoot with
    | false => exact hnap m' hsystem hnow
    | true =>
      apply Launch.Tells.after Launch.only_enterRoot
      intro rooted hsystem' hnow'
      exact hnap rooted (hsystem'.trans hsystem) (hnow'.trans hnow)
  rw [settle]
  cases settings.detachStreams with
  | false => exact hroot m rfl rfl
  | true => exact Launch.Tells.after Launch.only_detachStreams hroot

private theorem tells_dwell (settings : Settings) (m : Machine Script) :
    Launch.Tells (dwell settings) m (diary m.system.self m.now settings.sleepSpan) := by
  intro final hrun
  obtain ⟨event, hran, hnotes⟩ : ∃ event,
      run Script.kernel (dwell settings).run m =
        run Script.kernel (settle settings).run ((m.ask Script.kernel .ownId).2.emit event) ∧
      notes Script.kernel (dwell settings).run m =
        ⟨m.now, .info, "doublefork::cli", "Daemon " ++ m.system.self.unsignedText ++ " started"⟩ ::
          notes Script.kernel (settle settings).run ((m.ask Script.kernel .ownId).2.emit event) :=
            ⟨_, rfl, rfl⟩
  rw [hran] at hrun
  rw [hnotes, tells_settle settings _ final hrun, Machine.emit_system, Machine.emit_now]
  rfl

end Sleeper

namespace Generation

private theorem notes_fork (stage : ForkStage) (m : Machine Script) :
    notes Script.kernel (fork stage).run m = [] := by
  rw [fork, Fallible.notes_ask_bind]
  cases (m.ask Script.kernel .fork).1 with
  | error code => rfl
  | ok forked =>
    cases forked with
    | parent child => rfl
    | child => rfl

private def led (m : Machine Script) : Machine Script :=
  (m.served m.system [⟨m.now, .asked .newSession⟩]).emit ⟨.debug, logTarget,
    "Started new session " ++ m.system.self.text⟩

private theorem lead_of_session {m : Machine Script} (hsession : m.system.newSessionError = none) :
    run Script.kernel lead.run m = run Script.kernel part.run (led m) ∧
      notes Script.kernel lead.run m =
        ⟨m.now, .debug, logTarget, "Started new session " ++ m.system.self.text⟩ ::
          notes Script.kernel part.run (led m) := by
  rw [lead, Fallible.run_ask_bind, Fallible.notes_ask_bind, Machine.ask_eq_served _ _ _ (by simp),
    Script.serve_newSession, hsession, Script.orFail, Launch.accept_ok, pure_bind]
  exact ⟨rfl, rfl⟩

private theorem detach_of_daemon {m : Machine Script} {p d : Pid} {later : List ForkOutcome}
    (hforks : m.system.forks = .child p :: .child d :: later)
    (hsession : m.system.newSessionError = none) :
    ∃ daemon, run Script.kernel detach.run m = (.returned (.ok .daemon), daemon) ∧
      daemon.system.self = d ∧ daemon.now = m.now ∧
      notes Script.kernel detach.run m =
        [⟨m.now, .debug, logTarget, "Started new session " ++ p.text⟩] := by
  have hfirst : Script.nextFork m.system.forks = .child p := congrArg Script.nextFork hforks
  let child := parted m p m.system.forks.tail
  obtain ⟨hlead, hnotes⟩ := lead_of_session (m := child) hsession
  have hsecond : Script.nextFork (led child).system.forks = .child d := by
    rw [led, Machine.emit_system]
    exact congrArg (fun forks => Script.nextFork forks.tail) hforks
  have hpart : notes Script.kernel part.run (led child) = [] := by
    rw [part, Fallible.notes_bind, notes_fork, run_fork, hsecond]
    rfl
  refine ⟨parted (led child) d (led child).system.forks.tail, ?_, rfl, ?_, ?_⟩
  · rw [run_detach_child m hfirst, hlead, run_part_child _ hsecond]
  · exact Machine.emit_now _ _
  · rw [detach, Fallible.notes_bind, notes_fork, run_fork, hfirst]
    change [] ++ notes Script.kernel lead.run child = _
    rw [hnotes, hpart]
    rfl

end Generation

namespace Sleeper

private theorem tells_launchSleeper (settings : Settings) {m : Machine Script} {p d : Pid}
    {later : List ForkOutcome} (hforks : m.system.forks = .child p :: .child d :: later)
    (hsession : m.system.newSessionError = none) :
    Launch.Tells (launchSleeper settings) m
      (⟨m.now, .debug, "doublefork::daemon::daemonize", "Started new session " ++ p.text⟩ ::
        diary d m.now settings.sleepSpan) := by
  intro final hrun
  obtain ⟨daemon, hdetach, hself, hnow, hnotes⟩ := Generation.detach_of_daemon hforks hsession
  have hdwell : run Script.kernel (dwell settings).run daemon = (.returned (.ok ()), final) := by
    rw [launchSleeper, Fallible.run_bind, hdetach] at hrun
    exact hrun
  have htold := tells_dwell settings daemon final hdwell
  rw [hself, hnow] at htold
  rw [launchSleeper, Fallible.notes_bind_of_ok _ _ hdetach, hnotes]
  change _ ++ notes Script.kernel (dwell settings).run daemon = _
  rw [htold]
  rfl

private theorem only_play_leader (settings : Settings) (daemon : Pid) :
    (play settings (.leader daemon)).run.Only Call.SparesFiles := by
  rw [play_leader]
  exact ⟨rfl, fun _ => ⟨rfl, fun _ => trivial⟩⟩

theorem only_launchSleeper (settings : Settings) :
    (launchSleeper settings).run.Only Call.SparesFiles := by
  apply Only.except_bind (Generation.only_detach.mono fun _ => Call.Parts.sparesFiles)
  intro generation
  cases generation with
  | launcher child => exact Only.except_bind (Only.lift (Only.perform (by rfl))) fun _ => trivial
  | leader daemon => exact only_play_leader settings daemon
  | daemon => exact (only_dwell settings).mono fun _ => Call.Dwells.sparesFiles

end Sleeper

variable {settings : Settings} {s : Script} {filter : LogFilter} {path : String}
  {files opened : FileSystem} {place : Location}
  {p d : Pid} {later : List ForkOutcome}

private theorem launchSleeper_of_fine (files : FileSystem) {logger : Logger}
    (hsilent : logger.IsSilent) (hforks : s.forks = .child p :: .child d :: later)
    (hfine : ∀ step ∈ Sleeper.course settings, s.failure? step = none) :
    ∃ final, run Script.kernel (launchSleeper settings).run (.fresh s files logger) =
        (.returned (.ok ()), final) ∧
      notes Script.kernel (launchSleeper settings).run (.fresh s files logger) =
        Sleeper.chronicle p d settings.sleepSpan ∧
      final.output = [] := by
  let start : Machine Script := .fresh s files logger
  have hsession : s.newSessionError = none := by
    simpa [Script.failure?] using hfine (.asked .newSession) (by simp [Sleeper.course])
  have hgeneration : s.generation = .ok .daemon := by
    simp [Script.generation, hforks, hsession, Script.nextFork]
  have hpasses : Passes start (Sleeper.course settings)
      (run Script.kernel (launchSleeper settings).run start) :=
    Sleeper.passes_launchSleeper settings hforks
  obtain ⟨result, final, hrun, hok, -, -⟩ := hpasses.of_fresh
  rw [hok.mpr hfine] at hrun
  have hsilents : ∀ l, some logger = some l → l.IsSilent := by
    rintro l ⟨⟩
    exact hsilent
  have hshows := Program.shows_of_daemon hsilents settings files hgeneration
  rw [hrun] at hshows
  exact ⟨final, hrun, Sleeper.tells_launchSleeper settings hforks hsession final hrun,
    hshows.output⟩

private theorem launchLogged_of_opened (settings : Settings) (s : Script)
    (hfilter : LogFilter.ofText settings.logFilter = .ok filter)
    (hpath : settings.logFile = some path)
    (hopen : files.openForAppend path = .ok (place, opened)) :
    let started : Machine Script := .fresh s opened (some ⟨filter, .file place⟩)
    run Script.kernel (launchLogged settings).run (.fresh s files none) =
      run Script.kernel (launchSleeper settings).run started ∧
      notes Script.kernel (launchLogged settings).run (.fresh s files none) =
        notes Script.kernel (launchSleeper settings).run started := by
  intro started
  have hstart : run Script.kernel settings.startLog.run (.fresh s files none) =
      (.returned (.ok ()), started) := by
    simp only [Settings.run_startLog, hfilter, hpath, Machine.fresh, hopen]
    rfl
  constructor
  · rw [launchLogged, Fallible.run_bind, hstart]
  · rw [launchLogged, Fallible.notes_bind_of_ok _ _ hstart,
      settings.only_startLog.notes_eq_nil _ _ fun _ => nofun, List.nil_append]

/-- Where the log goes to a file, a launch adds the lines of its notes to what the file held,
whatever fails; no other file changes and standard error stays empty. A daemon of which no step
fails returns; its notes are the same whether or not it detaches its streams and changes to the root
directory, and standard output stays empty too. -/
theorem log_grows_across_detachment (settings : Settings)
    (hfilter : LogFilter.ofText settings.logFilter = .ok filter)
    (hpath : settings.logFile = some path)
    (hopen : files.openForAppend path = .ok (place, opened)) :
    ∃ earlier, opened.read path = .ok earlier ∧
      (files.node? place = some (.file earlier) ∨ files.node? place = none ∧ earlier = .empty) ∧
      ∀ (s : Script) (detachStreams enterRoot : Bool),
        let varied := { settings with detachStreams := detachStreams, enterRoot := enterRoot }
        let told := notes Script.kernel (launchLogged varied).run (.fresh s files none)
        ∃ outcome final, run Script.kernel (launchLogged varied).run (.fresh s files none) =
            (outcome, final) ∧
          final.files.read path = .ok (earlier ++ (filter.lines told).toUTF8) ∧
          (∀ other, other ≠ place → final.files.node? other = opened.node? other) ∧
          final.complaints = "" ∧
          ∀ p d later, s.forks = .child p :: .child d :: later →
            (∀ step ∈ Sleeper.course varied, s.failure? step = none) →
            outcome = .returned (.ok ()) ∧ told = Sleeper.chronicle p d settings.sleepSpan ∧
            final.output = [] := by
  obtain ⟨hreaches, earlier, hnode, hearlier⟩ := FileSystem.exists_opened hopen
  refine ⟨earlier, (opened.read_eq_ok_iff path earlier).mpr ⟨place, hreaches, hnode⟩, hearlier, ?_⟩
  intro s detachStreams enterRoot varied told
  let started : Machine Script := .fresh s opened (some ⟨filter, .file place⟩)
  have hstarted : started.LogsTo opened filter place earlier :=
    ⟨rfl, hnode, .refl opened, fun _ _ => rfl, rfl⟩
  have hlogs := hstarted.run (k := Script.kernel) (Sleeper.only_launchSleeper varied)
  obtain ⟨hrun, htold⟩ := launchLogged_of_opened varied s hfilter hpath hopen
  rw [← hrun, ← htold] at hlogs
  refine ⟨_, _, rfl, hlogs.read hreaches, hlogs.others, hlogs.complaints, ?_⟩
  intro p d later hforks hfine
  have hsilent : Logger.IsSilent ⟨filter, .file place⟩ := .inl nofun
  obtain ⟨final, hlaunch, htells, houtput⟩ := launchSleeper_of_fine opened hsilent hforks hfine
  have hreturned := hrun.trans hlaunch
  refine ⟨congrArg Prod.fst hreturned, htold.trans htells, ?_⟩
  rw [hreturned]
  exact houtput

/-- A daemon appends to a file that has a line already. -/
theorem log_grows_across_detachment_of_info :
    let settings : Settings :=
      { sleepSeconds := 5, enterRoot := true, logFilter := "info", logFile := some "d.log" }
    let s : Script := { forks := [.child ⟨5⟩, .child ⟨6⟩] }
    let files := FileSystem.put {} ["d.log"] (.file "up\n".toUTF8)
    ∃ final, run Script.kernel (launchLogged settings).run (.fresh s files none) =
        (.returned (.ok ()), final) ∧
      final.output = [] ∧ final.complaints = "" ∧
      final.files.read "d.log" = .ok ("up\n".toUTF8 ++
        ("1970-01-01T00:00:00.000000Z  INFO Daemon 6 started\n" ++
        "1970-01-01T00:00:00.000000Z  INFO Daemon 6 sleeping for 5s\n" ++
        "1970-01-01T00:00:05.000000Z  INFO Daemon 6 finished sleeping\n").toUTF8) := by
  intro settings s files
  let filter : LogFilter := ⟨[{ threshold := some .info }]⟩
  have hopen : files.openForAppend "d.log" = .ok (["d.log"], files) := rfl
  have hlines : filter.lines (Sleeper.chronicle ⟨5⟩ ⟨6⟩ settings.sleepSpan) =
      "1970-01-01T00:00:00.000000Z  INFO Daemon 6 started\n" ++
        "1970-01-01T00:00:00.000000Z  INFO Daemon 6 sleeping for 5s\n" ++
        "1970-01-01T00:00:05.000000Z  INFO Daemon 6 finished sleeping\n" := by
    decide +kernel
  have hfilter : LogFilter.ofText "info" = .ok filter := by rfl
  obtain ⟨earlier, hearlier, -, hgrows⟩ := log_grows_across_detachment settings hfilter rfl hopen
  have hread : files.read "d.log" = .ok "up\n".toUTF8 := rfl
  obtain ⟨outcome, final, hrun, hfile, -, hcomplaints, hdaemon⟩ := hgrows s true true
  obtain ⟨houtcome, htold, houtput⟩ := hdaemon ⟨5⟩ ⟨6⟩ [] rfl (by decide)
  rw [hread] at hearlier
  rw [htold, hlines, ← Except.ok.inj hearlier] at hfile
  rw [houtcome] at hrun
  exact ⟨final, hrun, houtput, hcomplaints, hfile⟩

end DaemonLaunch
