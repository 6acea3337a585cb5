import DaemonLaunch.Program
import DaemonLaunch.Proofs.FailStop
import DaemonLaunch.Proofs.OneDaemon
import DaemonLaunch.Proofs.Preparing

/-!
What others see of the program: its status and what it leaves on the standard streams, for every
command line and every course that the launch takes.
-/

namespace DaemonLaunch

open Activity

/-- A logger that writes nothing to standard error. -/
def Logger.IsSilent (logger : Logger) : Prop :=
  logger.sink ≠ .errorStream ∨ ∀ level target, logger.filter.admits level target = false

namespace LogFilter

private def moreDecisive (best : Option Directive) (d : Directive) : Option Directive :=
  match best with
  | none => some d
  | some first => if first.yieldsTo d then some d else some first

private theorem moreDecisive_cases (best : Option Directive) (d : Directive) :
    moreDecisive best d = some d ∨ moreDecisive best d = best := by
  cases best with
  | none => exact .inl rfl
  | some first =>
    rw [moreDecisive]
    split
    · exact .inl rfl
    · exact .inr rfl

private theorem mem_of_foldl {directives : List Directive} {best : Option Directive} {d : Directive}
    (h : directives.foldl moreDecisive best = some d) : d ∈ directives ∨ best = some d := by
  induction directives generalizing best with
  | nil => exact .inr h
  | cons first directives ih =>
    obtain hmem | hbest := ih h
    · exact .inl (List.mem_cons_of_mem _ hmem)
    · obtain hfirst | hsame := moreDecisive_cases best first
      · rw [hfirst] at hbest
        cases hbest
        exact .inl List.mem_cons_self
      · rw [hsame] at hbest
        exact .inr hbest

private theorem mem_of_decisive {filter : LogFilter} {target : String} {d : Directive}
    (h : filter.decisive target = some d) :
    d ∈ filter.directives := by
  have hfold : filter.decisive target =
      (filter.directives.filter (·.concerns target.toList)).foldl moreDecisive none := rfl
  rw [hfold] at h
  obtain hmem | hnone := mem_of_foldl h
  · exact (List.mem_filter.mp hmem).1
  · cases hnone

theorem admits_of_off {filter : LogFilter} (hoff : ∀ d ∈ filter.directives, d.threshold = none)
    (level : Level) (target : String) :
    filter.admits level target = false := by
  rw [admits]
  split
  · next d hdecisive =>
    rw [hoff d (mem_of_decisive hdecisive)]
    rfl
  · rfl

end LogFilter

/-- With these settings the log leaves standard error alone. -/
def Settings.LogsSilently (s : Settings) : Prop :=
  s.logFile.isSome ∨ ∃ filter, LogFilter.ofText s.logFilter = .ok filter ∧ ∀ level target,
    filter.admits level target = false

theorem Settings.LogsSilently.isSilent {s : Settings} (h : s.LogsSilently) {filter : LogFilter}
    {sink : LogSink} (hfilter : LogFilter.ofText s.logFilter = .ok filter)
    (hsink : s.logFile.isSome → sink ≠ .errorStream) :
    Logger.IsSilent ⟨filter, sink⟩ := by
  obtain hfile | ⟨filter', hfilter', hnone⟩ := h
  · exact .inl (hsink hfile)
  · rw [hfilter] at hfilter'
    cases hfilter'
    exact .inr hnone

/-- A call that writes to the log at most. -/
def Call.IsMute (c : Call) : Prop := c.Among (Kind.requests ++ [.sleeping, .noting])

theorem Call.Dwells.isMute {c : Call} (hc : c.Dwells) : c.IsMute := hc.mono (by decide)

/-- What a machine has on its standard streams, where the log adds nothing to it. -/
structure Machine.Shows {σ : Type} (m : Machine σ) (printed : List UInt8) (complained : String) :
    Prop where
  output : m.output = printed
  complaints : m.complaints = complained
  silent : ∀ logger, m.logger = some logger → logger.IsSilent

namespace Machine.Shows

variable {σ : Type} {k : Kernel σ} {m : Machine σ} {printed : List UInt8} {complained : String}

theorem emit (h : m.Shows printed complained) (event : LogEvent) :
    (m.emit event).Shows printed complained := by
  rw [Machine.emit]
  split
  · exact h
  · next logger hlogger =>
    split
    · next hadmits =>
      split
      · next hsink =>
        obtain hfile | hnone := h.silent logger hlogger
        · exact absurd hsink hfile
        · rw [hnone] at hadmits
          cases hadmits
      · exact ⟨h.output, h.complaints, h.silent⟩
    · exact h

theorem perform (h : m.Shows printed complained) {c : Call} (hc : c.IsMute) :
    (m.perform k c).2.Shows printed complained := by
  cases c with
  | ask request =>
    obtain ⟨detached, hasked⟩ := m.ask_eq k request
    rw [Machine.perform, hasked]
    exact ⟨h.output, h.complaints, h.silent⟩
  | sleep span => exact ⟨h.output, h.complaints, h.silent⟩
  | emit event => exact h.emit event
  | _ => cases hc

theorem run (h : m.Shows printed complained) {α : Type} {p : Activity α} (hp : p.Only Call.IsMute) :
    (Activity.run k p m).2.Shows printed complained := by
  let Kept (m : Machine σ) : Prop := m.Shows printed complained
  have hkeeps : ∀ m c, c.IsMute → Kept m → Kept (m.perform k c).2 := fun m c hc h => h.perform hc
  exact hp.run_keeps hkeeps h

end Machine.Shows

/-- A call that is made until the generations are parted. -/
def Call.Parts (c : Call) : Prop := c.Among [.parting, .noting]

namespace Call.Parts

theorem isMute {c : Call} (hc : c.Parts) : c.IsMute := hc.mono (by decide)

theorem detached {σ : Type} {k : Kernel σ} {m : Machine σ} {c : Call} (hc : c.Parts) :
    (m.perform k c).2.detached = m.detached := by
  cases c with
  | ask request =>
    have hasked := m.ask_eq_served k request (by rintro stream rfl; cases hc)
    rw [Machine.perform, hasked]
    rfl
  | emit event => exact m.emit_detached event
  | _ => cases hc

end Call.Parts

namespace Generation

private theorem only_fork (stage : ForkStage) : (fork stage).run.Only Call.Parts := by
  apply Launch.only_request _ (by rfl)
  intro reply
  apply Only.except_bind (Launch.only_accept _ reply)
  intro forked
  cases forked with
  | parent child => trivial
  | child => trivial

private theorem only_part : part.run.Only Call.Parts := by
  apply Only.except_bind (only_fork .second)
  intro forked
  cases forked with
  | some child => exact Only.except_bind (Only.lift (Only.perform (by rfl))) fun _ => trivial
  | none => trivial

private theorem only_lead : lead.run.Only Call.Parts := by
  apply Launch.only_request _ (by rfl)
  intro reply
  apply Only.except_bind (Launch.only_accept _ reply)
  intro session
  exact Only.except_bind (Only.lift (Only.perform (by rfl))) fun _ => only_part

theorem only_detach : detach.run.Only Call.Parts := by
  apply Only.except_bind (only_fork .first)
  intro forked
  cases forked with
  | some child => exact Only.except_bind (Only.lift (Only.perform (by rfl))) fun _ => trivial
  | none => exact only_lead

theorem run_detach_attached (m : Machine Script) :
    ∃ parted, run Script.kernel detach.run m = (.returned m.system.generation, parted) ∧
      parted.detached = m.detached := by
  obtain ⟨parted, hrun⟩ := run_detach m
  let Kept (m' : Machine Script) : Prop := m'.detached = m.detached
  have hkeeps : ∀ m' c, c.Parts → Kept m' → Kept (m'.perform Script.kernel c).2 :=
    fun m' c hc h => hc.detached.trans h
  have hdetached : Kept (run Script.kernel detach.run m).2 := only_detach.run_keeps hkeeps rfl
  rw [hrun] at hdetached
  exact ⟨parted, hrun, hdetached⟩

end Generation

theorem Script.forks_of_daemon {s : Script} (h : s.generation = .ok .daemon) :
    s.newSessionError = none ∧ ∃ p d later, s.forks = .child p :: .child d :: later := by
  rw [generation] at h
  rcases hforks : s.forks with _ | ⟨⟨child⟩ | ⟨p⟩ | ⟨code⟩, forks⟩
  case cons.child =>
    rw [hforks] at h
    cases hsession : s.newSessionError with
    | some code => simp [hsession, nextFork] at h
    | none =>
      rcases forks with _ | ⟨⟨daemon⟩ | ⟨d⟩ | ⟨code⟩, later⟩
      case cons.child => exact ⟨rfl, p, d, later, rfl⟩
      all_goals simp [hsession, nextFork] at h
  all_goals simp [hforks, nextFork] at h

namespace Sleeper

variable {settings : Settings} {s : Script} {files : FileSystem} {logger : Option Logger}

private theorem exists_parted (settings : Settings) (s : Script) (files : FileSystem)
    (logger : Option Logger) :
    let ran := run Script.kernel (launchSleeper settings).run (.fresh s files logger)
    ∃ parted : Machine Script, parted.detached = [] ∧
      ((∀ l, logger = some l → l.IsSilent) → parted.Shows [] "") ∧
      (∀ generation, s.generation = .ok generation →
      ran = run Script.kernel (play settings generation).run parted) ∧
      ∀ e, s.generation = .error e → ran = (.returned (.error e), parted) := by
  intro ran
  let start : Machine Script := .fresh s files logger
  obtain ⟨parted, hdetach, hattached⟩ := Generation.run_detach_attached start
  have hran : ran = run Script.kernel (Generation.detach >>= play settings).run start := by rfl
  rw [Fallible.run_bind, hdetach] at hran
  refine ⟨parted, hattached, ?_, ?_, ?_⟩
  · intro hsilent
    have hstart : start.Shows [] "" := ⟨rfl, rfl, hsilent⟩
    have hparted :=
      hstart.run (k := Script.kernel) (Generation.only_detach.mono fun _ hc => hc.isMute)
    rwa [hdetach] at hparted
  · intro generation hgeneration
    have hsame : start.system.generation = .ok generation := hgeneration
    rw [hran, hsame]
  · intro e herror
    have hsame : start.system.generation = .error e := herror
    rw [hran, hsame]

private theorem run_play_leader {m : Machine Script} (daemon : Pid) (hattached : m.detached = []) :
    run Script.kernel (play settings (.leader daemon)).run m =
      (.ended (.exit 0), { m with output := m.output ++ Announcement.line daemon }) := by
  have hprint : ∀ bytes, m.print bytes = { m with output := m.output ++ bytes } := by
    intro bytes
    rw [Machine.print, hattached]
    exact if_neg List.not_mem_nil
  rw [play_leader, ← Announcement.text_append_end, ← hprint, ← Machine.print_print]
  rfl

private theorem run_daemon (settings : Settings) (files : FileSystem) (logger : Option Logger)
    (hdaemon : s.generation = .ok .daemon) :
    ∃ result final, run Script.kernel (launchSleeper settings).run (.fresh s files logger) =
        (.returned result, final) ∧
      ((∀ step ∈ adjustments settings, s.failure? step = none) → result = .ok ()) ∧
      ∀ before step after e, adjustments settings = before ++ step :: after →
        (∀ earlier ∈ before, s.failure? earlier = none) →
        s.failure? step = some e → result = .error e ∧
          (Stream.error ∈ final.detached ↔ .asked (.redirect .error) ∈ before) := by
  obtain ⟨hsession, p, d, later, hforks⟩ := Script.forks_of_daemon hdaemon
  have hpasses := passes_launchSleeper settings (m := .fresh s files logger) hforks
  obtain ⟨result, final, hrun, hok, -, hfailed⟩ := hpasses.of_fresh
  have hparting : ∀ step ∈ [.asked .fork, .asked .newSession, .asked .fork],
      s.failure? step = none := by
    simp [Script.failure?, hsession]
  refine ⟨result, final, hrun, ?_, ?_⟩
  · intro hfine
    rw [hok]
    intro step hstep
    obtain hstep | hstep := List.mem_append.mp hstep
    · obtain hstep | hstep := List.mem_append.mp hstep
      · exact hparting step hstep
      · exact hfine step hstep
    · rw [List.mem_singleton.mp hstep]
      rfl
  · intro before step after e hsteps hbefore hfails
    have hcourse : course settings =
        [.asked .fork, .asked .newSession,
          .asked .fork] ++ before ++ step :: (after ++ [.slept settings.sleepSpan]) := by
      rw [course, hsteps]
      simp
    have hfine : ∀ earlier ∈ [.asked .fork, .asked .newSession, .asked .fork] ++ before,
        s.failure? earlier = none := by
      intro earlier hmem
      obtain hmem | hmem := List.mem_append.mp hmem
      · exact hparting earlier hmem
      · exact hbefore earlier hmem
    obtain ⟨hresult, -, -, hdetached⟩ := hfailed _ step _ e hcourse hfine hfails
    refine ⟨hresult, ?_⟩
    rw [← List.mem_reverse, hdetached, List.mem_filterMap]
    simp [Event.redirected?_eq_some]

end Sleeper

namespace Program

structure Ends (ran : Outcome Unit × Machine Script) (status : Nat) (printed : List UInt8)
    (complained : String) : Prop where
  ended : ran.1 = .ended (.exit status)
  output : ran.2.output = printed
  complaints : ran.2.complaints = complained

/-- What others see of a launch whose log leaves standard error alone, by the generation that the
process becomes. -/
structure Observed (settings : Settings) (s : Script) (ran : Outcome Unit × Machine Script) :
    Prop where
  launcher : ∀ child, s.generation = .ok (.launcher child) → Ends ran 0 [] ""
  leader : ∀ daemon, s.generation = .ok (.leader daemon) →
    Ends ran 0 ("Daemon PID " ++ daemon.text ++ "\n").toUTF8.toList ""
  daemon : s.generation = .ok .daemon →
    (∀ step ∈ Sleeper.adjustments settings, s.failure? step = none) → Ends ran 0 [] ""
  hindered : s.generation = .ok .daemon → ∀ before step after e,
    Sleeper.adjustments settings = before ++ step :: after →
    (∀ earlier ∈ before, s.failure? earlier = none) → s.failure? step = some e →
    Ends ran 1 [] (if .asked (.redirect .error) ∈ before then "" else e.message ++ "\n")
  undetached : ∀ e, s.generation = .error e → Ends ran 1 [] (e.message ++ "\n")

variable {σ : Type} {k : Kernel σ} {m : Machine σ} {arguments : List String}
  {options : CommandLine.Options}

private theorem launch_eq (options : CommandLine.Options) :
    launch options = Settings.prepared options >>= launchSleeper := by
  simp only [launch, Settings.prepared, LawfulMonad.bind_assoc, pure_bind]

/-- The program turns the result of a launch into a status, and an error into a line on standard
error. -/
def concluded : Outcome (Except LaunchError Unit) × Machine σ → Outcome Unit × Machine σ
  | (.returned (.ok ()), final) => (.ended (.exit 0), final)
  | (.returned (.error e), final) => (.ended (.exit 1), final.complain (e.message ++ "\n"))
  | (.ended ending, final) => (.ended ending, final)

private theorem run_of_options (hread : CommandLine.read arguments = .ok options) (k : Kernel σ)
    (m : Machine σ) :
    Activity.run k (run arguments) m = concluded (Activity.run k (launch options).run m) := by
  rw [run, hread]
  dsimp only
  rw [run_bind]
  match Activity.run k (launch options).run m with
  | (.returned (.ok ()), final) => rfl
  | (.returned (.error e), final) => rfl
  | (.ended ending, final) => rfl

def statusOf : CommandLine.Stop → Nat
  | .usage _ => 2
  | .help => 0
  | .version => 0

private theorem run_of_stop {reason : CommandLine.Stop}
    (hread : CommandLine.read arguments = .error reason) (k : Kernel σ) (m : Machine σ) :
    (Activity.run k (run arguments) m).1 = .ended (.exit (statusOf reason)) ∧
      (Activity.run k (run arguments) m).2.history = m.history ∧
      (Activity.run k (run arguments) m).2.files = m.files := by
  have hanswer : run arguments = answer reason := by rw [run, hread]
  rw [hanswer]
  cases reason with
  | usage error => exact ⟨rfl, m.complain_history usageText, m.complain_files usageText⟩
  | help => exact ⟨rfl, m.print_history _, m.print_files _⟩
  | version => exact ⟨rfl, m.print_history _, m.print_files _⟩

private theorem ends_of_error {m : Machine Script} (e : LaunchError) (houtput : m.output = [])
    (hcomplaints : m.complaints = "") :
    Ends (concluded (.returned (.error e), m)) 1 []
      (if .error ∈ m.detached then "" else e.message ++ "\n") where
  ended := rfl
  output := (m.complain_output _).trans houtput
  complaints := by
    rw [concluded, Machine.complain]
    split
    · exact hcomplaints
    · rw [hcomplaints]
      exact String.empty_append

variable {s : Script} {files : FileSystem} {logger : Option Logger} {settings : Settings}

private theorem exists_status (settings : Settings) (s : Script) (files : FileSystem)
    (logger : Option Logger) :
    ∃ status, (status = 0 ∨ status = 1) ∧
      (concluded (Activity.run Script.kernel (launchSleeper settings).run
        (.fresh s files logger))).1 = .ended (.exit status) := by
  obtain ⟨parted, hattached, -, hplay, hundone⟩ := Sleeper.exists_parted settings s files logger
  -- what returns is concluded by one of the two; the launcher and the leader exit by themselves
  have hreturned : ∀ result (final : Machine Script), ∃ status, (status = 0 ∨ status = 1) ∧
      (concluded (.returned result, final)).1 = .ended (.exit status) := by
    intro result final
    cases result with
    | ok done => exact ⟨0, .inl rfl, rfl⟩
    | error e => exact ⟨1, .inr rfl, rfl⟩
  cases hgeneration : s.generation with
  | error e =>
    rw [hundone e hgeneration]
    exact hreturned (.error e) parted
  | ok generation =>
    cases generation with
    | launcher child =>
      rw [hplay _ hgeneration]
      exact ⟨0, .inl rfl, rfl⟩
    | leader daemon =>
      rw [hplay _ hgeneration, Sleeper.run_play_leader daemon hattached]
      exact ⟨0, .inl rfl, rfl⟩
    | daemon =>
      obtain ⟨result, final, hrun, -⟩ := Sleeper.run_daemon settings files logger hgeneration
      rw [hrun]
      exact hreturned result final

section Silent

-- The log is silent: what others see of a launch is its own doing.
variable (hsilent : ∀ l, logger = some l → l.IsSilent)
include hsilent

private theorem launcher_ends {child : Pid} (hlauncher : s.generation = .ok (.launcher child)) :
    Ends (concluded (Activity.run Script.kernel (launchSleeper settings).run
      (.fresh s files logger))) 0 [] "" := by
  obtain ⟨parted, -, hshows, hplay, -⟩ := Sleeper.exists_parted settings s files logger
  have hquiet :=
    (hshows hsilent).emit ⟨.debug, "doublefork::cli", "Handed off to session leader " ++ child.text⟩
  rw [hplay _ hlauncher]
  exact ⟨rfl, hquiet.output, hquiet.complaints⟩

private theorem leader_ends {daemon : Pid} (hleader : s.generation = .ok (.leader daemon)) :
    Ends (concluded (Activity.run Script.kernel (launchSleeper settings).run
      (.fresh s files logger))) 0
      ("Daemon PID " ++ daemon.text ++ "\n").toUTF8.toList "" := by
  obtain ⟨parted, hattached, hshows, hplay, -⟩ := Sleeper.exists_parted settings s files logger
  rw [hplay _ hleader, Sleeper.run_play_leader daemon hattached, ← Announcement.line_eq]
  refine ⟨rfl, ?_, (hshows hsilent).complaints⟩
  change parted.output ++ _ = _
  rw [(hshows hsilent).output, List.nil_append]

/-- All that the daemon does after the generations are parted is mute, its failures included. -/
theorem shows_of_daemon (settings : Settings) (files : FileSystem)
    (hdaemon : s.generation = .ok .daemon) :
    (Activity.run Script.kernel (launchSleeper settings).run (.fresh s files logger)).2.Shows
      [] "" := by
  obtain ⟨parted, -, hshows, hplay, -⟩ := Sleeper.exists_parted settings s files logger
  rw [hplay _ hdaemon]
  exact (hshows hsilent).run ((Sleeper.only_dwell settings).mono fun _ hc => hc.isMute)

private theorem daemon_ends (hdaemon : s.generation = .ok .daemon)
    (hfine : ∀ step ∈ Sleeper.adjustments settings, s.failure? step = none) :
    Ends (concluded (Activity.run Script.kernel (launchSleeper settings).run
      (.fresh s files logger))) 0 [] "" := by
  obtain ⟨result, final, hrun, hok, -⟩ := Sleeper.run_daemon settings files logger hdaemon
  have hfinal := shows_of_daemon hsilent settings files hdaemon
  rw [hrun] at hfinal ⊢
  rw [hok hfine]
  exact ⟨rfl, hfinal.output, hfinal.complaints⟩

private theorem hindered_ends (hdaemon : s.generation = .ok .daemon) {before after : List Event}
    {step : Event} {e : LaunchError}
    (hsteps : Sleeper.adjustments settings = before ++ step :: after)
    (hbefore : ∀ earlier ∈ before, s.failure? earlier = none) (hfails : s.failure? step = some e) :
    Ends (concluded (Activity.run Script.kernel (launchSleeper settings).run
      (.fresh s files logger))) 1 []
      (if .asked (.redirect .error) ∈ before then "" else e.message ++ "\n") := by
  obtain ⟨result, final, hrun, -, hfailed⟩ := Sleeper.run_daemon settings files logger hdaemon
  obtain ⟨hresult, hredirected⟩ := hfailed before step after e hsteps hbefore hfails
  have hfinal := shows_of_daemon hsilent settings files hdaemon
  rw [hrun] at hfinal ⊢
  rw [hresult]
  simp only [← hredirected]
  exact ends_of_error e hfinal.output hfinal.complaints

private theorem undetached_ends {e : LaunchError} (herror : s.generation = .error e) :
    Ends (concluded (Activity.run Script.kernel (launchSleeper settings).run
      (.fresh s files logger))) 1 [] (e.message ++ "\n") := by
  obtain ⟨parted, hattached, hshows, -, hundone⟩ := Sleeper.exists_parted settings s files logger
  have hends := ends_of_error e (hshows hsilent).output (hshows hsilent).complaints
  rw [hattached, if_neg List.not_mem_nil] at hends
  rw [hundone e herror]
  exact hends

private theorem observed_of_silent (settings : Settings) (s : Script) (files : FileSystem) :
    Observed settings s (concluded
      (Activity.run Script.kernel (launchSleeper settings).run (.fresh s files logger))) where
  launcher _ hlauncher := launcher_ends hsilent hlauncher
  leader _ hleader := leader_ends hsilent hleader
  daemon hdaemon hfine := daemon_ends hsilent hdaemon hfine
  hindered hdaemon _ _ _ _ hsteps hbefore hfails :=
    hindered_ends hsilent hdaemon hsteps hbefore hfails
  undetached _ herror := undetached_ends hsilent herror

end Silent

/-- The program ends with the status 0, 1 or 2 unless a log filter has a torn character. A command
line that gives no options and a launch that cannot be prepared ask nothing of the system; a launch
that is prepared and logs silently shows what its generation has to show. -/
theorem observable_contract (arguments : List String) (s : Script) (files : FileSystem) :
    let start : Machine Script := .fresh s files none
    let ran := Activity.run Script.kernel (run arguments) start
    (∀ reason, CommandLine.read arguments = .error reason →
      ran.1 = .ended (.exit (statusOf reason)) ∧ ran.2.history = [] ∧ ran.2.files = files) ∧
    ∀ options, CommandLine.read arguments = .ok options →
      ((∃ status, (status = 0 ∨ status = 1) ∧ ran.1 = .ended (.exit status)) ∨
        ran.1 = .ended .fault ∧ ran.2.history = [] ∧ Settings.Torn options files) ∧
      (∀ e prepared, Activity.run Script.kernel (Settings.prepared options).run start =
        (.returned (.error e), prepared) →
        Ends ran 1 [] (e.message ++ "\n") ∧ ran.2.history = []) ∧
      ∀ settings prepared, Activity.run Script.kernel (Settings.prepared options).run start =
          (.returned (.ok settings), prepared) →
        settings.LogsSilently → Observed settings s ran := by
  intro start ran
  refine ⟨fun reason hread => run_of_stop hread Script.kernel start, ?_⟩
  intro options hread
  have hran : ran = concluded (Activity.run Script.kernel
      (Settings.prepared options >>= launchSleeper).run start) := by
    rw [← launch_eq]
    exact run_of_options hread Script.kernel start
  rw [Fallible.run_bind] at hran
  obtain ⟨e, files', hprepared⟩ | ⟨settings, filter, sink, files', hfilter, hsink, hprepared⟩ |
    ⟨htorn, hprepared⟩ :=
    Settings.run_prepared_cases options Script.kernel start
  all_goals rw [hprepared] at hran ⊢
  · refine ⟨.inl ⟨1, .inr rfl, by rw [hran]; rfl⟩, ?_, ?_⟩
    · rintro e' prepared heq
      cases heq
      rw [hran]
      exact ⟨ends_of_error e rfl rfl, Machine.complain_history _ _⟩
    · rintro settings prepared heq
      cases heq
  · refine ⟨.inl ?_, ?_, ?_⟩
    · rw [hran]
      exact exists_status settings s files' (some ⟨filter, sink⟩)
    · rintro e prepared heq
      cases heq
    · rintro settings' prepared heq hlogs
      cases heq
      have hsilent : ∀ l, some (Logger.mk filter sink) = some l → l.IsSilent := by
        rintro l heq
        cases heq
        exact hlogs.isSilent hfilter hsink
      rw [hran]
      exact observed_of_silent hsilent settings s files'
  · refine ⟨.inr ⟨by rw [hran]; rfl, by rw [hran]; rfl, htorn⟩, ?_, ?_⟩
    · rintro e prepared heq
      cases heq
    · rintro settings prepared heq
      cases heq

/-- The leader of the session announces the daemon, with the log switched off as it is without
options. -/
theorem observable_contract_of_leader :
    let s : Script := { forks := [.child ⟨4241⟩, .parent ⟨4242⟩] }
    Ends (Activity.run Script.kernel (run ["--sleep-secs", "5"]) (.fresh s {} none)) 0
      "Daemon PID 4242\n".toUTF8.toList "" := by
  intro s
  have hread : CommandLine.read ["--sleep-secs", "5"] = .ok { sleepSeconds := some 5 } := by rfl
  have hprepared : ∃ prepared, Activity.run Script.kernel
      (Settings.prepared { sleepSeconds := some 5 }).run (.fresh s {} none) =
      (.returned (.ok { sleepSeconds := 5 }), prepared) := ⟨_, rfl⟩
  have hoff : LogFilter.ofText "off" = .ok ⟨[{ threshold := none }]⟩ := by rfl
  have hsilent : Settings.LogsSilently { sleepSeconds := 5 } :=
    .inr ⟨_, hoff, LogFilter.admits_of_off (by simp)⟩
  obtain ⟨prepared, hprepared⟩ := hprepared
  obtain ⟨-, hcontract⟩ := observable_contract ["--sleep-secs", "5"] s {}
  obtain ⟨-, -, hobserved⟩ := hcontract _ hread
  exact (hobserved _ prepared hprepared hsilent).leader ⟨4242⟩ rfl

/-- The target of the directive would begin inside the blank of two bytes. -/
theorem torn_filter_breaks_off :
    let arguments := ["--log-level", "\u00a0x=bad"]
    let ran := Activity.run Script.kernel (run arguments) (.fresh {} {} none)
    CommandLine.read arguments = .ok { logFilter := some "\u00a0x=bad" } ∧
      LogFilter.ofText "\u00a0x=bad" = .error .tornCharacter ∧ ran.1 = .ended .fault ∧
      Ending.fault.status = 101 ∧ ∀ status, ran.1 ≠ .ended (.exit status) := by
  refine ⟨rfl, rfl, rfl, rfl, ?_⟩
  intro status hexit
  cases hexit

end Program

end DaemonLaunch
