import DaemonLaunch.Proofs.LogAcrossDetachment
import DaemonLaunch.Proofs.PermanentDeath
import DaemonLaunch.Proofs.TwoRuns

/-!
How a log is set up makes no difference to what is done. A launch, a delegation and the steps taken
with a daemon make the same requests at the same times and come to the same on a system, whatever
the filter and wherever the lines go; only standard error and the log files tell two logs apart.
-/

namespace DaemonLaunch

open Activity

variable {σ : Type} {k : Kernel σ} {logs : Location → Prop}

theorem Call.IsFor.looksAway {pid : Pid} {c : Call} (hc : c.IsFor pid) : c.LooksAway := by
  cases c with
  | ask request => exact looksAway_ask request
  | now => rfl
  | sleep span => rfl
  | emit event => rfl
  | _ => exact hc.elim

namespace Delegate

private theorem only_writeRest (times interruptions : Nat) (bytes : List UInt8) :
    ((pipeEnd times).writeRest interruptions bytes).Only Call.LooksAway := by
  -- a write that is interrupted leaves fewer interruptions to come, any other fewer bytes
  induction hleft : interruptions + bytes.length using Nat.strongRecOn generalizing interruptions
    bytes with
  | ind left ih =>
    cases bytes with
    | nil =>
      rw [Writer.writeRest]
      trivial
    | cons b bytes =>
      rw [Writer.writeRest]
      have hwrite : ((pipeEnd times).write (b :: bytes)).Only Call.LooksAway := by
        refine ⟨rfl, ?_⟩
        intro reply
        cases reply with
        | ok taken => trivial
        | error code => trivial
      apply hwrite.bind
      intro written
      cases written with
      | error failure =>
        by_cases hagain : failure = .system .interrupted ∧ 0 < interruptions
        · simp only [dif_pos hagain]
          exact ih _ (by omega) _ _ rfl
        · simp only [dif_neg hagain]
          trivial
      | ok taken =>
        by_cases hnone : taken = 0
        · simp only [dif_pos hnone]
          trivial
        · have hfewer : ((b :: bytes).drop taken).length < (b :: bytes).length := by
            rw [List.length_drop, List.length_cons]
            omega
          simp only [dif_neg hnone]
          exact ih _ (by omega) _ _ rfl

private theorem only_report {α : Type} (h : Handoff) :
    (report h : Activity α).Only Call.LooksAway := by
  refine ⟨rfl, ?_⟩
  intro interruptions
  apply (only_writeRest interruptions interruptions h.bytes).bind
  intro written
  cases written with
  | error failure => trivial
  | ok done => cases h <;> trivial

private theorem only_receiveBytes (interruptions count : Nat) :
    (Handoff.receiveBytes interruptions count).run.Only Call.LooksAway := by
  -- a read that is interrupted leaves fewer interruptions to come, any other fewer bytes
  induction hleft : interruptions + count using Nat.strongRecOn generalizing interruptions
    count with
  | ind left ih =>
    cases count with
    | zero =>
      rw [Handoff.receiveBytes]
      trivial
    | succ n =>
      rw [Handoff.receiveBytes]
      apply Only.except_bind (Only.lift (Only.perform (Call.looksAway_ask _)))
      intro reply
      rcases reply with code | _ | ⟨b, chunk⟩
      · by_cases hagain : code = .interrupted ∧ 0 < interruptions
        · simp only [dif_pos hagain]
          exact ih _ (by omega) _ _ rfl
        · simp only [dif_neg hagain]
          trivial
      · trivial
      · exact Only.except_bind (ih _ (by omega) _ (n - chunk.length) rfl) fun _ => trivial

private theorem only_adopt (received : Except LaunchError Handoff) :
    (adopt received).run.Only Call.LooksAway := by
  match received with
  | .error e => trivial
  | .ok (.daemon pid) => exact ⟨rfl, fun _ => trivial⟩
  | .ok (.noSession errno) => trivial
  | .ok (.noFork errno) => trivial

private theorem only_takeOver (child : Pid) : (takeOver child).run.Only Call.LooksAway := by
  have hreceive : Handoff.receive.run.Only Call.LooksAway := by
    refine ⟨rfl, ?_⟩
    intro interruptions
    apply Only.except_bind (only_receiveBytes interruptions Handoff.size).adapt
    intro bytes
    trivial
  apply Only.except_bind (Only.lift hreceive)
  intro received
  apply Only.except_bind (Only.lift (Only.perform (Call.looksAway_ask _)))
  intro reply
  cases reply with
  | ok done => exact only_adopt received
  | error code =>
    exact Only.except_bind (Only.lift (Only.perform (by rfl))) fun _ => only_adopt received

variable {body : Activity Unit}

private theorem ignoresLog_work {α : Type} (hbody : body.IgnoresLog k logs) :
    (work body : Activity α).IgnoresLog k logs := by
  apply hbody.attempt.bind
  intro done
  apply Only.ignoresLog
  cases done with
  | some done => trivial
  | none => trivial

private theorem ignoresLog_between {α : Type} (hbody : body.IgnoresLog k logs) :
    (between body : Activity α).IgnoresLog k logs := by
  have hask : ∀ request, (ask request).IgnoresLog k logs :=
    fun request => Only.ignoresLog (Only.perform (Call.looksAway_ask request))
  apply (hask .newSession).bind
  intro session
  cases session with
  | error code => exact (only_report _).ignoresLog
  | ok session =>
    apply (hask .fork).bind
    intro forked
    match forked with
    | .error code => exact (only_report _).ignoresLog
    | .ok (.parent daemon) => exact (only_report _).ignoresLog
    | .ok .child => exact ignoresLog_work hbody

theorem ignoresLog_delegate (hbody : body.IgnoresLog k logs) :
    (delegate body).run.IgnoresLog k logs := by
  have hask : ∀ request, (liftM (ask request) : Launch request.Reply).run.IgnoresLog k logs :=
    fun request => Only.ignoresLog (Only.lift (Only.perform (Call.looksAway_ask request)))
  have haccept : ∀ {α : Type} (refusal : ErrorCode → LaunchError) (reply : Except ErrorCode α),
      (Launch.accept refusal reply).run.IgnoresLog k logs :=
        fun refusal reply => (Launch.only_accept refusal reply).ignoresLog
  apply (hask .openPipe).except_bind
  intro pipe
  apply (haccept _ pipe).except_bind
  intro _
  apply (hask .fork).except_bind
  intro reply
  apply (haccept _ reply).except_bind
  intro forked
  cases forked with
  | parent child => exact (only_takeOver child).ignoresLog
  | child => exact (ignoresLog_between hbody).lift

theorem run_delegate_of_no_daemon {m : Machine Script} (hrole : m.system.generation ≠ .ok .daemon)
    (body body' : Activity Unit) :
    run Script.kernel (delegate body).run m = run Script.kernel (delegate body').run m := by
  cases hpipe : m.system.pipeError with
  | some code =>
    have hrefused : (m.ask Script.kernel .openPipe).1 = .error code := by
      rw [Machine.ask_reply, Script.kernel]
      simp only [hpipe]
    rw [delegate, delegate, Fallible.run_ask_bind, Fallible.run_ask_bind, hrefused]
    rfl
  | none =>
    rw [run_delegate m body hpipe, run_delegate m body' hpipe]
    cases hfirst : Script.nextFork m.system.forks with
    | failed code => rfl
    | parent child => rfl
    | child self =>
      have hbetween : run Script.kernel (between (α := Daemon) body)
          (started m self m.system.forks.tail) =
          run Script.kernel (between body') (started m self m.system.forks.tail) := by
        have hsessions : (started m self m.system.forks.tail).system.newSessionError =
            m.system.newSessionError := rfl
        have hforks : (started m self m.system.forks.tail).system.forks = m.system.forks.tail := rfl
        rw [run_between, run_between, hsessions, hforks]
        cases hsession : m.system.newSessionError with
        | some code => rfl
        | none =>
          cases hsecond : Script.nextFork m.system.forks.tail with
          | failed code => rfl
          | parent daemon => rfl
          | child daemon =>
            have hdaemon : m.system.generation = .ok .daemon := by
              simp only [Script.generation, hfirst, hsession, hsecond]
            exact absurd hdaemon hrole
      simp only [Fallible.run_lift, hbetween]

/-- A delegation does the same whatever the log is, if the work does where it is done. -/
theorem run_delegate_same {m m' : Machine Script} (h : m.SameButLog logs m')
    (hbody : m.system.generation = .ok .daemon → body.IgnoresLog Script.kernel logs) :
    (run Script.kernel (delegate body).run m).1 = (run Script.kernel (delegate body).run m').1 ∧
      (run Script.kernel (delegate body).run m).2.SameButLog logs
        (run Script.kernel (delegate body).run m').2 := by
  by_cases hrole : m.system.generation = .ok .daemon
  · exact ignoresLog_delegate (hbody hrole) m m' h
  · have hrole' : m'.system.generation ≠ .ok .daemon := h.system ▸ hrole
    have hidle : (done () : Activity Unit).IgnoresLog Script.kernel logs := fun _ _ h => ⟨rfl, h⟩
    rw [run_delegate_of_no_daemon hrole body (done ()),
      run_delegate_of_no_daemon hrole' body (done ())]
    exact ignoresLog_delegate hidle m m' h

end Delegate

namespace Daemon

/-- What comes of an operation. -/
inductive Finding
  | pid (pid : Pid)
  | runs (answer : Bool)
  | session (result : Except LaunchError Pid)
  | leadsSession (result : Except LaunchError Bool)
  | terminal (answer : Option Bool)
  | signalled (result : Except LaunchError Unit)
  | ended (answer : Bool)
  | stopped (result : Except LaunchError Unit)

variable (d : Daemon)

def find : Operation → Activity Finding
  | .pid => pure (.pid d.pid)
  | .isRunning => return .runs (← d.isRunning)
  | .session => return .session (← d.session.run)
  | .leadsSession => return .leadsSession (← d.leadsSession.run)
  | .hasTerminal => return .terminal (← d.hasTerminal)
  | .signal signal => return .signalled (← (d.signal signal).run)
  | .awaitEnd timeout => return .ended (← d.awaitEnd timeout)
  | .stop timeout => return .stopped (← (d.stop timeout).run)

theorem act_eq_find (operation : Operation) :
    d.act operation = d.find operation >>= fun _ => pure () := by
  cases operation with
  | pid => rfl
  | _ => simp only [act, find, bind_assoc, pure_bind]

private theorem only_find (operation : Operation) : (d.find operation).Only Call.LooksAway := by
  have hact := (d.only_act operation).mono fun _ => Call.IsFor.looksAway
  rw [act_eq_find] at hact
  exact hact.of_bind

private theorem take_act (k : Kernel σ) (m : Machine σ) (operation : Operation) :
    d.take k m (.act operation) = (run k (d.find operation) m).2 := by
  rw [take, act_eq_find, run_bind]
  obtain ⟨outcome, final⟩ := run k (d.find operation) m
  cases outcome with
  | returned value => rfl
  | ended ending => rfl

/-- What comes of each operation among the steps, and when. -/
def findings (k : Kernel σ) : List Step → Machine σ → List (Span × Outcome Finding)
  | [], _ => []
  | .wait span :: later, m => findings k later (d.take k m (.wait span))
  | .act operation :: later, m =>
    let ran := run k (d.find operation) m
    (ran.2.now, ran.1) :: findings k later (d.take k m (.act operation))

/-- The same comes of the same steps, whatever the log is. -/
theorem findings_same {m m' : Machine σ} (h : m.SameButLog logs m') (steps : List Step) :
    d.findings k steps m = d.findings k steps m' ∧
    (d.after k m steps).SameButLog logs (d.after k m' steps) := by
  induction steps generalizing m m' with
  | nil => exact ⟨rfl, h⟩
  | cons step later ih =>
    cases step with
    | wait span => exact ih (h.advance span)
    | act operation =>
      obtain ⟨hfinding, hfound⟩ := (d.only_find operation).ignoresLog m m' h
      have htaken : (d.take k m (.act operation)).SameButLog logs
          (d.take k m' (.act operation)) := by
        rw [take_act, take_act]
        exact hfound
      obtain ⟨hlater, hsame⟩ := ih htaken
      refine ⟨?_, hsame⟩
      rw [findings, findings, hfinding, hfound.now, hlater]

end Daemon

theorem launchSleeper_congr {settings settings' : Settings}
    (hsleep : settings.sleepSeconds = settings'.sleepSeconds)
    (hstreams : settings.detachStreams = settings'.detachStreams)
    (hroot : settings.enterRoot = settings'.enterRoot) :
    launchSleeper settings = launchSleeper settings' := by
  have hspan : settings.sleepSpan = settings'.sleepSpan := congrArg Span.ofSeconds hsleep
  have hdwell : Sleeper.dwell settings = Sleeper.dwell settings' := by
    rw [Sleeper.dwell, Sleeper.dwell, hspan, hstreams, hroot]
  have hplay : Sleeper.play settings = Sleeper.play settings' := by
    funext generation
    cases generation with
    | daemon => exact hdwell
    | _ => rfl
  rw [launchSleeper, launchSleeper, hplay]

/-- The machine on which a log has been started from the given one, or on which there is none. -/
inductive Equipped (k : Kernel σ) (start : Machine σ) : Machine σ → Prop
  | unlogged : Equipped k start start
  | logged {settings : Settings} {m : Machine σ}
      (hstarted : run k settings.startLog.run start = (.returned (.ok ()), m)) :
      Equipped k start m

/-- Starting a log changes nothing but the log and its file. -/
theorem Equipped.sameButLog {start m : Machine σ} (h : Equipped k start m)
    (hunlogged : start.logger = none)
    (hsink : ∀ place, m.LogsAt place → logs place) : start.SameButLog logs m := by
  have hnowhere : ∀ place, start.LogsAt place → logs place := by
    rintro place ⟨filter, hlogger⟩
    rw [hunlogged] at hlogger
    cases hlogger
  cases h with
  | unlogged => exact .refl hsink
  | logged hstarted =>
    obtain ⟨filter, -, ⟨-, rfl⟩ | ⟨path, place, files, -, hopen, rfl⟩⟩ :=
      Settings.run_startLog_eq_ok hstarted
    · exact ⟨rfl, rfl, rfl, rfl, rfl, rfl, fun _ _ => rfl, hnowhere, hsink⟩
    · obtain ⟨-, rfl⟩ := (start.files.openForAppend_eq_ok_iff files path place).mp hopen
      have hlogs : logs place := hsink place ⟨filter, by rw [hunlogged, Option.getD_none]⟩
      exact .of_file hlogs (start.files.grown_withFile place).working
        (fun other hother => start.files.node?_withFile_of_ne hother) hnowhere hsink

/-- Two runs have the same results and differ at most in standard error and in the files at the
places of logs. -/
structure Agree {β : Type} (logs : Location → Prop) (ran ran' : β × Machine Script) : Prop where
  results : ran.1 = ran'.1
  /-- The requests to the system, the sleeps and the marks, each with its time. -/
  history : ran.2.history = ran'.2.history
  signals : ran.2.signals = ran'.2.signals
  now : ran.2.now = ran'.2.now
  output : ran.2.output = ran'.2.output
  detached : ran.2.detached = ran'.2.detached
  /-- The state of the system, with the bytes that were written to the pipe. -/
  system : ran.2.system = ran'.2.system
  files : ∀ place, ¬logs place → ran.2.files.node? place = ran'.2.files.node? place

private theorem Agree.of_same {β : Type} {ran ran' : β × Machine Script}
    (h : ran.1 = ran'.1 ∧ ran.2.SameButLog logs ran'.2) : Agree logs ran ran' where
  results := h.1
  history := h.2.history
  signals := by rw [Machine.signals, Machine.signals, h.2.history]
  now := h.2.now
  output := h.2.output
  detached := h.2.detached
  system := h.2.system
  files := h.2.nodes

/-- Whether and how a log is started makes no difference to a launch with the same sleep and
surroundings, to a delegation of work that does not itself depend on the log, and to what is found
out about a daemon. -/
theorem log_makes_no_difference (s : Script) (files : FileSystem) {m m' : Machine Script}
    (hlog : Equipped Script.kernel (.fresh s files none) m)
    (hlog' : Equipped Script.kernel (.fresh s files none) m') :
    let logs place := m.LogsAt place ∨ m'.LogsAt place
    (∀ settings settings' : Settings, settings.sleepSeconds = settings'.sleepSeconds →
      settings.detachStreams = settings'.detachStreams → settings.enterRoot = settings'.enterRoot →
      Agree logs (run Script.kernel (launchSleeper settings).run m)
        (run Script.kernel (launchSleeper settings').run m')) ∧
    (∀ body : Activity Unit, (s.generation = .ok .daemon → body.IgnoresLog Script.kernel logs) →
      Agree logs (run Script.kernel (delegate body).run m)
        (run Script.kernel (delegate body).run m')) ∧
    ∀ (d : Daemon) (steps : List Daemon.Step), Agree logs
      (d.findings Script.kernel steps m, d.after Script.kernel m steps)
      (d.findings Script.kernel steps m', d.after Script.kernel m' steps) := by
  intro logs
  have hstart : Machine.SameButLog logs (.fresh s files none) m := hlog.sameButLog rfl fun _ => .inl
  have hstart' : Machine.SameButLog logs (.fresh s files none) m' :=
    hlog'.sameButLog rfl fun _ => .inr
  have hsame : m.SameButLog logs m' := hstart.symm.trans hstart'
  refine ⟨?_, ?_, ?_⟩
  · intro settings settings' hsleep hstreams hroot
    have hlaunch : (launchSleeper settings).run.Only Call.LooksAway :=
      (Sleeper.only_launchSleeper settings).mono fun _ => Call.SparesFiles.looksAway
    rw [← launchSleeper_congr hsleep hstreams hroot]
    exact .of_same (hlaunch.ignoresLog m m' hsame)
  · intro body hbody
    have hrole : m.system = s := hstart.system.symm
    exact .of_same (Delegate.run_delegate_same hsame fun hdaemon => hbody (hrole ▸ hdaemon))
  · intro d steps
    exact .of_same (d.findings_same hsame steps)

/-- A daemon without a log and one that notes all it does in a file break off alike. -/
theorem log_makes_no_difference_to_fault :
    let s : Script := { forks := [.child ⟨5⟩, .child ⟨6⟩] }
    let settings : Settings := { logFilter := "trace", logFile := some "d.log" }
    let work : Activity Unit := do perform (.mark "body"); nap (Span.ofMilliseconds 5); fault
    let m : Machine Script := .fresh s {} none
    ∃ m', run Script.kernel settings.startLog.run m = (.returned (.ok ()), m') ∧
      m'.LogsAt ["d.log"] ∧
      Agree (fun place => m.LogsAt place ∨ m'.LogsAt place)
        (run Script.kernel (launchSleeper {}).run m)
          (run Script.kernel (launchSleeper settings).run m') ∧
      (run Script.kernel (delegate work).run m').1 = .ended (.exit 101) ∧
      (run Script.kernel (delegate work).run m').2.now = Span.ofMilliseconds 5 := by
  intro s settings work m
  let filter : LogFilter := ⟨[{ threshold := some .trace }]⟩
  have hfilter : LogFilter.ofText "trace" = .ok filter := by rfl
  let m' : Machine Script :=
    { m with files := FileSystem.withFile {} ["d.log"], logger := some ⟨filter, .file ["d.log"]⟩ }
  have hstarted : run Script.kernel settings.startLog.run m = (.returned (.ok ()), m') := by
    rw [Settings.run_startLog, hfilter]
    rfl
  have hwork : work.Only Call.LooksAway := by
    refine ⟨rfl, fun _ => ?_⟩
    exact ((Sleeper.only_nap _).mono fun _ hc => hc.sparesFiles.looksAway).bind fun _ => trivial
  obtain ⟨hlaunch, hdelegate, -⟩ := log_makes_no_difference s {} .unlogged (.logged hstarted)
  have hagree := hdelegate work fun _ => hwork.ignoresLog
  refine ⟨m', hstarted, ⟨_, rfl⟩, hlaunch {} settings rfl rfl rfl, ?_, ?_⟩
  · rw [← hagree.results]
    rfl
  · rw [← hagree.now]
    decide

end DaemonLaunch
