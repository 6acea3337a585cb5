import DaemonLaunch.Launch.Delegate
import DaemonLaunch.Proofs.HandoffRecord
import DaemonLaunch.Proofs.PipeTraffic

/-!
What each process of a delegation does on a scripted system: the caller, the process in between, and
the daemon.
-/

namespace DaemonLaunch

open Activity

namespace Handoff

/-- What a report that has been received, or has not, means to the caller. -/
def verdict : Except HandoffCause Handoff → Except LaunchError Daemon
  | .ok handoff => handoff.result
  | .error cause => .error (.handoff cause)

/-- What the caller makes of what arrives. -/
def outcome (arrived : List UInt8 × Option ErrorCode) : Except LaunchError Daemon :=
  verdict ((collected size arrived).bind ofBytes)

/-- The status with which the process in between exits when so many bytes of its report have been
taken. -/
def exitStatus (h : Handoff) (taken : Nat) : Nat :=
  match h with
  | daemon _ => if taken = size then 0 else 1
  | noSession _ => 1
  | noFork _ => 1

/-- What the process in between has to report, by how its call for a session and its fork go. As the
daemon it reports nothing. -/
inductive Reports : Option ErrorCode → ForkOutcome → Handoff → Prop
  | noSession (code : ErrorCode) (second : ForkOutcome) :
      Reports (some code) second (.noSession (.ofCode code))
  | noFork (code : ErrorCode) : Reports none (.failed code) (.noFork (.ofCode code))
  | daemon (pid : Pid) : Reports none (.parent pid) (.daemon pid)

theorem exists_report {session : Option ErrorCode} {second : ForkOutcome}
    (hdaemon : session = none → ∀ self, second ≠ .child self) : ∃ h, Reports session second h := by
  cases session with
  | some code => exact ⟨_, .noSession code second⟩
  | none =>
    cases second with
    | parent daemon => exact ⟨_, .daemon daemon⟩
    | child self => exact absurd rfl (hdaemon rfl self)
    | failed code => exact ⟨_, .noFork code⟩

theorem Reports.proper {session : Option ErrorCode} {second : ForkOutcome} {h : Handoff}
    (hreports : Reports session second h)
    (hpositive : ∀ daemon, second = .parent daemon → 0 < daemon.number) : h.Proper := by
  cases hreports with
  | noSession code second => trivial
  | noFork code => trivial
  | daemon pid => exact hpositive pid rfl

theorem exists_reports {session : Option ErrorCode} {second : ForkOutcome}
    (hdaemon : session = none → ∀ self, second ≠ .child self)
    (hpositive : ∀ daemon, second = .parent daemon → 0 < daemon.number) :
    ∃ h, Reports session second h ∧ h.Proper := by
  obtain ⟨h, hreports⟩ := exists_report hdaemon
  exact ⟨h, hreports, hreports.proper hpositive⟩

end Handoff

namespace Script

/-- How the next fork goes, given the forks that are laid down. -/
def nextFork (forks : List ForkOutcome) : ForkOutcome := forks.headD (.failed .notImplemented)

theorem fork_eq (s : Script) : s.fork =
    match nextFork s.forks with
    | .failed code => (.error code, s.forked s.self s.forks.tail)
    | .parent child => (.ok (.parent child), s.forked s.self s.forks.tail)
    | .child self => (.ok .child, s.forked self s.forks.tail) := by
  rcases hforks : s.forks with _ | ⟨child | self | code, later⟩
  case nil =>
    have hsame : s = s.forked s.self [] := by
      rw [← hforks, forked_self]
    rw [fork, hforks]
    exact congrArg (Prod.mk _) hsame
  all_goals
    rw [fork, hforks]
    rfl

end Script

namespace Delegate

variable (m : Machine Script) (body : Activity Unit)

/-- The machine after the pipe and the first fork. -/
def started (self : Pid) (later : List ForkOutcome) : Machine Script :=
  m.served (m.system.piped.forked self later) [⟨m.now, .asked .fork⟩, ⟨m.now, .asked .openPipe⟩]

theorem run_delegate (hpipe : m.system.pipeError = none) :
    run Script.kernel (delegate body).run m =
      match Script.nextFork m.system.forks with
      | .failed code =>
        (.returned (.error (.fork .first (.ofCode code))),
          started m m.system.self m.system.forks.tail)
      | .parent child =>
        run Script.kernel (takeOver child).run (started m m.system.self m.system.forks.tail)
      | .child self =>
        run Script.kernel (liftM (between (α := Daemon) body) : Launch Daemon).run
          (started m self m.system.forks.tail) := by
  rw [delegate, Fallible.run_ask_bind, Machine.ask_eq_served _ _ _ (by simp),
    Script.serve_openPipe _ hpipe, Launch.accept_ok, pure_bind, Fallible.run_ask_bind,
      Machine.ask_eq_served _ _ _ (by simp), Script.serve_fork, Script.fork_eq]
  have hforks : m.system.piped.forks = m.system.forks := rfl
  simp only [Machine.served_system, hforks]
  cases Script.nextFork m.system.forks with
  | failed code => rfl
  | parent child => rfl
  | child self => rfl

/-- Reporting puts a first part of the record in the pipe, all of it if the writes succeed, and ends
the process. -/
theorem run_report {α : Type} (h : Handoff) :
    ∃ taken sends added, taken ≤ Handoff.size ∧
      (∀ o ∈ added, ∃ part, o.event = .asked (.send part)) ∧
      (m.system.TakesWrites → taken = Handoff.size) ∧
      run Script.kernel (report h : Activity α) m =
        (.ended (.exit (h.exitStatus taken)),
          m.served (m.system.withSends sends (h.bytes.take taken)) added) := by
  let times := m.system.interruptions
  have htimes : m.system.sends.count (.failed .interrupted) ≤ times := Nat.le_add_left _ _
  rcases run_writeRest_pipeEnd times times h.bytes m with
    ⟨taken, sends, added, result, htaken, hadded, hresult, htakes, hrun⟩
  rw [h.length_bytes] at htaken hresult
  refine ⟨taken, sends, added, htaken, hadded, fun hwrites => hresult.mp (htakes hwrites htimes),
    ?_⟩
  rw [report, run_perform_bind]
  change run Script.kernel ((pipeEnd times).writeRest times h.bytes >>= _) m = _
  rw [run_bind, hrun]
  cases result with
  | ok done =>
    have hall : taken = Handoff.size := hresult.mp rfl
    cases h with
    | daemon pid => simp only [Handoff.exitStatus, hall, if_true]; rfl
    | noSession errno => rfl
    | noFork errno => rfl
  | error failure =>
    have hpart : taken ≠ Handoff.size := fun hall => by cases hresult.mpr hall
    cases h with
    | daemon pid => simp only [Handoff.exitStatus, if_neg hpart]; rfl
    | noSession errno => rfl
    | noFork errno => rfl

def sessioned : Machine Script := m.served m.system [⟨m.now, .asked .newSession⟩]

/-- The machine of the process in between, or of the daemon, after the second fork. -/
def paired (self : Pid) (later : List ForkOutcome) : Machine Script :=
  m.served (m.system.forked self later) [⟨m.now, .asked .fork⟩, ⟨m.now, .asked .newSession⟩]

theorem run_between {α : Type} :
    run Script.kernel (between body : Activity α) m =
      match m.system.newSessionError, Script.nextFork m.system.forks with
      | some code, _ => run Script.kernel (report (.noSession (.ofCode code))) (sessioned m)
      | none, .failed code =>
        run Script.kernel (report (.noFork (.ofCode code)))
          (paired m m.system.self m.system.forks.tail)
      | none, .parent daemon =>
        run Script.kernel (report (.daemon daemon)) (paired m m.system.self m.system.forks.tail)
      | none, .child self => run Script.kernel (work body) (paired m self m.system.forks.tail) := by
  rw [between, run_ask_bind, Machine.ask_eq_served _ _ _ (by simp), Script.serve_newSession]
  cases hsession : m.system.newSessionError with
  | some code => rfl
  | none =>
    change run Script.kernel (ask .fork >>= _) (sessioned m) = _
    have hforks : (sessioned m).system = m.system := rfl
    rw [run_ask_bind, Machine.ask_eq_served _ _ _ (by simp), Script.serve_fork, hforks,
      Script.fork_eq]
    cases Script.nextFork m.system.forks with
    | failed code => rfl
    | parent daemon => rfl
    | child self => rfl

theorem run_adopt (received : Except HandoffCause Handoff) :
    ∃ final, run Script.kernel (adopt (received.mapError .handoff)).run m =
        (.returned (Handoff.verdict received), final) ∧
      final.system = m.system ∧ final.history = m.history := by
  cases received with
  | error cause => exact ⟨m, rfl, rfl, rfl⟩
  | ok handoff =>
    cases handoff with
    | daemon pid => exact ⟨_, rfl, m.emit_system _, m.emit_history _⟩
    | noSession errno => exact ⟨m, rfl, rfl, rfl⟩
    | noFork errno => exact ⟨m, rfl, rfl, rfl⟩

/-- The caller receives the report, waits for the process in between whatever it has received, and
goes by the report. -/
theorem run_takeOver (child : Pid) :
    ∃ later added final, (∀ o ∈ added, ∃ most, o.event = .asked (.receive most)) ∧
      run Script.kernel (takeOver child).run m =
        (.returned (Handoff.outcome (Script.arriving m.system.reads)), final) ∧
      final.system = m.system.withReads later ∧
      final.history = ⟨m.now, .asked (.reap child)⟩ :: added ++ m.history := by
  obtain ⟨later, added, hadded, hrun⟩ := Handoff.run_receive m
  let received := m.served (m.system.withReads later) added
  let reaped := received.served received.system [⟨m.now, .asked (.reap child)⟩]
  have hreap : received.ask Script.kernel (.reap child) =
      (Script.orFail m.system.reapError (), reaped) := rfl
  rw [takeOver, Fallible.run_lift_bind, hrun]
  change ∃ later added final, _ ∧
    run Script.kernel (liftM (ask (.reap child)) >>= _ : Launch Daemon).run received = _ ∧ _
  rw [Fallible.run_ask_bind, hreap]
  -- a failed wait only leaves a line in the log
  cases m.system.reapError with
  | none =>
    obtain ⟨final, hfinal, hsystem, hhistory⟩ := run_adopt reaped _
    exact ⟨later, added, final, hadded, hfinal, hsystem, hhistory⟩
  | some code =>
    obtain ⟨final, hfinal, hsystem, hhistory⟩ := run_adopt (reaped.emit _) _
    exact ⟨later, added, final, hadded, hfinal, hsystem.trans (reaped.emit_system _),
      hhistory.trans (reaped.emit_history _)⟩

/-- What the process in between asks of the system before it reports. -/
def askedBetween : Option ErrorCode → List Event
  | some _ => [.asked .newSession]
  | none => [.asked .newSession, .asked .fork]

theorem run_between_of_reports {h : Handoff}
    (hreports : h.Reports m.system.newSessionError (Script.nextFork m.system.forks)) :
    ∃ later added, run Script.kernel (between body : Activity Daemon) m =
        run Script.kernel (report h) (m.served (m.system.forked m.system.self later) added) ∧
      added.reverse.map (·.event) = askedBetween m.system.newSessionError := by
  rw [run_between]
  generalize m.system.newSessionError = session at hreports ⊢
  generalize Script.nextFork m.system.forks = second at hreports ⊢
  cases hreports with
  | noSession code second => exact ⟨m.system.forks, [⟨m.now, .asked .newSession⟩], rfl, rfl⟩
  | noFork code => exact ⟨m.system.forks.tail, _, rfl, rfl⟩
  | daemon pid => exact ⟨m.system.forks.tail, _, rfl, rfl⟩

theorem run_delegate_refused {code : ErrorCode} (hpipe : m.system.pipeError = none)
    (hforks : Script.nextFork m.system.forks = .failed code) :
    ∃ final, run Script.kernel (delegate body).run m =
        (.returned (.error (.fork .first (.ofCode code))), final) ∧
      final.system.pipe = some [] ∧ final.events = m.events ++ [.asked .openPipe,
        .asked .fork] := by
  rw [run_delegate m body hpipe, hforks]
  exact ⟨_, rfl, rfl, by simp [started]⟩

/-- The process in between ends with a first part of its report in the pipe, and with the whole of
it if writes succeed. It only makes requests, so it writes neither to files nor to standard
error. -/
theorem run_delegate_between {self : Pid} {h : Handoff} (hpipe : m.system.pipeError = none)
    (hfirst : Script.nextFork m.system.forks = .child self)
    (hreports : h.Reports m.system.newSessionError (Script.nextFork m.system.forks.tail)) :
    ∃ taken sent final, taken ≤ Handoff.size ∧ (m.system.TakesWrites → taken = Handoff.size) ∧
      (∀ e ∈ sent, ∃ part, e = .asked (.send part)) ∧
      (final.files = m.files ∧ final.complaints = m.complaints) ∧
      run Script.kernel (delegate body).run m = (.ended (.exit (h.exitStatus taken)), final) ∧
      final.system.pipe = some (h.bytes.take taken) ∧
      final.events = m.events ++ [.asked .openPipe,
        .asked .fork] ++ askedBetween m.system.newSessionError ++ sent := by
  let base := started m self m.system.forks.tail
  obtain ⟨last, added, hbetween, hadded⟩ := run_between_of_reports base body hreports
  let reporter := base.served (base.system.forked base.system.self last) added
  obtain ⟨taken, sends, written, htaken, hwritten, htakes, hreport⟩ :=
    run_report (α := Daemon) reporter h
  let final := reporter.served (reporter.system.withSends sends (h.bytes.take taken)) written
  refine ⟨taken, written.reverse.map (·.event), final, htaken,
    fun hw => htakes ⟨hw.sends, hw.error, hw.limit⟩,
    ?_, ?_, ?_, ?_, ?_⟩
  · intro e he
    obtain ⟨o, ho, rfl⟩ := List.mem_map.mp he
    exact hwritten o (List.mem_reverse.mp ho)
  · exact ⟨rfl, rfl⟩
  · rw [run_delegate m body hpipe, hfirst]
    exact (Fallible.run_lift _ _ _).trans (by rw [hbetween, hreport])
  · rfl
  · have hbetween : askedBetween m.system.newSessionError = added.reverse.map (·.event) :=
      hadded.symm
    rw [hbetween]
    simp [Machine.events, final, reporter, base, started]

theorem run_delegate_caller {child : Pid} (hpipe : m.system.pipeError = none)
    (hfirst : Script.nextFork m.system.forks = .parent child) :
    ∃ received final, (∀ e ∈ received, ∃ most, e = .asked (.receive most)) ∧
      run Script.kernel (delegate body).run m =
        (.returned (Handoff.outcome (Script.arriving m.system.reads)), final) ∧
      final.system.pipe = some [] ∧
      final.events = m.events ++ [.asked .openPipe,
        .asked .fork] ++ received ++ [.asked (.reap child)] := by
  obtain ⟨last, added, final, hadded, hrun, hsystem, hhistory⟩ :=
    run_takeOver (started m m.system.self m.system.forks.tail) child
  refine ⟨added.reverse.map (·.event), final, ?_, ?_, ?_, ?_⟩
  · intro e he
    obtain ⟨o, ho, rfl⟩ := List.mem_map.mp he
    exact hadded o (List.mem_reverse.mp ho)
  · rw [run_delegate m body hpipe, hfirst]
    exact hrun
  · rw [hsystem]
    rfl
  · simp [Machine.events, hhistory, started]

/-- How a process ends whose work has gone so. -/
def closing : Outcome Unit → Ending
  | .returned () => .exit 0
  | .ended .fault => .exit Ending.fault.status
  | .ended (.exit status) => .exit status

theorem run_work {α : Type} :
    run Script.kernel (work body : Activity α) m =
      (.ended (closing (run Script.kernel body m).1), (run Script.kernel body m).2) := by
  rw [work, run_bind, run_attempt]
  match run Script.kernel body m with
  | (.returned (), worked) => rfl
  | (.ended .fault, worked) => rfl
  | (.ended (.exit status), worked) => rfl

theorem run_delegate_daemon {first self : Pid} (hpipe : m.system.pipeError = none)
    (hfirst : Script.nextFork m.system.forks = .child first)
    (hsecond : Script.nextFork m.system.forks.tail = .child self)
    (hsession : m.system.newSessionError = none) :
    ∃ base, run Script.kernel (delegate body).run m =
        (.ended (closing (run Script.kernel body base).1), (run Script.kernel body base).2) ∧
      base.system.pipe = some [] ∧
      base.events = m.events ++ [.asked .openPipe, .asked .fork, .asked .newSession,
        .asked .fork] := by
  let start := started m first m.system.forks.tail
  let base := paired start self start.system.forks.tail
  have hstart : start.system.newSessionError = none := hsession
  have hsecond : Script.nextFork start.system.forks = .child self := hsecond
  have hbetween : run Script.kernel (between body : Activity Daemon) start =
      run Script.kernel (work body) base := by
    rw [run_between, hstart, hsecond]
  refine ⟨base, ?_, rfl, ?_⟩
  · rw [run_delegate m body hpipe, hfirst]
    exact (Fallible.run_lift _ _ _).trans (by rw [hbetween, run_work base body])
  · simp [base, start, paired, started]

end Delegate

end DaemonLaunch
