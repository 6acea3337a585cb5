import DaemonLaunch.Proofs.SameProtocol

/-!
The child of a delegation does not come back to what the caller does next. As the daemon it does the
work once and ends with it; as the process in between it sends its report and ends.
-/

namespace DaemonLaunch

open Activity

namespace Delegate

/-- A call that neither leaves this mark nor writes to the pipe. -/
def SparesPipeAndMark (label : String) (c : Call) : Prop :=
  c ≠ .mark label ∧ ∀ bytes, c ≠ .ask (.send bytes)

variable {label : String} {body : Activity Unit}

private theorem count_recorded {c : Call} (hc : SparesPipeAndMark label c) :
    c.recorded.count (.marked label) = 0 := by
  cases c with
  | mark label' =>
    have hother : label' ≠ label := fun h => hc.1 (congrArg Call.mark h)
    simp [Call.recorded, hother]
  | _ => simp [Call.recorded]

private theorem run_spares (hbody : body.Only (SparesPipeAndMark label)) {m : Machine Script}
    {count : Nat}
    (hempty : m.system.pipe = some []) (hmarked : m.events.count (.marked label) = count) :
    (run Script.kernel body m).2.system.pipe = some [] ∧
      (run Script.kernel body m).2.events.count (.marked label) = count := by
  let Kept (m : Machine Script) : Prop :=
    m.system.pipe = some [] ∧ m.events.count (.marked label) = count
  have hstep : ∀ m c, SparesPipeAndMark label c → Kept m → Kept (m.perform Script.kernel c).2 := by
    rintro m c hc ⟨hempty, hmarked⟩
    refine ⟨Machine.perform_pipe_empty hc.2 hempty, ?_⟩
    rw [Machine.events_perform, List.count_append, count_recorded hc]
    exact hmarked
  exact hbody.run_keeps hstep ⟨hempty, hmarked⟩

private theorem marked_of_run {m : Machine Script} (hmarked : .marked label ∈ m.events) :
    .marked label ∈ (run Script.kernel body m).2.events := by
  have hany : body.Only fun _ => True := .of_forall (fun _ => trivial) body
  obtain ⟨added, hevents, -⟩ := hany.run_events Script.kernel m
  rw [hevents]
  exact List.mem_append_left added hmarked

variable (body) (label) (m : Machine Script)

private theorem run_daemon {first self : Pid} (hnew : m.events = [])
    (hpipe : m.system.pipeError = none) (hfirst : Script.nextFork m.system.forks = .child first)
    (hsecond : Script.nextFork m.system.forks.tail = .child self)
    (hsession : m.system.newSessionError = none) :
    ∃ working : Machine Script,
      working.events = [.asked .openPipe, .asked .fork, .asked .newSession, .asked .fork,
        .marked label] ∧
      working.system.pipe = some [] ∧ run Script.kernel (delegate (marked label body)).run m =
        (.ended (closing (run Script.kernel body working).1),
          (run Script.kernel body working).2) := by
  obtain ⟨base, hdelegate, hempty, hevents⟩ :=
    run_delegate_daemon m (marked label body) hpipe hfirst hsecond hsession
  refine ⟨base.record (.marked label), ?_, hempty, hdelegate⟩
  have hrecorded : (base.record (.marked label)).events = base.events ++ [.marked label] :=
    Machine.events_perform Script.kernel base (.mark label)
  rw [hrecorded, hevents, hnew]
  rfl

private theorem reports_daemon_iff {session : Option ErrorCode} {second : ForkOutcome} {h : Handoff}
    (hreports : h.Reports session second) :
    (∃ daemon, h = .daemon daemon) ↔ session = none ∧ ∃ daemon, second = .parent daemon := by
  cases hreports with
  | noSession code second => simp
  | noFork code => simp
  | daemon pid => simp

private theorem exitStatus_eq_zero_iff (h : Handoff) (taken : Nat) :
    h.exitStatus taken = 0 ↔ (∃ daemon, h = .daemon daemon) ∧ taken = Handoff.size := by
  cases h with
  | daemon pid => simp [Handoff.exitStatus]
  | noSession errno => simp [Handoff.exitStatus]
  | noFork errno => simp [Handoff.exitStatus]

private theorem exitStatus_cases (h : Handoff) (taken : Nat) :
    h.exitStatus taken = 0 ∨ h.exitStatus taken = 1 := by
  cases h with
  | daemon pid =>
    by_cases hall : taken = Handoff.size
    · exact .inl (if_pos hall)
    · exact .inr (if_neg hall)
  | noSession errno => exact .inr rfl
  | noFork errno => exact .inr rfl

/-- What the process in between leaves behind when it has exited with a status. -/
structure Reported (files : FileSystem) (s : Script) (h : Handoff) (status : Nat)
    (written : List UInt8)
    (final : Machine Script) : Prop where
  pipe : final.system.pipe = some written
  part : written <+: h.bytes
  whole : s.TakesWrites → written = h.bytes
  reaped : final.reaped = []
  quiet : final.files = files ∧ final.complaints = ""
  tells : status = 0 ∨ status = 1
  success : status = 0 ↔
    (s.newSessionError = none ∧ ∃ daemon, Script.nextFork s.forks.tail = .parent daemon) ∧
      written.length = Handoff.size

private theorem run_reporter (s : Script) (files : FileSystem) (logger : Option Logger)
    {first : Pid} {h : Handoff}
    (hpipe : s.pipeError = none) (hfirst : Script.nextFork s.forks = .child first)
    (hreports : h.Reports s.newSessionError (Script.nextFork s.forks.tail)) :
    ∃ status written final,
      run Script.kernel (delegate (marked label body)).run (.fresh s files logger) =
        (.ended (.exit status), final) ∧
      .marked label ∉ final.events ∧ Reported files s h status written final := by
  let m : Machine Script := .fresh s files logger
  obtain ⟨taken, sent, final, htaken, hall, hsent, ⟨hfiles, hcomplaints⟩, hrun, hwritten,
    hevents⟩ :=
    run_delegate_between m (marked label body) hpipe hfirst hreports
  have hevents : final.events = [.asked .openPipe,
      .asked .fork] ++ askedBetween s.newSessionError ++ sent := hevents
  have hlength : (h.bytes.take taken).length = taken := by
    rw [List.length_take, h.length_bytes, Nat.min_eq_left htaken]
  have hmarked : .marked label ∉ final.events := by
    intro hmem
    rw [hevents] at hmem
    obtain hasked | hmem := List.mem_append.mp hmem
    · revert hasked
      cases s.newSessionError <;> simp [askedBetween]
    · obtain ⟨part, h⟩ := hsent _ hmem
      cases h
  refine ⟨_, _, final, hrun, hmarked, hwritten, List.take_prefix taken _, ?_, ?_,
    ⟨hfiles, hcomplaints⟩,
    exitStatus_cases h taken, ?_⟩
  · intro hwrites
    have htaken : taken = Handoff.size := hall hwrites
    exact List.take_of_length_le (Nat.le_of_eq (h.length_bytes.trans htaken.symm))
  · have hreaped : sent.filterMap Event.reaped? = [] := by
      rw [List.filterMap_eq_nil_iff]
      intro e he
      obtain ⟨part, rfl⟩ := hsent e he
      rfl
    rw [Machine.reaped, hevents, List.filterMap_append, hreaped]
    cases s.newSessionError <;> rfl
  · rw [exitStatus_eq_zero_iff, hlength, reports_daemon_iff hreports]

/-- A process that has been forked for a delegation always exits. It does the work just if it is the
daemon, once, after its session and the second fork, and its status tells how the work went.
Otherwise it writes its report to the pipe and nothing else anywhere, and its status tells whether
there is a daemon and the whole report has been written. -/
theorem child_always_exits (body : Activity Unit) (label : String) (s : Script) (files : FileSystem)
    (logger : Option Logger)
    {first : Pid} (hpipe : s.pipeError = none) (hfirst : Script.nextFork s.forks = .child first) :
    let ran := run Script.kernel (delegate (marked label body)).run (.fresh s files logger)
    let isDaemon := s.newSessionError = none ∧ ∃ self, Script.nextFork s.forks.tail = .child self
    (∃ status, ran.1 = .ended (.exit status)) ∧ (.marked label ∈ ran.2.events ↔ isDaemon) ∧
    (isDaemon → ∃ working : Machine Script,
      working.events = [.asked .openPipe, .asked .fork, .asked .newSession, .asked .fork,
        .marked label] ∧
      ran.2 = (run Script.kernel body working).2 ∧
      ((run Script.kernel body working).1 = .returned () → ran.1 = .ended (.exit 0)) ∧
      ((run Script.kernel body working).1 = .ended .fault → ran.1 = .ended (.exit 101)) ∧
      (body.Only (SparesPipeAndMark label) →
      ran.2.events.count (.marked label) = 1 ∧ ran.2.system.pipe = some [])) ∧
    (¬ isDaemon → ∃ report status written,
      report.Reports s.newSessionError (Script.nextFork s.forks.tail) ∧
      ran.1 = .ended (.exit status) ∧ Reported files s report status written ran.2) := by
  intro ran isDaemon
  by_cases hdaemon : isDaemon
  -- the daemon: it works, and what comes of the work closes the process
  · obtain ⟨hsession, self, hsecond⟩ := hdaemon
    obtain ⟨working, hworking, hempty, hrun⟩ :=
      run_daemon label body (.fresh s files logger) rfl hpipe hfirst hsecond hsession
    have hran : ran = (.ended (closing (run Script.kernel body working).1),
        (run Script.kernel body working).2) := hrun
    have hmarked : .marked label ∈ working.events := by
      rw [hworking]
      simp
    refine ⟨?_, ⟨fun _ => ⟨hsession, self, hsecond⟩, fun _ => ?_⟩,
      fun _ => ⟨working, hworking, ?_, ?_, ?_, ?_⟩,
      fun hother => absurd ⟨hsession, self, hsecond⟩ hother⟩
    · rw [hran]
      rcases (run Script.kernel body working).1 with ⟨⟩ | status | _
      · exact ⟨0, rfl⟩
      · exact ⟨status, rfl⟩
      · exact ⟨101, rfl⟩
    · rw [hran]
      exact marked_of_run hmarked
    · rw [hran]
    · intro hreturned
      rw [hran, hreturned]
      rfl
    · intro hbroken
      rw [hran, hbroken]
      rfl
    · intro hspares
      have honce : working.events.count (.marked label) = 1 := by
        rw [hworking]
        simp
      rw [hran]
      exact (run_spares hspares hempty honce).symm
  -- the process in between: there is something to report
  · obtain ⟨report, hreports⟩ :=
      Handoff.exists_report fun hsession self hsecond => hdaemon ⟨hsession, self, hsecond⟩
    obtain ⟨status, written, final, hrun, hmarked, hreported⟩ :=
      run_reporter label body s files logger hpipe hfirst hreports
    have hran : ran = (.ended (.exit status), final) := hrun
    rw [hran]
    exact ⟨⟨status, rfl⟩, ⟨fun hmem => absurd hmem hmarked, fun hself => absurd hself hdaemon⟩,
      fun hself => absurd hself hdaemon, fun _ =>
        ⟨report, status, written, hreports, rfl, hreported⟩⟩

/-- The work of the daemon breaks off after a sleep; where there is no daemon, the pipe tells
why. -/
theorem child_always_exits_after_fault :
    let body : Activity Unit := do
      perform (.sleep ⟨5⟩)
      fault
    let daemon : Script := { forks := [.child ⟨5⟩, .child ⟨6⟩] }
    let between : Script := { forks := [.child ⟨5⟩, .failed 11], sendLimit := some 3 }
    let ran (s : Script) := run Script.kernel (delegate (marked "work" body)).run (.fresh s {} none)
    ((ran daemon).1 = .ended (.exit 101) ∧ (ran daemon).2.events.count (.marked "work") = 1) ∧
      (ran between).1 = .ended (.exit 1) ∧ .marked "work" ∉ (ran between).2.events ∧
        (ran between).2.system.pipe = some (Handoff.noFork (.ofCode 11)).bytes := by
  intro body daemon between ran
  have hspares : body.Only (SparesPipeAndMark "work") :=
    Only.bind (Only.perform ⟨by simp, by simp⟩) fun _ => trivial
  obtain ⟨-, -, hworks, -⟩ := child_always_exits body "work" daemon {} none rfl rfl
  obtain ⟨working, -, -, -, hbroken, honce⟩ := hworks ⟨rfl, ⟨6⟩, rfl⟩
  have hnobody : ¬ (between.newSessionError = none ∧ ∃ self, Script.nextFork between.forks.tail =
      .child self) := by
    rintro ⟨-, self, hself⟩
    cases hself
  obtain ⟨-, hmarked, -, hbetween⟩ := child_always_exits body "work" between {} none rfl rfl
  obtain ⟨report, status, written, hreports, hstatus, hreported⟩ := hbetween hnobody
  have hreport : report = .noFork (.ofCode 11) := by
    cases hreports
    rfl
  have hfailed : status = 1 := by
    refine hreported.tells.resolve_left fun hzero => ?_
    obtain ⟨⟨-, daemon, hdaemon⟩, -⟩ := hreported.success.mp hzero
    cases hdaemon
  have hwhole : written = report.bytes := hreported.whole ⟨by simp [between], rfl, by decide⟩
  refine ⟨⟨hbroken rfl, (honce hspares).1⟩, ?_, fun hmem => hnobody (hmarked.mp hmem), ?_⟩
  · rw [← hfailed]
    exact hstatus
  · rw [← hreport, ← hwhole]
    exact hreported.pipe

end Delegate

end DaemonLaunch
