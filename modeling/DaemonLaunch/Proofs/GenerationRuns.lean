import DaemonLaunch.Launch.Generation
import DaemonLaunch.Proofs.DelegateRuns

/-!
What detaching does on a scripted system, in each of the three processes.
-/

namespace DaemonLaunch

open Activity

/-- What a process that detaches becomes if the system follows the script. -/
def Script.generation (s : Script) : Except LaunchError Generation :=
  match nextFork s.forks with
  | .failed code => .error (.fork .first (.ofCode code))
  | .parent child => .ok (.launcher child)
  | .child _ =>
    match s.newSessionError with
    | some code => .error (.session (.ofCode code))
    | none =>
      match nextFork s.forks.tail with
      | .failed code => .error (.fork .second (.ofCode code))
      | .parent daemon => .ok (.leader daemon)
      | .child _ => .ok .daemon

namespace Handoff

/-- What the process in between learns of itself when it detaches, where it would have reported this
in a delegation. -/
def generation : Handoff → Except LaunchError Generation
  | daemon pid => .ok (.leader pid)
  | noSession errno => .error (.session errno)
  | noFork errno => .error (.fork .second errno)

end Handoff

namespace Generation

variable (m : Machine Script)

def parted (self : Pid) (later : List ForkOutcome) : Machine Script :=
  m.served (m.system.forked self later) [⟨m.now, .asked .fork⟩]

theorem run_fork (stage : ForkStage) :
    run Script.kernel (fork stage).run m =
      match Script.nextFork m.system.forks with
      | .failed code =>
        (.returned (.error (.fork stage (.ofCode code))),
          parted m m.system.self m.system.forks.tail)
      | .parent child => (.returned (.ok (some child)), parted m m.system.self m.system.forks.tail)
      | .child self => (.returned (.ok none), parted m self m.system.forks.tail) := by
  rw [fork, Fallible.run_ask_bind, Machine.ask_eq_served _ _ _ (by simp), Script.serve_fork,
    Script.fork_eq]
  cases Script.nextFork m.system.forks with
  | failed code => rfl
  | parent child => rfl
  | child self => rfl

theorem run_lead_noted (hsession : m.system.newSessionError = none) :
    ∃ event, run Script.kernel lead.run m =
      run Script.kernel part.run ((m.served m.system [⟨m.now, .asked .newSession⟩]).emit
        event) := by
  rw [lead, Fallible.run_ask_bind, Machine.ask_eq_served _ _ _ (by simp), Script.serve_newSession,
    hsession, Script.orFail, Launch.accept_ok, pure_bind, Fallible.run_log_bind]
  exact ⟨_, rfl⟩

theorem run_lead_of_session (hsession : m.system.newSessionError = none) :
    ∃ noted : Machine Script, noted.system = m.system ∧
      noted.events = m.events ++ [.asked .newSession] ∧
      run Script.kernel lead.run m = run Script.kernel part.run noted := by
  obtain ⟨event, hlead⟩ := run_lead_noted m hsession
  exact ⟨_, by simp, by simp, hlead⟩

theorem run_lead_of_refusal {code : ErrorCode} (hsession : m.system.newSessionError = some code) :
    run Script.kernel lead.run m =
      (.returned (.error (.session (.ofCode code))),
        m.served m.system [⟨m.now, .asked .newSession⟩]) := by
  rw [lead, Fallible.run_ask_bind, Machine.ask_eq_served _ _ _ (by simp), Script.serve_newSession,
    hsession, Script.orFail, Launch.accept_error, Fallible.run_throw_bind]

theorem run_part_failed {code : ErrorCode}
    (hforks : Script.nextFork m.system.forks = .failed code) :
    run Script.kernel part.run m = (.returned (.error (.fork .second (.ofCode code))),
      parted m m.system.self m.system.forks.tail) := by
  rw [part, Fallible.run_bind, run_fork, hforks]

theorem run_part_parent {daemon : Pid} (hforks : Script.nextFork m.system.forks = .parent daemon) :
    run Script.kernel part.run m = (.returned (.ok (.leader daemon)),
      (parted m m.system.self m.system.forks.tail).emit
        ⟨.debug, logTarget, "Second fork created pid " ++ daemon.text⟩) := by
  rw [part, Fallible.run_bind, run_fork, hforks]
  rfl

theorem run_part_child {self : Pid} (hforks : Script.nextFork m.system.forks = .child self) :
    run Script.kernel part.run m =
      (.returned (.ok .daemon), parted m self m.system.forks.tail) := by
  rw [part, Fallible.run_bind, run_fork, hforks]
  rfl

/-- The process in between learns what it would have reported. -/
theorem run_lead {h : Handoff}
    (hreports : h.Reports m.system.newSessionError (Script.nextFork m.system.forks)) :
    ∃ final, run Script.kernel lead.run m = (.returned h.generation, final) ∧
      final.events = m.events ++ Delegate.askedBetween m.system.newSessionError := by
  generalize hsession : m.system.newSessionError = session at hreports ⊢
  generalize hsecond : Script.nextFork m.system.forks = second at hreports
  cases hreports with
  | noSession code second =>
    rw [run_lead_of_refusal m hsession]
    exact ⟨_, rfl, by simp [Delegate.askedBetween]⟩
  | noFork code =>
    obtain ⟨noted, hsystem, hevents, hrun⟩ := run_lead_of_session m hsession
    rw [← hsystem] at hsecond
    rw [hrun, run_part_failed noted hsecond]
    exact ⟨_, rfl, by simp [parted, hevents, Delegate.askedBetween]⟩
  | daemon pid =>
    obtain ⟨noted, hsystem, hevents, hrun⟩ := run_lead_of_session m hsession
    rw [← hsystem] at hsecond
    rw [hrun, run_part_parent noted hsecond]
    exact ⟨_, rfl, by simp [parted, hevents, Delegate.askedBetween]⟩

theorem run_detach_failed {code : ErrorCode}
    (hforks : Script.nextFork m.system.forks = .failed code) :
    ∃ final, run Script.kernel detach.run m =
        (.returned (.error (.fork .first (.ofCode code))), final) ∧
      final.events = m.events ++ [.asked .fork] := by
  rw [detach, Fallible.run_bind, run_fork, hforks]
  exact ⟨_, rfl, by simp [parted]⟩

theorem run_detach_launcher {child : Pid}
    (hforks : Script.nextFork m.system.forks = .parent child) :
    ∃ final, run Script.kernel detach.run m = (.returned (.ok (.launcher child)), final) ∧
      final.events = m.events ++ [.asked .fork] := by
  rw [detach, Fallible.run_bind, run_fork, hforks]
  exact ⟨(parted m m.system.self m.system.forks.tail).emit _, rfl, by simp [parted]⟩

theorem run_detach_child {self : Pid} (hforks : Script.nextFork m.system.forks = .child self) :
    run Script.kernel detach.run m =
      run Script.kernel lead.run (parted m self m.system.forks.tail) := by
  rw [detach, Fallible.run_bind, run_fork, hforks]

theorem run_detach_between {self : Pid} {h : Handoff}
    (hfirst : Script.nextFork m.system.forks = .child self)
    (hreports : h.Reports m.system.newSessionError (Script.nextFork m.system.forks.tail)) :
    ∃ final, run Script.kernel detach.run m = (.returned h.generation, final) ∧
      final.events = m.events ++ [.asked .fork] ++
        Delegate.askedBetween m.system.newSessionError := by
  obtain ⟨final, hrun, hevents⟩ := run_lead (parted m self m.system.forks.tail) hreports
  rw [run_detach_child m hfirst, hrun]
  exact ⟨final, rfl, by simp [hevents, parted, Script.forked]⟩

theorem run_detach_daemon {first self : Pid}
    (hfirst : Script.nextFork m.system.forks = .child first)
    (hsecond : Script.nextFork m.system.forks.tail = .child self)
    (hsession : m.system.newSessionError = none) :
    ∃ final, run Script.kernel detach.run m = (.returned (.ok .daemon), final) ∧
      final.events = m.events ++ [.asked .fork, .asked .newSession, .asked .fork] := by
  obtain ⟨noted, hsystem, hevents, hrun⟩ :=
    run_lead_of_session (parted m first m.system.forks.tail) hsession
  have hnoted : Script.nextFork noted.system.forks = .child self := by
    rw [hsystem]
    exact hsecond
  rw [run_detach_child m hfirst, hrun, run_part_child noted hnoted]
  exact ⟨_, rfl, by simp [parted, hevents]⟩

theorem run_detach : ∃ final, run Script.kernel detach.run m =
    (.returned m.system.generation, final) := by
  rw [Script.generation]
  cases hfirst : Script.nextFork m.system.forks with
  | failed code =>
    obtain ⟨final, hrun, -⟩ := run_detach_failed m hfirst
    exact ⟨final, hrun⟩
  | parent child =>
    obtain ⟨final, hrun, -⟩ := run_detach_launcher m hfirst
    exact ⟨final, hrun⟩
  | child self =>
    let led := parted m self m.system.forks.tail
    rw [run_detach_child m hfirst]
    cases hsession : m.system.newSessionError with
    | some code => exact ⟨_, run_lead_of_refusal led hsession⟩
    | none =>
      obtain ⟨noted, hsystem, -, hlead⟩ := run_lead_of_session led hsession
      rw [hlead]
      have hforks : noted.system.forks = m.system.forks.tail := congrArg Script.forks hsystem
      rw [← hforks]
      cases hsecond : Script.nextFork noted.system.forks with
      | failed code => exact ⟨_, run_part_failed noted hsecond⟩
      | parent daemon => exact ⟨_, run_part_parent noted hsecond⟩
      | child self => exact ⟨_, run_part_child noted hsecond⟩

end Generation

end DaemonLaunch
