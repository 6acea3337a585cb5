import DaemonLaunch.Launch.Sleeper
import DaemonLaunch.Proofs.GenerationRuns
import DaemonLaunch.Proofs.StepwiseRuns

/-!
The daemon of a launch is fail-stop. It goes through its steps in a fixed order; at the first one
that fails it stops, returns the error of this step and does nothing more.
-/

namespace DaemonLaunch

open Activity

section Steps

variable (m : Machine Script)

private theorem walked_parted (self : Pid) (forks : List ForkOutcome) :
    Walked m (Generation.parted m self forks) [.asked .fork] where
  fine := by simp [Script.failure?]
  answers := rfl
  shown := by simp [Machine.shown, Generation.parted, Event.isVisible, Event.label?]
  now := rfl
  detached := rfl

private theorem passes_redirect (stream : Stream) :
    Passes m [.asked (.redirect stream)] (run Script.kernel (Launch.redirect stream).run m) := by
  have hreply : (m.ask Script.kernel (.redirect stream)).1 =
      Script.orFail (m.system.redirectErrors.lookup stream) () := rfl
  have hdetached : (m.ask Script.kernel (.redirect stream)).2.detached =
      ((m.record (.asked (.redirect stream))).noteRedirect (.redirect stream)
        (Script.orFail (m.system.redirectErrors.lookup stream) ())).detached := rfl
  rw [Launch.redirect, Fallible.run_ask_bind, hreply]
  apply Passes.accept m rfl rfl rfl (m.ask_system _ _)
  · intro hnone
    rw [hdetached, hnone]
    rfl
  · intro code hsome
    rw [hdetached, hsome]
    rfl

private theorem passes_redirects (streams : List Stream) :
    Passes m (streams.map fun stream => .asked (.redirect stream))
      (run Script.kernel (streams.forM Launch.redirect).run m) := by
  induction streams generalizing m with
  | nil => exact .through (.refl m)
  | cons stream streams ih => exact .bind (passes_redirect m stream) ih

private theorem passes_detachStreams :
    Passes m (.asked .openNull :: Stream.all.map fun stream => .asked (.redirect stream))
      (run Script.kernel Launch.detachStreams.run m) := by
  let opening : Launch Unit := do
    Launch.accept (fun code => .streams (.noNullDevice (.system code))) (← ask .openNull)
  have hopening : Passes m [.asked .openNull] (run Script.kernel opening.run m) :=
    .accept m rfl rfl rfl rfl (fun _ => rfl) fun _ _ => rfl
  have hsplit : Launch.detachStreams = opening >>= fun _ => Stream.all.forM Launch.redirect :=
    (LawfulMonad.bind_assoc _ _ _).symm
  rw [hsplit]
  exact .bind hopening fun opened => passes_redirects opened Stream.all

private theorem passes_enterRoot :
    Passes m [.asked (.enterDirectory "/")] (run Script.kernel Launch.enterRoot.run m) :=
  .accept m rfl rfl rfl rfl (fun _ => rfl) fun _ _ => rfl

private theorem passes_nap (span : Span) :
    Passes m [.slept span] (run Script.kernel (liftM (nap span) : Launch Unit).run m) := by
  obtain ⟨first, last, hnap⟩ : ∃ first last : Pid → LogEvent, nap span =
      call (.ask .ownId) fun self => call (.emit (first self)) fun _ => call (.sleep span) fun _ =>
        call (.ask .ownId) fun self => call (.emit (last self)) fun _ => done () := ⟨_, _, rfl⟩
  rw [Fallible.run_lift, hnap]
  exact .through ((Walked.noted m _).trans ((Walked.sleep _ span).trans (Walked.noted _ _)))

end Steps

namespace Sleeper

/-- What the daemon does to its surroundings. -/
def adjustments (settings : Settings) : List Event :=
  (if settings.detachStreams then .asked .openNull :: Stream.all.map fun stream =>
    .asked (.redirect stream) else []) ++
    if settings.enterRoot then [.asked (.enterDirectory "/")] else []

/-- The steps of the daemon, from the first fork on. -/
def course (settings : Settings) : List Event :=
  [.asked .fork, .asked .newSession,
    .asked .fork] ++ adjustments settings ++ [.slept settings.sleepSpan]

private theorem passes_dwell (settings : Settings) (m : Machine Script) :
    Passes m (adjustments settings ++ [.slept settings.sleepSpan])
      (run Script.kernel (dwell settings).run m) := by
  -- what follows a switch stands in both of its branches, so the steps are put together from the
  -- last one backwards
  let napping : Launch Unit := liftM (nap settings.sleepSpan)
  have hnap : ∀ m, Passes m [.slept settings.sleepSpan] (run Script.kernel napping.run m) :=
    fun m => passes_nap m settings.sleepSpan
  have hroot : ∀ m,
      Passes m ((if settings.enterRoot then [.asked (.enterDirectory "/")] else []) ++
          [.slept settings.sleepSpan])
        (run Script.kernel
          (if settings.enterRoot then Launch.enterRoot >>= fun _ => napping else napping).run m) := by
    intro m
    cases settings.enterRoot with
    | true => exact .bind (passes_enterRoot m) hnap
    | false => exact hnap m
  rw [dwell, Fallible.run_ask_bind, Fallible.run_log_bind, adjustments, List.append_assoc]
  apply Passes.after (Walked.noted m _)
  cases settings.detachStreams with
  | true => exact .bind (passes_detachStreams _) hroot
  | false => exact hroot _

private theorem walked_session {m : Machine Script} (hsession : m.system.newSessionError = none) :
    Walked m (m.served m.system [⟨m.now, .asked .newSession⟩]) [.asked .newSession] where
  fine := by simp [Script.failure?, hsession]
  answers := rfl
  shown := by simp [Machine.shown, Event.isVisible, Event.label?]
  now := rfl
  detached := rfl

theorem passes_launchSleeper (settings : Settings) {m : Machine Script} {p d : Pid}
    {later : List ForkOutcome} (hforks : m.system.forks = .child p :: .child d :: later) :
    Passes m (course settings) (run Script.kernel (launchSleeper settings).run m) := by
  have hfirst : Script.nextFork m.system.forks = .child p := congrArg Script.nextFork hforks
  let child := Generation.parted m p m.system.forks.tail
  have hchild : Walked m child [.asked .fork] := walked_parted m p m.system.forks.tail
  rw [launchSleeper, Fallible.run_bind, Generation.run_detach_child m hfirst]
  cases hsession : m.system.newSessionError with
  | some code =>
    rw [Generation.run_lead_of_refusal child hsession]
    have hfails : m.system.failure? (.asked .newSession) = some (.session (.ofCode code)) := by
      rw [Script.failure?, hsession]
      rfl
    have hcourse : course settings =
        [.asked .fork] ++ .asked .newSession ::
          (.asked .fork :: adjustments settings ++ [.slept settings.sleepSpan]) := by
      simp [course]
    refine .stopped hcourse hchild hfails ?_ rfl rfl
    simp [Machine.shown, Event.isVisible, Event.label?]
  | none =>
    have hsession : child.system.newSessionError = none := hsession
    obtain ⟨event, hlead⟩ := Generation.run_lead_noted child hsession
    let leader := (child.served child.system [⟨child.now, .asked .newSession⟩]).emit event
    have hleader : Walked child leader [.asked .newSession] :=
      (walked_session hsession).trans (.emit _ event)
    have hsecond : Script.nextFork leader.system.forks = .child d := by
      have hsystem : leader.system = child.system := Machine.emit_system _ event
      rw [hsystem]
      exact congrArg (fun forks => Script.nextFork forks.tail) hforks
    have hdaemon := walked_parted leader d leader.system.forks.tail
    rw [hlead, Generation.run_part_child leader hsecond, course, List.append_assoc]
    exact .after (hchild.trans (hleader.trans hdaemon)) (passes_dwell settings _)

private theorem timeSlept_adjustments (settings : Settings) :
    (adjustments settings).filterMap Event.slept? = [] := by
  rw [adjustments]
  cases settings.detachStreams <;> cases settings.enterRoot <;> rfl

private theorem timeSlept_before {settings : Settings} {s : Script} {before after : List Event}
    {step : Event} {e : LaunchError}
    (hcourse : course settings = before ++ step :: after) (hfails : s.failure? step = some e) :
    Event.timeSlept before = 0 := by
  -- the failing step lies before the sleep or is the sleep, which has no failure
  let awake := [.asked .fork, .asked .newSession, .asked .fork] ++ adjustments settings
  have hawake : awake.filterMap Event.slept? = [] := by
    rw [List.filterMap_append, timeSlept_adjustments]
    rfl
  have hsplit : before ++ step :: after = awake ++ [.slept settings.sleepSpan] := hcourse.symm
  obtain ⟨rest, hbefore, -⟩ | ⟨rest, -, hlast⟩ := List.append_eq_append_iff.mp hsplit
  · have hnone : before.filterMap Event.slept? ++ rest.filterMap Event.slept? = [] := by
      rw [← List.filterMap_append, ← hbefore, hawake]
    rw [Event.timeSlept, (List.append_eq_nil_iff.mp hnone).1]
    rfl
  · have hstep : step = .slept settings.sleepSpan := by
      cases rest with
      | nil => exact (List.cons.inj hlast).1.symm
      | cons first rest => simp at hlast
    rw [hstep] at hfails
    cases hfails

private theorem timeSlept_course (settings : Settings) :
    Event.timeSlept (course settings) = settings.sleepSeconds * 1000000000 := by
  rw [course, Event.timeSlept, List.filterMap_append, List.filterMap_append, timeSlept_adjustments]
  exact Nat.add_zero _

private theorem traceOf_slept (span : Span) :
    traceOf [.slept span] = if span.nanoseconds = 0 then [] else [.sleep span] := by
  rcases span with ⟨_ | n⟩
  · rfl
  · rfl

private theorem traceOf_course (settings : Settings) :
    traceOf (course settings) = [.call "fork", .call "setsid", .call "fork"] ++
    (if settings.detachStreams then
      [.call "open /dev/null", .call "dup2 0", .call "dup2 1", .call "dup2 2"] else []) ++
    (if settings.enterRoot then [.call "chdir /"] else []) ++
    (if settings.sleepSeconds = 0 then [] else [.sleep ⟨settings.sleepSeconds * 1000000000⟩]) := by
  have hzero : settings.sleepSpan.nanoseconds = 0 ↔ settings.sleepSeconds = 0 := by
    simp only [Settings.sleepSpan, Span.ofSeconds]
    omega
  have hsleep : [Event.slept settings.sleepSpan].foldr TraceLine.prepend [] =
      if settings.sleepSeconds = 0 then [] else [.sleep ⟨settings.sleepSeconds * 1000000000⟩] := by
    simp only [← hzero]
    exact traceOf_slept settings.sleepSpan
  rw [traceOf, course, List.foldr_append, hsleep, adjustments]
  cases settings.detachStreams <;> cases settings.enterRoot <;> rfl

end Sleeper

/-- The daemon takes its steps up to the first that fails. It succeeds just if none fails; otherwise
it returns the error of that step, no time has passed, and the streams redirected are those before
it. -/
theorem daemon_fail_stop (settings : Settings) (s : Script) (files : FileSystem)
    (logger : Option Logger) {p d : Pid}
    {later : List ForkOutcome} (hforks : s.forks = .child p :: .child d :: later) :
    let course := Sleeper.course settings
    (∃ result final, run Script.kernel (launchSleeper settings).run (.fresh s files logger) =
      (.returned result, final) ∧
      (result = .ok () ↔ ∀ step ∈ course, s.failure? step = none) ∧
      (result = .ok () → final.trace = traceOf course ∧
      final.now = ⟨settings.sleepSeconds * 1000000000⟩ ∧
        final.detached.reverse = course.filterMap Event.redirected?) ∧
      ∀ before step after e, course = before ++ step :: after →
        (∀ earlier ∈ before, s.failure? earlier = none) →
        s.failure? step = some e → result = .error e ∧ final.trace = traceOf (before ++ [step]) ∧
        final.now = ⟨0⟩ ∧
          final.detached.reverse = before.filterMap Event.redirected?) ∧
    traceOf course = [.call "fork", .call "setsid", .call "fork"] ++
      (if settings.detachStreams then
        [.call "open /dev/null", .call "dup2 0", .call "dup2 1", .call "dup2 2"] else []) ++
      (if settings.enterRoot then [.call "chdir /"] else []) ++
      (if settings.sleepSeconds = 0 then []
        else [.sleep ⟨settings.sleepSeconds * 1000000000⟩]) := by
  intro course
  refine ⟨?_, Sleeper.traceOf_course settings⟩
  have hpasses : Passes (.fresh s files logger) course
      (run Script.kernel (launchSleeper settings).run (.fresh s files logger)) :=
    Sleeper.passes_launchSleeper settings hforks
  obtain ⟨result, final, hrun, hok, hthrough, hstopped⟩ := hpasses.of_fresh
  refine ⟨result, final, hrun, hok, ?_, ?_⟩
  · intro hresult
    obtain ⟨htrace, hnow, hdetached⟩ := hthrough hresult
    rw [Sleeper.timeSlept_course] at hnow
    exact ⟨htrace, hnow, hdetached⟩
  · intro before step after e hcourse hbefore hfails
    obtain ⟨hresult, htrace, hnow, hdetached⟩ := hstopped before step after e hcourse hbefore hfails
    rw [Sleeper.timeSlept_before hcourse hfails] at hnow
    exact ⟨hresult, htrace, hnow, hdetached⟩

/-- The second redirection fails. -/
theorem daemon_fail_stop_at_stdout :
    let s : Script := { forks := [.child ⟨5⟩, .child ⟨6⟩], redirectErrors := [(.output, ⟨9⟩)] }
    ∃ final, run Script.kernel (launchSleeper {}).run (.fresh s {} none) =
        (.returned (.error (.streams (.notRedirected .output (.ofCode ⟨9⟩)))), final) ∧
      final.trace = [.call "fork", .call "setsid", .call "fork", .call "open /dev/null",
        .call "dup2 0", .call "dup2 1"] ∧
      final.now = ⟨0⟩ ∧ final.detached = [.input] := by
  intro s
  obtain ⟨⟨result, final, hrun, -, -, hfailed⟩, -⟩ := daemon_fail_stop {} s {} none rfl
  obtain ⟨hresult, htrace, hnow, hdetached⟩ := hfailed
    [.asked .fork, .asked .newSession, .asked .fork, .asked .openNull, .asked (.redirect .input)]
    (.asked (.redirect .output))
    [.asked (.redirect .error), .slept ⟨200000000000⟩] _ rfl (by decide) rfl
  rw [hresult] at hrun
  exact ⟨final, hrun, htrace, hnow, List.reverse_inj.mp hdetached⟩

end DaemonLaunch
