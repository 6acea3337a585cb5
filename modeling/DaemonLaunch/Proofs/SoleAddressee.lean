import DaemonLaunch.Activity.Script
import DaemonLaunch.Launch.Delegate
import DaemonLaunch.Proofs.HandoffRecord
import DaemonLaunch.Proofs.Restraint

/-!
Whom a daemon's handle addresses. Every way to come by a handle gives it a positive identifier, and
whatever is done with it is asked about this identifier only, so no group of processes and not the
caller itself can be meant.
-/

namespace DaemonLaunch

open Activity

/-- The process that a request is about. -/
def Request.addressee? : Request → Option Pid
  | .kill target _ => some target
  | .sessionOf target => some target
  | .readStatus target => some target
  | _ => none

/-- A call for nobody but one process: it asks about that process, looks at the clock, lets time
pass or writes to the log. -/
def Call.IsFor (pid : Pid) : Call → Prop
  | .ask request => request.addressee? = some pid
  | .now => True
  | .sleep _ => True
  | .emit _ => True
  | _ => False

namespace Handoff

private theorem yields_receive :
    receive.run.Yields fun received => ∀ h, received = .ok h → h.Proper := by
  intro interruptions
  let bytes := ExceptT.adapt LaunchError.handoff (receiveBytes interruptions size)
  have hbytes : bytes.run.Yields fun result => ∀ bytes, result = .ok bytes → True :=
    .of_forall (fun _ _ _ => trivial) _
  apply hbytes.except_bind
  · intro bytes _ h hread
    exact proper_of_decode hread
  · rintro e h ⟨⟩

end Handoff

namespace Delegate

private theorem yields_report {α : Type} (good : α → Prop) (h : Handoff) :
    (report h : Activity α).Yields good := by
  intro interruptions
  have hwritten : ((pipeEnd interruptions).writeAll h.bytes).Yields fun _ => True :=
    .of_forall (fun _ => trivial) _
  apply hwritten.bind
  intro result _
  rcases result with _ | _
  · trivial
  · cases h <;> trivial

private theorem yields_work {α : Type} (good : α → Prop) (body : Activity Unit) :
    (work body : Activity α).Yields good := by
  have hdone : body.attempt.Yields fun _ => True := .of_forall (fun _ => trivial) _
  apply hdone.bind
  intro result _
  cases result with
  | some done => trivial
  | none => trivial

private theorem yields_between {α : Type} (good : α → Prop) (body : Activity Unit) :
    (between body : Activity α).Yields good := by
  intro session
  cases session with
  | error code => exact yields_report good _
  | ok session =>
    intro forked
    match forked with
    | .error code => exact yields_report good _
    | .ok (.parent daemon) => exact yields_report good _
    | .ok .child => exact yields_work good body

end Delegate

namespace Daemon

/-- A result that is no daemon with an improper identifier. -/
def IsProperResult (result : Except LaunchError Daemon) : Prop :=
  ∀ d, result = .ok d → 0 < d.pid.number

private theorem isProperResult_error (e : LaunchError) : IsProperResult (.error e) := by
  intro d h
  cases h

private theorem yields_adopt {received : Except LaunchError Handoff}
    (hreceived : ∀ h, received = .ok h → h.Proper) :
    (Delegate.adopt received).run.Yields IsProperResult := by
  cases received with
  | error cause => exact isProperResult_error _
  | ok h =>
    cases h with
    | daemon pid =>
      intro _ d hd
      cases hd
      exact hreceived _ rfl
    | noSession errno => exact isProperResult_error _
    | noFork errno => exact isProperResult_error _

private theorem yields_takeOver (child : Pid) :
    (Delegate.takeOver child).run.Yields IsProperResult := by
  have hreceived : (liftM Handoff.receive.run : Launch (Except LaunchError Handoff)).run.Yields
      fun result => ∀ received, result = .ok received → ∀ h, received = .ok h → h.Proper := by
    apply Handoff.yields_receive.bind
    intro received hproper received' heq
    cases heq
    exact hproper
  apply hreceived.except_bind
  · intro received hproper reply
    cases reply with
    | ok done => exact yields_adopt hproper
    | error code =>
      intro _
      exact yields_adopt hproper
  · exact isProperResult_error

/-- A delegation gives no improper daemon, whatever the system answers. -/
theorem yields_delegate (body : Activity Unit) : (delegate body).run.Yields IsProperResult := by
  intro piped
  cases piped with
  | error code => exact isProperResult_error _
  | ok done =>
    intro forked
    match forked with
    | .error code => exact isProperResult_error _
    | .ok (.parent child) => exact yields_takeOver child
    -- the child never returns to its caller's code, so it gives no handle at all
    | .ok .child =>
      have hbetween : (Delegate.between body : Activity Daemon).Yields fun _ => False :=
        Delegate.yields_between _ body
      exact hbetween.bind fun _ hreturned => hreturned.elim

private theorem proper_of_ofNumber {number : Int32} {d : Daemon} (h : ofNumber number = .ok d) :
    0 < d.pid.number := by
  rw [ofNumber] at h
  split at h
  case isTrue => cases h
  case isFalse hpositive =>
    cases h
    exact Int32.not_le.mp hpositive

private theorem proper_of_ofAnnouncement {line : String} {d : Daemon}
    (h : ofAnnouncement line = .ok d) : 0 < d.pid.number := by
  rw [ofAnnouncement] at h
  split at h
  · cases h
  · exact proper_of_ofNumber h

/-- How one comes by a handle. -/
inductive Obtained : Daemon → Prop
  | ofNumber {number : Int32} {d : Daemon} (h : ofNumber number = .ok d) : Obtained d
  | ofAnnouncement {line : String} {d : Daemon} (h : ofAnnouncement line = .ok d) : Obtained d
  | delegated {σ : Type} {k : Kernel σ} {body : Activity Unit} {m final : Machine σ} {d : Daemon}
      (h : run k (delegate body).run m = (.returned (.ok d), final)) : Obtained d

theorem Obtained.proper {d : Daemon} (h : Obtained d) : 0 < d.pid.number := by
  cases h with
  | ofNumber h => exact proper_of_ofNumber h
  | ofAnnouncement h => exact proper_of_ofAnnouncement h
  | delegated h => exact (yields_delegate _).of_run h d rfl

/-- What can be done with a handle. -/
inductive Operation
  | pid
  | isRunning
  | session
  | leadsSession
  | hasTerminal
  | signal (signal : Signal)
  | awaitEnd (timeout : Span)
  | stop (timeout : Span)

/-- Does it, and forgets what comes of it. -/
def act (d : Daemon) : Operation → Activity Unit
  | .pid => pure ()
  | .isRunning => do let _ ← d.isRunning
  | .session => do let _ ← d.session.run
  | .leadsSession => do let _ ← d.leadsSession.run
  | .hasTerminal => do let _ ← d.hasTerminal
  | .signal signal => do let _ ← (d.signal signal).run
  | .awaitEnd timeout => do let _ ← d.awaitEnd timeout
  | .stop timeout => do let _ ← (d.stop timeout).run

variable (d : Daemon)

private theorem only_status : d.status.Only (Call.IsFor d.pid) := by
  refine ⟨rfl, ?_⟩
  intro reply
  cases reply with
  | ok bytes => trivial
  | error code => trivial

private theorem only_alive : (isRunning.alive d).Only (Call.IsFor d.pid) := by
  apply d.only_status.bind
  intro status
  cases status with
  | some status => trivial
  | none => trivial

private theorem only_isRunning : d.isRunning.Only (Call.IsFor d.pid) := by
  refine ⟨rfl, ?_⟩
  intro reply
  cases reply with
  | ok done => exact d.only_alive
  | error code =>
    change (if Errno.ofCode code = .notPermitted then isRunning.alive d else pure false).Only
      (Call.IsFor d.pid)
    split
    · exact d.only_alive
    · trivial

private theorem only_session : d.session.run.Only (Call.IsFor d.pid) := by
  have hasked : Call.IsFor d.pid (.ask (.sessionOf d.pid)) := rfl
  exact Launch.only_request _ hasked fun _ => Launch.only_accept _ _

private theorem only_leadsSession : d.leadsSession.run.Only (Call.IsFor d.pid) :=
  Only.except_bind d.only_session fun _ => trivial

private theorem only_hasTerminal : d.hasTerminal.Only (Call.IsFor d.pid) :=
  d.only_status.bind fun _ => trivial

private theorem only_signal (signal : Signal) : (d.signal signal).run.Only (Call.IsFor d.pid) := by
  have hasked : Call.IsFor d.pid (.ask (.kill d.pid (some signal))) := rfl
  exact Launch.only_request _ hasked fun _ => Launch.only_accept _ _

private theorem only_awaitEndFrom (timeout start : Span) (looks : Nat) :
    (d.awaitEndFrom timeout start looks).Only (Call.IsFor d.pid) := by
  induction looks with
  | zero => exact d.only_isRunning.bind fun _ => trivial
  | succ looks ih =>
    apply d.only_isRunning.bind
    intro running
    cases running with
    | false => trivial
    | true =>
      have hclock : (perform .now).Only (Call.IsFor d.pid) := Only.perform trivial
      rw [if_pos rfl]
      apply hclock.bind
      intro now
      split
      · trivial
      · exact ⟨trivial, fun _ => ih⟩

private theorem only_awaitEnd (timeout : Span) : (d.awaitEnd timeout).Only (Call.IsFor d.pid) :=
  ⟨trivial, fun start => d.only_awaitEndFrom timeout start _⟩

private theorem only_awaitDeath : d.awaitDeath.run.Only (Call.IsFor d.pid) := by
  apply Only.except_bind (d.only_awaitEnd killPatience).lift
  intro ended
  cases ended with
  | true => trivial
  | false => trivial

private theorem only_kill (timeout : Span) : (d.kill timeout).run.Only (Call.IsFor d.pid) := by
  apply Only.except_bind (Only.lift (Only.perform trivial))
  intro _
  apply Only.except_bind (d.only_signal .kill)
  intro _
  exact d.only_awaitDeath

private theorem only_stop (timeout : Span) : (d.stop timeout).run.Only (Call.IsFor d.pid) := by
  apply Only.except_bind (Only.lift (Only.perform trivial))
  intro _
  apply Only.except_bind (d.only_signal .terminate)
  intro _
  apply Only.except_bind (d.only_awaitEnd timeout).lift
  intro ended
  cases ended with
  | true => exact Only.lift (Only.perform trivial)
  | false => exact d.only_kill timeout

theorem only_act (operation : Operation) : (d.act operation).Only (Call.IsFor d.pid) := by
  have hforget : ∀ {α : Type} {p : Activity α}, p.Only (Call.IsFor d.pid) →
      (do let _ ← p : Activity Unit).Only (Call.IsFor d.pid) := fun hp => hp.bind fun _ => trivial
  cases operation with
  | pid => trivial
  | isRunning => exact hforget d.only_isRunning
  | session => exact hforget d.only_session
  | leadsSession => exact hforget d.only_leadsSession
  | hasTerminal => exact hforget d.only_hasTerminal
  | signal signal => exact hforget (d.only_signal signal)
  | awaitEnd timeout => exact hforget (d.only_awaitEnd timeout)
  | stop timeout => exact hforget (d.only_stop timeout)

private theorem only_operations (operations : List Operation) :
    (operations.forM d.act).Only (Call.IsFor d.pid) := by
  induction operations with
  | nil => trivial
  | cons operation later ih => exact (d.only_act operation).bind fun _ => ih

/-- A handle has a positive identifier, however it was obtained, and whatever is done with it on
whatever system, each request is about this identifier. -/
theorem sole_addressee {d : Daemon} (h : Obtained d) :
    (1 ≤ d.pid.number.toInt ∧ d.pid.number.toInt ≤ 2147483647) ∧
    ∀ {σ : Type} (k : Kernel σ) (m : Machine σ) (operations : List Operation),
      ∃ added, (run k (operations.forM d.act) m).2.events = m.events ++ added ∧
        ∀ request, .asked request ∈ added → request.addressee? = some d.pid := by
  refine ⟨⟨?_, ?_⟩, ?_⟩
  · have hpositive : (0 : Int32).toInt < d.pid.number.toInt := Int32.lt_iff_toInt_lt.mp h.proper
    exact hpositive
  · have hbound : d.pid.number.toInt < 2 ^ 31 := d.pid.number.toInt_lt
    omega
  · intro σ k m operations
    obtain ⟨added, hevents, hadded⟩ := (d.only_operations operations).run_events k m
    refine ⟨added, hevents, ?_⟩
    intro request hmem
    obtain ⟨c, hfor, hrecorded⟩ := hadded _ hmem
    cases c with
    | ask request' =>
      have hsame : request = request' := by simpa [Call.recorded] using hrecorded
      rw [hsame]
      exact hfor
    | now => simp [Call.recorded] at hrecorded
    | sleep span => simp [Call.recorded] at hrecorded
    | emit event => simp [Call.recorded] at hrecorded
    | _ => exact hfor.elim

/-- On a system where nobody exists, a daemon that has been announced is looked at, asked for its
session and told to stop. -/
theorem sole_addressee_of_4242 :
    let operations : List Operation := [.isRunning, .leadsSession, .stop ⟨0⟩]
    ∃ d, ofAnnouncement "Daemon PID 4242\n" = .ok d ∧ 1 ≤ d.pid.number.toInt ∧
      ∀ request,
        .asked request ∈
          (run Script.kernel (operations.forM d.act) (.fresh {} {} none)).2.events →
        request.addressee? = some d.pid := by
  intro operations
  have hread : ofAnnouncement "Daemon PID 4242\n" = .ok ⟨⟨4242⟩⟩ := by rfl
  obtain ⟨⟨hpositive, -⟩, hoperate⟩ := sole_addressee (.ofAnnouncement hread)
  obtain ⟨added, hevents, hadded⟩ := hoperate Script.kernel (.fresh {} {} none) operations
  refine ⟨_, hread, hpositive, ?_⟩
  intro request hmem
  rw [hevents] at hmem
  exact hadded request hmem

end Daemon

end DaemonLaunch
