import DaemonLaunch.Proofs.GenerationRuns
import DaemonLaunch.Proofs.Restraint

/-!
Delegating follows the same protocol as detaching. Where the one tells a process what has become of
it, the other takes the branch of that process, and where the one fails, the other fails so or
reports so.
-/

namespace DaemonLaunch

open Activity

/-- A call that neither makes a process nor starts a session, and does not write to the pipe. -/
def Call.KeepsToItself (c : Call) : Prop := c.Among (Kind.allBut [.parting, .sending])

theorem Call.KeepsToItself.isLone {c : Call} (hc : c.KeepsToItself) : c.IsLone :=
  hc.mono (by decide)

namespace Script

theorem mem_of_nextFork {forks : List ForkOutcome} {child : Pid}
    (h : nextFork forks = .parent child) :
    .parent child ∈ forks := by
  cases forks with
  | nil => cases h
  | cons first later =>
    cases h
    exact List.mem_cons_self

theorem serve_pipe_empty {s : Script} (request : Request) (now : Span)
    (hrequest : ∀ bytes, request ≠ .send bytes)
    (hempty : s.pipe = some []) : (kernel.serve request now s).2.pipe = some [] := by
  cases request with
  | send bytes => exact absurd rfl (hrequest bytes)
  | fork =>
    rw [serve_fork, fork]
    split <;> exact hempty
  | openPipe =>
    simp only [kernel]
    split
    · exact hempty
    · rfl
  | kill pid signal =>
    simp only [kernel, kill]
    split
    · exact hempty
    · split
      · exact hempty
      · split <;> exact hempty
  | _ => exact hempty

end Script

theorem Machine.perform_pipe_empty {m : Machine Script} {c : Call}
    (hc : ∀ bytes, c ≠ .ask (.send bytes))
    (hempty : m.system.pipe = some []) : (m.perform Script.kernel c).2.system.pipe = some [] := by
  rw [perform_system]
  cases c with
  | ask request =>
    have hrequest : ∀ bytes, request ≠ .send bytes := by
      rintro bytes rfl
      exact hc bytes rfl
    exact Script.serve_pipe_empty request m.now hrequest hempty
  | _ => exact hempty

namespace Delegate

/-- What becomes of a delegation and what detaching says, on the same system. -/
structure Matches (label : String)
    (detached : Outcome (Except LaunchError Generation) × Machine Script)
    (delegated : Outcome (Except LaunchError Daemon) × Machine Script) : Prop where
  partings : delegated.2.partings = detached.2.partings
  launcher : ∀ child, detached.1 = .returned (.ok (.launcher child)) ↔
    (∃ result, delegated.1 = .returned result) ∧ delegated.2.reaped = [child]
  refused : ∀ errno, detached.1 = .returned (.error (.fork .first errno)) ↔
    delegated.1 = .returned (.error (.fork .first errno)) ∧ delegated.2.system.pipe = some []
  leader : ∀ daemon, detached.1 = .returned (.ok (.leader daemon)) ↔
    delegated.1 = .ended (.exit 0) ∧ ∃ record, delegated.2.system.pipe = some record ∧
      Handoff.ofBytes record = .ok (.daemon daemon)
  daemon : detached.1 = .returned (.ok .daemon) ↔ .marked label ∈ delegated.2.events
  failed : ∀ e, (∀ errno, e ≠ .fork .first errno) → (detached.1 = .returned (.error e) ↔
    delegated.1 = .ended (.exit 1) ∧ ∃ record report, delegated.2.system.pipe = some record ∧
      Handoff.ofBytes record = .ok report ∧ report.result = .error e)

variable (label : String) (m : Machine Script) (body : Activity Unit)

def marked : Activity Unit := do
  perform (.mark label)
  body

private theorem ofBytes_nil (report : Handoff) : Handoff.ofBytes [] ≠ .ok report := by
  intro h
  cases h

private theorem matches_of_refused {code : ErrorCode} (hnew : m.events = [])
    (hpipe : m.system.pipeError = none) (hforks : Script.nextFork m.system.forks = .failed code) :
    Matches label (run Script.kernel Generation.detach.run m)
      (run Script.kernel (delegate body).run m) := by
  obtain ⟨told, hdetach, htold⟩ := Generation.run_detach_failed m hforks
  obtain ⟨final, hdelegate, hrecord, hevents⟩ := run_delegate_refused m body hpipe hforks
  rw [hdetach, hdelegate]
  constructor
  case partings => simp [Machine.partings, hevents, htold, hnew, Event.isParting]
  case launcher =>
    have hwaited : final.reaped = [] := by
      rw [Machine.reaped, hevents, hnew]
      rfl
    simp [hwaited]
  case refused => simp [hrecord]
  case leader => simp
  case daemon => simp [hevents, hnew]
  case failed =>
    intro e he
    simp only [Outcome.returned.injEq, Except.error.injEq, reduceCtorEq, false_and, iff_false]
    exact fun h => he _ h.symm

private theorem outcome_ne_first (arrived : List UInt8 × Option ErrorCode) (errno : Errno) :
    Handoff.outcome arrived ≠ .error (.fork .first errno) := by
  intro h
  unfold Handoff.outcome at h
  cases hverdict : (Handoff.collected Handoff.size arrived).bind Handoff.ofBytes with
  | error cause => simp [hverdict, Handoff.verdict] at h
  | ok handoff => cases handoff <;> simp [hverdict, Handoff.verdict, Handoff.result] at h

private theorem matches_of_caller {child : Pid} (hnew : m.events = [])
    (hpipe : m.system.pipeError = none) (hforks : Script.nextFork m.system.forks = .parent child) :
    Matches label (run Script.kernel Generation.detach.run m)
      (run Script.kernel (delegate body).run m) := by
  obtain ⟨told, hdetach, htold⟩ := Generation.run_detach_launcher m hforks
  obtain ⟨received, final, hreceived, hdelegate, hrecord, hevents⟩ :=
    run_delegate_caller m body hpipe hforks
  have hparts : received.filter Event.isParting = [] := by
    rw [List.filter_eq_nil_iff]
    intro event hmem
    obtain ⟨most, rfl⟩ := hreceived event hmem
    exact Bool.false_ne_true
  have hreaped : received.filterMap Event.reaped? = [] := by
    rw [List.filterMap_eq_nil_iff]
    intro event hmem
    obtain ⟨most, rfl⟩ := hreceived event hmem
    rfl
  have hmarked : .marked label ∉ received := by
    intro hmem
    obtain ⟨most, h⟩ := hreceived _ hmem
    cases h
  rw [hdetach, hdelegate]
  constructor
  case partings =>
    simp only [Machine.partings, hevents, htold, hnew, List.filter_append, hparts]
    rfl
  case launcher =>
    have hwaited : final.reaped = [child] := by
      simp only [Machine.reaped, hevents, hnew, List.filterMap_append, hreaped]
      rfl
    simp [hwaited]
  case refused =>
    intro errno
    simp [outcome_ne_first]
  case leader => simp
  case daemon => simp [hevents, hnew, hmarked]
  case failed => simp

private theorem matches_of_report {self : Pid} {h : Handoff} (hnew : m.events = [])
    (hpipe : m.system.pipeError = none) (hwrites : m.system.TakesWrites)
    (hforks : Script.nextFork m.system.forks = .child self) (hproper : h.Proper)
    (hreports : h.Reports m.system.newSessionError (Script.nextFork m.system.forks.tail)) :
    Matches label (run Script.kernel Generation.detach.run m)
      (run Script.kernel (delegate body).run m) := by
  obtain ⟨told, hdetach, htold⟩ := Generation.run_detach_between m hforks hreports
  obtain ⟨taken, sent, final, -, hall, hsent, -, hdelegate, hrecord, hevents⟩ :=
    run_delegate_between m body hpipe hforks hreports
  have htaken : taken = Handoff.size := hall hwrites
  have hbytes : h.bytes.take Handoff.size = h.bytes :=
    List.take_of_length_le (Nat.le_of_eq h.length_bytes)
  have hread : Handoff.ofBytes h.bytes = .ok h := Handoff.ofBytes_bytes h hproper
  rw [htaken, hbytes] at hrecord
  rw [htaken] at hdelegate
  have hparts : sent.filter Event.isParting = [] := by
    rw [List.filter_eq_nil_iff]
    intro event hmem
    obtain ⟨part, rfl⟩ := hsent event hmem
    exact Bool.false_ne_true
  have hmarked : .marked label ∉ final.events := by
    have hasked : .marked label ∉ askedBetween m.system.newSessionError := by
      cases m.system.newSessionError <;> simp [askedBetween]
    have hnever : .marked label ∉ sent := by
      intro hmem
      obtain ⟨part, h⟩ := hsent _ hmem
      cases h
    simp [hevents, hnew, hasked, hnever]
  rw [hdetach, hdelegate]
  constructor
  case partings =>
    simp only [Machine.partings, hevents, htold, hnew, List.filter_append, hparts, List.append_nil]
    rfl
  case launcher => cases h <;> simp [Handoff.generation]
  case refused => cases h <;> simp [Handoff.generation]
  case leader => cases h <;> simp [Handoff.generation, Handoff.exitStatus, hrecord, hread]
  case daemon => cases h <;> simp [Handoff.generation, hmarked]
  case failed => cases h <;> simp [Handoff.generation, Handoff.exitStatus, Handoff.result, hrecord,
    hread]

private theorem kept_by_body {calls : List Event} (hbody : body.Only Call.KeepsToItself)
    (hempty : m.system.pipe = some []) (hmarked : .marked label ∈ m.events)
    (hcalls : m.partings = calls) :
    (run Script.kernel body m).2.system.pipe = some [] ∧
      .marked label ∈ (run Script.kernel body m).2.events ∧
      (run Script.kernel body m).2.partings = calls := by
  -- the work may read, wait and log as it likes; these three things it cannot change
  let Kept (m : Machine Script) : Prop :=
    m.system.pipe = some [] ∧ .marked label ∈ m.events ∧ m.partings = calls
  have hstep : ∀ (m : Machine Script) c, c.KeepsToItself → Kept m →
      Kept (m.perform Script.kernel c).2 := by
    rintro m c hc ⟨hempty, hmarked, hcalls⟩
    have hsend : ∀ bytes, c ≠ .ask (.send bytes) := by
      rintro bytes rfl
      cases hc
    refine ⟨Machine.perform_pipe_empty hsend hempty, ?_, ?_⟩
    · rw [Machine.events_perform]
      exact List.mem_append_left _ hmarked
    · rw [Machine.partings, Machine.events_perform, List.filter_append, hc.isLone.no_partings,
        List.append_nil]
      exact hcalls
  exact hbody.run_keeps hstep ⟨hempty, hmarked, hcalls⟩

private theorem matches_of_daemon {first self : Pid} (hnew : m.events = [])
    (hpipe : m.system.pipeError = none) (hbody : body.Only Call.KeepsToItself)
    (hforks : Script.nextFork m.system.forks = .child first)
    (hsecond : Script.nextFork m.system.forks.tail = .child self)
    (hsession : m.system.newSessionError = none) :
    Matches label (run Script.kernel Generation.detach.run m)
      (run Script.kernel (delegate (marked label body)).run m) := by
  obtain ⟨told, hdetach, htold⟩ := Generation.run_detach_daemon m hforks hsecond hsession
  obtain ⟨base, hdelegate, hempty, hevents⟩ :=
    run_delegate_daemon m (marked label body) hpipe hforks hsecond hsession
  let working : Machine Script := base.record (.marked label)
  have hworking : working.events = [.asked .openPipe, .asked .fork, .asked .newSession,
      .asked .fork, .marked label] := by
    have hrecorded : working.events = base.events ++ [.marked label] :=
      Machine.events_perform Script.kernel base (.mark label)
    rw [hrecorded, hevents, hnew]
    rfl
  obtain ⟨hrecord, hmarked, hcalls⟩ :=
    kept_by_body label working body hbody hempty (by simp [hworking]) rfl
  rw [hdetach, hdelegate]
  change Matches label _ (.ended (closing _), (run Script.kernel body working).2)
  constructor
  case partings =>
    rw [hcalls, Machine.partings, Machine.partings, hworking, htold, hnew]
    rfl
  case launcher => simp
  case refused => simp
  case leader => simp [hrecord, ofBytes_nil]
  case daemon => simp [hmarked]
  case failed => simp [hrecord, ofBytes_nil]

/-- Delegating takes the same way as detaching on every system whose pipe works. -/
theorem delegate_matches_detach (s : Script) (files : FileSystem) (logger : Option Logger)
    (label : String) (body : Activity Unit) (hpipe : s.pipeError = none) (hwrites : s.TakesWrites)
    (hpids : ∀ child, .parent child ∈ s.forks → 0 < child.number)
    (hbody : body.Only Call.KeepsToItself) :
    Matches label (run Script.kernel Generation.detach.run (.fresh s files logger))
      (run Script.kernel (delegate (marked label body)).run (.fresh s files logger)) := by
  let m : Machine Script := .fresh s files logger
  have hnew : m.events = [] := rfl
  cases hforks : Script.nextFork s.forks with
  | failed code => exact matches_of_refused label m _ hnew hpipe hforks
  | parent child => exact matches_of_caller label m _ hnew hpipe hforks
  | child self =>
    by_cases hdaemon : s.newSessionError = none ∧ ∃ daemon,
      Script.nextFork s.forks.tail = .child daemon
    · obtain ⟨hsession, daemon, hsecond⟩ := hdaemon
      exact matches_of_daemon label m body hnew hpipe hbody hforks hsecond hsession
    · have hpositive : ∀ daemon, Script.nextFork s.forks.tail = .parent daemon →
        0 < daemon.number := by
        intro daemon hsecond
        exact hpids daemon (List.mem_of_mem_tail (Script.mem_of_nextFork hsecond))
      obtain ⟨h, hreports, hproper⟩ :
          ∃ h : Handoff, h.Reports s.newSessionError (Script.nextFork s.forks.tail) ∧ h.Proper :=
        Handoff.exists_reports (fun hsession daemon hsecond => hdaemon ⟨hsession, daemon, hsecond⟩)
          hpositive
      exact matches_of_report label m _ hnew hpipe hwrites hforks hproper hreports

/-- The second fork fails with a code that has no name, and the pipe takes three bytes at a time. -/
theorem delegate_matches_detach_without_daemon :
    let s : Script :=
      { forks := [.child ⟨4241⟩, .failed 4000], sends := [.takes 1], sendLimit := some 3 }
    Matches "work" (run Script.kernel Generation.detach.run (.fresh s {} none))
      (run Script.kernel (delegate (marked "work" (perform (.sleep ⟨5⟩)))).run
        (.fresh s {} none)) :=
  delegate_matches_detach _ {} none "work" (perform (.sleep ⟨5⟩)) rfl ⟨by simp,
    rfl, by decide⟩ (by simp)
    (Only.perform (by rfl))

end Delegate

end DaemonLaunch
