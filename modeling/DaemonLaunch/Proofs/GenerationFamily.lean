import DaemonLaunch.Launch.Generation
import DaemonLaunch.Proofs.FamilyViews

/-!
The family of processes that comes of detaching: which processes there are, what each of them
learns, and what it has asked of the system until then.
-/

namespace DaemonLaunch

open Activity

namespace Process

/-- What is known of a process: who it is, its session, its forks, what it has seen and asked for,
and what it has written. -/
structure Is (p : Process) (pid session : Pid) (forks : Nat) (view : List ForkOutcome)
    (asked : List Event)
    (printed : List UInt8) : Prop where
  self : p.self = pid
  session : p.session = session
  forks : p.forks = forks
  view : p.view = view
  events : p.machine.events = p.origin.events ++ asked
  output : p.machine.output = p.origin.output ++ printed
  attached : p.machine.detached = []

variable {p : Process} {pid session : Pid} {forks : Nat} {view : List ForkOutcome}
  {asked : List Event}
  {printed : List UInt8}

theorem Is.events_eq (h : p.Is pid session forks view asked printed) : p.events = asked := by
  rw [Process.events, h.events, List.drop_left]

theorem Is.written_eq (h : p.Is pid session forks view asked printed) : p.written = printed := by
  rw [Process.written, h.output, List.drop_left]

theorem Is.emit (h : p.Is pid session forks view asked printed) (event : LogEvent) :
    (p.on (p.machine.emit event)).Is pid session forks view asked printed where
  self := by rw [← h.self, Process.self, Process.self, on, Machine.emit_system]
  session := h.session
  forks := h.forks
  view := h.view
  events := by rw [on, Machine.events_emit]; exact h.events
  output := by rw [on, Machine.emit_output]; exact h.output
  attached := by rw [on, Machine.emit_detached]; exact h.attached

theorem Is.print (h : p.Is pid session forks view asked printed) (bytes : List UInt8) :
    (p.on (p.machine.print bytes)).Is pid session forks view asked (printed ++ bytes) := by
  have hattached : Stream.output ∉ p.machine.detached := by
    rw [h.attached]
    exact List.not_mem_nil
  have hprint : p.machine.print bytes = { p.machine with output := p.machine.output ++ bytes } :=
    if_neg hattached
  rw [hprint]
  refine ⟨h.self, h.session, h.forks, h.view, h.events, ?_, h.attached⟩
  rw [← List.append_assoc]
  exact congrArg (· ++ bytes) h.output

theorem Is.forked (h : p.Is pid session forks view asked printed) {outcome : ForkOutcome}
    (hself : ∀ child, outcome ≠ .child child) :
    (p.forked outcome).2.Is pid session (forks + 1) (view ++ [outcome])
    (asked ++ [.asked .fork]) printed := by
  let answered := (p.machine.facing [outcome]).ask Script.kernel .fork
  have hforked : (p.forked outcome).2 =
      { p with machine := answered.2, forks := p.forks + 1, view := p.view ++ [outcome] } := by
    cases outcome with
    | child child => exact absurd rfl (hself child)
    | parent child => rfl
    | failed code => rfl
  have hsame : answered.2.system.self = p.self := by
    cases outcome with
    | child child => exact absurd rfl (hself child)
    | parent child => rfl
    | failed code => rfl
  have hevents : answered.2.events = p.machine.events ++ [.asked .fork] :=
    Machine.events_ask Script.kernel (p.machine.facing [outcome]) .fork
  rw [hforked]
  refine ⟨hsame.trans h.self, h.session, congrArg (· + 1) h.forks, congrArg (· ++ [outcome]) h.view,
    ?_, h.output,
    h.attached⟩
  rw [hevents, h.events, List.append_assoc]

theorem Is.child (h : p.Is pid session forks view asked printed) (child : Pid) :
    (p.forked (.child child)).2.Is child session 0 (view ++ [.child child]) [] [] where
  self := rfl
  session := h.session
  forks := rfl
  view := by rw [← h.view]; rfl
  events := (List.append_nil _).symm
  output := (List.append_nil _).symm
  attached := h.attached

theorem Is.enteredSession (h : p.Is pid session forks view asked printed)
    (hsession : p.machine.system.newSessionError = none) :
    p.enteredSession.1 = .ok pid ∧
      p.enteredSession.2.Is pid pid forks view (asked ++ [.asked .newSession]) printed := by
  have hself : p.self = pid := h.self
  have hreply : (p.machine.ask Script.kernel .newSession).1 = .ok pid := by
    rw [Machine.ask_reply, Script.serve_newSession, hsession, ← hself]
    rfl
  have hentered : p.enteredSession =
      (.ok pid,
        { p with machine := (p.machine.ask Script.kernel .newSession).2, session := pid }) := by
    rw [Process.enteredSession, hreply]
  rw [hentered]
  refine ⟨rfl, h.self, rfl, h.forks, h.view, ?_, ?_, h.attached⟩
  · rw [Machine.events_ask, h.events, List.append_assoc]
  · rw [Machine.ask_output]
    exact h.output

theorem Is.refusedSession {code : ErrorCode} (h : p.Is pid session forks view asked printed)
    (hsession : p.machine.system.newSessionError = some code) :
    p.enteredSession.1 = .error code ∧
      p.enteredSession.2.Is pid session forks view (asked ++ [.asked .newSession]) printed := by
  have hreply : (p.machine.ask Script.kernel .newSession).1 = .error code := by
    rw [Machine.ask_reply, Script.serve_newSession, hsession]
    rfl
  have hentered : p.enteredSession =
      (.error code, p.on (p.machine.ask Script.kernel .newSession).2) := by
    rw [Process.enteredSession, hreply]
  rw [hentered]
  refine ⟨rfl, h.self, h.session, h.forks, h.view, ?_, ?_, h.attached⟩
  · rw [on, Machine.events_ask, h.events, List.append_assoc]
  · rw [on, Machine.ask_output]
    exact h.output

end Process

namespace Generation

variable (plan : ForkPlan) (p : Process)

theorem family_fork (stage : ForkStage) :
    family plan (fork stage).run p =
      match plan p.self p.forks with
      | .ok child =>
        [⟨(p.forked (.parent child)).2, .returned (.ok (some child))⟩,
          ⟨(p.forked (.child child)).2, .returned (.ok none)⟩]
      | .error code =>
        [⟨(p.forked (.failed code)).2, .returned (.error (.fork stage (.ofCode code)))⟩] := by
  have hask : family plan (liftM (ask .fork) : Launch (Except ErrorCode Forked)).run p =
      (p.outcomes plan).flatMap fun outcome =>
        [⟨(p.forked outcome).2, .returned (.ok (p.forked outcome).1)⟩] :=
    List.flatMap_map p.forked _ _
  rw [fork, family_except_bind, hask, Process.outcomes]
  cases plan p.self p.forks with
  | ok child => rfl
  | error code => rfl

theorem family_lead :
    family plan lead.run p =
      family plan (do
        let session ← Launch.accept (fun code => .session (.ofCode code)) p.enteredSession.1
        log .debug logTarget ("Started new session " ++ session.text)
        part : Launch Generation).run p.enteredSession.2 :=
  List.append_nil _

variable {plan p} {pid session : Pid} {forks : Nat} {view : List ForkOutcome} {asked : List Event}
  {printed : List UInt8}

theorem family_part_ok (h : p.Is pid session forks view asked printed) {daemon : Pid}
    (hplan : plan pid forks = .ok daemon) :
    ∃ l e, family plan part.run p = [⟨l, .returned (.ok (.leader daemon))⟩,
      ⟨e, .returned (.ok .daemon)⟩] ∧
      l.Is pid session (forks + 1) (view ++ [.parent daemon]) (asked ++ [.asked .fork]) printed ∧
      e.Is daemon session 0 (view ++ [.child daemon]) [] [] := by
  have hown : plan p.self p.forks = .ok daemon := by rw [h.self, h.forks, hplan]
  rw [part, family_except_bind, family_fork, hown]
  exact ⟨_, _, rfl, (h.forked (by simp)).emit _, h.child daemon⟩

theorem family_part_error (h : p.Is pid session forks view asked printed) {code : ErrorCode}
    (hplan : plan pid forks = .error code) :
    ∃ l, family plan part.run p = [⟨l, .returned (.error (.fork .second (.ofCode code)))⟩] ∧
      l.Is pid session (forks + 1) (view ++ [.failed code]) (asked ++ [.asked .fork]) printed := by
  have hown : plan p.self p.forks = .error code := by rw [h.self, h.forks, hplan]
  rw [part, family_except_bind, family_fork, hown]
  exact ⟨_, rfl, h.forked (by simp)⟩

theorem family_lead_ok (h : p.Is pid session forks view asked printed)
    (hsession : p.machine.system.newSessionError = none) :
    ∃ entered, family plan lead.run p = family plan part.run entered ∧
      entered.Is pid pid forks view (asked ++ [.asked .newSession]) printed := by
  obtain ⟨hreply, hentered⟩ := h.enteredSession hsession
  rw [family_lead, hreply]
  exact ⟨_, List.append_nil _, hentered.emit _⟩

theorem family_lead_error (h : p.Is pid session forks view asked printed) {code : ErrorCode}
    (hsession : p.machine.system.newSessionError = some code) :
    ∃ l, family plan lead.run p = [⟨l, .returned (.error (.session (.ofCode code)))⟩] ∧
      l.Is pid session forks view (asked ++ [.asked .newSession]) printed := by
  obtain ⟨hreply, hentered⟩ := h.refusedSession hsession
  rw [family_lead, hreply]
  exact ⟨_, rfl, hentered⟩

theorem family_detach_ok (h : p.Is pid session forks view asked printed) {child : Pid}
    (hplan : plan pid forks = .ok child) :
    ∃ o l, family plan detach.run p = ⟨o, .returned (.ok (.launcher child))⟩ ::
        family plan lead.run l ∧
      o.Is pid session (forks + 1) (view ++ [.parent child]) (asked ++ [.asked .fork]) printed ∧
      l.Is child session 0 (view ++ [.child child]) [] [] ∧
      l.machine.system.newSessionError = p.machine.system.newSessionError := by
  have hown : plan p.self p.forks = .ok child := by rw [h.self, h.forks, hplan]
  rw [detach, family_except_bind, family_fork, hown]
  exact ⟨_, _, congrArg (List.cons _) (List.append_nil _), (h.forked (by simp)).emit _,
    h.child child, rfl⟩

theorem family_detach_error (h : p.Is pid session forks view asked printed) {code : ErrorCode}
    (hplan : plan pid forks = .error code) :
    ∃ o, family plan detach.run p = [⟨o, .returned (.error (.fork .first (.ofCode code)))⟩] ∧
      o.Is pid session (forks + 1) (view ++ [.failed code]) (asked ++ [.asked .fork]) printed := by
  have hown : plan p.self p.forks = .error code := by rw [h.self, h.forks, hplan]
  rw [detach, family_except_bind, family_fork, hown]
  exact ⟨_, rfl, h.forked (by simp)⟩

end Generation

end DaemonLaunch
