import DaemonLaunch.Activity.Family
import DaemonLaunch.Proofs.Restraint

/-!
What a member of a family has done is what a single run does on a system whose forks go as that
member has seen them. An activity that can neither fork nor start a session has one member only.
-/

namespace DaemonLaunch

open Activity

namespace Script

theorem serve_forked {request : Request} (hrequest : request ≠ .fork) (now : Span) (s : Script)
    (forks : List ForkOutcome) : kernel.serve request now (s.forked s.self forks) =
      ((kernel.serve request now s).1,
        (kernel.serve request now s).2.forked (kernel.serve request now s).2.self forks) := by
  cases request with
  | fork => exact absurd rfl hrequest
  | openPipe =>
    simp only [kernel, forked]
    split <;> rfl
  | send bytes =>
    have hsame : (s.forked s.self forks).sendOutcome bytes.length = s.sendOutcome bytes.length :=
      rfl
    simp only [kernel, send, hsame]
    split <;> rfl
  | kill pid signal =>
    have hsame : (s.forked s.self forks).task? pid now = s.task? pid now := rfl
    simp only [kernel, kill, hsame]
    split
    · rfl
    · split
      · rfl
      · split <;> rfl
  | _ => rfl

theorem serve_self {request : Request} (hrequest : request ≠ .fork) (now : Span) (s : Script) :
    (kernel.serve request now s).2.self = s.self := by
  cases request with
  | fork => exact absurd rfl hrequest
  | openPipe =>
    simp only [kernel]
    split <;> rfl
  | send bytes =>
    simp only [kernel, send]
    split <;> rfl
  | kill pid signal =>
    simp only [kernel, kill]
    split
    · rfl
    · split
      · rfl
      · split <;> rfl
  | _ => rfl

end Script

namespace Machine

variable (m : Machine Script) (forks : List ForkOutcome)

private theorem facing_complain (text : String) :
    (m.facing forks).complain text = (m.complain text).facing forks := by
  by_cases hdetached : Stream.error ∈ m.detached
  · have hfacing : Stream.error ∈ (m.facing forks).detached := hdetached
    rw [complain, complain, if_pos hdetached, if_pos hfacing]
  · have hfacing : Stream.error ∉ (m.facing forks).detached := hdetached
    rw [complain, complain, if_neg hdetached, if_neg hfacing]
    rfl

private theorem facing_print (bytes : List UInt8) :
    (m.facing forks).print bytes = (m.print bytes).facing forks := by
  by_cases hdetached : Stream.output ∈ m.detached
  · have hfacing : Stream.output ∈ (m.facing forks).detached := hdetached
    rw [print, print, if_pos hdetached, if_pos hfacing]
  · have hfacing : Stream.output ∉ (m.facing forks).detached := hdetached
    rw [print, print, if_neg hdetached, if_neg hfacing]
    rfl

private theorem facing_emit (event : LogEvent) :
    (m.facing forks).emit event = (m.emit event).facing forks := by
  have hsame : (m.facing forks).logger = m.logger := rfl
  rw [emit, emit, hsame]
  cases m.logger with
  | none => rfl
  | some logger =>
    by_cases hadmits : logger.filter.admits event.level event.target
    · simp only [hadmits, if_true]
      cases logger.sink with
      | errorStream => exact m.facing_complain forks _
      | file place => rfl
    · simp only [hadmits]
      rfl

private theorem facing_ask {request : Request} (hrequest : request ≠ .fork) :
    (m.facing forks).ask Script.kernel request =
      ((m.ask Script.kernel request).1, (m.ask Script.kernel request).2.facing forks) := by
  have hserve := Script.serve_forked hrequest m.now m.system forks
  by_cases hredirect : ∃ stream, request = .redirect stream
  · obtain ⟨stream, rfl⟩ := hredirect
    have hsame : (m.facing forks).system.redirectErrors = m.system.redirectErrors := rfl
    simp only [ask, Script.kernel, hsame]
    cases Script.orFail (m.system.redirectErrors.lookup stream) () with
    | ok done => rfl
    | error code => rfl
  · have hother : ∀ stream, request ≠ .redirect stream := fun stream h => hredirect ⟨stream, h⟩
    rw [ask_eq_served _ _ _ hother, ask_eq_served _ _ _ hother]
    simp only [facing, hserve]
    rfl

theorem facing_perform {c : Call} (hc : c ≠ .ask .fork) :
    (m.facing forks).perform Script.kernel c =
      ((m.perform Script.kernel c).1, (m.perform Script.kernel c).2.facing forks) := by
  cases c with
  | ask request => exact m.facing_ask forks (by rintro rfl; exact hc rfl)
  | emit event => exact congrArg (Prod.mk ()) (m.facing_emit forks event)
  | print bytes => exact congrArg (Prod.mk ()) (m.facing_print forks bytes)
  | complain text => exact congrArg (Prod.mk ()) (m.facing_complain forks text)
  | openLog path =>
    have hsame : (m.facing forks).files = m.files := rfl
    simp only [perform, hsame]
    cases m.files.openForAppend path with
    | ok opened => rfl
    | error failure => rfl
  | _ => rfl

end Machine

namespace Process

theorem answers_of_isLone (plan : ForkPlan) (p : Process) {c : Call} (hc : c.IsLone) :
    p.answers plan c = [((p.machine.perform Script.kernel c).1,
      p.on (p.machine.perform Script.kernel c).2)] := by
  cases c with
  | ask request =>
    cases request with
    | fork => cases hc
    | newSession => cases hc
    | _ => rfl
  | _ => rfl

theorem enteredSession_fst (p : Process) :
    p.enteredSession.1 = (p.machine.ask Script.kernel .newSession).1 := by
  rw [enteredSession]
  split <;> rfl

theorem enteredSession_machine (p : Process) :
    p.enteredSession.2.machine = (p.machine.ask Script.kernel .newSession).2 := by
  rw [enteredSession]
  split <;> rfl

theorem enteredSession_view (p : Process) : p.enteredSession.2.view = p.view := by
  rw [enteredSession]
  split <;> rfl

theorem answers_perform (plan : ForkPlan) (p : Process) (c : Call) {answered : c.Answer × Process}
    (hmem : answered ∈ p.answers plan c) (forks : List ForkOutcome) :
    ∃ seen, answered.2.view = p.view ++ seen ∧
      (p.machine.facing (seen ++ forks)).perform Script.kernel c =
        (answered.1, answered.2.machine.facing forks) := by
  by_cases hfork : c = .ask .fork
  · subst hfork
    obtain ⟨outcome, -, rfl⟩ := List.mem_map.mp hmem
    cases outcome with
    | parent child => exact ⟨[.parent child], rfl, rfl⟩
    | child self => exact ⟨[.child self], rfl, rfl⟩
    | failed code => exact ⟨[.failed code], rfl, rfl⟩
  · have hperform := p.machine.facing_perform forks hfork
    by_cases hsession : c = .ask .newSession
    · subst hsession
      cases List.mem_singleton.mp hmem
      refine ⟨[], by rw [enteredSession_view, List.append_nil], ?_⟩
      rw [enteredSession_fst, enteredSession_machine]
      exact hperform
    · have hlone : c.IsLone := Call.isLone_of_ne hfork hsession
      rw [answers_of_isLone plan p hlone] at hmem
      cases List.mem_singleton.mp hmem
      exact ⟨[], (List.append_nil _).symm, hperform⟩

end Process

/-- A member has done what a run does on a system whose forks go as that member has seen them. -/
theorem Activity.run_view {α : Type} (plan : ForkPlan) (activity : Activity α) (p : Process)
    {member : Member α} (hmem : member ∈ family plan activity p) :
    ∃ seen, member.process.view = p.view ++ seen ∧
      run Script.kernel activity (p.machine.facing seen) =
        (member.outcome, member.process.machine.facing []) := by
  -- what a member has seen in the end is what each of its calls has shown it, in order
  induction activity generalizing p with
  | done value =>
    cases List.mem_singleton.mp hmem
    exact ⟨[], (List.append_nil _).symm, rfl⟩
  | stop ending =>
    cases List.mem_singleton.mp hmem
    exact ⟨[], (List.append_nil _).symm, rfl⟩
  | call c next ih =>
    obtain ⟨answered, hanswered, hnext⟩ := List.mem_flatMap.mp hmem
    obtain ⟨later, hlater, hrun⟩ := ih answered.1 answered.2 hnext
    obtain ⟨seen, hseen, hperform⟩ := p.answers_perform plan c hanswered later
    refine ⟨seen ++ later, by rw [hlater, hseen, List.append_assoc], ?_⟩
    rw [run_call, hperform]
    exact hrun

/-- Who neither forks nor starts a session stays alone. -/
theorem Activity.Only.family_eq {α : Type} (plan : ForkPlan) {activity : Activity α}
    (honly : activity.Only Call.IsLone) (p : Process) :
    family plan activity p =
      [⟨p.on (run Script.kernel activity p.machine).2,
        (run Script.kernel activity p.machine).1⟩] := by
  induction activity generalizing p with
  | done value => rfl
  | stop ending => rfl
  | call c next ih =>
    obtain ⟨hc, hnext⟩ := honly
    rw [family_call, Process.answers_of_isLone plan p hc, List.flatMap_singleton]
    exact ih _ (hnext _) _

end DaemonLaunch
