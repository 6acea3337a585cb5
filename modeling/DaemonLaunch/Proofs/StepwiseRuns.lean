import DaemonLaunch.Proofs.DelegateRuns

/-!
Launches that take one step after the other on a scripted system and stop at the first that fails:
which steps others see, how much time passes, and which streams are redirected.
-/

namespace DaemonLaunch

open Activity

/-- The events that leave a mark in the trace. -/
def Machine.shown {σ : Type} (m : Machine σ) : List Event := m.events.filter Event.isVisible

theorem Machine.trace_eq {σ : Type} (m : Machine σ) : m.trace = traceOf m.shown :=
  (traceOf_filter m.events).symm

private theorem shown_ask (m : Machine Script) (request : Request) :
    (m.ask Script.kernel request).2.shown = m.shown ++ [.asked request].filter Event.isVisible := by
  simp only [Machine.shown, Machine.events_ask, List.filter_append]

def Event.redirected? : Event → Option Stream
  | .asked (.redirect stream) => some stream
  | _ => none

theorem Event.redirected?_eq_some {event : Event} {stream : Stream} :
    event.redirected? = some stream ↔ event = .asked (.redirect stream) := by
  unfold redirected?
  split
  · simp
  · next hother => exact iff_of_false nofun (hother stream)

/-- For how many nanoseconds the events let a process sleep. -/
def Event.timeSlept (events : List Event) : Nat :=
  (events.filterMap Event.slept?).foldr (fun span total => span.nanoseconds + total) 0

theorem Event.timeSlept_append (events later : List Event) :
    timeSlept (events ++ later) = timeSlept events + timeSlept later := by
  rw [timeSlept, timeSlept, List.filterMap_append]
  induction events.filterMap slept? with
  | nil => exact (Nat.zero_add _).symm
  | cons span spans ih => rw [List.cons_append, List.foldr_cons, List.foldr_cons, ih, Nat.add_assoc]

/-- The error that a launch ends with if the script lets an event fail. -/
def Script.failure? (s : Script) : Event → Option LaunchError
  | .asked .newSession => s.newSessionError.map fun code => .session (.ofCode code)
  | .asked .openNull => s.nullError.map fun code => .streams (.noNullDevice (.system code))
  | .asked (.redirect stream) =>
    (s.redirectErrors.lookup stream).map fun code => .streams (.notRedirected stream (.ofCode code))
  | .asked (.enterDirectory _) => s.directoryError.map fun code =>
    .other (.notInRoot (.system code))
  | _ => none

/-- A machine has gone through these steps and none has failed. -/
structure Walked (m final : Machine Script) (steps : List Event) : Prop where
  fine : ∀ step ∈ steps, m.system.failure? step = none
  answers : final.system.failure? = m.system.failure?
  shown : final.shown = m.shown ++ steps
  now : final.now.nanoseconds = m.now.nanoseconds + Event.timeSlept steps
  detached : final.detached = (steps.filterMap Event.redirected?).reverse ++ m.detached

/-- A launch goes through all the steps, or through those up to the first that fails. -/
inductive Passes (m : Machine Script) (steps : List Event) :
    Outcome (Except LaunchError Unit) × Machine Script → Prop
  | through {final : Machine Script} (hwalked : Walked m final steps) :
      Passes m steps (.returned (.ok ()), final)
  | stopped {before after : List Event} {step : Event} {e : LaunchError}
      {walked final : Machine Script}
      (hsteps : steps = before ++ step :: after) (hwalked : Walked m walked before)
      (hfails : m.system.failure? step = some e) (hshown : final.shown = walked.shown ++ [step])
      (hnow : final.now = walked.now) (hdetached : final.detached = walked.detached) :
      Passes m steps (.returned (.error e), final)

namespace Walked

theorem refl (m : Machine Script) : Walked m m [] :=
  ⟨by simp, rfl, (List.append_nil _).symm, rfl, rfl⟩

theorem trans {m middle final : Machine Script} {steps later : List Event}
    (h : Walked m middle steps)
    (h' : Walked middle final later) : Walked m final (steps ++ later) where
  fine := by
    intro step hstep
    obtain hstep | hstep := List.mem_append.mp hstep
    · exact h.fine step hstep
    · rw [← h.answers]
      exact h'.fine step hstep
  answers := h'.answers.trans h.answers
  shown := by rw [h'.shown, h.shown, List.append_assoc]
  now := by rw [h'.now, h.now, Event.timeSlept_append, Nat.add_assoc]
  detached := by
    rw [h'.detached, h.detached]
    simp

theorem ownId (m : Machine Script) : Walked m (m.ask Script.kernel .ownId).2 [] where
  fine := by simp
  answers := rfl
  shown := shown_ask m .ownId
  now := rfl
  detached := rfl

theorem emit (m : Machine Script) (event : LogEvent) : Walked m (Machine.emit m event) [] where
  fine := by simp
  answers := by rw [m.emit_system]
  shown := by simp [Machine.shown]
  now := by rw [m.emit_now]; rfl
  detached := m.emit_detached event

theorem noted (m : Machine Script) (event : LogEvent) :
    Walked m ((m.ask Script.kernel .ownId).2.emit event) [] :=
  (ownId m).trans (emit _ event)

theorem sleep (m : Machine Script) (span : Span) :
    Walked m (m.perform Script.kernel (.sleep span)).2 [.slept span] where
  fine := by simp [Script.failure?]
  answers := rfl
  shown := by simp [Machine.shown, Call.recorded, Event.isVisible]
  now := rfl
  detached := rfl

section Fresh

variable {s : Script} {files : FileSystem} {logger : Option Logger} {final : Machine Script}
  {steps : List Event}

theorem trace (h : Walked (.fresh s files logger) final steps) : final.trace = traceOf steps := by
  rw [final.trace_eq, h.shown]
  rfl

theorem now_of_fresh (h : Walked (.fresh s files logger) final steps) :
    final.now = ⟨Event.timeSlept steps⟩ := by
  have hnow : final.now.nanoseconds = 0 + Event.timeSlept steps := h.now
  rw [Nat.zero_add] at hnow
  exact congrArg Span.mk hnow

theorem redirected (h : Walked (.fresh s files logger) final steps) :
    final.detached.reverse = steps.filterMap Event.redirected? := by
  rw [h.detached, List.reverse_append, List.reverse_reverse]
  rfl

end Fresh

end Walked

namespace Passes

variable {m middle : Machine Script} {steps later : List Event}

theorem after {run : Outcome (Except LaunchError Unit) × Machine Script}
    (hwalked : Walked m middle steps)
    (h : Passes middle later run) : Passes m (steps ++ later) run := by
  cases h with
  | through hlater => exact .through (hwalked.trans hlater)
  | @stopped before after step e walked final hsteps hbefore hfails hshown hnow hdetached =>
    have hall : steps ++ later = steps ++ before ++ step :: after := by
      rw [hsteps, List.append_assoc]
    rw [hwalked.answers] at hfails
    exact .stopped hall (hwalked.trans hbefore) hfails hshown hnow hdetached

/-- What comes after a launch is reached only if no step has failed. -/
theorem bind {p q : Launch Unit} (h : Passes m steps (run Script.kernel p.run m))
    (hnext : ∀ middle, Passes middle later (run Script.kernel q.run middle)) :
    Passes m (steps ++ later) (run Script.kernel (p >>= fun _ => q).run m) := by
  rw [Fallible.run_bind]
  generalize run Script.kernel p.run m = ran at h
  cases h with
  | through hwalked => exact .after hwalked (hnext _)
  | @stopped before after step e walked final hsteps hbefore hfails hshown hnow hdetached =>
    have hall : steps ++ later = before ++ step :: (after ++ later) := by
      rw [hsteps, List.append_assoc, List.cons_append]
    exact .stopped hall hbefore hfails hshown hnow hdetached

/-- A request passes if it fails just where the script says so, and changes at most which streams
are redirected. -/
theorem accept (m : Machine Script) {request : Request} {failure : Option ErrorCode}
    {refusal : ErrorCode → LaunchError} (hvisible : (Event.asked request).isVisible = true)
    (hslept : Event.timeSlept [.asked request] = 0)
    (hfailure : m.system.failure? (.asked request) = failure.map refusal)
    (hsystem : (m.ask Script.kernel request).2.system = m.system)
    (hredirected : failure = none →
      (m.ask Script.kernel request).2.detached =
        ([.asked request].filterMap Event.redirected?).reverse ++ m.detached)
    (hrefused : ∀ code, failure = some code →
      (m.ask Script.kernel request).2.detached = m.detached) :
    Passes m [.asked request]
      (run Script.kernel (Launch.accept refusal (Script.orFail failure ())).run
        (m.ask Script.kernel request).2) := by
  have hshown : (m.ask Script.kernel request).2.shown = m.shown ++ [.asked request] := by
    rw [shown_ask, List.filter_cons_of_pos hvisible, List.filter_nil]
  have hnow : (m.ask Script.kernel request).2.now = m.now := m.ask_now _ _
  cases failure with
  | none =>
    refine .through ⟨?_, ?_, hshown, ?_, hredirected rfl⟩
    · intro step hstep
      rw [List.mem_singleton.mp hstep, hfailure]
      rfl
    · rw [hsystem]
    · rw [hnow, hslept, Nat.add_zero]
  | some code => exact .stopped rfl (.refl m) hfailure hshown hnow (hrefused code rfl)

end Passes

private theorem first_failure_unique (fails : Event → Prop)
    {before before' after after' : List Event} {step step' : Event}
    (h : before ++ step :: after = before' ++ step' :: after') (hbefore : ∀ e ∈ before, ¬ fails e)
    (hbefore' : ∀ e ∈ before', ¬ fails e) (hstep : fails step) (hstep' : fails step') :
    before = before' ∧ step = step' := by
  induction before generalizing before' with
  | nil =>
    cases before' with
    | nil => exact ⟨rfl, (List.cons.inj h).1⟩
    | cons first before' =>
      have hfirst : step = first := (List.cons.inj h).1
      rw [hfirst] at hstep
      exact absurd hstep (hbefore' first List.mem_cons_self)
  | cons first before ih =>
    cases before' with
    | nil =>
      have hfirst : first = step' := (List.cons.inj h).1
      rw [← hfirst] at hstep'
      exact absurd hstep' (hbefore first List.mem_cons_self)
    | cons first' before' =>
      obtain ⟨rfl, hrest⟩ := List.cons.inj h
      obtain ⟨rfl, hsame⟩ := ih hrest (fun e he => hbefore e (List.mem_cons_of_mem _ he))
        fun e he => hbefore' e (List.mem_cons_of_mem _ he)
      exact ⟨rfl, hsame⟩

/-- From a fresh machine, a launch that passes succeeds just if no step fails. If one does, the
launch ends with the error of the first such step, and others see the steps up to it. -/
theorem Passes.of_fresh {s : Script} {files : FileSystem} {logger : Option Logger}
    {steps : List Event} {ran : Outcome (Except LaunchError Unit) × Machine Script}
    (h : Passes (.fresh s files logger) steps ran) :
    ∃ result final, ran = (.returned result, final) ∧
      (result = .ok () ↔ ∀ step ∈ steps, s.failure? step = none) ∧
      (result = .ok () → final.trace = traceOf steps ∧ final.now = ⟨Event.timeSlept steps⟩ ∧
        final.detached.reverse = steps.filterMap Event.redirected?) ∧
      ∀ before step after e, steps = before ++ step :: after →
        (∀ earlier ∈ before, s.failure? earlier = none) →
        s.failure? step = some e → result = .error e ∧ final.trace = traceOf (before ++ [step]) ∧
          final.now = ⟨Event.timeSlept before⟩ ∧
          final.detached.reverse = before.filterMap Event.redirected? := by
  cases h with
  | @through final hwalked =>
    refine ⟨.ok (), final, rfl, ⟨fun _ => hwalked.fine, fun _ => rfl⟩, ?_, ?_⟩
    · intro _
      exact ⟨hwalked.trace, hwalked.now_of_fresh, hwalked.redirected⟩
    · intro before step after e hsteps _ hfails
      have hmem : step ∈ steps := by simp [hsteps]
      have hfine : s.failure? step = none := hwalked.fine step hmem
      rw [hfine] at hfails
      cases hfails
  | @stopped before after step e walked final hsteps hwalked hfails hshown hnow hdetached =>
    have hfails : s.failure? step = some e := hfails
    refine ⟨.error e, final, rfl, ⟨?_, ?_⟩, ?_, ?_⟩
    · intro hok
      cases hok
    · intro hfine
      have hmem : step ∈ steps := by simp [hsteps]
      rw [hfine step hmem] at hfails
      cases hfails
    · intro hok
      cases hok
    · intro before' step' after' e' hsteps' hbefore' hfails'
      obtain ⟨rfl, rfl⟩ :=
        first_failure_unique (fun step => s.failure? step ≠ none) (hsteps.symm.trans hsteps')
        (fun earlier h => not_not_intro (hwalked.fine earlier h))
          (fun earlier h => not_not_intro (hbefore' earlier h))
        (by simp [hfails]) (by simp [hfails'])
      have hsame : e = e' := Option.some.inj (hfails.symm.trans hfails')
      refine ⟨by rw [hsame], ?_, hnow.trans hwalked.now_of_fresh, ?_⟩
      · rw [final.trace_eq, hshown, hwalked.shown]
        rfl
      · rw [hdetached, hwalked.redirected]

end DaemonLaunch
