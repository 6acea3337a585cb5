import DaemonLaunch.Activity.CallKind
import DaemonLaunch.Proofs.FallibleRuns

/-!
Restraint: what an activity can call for at all, and what it can be done with, whatever it is
answered. A run keeps what each of those calls keeps.
-/

namespace DaemonLaunch

namespace Activity

variable {σ ε α β : Type} {good : Call → Prop}

/-- Every call that can be made is a good one. -/
def Only (good : Call → Prop) : Activity α → Prop
  | done _ => True
  | stop _ => True
  | call c next => good c ∧ ∀ answer, Only good (next answer)

namespace Only

theorem perform {c : Call} (hgood : good c) : (Activity.perform c).Only good :=
  ⟨hgood, fun _ => trivial⟩

theorem of_forall (hgood : ∀ c, good c) (p : Activity α) : p.Only good := by
  induction p with
  | done value => trivial
  | stop ending => trivial
  | call c next ih => exact ⟨hgood c, ih⟩

theorem mono {good' : Call → Prop} (hgood : ∀ c, good c → good' c) {p : Activity α}
    (hp : p.Only good) :
    p.Only good' := by
  induction p with
  | done value => trivial
  | stop ending => trivial
  | call c next ih =>
    obtain ⟨hc, hnext⟩ := hp
    exact ⟨hgood c hc, fun answer => ih answer (hnext answer)⟩

theorem bind {p : Activity α} {f : α → Activity β} (hp : p.Only good)
    (hf : ∀ value, (f value).Only good) :
    (p >>= f).Only good := by
  induction p with
  | done value => exact hf value
  | stop ending => trivial
  | call c next ih =>
    obtain ⟨hgood, hnext⟩ := hp
    exact ⟨hgood, fun answer => ih answer (hnext answer)⟩

theorem of_bind {p : Activity α} {f : α → Activity β} (h : (p >>= f).Only good) : p.Only good := by
  induction p with
  | done value => trivial
  | stop ending => trivial
  | call c next ih =>
    obtain ⟨hgood, hnext⟩ := h
    exact ⟨hgood, fun answer => ih answer (hnext answer)⟩

theorem lift {p : Activity α} (hp : p.Only good) : (liftM p : ExceptT ε Activity α).run.Only good :=
  bind hp fun _ => trivial

theorem except_bind {p : ExceptT ε Activity α} {f : α → ExceptT ε Activity β} (hp : p.run.Only good)
    (hf : ∀ value, (f value).run.Only good) : (p >>= f).run.Only good := by
  have hnext : ∀ result : Except ε α, (ExceptT.bindCont f result).Only good := by
    intro result
    cases result with
    | ok value => exact hf value
    | error e => trivial
  exact bind hp hnext

theorem adapt {ε' : Type} {f : ε → ε'} {p : ExceptT ε Activity α} (hp : p.run.Only good) :
    (ExceptT.adapt f p).run.Only good := by
  rw [ExceptT.run_adapt, map_eq_pure_bind]
  exact hp.bind fun _ => trivial

/-- A run keeps what each good call keeps. -/
theorem run_keeps {k : Kernel σ} {Kept : Machine σ → Prop}
    (hkeeps : ∀ m c, good c → Kept m → Kept (m.perform k c).2) {p : Activity α} (hp : p.Only good)
    {m : Machine σ} (hm : Kept m) : Kept (run k p m).2 := by
  induction p generalizing m with
  | done value => exact hm
  | stop ending => exact hm
  | call c next ih =>
    obtain ⟨hgood, hnext⟩ := hp
    have hcalled : Kept (m.perform k c).2 := hkeeps m c hgood hm
    exact ih _ (hnext _) hcalled

/-- What a run adds to the history are records of good calls. -/
theorem run_events (k : Kernel σ) {p : Activity α} (hp : p.Only good) (m : Machine σ) :
    ∃ added, (run k p m).2.events = m.events ++ added ∧ ∀ e ∈ added, ∃ c, good c ∧
      e ∈ c.recorded := by
  let Kept (final : Machine σ) : Prop :=
    ∃ added, final.events = m.events ++ added ∧ ∀ e ∈ added, ∃ c, good c ∧ e ∈ c.recorded
  have hkeeps : ∀ m' c, good c → Kept m' → Kept (m'.perform k c).2 := by
    rintro m' c hgood ⟨added, hevents, hadded⟩
    refine ⟨added ++ c.recorded, ?_, ?_⟩
    · rw [Machine.events_perform, hevents, List.append_assoc]
    · intro e he
      obtain he | he := List.mem_append.mp he
      · exact hadded e he
      · exact ⟨c, hgood, he⟩
  exact hp.run_keeps hkeeps ⟨[], (List.append_nil _).symm, by simp⟩

end Only

/-- Every value that the activity can be done with is a good one. -/
def Yields (good : α → Prop) : Activity α → Prop
  | done value => good value
  | stop _ => True
  | call _ next => ∀ answer, Yields good (next answer)

namespace Yields

theorem of_forall {good : α → Prop} (hgood : ∀ value, good value) (p : Activity α) :
    p.Yields good := by
  induction p with
  | done value => exact hgood value
  | stop ending => trivial
  | call c next ih => exact ih

theorem bind {good : α → Prop} {good' : β → Prop} {p : Activity α} {f : α → Activity β}
    (hp : p.Yields good)
    (hf : ∀ value, good value → (f value).Yields good') : (p >>= f).Yields good' := by
  induction p with
  | done value => exact hf value hp
  | stop ending => trivial
  | call c next ih => exact fun answer => ih answer (hp answer)

theorem of_run {good : α → Prop} {k : Kernel σ} {p : Activity α} (hp : p.Yields good)
    {m final : Machine σ} {value : α}
    (hrun : run k p m = (.returned value, final)) : good value := by
  induction p generalizing m with
  | done value' =>
    cases hrun
    exact hp
  | stop ending => cases hrun
  | call c next ih => exact ih _ (hp _) hrun

theorem except_bind {good : α → Prop} {good' : Except ε β → Prop} {p : ExceptT ε Activity α}
    {f : α → ExceptT ε Activity β}
    (hp : p.run.Yields fun result => ∀ value, result = .ok value → good value)
    (hf : ∀ value, good value → (f value).run.Yields good') (herror : ∀ e, good' (.error e)) :
    (p >>= f).run.Yields good' := by
  have hnext : ∀ result : Except ε α, (∀ value, result = .ok value → good value) →
      (ExceptT.bindCont f result).Yields good' := by
    intro result hresult
    cases result with
    | ok value => exact hf value (hresult value rfl)
    | error e => exact herror e
  exact bind hp hnext

end Yields

end Activity

namespace Launch

open Activity

variable {α : Type} {good : Call → Prop}

theorem only_accept (refusal : ErrorCode → LaunchError) (reply : Except ErrorCode α) :
    (accept refusal reply).run.Only good := by
  cases reply with
  | ok value => trivial
  | error code => trivial

theorem only_request (request : Request) (hgood : good (.ask request))
    {f : request.Reply → Launch α} (hf : ∀ reply, (f reply).run.Only good) :
    ((liftM (ask request) : Launch request.Reply) >>= f).run.Only good :=
  Only.except_bind (Only.lift (Only.perform hgood)) hf

end Launch

/-- A call that neither makes a process nor starts a session. -/
def Call.IsLone (c : Call) : Prop := c.Among (Kind.allBut [.parting])

theorem Call.isLone_of_ne {c : Call} (hfork : c ≠ .ask .fork) (hsession : c ≠ .ask .newSession) :
    c.IsLone := by
  cases c with
  | ask request =>
    cases request with
    | fork => exact absurd rfl hfork
    | newSession => exact absurd rfl hsession
    | _ => rfl
  | _ => rfl

theorem Call.IsLone.no_partings {c : Call} (hc : c.IsLone) :
    c.recorded.filter Event.isParting = [] := by
  cases c with
  | ask request =>
    cases request with
    | fork => cases hc
    | newSession => cases hc
    | _ => rfl
  | _ => rfl

end DaemonLaunch
