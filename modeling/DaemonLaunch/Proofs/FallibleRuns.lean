import DaemonLaunch.Launch
import DaemonLaunch.Activity.Trace

/-!
Runs of activities that may fail. A failure skips what comes after it, and so does the end of the
process.
-/

namespace DaemonLaunch

open Activity

namespace Fallible

variable {σ ε α β : Type} (k : Kernel σ) (m : Machine σ)

theorem run_bind (p : ExceptT ε Activity α) (f : α → ExceptT ε Activity β) :
    Activity.run k (p >>= f).run m =
      match Activity.run k p.run m with
      | (.returned (.ok value), m) => Activity.run k (f value).run m
      | (.returned (.error e), m) => (.returned (.error e), m)
      | (.ended ending, m) => (.ended ending, m) := by
  rw [ExceptT.run_bind, Activity.run_bind]
  match Activity.run k p.run m with
  | (.returned (.ok value), m) => rfl
  | (.returned (.error e), m) => rfl
  | (.ended ending, m) => rfl

theorem run_bind_eq_ok_iff {p : ExceptT ε Activity α} {f : α → ExceptT ε Activity β} {value : β}
    {final : Machine σ} :
    Activity.run k (p >>= f).run m = (.returned (.ok value), final) ↔
      ∃ a m', Activity.run k p.run m = (.returned (.ok a), m') ∧
        Activity.run k (f a).run m' = (.returned (.ok value), final) := by
  rw [run_bind]
  match Activity.run k p.run m with
  | (.returned (.ok a), m') => simp [and_assoc]
  | (.returned (.error e), m') => simp
  | (.ended ending, m') => simp

theorem run_lift (p : Activity α) :
    Activity.run k (liftM p : ExceptT ε Activity α).run m =
      match Activity.run k p m with
      | (.returned value, m) => (.returned (.ok value), m)
      | (.ended ending, m) => (.ended ending, m) := by
  have hp : (liftM p : ExceptT ε Activity α).run = (p >>= fun value => done (Except.ok value)) :=
    rfl
  rw [hp, Activity.run_bind]
  match Activity.run k p m with
  | (.returned value, m) => rfl
  | (.ended ending, m) => rfl

theorem run_lift_bind (p : Activity α) (f : α → ExceptT ε Activity β) :
    Activity.run k ((liftM p : ExceptT ε Activity α) >>= f).run m =
      match Activity.run k p m with
      | (.returned value, m) => Activity.run k (f value).run m
      | (.ended ending, m) => (.ended ending, m) := by
  rw [run_bind, run_lift]
  match Activity.run k p m with
  | (.returned value, m) => rfl
  | (.ended ending, m) => rfl

theorem run_adapt {ε' : Type} (f : ε → ε') (p : ExceptT ε Activity α) :
    Activity.run k (ExceptT.adapt f p).run m =
      match Activity.run k p.run m with
      | (.returned value, m) => (.returned (value.mapError f), m)
      | (.ended ending, m) => (.ended ending, m) := by
  rw [ExceptT.run_adapt, map_eq_pure_bind, Activity.run_bind]
  rcases Activity.run k p.run m with ⟨_ | _, m⟩ <;> rfl

@[simp] theorem run_throw_bind (e : ε) (f : α → ExceptT ε Activity β) :
    Activity.run k ((throw e : ExceptT ε Activity α) >>= f).run m = (.returned (.error e), m) := rfl

@[simp] theorem run_ask_bind (request : Request) (f : request.Reply → ExceptT ε Activity β) :
    Activity.run k ((liftM (ask request) : ExceptT ε Activity request.Reply) >>= f).run m =
      Activity.run k (f (m.ask k request).1).run (m.ask k request).2 := rfl

@[simp] theorem run_log_bind (level : Level) (target message : String)
    (f : Unit → ExceptT ε Activity β) :
    Activity.run k ((liftM (log level target message) : ExceptT ε Activity Unit) >>= f).run m =
      Activity.run k (f ()).run (m.emit ⟨level, target, message⟩) := rfl

end Fallible

namespace Launch

variable {α : Type}

@[simp] theorem accept_ok (refusal : ErrorCode → LaunchError) (value : α) :
    accept refusal (.ok value) = pure value := rfl

@[simp] theorem accept_error (refusal : ErrorCode → LaunchError) (code : ErrorCode) :
    accept refusal (.error code : Except ErrorCode α) = throw (refusal code) := rfl

end Launch

end DaemonLaunch
