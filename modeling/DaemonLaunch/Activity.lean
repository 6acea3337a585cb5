import DaemonLaunch.Activity.Call

/-!
Activities: what a process does. An activity is done with a value, stops, or makes a call and goes
on with the answer, so it is a tree that branches on answers, and every path through it is finite.
What it does depends on nothing but the answers.
-/

namespace DaemonLaunch

/-- How a process ends before its activity is done. -/
inductive Ending
  | exit (status : Nat)
  /-- It breaks off at a fault of its own. -/
  | fault
  deriving DecidableEq, Repr

/-- The status that others see of an ended process. -/
def Ending.status : Ending → Nat
  | exit status => status
  | fault => 101

/-- What a process does up to a value. -/
inductive Activity (α : Type) : Type
  | done (value : α)
  | stop (ending : Ending)
  | call (c : Call) (next : c.Answer → Activity α)

namespace Activity

variable {α β : Type}

/-- Goes on with the value once the activity is done. -/
def bind : Activity α → (α → Activity β) → Activity β
  | done value, f => f value
  | stop ending, _ => stop ending
  | call c next, f => call c fun answer => bind (next answer) f

instance : Monad Activity where
  pure := done
  bind := bind

@[simp] theorem pure_eq_done (value : α) : (pure value : Activity α) = done value := rfl

@[simp] theorem done_bind (value : α) (f : α → Activity β) : (done value >>= f) = f value := rfl

@[simp] theorem stop_bind (ending : Ending) (f : α → Activity β) :
    (stop ending >>= f) = stop ending := rfl

@[simp] theorem call_bind (c : Call) (next : c.Answer → Activity α) (f : α → Activity β) :
    (call c next >>= f) = call c fun answer => next answer >>= f := rfl

private theorem bind_done (p : Activity α) : (p >>= done) = p := by
  induction p with
  | done value => rfl
  | stop ending => rfl
  | call c next ih => simp only [call_bind, ih]

private theorem bind_assoc {γ : Type} (p : Activity α) (f : α → Activity β) (g : β → Activity γ) :
    (p >>= f >>= g) = p >>= fun value => f value >>= g := by
  induction p with
  | done value => rfl
  | stop ending => rfl
  | call c next ih => simp only [call_bind, ih]

instance : LawfulMonad Activity :=
  LawfulMonad.mk' Activity bind_done (fun _ _ => rfl) bind_assoc

def perform (c : Call) : Activity c.Answer := call c done

def ask (request : Request) : Activity request.Reply := perform (.ask request)

def exit (status : Nat) : Activity α := stop (.exit status)

def fault : Activity α := stop .fault

/-- The activity that is done also where the given one would break off, with no value there. -/
def attempt : Activity α → Activity (Option α)
  | done value => done (some value)
  | stop .fault => done none
  | stop ending => stop ending
  | call c next => call c fun answer => attempt (next answer)

def log (level : Level) (target message : String) : Activity Unit :=
  perform (.emit { level := level, target := target, message := message })

end Activity

end DaemonLaunch
