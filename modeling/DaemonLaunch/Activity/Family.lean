import DaemonLaunch.Activity.Script
import DaemonLaunch.Activity.Trace

/-!
Families of processes. Where an activity forks, both the parent and the child go on with it, each
with its own answer, so one activity becomes several processes. A process keeps what it has of its
parent's machine, and its own part of the history and of the output begins at its fork.
-/

namespace DaemonLaunch

/-- How the forks in a family go: each fork of each process, counted from zero, gives a child or
fails. -/
abbrev ForkPlan := Pid → Nat → Except ErrorCode Pid

/-- A machine whose next forks go as given. -/
def Machine.facing (m : Machine Script) (forks : List ForkOutcome) : Machine Script :=
  { m with system := m.system.forked m.system.self forks }

structure Process where
  machine : Machine Script
  /-- The machine with which the process began. -/
  origin : Machine Script
  session : Pid
  /-- How many times the process has forked. -/
  forks : Nat := 0
  /-- The forks that the process has seen, also before it was one of its own. -/
  view : List ForkOutcome := []

namespace Process

/-- A process that comes from outside the family. -/
def first (s : Script) (files : FileSystem) (logger : Option Logger) (session : Pid) : Process :=
  { machine := .fresh s files logger, origin := .fresh s files logger, session := session }

def self (p : Process) : Pid := p.machine.system.self

/-- What the process itself has written to standard output. -/
def written (p : Process) : List UInt8 := p.machine.output.drop p.origin.output.length

/-- The events in the process itself. -/
def events (p : Process) : List Event := p.machine.events.drop p.origin.events.length

def on (p : Process) (machine : Machine Script) : Process := { p with machine := machine }

/-- How the next fork goes, in every process that comes of it. -/
def outcomes (plan : ForkPlan) (p : Process) : List ForkOutcome :=
  match plan p.self p.forks with
  | .ok child => [.parent child, .child child]
  | .error code => [.failed code]

/-- The answer to a fork that goes so, and the process that receives it. -/
def forked (p : Process) (outcome : ForkOutcome) : Except ErrorCode Forked × Process :=
  let answered := (p.machine.facing [outcome]).ask Script.kernel .fork
  let seen := p.view ++ [outcome]
  match outcome with
  | .child _ =>
    (answered.1, { p with machine := answered.2, origin := answered.2, forks := 0, view := seen })
  | _ => (answered.1, { p with machine := answered.2, forks := p.forks + 1, view := seen })

/-- The answer to the call for a session, and the process with its session then. -/
def enteredSession (p : Process) : Except ErrorCode Pid × Process :=
  let answered := p.machine.ask Script.kernel .newSession
  match answered.1 with
  | .ok session => (answered.1, { p with machine := answered.2, session := session })
  | .error _ => (answered.1, p.on answered.2)

/-- The answers to a call, each with the process that receives it. -/
def answers (plan : ForkPlan) (p : Process) : (c : Call) → List (c.Answer × Process)
  | .ask .fork => (p.outcomes plan).map p.forked
  | .ask .newSession => [p.enteredSession]
  | c => [((p.machine.perform Script.kernel c).1, p.on (p.machine.perform Script.kernel c).2)]

end Process

/-- A process of a family at its end. -/
structure Member (α : Type) where
  process : Process
  outcome : Outcome α

namespace Activity

variable {α β ε : Type}

/-- All processes that come of a process with something to do, parents before their children. -/
def family (plan : ForkPlan) : Activity α → Process → List (Member α)
  | done value, p => [⟨p, .returned value⟩]
  | stop ending, p => [⟨p, .ended ending⟩]
  | call c next, p => (p.answers plan c).flatMap fun answered =>
    family plan (next answered.1) answered.2

variable (plan : ForkPlan)

@[simp] theorem family_done (value : α) (p : Process) :
    family plan (done value) p = [⟨p, .returned value⟩] := rfl

@[simp] theorem family_stop (ending : Ending) (p : Process) :
    family plan (stop ending : Activity α) p = [⟨p, .ended ending⟩] := rfl

theorem family_call (c : Call) (next : c.Answer → Activity α) (p : Process) :
    family plan (call c next) p =
      (p.answers plan c).flatMap fun answered => family plan (next answered.1) answered.2 := rfl

/-- The processes that come of a member once it goes on. -/
def goOn (f : α → Activity β) (member : Member α) : List (Member β) :=
  match member.outcome with
  | .returned value => family plan (f value) member.process
  | .ended ending => [⟨member.process, .ended ending⟩]

theorem family_bind (activity : Activity α) (f : α → Activity β) (p : Process) :
    family plan (activity >>= f) p = (family plan activity p).flatMap (goOn plan f) := by
  induction activity generalizing p with
  | done value => simp [goOn]
  | stop ending => simp [goOn]
  | call c next ih =>
    rw [call_bind, family_call, family_call, List.flatMap_assoc]
    simp only [ih]

/-- The processes that come of a member once it goes on, unless it has failed. -/
def goOnExcept (f : α → ExceptT ε Activity β) (member : Member (Except ε α)) :
    List (Member (Except ε β)) :=
  match member.outcome with
  | .returned (.ok value) => family plan (f value).run member.process
  | .returned (.error e) => [⟨member.process, .returned (.error e)⟩]
  | .ended ending => [⟨member.process, .ended ending⟩]

theorem family_except_bind (activity : ExceptT ε Activity α) (f : α → ExceptT ε Activity β)
    (p : Process) :
    family plan (activity >>= f).run p =
      (family plan activity.run p).flatMap (goOnExcept plan f) := by
  have hgoOn : goOnExcept plan f = goOn plan (ExceptT.bindCont f) := by
    funext member
    rw [goOnExcept, goOn]
    match member.outcome with
    | .returned (.ok value) => rfl
    | .returned (.error e) => rfl
    | .ended ending => rfl
  rw [hgoOn]
  exact family_bind plan activity.run (ExceptT.bindCont f) p

end Activity

end DaemonLaunch
