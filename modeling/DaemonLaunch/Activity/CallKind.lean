import DaemonLaunch.Activity.Call

/-!
The kinds of calls. A class of calls is told by the kinds of its members, so one class lies in
another where its kinds do.
-/

namespace DaemonLaunch

namespace Call

/-- What a call is for. -/
inductive Kind
  /-- It makes a process or starts a session. -/
  | parting
  /-- It writes to the pipe. -/
  | sending
  /-- It changes the surroundings of the process. -/
  | adjusting
  /-- It is another request. -/
  | asking
  /-- It looks at what the process itself is in. -/
  | gauging
  | sleeping
  | noting
  | printing
  | complaining
  | reading
  | looking
  | logging
  | marking
  deriving DecidableEq, Repr

namespace Kind

def all : List Kind :=
  [parting, sending, adjusting, asking, gauging, sleeping, noting, printing, complaining, reading,
    looking, logging, marking]

/-- The kinds of requests. -/
def requests : List Kind := [parting, sending, adjusting, asking]

def allBut (kinds : List Kind) : List Kind := all.filter fun kind => !kinds.contains kind

end Kind

def kind : Call → Kind
  | ask .fork | ask .newSession => .parting
  | ask (.send _) => .sending
  | ask .openNull | ask (.redirect _) | ask (.enterDirectory _) => .adjusting
  | ask _ => .asking
  | now | interruptions => .gauging
  | sleep _ => .sleeping
  | emit _ => .noting
  | print _ => .printing
  | complain _ => .complaining
  | readFile _ => .reading
  | isDirectory _ => .looking
  | openLog _ | hasLogger | installLogger _ => .logging
  | mark _ => .marking

/-- The call is of one of the kinds. -/
def Among (kinds : List Kind) (c : Call) : Prop := kinds.contains c.kind = true

theorem Among.mono {kinds kinds' : List Kind} {c : Call} (hc : c.Among kinds)
    (hkinds : kinds ⊆ kinds') :
    c.Among kinds' := by
  rw [Among, List.contains_iff_mem] at *
  exact hkinds hc

theorem among_requests (request : Request) : (ask request).Among Kind.requests := by
  cases request <;> rfl

end Call

end DaemonLaunch
