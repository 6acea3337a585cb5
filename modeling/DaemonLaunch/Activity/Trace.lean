import DaemonLaunch.Activity.Machine

/-!
What a history shows from outside: the visible events in order, sleeps that follow each other as
one, and the signals sent.
-/

namespace DaemonLaunch

/-- The text of an event that is visible as a call of its own; sleeps are joined before they are
written. -/
def Event.label? : Event → Option String
  | .asked request =>
    match request with
    | .fork => some "fork"
    | .newSession => some "setsid"
    | .openPipe => some "pipe"
    | .reap child => some ("waitpid " ++ child.text)
    | .openNull => some "open /dev/null"
    | .redirect stream => some ("dup2 " ++ toString stream.descriptor)
    | .enterDirectory path => some ("chdir " ++ path)
    | _ => none
  | .slept _ => none
  | .marked label => some label

/-- Whether an event can leave a mark in the trace. -/
def Event.isVisible : Event → Bool
  | .slept _ => true
  | event => event.label?.isSome

inductive TraceLine
  | call (label : String)
  | sleep (span : Span)
  deriving DecidableEq, Repr

/-- Whether an event is a call for a new process or for a new session. -/
def Event.isParting : Event → Bool
  | .asked .fork => true
  | .asked .newSession => true
  | _ => false

def Event.reaped? : Event → Option Pid
  | .asked (.reap child) => some child
  | _ => none

def Event.slept? : Event → Option Span
  | .slept span => some span
  | _ => none

def Call.recorded : Call → List Event
  | .ask request => [.asked request]
  | .sleep span => [.slept span]
  | .mark label => [.marked label]
  | _ => []

namespace TraceLine

def text : TraceLine → String
  | call label => label
  | sleep span => "sleep " ++ toString span.nanoseconds

/-- Puts an event before the lines that follow it. An empty sleep leaves no line. -/
def prepend (event : Event) (lines : List TraceLine) : List TraceLine :=
  match event with
  | .slept ⟨0⟩ => lines
  | .slept ⟨n + 1⟩ =>
    match lines with
    | .sleep more :: rest => .sleep ⟨n + 1 + more.nanoseconds⟩ :: rest
    | _ => .sleep ⟨n + 1⟩ :: lines
  | _ =>
    match event.label? with
    | some label => .call label :: lines
    | none => lines

end TraceLine

def traceOf (events : List Event) : List TraceLine := events.foldr TraceLine.prepend []

theorem TraceLine.prepend_of_hidden {event : Event} (h : ¬ event.isVisible)
    (lines : List TraceLine) :
    prepend event lines = lines := by
  cases event with
  | slept span => exact absurd rfl h
  | asked request =>
    have hnone : (Event.asked request).label? = none := Option.not_isSome_iff_eq_none.mp h
    simp only [prepend, hnone]
  | marked label => exact absurd rfl h

theorem traceOf_filter (events : List Event) :
    traceOf (events.filter Event.isVisible) = traceOf events := by
  induction events with
  | nil => rfl
  | cons event events ih =>
    by_cases h : event.isVisible
    · rw [List.filter_cons_of_pos h]
      exact congrArg (TraceLine.prepend event) ih
    · rw [List.filter_cons_of_neg h, ih]
      exact (TraceLine.prepend_of_hidden h _).symm

namespace Machine

variable {σ : Type}

/-- The events so far, the first one first. -/
def events (m : Machine σ) : List Event := m.history.reverse.map (·.event)

def trace (m : Machine σ) : List TraceLine := traceOf m.events

/-- The processes waited for so far, also in vain. -/
def reaped (m : Machine σ) : List Pid := m.events.filterMap Event.reaped?

def partings (m : Machine σ) : List Event := m.events.filter Event.isParting

def sleeps (m : Machine σ) : List Span := m.events.filterMap Event.slept?

/-- The signals sent so far, also in vain, with their times. -/
def signals (m : Machine σ) : List (Span × Pid × Signal) :=
  m.history.reverse.filterMap fun occurrence =>
    match occurrence.event with
    | .asked (.kill pid (some signal)) => some (occurrence.time, pid, signal)
    | _ => none

theorem events_eq_append {m m' : Machine σ} {added : List Occurrence}
    (h : m'.history = added ++ m.history) :
    m'.events = m.events ++ added.reverse.map (·.event) := by
  simp only [events, h, List.reverse_append, List.map_append]

@[simp] theorem events_served (m : Machine σ) (system : σ) (added : List Occurrence) :
    (m.served system added).events = m.events ++ added.reverse.map (·.event) :=
  events_eq_append rfl

@[simp] theorem events_emit (m : Machine σ) (event : LogEvent) :
    (m.emit event).events = m.events := by
  simp only [events, emit_history]

@[simp] theorem events_ask (k : Kernel σ) (m : Machine σ) (request : Request) :
    (m.ask k request).2.events = m.events ++ [.asked request] := by
  simp only [events, ask_history, List.reverse_cons, List.map_append, List.map_cons, List.map_nil]

@[simp] theorem events_perform (k : Kernel σ) (m : Machine σ) (c : Call) :
    (m.perform k c).2.events = m.events ++ c.recorded := by
  cases c with
  | ask request => exact events_ask k m request
  | sleep span => simp [perform, record, advance, events, Call.recorded]
  | emit event => simp [perform, Call.recorded]
  | print bytes => simp only [perform, print, Call.recorded, List.append_nil]; split <;> rfl
  | complain text => simp [perform, events, Call.recorded]
  | openLog path => simp only [perform, Call.recorded, List.append_nil]; split <;> rfl
  | mark label => simp [perform, record, events, Call.recorded]
  | _ => simp [perform, Call.recorded, events]

end Machine

end DaemonLaunch
