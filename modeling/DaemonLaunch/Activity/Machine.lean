import DaemonLaunch.Activity
import DaemonLaunch.Activity.LogLine

/-!
Machines run activities. A kernel serves requests from a state of its own and may look at the clock;
the machine keeps the clock, which moves only by sleeping, the files, the log, what was written to
the standard streams, and the history of all requests.
-/

namespace DaemonLaunch

/-- A system: how a request is served at a time in a state. -/
structure Kernel (σ : Type) where
  serve : (request : Request) → Span → σ → request.Reply × σ
  /-- How often requests are still interrupted, at most. -/
  interruptions : σ → Nat := fun _ => 0

inductive Event
  | asked (request : Request)
  | slept (span : Span)
  | marked (label : String)
  deriving DecidableEq, Repr

structure Occurrence where
  time : Span
  event : Event
  deriving DecidableEq, Repr

/-- A system with a process on it. -/
structure Machine (σ : Type) where
  system : σ
  now : Span := ⟨0⟩
  files : FileSystem := {}
  logger : Option Logger := none
  /-- What was written to standard output while it was attached. -/
  output : List UInt8 := []
  /-- What was written to standard error while it was attached. -/
  complaints : String := ""
  /-- The streams that lead to the null device. -/
  detached : List Stream := []
  /-- The history, the latest event first. -/
  history : List Occurrence := []

inductive Outcome (α : Type)
  | returned (value : α)
  | ended (ending : Ending)
  deriving DecidableEq, Repr

namespace Machine

variable {σ : Type}

def record (m : Machine σ) (event : Event) : Machine σ :=
  { m with history := ⟨m.now, event⟩ :: m.history }

/-- Lets time pass without an event. -/
def advance (m : Machine σ) (span : Span) : Machine σ :=
  { m with now := ⟨m.now.nanoseconds + span.nanoseconds⟩ }

/-- Writes to standard output unless it is detached. -/
def print (m : Machine σ) (bytes : List UInt8) : Machine σ :=
  if .output ∈ m.detached then m else { m with output := m.output ++ bytes }

/-- Writes to standard error unless it is detached. -/
def complain (m : Machine σ) (text : String) : Machine σ :=
  if .error ∈ m.detached then m else { m with complaints := m.complaints ++ text }

/-- Gives an event to the log, if there is one and its filter admits the event. -/
def emit (m : Machine σ) (event : LogEvent) : Machine σ :=
  match m.logger with
  | none => m
  | some logger =>
    if logger.filter.admits event.level event.target then
      match logger.sink with
      | .errorStream => m.complain (event.colouredLine m.now)
      | .file place => { m with files := m.files.append place (event.line m.now).toUTF8 }
    else m

/-- A stream that was redirected is detached. -/
def noteRedirect (m : Machine σ) : (request : Request) → request.Reply → Machine σ
  | .redirect stream, .ok _ => { m with detached := stream :: m.detached }
  | _, _ => m

def ask (k : Kernel σ) (m : Machine σ) (request : Request) : request.Reply × Machine σ :=
  let served := k.serve request m.now m.system
  (served.1, ({ m.record (.asked request) with system := served.2 }).noteRedirect request served.1)

def perform (k : Kernel σ) (m : Machine σ) : (c : Call) → c.Answer × Machine σ
  | .ask request => m.ask k request
  | .now => (m.now, m)
  | .sleep span => ((), (m.record (.slept span)).advance span)
  | .interruptions => (k.interruptions m.system, m)
  | .emit event => ((), m.emit event)
  | .print bytes => ((), m.print bytes)
  | .complain text => ((), m.complain text)
  | .readFile path => (m.files.read path, m)
  | .isDirectory path => (m.files.isDirectory path, m)
  | .openLog path =>
    match m.files.openForAppend path with
    | .ok (place, files) => (.ok place, { m with files := files })
    | .error failure => (.error failure, m)
  | .hasLogger => (m.logger.isSome, m)
  | .installLogger logger => ((), { m with logger := some logger })
  | .mark label => ((), m.record (.marked label))

/-- A machine before its process has done anything. -/
def fresh (system : σ) (files : FileSystem) (logger : Option Logger) : Machine σ :=
  { system := system, files := files, logger := logger }

/-- A machine whose system has served requests that concern nothing else. -/
def served (m : Machine σ) (system : σ) (added : List Occurrence) : Machine σ :=
  { m with system := system, history := added ++ m.history }

section Served

variable (m : Machine σ) (system : σ) (added : List Occurrence)

@[simp] theorem served_system : (m.served system added).system = system := rfl

@[simp] theorem served_now : (m.served system added).now = m.now := rfl

@[simp] theorem served_history : (m.served system added).history = added ++ m.history := rfl

@[simp] theorem served_nil : m.served m.system [] = m := rfl

@[simp] theorem served_served (system' : σ) (added' : List Occurrence) :
    (m.served system added).served system' added' = m.served system' (added' ++ added) := by
  simp only [served, List.append_assoc]

end Served

section Unchanged

variable (k : Kernel σ) (m : Machine σ) (request : Request)

@[simp] theorem complain_system (text : String) : (m.complain text).system = m.system := by
  unfold complain; split <;> rfl

@[simp] theorem complain_now (text : String) : (m.complain text).now = m.now := by
  unfold complain; split <;> rfl

@[simp] theorem complain_output (text : String) : (m.complain text).output = m.output := by
  unfold complain; split <;> rfl

@[simp] theorem complain_files (text : String) : (m.complain text).files = m.files := by
  unfold complain; split <;> rfl

@[simp] theorem complain_detached (text : String) : (m.complain text).detached = m.detached := by
  unfold complain; split <;> rfl

@[simp] theorem complain_history (text : String) : (m.complain text).history = m.history := by
  unfold complain; split <;> rfl

theorem emit_cases (event : LogEvent) :
    m.emit event = m ∨ m.emit event = m.complain (event.colouredLine m.now) ∨
      ∃ files, m.emit event = { m with files := files } := by
  unfold emit
  split
  · exact .inl rfl
  · split
    · split
      · exact .inr (.inl rfl)
      · exact .inr (.inr ⟨_, rfl⟩)
    · exact .inl rfl

@[simp] theorem emit_system (event : LogEvent) : (m.emit event).system = m.system := by
  obtain h | h | ⟨_, h⟩ := m.emit_cases event <;> simp [h]

@[simp] theorem emit_now (event : LogEvent) : (m.emit event).now = m.now := by
  obtain h | h | ⟨_, h⟩ := m.emit_cases event <;> simp [h]

@[simp] theorem emit_output (event : LogEvent) : (m.emit event).output = m.output := by
  obtain h | h | ⟨_, h⟩ := m.emit_cases event <;> simp [h]

@[simp] theorem emit_detached (event : LogEvent) : (m.emit event).detached = m.detached := by
  obtain h | h | ⟨_, h⟩ := m.emit_cases event <;> simp [h]

@[simp] theorem emit_history (event : LogEvent) : (m.emit event).history = m.history := by
  obtain h | h | ⟨_, h⟩ := m.emit_cases event <;> simp [h]

@[simp] theorem ask_reply : (m.ask k request).1 = (k.serve request m.now m.system).1 := rfl

theorem ask_eq : ∃ detached, (m.ask k request).2 =
    { m.record (.asked request) with
      system := (k.serve request m.now m.system).2, detached := detached } := by
  simp only [ask]
  generalize k.serve request m.now m.system = served
  unfold noteRedirect
  split
  · exact ⟨_, rfl⟩
  · exact ⟨_, rfl⟩

@[simp] theorem ask_system : (m.ask k request).2.system = (k.serve request m.now m.system).2 := by
  obtain ⟨_, h⟩ := m.ask_eq k request
  rw [h]

@[simp] theorem ask_now : (m.ask k request).2.now = m.now := by
  obtain ⟨_, h⟩ := m.ask_eq k request
  rw [h, record]

@[simp] theorem ask_output : (m.ask k request).2.output = m.output := by
  obtain ⟨_, h⟩ := m.ask_eq k request
  rw [h, record]

@[simp] theorem ask_history : (m.ask k request).2.history = ⟨m.now, .asked request⟩ ::
    m.history := by
  obtain ⟨_, h⟩ := m.ask_eq k request
  rw [h, record]

theorem ask_eq_served (h : ∀ stream, request ≠ .redirect stream) :
    m.ask k request = ((k.serve request m.now m.system).1,
      m.served (k.serve request m.now m.system).2 [⟨m.now, .asked request⟩]) := by
  cases request with
  | redirect stream => exact absurd rfl (h stream)
  | _ => rfl

@[simp] theorem print_system (bytes : List UInt8) : (m.print bytes).system = m.system := by
  unfold print; split <;> rfl

theorem perform_system (c : Call) : (m.perform k c).2.system =
    match c with
    | .ask request => (k.serve request m.now m.system).2
    | _ => m.system := by
  cases c with
  | ask request => exact m.ask_system k request
  | emit event => exact m.emit_system event
  | print bytes => exact m.print_system bytes
  | complain text => exact m.complain_system text
  | openLog path => simp only [perform]; split <;> rfl
  | _ => rfl

theorem print_print (bytes bytes' : List UInt8) :
    (m.print bytes).print bytes' = m.print (bytes ++ bytes') := by
  by_cases hdetached : Stream.output ∈ m.detached
  · simp only [print, if_pos hdetached]
  · simp only [print, if_neg hdetached, List.append_assoc]

@[simp] theorem print_files (bytes : List UInt8) : (m.print bytes).files = m.files := by
  unfold print; split <;> rfl

@[simp] theorem print_history (bytes : List UInt8) : (m.print bytes).history = m.history := by
  unfold print; split <;> rfl

@[simp] theorem print_now (bytes : List UInt8) : (m.print bytes).now = m.now := by
  unfold print; split <;> rfl

theorem perform_now (c : Call) : (m.perform k c).2.now =
    match c with
    | .sleep span => (m.advance span).now
    | _ => m.now := by
  cases c with
  | ask request => exact m.ask_now k request
  | emit event => exact m.emit_now event
  | print bytes => exact m.print_now bytes
  | complain text => exact m.complain_now text
  | openLog path => simp only [perform]; split <;> rfl
  | _ => rfl

theorem perform_output {c : Call} (hc : ∀ bytes, c ≠ .print bytes) :
    (m.perform k c).2.output = m.output := by
  cases c with
  | ask request => exact m.ask_output k request
  | emit event => exact m.emit_output event
  | print bytes => exact absurd rfl (hc bytes)
  | complain text => exact m.complain_output text
  | openLog path => simp only [perform]; split <;> rfl
  | _ => rfl

end Unchanged

end Machine

namespace Activity

variable {σ α β : Type}

def run (k : Kernel σ) : Activity α → Machine σ → Outcome α × Machine σ
  | done value, m => (.returned value, m)
  | stop ending, m => (.ended ending, m)
  | call c next, m =>
    let answered := m.perform k c
    run k (next answered.1) answered.2

@[simp] theorem run_done (k : Kernel σ) (value : α) (m : Machine σ) :
    run k (done value) m = (.returned value, m) := rfl

@[simp] theorem run_stop (k : Kernel σ) (ending : Ending) (m : Machine σ) :
    run k (stop ending : Activity α) m = (.ended ending, m) := rfl

@[simp] theorem run_call (k : Kernel σ) (c : Call) (next : c.Answer → Activity α) (m : Machine σ) :
    run k (call c next) m = run k (next (m.perform k c).1) (m.perform k c).2 := rfl

theorem run_perform_bind (k : Kernel σ) (c : Call) (f : c.Answer → Activity β) (m : Machine σ) :
    run k (perform c >>= f) m = run k (f (m.perform k c).1) (m.perform k c).2 := rfl

theorem run_ask_bind (k : Kernel σ) (request : Request) (f : request.Reply → Activity β)
    (m : Machine σ) :
    run k (ask request >>= f) m = run k (f (m.ask k request).1) (m.ask k request).2 := rfl

/-- A run of two activities in turn is a run of the first and, if it is done, a run of the second
from there. -/
theorem run_bind (k : Kernel σ) (p : Activity α) (f : α → Activity β) (m : Machine σ) :
    run k (p >>= f) m =
      match run k p m with
      | (.returned value, m) => run k (f value) m
      | (.ended ending, m) => (.ended ending, m) := by
  induction p generalizing m with
  | done value => rfl
  | stop ending => rfl
  | call c next ih => simp only [call_bind, run_call, ih]

/-- An attempt does the same, but it is done where the activity breaks off. -/
theorem run_attempt (k : Kernel σ) (p : Activity α) (m : Machine σ) :
    run k p.attempt m =
      match run k p m with
      | (.returned value, m) => (.returned (some value), m)
      | (.ended .fault, m) => (.returned none, m)
      | (.ended ending, m) => (.ended ending, m) := by
  induction p generalizing m with
  | done value => rfl
  | stop ending => cases ending <;> rfl
  | call c next ih => simp only [attempt, run_call, ih]

end Activity

end DaemonLaunch
