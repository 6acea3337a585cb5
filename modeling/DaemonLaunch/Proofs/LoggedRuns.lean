import DaemonLaunch.Proofs.Restraint

/-!
What a run gives to the log: its notes are the events it gives to the log with their times, whether
a log takes them or not. Where the log goes to a file and the run leaves the files alone, the file
holds in the end what it held before and then the lines of those notes that the filter admits.
-/

namespace DaemonLaunch

/-- An event that was given to the log, with the time then. -/
structure Note where
  time : Span
  event : LogEvent
  deriving DecidableEq, Repr

/-- The lines of the notes that the filter admits, in order. -/
def LogFilter.lines (filter : LogFilter) (notes : List Note) : String :=
  String.join ((notes.filter fun note => filter.admits note.event.level note.event.target).map
    fun note => note.event.line note.time)

namespace LogFilter

variable (filter : LogFilter)

theorem lines_append (notes later : List Note) :
    filter.lines (notes ++ later) = filter.lines notes ++ filter.lines later := by
  rw [lines, List.filter_append, List.map_append, String.join_append]
  rfl

theorem toUTF8_lines_append (notes later : List Note) :
    (filter.lines (notes ++ later)).toUTF8 = (filter.lines notes).toUTF8 ++
      (filter.lines later).toUTF8 := by
  rw [lines_append]
  exact String.toByteArray_append

theorem lines_of_admits (time : Span) {event : LogEvent}
    (h : filter.admits event.level event.target = true) :
    filter.lines [⟨time, event⟩] = event.line time := by
  simp [lines, h]

theorem lines_of_not_admits (time : Span) {event : LogEvent}
    (h : ¬filter.admits event.level event.target = true) :
    filter.lines [⟨time, event⟩] = "" := by
  simp [lines, h]

end LogFilter

/-- A call that leaves the files, standard error and the choice of the log alone; it may write to
the log. -/
def Call.SparesFiles (c : Call) : Prop :=
  c.Among (Kind.allBut [.complaining, .reading, .looking, .logging])

/-- What a call gives to the log. -/
def Machine.noted {σ : Type} (m : Machine σ) : Call → List Note
  | .emit event => [⟨m.now, event⟩]
  | _ => []

namespace Activity

variable {σ ε α β : Type} (k : Kernel σ) (m : Machine σ)

/-- The notes of a run, the first one first. -/
def notes : Activity α → Machine σ → List Note
  | done _, _ => []
  | stop _, _ => []
  | call c next, m => m.noted c ++ notes (next (m.perform k c).1) (m.perform k c).2

/-- The notes of two activities in turn are those of the first and then, if it is done, those of the
second. -/
theorem notes_bind (p : Activity α) (f : α → Activity β) :
    notes k (p >>= f) m = notes k p m ++
      match run k p m with
      | (.returned value, m) => notes k (f value) m
      | (.ended _, _) => [] := by
  induction p generalizing m with
  | done value => rfl
  | stop ending => rfl
  | call c next ih => rw [call_bind, notes, notes, ih, run_call, List.append_assoc]

theorem Only.notes_eq_nil {good : Call → Prop} (hgood : ∀ event, ¬good (.emit event))
    {p : Activity α} (hp : p.Only good) :
    notes k p m = [] := by
  induction p generalizing m with
  | done value => rfl
  | stop ending => rfl
  | call c next ih =>
    obtain ⟨hc, hnext⟩ := hp
    rw [notes, ih _ _ (hnext _), List.append_nil]
    cases c with
    | emit event => exact absurd hc (hgood event)
    | _ => rfl

end Activity

namespace Fallible

open Activity

variable {σ ε α β : Type} (k : Kernel σ) (m : Machine σ)

theorem notes_bind (p : ExceptT ε Activity α) (f : α → ExceptT ε Activity β) :
    notes k (p >>= f).run m = notes k p.run m ++
      match Activity.run k p.run m with
      | (.returned (.ok value), m) => notes k (f value).run m
      | _ => [] := by
  rw [ExceptT.run_bind, Activity.notes_bind]
  match Activity.run k p.run m with
  | (.returned (.ok value), m) => rfl
  | (.returned (.error e), m) => rfl
  | (.ended ending, m) => rfl

theorem notes_bind_of_ok {p : ExceptT ε Activity α} {f : α → ExceptT ε Activity β} {value : α}
    {middle : Machine σ} (hrun : Activity.run k p.run m = (.returned (.ok value), middle)) :
    notes k (p >>= f).run m = notes k p.run m ++ notes k (f value).run middle := by
  rw [notes_bind, hrun]

theorem notes_lift (p : Activity α) :
    notes k (liftM p : ExceptT ε Activity α).run m = notes k p m := by
  have hp : (liftM p : ExceptT ε Activity α).run = (p >>= fun value => done (Except.ok value)) :=
    rfl
  rw [hp, Activity.notes_bind]
  match Activity.run k p m with
  | (.returned value, m) => exact List.append_nil _
  | (.ended ending, m) => exact List.append_nil _

@[simp] theorem notes_ask_bind (request : Request) (f : request.Reply → ExceptT ε Activity β) :
    notes k ((liftM (ask request) : ExceptT ε Activity request.Reply) >>= f).run m =
      notes k (f (m.ask k request).1).run (m.ask k request).2 := rfl

end Fallible

/-- The log goes to a file, which holds the given bytes, and nothing to standard error; otherwise
the files are still those that were opened. -/
structure Machine.LogsTo {σ : Type} (opened : FileSystem) (filter : LogFilter) (place : Location)
    (m : Machine σ)
    (bytes : ByteArray) : Prop where
  logger : m.logger = some ⟨filter, .file place⟩
  file : m.files.node? place = some (.file bytes)
  tree : opened.SameTree m.files
  others : ∀ other, other ≠ place → m.files.node? other = opened.node? other
  complaints : m.complaints = ""

namespace Machine.LogsTo

variable {σ : Type} {opened : FileSystem} {filter : LogFilter} {place : Location} {k : Kernel σ}
  {m : Machine σ} {bytes : ByteArray}

private theorem append_nil (filter : LogFilter) (bytes : ByteArray) :
    bytes ++ (filter.lines []).toUTF8 = bytes :=
  ByteArray.append_empty

theorem emit (h : LogsTo opened filter place m bytes) (event : LogEvent) :
    LogsTo opened filter place (m.emit event)
      (bytes ++ (filter.lines [⟨m.now, event⟩]).toUTF8) := by
  rw [Machine.emit, h.logger]
  dsimp only
  by_cases hadmits : filter.admits event.level event.target = true
  · rw [if_pos hadmits, filter.lines_of_admits m.now hadmits]
    exact ⟨rfl, FileSystem.node?_append_self h.file _,
      h.tree.trans (FileSystem.sameTree_append h.file _),
      fun other hother =>
        (FileSystem.node?_append_of_ne m.files hother _).trans (h.others other hother),
          h.complaints⟩
  · have hnothing : bytes ++ "".toUTF8 = bytes := ByteArray.append_empty
    rw [if_neg hadmits, filter.lines_of_not_admits m.now hadmits, hnothing]
    exact h

theorem perform (h : LogsTo opened filter place m bytes) {c : Call} (hc : c.SparesFiles) :
    LogsTo opened filter place (m.perform k c).2 (bytes ++ (filter.lines (m.noted c)).toUTF8) := by
  have hsame : ∀ {m' : Machine σ}, m'.logger = m.logger → m'.files = m.files →
      m'.complaints = m.complaints →
      LogsTo opened filter place m' (bytes ++ (filter.lines []).toUTF8) := by
    intro m' hlogger hfiles hcomplaints
    rw [append_nil]
    exact ⟨hlogger.trans h.logger, hfiles ▸ h.file, hfiles ▸ h.tree, hfiles ▸ h.others,
      hcomplaints.trans h.complaints⟩
  cases c with
  | emit event => exact h.emit event
  | ask request =>
    obtain ⟨detached, hasked⟩ := m.ask_eq k request
    rw [Machine.perform, hasked]
    exact hsame rfl rfl rfl
  | print output =>
    rw [Machine.perform, Machine.print]
    split
    · exact hsame rfl rfl rfl
    · exact hsame rfl rfl rfl
  | sleep span => exact hsame rfl rfl rfl
  | mark label => exact hsame rfl rfl rfl
  | now => exact hsame rfl rfl rfl
  | interruptions => exact hsame rfl rfl rfl
  | _ => cases hc

/-- A whole run adds the lines of its notes to the file. -/
theorem run {α : Type} {p : Activity α} (hp : p.Only Call.SparesFiles)
    (h : LogsTo opened filter place m bytes) :
    LogsTo opened filter place (Activity.run k p m).2
      (bytes ++ (filter.lines (Activity.notes k p m)).toUTF8) := by
  induction p generalizing m bytes with
  | done value => exact (append_nil filter bytes).symm ▸ h
  | stop ending => exact (append_nil filter bytes).symm ▸ h
  | call c next ih =>
    obtain ⟨hc, hnext⟩ := hp
    have hcalled : LogsTo opened filter place (m.perform k c).2
        (bytes ++ (filter.lines (m.noted c)).toUTF8) := h.perform hc
    have hrest := ih (m.perform k c).1 (hnext _) hcalled
    rw [ByteArray.append_assoc, ← filter.toUTF8_lines_append] at hrest
    exact hrest

theorem read {path : String} (h : LogsTo opened filter place m bytes)
    (hreaches : opened.Reaches path place) :
    m.files.read path = .ok bytes :=
  (m.files.read_eq_ok_iff path bytes).mpr ⟨place, h.tree.reaches hreaches, h.file⟩

end Machine.LogsTo

end DaemonLaunch
