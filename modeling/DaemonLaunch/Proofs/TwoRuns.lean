import DaemonLaunch.Proofs.LoggedRuns

/-!
Two runs that differ in their logs. Machines are the same but for the log if they differ in nothing
but the log, standard error and the files that a log goes to. What is given to the log moves a
machine only among these, and every other call is answered alike on all of them, so an activity that
does not look at the log does the same on all of them.
-/

namespace DaemonLaunch

/-- A call that neither looks at the files nor concerns the choice of the log. -/
def Call.LooksAway (c : Call) : Prop := c.Among (Kind.allBut [.reading, .looking, .logging])

theorem Call.looksAway_ask (request : Request) : (ask request).LooksAway :=
  (among_requests request).mono (by decide)

theorem Call.SparesFiles.looksAway {c : Call} (hc : c.SparesFiles) : c.LooksAway :=
  hc.mono (by decide)

namespace Machine

variable {σ : Type} {logs : Location → Prop}

/-- The log goes to the file at the place. -/
def LogsAt (m : Machine σ) (place : Location) : Prop :=
  ∃ filter, m.logger = some ⟨filter, .file place⟩

/-- The machines differ at most in the log, in standard error and in the files at the places of
logs, where all of their log lines go that go to files. -/
structure SameButLog (logs : Location → Prop) (m m' : Machine σ) : Prop where
  system : m.system = m'.system
  now : m.now = m'.now
  output : m.output = m'.output
  detached : m.detached = m'.detached
  history : m.history = m'.history
  working : m.files.working = m'.files.working
  nodes : ∀ place, ¬logs place → m.files.node? place = m'.files.node? place
  sink : ∀ place, m.LogsAt place → logs place
  sink' : ∀ place, m'.LogsAt place → logs place

namespace SameButLog

variable {m m' m'' : Machine σ}

theorem refl (hsink : ∀ place, m.LogsAt place → logs place) : m.SameButLog logs m :=
  ⟨rfl, rfl, rfl, rfl, rfl, rfl, fun _ _ => rfl, hsink, hsink⟩

theorem symm (h : m.SameButLog logs m') : m'.SameButLog logs m where
  system := h.system.symm
  now := h.now.symm
  output := h.output.symm
  detached := h.detached.symm
  history := h.history.symm
  working := h.working.symm
  nodes place hplace := (h.nodes place hplace).symm
  sink := h.sink'
  sink' := h.sink

theorem trans (h : m.SameButLog logs m') (h' : m'.SameButLog logs m'') : m.SameButLog logs m'' where
  system := h.system.trans h'.system
  now := h.now.trans h'.now
  output := h.output.trans h'.output
  detached := h.detached.trans h'.detached
  history := h.history.trans h'.history
  working := h.working.trans h'.working
  nodes place hplace := (h.nodes place hplace).trans (h'.nodes place hplace)
  sink := h.sink
  sink' := h'.sink'

theorem of_file {place : Location} {files : FileSystem} {logger : Option Logger}
    (hlogs : logs place) (hworking : files.working = m.files.working)
    (hothers : ∀ other, other ≠ place → files.node? other = m.files.node? other)
    (hsink : ∀ place, m.LogsAt place → logs place)
    (hsink' : ∀ place, ({ m with files := files, logger := logger } : Machine σ).LogsAt place →
      logs place) :
    m.SameButLog logs { m with files := files, logger := logger } := by
  refine ⟨rfl, rfl, rfl, rfl, rfl, hworking.symm, ?_, hsink, hsink'⟩
  intro other hother
  have hne : other ≠ place := fun hsame => hother (hsame ▸ hlogs)
  exact (hothers other hne).symm

private theorem complain_self (hsink : ∀ place, m.LogsAt place → logs place) (text : String) :
    m.SameButLog logs (m.complain text) := by
  rw [complain]
  split
  · exact refl hsink
  · exact ⟨rfl, rfl, rfl, rfl, rfl, rfl, fun _ _ => rfl, hsink, hsink⟩

private theorem emit_self (hsink : ∀ place, m.LogsAt place → logs place) (event : LogEvent) :
    m.SameButLog logs (m.emit event) := by
  rw [emit]
  split
  · exact refl hsink
  · next logger hlogger =>
    split
    · split
      · exact complain_self hsink _
      · next place hplace =>
        have hlogs : logs place := hsink place ⟨logger.filter, by rw [hlogger, ← hplace]⟩
        exact of_file hlogs (m.files.append_working place _) (fun other hother =>
          m.files.node?_append_of_ne hother _) hsink hsink
    · exact refl hsink

private theorem record (h : m.SameButLog logs m') (event : Event) :
    (m.record event).SameButLog logs (m'.record event) := by
  have hhistory : (m.record event).history = (m'.record event).history := by
    rw [Machine.record, Machine.record, h.now, h.history]
  exact { h with history := hhistory }

private theorem ask (h : m.SameButLog logs m') (k : Kernel σ) (request : Request) :
    (m.ask k request).1 = (m'.ask k request).1 ∧ (m.ask k request).2.SameButLog logs
    (m'.ask k request).2 := by
  have hserved : k.serve request m.now m.system = k.serve request m'.now m'.system := by
    rw [h.now, h.system]
  rw [Machine.ask, Machine.ask, hserved]
  generalize k.serve request m'.now m'.system = served
  have hasked : ({ m.record (.asked request) with system := served.2 }).SameButLog logs
      { m'.record (.asked request) with system := served.2 } :=
        { h.record (.asked request) with system := rfl }
  refine ⟨rfl, ?_⟩
  unfold noteRedirect
  split
  · next stream done hdone => exact { hasked with detached := congrArg (stream :: ·) h.detached }
  · exact hasked

theorem advance (h : m.SameButLog logs m') (span : Span) :
    (m.advance span).SameButLog logs (m'.advance span) := by
  have hnow : (m.advance span).now = (m'.advance span).now := by
    rw [Machine.advance, Machine.advance, h.now]
  exact { h with now := hnow }

private theorem print (h : m.SameButLog logs m') (bytes : List UInt8) :
    (m.print bytes).SameButLog logs (m'.print bytes) := by
  by_cases hdetached : Stream.output ∈ m.detached
  · rw [Machine.print, Machine.print, if_pos hdetached, if_pos (h.detached ▸ hdetached)]
    exact h
  · rw [Machine.print, Machine.print, if_neg hdetached, if_neg (h.detached ▸ hdetached)]
    exact { h with output := congrArg (· ++ bytes) h.output }

/-- A call that does not look at the log is answered alike, and the machines stay the same but for
the log. -/
theorem perform (h : m.SameButLog logs m') (k : Kernel σ) {c : Call} (hc : c.LooksAway) :
    (m.perform k c).1 = (m'.perform k c).1 ∧ (m.perform k c).2.SameButLog logs
    (m'.perform k c).2 := by
  cases c with
  | ask request => exact h.ask k request
  | emit event =>
    exact ⟨rfl, (emit_self h.sink event).symm.trans (h.trans (emit_self h.sink' event))⟩
  | complain text =>
    exact ⟨rfl, (complain_self h.sink text).symm.trans (h.trans (complain_self h.sink' text))⟩
  | sleep span => exact ⟨rfl, (h.record (.slept span)).advance span⟩
  | print bytes => exact ⟨rfl, h.print bytes⟩
  | mark label => exact ⟨rfl, h.record (.marked label)⟩
  | now => exact ⟨h.now, h⟩
  | interruptions => exact ⟨congrArg k.interruptions h.system, h⟩
  | _ => cases hc

end SameButLog

end Machine

namespace Activity

variable {σ ε α β : Type} {k : Kernel σ} {logs : Location → Prop}

/-- On machines that are the same but for the log the activity comes to the same, and they stay the
same but for the log. -/
def IgnoresLog (k : Kernel σ) (logs : Location → Prop) (p : Activity α) : Prop :=
  ∀ m m' : Machine σ, m.SameButLog logs m' →
    (run k p m).1 = (run k p m').1 ∧ (run k p m).2.SameButLog logs (run k p m').2

/-- Who makes no call that looks at the log does the same whatever the log is. -/
theorem Only.ignoresLog {p : Activity α} (hp : p.Only Call.LooksAway) : p.IgnoresLog k logs := by
  induction p with
  | done value => exact fun m m' h => ⟨rfl, h⟩
  | stop ending => exact fun m m' h => ⟨rfl, h⟩
  | call c next ih =>
    obtain ⟨hc, hnext⟩ := hp
    intro m m' h
    obtain ⟨hanswer, hsame⟩ := h.perform k hc
    rw [run_call, run_call, hanswer]
    exact ih _ (hnext _) _ _ hsame

namespace IgnoresLog

theorem exists_runs {p : Activity α} (hp : p.IgnoresLog k logs) {m m' : Machine σ}
    (h : m.SameButLog logs m') :
    ∃ outcome final final', run k p m = (outcome, final) ∧ run k p m' = (outcome, final') ∧
      final.SameButLog logs final' := by
  obtain ⟨houtcome, hsame⟩ := hp m m' h
  exact ⟨(run k p m).1, (run k p m).2, (run k p m').2, rfl, by rw [houtcome], hsame⟩

theorem bind {p : Activity α} {f : α → Activity β} (hp : p.IgnoresLog k logs)
    (hf : ∀ value, (f value).IgnoresLog k logs) :
    (p >>= f).IgnoresLog k logs := by
  intro m m' h
  obtain ⟨outcome, final, final', hrun, hrun', hsame⟩ := hp.exists_runs h
  rw [run_bind, run_bind, hrun, hrun']
  cases outcome with
  | returned value => exact hf value final final' hsame
  | ended ending => exact ⟨rfl, hsame⟩

theorem lift {p : Activity α} (hp : p.IgnoresLog k logs) :
    (liftM p : ExceptT ε Activity α).run.IgnoresLog k logs :=
  bind hp fun _ _ _ h => ⟨rfl, h⟩

theorem except_bind {p : ExceptT ε Activity α} {f : α → ExceptT ε Activity β}
    (hp : p.run.IgnoresLog k logs)
    (hf : ∀ value, (f value).run.IgnoresLog k logs) : (p >>= f).run.IgnoresLog k logs := by
  have hnext : ∀ result : Except ε α, (ExceptT.bindCont f result).IgnoresLog k logs := by
    intro result
    cases result with
    | ok value => exact hf value
    | error e => exact fun _ _ h => ⟨rfl, h⟩
  exact bind hp hnext

theorem attempt {p : Activity α} (hp : p.IgnoresLog k logs) : p.attempt.IgnoresLog k logs := by
  intro m m' h
  obtain ⟨outcome, final, final', hrun, hrun', hsame⟩ := hp.exists_runs h
  rw [run_attempt, run_attempt, hrun, hrun']
  match outcome with
  | .returned value => exact ⟨rfl, hsame⟩
  | .ended .fault => exact ⟨rfl, hsame⟩
  | .ended (.exit status) => exact ⟨rfl, hsame⟩

end IgnoresLog

end Activity

end DaemonLaunch
