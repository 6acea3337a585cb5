import DaemonLaunch.Proofs.NameIndependence
import DaemonLaunch.Proofs.SoleAddressee
import Mathlib.Data.List.Nodup

/-!
Death is permanent. A scripted process that is once seen dead is never seen running again, whatever
is done with it, whatever signals it gets, and whether it lingers or is reaped: the time of death
only comes closer while the process lives, and stays afterwards.
-/

namespace DaemonLaunch

open Activity

namespace Task

/-- Whether a look at the time shows the process running. -/
structure Shown (task : Task) (now : Span) : Prop where
  present : task.isPresent now = true
  alive : Daemon.LooksAlive (Script.orFail (task.killErrors.lookup none) ())
    (Script.orFail task.statusError (task.status now))

/-- Once it is dead, the state of the process says so. -/
def TellsDeath (task : Task) : Prop := task.deadState ∈ ["Z", "X", "x"]

private theorem plain_rest : ∀ c ∈ "-1 4194560 0 0".toList,
    c.isDigit = true ∨ c = '-' ∨ c = ' ' := by
  simp

private def fields (task : Task) (state : Char) (letter : state.isAlpha = true) : StatusFields where
  state := state
  parent := 1
  group := task.session.number.toInt
  session := task.session.number.toInt
  terminal := task.terminal
  rest := "-1 4194560 0 0".toList
  letter := letter
  plain := plain_rest

variable {task : Task} {now later : Span}

private theorem ofLine?_usualStatus (hdead : task.isDead now = true) (state : Char)
    (letter : state.isAlpha = true) (hstate : task.deadState = String.singleton state) :
    TaskStatus.ofLine? (task.usualStatus now) = some ⟨state, task.terminal⟩ := by
  have hone : Text.ofInt 1 = "1" := by decide
  have hline : task.usualStatus now = task.pid.text ++ " (" ++ task.name ++ ")" ++
      (task.fields state letter).text := by
    rw [← String.toList_inj]
    simp [usualStatus, hdead, hstate, fields, StatusFields.text, hone, Pid.text]
  rw [hline]
  exact (task.fields state letter).ofLine?_append (task.pid.text ++ " (" ++ task.name)

private theorem read_usualStatus (htells : task.TellsDeath) (hdead : task.isDead now = true) :
    ∃ read, TaskStatus.ofLine? (task.usualStatus now) = some read ∧ read.isDead = true := by
  simp only [TellsDeath, List.mem_cons, List.not_mem_nil, or_false] at htells
  obtain hstate | hstate | hstate := htells
  · exact ⟨_, ofLine?_usualStatus hdead 'Z' (by decide) hstate, rfl⟩
  · exact ⟨_, ofLine?_usualStatus hdead 'X' (by decide) hstate, rfl⟩
  · exact ⟨_, ofLine?_usualStatus hdead 'x' (by decide) hstate, rfl⟩

private theorem Shown.isDead_eq_false (h : task.Shown now) (htells : task.TellsDeath)
    (husual : task.statusLine = none) :
    task.isDead now = false := by
  rw [← Bool.not_eq_true]
  intro hdead
  obtain ⟨-, bytes, read, hbytes, hread, halive⟩ := h.alive
  obtain ⟨read', hread', hdead'⟩ := read_usualStatus htells hdead
  have husually : bytes = (task.usualStatus now).toUTF8 := by
    cases herror : task.statusError with
    | some code => simp [herror, Script.orFail] at hbytes
    | none => simpa [herror, Script.orFail, status, husual, eq_comm] using hbytes
  rw [husually, Text.fromUTF8?_toUTF8, Option.bind_some, hread'] at hread
  cases hread
  rw [halive] at hdead'
  cases hdead'

theorem isDead_mono (hle : now.nanoseconds ≤ later.nanoseconds) (hdead : task.isDead now = true) :
    task.isDead later = true := by
  rw [isDead] at hdead ⊢
  split at hdead
  · cases hdead
  · simp only [decide_eq_true_eq] at hdead ⊢
    omega

theorem isPresent_anti (hle : now.nanoseconds ≤ later.nanoseconds)
    (hpresent : task.isPresent later = true) :
    task.isPresent now = true := by
  rw [isPresent] at hpresent ⊢
  split at hpresent
  · simp only [decide_eq_true_eq] at hpresent ⊢
    omega
  · rfl

theorem isPresent_of_living (hliving : task.isDead now = false) : task.isPresent now = true := by
  rw [isDead] at hliving
  rw [isPresent]
  split at hliving
  next hdeath => simp [hdeath]
  next death hdeath =>
    simp only [decide_eq_false_iff_not] at hliving
    cases task.lingers with
    | none => simp [hdeath]
    | some lingers =>
      simp only [hdeath, decide_eq_true_eq]
      omega

theorem receive_cases (task : Task) (signal : Signal) (now : Span) :
    task.receive signal now = task ∨
      task.isDead now = false ∧ ∃ death,
        task.receive signal now = { task with death := some death } := by
  rw [receive]
  split
  · exact .inl rfl
  · split
    · exact .inl rfl
    · next hliving =>
      refine .inr ⟨by simpa using hliving, ?_⟩
      split
      · exact ⟨_, rfl⟩
      · exact ⟨_, rfl⟩

@[simp] theorem receive_pid (signal : Signal) : (task.receive signal now).pid = task.pid := by
  obtain h | ⟨-, death, h⟩ := task.receive_cases signal now
  · rw [h]
  · rw [h]

theorem TellsDeath.receive (h : task.TellsDeath) (signal : Signal) :
    (task.receive signal now).TellsDeath := by
  obtain hsame | ⟨-, death, hdeath⟩ := task.receive_cases signal now
  · rwa [hsame]
  · rw [hdeath]
    exact h

theorem Shown.of_later (h : task.Shown later) (htells : task.TellsDeath)
    (hle : now.nanoseconds ≤ later.nanoseconds) :
    task.Shown now := by
  have hsame : task.status now = task.status later := by
    cases husual : task.statusLine with
    | some line => simp [status, husual]
    | none =>
      have hlater : task.isDead later = false := h.isDead_eq_false htells husual
      have hnow : task.isDead now = false := by
        rw [← Bool.not_eq_true]
        intro hdead
        rw [isDead_mono hle hdead] at hlater
        cases hlater
      simp [status, husual, usualStatus, hnow, hlater]
  refine ⟨isPresent_anti hle h.present, ?_⟩
  rw [hsame]
  exact h.alive

theorem Shown.of_receive {signal : Signal} (h : (task.receive signal now).Shown now)
    (htells : task.TellsDeath) :
    task.Shown now := by
  have htells' : (task.receive signal now).TellsDeath := htells.receive signal
  obtain hsame | ⟨hliving, death, hdeath⟩ := task.receive_cases signal now
  · rwa [hsame] at h
  · have hsame : (task.receive signal now).status now = task.status now := by
      cases husual : task.statusLine with
      | some line => simp [hdeath, status, husual]
      | none =>
        have hliving' : (task.receive signal now).isDead now = false :=
          h.isDead_eq_false htells' (by rw [hdeath]; exact husual)
        have husually : (task.receive signal now).usualStatus now = task.usualStatus now := by
          rw [hdeath] at hliving' ⊢
          simp only [usualStatus, hliving, hliving']
        have husual' : (task.receive signal now).statusLine = none := by
          rw [hdeath]
          exact husual
        rw [status, status, husual, husual', husually]
    have halive := h.alive
    rw [hsame, hdeath] at halive
    exact ⟨isPresent_of_living hliving, halive⟩

end Task

namespace Script

/-- There is one process for each identifier, and the dead ones with this one say so. -/
structure TellsDeath (s : Script) (pid : Pid) : Prop where
  distinct : (s.tasks.map (·.pid)).Nodup
  tells : ∀ task ∈ s.tasks, task.pid = pid → task.TellsDeath

/-- No process with the identifier is shown running. -/
def Hides (s : Script) (pid : Pid) (now : Span) : Prop :=
  ∀ task ∈ s.tasks, task.pid = pid → ¬ task.Shown now

variable {s : Script} {pid : Pid} {now : Span}

theorem tasks_serve (request : Request) (now : Span) (s : Script) :
    (kernel.serve request now s).2.tasks = s.tasks ∨
      ∃ pid signal, (kernel.serve request now s).2 = s.updateTask pid (·.receive signal now) := by
  cases request with
  | fork =>
    left
    simp only [serve_fork, fork]
    split <;> rfl
  | openPipe =>
    left
    simp only [kernel]
    split <;> rfl
  | send bytes =>
    left
    simp only [serve_send, send]
    split <;> rfl
  | kill pid signal =>
    simp only [kernel, kill]
    split
    · exact .inl rfl
    · split
      · exact .inl rfl
      · cases signal with
        | none => exact .inl rfl
        | some signal => exact .inr ⟨pid, signal, rfl⟩
  | _ => exact .inl rfl

private theorem exists_of_mem_serve {request : Request} {task : Task}
    (hmem : task ∈ (kernel.serve request now s).2.tasks) :
    ∃ before ∈ s.tasks, task = before ∨ ∃ signal, task = before.receive signal now := by
  obtain hsame | ⟨pid, signal, hupdated⟩ := tasks_serve request now s
  · rw [hsame] at hmem
    exact ⟨task, hmem, .inl rfl⟩
  · rw [hupdated] at hmem
    obtain ⟨before, hbefore, rfl⟩ := List.mem_map.mp hmem
    refine ⟨before, hbefore, ?_⟩
    split
    · exact .inr ⟨signal, rfl⟩
    · exact .inl rfl

theorem TellsDeath.serve (h : s.TellsDeath pid) (request : Request) (now : Span) :
    (kernel.serve request now s).2.TellsDeath pid := by
  refine ⟨?_, ?_⟩
  · obtain hsame | ⟨pid', signal, hupdated⟩ := tasks_serve request now s
    · rw [hsame]
      exact h.distinct
    · have hpids : (kernel.serve request now s).2.tasks.map (·.pid) = s.tasks.map (·.pid) := by
        rw [hupdated, updateTask, List.map_map]
        apply List.map_congr_left
        intro task _
        simp only [Function.comp_apply]
        split
        · exact Task.receive_pid signal
        · rfl
      rw [hpids]
      exact h.distinct
  · intro task hmem hpid
    obtain ⟨before, hbefore, rfl | ⟨signal, rfl⟩⟩ := exists_of_mem_serve hmem
    · exact h.tells _ hbefore hpid
    · rw [Task.receive_pid] at hpid
      exact (h.tells _ hbefore hpid).receive signal

theorem Hides.serve (h : s.Hides pid now) (htells : s.TellsDeath pid) (request : Request) :
    (kernel.serve request now s).2.Hides pid now := by
  intro task hmem hpid hshown
  obtain ⟨before, hbefore, rfl | ⟨signal, rfl⟩⟩ := exists_of_mem_serve hmem
  · exact h _ hbefore hpid hshown
  · rw [Task.receive_pid] at hpid
    exact h _ hbefore hpid (hshown.of_receive (htells.tells _ hbefore hpid))

theorem Hides.later {later : Span} (h : s.Hides pid now) (htells : s.TellsDeath pid)
    (hle : now.nanoseconds ≤ later.nanoseconds) : s.Hides pid later := by
  intro task hmem hpid hshown
  exact h task hmem hpid (hshown.of_later (htells.tells task hmem hpid) hle)

private theorem mem_of_task? {task : Task} (hfound : s.task? pid now = some task) :
    task ∈ s.tasks ∧ task.pid = pid ∧ task.isPresent now = true := by
  have hmatches := List.find?_some hfound
  simp only [Bool.and_eq_true, decide_eq_true_eq] at hmatches
  exact ⟨List.mem_of_find?_eq_some hfound, hmatches⟩

private theorem looks_of_absent (hnone : s.task? pid now = none) :
    (kernel.serve (.kill pid none) now s).1 = .error .noProcess ∧
      (kernel.serve (.readStatus pid) now s).1 = .error .noEntry := by
  simp [kernel, kill, readStatus, hnone]

private theorem looks_of_found {task : Task} (hfound : s.task? pid now = some task) :
    (kernel.serve (.kill pid none) now s).1 = orFail (task.killErrors.lookup none) () ∧
      (kernel.serve (.readStatus pid) now s).1 = orFail task.statusError (task.status now) := by
  simp only [kernel, kill, readStatus, hfound, and_true]
  cases task.killErrors.lookup none with
  | none => rfl
  | some code => rfl

private theorem runsAt_iff_shown {d : Daemon} :
    d.RunsAt kernel s now ↔ ∃ task, s.task? d.pid now = some task ∧ task.Shown now := by
  rw [Daemon.runsAt_iff (kernel_onlyLooks d.pid)]
  cases hfound : s.task? d.pid now with
  | none =>
    obtain ⟨hexists, -⟩ := looks_of_absent hfound
    have hcode : Errno.ofCode .noProcess ≠ .notPermitted := by decide
    rw [hexists]
    simp [Daemon.LooksAlive, hcode]
  | some task =>
    obtain ⟨hexists, hstatus⟩ := looks_of_found hfound
    obtain ⟨-, -, hpresent⟩ := mem_of_task? hfound
    rw [hexists, hstatus]
    constructor
    · intro halive
      exact ⟨task, rfl, hpresent, halive⟩
    · rintro ⟨task', hsame, hshown⟩
      cases hsame
      exact hshown.alive

theorem not_runsAt_iff {d : Daemon} (htells : s.TellsDeath d.pid) :
    ¬ d.RunsAt kernel s now ↔ s.Hides d.pid now := by
  rw [runsAt_iff_shown]
  constructor
  · intro hnone task hmem hpid hshown
    cases hfound : s.task? d.pid now with
    | none =>
      have habsent := List.find?_eq_none.mp hfound task hmem
      simp [hpid, hshown.present] at habsent
    -- the process that is found is the one in question, as there is no other with its identifier
    | some task' =>
      obtain ⟨hmem', hpid', -⟩ := mem_of_task? hfound
      have hsame : task' = task :=
        List.inj_on_of_nodup_map htells.distinct hmem' hmem (hpid'.trans hpid.symm)
      rw [hsame] at hfound
      exact hnone ⟨task, hfound, hshown⟩
  · rintro hhides ⟨task, hfound, hshown⟩
    obtain ⟨hmem, hpid, -⟩ := mem_of_task? hfound
    exact hhides task hmem hpid hshown

end Script

namespace Daemon

variable {σ : Type}

inductive Step
  | act (operation : Operation)
  | wait (span : Span)

def take (k : Kernel σ) (d : Daemon) (m : Machine σ) : Step → Machine σ
  | .act operation => (run k (d.act operation) m).2
  | .wait span => m.advance span

def after (k : Kernel σ) (d : Daemon) (m : Machine σ) (steps : List Step) : Machine σ :=
  steps.foldl (d.take k) m

/-- Steps keep what each call keeps and what stays as time passes. -/
theorem after_keeps {k : Kernel σ} (d : Daemon) {Kept : Machine σ → Prop}
    (hperform : ∀ m c, Kept m → Kept (m.perform k c).2)
    (hwait : ∀ m span, Kept m → Kept (m.advance span)) {m : Machine σ}
    (hm : Kept m) (steps : List Step) : Kept (d.after k m steps) := by
  induction steps generalizing m with
  | nil => exact hm
  | cons step later ih =>
    apply ih
    cases step with
    | wait span => exact hwait m span hm
    | act operation =>
      have hany : (d.act operation).Only fun _ => True := .of_forall (fun _ => trivial) _
      exact hany.run_keeps (fun m c _ => hperform m c) hm

/-- What is done with the daemon shows that it is dead. -/
inductive ReportsDeath (k : Kernel σ) (d : Daemon) (m : Machine σ) : Operation → Prop
  | notRunning {final : Machine σ} (hrun : run k d.isRunning m = (.returned false, final)) :
      ReportsDeath k d m .isRunning
  | ended {timeout : Span} {final : Machine σ}
      (hrun : run k (d.awaitEnd timeout) m = (.returned true, final)) :
      ReportsDeath k d m (.awaitEnd timeout)
  | stopped {timeout : Span} {final : Machine σ}
      (hrun : run k (d.stop timeout).run m = (.returned (.ok ()), final)) :
      ReportsDeath k d m (.stop timeout)

private theorem run_forget {α : Type} {k : Kernel σ} {p : Activity α} {m final : Machine σ}
    {value : α}
    (hrun : run k p m = (.returned value, final)) : (run k (do let _ ← p) m).2 = final := by
  rw [run_bind, hrun]
  rfl

private theorem not_runsAt_of_look {k : Kernel σ} {d : Daemon} (hlook : k.OnlyLooks d.pid)
    {looked final : Machine σ} (hrun : run k d.isRunning looked = (.returned false, final)) :
    ¬ d.RunsAt k final.system final.now := by
  obtain ⟨answer, final', hrun', hwaited, hseen⟩ := run_isRunning_eq hlook looked
  rw [hrun] at hrun'
  cases hrun'
  rw [hwaited.system, hwaited.passed.now, instant_zero, ← hseen]
  exact Bool.false_ne_true

private theorem ReportsDeath.not_runsAt {k : Kernel σ} {d : Daemon} (hlook : k.OnlyLooks d.pid)
    {m : Machine σ} {operation : Operation} (h : ReportsDeath k d m operation) :
    ¬ d.RunsAt k (d.take k m (.act operation)).system (d.take k m (.act operation)).now := by
  cases h with
  | notRunning hrun =>
    have hfinal := run_forget hrun
    rw [take, act, hfinal]
    exact not_runsAt_of_look hlook hrun
  | ended hrun =>
    obtain ⟨looked, hlooked⟩ := exists_look_of_awaitEnd hrun
    have hfinal := run_forget hrun
    rw [take, act, hfinal]
    exact not_runsAt_of_look hlook hlooked
  | stopped hrun =>
    obtain ⟨looked, seen, hlooked, hsystem, hnow, -⟩ := exists_look_of_stop hrun
    have hfinal := run_forget hrun
    rw [take, act, hfinal, ← hsystem, ← hnow]
    exact not_runsAt_of_look hlook hlooked

private structure Buried (d : Daemon) (m : Machine Script) : Prop where
  tells : m.system.TellsDeath d.pid
  hides : m.system.Hides d.pid m.now

variable {d : Daemon} {m : Machine Script}

private theorem tellsDeath_perform (h : m.system.TellsDeath d.pid) (c : Call) :
    (m.perform Script.kernel c).2.system.TellsDeath d.pid := by
  rw [Machine.perform_system]
  cases c with
  | ask request => exact h.serve request m.now
  | _ => exact h

private theorem Buried.perform (h : Buried d m) (c : Call) :
    Buried d (m.perform Script.kernel c).2 := by
  refine ⟨tellsDeath_perform h.tells c, ?_⟩
  rw [Machine.perform_system, Machine.perform_now]
  cases c with
  | ask request => exact h.hides.serve h.tells request
  | sleep span => exact h.hides.later h.tells (Nat.le_add_right _ _)
  | _ => exact h.hides

private theorem tellsDeath_after (h : m.system.TellsDeath d.pid) (steps : List Step) :
    (d.after Script.kernel m steps).system.TellsDeath d.pid := by
  let Kept (m : Machine Script) : Prop := m.system.TellsDeath d.pid
  have hperform : ∀ m c, Kept m → Kept (m.perform Script.kernel c).2 :=
    fun m c h => tellsDeath_perform h c
  have hwait : ∀ m span, Kept m → Kept (m.advance span) := fun m span h => h
  exact d.after_keeps hperform hwait h steps

private theorem Buried.after (h : Buried d m) (steps : List Step) :
    Buried d (d.after Script.kernel m steps) := by
  have hwait : ∀ (m : Machine Script) span, Buried d m → Buried d (m.advance span) :=
    fun m span h => ⟨h.tells, h.hides.later h.tells (Nat.le_add_right _ _)⟩
  exact d.after_keeps (fun m c h => h.perform c) hwait h steps

private theorem ReportsDeath.buried {operation : Operation}
    (h : ReportsDeath Script.kernel d m operation)
    (htells : m.system.TellsDeath d.pid) : Buried d (d.take Script.kernel m (.act operation)) := by
  have htells' : (d.take Script.kernel m (.act operation)).system.TellsDeath d.pid :=
    tellsDeath_after htells [.act operation]
  have hnot := h.not_runsAt (Script.kernel_onlyLooks d.pid)
  exact ⟨htells', (Script.not_runsAt_iff htells').mp hnot⟩

/-- Once a look, a wait or a stop has reported that the daemon is dead, every later look finds it
not running and every later wait has its end at once, whatever is done with it in between and
however much time passes. -/
theorem death_is_permanent (d : Daemon) (m : Machine Script) (htells : m.system.TellsDeath d.pid)
    (before between : List Step) (operation : Operation)
    (hreport : ReportsDeath Script.kernel d (d.after Script.kernel m before) operation) :
    let later := d.after Script.kernel m (before ++ .act operation :: between)
    (∃ final, run Script.kernel d.isRunning later = (.returned false, final)) ∧
      ∀ timeout, ∃ final, run Script.kernel (d.awaitEnd timeout) later = (.returned true, final) ∧
        final.now = later.now ∧ final.sleeps = later.sleeps := by
  intro later
  have hlook : Script.kernel.OnlyLooks d.pid := Script.kernel_onlyLooks d.pid
  have hlater : later = d.after Script.kernel
      (d.take Script.kernel (d.after Script.kernel m before) (.act operation)) between :=
    List.foldl_append
  have hburied : Buried d later := by
    rw [hlater]
    exact (hreport.buried (tellsDeath_after htells before)).after between
  have hunseen : ¬ d.RunsAt Script.kernel later.system later.now :=
    (Script.not_runsAt_iff hburied.tells).mpr hburied.hides
  constructor
  · obtain ⟨final, hrun, -⟩ := run_isRunning_of_dead hlook later hunseen
    exact ⟨final, hrun⟩
  · intro timeout
    have hdead : ¬ d.RunsAt Script.kernel later.system (instant later.now 0) := by
      rwa [instant_zero]
    obtain ⟨final, hrun, hwaited⟩ :=
      run_awaitEnd_of_dead hlook later (Nat.zero_le (patience timeout))
        (fun i hi => absurd hi (Nat.not_lt_zero i)) hdead
    refine ⟨final, hrun, ?_, ?_⟩
    · rw [hwaited.passed.now, instant_zero]
    · rw [hwaited.passed.sleeps]
      exact List.append_nil _

private def shortLived (death : Option Span) : Task :=
  { pid := ⟨7⟩, fatal := [(.terminate, ⟨5⟩)], lingers := some ⟨20⟩, death := death }

/-- It is first seen dead while it lingers, is then killed in vain, and has long been reaped in the
end. -/
theorem death_is_permanent_of_lingering :
    let daemon : Daemon := ⟨⟨7⟩⟩
    let later := daemon.after Script.kernel (.fresh { tasks := [shortLived none] } {} none)
      ([.act (.signal .terminate), .wait ⟨5⟩] ++ .act .isRunning :: [.act (.signal .kill),
        .wait ⟨100⟩])
    (∃ final, run Script.kernel daemon.isRunning later = (.returned false, final)) ∧
      ∃ final, run Script.kernel (daemon.awaitEnd ⟨300000000⟩) later = (.returned true, final) ∧
        final.sleeps = later.sleeps := by
  intro daemon later
  let m : Machine Script := .fresh { tasks := [shortLived none] } {} none
  let seen : Machine Script := daemon.after Script.kernel m [.act (.signal .terminate), .wait ⟨5⟩]
  have htells : m.system.TellsDeath daemon.pid := by
    refine ⟨by decide, ?_⟩
    intro task hmem _
    obtain rfl := List.mem_singleton.mp hmem
    simp [Task.TellsDeath, shortLived]
  have hhides : seen.system.Hides daemon.pid seen.now := by
    intro task hmem hpid hshown
    have htells' := (tellsDeath_after htells _).tells task hmem hpid
    have htasks : seen.system.tasks = [shortLived (some ⟨5⟩)] := rfl
    rw [htasks] at hmem
    obtain rfl := List.mem_singleton.mp hmem
    have hliving : (shortLived (some ⟨5⟩)).isDead ⟨5⟩ = false := hshown.isDead_eq_false htells' rfl
    revert hliving
    decide
  have hunseen := (Script.not_runsAt_iff (tellsDeath_after htells _)).mpr hhides
  obtain ⟨final, hrun, -⟩ := run_isRunning_of_dead (Script.kernel_onlyLooks daemon.pid) seen hunseen
  obtain ⟨hnot, hended⟩ :=
    death_is_permanent daemon m htells _ [.act (.signal .kill), .wait ⟨100⟩] .isRunning
    (.notRunning hrun)
  obtain ⟨final', hrun', -, hsleeps⟩ := hended ⟨300000000⟩
  exact ⟨hnot, final', hrun', hsleeps⟩

end Daemon

end DaemonLaunch
