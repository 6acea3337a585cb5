import DaemonLaunch.Proofs.StatusLines
import DaemonLaunch.Proofs.Stopping

/-!
What is reported of a daemon does not depend on its name, as long as the name is text. Where the
name is not text nothing is read of the status, and a running daemon passes for a dead one.
-/

namespace DaemonLaunch

open Activity

namespace Daemon

variable {σ : Type} {k : Kernel σ} {d : Daemon}

/-- Who looks at the daemon is told that it exists, and is then shown these bytes as its status. -/
structure Shows (k : Kernel σ) (d : Daemon) (m : Machine σ) (bytes : ByteArray) : Prop where
  existence : (m.ask k (.kill d.pid none)).1 = .ok () ∨
    (m.ask k (.kill d.pid none)).1 = .error Errno.notPermitted.code
  status : ((m.ask k (.kill d.pid none)).2.ask k (.readStatus d.pid)).1 = .ok bytes

private theorem run_status_of_reply {m : Machine σ} {bytes : ByteArray}
    (hreply : (m.ask k (.readStatus d.pid)).1 = .ok bytes) :
    run k d.status m = (.returned ((String.fromUTF8? bytes).bind TaskStatus.ofLine?),
      (m.ask k (.readStatus d.pid)).2) := by
  rw [status, run_ask_bind, hreply]
  rfl

private theorem run_isRunning_of_shows {m : Machine σ} {bytes : ByteArray} (h : Shows k d m bytes) :
    ∃ final, run k d.isRunning m =
      (.returned (((String.fromUTF8? bytes).bind TaskStatus.ofLine?).any fun status =>
        !status.isDead), final) := by
  let asked := (m.ask k (.kill d.pid none)).2
  have halive : run k d.isRunning m = run k (isRunning.alive d) asked := by
    rw [isRunning, run_ask_bind]
    obtain hreply | hreply := h.existence
    · rw [hreply]
    · rw [hreply]
      simp [Errno.ofCode_code]
      rfl
  rw [halive, isRunning.alive, run_bind, run_status_of_reply h.status]
  cases (String.fromUTF8? bytes).bind TaskStatus.ofLine? with
  | none => exact ⟨_, rfl⟩
  | some status => exact ⟨_, rfl⟩

private theorem run_hasTerminal_of_reply {m : Machine σ} {bytes : ByteArray}
    (hreply : (m.ask k (.readStatus d.pid)).1 = .ok bytes) :
    ∃ final, run k d.hasTerminal m =
      (.returned (((String.fromUTF8? bytes).bind TaskStatus.ofLine?).map fun status =>
        status.terminal != 0), final) := by
  rw [hasTerminal, run_bind, run_status_of_reply hreply]
  exact ⟨_, rfl⟩

/-- The last look at the daemon has found it not running, and nothing has been asked since. -/
def LastLookFailed (k : Kernel σ) (d : Daemon) (looked final : Machine σ) : Prop :=
  ∃ seen, run k d.isRunning looked = (.returned false, seen) ∧ seen.system = final.system ∧
    seen.now = final.now ∧
    seen.history = final.history

private theorem exists_look_of_awaitCounting {timeout slept : Nat} {m final : Machine σ}
    (hrun : run k (d.awaitCounting timeout slept) m = (.returned true, final)) :
    ∃ looked, run k d.isRunning looked = (.returned false, final) := by
  -- a look that finds the daemon running leaves less time, so some later look has found it dead
  induction hleft : timeout - slept using Nat.strongRecOn generalizing slept m with
  | ind left ih =>
    rw [run_awaitCounting] at hrun
    rcases hlook : run k d.isRunning m with ⟨⟨_ | _⟩ | ending, seen⟩
    · rw [hlook] at hrun
      cases hrun
      exact ⟨m, hlook⟩
    · rw [hlook] at hrun
      by_cases hlate : timeout ≤ slept
      · simp [hlate] at hrun
      · have hshorter : timeout - (slept + pollInterval.nanoseconds) < left := by
          simp only [pollInterval, Span.ofMilliseconds]
          omega
        simp only [if_neg hlate] at hrun
        exact ih _ hshorter hrun rfl
    · rw [hlook] at hrun
      cases hrun

theorem exists_look_of_awaitEnd {timeout : Span} {m final : Machine σ}
    (hrun : run k (d.awaitEnd timeout) m = (.returned true, final)) :
    ∃ looked, run k d.isRunning looked = (.returned false, final) := by
  rw [run_awaitEnd] at hrun
  exact exists_look_of_awaitCounting hrun

private theorem exists_look_of_awaitDeath {m final : Machine σ}
    (hrun : run k d.awaitDeath.run m = (.returned (.ok ()), final)) :
    ∃ looked, LastLookFailed k d looked final := by
  rw [awaitDeath, Fallible.run_lift_bind] at hrun
  rcases hwait : run k (d.awaitEnd killPatience) m with ⟨⟨_ | _⟩ | ending, seen⟩
  · rw [hwait] at hrun
    cases hrun
  · rw [hwait] at hrun
    cases hrun
    obtain ⟨looked, hlook⟩ := exists_look_of_awaitEnd hwait
    exact ⟨looked, _, hlook, rfl, rfl, rfl⟩
  · rw [hwait] at hrun
    cases hrun

private theorem exists_look_of_kill {timeout : Span} {m final : Machine σ}
    (hrun : run k (d.kill timeout).run m = (.returned (.ok ()), final)) :
    ∃ looked, LastLookFailed k d looked final := by
  rw [kill, Fallible.run_log_bind, run_signal_bind] at hrun
  split at hrun
  · exact exists_look_of_awaitDeath hrun
  · cases hrun

private theorem exists_look_of_awaitOrKill {timeout : Span} {m final : Machine σ}
    (hrun : run k (d.awaitOrKill timeout).run m = (.returned (.ok ()), final)) :
    ∃ looked, LastLookFailed k d looked final := by
  rw [awaitOrKill, Fallible.run_lift_bind] at hrun
  rcases hwait : run k (d.awaitEnd timeout) m with ⟨⟨_ | _⟩ | ending, seen⟩
  · rw [hwait] at hrun
    exact exists_look_of_kill hrun
  · rw [hwait] at hrun
    cases hrun
    obtain ⟨looked, hlook⟩ := exists_look_of_awaitEnd hwait
    exact ⟨looked, seen, hlook, (seen.emit_system _).symm, (seen.emit_now _).symm,
      (seen.emit_history _).symm⟩
  · rw [hwait] at hrun
    cases hrun

theorem exists_look_of_stop {timeout : Span} {m final : Machine σ}
    (hrun : run k (d.stop timeout).run m = (.returned (.ok ()), final)) :
    ∃ looked, LastLookFailed k d looked final := by
  rw [stop, Fallible.run_log_bind, run_signal_bind] at hrun
  split at hrun
  · exact exists_look_of_awaitOrKill hrun
  · cases hrun

theorem isDead_iff (f : StatusFields) :
    (TaskStatus.mk f.state f.terminal).isDead = true ↔ f.IsDead := by
  simp [TaskStatus.isDead, StatusFields.IsDead, or_assoc]

section Named

variable {m : Machine σ} {name : ByteArray} {f : StatusFields}

private theorem run_isRunning_of_text (hname : name.IsValidUTF8)
    (hshows : Shows k d m (f.line d.pid name)) :
    ∃ answer final, run k d.isRunning m = (.returned answer, final) ∧
      (answer = true ↔ ¬ f.IsDead) := by
  obtain ⟨final, hrun⟩ := run_isRunning_of_shows hshows
  rw [f.read_line, if_pos hname] at hrun
  refine ⟨_, final, hrun, ?_⟩
  rw [← isDead_iff]
  simp

private theorem run_isRunning_of_no_text (hname : ¬ name.IsValidUTF8)
    (hshows : Shows k d m (f.line d.pid name)) :
    ∃ final, run k d.isRunning m = (.returned false, final) := by
  obtain ⟨final, hrun⟩ := run_isRunning_of_shows hshows
  rw [f.read_line, if_neg hname] at hrun
  exact ⟨final, hrun⟩

private theorem run_hasTerminal_of_text (hname : name.IsValidUTF8)
    (hreply : (m.ask k (.readStatus d.pid)).1 = .ok (f.line d.pid name)) :
    ∃ final, run k d.hasTerminal m = (.returned (some (f.terminal != 0)), final) := by
  obtain ⟨final, hrun⟩ := run_hasTerminal_of_reply hreply
  rw [f.read_line, if_pos hname] at hrun
  exact ⟨final, hrun⟩

private theorem run_hasTerminal_of_no_text (hname : ¬ name.IsValidUTF8)
    (hreply : (m.ask k (.readStatus d.pid)).1 = .ok (f.line d.pid name)) :
    ∃ final, run k d.hasTerminal m = (.returned none, final) := by
  obtain ⟨final, hrun⟩ := run_hasTerminal_of_reply hreply
  rw [f.read_line, if_neg hname] at hrun
  exact ⟨final, hrun⟩

private theorem isDead_of_last_look {looked final : Machine σ}
    (hlook : LastLookFailed k d looked final)
    (hname : name.IsValidUTF8) (hshows : Shows k d looked (f.line d.pid name)) : f.IsDead := by
  obtain ⟨seen, hfailed, -⟩ := hlook
  obtain ⟨answer, final', hrun, hanswer⟩ := run_isRunning_of_text hname hshows
  rw [hfailed] at hrun
  cases hrun
  by_cases hdead : f.IsDead
  · exact hdead
  · cases hanswer.mpr hdead

end Named

/-- A daemon whose name is text is reported by its state and its terminal alone, and as stopped only
if its state says so. A name that is not text hides the daemon. -/
theorem reported_by_status_if_name_is_text (k : Kernel σ) (d : Daemon) :
    (∀ (m : Machine σ) (name : ByteArray) (f : StatusFields), name.IsValidUTF8 →
      Shows k d m (f.line d.pid name) →
      ∃ answer final, run k d.isRunning m = (.returned answer, final) ∧
        (answer = true ↔ ¬ f.IsDead)) ∧
    (∀ (m : Machine σ) (name : ByteArray) (f : StatusFields), name.IsValidUTF8 →
      (m.ask k (.readStatus d.pid)).1 = .ok (f.line d.pid name) →
      ∃ final, run k d.hasTerminal m = (.returned (some (f.terminal != 0)), final)) ∧
    (∀ (timeout : Span) (m final : Machine σ), run k (d.stop timeout).run m =
      (.returned (.ok ()), final) →
      ∃ looked, LastLookFailed k d looked final ∧ ∀ (name : ByteArray) (f : StatusFields),
        name.IsValidUTF8 →
        Shows k d looked (f.line d.pid name) → f.IsDead) ∧
    ∀ (m : Machine σ) (name : ByteArray) (f : StatusFields), ¬ name.IsValidUTF8 →
      (Shows k d m (f.line d.pid name) → ∃ final, run k d.isRunning m = (.returned false, final)) ∧
      ((m.ask k (.readStatus d.pid)).1 = .ok (f.line d.pid name) →
        ∃ final, run k d.hasTerminal m = (.returned none, final)) := by
  refine ⟨?_, ?_, ?_, ?_⟩
  · intro m name f hname hshows
    exact run_isRunning_of_text hname hshows
  · intro m name f hname hreply
    exact run_hasTerminal_of_text hname hreply
  · intro timeout m final hrun
    obtain ⟨looked, hlook⟩ := exists_look_of_stop hrun
    refine ⟨looked, hlook, ?_⟩
    intro name f hname hshows
    exact isDead_of_last_look hlook hname hshows
  · intro m name f hname
    exact ⟨run_isRunning_of_no_text hname, run_hasTerminal_of_no_text hname⟩

/-- A script on which process 77 lives for ever, with this status. -/
def shownAs (bytes : ByteArray) (killErrors : List (Option Signal × ErrorCode)) : Machine Script :=
  .fresh { tasks := [{ pid := ⟨77⟩, statusLine := some bytes, killErrors := killErrors }] } {} none

/-- A running process with a terminal. -/
def running : StatusFields where
  state := 'S'
  parent := 1
  group := 77
  session := 77
  terminal := 34816
  rest := "-1 4194560 0 0".toList
  letter := by decide
  plain := by simp

/-- The name has brackets, blanks, a line end and a letter of two bytes, and the daemon may not be
signalled. -/
theorem reported_by_status_if_name_is_text_with_brackets :
    let daemon : Daemon := ⟨⟨77⟩⟩
    let m := shownAs (running.line ⟨77⟩ ") Z (\né)".toUTF8) [(none, 1)]
    (∃ final, run Script.kernel daemon.isRunning m = (.returned true, final)) ∧
      ∃ final, run Script.kernel daemon.hasTerminal m = (.returned (some true), final) := by
  intro daemon m
  obtain ⟨hrunning, hterminal, -, -⟩ := reported_by_status_if_name_is_text Script.kernel daemon
  have hname : ") Z (\né)".toUTF8.IsValidUTF8 := String.isValidUTF8 _
  obtain ⟨answer, final, hrun, hanswer⟩ := hrunning m _ running hname ⟨.inr rfl, rfl⟩
  have halive : answer = true := hanswer.mpr (by decide)
  rw [halive] at hrun
  exact ⟨⟨final, hrun⟩, hterminal m _ running hname rfl⟩

/-- The name is cut after fifteen bytes, inside a letter of two. -/
theorem cut_name_hides_running_daemon :
    let daemon : Daemon := ⟨⟨77⟩⟩
    let name : ByteArray :=
      ⟨#[115, 97, 117, 118, 101, 103, 97, 114, 100, 101, 45, 195, 169, 116, 195]⟩
    let m := shownAs (running.line ⟨77⟩ name) []
    Shows Script.kernel daemon m (running.line ⟨77⟩ name) ∧ ¬ running.IsDead ∧
      (∃ final, run Script.kernel daemon.isRunning m = (.returned false, final)) ∧
      (∃ final, run Script.kernel daemon.hasTerminal m = (.returned none, final)) ∧
      ∃ final, run Script.kernel (daemon.stop ⟨0⟩).run m = (.returned (.ok ()), final) := by
  intro daemon name m
  have hname : ¬ name.IsValidUTF8 := by decide
  have hshows : Shows Script.kernel daemon m (running.line ⟨77⟩ name) := ⟨.inl rfl, rfl⟩
  refine ⟨hshows, by decide, run_isRunning_of_no_text hname hshows,
    run_hasTerminal_of_no_text hname rfl, ?_⟩
  have hunseen : ¬ daemon.RunsAt Script.kernel m.system (instant m.now 0) := by
    intro hruns
    have hshown : Shows Script.kernel daemon { system := m.system, now := m.now }
        (running.line ⟨77⟩ name) := ⟨.inl rfl, rfl⟩
    obtain ⟨final, hrun⟩ := run_isRunning_of_no_text hname hshown
    rw [RunsAt, instant_zero, hrun] at hruns
    cases hruns
  have hstops : Stops Script.kernel daemon ⟨0⟩ m.now m.system (.ok ()) 0
      [(m.now, daemon.pid, .terminate)] :=
    .ended rfl (Nat.zero_le _) (fun i hi => absurd hi (Nat.not_lt_zero i)) hunseen
  obtain ⟨final, hrun, -⟩ := run_stop_of_stops (Script.kernel_onlyLooks daemon.pid) hstops
  exact ⟨final, hrun⟩

end Daemon

end DaemonLaunch
