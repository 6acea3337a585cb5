import DaemonLaunch.Activity.Script
import DaemonLaunch.Proofs.Polling

/-!
Stopping a daemon. It is asked to end and looked at until the timeout has passed; only then it is
killed, and looked at for one more second.
-/

namespace DaemonLaunch

open Activity

theorem Script.kernel_onlyLooks (pid : Pid) : Script.kernel.OnlyLooks pid where
  existence now s := by
    simp only [Script.kernel, Script.kill]
    split
    · rfl
    · split <;> rfl
  status _ _ := rfl

namespace Daemon

variable {σ : Type}

/-- How stopping a daemon goes: the result, the sleeps it takes, and the signals that are sent. -/
inductive Stops (k : Kernel σ) (d : Daemon) (timeout start : Span) (s : σ) :
    Except LaunchError Unit → Nat → List (Span × Pid × Signal) → Prop
  | refused {code : ErrorCode} (hasked : (k.serve (.kill d.pid (some .terminate)) start s).1 =
      .error code) :
      Stops k d timeout start s (.error (.signal (.refused .terminate (.ofCode code)))) 0
        [(start, d.pid, .terminate)]
  | ended {asked : σ} {look : Nat}
      (hasked : k.serve (.kill d.pid (some .terminate)) start s = (.ok (), asked))
      (hlast : look ≤ patience timeout) (halive : ∀ i < look, d.RunsAt k asked (instant start i))
      (hdead : ¬ d.RunsAt k asked (instant start look)) :
      Stops k d timeout start s (.ok ()) look [(start, d.pid, .terminate)]
  | notKilled {asked : σ} {code : ErrorCode}
      (hasked : k.serve (.kill d.pid (some .terminate)) start s = (.ok (), asked))
      (halive : ∀ i ≤ patience timeout, d.RunsAt k asked (instant start i))
      (hkilled : (k.serve (.kill d.pid (some .kill)) (instant start (patience timeout)) asked).1 =
        .error code) :
      Stops k d timeout start s (.error (.signal (.refused .kill (.ofCode code))))
        (patience timeout)
        [(start, d.pid, .terminate), (instant start (patience timeout), d.pid, .kill)]
  | killed {asked killed : σ} {look : Nat}
      (hasked : k.serve (.kill d.pid (some .terminate)) start s = (.ok (), asked))
      (halive : ∀ i ≤ patience timeout, d.RunsAt k asked (instant start i))
      (hkilled : k.serve (.kill d.pid (some .kill)) (instant start (patience timeout)) asked =
        (.ok (), killed))
      (hlast : look ≤ 10)
      (hstill : ∀ i < look, d.RunsAt k killed (instant start (patience timeout + i)))
      (hdead : ¬ d.RunsAt k killed (instant start (patience timeout + look))) :
      Stops k d timeout start s (.ok ()) (patience timeout + look)
        [(start, d.pid, .terminate), (instant start (patience timeout), d.pid, .kill)]
  | survived {asked killed : σ}
      (hasked : k.serve (.kill d.pid (some .terminate)) start s = (.ok (), asked))
      (halive : ∀ i ≤ patience timeout, d.RunsAt k asked (instant start i))
      (hkilled : k.serve (.kill d.pid (some .kill)) (instant start (patience timeout)) asked =
        (.ok (), killed))
      (hstill : ∀ i ≤ 10, d.RunsAt k killed (instant start (patience timeout + i))) :
      Stops k d timeout start s (.error (.signal (.survived d.pid))) (patience timeout + 10)
        [(start, d.pid, .terminate), (instant start (patience timeout), d.pid, .kill)]

private theorem exists_first_failure (Holds : Nat → Prop) (last : Nat) :
    (∃ n ≤ last, (∀ i < n, Holds i) ∧ ¬ Holds n) ∨ ∀ i ≤ last, Holds i := by
  induction last with
  | zero =>
    by_cases hzero : Holds 0
    · right
      intro i hi
      rwa [Nat.le_zero.mp hi]
    · exact .inl ⟨0, Nat.le_refl 0, fun i hi => absurd hi (Nat.not_lt_zero i), hzero⟩
  | succ last ih =>
    obtain ⟨n, hn, hbefore, hfails⟩ | hall := ih
    · exact .inl ⟨n, by omega, hbefore, hfails⟩
    · by_cases hlast : Holds (last + 1)
      · right
        intro i hi
        rcases Nat.lt_or_eq_of_le hi with hlt | heq
        · exact hall i (by omega)
        · rwa [heq]
      · exact .inl ⟨last + 1, Nat.le_refl _, fun i hi => hall i (by omega), hlast⟩

variable {k : Kernel σ} {d : Daemon}

private theorem exists_stops (k : Kernel σ) (d : Daemon) (timeout start : Span) (s : σ) :
    ∃ result sleeps sent, Stops k d timeout start s result sleeps sent := by
  rcases hasked : k.serve (.kill d.pid (some .terminate)) start s with ⟨code | done, asked⟩
  case error => exact ⟨_, _, _, .refused (by rw [hasked])⟩
  case ok =>
    obtain ⟨look, hlast, hbefore, hdead⟩ | halive :=
      exists_first_failure (fun i => d.RunsAt k asked (instant start i)) (patience timeout)
    · exact ⟨_, _, _, .ended hasked hlast hbefore hdead⟩
    · rcases hkilled :
        k.serve (.kill d.pid (some .kill)) (instant start (patience timeout)) asked with
        ⟨code | done, killed⟩
      case error => exact ⟨_, _, _, .notKilled hasked halive (by rw [hkilled])⟩
      case ok =>
        obtain ⟨look, hlast, hbefore, hdead⟩ | hstill :=
          exists_first_failure
            (fun i => d.RunsAt k killed (instant start (patience timeout + i))) 10
        · exact ⟨_, _, _, .killed hasked halive hkilled hlast hbefore hdead⟩
        · exact ⟨_, _, _, .survived hasked halive hkilled hstill⟩

private theorem passed_emit (m : Machine σ) (event : LogEvent) : Passed m (m.emit event) 0 [] :=
  ⟨by rw [Machine.emit_now, instant_zero], by simp [Machine.signals], by simp [Machine.sleeps]⟩

private theorem passed_signal (m : Machine σ) (event : LogEvent) (signal : Signal) :
    Passed m ((m.emit event).ask k (.kill d.pid (some signal))).2 0 [(m.now, d.pid, signal)] := by
  have hsent : Passed (m.emit event) ((m.emit event).ask k (.kill d.pid (some signal))).2 0
      [((m.emit event).now, d.pid, signal)] :=
    ⟨by rw [Machine.ask_now, instant_zero], by simp [Machine.signals], by simp [Machine.sleeps,
      Event.slept?]⟩
  rw [Machine.emit_now] at hsent
  exact (passed_emit m event).trans hsent

theorem run_signal_bind {α : Type} (m : Machine σ) (signal : Signal) (f : Unit → Launch α) :
    run k (d.signal signal >>= f).run m =
      match (k.serve (.kill d.pid (some signal)) m.now m.system).1 with
      | .ok () => run k (f ()).run (m.ask k (.kill d.pid (some signal))).2
      | .error code =>
        (.returned (.error (.signal (.refused signal (.ofCode code)))),
          (m.ask k (.kill d.pid (some signal))).2) := by
  rw [Fallible.run_bind, Daemon.signal, Fallible.run_ask_bind, Machine.ask_reply]
  cases (k.serve (.kill d.pid (some signal)) m.now m.system).1 with
  | ok done => rfl
  | error code => rfl

private theorem run_kill_refused {code : ErrorCode} (timeout : Span) (m : Machine σ)
    (hkilled : (k.serve (.kill d.pid (some .kill)) m.now m.system).1 = .error code) :
    ∃ final, run k (d.kill timeout).run m =
        (.returned (.error (.signal (.refused .kill (.ofCode code)))), final) ∧
      Passed m final 0 [(m.now, d.pid, .kill)] := by
  rw [kill, Fallible.run_log_bind, run_signal_bind, Machine.emit_now, Machine.emit_system, hkilled]
  exact ⟨_, rfl, passed_signal m _ .kill⟩

private theorem run_kill_accepted {killed : σ} (timeout : Span) (m : Machine σ)
    (hkilled : k.serve (.kill d.pid (some .kill)) m.now m.system = (.ok (), killed)) :
    ∃ told, run k (d.kill timeout).run m = run k d.awaitDeath.run told ∧ told.system = killed ∧
      Passed m told 0 [(m.now, d.pid, .kill)] := by
  rw [kill, Fallible.run_log_bind, run_signal_bind, Machine.emit_now, Machine.emit_system, hkilled]
  refine ⟨_, rfl, ?_, passed_signal m _ .kill⟩
  rw [Machine.ask_system, Machine.emit_now, Machine.emit_system, hkilled]

private theorem run_stop_refused {code : ErrorCode} (timeout : Span) (m : Machine σ)
    (hasked : (k.serve (.kill d.pid (some .terminate)) m.now m.system).1 = .error code) :
    ∃ final, run k (d.stop timeout).run m =
        (.returned (.error (.signal (.refused .terminate (.ofCode code)))), final) ∧
      Passed m final 0 [(m.now, d.pid, .terminate)] := by
  rw [stop, Fallible.run_log_bind, run_signal_bind, Machine.emit_now, Machine.emit_system, hasked]
  exact ⟨_, rfl, passed_signal m _ .terminate⟩

private theorem run_stop_accepted {asked : σ} (timeout : Span) (m : Machine σ)
    (hasked : k.serve (.kill d.pid (some .terminate)) m.now m.system = (.ok (), asked)) :
    ∃ told, run k (d.stop timeout).run m = run k (d.awaitOrKill timeout).run told ∧
      told.system = asked ∧
      Passed m told 0 [(m.now, d.pid, .terminate)] := by
  rw [stop, Fallible.run_log_bind, run_signal_bind, Machine.emit_now, Machine.emit_system, hasked]
  refine ⟨_, rfl, ?_, passed_signal m _ .terminate⟩
  rw [Machine.ask_system, Machine.emit_now, Machine.emit_system, hasked]

private theorem run_awaitOrKill_ended (hlook : k.OnlyLooks d.pid) {timeout : Span} {look : Nat}
    (m : Machine σ)
    (hlast : look ≤ patience timeout) (halive : ∀ i < look, d.RunsAt k m.system (instant m.now i))
    (hdead : ¬ d.RunsAt k m.system (instant m.now look)) :
    ∃ final, run k (d.awaitOrKill timeout).run m = (.returned (.ok ()), final) ∧
      Passed m final look [] := by
  obtain ⟨ended, hrun, hwaited⟩ := run_awaitEnd_of_dead hlook m hlast halive hdead
  rw [awaitOrKill, Fallible.run_lift_bind, hrun]
  exact ⟨_, rfl, hwaited.passed.trans (passed_emit ended _)⟩

private theorem run_awaitOrKill_late (hlook : k.OnlyLooks d.pid) {timeout : Span} (m : Machine σ)
    (halive : ∀ i ≤ patience timeout, d.RunsAt k m.system (instant m.now i)) :
    ∃ late, run k (d.awaitOrKill timeout).run m = run k (d.kill timeout).run late ∧
      Waited m late (patience timeout) := by
  obtain ⟨late, hrun, hwaited⟩ := run_awaitEnd_of_alive hlook timeout m halive
  rw [awaitOrKill, Fallible.run_lift_bind, hrun]
  exact ⟨late, rfl, hwaited⟩

private theorem patience_killPatience : patience killPatience = 10 := by
  decide

private theorem run_awaitDeath_ended (hlook : k.OnlyLooks d.pid) {look : Nat} (m : Machine σ)
    (hlast : look ≤ 10) (hstill : ∀ i < look, d.RunsAt k m.system (instant m.now i))
    (hdead : ¬ d.RunsAt k m.system (instant m.now look)) :
    ∃ final, run k d.awaitDeath.run m = (.returned (.ok ()), final) ∧ Passed m final look [] := by
  rw [← patience_killPatience] at hlast
  obtain ⟨final, hrun, hwaited⟩ := run_awaitEnd_of_dead hlook m hlast hstill hdead
  rw [awaitDeath, Fallible.run_lift_bind, hrun]
  exact ⟨final, rfl, hwaited.passed⟩

private theorem run_awaitDeath_survived (hlook : k.OnlyLooks d.pid) (m : Machine σ)
    (hstill : ∀ i ≤ 10, d.RunsAt k m.system (instant m.now i)) :
    ∃ final, run k d.awaitDeath.run m = (.returned (.error (.signal (.survived d.pid))), final) ∧
      Passed m final 10 [] := by
  rw [← patience_killPatience] at hstill ⊢
  obtain ⟨final, hrun, hwaited⟩ := run_awaitEnd_of_alive hlook killPatience m hstill
  rw [awaitDeath, Fallible.run_lift_bind, hrun]
  exact ⟨final, rfl, hwaited.passed⟩

private theorem run_stop_late (hlook : k.OnlyLooks d.pid) {timeout : Span} {asked : σ}
    (m : Machine σ)
    (hasked : k.serve (.kill d.pid (some .terminate)) m.now m.system = (.ok (), asked))
    (halive : ∀ i ≤ patience timeout, d.RunsAt k asked (instant m.now i)) :
    ∃ late, run k (d.stop timeout).run m = run k (d.kill timeout).run late ∧ late.system = asked ∧
      Passed m late (patience timeout) [(m.now, d.pid, .terminate)] := by
  obtain ⟨told, hstop, hsystem, htold⟩ := run_stop_accepted timeout m hasked
  have hnow : told.now = m.now := htold.now.trans (instant_zero m.now)
  obtain ⟨late, hwait, hlate⟩ := run_awaitOrKill_late hlook told (by rwa [hsystem, hnow])
  have hpassed := htold.trans hlate.passed
  rw [Nat.zero_add] at hpassed
  exact ⟨late, hstop.trans hwait, hlate.system.trans hsystem, hpassed⟩

private theorem run_stop_killed (hlook : k.OnlyLooks d.pid) {timeout : Span} {asked killed : σ}
    (m : Machine σ)
    (hasked : k.serve (.kill d.pid (some .terminate)) m.now m.system = (.ok (), asked))
    (halive : ∀ i ≤ patience timeout, d.RunsAt k asked (instant m.now i))
    (hkilled : k.serve (.kill d.pid (some .kill)) (instant m.now (patience timeout)) asked =
      (.ok (), killed)) :
    ∃ told, run k (d.stop timeout).run m = run k d.awaitDeath.run told ∧ told.system = killed ∧
      (∀ i, instant told.now i = instant m.now (patience timeout + i)) ∧
      Passed m told (patience timeout)
        [(m.now, d.pid, .terminate), (instant m.now (patience timeout), d.pid, .kill)] := by
  obtain ⟨late, hstop, hsystem, hlate⟩ := run_stop_late hlook m hasked halive
  rw [← hlate.now, ← hsystem] at hkilled
  obtain ⟨told, hkill, hkilled, htold⟩ := run_kill_accepted timeout late hkilled
  have hpassed := hlate.trans htold
  rw [Nat.add_zero, hlate.now] at hpassed
  refine ⟨told, hstop.trans hkill, hkilled, ?_, hpassed⟩
  intro i
  rw [hpassed.now, instant_instant]

theorem run_stop_of_stops (hlook : k.OnlyLooks d.pid) {timeout : Span} {m : Machine σ}
    {result : Except LaunchError Unit} {sleeps : Nat} {sent : List (Span × Pid × Signal)}
    (h : Stops k d timeout m.now m.system result sleeps sent) :
    ∃ final, run k (d.stop timeout).run m = (.returned result, final) ∧
      Passed m final sleeps sent := by
  -- each case is a chain of phases; the time and the signals of the phases add up
  cases h with
  | refused hasked => exact run_stop_refused timeout m hasked
  | ended hasked hlast halive hdead =>
    obtain ⟨told, hstop, hsystem, htold⟩ := run_stop_accepted timeout m hasked
    have hnow : told.now = m.now := htold.now.trans (instant_zero m.now)
    rw [← hsystem, ← hnow] at hdead
    obtain ⟨final, hrun, hpassed⟩ :=
      run_awaitOrKill_ended hlook told hlast (by rwa [hsystem, hnow]) hdead
    rw [← Nat.zero_add sleeps]
    exact ⟨final, hstop.trans hrun, htold.trans hpassed⟩
  | notKilled hasked halive hkilled =>
    obtain ⟨late, hstop, hsystem, hlate⟩ := run_stop_late hlook m hasked halive
    rw [← hlate.now, ← hsystem] at hkilled
    obtain ⟨final, hrun, hpassed⟩ := run_kill_refused timeout late hkilled
    have hall := hlate.trans hpassed
    rw [Nat.add_zero, hlate.now] at hall
    exact ⟨final, hstop.trans hrun, hall⟩
  | killed hasked halive hkilled hlast hstill hdead =>
    obtain ⟨told, hstop, hsystem, hinstant, htold⟩ := run_stop_killed hlook m hasked halive hkilled
    rw [← hinstant, ← hsystem] at hdead
    obtain ⟨final, hrun, hpassed⟩ := run_awaitDeath_ended hlook told hlast
      (fun i hi => by rw [hsystem, hinstant]; exact hstill i hi) hdead
    exact ⟨final, hstop.trans hrun, htold.trans hpassed⟩
  | survived hasked halive hkilled hstill =>
    obtain ⟨told, hstop, hsystem, hinstant, htold⟩ := run_stop_killed hlook m hasked halive hkilled
    obtain ⟨final, hrun, hpassed⟩ := run_awaitDeath_survived hlook told
      (fun i hi => by rw [hsystem, hinstant]; exact hstill i hi)
    exact ⟨final, hstop.trans hrun, htold.trans hpassed⟩

private theorem Stops.sent_bounds {timeout start : Span} {s : σ} {result : Except LaunchError Unit}
    {sleeps : Nat}
    {sent : List (Span × Pid × Signal)} (h : Stops k d timeout start s result sleeps sent) :
    sent.length ≤ 2 ∧ ∀ time, (time, d.pid, Signal.kill) ∈ sent →
      time = instant start (patience timeout) ∧ ∃ asked,
        k.serve (.kill d.pid (some .terminate)) start s = (.ok (), asked) ∧
        ∀ i ≤ patience timeout, d.RunsAt k asked (instant start i) := by
  cases h with
  | refused hasked => simp
  | ended hasked hlast halive hdead => simp
  | notKilled hasked halive hkilled =>
    exact ⟨by simp, fun time hmem => ⟨by simpa using hmem, _, hasked, halive⟩⟩
  | killed hasked halive hkilled hlast hstill hdead =>
    exact ⟨by simp, fun time hmem => ⟨by simpa using hmem, _, hasked, halive⟩⟩
  | survived hasked halive hkilled hstill =>
    exact ⟨by simp, fun time hmem => ⟨by simpa using hmem, _, hasked, halive⟩⟩

/-- Stopping a daemon always comes to an end, in the way that the answers to the signals and the
looks determine. -/
theorem stop_contract (k : Kernel σ) (d : Daemon) (hlook : k.OnlyLooks d.pid) (timeout : Span)
    (m : Machine σ) :
    (∃ result sleeps sent, Stops k d timeout m.now m.system result sleeps sent) ∧
      ∀ result sleeps sent, Stops k d timeout m.now m.system result sleeps sent →
        ∃ final, run k (d.stop timeout).run m = (.returned result, final) ∧
          final.now = instant m.now sleeps ∧
          final.sleeps = m.sleeps ++ List.replicate sleeps pollInterval ∧
          final.signals = m.signals ++ sent ∧ sent.length ≤ 2 ∧
          ∀ time, (time, d.pid, Signal.kill) ∈ sent →
            time = instant m.now (patience timeout) ∧ ∃ asked,
              k.serve (.kill d.pid (some .terminate)) m.now m.system = (.ok (), asked) ∧
              ∀ i ≤ patience timeout, d.RunsAt k asked (instant m.now i) := by
  refine ⟨exists_stops k d timeout m.now m.system, ?_⟩
  intro result sleeps sent h
  obtain ⟨final, hrun, hpassed⟩ := run_stop_of_stops hlook h
  exact ⟨final, hrun, hpassed.now, hpassed.sleeps, hpassed.signals, h.sent_bounds⟩

/-- A daemon that does not heed a request to end and takes a quarter of a second to die when it is
killed. -/
def stubborn (death : Option Span) : Task :=
  { pid := ⟨7⟩, fatal := [(.kill, ⟨250000000⟩)], death := death }

private theorem stubborn_status (death : Option Span) (now : Span) :
    ∃ status, TaskStatus.ofLine? ((stubborn death).usualStatus now) = some status ∧
      status.isDead = (stubborn death).isDead now := by
  rw [Task.usualStatus]
  cases (stubborn death).isDead now with
  | false =>
    refine ⟨⟨'S', 0⟩, ?_, by decide⟩
    simp only [stubborn]
    decide
  | true =>
    refine ⟨⟨'Z', 0⟩, ?_, by decide⟩
    simp only [stubborn]
    decide

theorem stubborn_runsAt (death : Option Span) (now : Span) :
    (⟨⟨7⟩⟩ : Daemon).RunsAt Script.kernel
    { tasks := [stubborn death] } now ↔ (stubborn death).isDead now = false := by
  let s : Script := { tasks := [stubborn death] }
  obtain ⟨status, hline, hdead⟩ := stubborn_status death now
  have hfound : s.task? ⟨7⟩ now = some (stubborn death) := by
    cases death <;> rfl
  have hexists : (Script.kernel.serve (.kill ⟨7⟩ none) now s).1 = .ok () := by
    simp only [Script.kernel, Script.kill, hfound]
    rfl
  have hstatus : (Script.kernel.serve (.readStatus ⟨7⟩) now s).1 =
      .ok ((stubborn death).usualStatus now).toUTF8 := by
    simp only [Script.kernel, Script.readStatus, hfound]
    rfl
  have hlook : Script.kernel.OnlyLooks (⟨⟨7⟩⟩ : Daemon).pid := Script.kernel_onlyLooks ⟨7⟩
  rw [runsAt_of_status hlook hexists hstatus hline, hdead]

theorem stop_contract_of_stubborn :
    ∃ final, run Script.kernel ((⟨⟨7⟩⟩ : Daemon).stop ⟨150000000⟩).run
      (.fresh { tasks := [stubborn none] } {} none) =
        (.returned (.ok ()), final) ∧
      final.now = ⟨500000000⟩ ∧
      final.signals = [(⟨0⟩, ⟨7⟩, .terminate), (⟨200000000⟩, ⟨7⟩, .kill)] := by
  let daemon : Daemon := ⟨⟨7⟩⟩
  let s : Script := { tasks := [stubborn none] }
  let killed : Script := { tasks := [stubborn (some ⟨450000000⟩)] }
  have hlook : Script.kernel.OnlyLooks daemon.pid := Script.kernel_onlyLooks daemon.pid
  have halive : ∀ i ≤ patience ⟨150000000⟩, daemon.RunsAt Script.kernel s (instant ⟨0⟩ i) := by
    intro i _
    exact (stubborn_runsAt none _).mpr rfl
  have hstill : ∀ i < 3, daemon.RunsAt Script.kernel killed
      (instant ⟨0⟩ (patience ⟨150000000⟩ + i)) := by
    intro i hi
    apply (stubborn_runsAt _ _).mpr
    obtain rfl | rfl | rfl : i = 0 ∨ i = 1 ∨ i = 2 := by omega
    all_goals decide
  have hdead : ¬ daemon.RunsAt Script.kernel killed (instant ⟨0⟩ (patience ⟨150000000⟩ + 3)) := by
    intro h
    have halive := (stubborn_runsAt _ _).mp h
    revert halive
    decide
  have hstops : Stops Script.kernel daemon ⟨150000000⟩ ⟨0⟩ s (.ok ()) (patience ⟨150000000⟩ + 3)
      [(⟨0⟩, ⟨7⟩, .terminate), (instant ⟨0⟩ (patience ⟨150000000⟩), ⟨7⟩, .kill)] :=
    .killed rfl halive rfl (by decide) hstill hdead
  obtain ⟨final, hrun, hnow, -, hsignals, -⟩ := (stop_contract Script.kernel daemon hlook
    ⟨150000000⟩ (.fresh s {} none)).2 _ _ _ hstops
  have htime : instant ⟨0⟩ (patience ⟨150000000⟩ + 3) = ⟨500000000⟩ := by decide
  have hkill : instant ⟨0⟩ (patience ⟨150000000⟩) = ⟨200000000⟩ := by decide
  rw [hkill] at hsignals
  exact ⟨final, hrun, hnow.trans htime, hsignals⟩

end Daemon

end DaemonLaunch
