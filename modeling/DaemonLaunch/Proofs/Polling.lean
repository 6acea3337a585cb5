import DaemonLaunch.Launch.Daemon
import DaemonLaunch.Proofs.FallibleRuns
import DaemonLaunch.Text.Cut

/-!
Waiting for the end of a daemon, on any system where looking at a process changes nothing and time
passes only in sleeps. The daemon is looked at in equal intervals until it is seen dead or the
timeout has passed.
-/

namespace DaemonLaunch

open Activity

/-- A system on which it makes no difference whether a process is looked at. -/
structure Kernel.OnlyLooks {σ : Type} (k : Kernel σ) (pid : Pid) : Prop where
  existence : ∀ now s, (k.serve (.kill pid none) now s).2 = s
  status : ∀ now s, (k.serve (.readStatus pid) now s).2 = s

namespace Daemon

variable {σ : Type}

/-- The instant of a look, the first one being at the start. -/
def instant (start : Span) (look : Nat) : Span :=
  ⟨start.nanoseconds + look * pollInterval.nanoseconds⟩

/-- How often to sleep before the timeout has passed. -/
def patience (timeout : Span) : Nat :=
  (timeout.nanoseconds + (pollInterval.nanoseconds - 1)) / pollInterval.nanoseconds

/-- Whether the daemon is seen running at a time. -/
def RunsAt (k : Kernel σ) (d : Daemon) (s : σ) (now : Span) : Prop :=
  (run k d.isRunning { system := s, now := now }).1 = .returned true

/-- A machine on which so many sleeps have passed, and some signals have been sent. -/
structure Passed (m final : Machine σ) (count : Nat) (sent : List (Span × Pid × Signal)) :
    Prop where
  now : final.now = instant m.now count
  signals : final.signals = m.signals ++ sent
  sleeps : final.sleeps = m.sleeps ++ List.replicate count pollInterval

/-- A machine that has only looked and slept. -/
structure Waited (m final : Machine σ) (count : Nat) : Prop where
  system : final.system = m.system
  passed : Passed m final count []

theorem instant_zero (start : Span) : instant start 0 = start := by
  simp [instant]

theorem instant_instant (start : Span) (i j : Nat) :
    instant (instant start i) j = instant start (i + j) := by
  simp only [instant, Nat.add_mul, Nat.add_assoc]

theorem Passed.trans {m middle final : Machine σ} {count count' : Nat}
    {sent sent' : List (Span × Pid × Signal)}
    (h : Passed m middle count sent) (h' : Passed middle final count' sent') :
    Passed m final (count + count') (sent ++ sent') where
  now := by rw [h'.now, h.now, instant_instant]
  signals := by rw [h'.signals, h.signals, List.append_assoc]
  sleeps := by rw [h'.sleeps, h.sleeps, List.append_assoc, List.replicate_append_replicate]

theorem Waited.trans {m middle final : Machine σ} {count count' : Nat} (h : Waited m middle count)
    (h' : Waited middle final count') : Waited m final (count + count') :=
  ⟨h'.system.trans h.system, h.passed.trans h'.passed⟩

variable {k : Kernel σ} {d : Daemon}

private theorem waited_look (m : Machine σ) {request : Request}
    (hlook : request = .kill d.pid none ∨ request = .readStatus d.pid) :
    Waited m (m.served m.system [⟨m.now, .asked request⟩]) 0 := by
  obtain rfl | rfl := hlook
  case inl =>
    exact ⟨rfl, (instant_zero _).symm, by simp [Machine.signals], by simp [Machine.sleeps,
      Event.slept?]⟩
  case inr =>
    exact ⟨rfl, (instant_zero _).symm, by simp [Machine.signals], by simp [Machine.sleeps,
      Event.slept?]⟩

private theorem run_ask_look (hlook : k.OnlyLooks d.pid) (m : Machine σ) {request : Request}
    (hrequest : request = .kill d.pid none ∨ request = .readStatus d.pid) :
    (m.ask k request).1 = (k.serve request m.now m.system).1 ∧ Waited m (m.ask k request).2 0 := by
  have hstays : (k.serve request m.now m.system).2 = m.system := by
    obtain rfl | rfl := hrequest
    · exact hlook.existence m.now m.system
    · exact hlook.status m.now m.system
  have hasked := m.ask_eq_served k request (by obtain rfl | rfl := hrequest <;> simp)
  rw [hstays] at hasked
  rw [hasked]
  exact ⟨rfl, waited_look m hrequest⟩

private theorem run_status (hlook : k.OnlyLooks d.pid) (s : σ) (now : Span) :
    ∃ status : Option TaskStatus, ∀ m : Machine σ, m.system = s → m.now = now →
      ∃ final, run k d.status m = (.returned status, final) ∧ Waited m final 0 := by
  cases hreply : (k.serve (.readStatus d.pid) now s).1 with
  | error code =>
    refine ⟨none, ?_⟩
    rintro m rfl rfl
    obtain ⟨hanswer, hwaited⟩ := run_ask_look hlook m (.inr rfl)
    refine ⟨_, ?_, hwaited⟩
    rw [status, run_ask_bind, hanswer, hreply]
    rfl
  | ok bytes =>
    refine ⟨(String.fromUTF8? bytes).bind TaskStatus.ofLine?, ?_⟩
    rintro m rfl rfl
    obtain ⟨hanswer, hwaited⟩ := run_ask_look hlook m (.inr rfl)
    refine ⟨_, ?_, hwaited⟩
    rw [status, run_ask_bind, hanswer, hreply]
    rfl

private theorem run_alive (hlook : k.OnlyLooks d.pid) (s : σ) (now : Span) :
    ∃ answer : Bool, ∀ m : Machine σ, m.system = s → m.now = now →
      ∃ final, run k (isRunning.alive d) m = (.returned answer, final) ∧ Waited m final 0 := by
  obtain ⟨status, hstatus⟩ := run_status hlook s now
  refine ⟨status.any fun status => !status.isDead, ?_⟩
  intro m hs hnow
  obtain ⟨final, hrun, hwaited⟩ := hstatus m hs hnow
  refine ⟨final, ?_, hwaited⟩
  rw [isRunning.alive, run_bind, hrun]
  cases status <;> rfl

private theorem run_isRunning (hlook : k.OnlyLooks d.pid) (s : σ) (now : Span) :
    ∃ answer : Bool, ∀ m : Machine σ, m.system = s → m.now = now →
      ∃ final, run k d.isRunning m = (.returned answer, final) ∧ Waited m final 0 := by
  obtain ⟨alive, halive⟩ := run_alive hlook s now
  have hshown : ∀ m : Machine σ, m.system = s → m.now = now →
      ∃ final, run k (isRunning.alive d) (m.ask k (.kill d.pid none)).2 = (.returned alive, final) ∧
        Waited m final 0 := by
    intro m hs hnow
    obtain ⟨-, hasked⟩ := run_ask_look hlook m (.inl rfl)
    obtain ⟨final, hrun, hwaited⟩ := halive _ (hasked.system.trans hs)
      ((hasked.passed.now.trans (instant_zero _)).trans hnow)
    exact ⟨final, hrun, hasked.trans hwaited⟩
  cases hreply : (k.serve (.kill d.pid none) now s).1 with
  | ok done =>
    refine ⟨alive, ?_⟩
    rintro m rfl rfl
    obtain ⟨final, hrun, hwaited⟩ := hshown m rfl rfl
    refine ⟨final, ?_, hwaited⟩
    rw [isRunning, run_ask_bind, Machine.ask_reply, hreply]
    exact hrun
  | error code =>
    by_cases hpermitted : Errno.ofCode code = .notPermitted
    · refine ⟨alive, ?_⟩
      rintro m rfl rfl
      obtain ⟨final, hrun, hwaited⟩ := hshown m rfl rfl
      refine ⟨final, ?_, hwaited⟩
      rw [isRunning, run_ask_bind, Machine.ask_reply, hreply]
      simp only [if_pos hpermitted]
      exact hrun
    · refine ⟨false, ?_⟩
      rintro m rfl rfl
      obtain ⟨-, hasked⟩ := run_ask_look hlook m (.inl rfl)
      refine ⟨_, ?_, hasked⟩
      rw [isRunning, run_ask_bind, Machine.ask_reply, hreply]
      simp only [if_neg hpermitted]
      rfl

theorem run_isRunning_eq (hlook : k.OnlyLooks d.pid) (m : Machine σ) :
    ∃ answer final, run k d.isRunning m = (.returned answer, final) ∧ Waited m final 0 ∧
      (answer = true ↔ d.RunsAt k m.system m.now) := by
  obtain ⟨answer, hanswer⟩ := run_isRunning hlook m.system m.now
  obtain ⟨final, hrun, hwaited⟩ := hanswer m rfl rfl
  obtain ⟨seen, hseen, -⟩ := hanswer { system := m.system, now := m.now } rfl rfl
  refine ⟨answer, final, hrun, hwaited, ?_⟩
  rw [RunsAt, hseen]
  simp

theorem run_isRunning_of_dead (hlook : k.OnlyLooks d.pid) (m : Machine σ)
    (hdead : ¬ d.RunsAt k m.system m.now) :
    ∃ final, run k d.isRunning m = (.returned false, final) ∧ Waited m final 0 := by
  obtain ⟨answer, final, hrun, hwaited, hseen⟩ := run_isRunning_eq hlook m
  have hanswer : answer = false := by
    rw [← Bool.not_eq_true, hseen]
    exact hdead
  rw [hanswer] at hrun
  exact ⟨final, hrun, hwaited⟩

/-- What a look has to find: that the daemon exists, even where it may not be signalled, and a
status that is not a dead one's. -/
def LooksAlive (existence : Except ErrorCode Unit) (status : Except ErrorCode ByteArray) : Prop :=
  (existence = .ok () ∨ ∃ code, existence = .error code ∧ Errno.ofCode code = .notPermitted) ∧
    ∃ bytes read, status = .ok bytes ∧ (String.fromUTF8? bytes).bind TaskStatus.ofLine? =
        some read ∧ read.isDead = false

private theorem run_alive_eq (m : Machine σ) :
    (run k (isRunning.alive d) m).1 = .returned true ↔
      ∃ bytes read, (k.serve (.readStatus d.pid) m.now m.system).1 = .ok bytes ∧
        (String.fromUTF8? bytes).bind TaskStatus.ofLine? = some read ∧ read.isDead = false := by
  rw [isRunning.alive, run_bind, status, run_ask_bind, Machine.ask_reply]
  cases (k.serve (.readStatus d.pid) m.now m.system).1 with
  | error code => simp
  | ok bytes =>
    cases hread : (String.fromUTF8? bytes).bind TaskStatus.ofLine? with
    | none => simp [hread]
    | some read => simp [hread]

theorem runsAt_iff (hlook : k.OnlyLooks d.pid) {s : σ} {now : Span} :
    d.RunsAt k s now ↔
      LooksAlive (k.serve (.kill d.pid none) now s).1 (k.serve (.readStatus d.pid) now s).1 := by
  let m : Machine σ := { system := s, now := now }
  have halive := run_alive_eq (k := k) (d := d) (m.ask k (.kill d.pid none)).2
  rw [Machine.ask_system, hlook.existence, Machine.ask_now] at halive
  rw [RunsAt, LooksAlive, isRunning, run_ask_bind, Machine.ask_reply]
  cases hreply : (k.serve (.kill d.pid none) now s).1 with
  | ok done => simpa [m] using halive
  | error code =>
    by_cases hpermitted : Errno.ofCode code = .notPermitted
    · simpa [hpermitted, m] using halive
    · simp [hpermitted]

theorem runsAt_of_status (hlook : k.OnlyLooks d.pid) {s : σ} {now : Span} {line : String}
    {status : TaskStatus} (hexists : (k.serve (.kill d.pid none) now s).1 = .ok ())
    (hstatus : (k.serve (.readStatus d.pid) now s).1 = .ok line.toUTF8)
    (hline : TaskStatus.ofLine? line = some status) :
    d.RunsAt k s now ↔ status.isDead = false := by
  have hread : (String.fromUTF8? line.toUTF8).bind TaskStatus.ofLine? = some status := by
    rw [Text.fromUTF8?_toUTF8]
    exact hline
  rw [runsAt_iff hlook, hexists, hstatus, LooksAlive]
  constructor
  · rintro ⟨-, bytes, read, hbytes, hread', halive⟩
    cases hbytes
    rw [hread] at hread'
    cases hread'
    exact halive
  · intro halive
    exact ⟨.inl rfl, _, status, rfl, hread, halive⟩

/-- Waiting with a count of the time slept in place of the clock. -/
def awaitCounting (d : Daemon) (timeout slept : Nat) : Activity Bool := do
  if ← d.isRunning then
    if _h : timeout ≤ slept then return false
    else
      perform (.sleep pollInterval)
      d.awaitCounting timeout (slept + pollInterval.nanoseconds)
  else return true
  termination_by timeout - slept
  decreasing_by simp only [pollInterval, Span.ofMilliseconds]; omega

/-- Waiting is a look, and where the daemon is seen running and time is left, a sleep and more
waiting. -/
theorem run_awaitCounting (timeout slept : Nat) (m : Machine σ) :
    run k (d.awaitCounting timeout slept) m =
      match run k d.isRunning m with
      | (.returned false, seen) => (.returned true, seen)
      | (.returned true, seen) =>
        if timeout ≤ slept then (.returned false, seen)
        else
          run k (d.awaitCounting timeout (slept + pollInterval.nanoseconds))
            (seen.perform k (.sleep pollInterval)).2
      | (.ended ending, seen) => (.ended ending, seen) := by
  rw [awaitCounting, run_bind]
  match run k d.isRunning m with
  | (.returned false, seen) => rfl
  | (.returned true, seen) =>
    by_cases hlate : timeout ≤ slept
    · simp only [if_true, dif_pos hlate, if_pos hlate]
      rfl
    · simp only [if_true, dif_neg hlate, if_neg hlate]
      rw [run_perform_bind]
  | (.ended ending, seen) => rfl

private theorem run_status_now (m : Machine σ) : (run k d.status m).2.now = m.now := by
  rw [status, run_ask_bind]
  cases (m.ask k (.readStatus d.pid)).1 with
  | ok bytes => exact m.ask_now k _
  | error code => exact m.ask_now k _

private theorem run_alive_now (m : Machine σ) : (run k (isRunning.alive d) m).2.now = m.now := by
  have hnow := run_status_now (k := k) (d := d) m
  rw [isRunning.alive, run_bind]
  rcases hrun : run k d.status m with ⟨⟨_ | status⟩ | ending, seen⟩
  all_goals
    rw [hrun] at hnow
    exact hnow

private theorem run_isRunning_now {m seen : Machine σ} {outcome : Outcome Bool}
    (hrun : run k d.isRunning m = (outcome, seen)) : seen.now = m.now := by
  have hnow : (run k d.isRunning m).2.now = m.now := by
    rw [isRunning, run_ask_bind]
    cases (m.ask k (.kill d.pid none)).1 with
    | ok done => exact (run_alive_now _).trans (m.ask_now k _)
    | error code =>
      by_cases hpermitted : Errno.ofCode code = .notPermitted
      · simp only [if_pos hpermitted]
        exact (run_alive_now _).trans (m.ask_now k _)
      · simp only [if_neg hpermitted]
        exact m.ask_now k _
  rw [hrun] at hnow
  exact hnow

private theorem run_awaitEndFrom (timeout start : Span) (looks : Nat) (m : Machine σ) :
    run k (d.awaitEndFrom timeout start (looks + 1)) m =
      match run k d.isRunning m with
      | (.returned false, seen) => (.returned true, seen)
      | (.returned true, seen) =>
        if timeout.nanoseconds ≤ seen.now.nanoseconds - start.nanoseconds then
          (.returned false, seen)
        else run k (d.awaitEndFrom timeout start looks) (seen.perform k (.sleep pollInterval)).2
      | (.ended ending, seen) => (.ended ending, seen) := by
  rw [awaitEndFrom, run_bind]
  match run k d.isRunning m with
  | (.returned false, seen) => rfl
  | (.returned true, seen) =>
    simp only [if_true]
    rw [run_perform_bind]
    by_cases hlate : timeout.nanoseconds ≤ seen.now.nanoseconds - start.nanoseconds
    · exact (congrArg (run k · seen) (if_pos hlate)).trans (if_pos hlate).symm
    · exact (congrArg (run k · seen) (if_neg hlate)).trans (if_neg hlate).symm
  | (.ended ending, seen) => rfl

private theorem run_awaitEndFrom_eq_counting (timeout start : Span) {looks slept : Nat}
    {m : Machine σ} (hnow : m.now.nanoseconds = start.nanoseconds + slept)
    (hlooks : timeout.nanoseconds ≤ slept + looks * pollInterval.nanoseconds) :
    run k (d.awaitEndFrom timeout start (looks + 1)) m =
      run k (d.awaitCounting timeout.nanoseconds slept) m := by
  induction looks generalizing slept m with
  | zero =>
    rw [run_awaitCounting, run_awaitEndFrom]
    rcases hrun : run k d.isRunning m with ⟨⟨_ | _⟩ | ending, seen⟩
    · rfl
    · have hseen : seen.now = m.now := run_isRunning_now hrun
      rw [← hseen] at hnow
      have hlate : timeout.nanoseconds ≤ slept := by omega
      have hclock : timeout.nanoseconds ≤ seen.now.nanoseconds - start.nanoseconds := by omega
      simp only [if_pos hlate, if_pos hclock]
    · rfl
  | succ looks ih =>
    rw [run_awaitCounting, run_awaitEndFrom]
    rcases hrun : run k d.isRunning m with ⟨⟨_ | _⟩ | ending, seen⟩
    · rfl
    · have hseen : seen.now = m.now := run_isRunning_now hrun
      rw [← hseen] at hnow
      have hclock : seen.now.nanoseconds - start.nanoseconds = slept := by omega
      let later := (seen.perform k (.sleep pollInterval)).2
      have hlater : later.now.nanoseconds =
          start.nanoseconds + (slept + pollInterval.nanoseconds) := by
        rw [Machine.perform_now, ← Nat.add_assoc, ← hnow]
        rfl
      rw [Nat.succ_mul] at hlooks
      simp only [hclock, ih hlater (by omega), later]
    · rfl

/-- Waiting by the clock is waiting with a count of the time slept: only sleeps take time. -/
theorem run_awaitEnd (timeout : Span) (m : Machine σ) :
    run k (d.awaitEnd timeout) m = run k (d.awaitCounting timeout.nanoseconds 0) m := by
  rw [awaitEnd, run_perform_bind]
  apply run_awaitEndFrom_eq_counting
  · rfl
  · have hinterval : 0 < pollInterval.nanoseconds := by decide
    have hmod := Nat.mod_lt timeout.nanoseconds hinterval
    have hdiv := Nat.div_add_mod timeout.nanoseconds pollInterval.nanoseconds
    rw [Nat.mul_comm] at hdiv
    rw [Nat.add_mul]
    omega

private theorem run_awaitCounting_dead (hlook : k.OnlyLooks d.pid) (timeout slept : Nat)
    (m : Machine σ) (hdead : ¬ d.RunsAt k m.system m.now) :
    ∃ final, run k (d.awaitCounting timeout slept) m = (.returned true, final) ∧
      Waited m final 0 := by
  obtain ⟨final, hrun, hwaited⟩ := run_isRunning_of_dead hlook m hdead
  exact ⟨final, by rw [run_awaitCounting, hrun], hwaited⟩

private theorem run_awaitCounting_late (hlook : k.OnlyLooks d.pid) {timeout slept : Nat}
    (m : Machine σ) (halive : d.RunsAt k m.system m.now) (hlate : timeout ≤ slept) :
    ∃ final, run k (d.awaitCounting timeout slept) m = (.returned false, final) ∧
      Waited m final 0 := by
  obtain ⟨answer, final, hrun, hwaited, hseen⟩ := run_isRunning_eq hlook m
  have hanswer : answer = true := hseen.mpr halive
  refine ⟨final, ?_, hwaited⟩
  rw [run_awaitCounting, hrun, hanswer]
  exact if_pos hlate

private theorem run_awaitCounting_early (hlook : k.OnlyLooks d.pid) (timeout slept : Nat)
    (m : Machine σ) (halive : d.RunsAt k m.system m.now) (hearly : slept < timeout) :
    ∃ next, run k (d.awaitCounting timeout slept) m =
      run k (d.awaitCounting timeout (slept + pollInterval.nanoseconds)) next ∧
      Waited m next 1 := by
  obtain ⟨answer, seen, hrun, hwaited, hseen⟩ := run_isRunning_eq hlook m
  have hanswer : answer = true := hseen.mpr halive
  have hslept : Waited seen (seen.perform k (.sleep pollInterval)).2 1 := by
    refine ⟨rfl, ?_, ?_, ?_⟩
    · simp [Machine.perform, Machine.record, Machine.advance, instant]
    · simp [Machine.perform, Machine.record, Machine.advance, Machine.signals]
    · simp [Machine.sleeps, Call.recorded, Event.slept?]
  refine ⟨_, ?_, hwaited.trans hslept⟩
  rw [run_awaitCounting, hrun, hanswer]
  exact if_neg (Nat.not_le.mpr hearly)

/-- The first look at which the daemon is dead ends the waiting, if it comes before the timeout has
passed. -/
theorem run_awaitCounting_of_dead (hlook : k.OnlyLooks d.pid) {timeout slept look : Nat}
    (m : Machine σ)
    (hreach : slept + look * pollInterval.nanoseconds < timeout + pollInterval.nanoseconds)
    (halive : ∀ i < look, d.RunsAt k m.system (instant m.now i))
    (hdead : ¬ d.RunsAt k m.system (instant m.now look)) :
    ∃ final, run k (d.awaitCounting timeout slept) m = (.returned true, final) ∧
      Waited m final look := by
  -- by the looks to come: each but the last is a sleep that brings the machine one instant closer
  induction look generalizing slept m with
  | zero =>
    rw [instant_zero] at hdead
    exact run_awaitCounting_dead hlook timeout slept m hdead
  | succ look ih =>
    rw [Nat.succ_mul] at hreach
    have hnow : d.RunsAt k m.system m.now := by
      have := halive 0 (Nat.succ_pos look)
      rwa [instant_zero] at this
    obtain ⟨next, hrun, hwaited⟩ := run_awaitCounting_early hlook timeout slept m hnow (by omega)
    have hlater : ∀ i, instant next.now i = instant m.now (i + 1) := by
      intro i
      rw [hwaited.passed.now, instant_instant, Nat.add_comm]
    have hreach' : slept + pollInterval.nanoseconds + look * pollInterval.nanoseconds <
        timeout + pollInterval.nanoseconds := by omega
    obtain ⟨final, hfinal, hrest⟩ := ih next hreach'
      (fun i hi => by rw [hwaited.system, hlater]; exact halive (i + 1) (by omega))
      (by rw [hwaited.system, hlater]; exact hdead)
    refine ⟨final, hrun.trans hfinal, ?_⟩
    rw [Nat.add_comm look 1]
    exact hwaited.trans hrest

/-- A daemon that is seen running at every look until the timeout has passed outlives the
waiting. -/
theorem run_awaitCounting_of_alive (hlook : k.OnlyLooks d.pid) {timeout slept looks : Nat}
    (m : Machine σ)
    (hreach : slept + looks * pollInterval.nanoseconds < timeout + pollInterval.nanoseconds)
    (hpassed : timeout ≤ slept + looks * pollInterval.nanoseconds)
    (halive : ∀ i ≤ looks, d.RunsAt k m.system (instant m.now i)) :
    ∃ final, run k (d.awaitCounting timeout slept) m = (.returned false, final) ∧
      Waited m final looks := by
  have hnow : d.RunsAt k m.system m.now := by
    have := halive 0 (Nat.zero_le looks)
    rwa [instant_zero] at this
  induction looks generalizing slept m with
  | zero => exact run_awaitCounting_late hlook m hnow (by omega)
  | succ looks ih =>
    rw [Nat.succ_mul] at hreach hpassed
    obtain ⟨next, hrun, hwaited⟩ := run_awaitCounting_early hlook timeout slept m hnow (by omega)
    have hlater : ∀ i, instant next.now i = instant m.now (i + 1) := by
      intro i
      rw [hwaited.passed.now, instant_instant, Nat.add_comm]
    have hrest : ∀ i ≤ looks, d.RunsAt k next.system (instant next.now i) := by
      intro i hi
      rw [hwaited.system, hlater]
      exact halive (i + 1) (by omega)
    have hnext : d.RunsAt k next.system next.now := by
      have := hrest 0 (Nat.zero_le looks)
      rwa [instant_zero] at this
    have hreach' : slept + pollInterval.nanoseconds + looks * pollInterval.nanoseconds <
        timeout + pollInterval.nanoseconds := by omega
    obtain ⟨final, hfinal, hwaited'⟩ := ih next hreach' (by omega) hrest hnext
    refine ⟨final, hrun.trans hfinal, ?_⟩
    rw [Nat.add_comm looks 1]
    exact hwaited.trans hwaited'

theorem patience_bounds (timeout : Span) :
    patience timeout * pollInterval.nanoseconds < timeout.nanoseconds + pollInterval.nanoseconds ∧
      timeout.nanoseconds ≤ patience timeout * pollInterval.nanoseconds := by
  simp only [patience, pollInterval, Span.ofMilliseconds]
  omega

theorem run_awaitEnd_of_dead (hlook : k.OnlyLooks d.pid) {timeout : Span} {look : Nat}
    (m : Machine σ)
    (hlast : look ≤ patience timeout) (halive : ∀ i < look, d.RunsAt k m.system (instant m.now i))
    (hdead : ¬ d.RunsAt k m.system (instant m.now look)) :
    ∃ final, run k (d.awaitEnd timeout) m = (.returned true, final) ∧ Waited m final look := by
  have hbound := (patience_bounds timeout).1
  have hle := Nat.mul_le_mul_right pollInterval.nanoseconds hlast
  rw [run_awaitEnd]
  exact run_awaitCounting_of_dead hlook m (by omega) halive hdead

theorem run_awaitEnd_of_alive (hlook : k.OnlyLooks d.pid) (timeout : Span) (m : Machine σ)
    (halive : ∀ i ≤ patience timeout, d.RunsAt k m.system (instant m.now i)) :
    ∃ final, run k (d.awaitEnd timeout) m = (.returned false, final) ∧
      Waited m final (patience timeout) := by
  obtain ⟨hreach, hpassed⟩ := patience_bounds timeout
  rw [run_awaitEnd]
  exact run_awaitCounting_of_alive hlook m (by omega) (by omega) halive

end Daemon

end DaemonLaunch
