import DaemonLaunch.Proofs.Stopping

/-!
The law of waiting. On any system where whether a daemon is seen running depends on the time alone,
the looks of a waiting process, its sleeps and its answer are determined: it looks in equal
intervals up to the first look at which the daemon is dead, and at most until the timeout has
passed.
-/

namespace DaemonLaunch

open Activity

/-- The times at which it was looked whether a process exists. -/
def Machine.looks {σ : Type} (m : Machine σ) (pid : Pid) : List Span :=
  m.history.reverse.filterMap fun occurrence =>
    if occurrence.event = .asked (.kill pid none) then some occurrence.time else none

namespace Daemon

variable {σ : Type}

/-- Whether the daemon is seen running is a matter of the time alone, as long as the system is in
one of the states in question. Looks may change the state, but only to another one of these. -/
structure LivesBy (k : Kernel σ) (d : Daemon) (alive : Span → Bool) (Possible : σ → Prop) :
    Prop where
  seen : ∀ s now, Possible s → (run k d.isRunning { system := s, now := now }).1 =
    .returned (alive now)
  stays : ∀ s now, Possible s → Possible (run k d.isRunning { system := s, now := now }).2.system

/-- A process that has waited through so many sleeps, with a look before each of them and one after
the last. -/
structure Polled (d : Daemon) (m final : Machine σ) (count : Nat) : Prop where
  now : final.now = instant m.now count
  looks : final.looks d.pid = m.looks d.pid ++ (List.range (count + 1)).map (instant m.now)
  sleeps : final.sleeps = m.sleeps ++ List.replicate count pollInterval

/-- How waiting comes out after so many sleeps: at the first look at a dead daemon with success, and
in vain at the last look before the timeout. -/
structure ComesOut (alive : Span → Bool) (start : Span) (last count : Nat) (answer : Bool) :
    Prop where
  within : count ≤ last
  before : ∀ i < count, alive (instant start i) = true
  answer_eq : answer = !alive (instant start count)
  in_vain : answer = false → count = last

variable {k : Kernel σ} {d : Daemon} {alive : Span → Bool} {Possible : σ → Prop}

private def looked (d : Daemon) (m : Machine σ) (system : σ) (read : List Occurrence) : Machine σ :=
  m.served system (read ++ [⟨m.now, .asked (.kill d.pid none)⟩])

private theorem polled_looked (d : Daemon) (m : Machine σ) (system : σ) {read : List Occurrence}
    (hread : ∀ occurrence ∈ read, occurrence.event = .asked (.readStatus d.pid)) :
    Polled d m (looked d m system read) 0 := by
  have hnone : read.reverse.filterMap (fun occurrence =>
      if occurrence.event = .asked (.kill d.pid none) then some occurrence.time
        else none) = [] := by
    apply List.filterMap_eq_nil_iff.mpr
    intro occurrence hmem
    simp [hread occurrence (List.mem_reverse.mp hmem)]
  have hawake : (read.reverse.map (·.event)).filterMap Event.slept? = [] := by
    apply List.filterMap_eq_nil_iff.mpr
    intro event hmem
    obtain ⟨occurrence, hoccurrence, rfl⟩ := List.mem_map.mp hmem
    rw [hread occurrence (List.mem_reverse.mp hoccurrence)]
    rfl
  refine ⟨(instant_zero _).symm, ?_, ?_⟩
  · simp [looked, Machine.looks, hnone, instant_zero]
  · rw [looked, Machine.sleeps, Machine.events_served, List.reverse_append, List.map_append,
      List.filterMap_append, List.filterMap_append, hawake]
    simp [Machine.sleeps, Event.slept?]

private theorem run_isRunning_looked (k : Kernel σ) (d : Daemon) (s : σ) (now : Span) :
    ∃ answer system read, (∀ occurrence ∈ read, occurrence.event = .asked (.readStatus d.pid)) ∧
      ∀ m : Machine σ, m.system = s → m.now = now →
        run k d.isRunning m = (.returned answer, looked d m system read) := by
  have hstatus : ∀ s', ∃ answer system, ∀ m : Machine σ, m.system = s' → m.now = now →
      run k (isRunning.alive d) m =
        (.returned answer, m.served system [⟨now, .asked (.readStatus d.pid)⟩]) := by
    intro s'
    rcases hreply : k.serve (.readStatus d.pid) now s' with ⟨reply, system⟩
    cases reply with
    | error code =>
      refine ⟨false, system, ?_⟩
      rintro m rfl rfl
      rw [isRunning.alive, run_bind, status, run_ask_bind, m.ask_eq_served k _ (by simp), hreply]
      rfl
    | ok bytes =>
      refine ⟨((String.fromUTF8? bytes).bind TaskStatus.ofLine?).any fun status => !status.isDead,
        system, ?_⟩
      rintro m rfl rfl
      rw [isRunning.alive, run_bind, status, run_ask_bind, m.ask_eq_served k _ (by simp), hreply]
      dsimp only
      cases (String.fromUTF8? bytes).bind TaskStatus.ofLine? <;> rfl
  rcases hreply : k.serve (.kill d.pid none) now s with ⟨reply, asked⟩
  obtain ⟨answer, system, halive⟩ := hstatus asked
  have hgoes : ∀ m : Machine σ, m.system = s → m.now = now →
      run k (isRunning.alive d) (m.served asked [⟨m.now, .asked (.kill d.pid none)⟩]) =
        (.returned answer, looked d m system [⟨now, .asked (.readStatus d.pid)⟩]) := by
    intro m _ hnow
    have hasked := halive (m.served asked [⟨m.now, .asked (.kill d.pid none)⟩]) rfl hnow
    rwa [Machine.served_served] at hasked
  cases reply with
  | ok done =>
    refine ⟨answer, system, [⟨now, .asked (.readStatus d.pid)⟩], by simp, ?_⟩
    rintro m rfl rfl
    rw [isRunning, run_ask_bind, m.ask_eq_served k _ (by simp), hreply]
    exact hgoes m rfl rfl
  | error code =>
    by_cases hpermitted : Errno.ofCode code = .notPermitted
    · refine ⟨answer, system, [⟨now, .asked (.readStatus d.pid)⟩], by simp, ?_⟩
      rintro m rfl rfl
      rw [isRunning, run_ask_bind, m.ask_eq_served k _ (by simp), hreply]
      simp only [if_pos hpermitted]
      exact hgoes m rfl rfl
    · refine ⟨false, asked, [], by simp, ?_⟩
      rintro m rfl rfl
      rw [isRunning, run_ask_bind, m.ask_eq_served k _ (by simp), hreply]
      simp only [if_neg hpermitted]
      rfl

private theorem run_isRunning_of_livesBy (hlives : d.LivesBy k alive Possible) (m : Machine σ)
    (hstart : Possible m.system) :
    ∃ seen, run k d.isRunning m = (.returned (alive m.now), seen) ∧ Polled d m seen 0 ∧
      Possible seen.system := by
  obtain ⟨answer, system, read, hread, hrun⟩ := run_isRunning_looked k d m.system m.now
  have hbare := hrun { system := m.system, now := m.now } rfl rfl
  have hseen := hlives.seen m.system m.now hstart
  have hstays := hlives.stays m.system m.now hstart
  rw [hbare] at hseen hstays
  cases hseen
  exact ⟨_, hrun m rfl rfl, polled_looked d m system hread, hstays⟩

private theorem Polled.after_sleep {m seen final : Machine σ} {count : Nat}
    (hseen : Polled d m seen 0)
    (hlater : Polled d (seen.perform k (.sleep pollInterval)).2 final count) :
    Polled d m final (count + 1) := by
  have hslept : (seen.perform k (.sleep pollInterval)).2.now = instant m.now 1 := by
    simp [Machine.perform, Machine.record, Machine.advance, hseen.now, instant]
  have hsleeps : (seen.perform k (.sleep pollInterval)).2.sleeps = m.sleeps ++ [pollInterval] := by
    have hseen := hseen.sleeps
    simp only [List.replicate_zero, List.append_nil] at hseen
    simp only [Machine.sleeps] at hseen ⊢
    simp [Call.recorded, Event.slept?, hseen]
  have hlooks : (seen.perform k (.sleep pollInterval)).2.looks d.pid =
      m.looks d.pid ++ [m.now] := by
    have hseen := hseen.looks
    simp only [Nat.zero_add, List.range_one, List.map_cons, List.map_nil, instant_zero] at hseen
    rw [← hseen]
    simp [Machine.perform, Machine.record, Machine.advance, Machine.looks]
  have hinstant : ∀ i, instant (instant m.now 1) i = instant m.now (i + 1) := by
    intro i
    rw [instant_instant, Nat.add_comm]
  refine ⟨?_, ?_, ?_⟩
  · rw [hlater.now, hslept, hinstant]
  · have hfrom : instant (instant m.now 1) = instant m.now ∘ Nat.succ := funext hinstant
    rw [hlater.looks, hlooks, hslept, hfrom, List.range_succ_eq_map (n := count + 1), List.map_cons,
      List.map_map, instant_zero, List.append_assoc, List.singleton_append]
  · rw [hlater.sleeps, hsleeps, List.append_assoc, List.singleton_append, ← List.replicate_succ]

private theorem ComesOut.of_dead {start : Span} {last : Nat} (hdead : alive start = false) :
    ComesOut alive start last 0 true where
  within := Nat.zero_le _
  before i hi := absurd hi (Nat.not_lt_zero i)
  answer_eq := by rw [instant_zero, hdead]; rfl
  in_vain h := by cases h

private theorem ComesOut.of_late {start : Span} (halive : alive start = true) :
    ComesOut alive start 0 0 false where
  within := Nat.le_refl _
  before i hi := absurd hi (Nat.not_lt_zero i)
  answer_eq := by rw [instant_zero, halive]; rfl
  in_vain _ := rfl

private theorem ComesOut.after_alive {start : Span} {last count : Nat} {answer : Bool}
    (halive : alive start = true) (hlater : ComesOut alive (instant start 1) last count answer) :
    ComesOut alive start (last + 1) (count + 1) answer where
  within := Nat.succ_le_succ hlater.within
  before i hi := by
    cases i with
    | zero => rw [instant_zero, halive]
    | succ i =>
      have hbefore := hlater.before i (Nat.lt_of_succ_lt_succ hi)
      rwa [instant_instant, Nat.add_comm] at hbefore
  answer_eq := by rw [hlater.answer_eq, instant_instant, Nat.add_comm]
  in_vain h := by rw [hlater.in_vain h]

private theorem run_awaitCounting_of_livesBy (hlives : d.LivesBy k alive Possible)
    (timeout slept last : Nat)
    (hreach : slept + last * pollInterval.nanoseconds < timeout + pollInterval.nanoseconds)
    (hpassed : timeout ≤ slept + last * pollInterval.nanoseconds) (m : Machine σ)
    (hstart : Possible m.system) :
    ∃ count answer final, run k (d.awaitCounting timeout slept) m = (.returned answer, final) ∧
      Polled d m final count ∧ ComesOut alive m.now last count answer := by
  -- by the sleeps to go: a look at the running daemon before the last one is followed by a sleep
  induction last generalizing slept m with
  | zero =>
    obtain ⟨seen, hrun, hpolled, -⟩ := run_isRunning_of_livesBy hlives m hstart
    have hlate : timeout ≤ slept := by omega
    cases halive : alive m.now with
    | false =>
      exact ⟨0, true, seen, by rw [run_awaitCounting, hrun, halive], hpolled, .of_dead halive⟩
    | true =>
      refine ⟨0, false, seen, ?_, hpolled, .of_late halive⟩
      rw [run_awaitCounting, hrun, halive]
      exact if_pos hlate
  | succ last ih =>
    rw [Nat.succ_mul] at hreach hpassed
    obtain ⟨seen, hrun, hpolled, hpossible⟩ := run_isRunning_of_livesBy hlives m hstart
    cases halive : alive m.now with
    | false =>
      exact ⟨0, true, seen, by rw [run_awaitCounting, hrun, halive], hpolled, .of_dead halive⟩
    | true =>
      have hearly : ¬ timeout ≤ slept := by omega
      have hstep : run k (d.awaitCounting timeout slept) m = run k
          (d.awaitCounting timeout (slept + pollInterval.nanoseconds))
            (seen.perform k (.sleep pollInterval)).2 := by
        rw [run_awaitCounting, hrun, halive]
        exact if_neg hearly
      have hslept : (seen.perform k (.sleep pollInterval)).2.now = instant m.now 1 := by
        simp [Machine.perform, Machine.record, Machine.advance, hpolled.now, instant]
      obtain ⟨count, answer, final, hfinal, hlater, hout⟩ :=
        ih (slept + pollInterval.nanoseconds) (by omega) (by omega)
          (seen.perform k (.sleep pollInterval)).2 hpossible
      rw [hslept] at hout
      exact ⟨count + 1, answer, final, hstep.trans hfinal, hpolled.after_sleep hlater,
        .after_alive halive hout⟩

private theorem ComesOut.answer_iff {start : Span} {last count : Nat} {answer : Bool}
    (h : ComesOut alive start last count answer) :
    answer = true ↔ ∃ i ≤ last, alive (instant start i) = false := by
  constructor
  · intro hanswer
    refine ⟨count, h.within, ?_⟩
    simpa [hanswer] using h.answer_eq.symm
  · rintro ⟨i, hi, hdead⟩
    cases answer with
    | true => rfl
    | false =>
      have hcount : count = last := h.in_vain rfl
      have hstill : alive (instant start count) = true := by simpa using h.answer_eq
      obtain hlt | rfl := Nat.lt_or_eq_of_le hi
      · rw [h.before i (by omega)] at hdead
        cases hdead
      · rw [hcount, hdead] at hstill
        cases hstill

/-- Waiting for the end of a daemon whose life is a matter of time looks at it at the start and
after every interval, up to the first look at which it is dead, and no longer than until the timeout
has passed. -/
theorem awaitEnd_polls (k : Kernel σ) (d : Daemon) {alive : Span → Bool} {Possible : σ → Prop}
    (hlives : d.LivesBy k alive Possible) (timeout : Span) (m : Machine σ)
    (hstart : Possible m.system) :
    ∃ count answer final, run k (d.awaitEnd timeout) m = (.returned answer, final) ∧
      final.looks d.pid = m.looks d.pid ++ (List.range (count + 1)).map (instant m.now) ∧
      final.sleeps = m.sleeps ++ List.replicate count pollInterval ∧
      final.now = instant m.now count ∧
      ComesOut alive m.now (patience timeout) count answer ∧
      (answer = true ↔ ∃ i ≤ patience timeout, alive (instant m.now i) = false) ∧
      timeout.nanoseconds ≤ patience timeout * pollInterval.nanoseconds ∧
      patience timeout * pollInterval.nanoseconds <
        timeout.nanoseconds + pollInterval.nanoseconds := by
  obtain ⟨hreach, hpassed⟩ := patience_bounds timeout
  have hfrom := run_awaitCounting_of_livesBy hlives timeout.nanoseconds 0 (patience timeout)
  rw [Nat.zero_add] at hfrom
  rw [run_awaitEnd]
  obtain ⟨count, answer, final, hrun, hpolled, hout⟩ := hfrom hreach hpassed m hstart
  exact ⟨count, answer, final, hrun, hpolled.looks, hpolled.sleeps, hpolled.now, hout,
    hout.answer_iff, hpassed, hreach⟩

theorem livesBy_of_onlyLooks (hlook : k.OnlyLooks d.pid) {s : σ}
    (halive : ∀ now, d.RunsAt k s now ↔ alive now = true) :
    d.LivesBy k alive (· = s) where
  seen s' now hs := by
    subst hs
    obtain ⟨answer, final, hrun, -, hseen⟩ := run_isRunning_eq hlook { system := s', now := now }
    have hanswer : answer = alive now := Bool.eq_iff_iff.mpr (hseen.trans (halive now))
    rw [hrun, hanswer]
  stays s' now hs := by
    subst hs
    obtain ⟨answer, final, hrun, hwaited, -⟩ := run_isRunning_eq hlook { system := s', now := now }
    rw [hrun]
    exact hwaited.system

/-- A daemon that dies between the timeout and the last look. -/
theorem awaitEnd_polls_past_timeout :
    let daemon : Daemon := ⟨⟨7⟩⟩
    let m : Machine Script := .fresh { tasks := [stubborn (some ⟨170000000⟩)] } {} none
    ∃ final, run Script.kernel (daemon.awaitEnd ⟨150000000⟩) m = (.returned true, final) ∧
      final.now = ⟨200000000⟩ ∧
      final.looks daemon.pid = [⟨0⟩, ⟨100000000⟩, ⟨200000000⟩] := by
  intro daemon m
  let alive : Span → Bool := fun now => !(stubborn (some ⟨170000000⟩)).isDead now
  have halive : ∀ now, daemon.RunsAt Script.kernel m.system now ↔ alive now = true := by
    intro now
    exact (stubborn_runsAt _ now).trans (by rw [Bool.not_eq_true'])
  have hlives := livesBy_of_onlyLooks (Script.kernel_onlyLooks daemon.pid) halive
  obtain ⟨count, answer, final, hrun, hlooks, -, hnow, hout, hanswer, -⟩ :=
    awaitEnd_polls Script.kernel daemon hlives ⟨150000000⟩ m rfl
  have hpatience : patience ⟨150000000⟩ = 2 := by decide
  rw [hpatience] at hout hanswer
  have htrue : answer = true := hanswer.mpr ⟨2, by decide, by decide⟩
  have hcount : count = 2 := by
    have hwithin := hout.within
    have hdead := hout.answer_eq
    rw [htrue] at hdead
    obtain rfl | rfl | rfl : count = 0 ∨ count = 1 ∨ count = 2 := by omega
    · exact absurd hdead (by decide)
    · exact absurd hdead (by decide)
    · rfl
  rw [hcount] at hnow hlooks
  have htime : instant ⟨0⟩ 2 = ⟨200000000⟩ := by decide
  have htimes : (List.range 3).map (instant ⟨0⟩) = [⟨0⟩, ⟨100000000⟩, ⟨200000000⟩] := by decide
  exact ⟨final, by rw [hrun, htrue], hnow.trans htime, hlooks.trans htimes⟩

end Daemon

end DaemonLaunch
