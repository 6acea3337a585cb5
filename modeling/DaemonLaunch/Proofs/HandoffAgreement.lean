import DaemonLaunch.Proofs.DelegateRuns

/-!
Agreement over the pipe. The caller of a delegation and the process in between share nothing but
bytes, which may be written in parts, arrive in other parts, or be missing at the end. The caller
learns what has happened or that it cannot know.
-/

namespace DaemonLaunch

open Activity

namespace Handoff

/-- A record that is cut short tells the caller nothing; a whole one tells it the report. -/
theorem outcome_take (h : Handoff) (hproper : h.Proper) {taken : Nat} (htaken : taken ≤ size) :
    outcome (h.bytes.take taken, none) = if taken = size then h.result
      else .error (.handoff .silent) := by
  have hlength : (h.bytes.take taken).length = taken := by
    rw [List.length_take, h.length_bytes, Nat.min_eq_left htaken]
  by_cases hall : taken = size
  · have hbytes : h.bytes.take size = h.bytes :=
      List.take_of_length_le (Nat.le_of_eq h.length_bytes)
    have hcollected : collected size (h.bytes, none) = .ok h.bytes := by
      rw [collected, if_pos (Nat.le_of_eq h.length_bytes.symm), hbytes]
    rw [if_pos hall, outcome, hall, hbytes, hcollected, Except.bind, ofBytes_bytes h hproper,
      verdict]
  · have hshort : ¬ size ≤ (h.bytes.take taken).length := by omega
    rw [if_neg hall, outcome, collected, if_neg hshort, Except.bind, verdict]

end Handoff

namespace Delegate

/-- The caller returns a daemon just if the process in between has forked it and has written the
whole record, and an error of the session or of the second fork just if that call has failed so and
the whole record tells of it. If the record is cut short the caller returns that no report has
come. -/
theorem caller_agrees_with_between (body : Activity Unit) (m : Machine Script) {self : Pid}
    {second : ForkOutcome} {later : List ForkOutcome} (hpipe : m.system.pipeError = none)
    (hforks : m.system.forks = .child self :: second :: later)
    (hsecond : (∃ daemon, second = .parent daemon ∧ 0 < daemon.number) ∨
      ∃ code, second = .failed code) :
    ∃ status written,
      (run Script.kernel (delegate body).run m).1 = .ended (.exit status) ∧
      (run Script.kernel (delegate body).run m).2.system.pipe = some written ∧
      written.length ≤ Handoff.size ∧
      ∀ (caller : Machine Script) (child : Pid) (later' : List ForkOutcome),
        caller.system.pipeError = none →
        caller.system.forks = .parent child :: later' →
        Script.arriving caller.system.reads = (written, none) →
        ∃ result, (run Script.kernel (delegate body).run caller).1 = .returned result ∧
          (∀ daemon, result = .ok daemon ↔
            m.system.newSessionError = none ∧ second = .parent daemon.pid ∧
            written.length = Handoff.size) ∧
          (∀ errno, result = .error (.session errno) ↔
            (∃ code, m.system.newSessionError = some code ∧ errno = .ofCode code) ∧
            written.length = Handoff.size) ∧
          (∀ errno, result = .error (.fork .second errno) ↔
            (m.system.newSessionError = none ∧ ∃ code, second = .failed code ∧
            errno = .ofCode code) ∧
              written.length = Handoff.size) ∧
          (written.length ≠ Handoff.size → result = .error (.handoff .silent)) := by
  have hparent : ∀ self, second ≠ .child self := by
    obtain ⟨daemon, rfl, -⟩ | ⟨code, rfl⟩ := hsecond <;> simp
  have hpositive : ∀ daemon, second = .parent daemon → 0 < daemon.number := by
    obtain ⟨daemon, rfl, hpositive⟩ | ⟨code, rfl⟩ := hsecond
    · rintro daemon ⟨⟩
      exact hpositive
    · simp
  obtain ⟨h, hreports, hproper⟩ : ∃ h : Handoff,
    h.Reports m.system.newSessionError second ∧ h.Proper :=
    Handoff.exists_reports (fun _ => hparent) hpositive
  have hfirst : Script.nextFork m.system.forks = .child self := congrArg Script.nextFork hforks
  have hreports' : h.Reports m.system.newSessionError (Script.nextFork m.system.forks.tail) := by
    rw [hforks]
    exact hreports
  obtain ⟨taken, sent, final, htaken, -, -, -, hrun, hwritten, -⟩ :=
    run_delegate_between m body hpipe hfirst hreports'
  have hlength : (h.bytes.take taken).length = taken := by
    rw [List.length_take, h.length_bytes, Nat.min_eq_left htaken]
  refine ⟨h.exitStatus taken, h.bytes.take taken, by rw [hrun], by rw [hrun]; exact hwritten,
    by omega, ?_⟩
  intro caller child later' hpipe' hforks' hreads
  obtain ⟨received, final', -, hrun', -, -⟩ :=
    run_delegate_caller caller body hpipe' (congrArg Script.nextFork hforks')
  refine ⟨_, by rw [hrun'], ?_⟩
  rw [hreads, Handoff.outcome_take h hproper htaken, hlength]
  by_cases hall : taken = Handoff.size
  · rw [if_pos hall]
    generalize m.system.newSessionError = session at hreports ⊢
    cases hreports with
    | noSession code second => simp [Handoff.result, hall, eq_comm]
    | noFork code => simp [Handoff.result, hall, eq_comm]
    | daemon pid =>
      have hsame : ∀ daemon : Daemon, daemon = ⟨pid⟩ ↔ pid = daemon.pid :=
        fun daemon => ⟨fun h => by rw [h], fun h => by rw [h]⟩
      simpa [Handoff.result, hall, eq_comm] using hsame
  · rw [if_neg hall]
    simp [hall]

/-- A record that is written and read in parts, with interruptions. -/
theorem caller_agrees_with_between_in_parts :
    let sends : List SendOutcome := [.takes 3, .failed .interrupted, .takes 1]
    let between : Script := { forks := [.child ⟨4241⟩, .parent ⟨4242⟩], sends := sends }
    ∃ written, (run Script.kernel (delegate (pure ())).run (.fresh between {} none)).2.system.pipe =
        some written ∧
      written.length = Handoff.size ∧
      let reads : List ReadOutcome :=
        [.bytes (written.take 5), .failed .interrupted, .bytes (written.drop 5)]
      let caller : Script := { forks := [.parent ⟨4241⟩], reads := reads }
      (run Script.kernel (delegate (pure ())).run (.fresh caller {} none)).1 =
        .returned (.ok ⟨⟨4242⟩⟩) := by
  intro sends between
  let m : Machine Script := .fresh between {} none
  obtain ⟨status, written, -, hpipe, -, hcaller⟩ := caller_agrees_with_between (pure ()) m
    rfl rfl (.inl ⟨⟨4242⟩, rfl, by decide⟩)
  have hwrites : between.TakesWrites := ⟨by simp [between, sends], rfl, by decide⟩
  obtain ⟨taken, sent, final, -, hall, -, -, hrun, hfinal, -⟩ :=
    run_delegate_between m (pure ()) rfl rfl (.daemon ⟨4242⟩)
  have hwritten : written = [0, 0, 0, 0, 146, 16, 0, 0] := by
    have hrecord : (Handoff.daemon ⟨4242⟩).bytes.take Handoff.size = [0, 0, 0, 0, 146, 16, 0,
        0] := by decide
    rw [hrun, hfinal, hall hwrites, hrecord] at hpipe
    exact (Option.some.inj hpipe).symm
  subst hwritten
  let reads : List ReadOutcome :=
    [.bytes [0, 0, 0, 0, 146], .failed .interrupted, .bytes [16, 0, 0]]
  obtain ⟨result, hresult, hdaemon, -⟩ := hcaller
    (.fresh { forks := [.parent ⟨4241⟩], reads := reads } {} none) ⟨4241⟩ [] rfl rfl (by decide)
  refine ⟨_, hpipe, rfl, ?_⟩
  rw [← (hdaemon ⟨⟨4242⟩⟩).mpr ⟨rfl, rfl, rfl⟩]
  exact hresult

end Delegate

end DaemonLaunch
