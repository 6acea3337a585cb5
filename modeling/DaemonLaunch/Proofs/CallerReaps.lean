import DaemonLaunch.Proofs.DelegateRuns

/-!
The caller of a delegation on any script of reads. What it returns is told by the bytes that arrive
and by what ends them, not by how they are cut; and it always waits for the process in between,
once, after it has read.
-/

namespace DaemonLaunch

open Activity

namespace ReadOutcome

/-- Whether more is read after this. -/
def goesOn : ReadOutcome → Bool
  | bytes chunk => !chunk.isEmpty
  | failed code => code = .interrupted

def chunk : ReadOutcome → List UInt8
  | bytes chunk => chunk
  | failed _ => []

def failure? : ReadOutcome → Option ErrorCode
  | bytes _ => none
  | failed code => some code

end ReadOutcome

namespace Script

/-- The bytes that come before the first end of the pipe or the first error other than an
interruption. -/
def stream (reads : List ReadOutcome) : List UInt8 :=
  (reads.takeWhile ReadOutcome.goesOn).flatMap ReadOutcome.chunk

/-- The error that ends the bytes, if it is not the end of the pipe that does. -/
def streamError? (reads : List ReadOutcome) : Option ErrorCode :=
  (reads.dropWhile ReadOutcome.goesOn).head?.bind ReadOutcome.failure?

theorem arriving_eq (reads : List ReadOutcome) :
    arriving reads = (stream reads, streamError? reads) := by
  induction reads with
  | nil => rfl
  | cons outcome reads ih =>
    match outcome with
    | .bytes [] => rfl
    | .bytes (b :: chunk) =>
      rw [arriving, ih]
      rfl
    | .failed code =>
      by_cases hcode : code = .interrupted
      · rw [arriving, if_pos hcode, ih, hcode]
        rfl
      · have hends : ¬ (ReadOutcome.failed code).goesOn := by simpa [ReadOutcome.goesOn] using hcode
        rw [arriving, if_neg hcode, stream, streamError?, List.takeWhile_cons_of_neg hends,
          List.dropWhile_cons_of_neg hends]
        rfl

end Script

namespace Delegate

private theorem traceOf_caller {received : List Event} (child : Pid)
    (hreceived : ∀ e ∈ received, ∃ most, e = .asked (.receive most)) :
    traceOf ([.asked .openPipe, .asked .fork] ++ received ++ [.asked (.reap child)]) =
      [.call "pipe", .call "fork", .call ("waitpid " ++ child.text)] := by
  have hhidden : received.filter Event.isVisible = [] := by
    rw [List.filter_eq_nil_iff]
    intro e he
    obtain ⟨most, rfl⟩ := hreceived e he
    exact Bool.false_ne_true
  rw [← traceOf_filter, List.filter_append, List.filter_append, hhidden]
  rfl

/-- The caller always returns. If eight bytes come they are the report, and whatever comes after
them is ignored; if fewer come, there is an error that tells how they ended. Either way the caller
has waited for the process in between, once and last. -/
theorem caller_returns_and_reaps (body : Activity Unit) (s : Script) (files : FileSystem)
    (logger : Option Logger) {child : Pid}
    (hpipe : s.pipeError = none) (hfirst : Script.nextFork s.forks = .parent child) :
    ∃ result received final,
      run Script.kernel (delegate body).run (.fresh s files logger) = (.returned result, final) ∧
      (Handoff.size ≤ (Script.stream s.reads).length →
        result = Handoff.verdict (Handoff.ofBytes ((Script.stream s.reads).take Handoff.size))) ∧
      ((Script.stream s.reads).length < Handoff.size → Script.streamError? s.reads = none →
        result = .error (.handoff .silent)) ∧
      (∀ code, (Script.stream s.reads).length < Handoff.size →
      Script.streamError? s.reads = some code →
        result = .error (.handoff (.unreadable (.system code)))) ∧
      final.events = [.asked .openPipe, .asked .fork] ++ received ++ [.asked (.reap child)] ∧
      (∀ e ∈ received, ∃ most, e = .asked (.receive most)) ∧
      final.trace = [.call "pipe", .call "fork", .call ("waitpid " ++ child.text)] := by
  obtain ⟨received, final, hreceived, hrun, -, hevents⟩ :=
    run_delegate_caller (.fresh s files logger) body hpipe hfirst
  have hevents : final.events = [.asked .openPipe,
      .asked .fork] ++ received ++ [.asked (.reap child)] := hevents
  have harriving : Handoff.outcome (Script.arriving (Machine.fresh s files logger).system.reads) =
      Handoff.outcome (Script.stream s.reads, Script.streamError? s.reads) :=
    congrArg Handoff.outcome (Script.arriving_eq s.reads)
  refine ⟨_, received, final, hrun, ?_, ?_, ?_, hevents, hreceived, ?_⟩
  · intro hlong
    rw [harriving, Handoff.outcome, Handoff.collected, if_pos hlong]
    rfl
  · intro hshort hend
    rw [harriving, hend, Handoff.outcome, Handoff.collected, if_neg (Nat.not_le.mpr hshort)]
    rfl
  · intro code hshort hend
    rw [harriving, hend, Handoff.outcome, Handoff.collected, if_neg (Nat.not_le.mpr hshort)]
    rfl
  · rw [Machine.trace, hevents, traceOf_caller child hreceived]

/-- A read is interrupted, the report comes in three parts with more after it, and the wait
fails. -/
theorem caller_returns_and_reaps_in_parts :
    let s : Script :=
      { forks := [.parent ⟨5⟩], reapError := some .noProcess,
        reads :=
          [.bytes [0, 0, 0], .failed .interrupted, .bytes [0, 42], .bytes [0, 0, 0, 7, 7],
            .failed ⟨5⟩] }
    ∃ final, run Script.kernel (delegate (pure ())).run (.fresh s {} none) =
        (.returned (.ok ⟨⟨42⟩⟩), final) ∧
      final.trace = [.call "pipe", .call "fork", .call "waitpid 5"] := by
  intro s
  have hfirst : Script.nextFork s.forks = .parent ⟨5⟩ := rfl
  obtain ⟨result, received, final, hrun, hresult, -, -, -, -, htrace⟩ :=
    caller_returns_and_reaps (pure ()) s {} none rfl hfirst
  have hdaemon : result = .ok ⟨⟨42⟩⟩ := (hresult (by decide)).trans rfl
  have htext : "waitpid " ++ Pid.text ⟨5⟩ = "waitpid 5" := by
    decide
  rw [htext] at htrace
  rw [hdaemon] at hrun
  exact ⟨final, hrun, htrace⟩

end Delegate

end DaemonLaunch
