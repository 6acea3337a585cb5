import DaemonLaunch.Activity.Script
import DaemonLaunch.Launch.Handoff
import DaemonLaunch.Launch.Writer
import DaemonLaunch.Proofs.FallibleRuns

/-!
Traffic through the pipe of a scripted system. However writes and reads go, the bytes written are
the start of what was to be written, and the bytes received are the start of what arrives.
-/

namespace DaemonLaunch

open Activity

namespace Script

/-- The bytes that reads bring before the pipe ends or a read fails, and the failure if it is one
that ends them. Interrupted reads bring nothing and end nothing. -/
def arriving : List ReadOutcome → List UInt8 × Option ErrorCode
  | [] => ([], none)
  | .failed code :: reads => if code = .interrupted then arriving reads else ([], some code)
  | .bytes [] :: _ => ([], none)
  | .bytes (b :: chunk) :: reads => (b :: chunk ++ (arriving reads).1, (arriving reads).2)

private inductive ReadStep (most : Nat) (reads : List ReadOutcome) :
    Except ErrorCode (List UInt8) × List ReadOutcome → Prop
  | interrupted (later : List ReadOutcome) (harriving : arriving reads = arriving later)
      (hcount : later.count (.failed .interrupted) < reads.count (.failed .interrupted)) :
      ReadStep most reads (.error .interrupted, later)
  | failed (code : ErrorCode) (later : List ReadOutcome) (hcode : code ≠ .interrupted)
      (harriving : arriving reads = ([], some code)) : ReadStep most reads (.error code, later)
  | ended (later : List ReadOutcome) (harriving : arriving reads = ([], none)) :
      ReadStep most reads (.ok [], later)
  | came (b : UInt8) (chunk : List UInt8) (later : List ReadOutcome) (hlength : chunk.length ≤ most)
      (harriving : arriving reads = (b :: chunk ++ (arriving later).1, (arriving later).2))
      (hcount : later.count (.failed .interrupted) ≤ reads.count (.failed .interrupted)) :
      ReadStep most reads (.ok (b :: chunk), later)

private theorem readStep_nextRead (most : Nat) (reads : List ReadOutcome) :
    ReadStep most reads (nextRead (most + 1) reads) := by
  rcases reads with _ | ⟨⟨_ | ⟨b, chunk⟩⟩ | code, reads⟩
  case nil => exact .ended _ rfl
  case cons.bytes.nil => exact .ended _ rfl
  case cons.failed =>
    by_cases hcode : code = .interrupted
    · subst hcode
      exact .interrupted _ rfl (by simp)
    · exact .failed _ _ hcode (if_neg hcode)
  case cons.bytes.cons =>
    rw [nextRead, List.take_succ_cons, List.drop_succ_cons]
    apply ReadStep.came
    · simp only [List.length_take]
      omega
    · by_cases hmost : most < chunk.length
      · rcases List.exists_cons_of_length_pos
          (by rw [List.length_drop]; omega : 0 < (chunk.drop most).length) with
          ⟨c, rest, hrest⟩
        have hchunk : chunk = chunk.take most ++ (c :: rest) := by
          rw [← hrest, List.take_append_drop]
        rw [List.length_cons, if_pos (Nat.succ_lt_succ hmost), hrest, arriving, arriving]
        refine Prod.ext ?_ rfl
        change b :: (chunk ++ (arriving reads).1) =
          b :: (chunk.take most ++ (c :: rest ++ (arriving reads).1))
        rw [← List.append_assoc, ← hchunk]
      · rw [List.length_cons, if_neg (by omega), List.take_of_length_le (by omega), arriving]
    · split <;> simp

end Script

namespace Handoff

/-- What comes of receiving so many bytes, by what arrives. -/
def collected (count : Nat) (arrived : List UInt8 × Option ErrorCode) :
    Except HandoffCause (List UInt8) :=
  if count ≤ arrived.1.length then .ok (arrived.1.take count)
  else
    match arrived.2 with
    | none => .error .silent
    | some code => .error (.unreadable (.system code))

/-- Receiving may be split: first a part that has come, and then what is still missing. -/
theorem collected_append (count : Nat) (part rest : List UInt8) (failure : Option ErrorCode)
    (hpart : part.length ≤ count) :
    collected count (part ++ rest, failure) =
      (collected (count - part.length) (rest, failure)).map (part ++ ·) := by
  by_cases hcount : count - part.length ≤ rest.length
  · have htake : (part ++ rest).take count = part ++ rest.take (count - part.length) := by
      rw [List.take_append, List.take_of_length_le hpart]
    have htotal : count ≤ (part ++ rest).length := by rw [List.length_append]; omega
    simp only [collected, if_pos hcount, if_pos htotal, htake, Except.map]
  · have htotal : ¬ count ≤ (part ++ rest).length := by rw [List.length_append]; omega
    cases failure <;> simp only [collected, if_neg hcount, if_neg htotal, Except.map]

/-- Receiving bytes gives what the reads bring, however they are cut and interrupted; it uses up
reads and asks for nothing else. -/
theorem run_receiveBytes (interruptions count : Nat) (m : Machine Script)
    (hinterruptions : m.system.reads.count (.failed .interrupted) ≤ interruptions) :
    ∃ later added, (∀ o ∈ added, ∃ most, o.event = .asked (.receive most)) ∧
      run Script.kernel (receiveBytes interruptions count).run m =
        (.returned (collected count (Script.arriving m.system.reads)),
          m.served (m.system.withReads later) added) := by
  -- a read that is interrupted leaves fewer interruptions to come, any other fewer bytes
  induction hleft : interruptions + count using Nat.strongRecOn generalizing interruptions count
    m with
  | ind left ih =>
    cases count with
    | zero =>
      exact ⟨m.system.reads, [], by simp, by simp [receiveBytes, collected, Script.withReads_self]⟩
    | succ n =>
      let asked : Occurrence := ⟨m.now, .asked (.receive (n + 1))⟩
      have hasked : ∀ added, (∀ o ∈ added, ∃ most, o.event = .asked (.receive most)) →
          ∀ o ∈ added ++ [asked], ∃ most, o.event = .asked (.receive most) := by
        intro added hadded o ho
        rcases List.mem_append.mp ho with ho | ho
        · exact hadded o ho
        · exact ⟨n + 1, by rw [List.mem_singleton.mp ho]⟩
      have hstep := Script.readStep_nextRead n m.system.reads
      have hask : m.ask Script.kernel (.receive (n + 1)) =
          ((Script.nextRead (n + 1) m.system.reads).1,
          m.served (m.system.withReads (Script.nextRead (n + 1) m.system.reads).2) [asked]) := rfl
      rw [receiveBytes, Fallible.run_ask_bind, hask]
      generalize Script.nextRead (n + 1) m.system.reads = read at hstep
      cases hstep with
      | interrupted later harriving hcount =>
        have hagain : 0 < interruptions := by omega
        rcases ih _ (by omega) (interruptions - 1) (n + 1)
          (m.served (m.system.withReads later) [asked])
          (by rw [Machine.served_system, Script.withReads_reads]; omega) rfl with ⟨last, added,
            hadded, hrun⟩
        refine ⟨last, added ++ [asked], hasked added hadded, ?_⟩
        simp only [hagain, and_self, dite_true]
        rw [hrun, harriving, Machine.served_served, Machine.served_system,
          Script.withReads_withReads, Script.withReads_reads]
      | failed code later hcode harriving =>
        have hlast : ¬(code = .interrupted ∧ 0 < interruptions) := fun h => hcode h.1
        refine ⟨later, [asked], by simp [asked], ?_⟩
        simp [dif_neg hlast, harriving, collected]
      | ended later harriving =>
        exact ⟨later, [asked], by simp [asked], by simp [harriving, collected]⟩
      | came b chunk later hlength harriving hcount =>
        rcases ih _ (by omega) interruptions (n - chunk.length)
          (m.served (m.system.withReads later) [asked])
          (by rw [Machine.served_system, Script.withReads_reads]; omega) rfl with ⟨last, added,
            hadded, hrun⟩
        have hcollected := collected_append (n + 1) (b :: chunk) (Script.arriving later).1
          (Script.arriving later).2 (by rw [List.length_cons]; omega)
        rw [← harriving, List.length_cons, Nat.add_sub_add_right] at hcollected
        refine ⟨last, added ++ [asked], hasked added hadded, ?_⟩
        rw [hcollected, Fallible.run_bind, hrun, Machine.served_served, Machine.served_system,
          Script.withReads_withReads, Script.withReads_reads]
        cases collected (n - chunk.length) (Script.arriving later) with
        | ok bytes => rfl
        | error cause => rfl

theorem run_receive (m : Machine Script) :
    ∃ later added, (∀ o ∈ added, ∃ most, o.event = .asked (.receive most)) ∧
      run Script.kernel receive.run m =
        (.returned (((collected size (Script.arriving m.system.reads)).bind ofBytes).mapError
          .handoff),
          m.served (m.system.withReads later) added) := by
  rcases run_receiveBytes m.system.interruptions size m (Nat.le_add_right _ _) with
    ⟨later, added, hadded, hrun⟩
  refine ⟨later, added, hadded, ?_⟩
  rw [receive, Fallible.run_lift_bind]
  change run Script.kernel (ExceptT.adapt LaunchError.handoff
    (receiveBytes m.system.interruptions size) >>= _).run m = _
  rw [Fallible.run_bind, Fallible.run_adapt, hrun]
  cases collected size (Script.arriving m.system.reads) with
  | error cause => rfl
  | ok bytes =>
    change run Script.kernel (liftM (decode bytes) : Launch Handoff).run _ = _
    rw [decode, Except.bind]
    cases ofBytes bytes <;> rfl

end Handoff

namespace Script

/-- Every write takes something: it neither fails, unless it is only interrupted, nor takes no bytes
at all. -/
structure TakesWrites (s : Script) : Prop where
  sends : ∀ outcome ∈ s.sends, outcome = .failed .interrupted ∨ ∃ most, outcome = .takes (most + 1)
  error : s.sendError = none
  limit : s.sendLimit ≠ some 0

theorem TakesWrites.sendOutcome {s : Script} (h : s.TakesWrites) (count : Nat)
    (hcount : 0 < count) :
    s.sendOutcome count = .failed .interrupted ∧
        s.sends.tail.count (.failed .interrupted) < s.sends.count (.failed .interrupted) ∨
      ∃ most, 0 < most ∧ s.sendOutcome count = .takes most := by
  rcases hsends : s.sends with _ | ⟨outcome, later⟩
  · right
    rw [Script.sendOutcome, hsends, List.head?_nil, Option.getD_none, usualSend, h.error]
    rcases hlimit : s.sendLimit with _ | limit
    · exact ⟨count, hcount, rfl⟩
    · exact ⟨limit, Nat.pos_of_ne_zero fun hzero => h.limit (by rw [hlimit, hzero]), rfl⟩
  · rw [Script.sendOutcome, hsends]
    rcases h.sends outcome (by simp [hsends]) with rfl | ⟨most, rfl⟩
    · exact .inl ⟨rfl, by simp⟩
    · exact .inr ⟨most + 1, Nat.succ_pos most, rfl⟩

theorem TakesWrites.later {s : Script} (h : s.TakesWrites) (taken : List UInt8) :
    (s.withSends s.sends.tail taken).TakesWrites :=
  ⟨fun outcome hmem => h.sends outcome (List.mem_of_mem_tail hmem), h.error, h.limit⟩

end Script

private theorem run_writeRest_cons (times interruptions : Nat) (b : UInt8) (bytes : List UInt8)
    (m : Machine Script) :
    run Script.kernel ((pipeEnd times).writeRest interruptions (b :: bytes)) m =
      match m.ask Script.kernel (.send (b :: bytes)) with
      | (.error code, next) =>
        if code = .interrupted ∧ 0 < interruptions then
          run Script.kernel ((pipeEnd times).writeRest (interruptions - 1) (b :: bytes)) next
        else (.returned (.error (.system code)), next)
      | (.ok taken, next) =>
        if taken = 0 then (.returned (.error .wroteNothing), next)
        else
          run Script.kernel ((pipeEnd times).writeRest interruptions ((b :: bytes).drop taken)) next := by
  rw [Writer.writeRest, run_bind]
  rcases hask : m.ask Script.kernel (.send (b :: bytes)) with ⟨code | taken, next⟩
  · have hwrite : run Script.kernel ((pipeEnd times).write (b :: bytes)) m =
        (.returned (.error (.system code)), next) := by
      rw [pipeEnd, run_ask_bind, hask]
      rfl
    rw [hwrite]
    by_cases hagain : code = .interrupted ∧ 0 < interruptions
    · simp [hagain]
    · simp [hagain]
  · have hwrite : run Script.kernel ((pipeEnd times).write (b :: bytes)) m =
      (.returned (.ok taken), next) := by
      rw [pipeEnd, run_ask_bind, hask]
      rfl
    rw [hwrite]
    by_cases htaken : taken = 0
    · simp [htaken]
    · simp [htaken]

/-- Writing bytes to the pipe puts a first part of them in it, all of them just if the writer says
so. It uses up outcomes of writes and asks for nothing else. -/
theorem run_writeRest_pipeEnd (times interruptions : Nat) (bytes : List UInt8)
    (m : Machine Script) :
    ∃ taken sends added result, taken ≤ bytes.length ∧
      (∀ o ∈ added, ∃ part, o.event = .asked (.send part)) ∧
      (result = .ok () ↔ taken = bytes.length) ∧
      (m.system.TakesWrites → m.system.sends.count (.failed .interrupted) ≤ interruptions →
      result = .ok ()) ∧
      run Script.kernel ((pipeEnd times).writeRest interruptions bytes) m = (.returned result,
        m.served (m.system.withSends sends (bytes.take taken)) added) := by
  -- a write that is interrupted leaves fewer interruptions to come, any other fewer bytes
  induction hleft : interruptions + bytes.length using Nat.strongRecOn generalizing interruptions
    bytes m with
  | ind left ih =>
    cases bytes with
    | nil =>
      refine ⟨0, m.system.sends, [], .ok (), by simp, by simp, by simp, by simp, ?_⟩
      rw [Writer.writeRest]
      simp [Script.withSends_self]
    | cons b bytes =>
      let asked : Occurrence := ⟨m.now, .asked (.send (b :: bytes))⟩
      have hasked : ∀ added, (∀ o ∈ added, ∃ part, o.event = .asked (.send part)) →
          ∀ o ∈ added ++ [asked], ∃ part, o.event = .asked (.send part) := by
        intro added hadded o ho
        rcases List.mem_append.mp ho with ho | ho
        · exact hadded o ho
        · exact ⟨b :: bytes, by rw [List.mem_singleton.mp ho]⟩
      have htail : m.system.sends.tail.count (.failed .interrupted) ≤
          m.system.sends.count (.failed .interrupted) :=
        (List.tail_sublist _).count_le _
      have htakes := fun h : m.system.TakesWrites =>
        h.sendOutcome (b :: bytes).length (Nat.succ_pos _)
      rw [run_writeRest_cons, Machine.ask_eq_served _ _ (.send _) (by simp), Script.serve_send,
        Script.send]
      cases hsend : m.system.sendOutcome (b :: bytes).length with
      | failed code =>
        by_cases hagain : code = .interrupted ∧ 0 < interruptions
        · rcases ih _ (by omega) (interruptions - 1) (b :: bytes)
            (m.served (m.system.withSends m.system.sends.tail []) [asked]) rfl with
            ⟨taken, last, added, result, htaken, hadded, hresult, hall, hrun⟩
          refine ⟨taken, last, added ++ [asked], result, htaken, hasked added hadded, hresult,
            ?_, ?_⟩
          · intro h hcount
            apply hall (h.later [])
            rcases htakes h with ⟨-, hfewer⟩ | ⟨most, -, hmost⟩
            · exact Nat.le_sub_one_of_lt (Nat.lt_of_lt_of_le hfewer hcount)
            · rw [hsend] at hmost
              cases hmost
          · simp only [if_pos hagain]
            rw [hrun, Machine.served_served, Machine.served_system, Script.withSends_withSends,
              List.nil_append]
        · refine ⟨0, m.system.sends.tail, [asked], .error (.system code), by simp,
            hasked [] (by simp), by simp, ?_, ?_⟩
          · intro h hcount
            rcases htakes h with ⟨hfailed, hfewer⟩ | ⟨most, -, hmost⟩
            · rw [hsend] at hfailed
              cases hfailed
              exact absurd ⟨rfl, by omega⟩ hagain
            · rw [hsend] at hmost
              cases hmost
          · simp [if_neg hagain, asked]
      | takes most =>
        by_cases hmost : most = 0
        · subst hmost
          refine ⟨0, m.system.sends.tail, [asked], .error .wroteNothing, by simp,
            hasked [] (by simp), by simp, ?_,
            by simp [asked]⟩
          intro h
          rcases htakes h with ⟨hfailed, -⟩ | ⟨most, hpos, hmost⟩
          · rw [hsend] at hfailed
            cases hfailed
          · rw [hsend] at hmost
            cases hmost
            exact absurd hpos (Nat.lt_irrefl 0)
        · let count := ((b :: bytes).take most).length
          have hcount : 0 < count ∧ count ≤ (b :: bytes).length := by
            simp only [count, List.length_take, List.length_cons]
            omega
          have hpart : (b :: bytes).take most = (b :: bytes).take count := by
            simp [count, List.take_eq_take_iff]
          have hfewer : ((b :: bytes).drop count).length < (b :: bytes).length := by
            rw [List.length_drop]
            omega
          let s := m.system.withSends m.system.sends.tail ((b :: bytes).take most)
          rcases ih _ (by omega) interruptions ((b :: bytes).drop count) (m.served s [asked]) rfl with
            ⟨taken, last, added, result, htaken, hadded, hresult, hall, hrun⟩
          rw [List.length_drop] at htaken hresult
          have htake : (b :: bytes).take most ++ ((b :: bytes).drop count).take taken =
              (b :: bytes).take (count + taken) := by
            rw [hpart, List.take_add]
          refine ⟨count + taken, last, added ++ [asked], result, by omega, hasked added hadded,
            ?_, ?_, ?_⟩
          · rw [hresult]
            omega
          · exact fun h hinterruptions => hall (h.later _) (Nat.le_trans htail hinterruptions)
          · change (if count = 0 then _ else
              run Script.kernel ((pipeEnd times).writeRest _ ((b :: bytes).drop count)) _) = _
            rw [if_neg (Nat.ne_of_gt hcount.1), hrun, Machine.served_served, Machine.served_system,
              Script.withSends_withSends, htake]

end DaemonLaunch
