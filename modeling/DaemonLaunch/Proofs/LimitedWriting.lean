import DaemonLaunch.Proofs.AnnouncementGrammar
import DaemonLaunch.Text.Cut

/-!
Writing to something that may be full before all is written. However many bytes it takes at a time,
it takes the first ones up to its capacity; if these are not all, the failure is reported, and
nothing is passed on.
-/

namespace DaemonLaunch

namespace Writer

variable {σ : Type}

/-- What a full writer answers: it fails with a code, or it takes no bytes. -/
def refusal : Option ErrorCode → Except IoError Nat
  | some code => .error (.system code)
  | none => .ok 0

/-- What is reported of a full writer. -/
def refused : Option ErrorCode → IoError
  | some code => .system code
  | none => .wroteNothing

/-- A writer that takes bytes in portions of any size up to a capacity, answers as given once it is
full, and passes on what it has with the given outcome. `At` says in which states it has taken which
bytes. -/
structure Fills (w : Writer (StateM σ)) (At : σ → List UInt8 → Prop) (capacity : Nat)
    (failure : Option ErrorCode)
    (flushed : Except IoError Unit) : Prop where
  /-- An interrupted write is made again, so interruptions are not seen. -/
  uninterrupted : failure ≠ some .interrupted
  portion : ∀ {s taken bytes}, At s taken → taken.length < capacity → bytes ≠ [] →
    ∃ count s', 0 < count ∧ count ≤ bytes.length ∧ taken.length + count ≤ capacity ∧
      w.write bytes s = (.ok count, s') ∧
      At s' (taken ++ bytes.take count)
  full : ∀ {s taken bytes}, At s taken → capacity ≤ taken.length → bytes ≠ [] →
    ∃ s', w.write bytes s = (refusal failure, s') ∧ At s' taken
  flush : ∀ {s taken}, At s taken → ∃ s', w.flush s = (flushed, s') ∧ At s' taken

variable {w : Writer (StateM σ)} {At : σ → List UInt8 → Prop} {capacity : Nat}
  {failure : Option ErrorCode}
  {flushed : Except IoError Unit} {s : σ} {taken bytes : List UInt8}

private theorem bind_apply {α β : Type} (x : StateM σ α) (f : α → StateM σ β) (s : σ) :
    (x >>= f) s = f (x s).1 (x s).2 := rfl

private theorem writeRest_cons (w : Writer (StateM σ)) (interruptions : Nat) (b : UInt8)
    (bytes : List UInt8) (s : σ) :
    w.writeRest interruptions (b :: bytes) s =
      match w.write (b :: bytes) s with
      | (.error failure, s') =>
        if failure = .system .interrupted ∧
          0 < interruptions then w.writeRest (interruptions - 1) (b :: bytes) s'
        else (.error failure, s')
      | (.ok count, s') =>
        if count = 0 then (.error .wroteNothing, s')
        else w.writeRest interruptions ((b :: bytes).drop count) s' := by
  rw [writeRest, bind_apply]
  rcases w.write (b :: bytes) s with ⟨answer, s'⟩
  cases answer with
  | error failure =>
    by_cases hagain : failure = .system .interrupted ∧ 0 < interruptions
    · simp only [dif_pos hagain, if_pos hagain]
    · simp only [dif_neg hagain, if_neg hagain]
      rfl
  | ok count =>
    by_cases hcount : count = 0
    · simp only [hcount, dite_true, if_true]
      rfl
    · simp only [hcount, dite_false, if_false]

private theorem writePieces_cons (w : Writer (StateM σ)) (piece : List UInt8)
    (pieces : List (List UInt8)) (s : σ) :
    w.writePieces (piece :: pieces) s =
      match w.writeAll piece s with
      | (.error failure, s') => (.error failure, s')
      | (.ok (), s') => w.writePieces pieces s' := by
  rw [writePieces, bind_apply]
  obtain ⟨answer, s'⟩ := w.writeAll piece s
  cases answer with
  | error failure => rfl
  | ok done => rfl

private theorem writeRest_full (hw : w.Fills At capacity failure flushed) {b : UInt8} {s' : σ}
    (hwrite : w.write (b :: bytes) s = (refusal failure, s')) (interruptions : Nat) :
    w.writeRest interruptions (b :: bytes) s = (.error (refused failure), s') := by
  rw [writeRest_cons, hwrite]
  cases failure with
  | none => rfl
  | some code =>
    have honce : ¬((refused (some code)) = .system .interrupted ∧ 0 < interruptions) := by
      rintro ⟨hinterrupted, -⟩
      cases hinterrupted
      exact hw.uninterrupted rfl
    exact if_neg honce

private theorem Fills.run_writeRest (hw : w.Fills At capacity failure flushed) (h : At s taken)
    (hroom : taken.length ≤ capacity) (interruptions : Nat) (bytes : List UInt8) :
    ∃ s', w.writeRest interruptions bytes s =
        (if (taken ++ bytes).length ≤ capacity then .ok () else .error (refused failure), s') ∧
      At s' ((taken ++ bytes).take capacity) := by
  induction hlength : bytes.length using Nat.strongRecOn generalizing bytes taken s with
  | ind length ih =>
    subst hlength
    cases bytes with
    | nil =>
      refine ⟨s, ?_, ?_⟩
      · rw [writeRest, List.append_nil, if_pos hroom]
        rfl
      · rwa [List.append_nil, List.take_of_length_le hroom]
    | cons b bytes =>
      by_cases hfull : capacity ≤ taken.length
      · rcases hw.full h hfull (List.cons_ne_nil b bytes) with ⟨s', hwrite, hat⟩
        have hexact : taken.length = capacity := by omega
        have hshort : ¬(taken ++ b :: bytes).length ≤ capacity := by
          rw [List.length_append, List.length_cons]
          omega
        refine ⟨s', ?_, ?_⟩
        · rw [writeRest_full hw hwrite, if_neg hshort]
        · rwa [← hexact, List.take_left]
      · rcases hw.portion h (by omega) (List.cons_ne_nil b bytes) with
          ⟨count, s', hpos, hcount, hfits, hwrite, hat⟩
        have htaken : (taken ++ (b :: bytes).take count).length = taken.length + count := by
          rw [List.length_append, List.length_take]
          omega
        have hfewer : ((b :: bytes).drop count).length < (b :: bytes).length := by
          rw [List.length_drop]
          omega
        rcases ih _ hfewer hat (by omega) ((b :: bytes).drop count) rfl with ⟨final, hrun, hfinal⟩
        rw [List.append_assoc, List.take_append_drop] at hrun hfinal
        refine ⟨final, ?_, hfinal⟩
        rw [writeRest_cons, hwrite, ← hrun]
        exact if_neg (by omega)

theorem Fills.run_writeAll (hw : w.Fills At capacity failure flushed) (h : At s taken)
    (hroom : taken.length ≤ capacity) (bytes : List UInt8) :
    ∃ s', w.writeAll bytes s =
        (if (taken ++ bytes).length ≤ capacity then .ok () else .error (refused failure), s') ∧
      At s' ((taken ++ bytes).take capacity) :=
  hw.run_writeRest h hroom w.interruptions bytes

/-- What comes of writing pieces depends on all their bytes together. -/
theorem Fills.run_writePieces (hw : w.Fills At capacity failure flushed) (h : At s taken)
    (hroom : taken.length ≤ capacity) (pieces : List (List UInt8)) :
    ∃ s', w.writePieces pieces s =
        (if (taken ++ pieces.flatten).length ≤ capacity then flushed
          else .error (refused failure), s') ∧
      At s' ((taken ++ pieces.flatten).take capacity) := by
  induction pieces generalizing taken s with
  | nil =>
    obtain ⟨s', hflush, hat⟩ := hw.flush h
    rw [List.flatten_nil, List.append_nil, if_pos hroom, List.take_of_length_le hroom]
    exact ⟨s', hflush, hat⟩
  | cons piece pieces ih =>
    obtain ⟨s', hwrite, hat⟩ := hw.run_writeAll h hroom piece
    rw [List.flatten_cons, ← List.append_assoc]
    by_cases hfits : (taken ++ piece).length ≤ capacity
    · rw [if_pos hfits] at hwrite
      rw [List.take_of_length_le hfits] at hat
      obtain ⟨final, hrun, hfinal⟩ := ih hat hfits
      refine ⟨final, ?_, hfinal⟩
      rw [writePieces_cons, hwrite, ← hrun]
    · rw [if_neg hfits] at hwrite
      have hshort : ¬(taken ++ piece ++ pieces.flatten).length ≤ capacity := by
        rw [List.length_append]
        omega
      rw [writePieces_cons, hwrite, if_neg hshort, List.take_append_of_le_length (by omega)]
      exact ⟨s', rfl, hat⟩

section WithFlush

variable {m : Type → Type} [Monad m]

-- writing has nothing to do with passing on
private theorem writeRest_withFlush (w : Writer m) (flush : m (Except IoError Unit))
    (interruptions : Nat) (bytes : List UInt8) :
    ({ w with flush := flush } : Writer m).writeRest interruptions bytes =
      w.writeRest interruptions bytes := by
  induction hleft : interruptions + bytes.length using Nat.strongRecOn generalizing interruptions
    bytes with
  | ind left ih =>
    cases bytes with
    | nil => rw [writeRest, writeRest]
    | cons b bytes =>
      conv_lhs => rw [writeRest]
      conv_rhs => rw [writeRest]
      refine congrArg (bind (w.write (b :: bytes))) (funext fun answer => ?_)
      cases answer with
      | error failure =>
        by_cases hagain : failure = .system .interrupted ∧ 0 < interruptions
        · simp only [dif_pos hagain]
          exact ih _ (by omega) _ _ rfl
        · simp only [dif_neg hagain]
      | ok count =>
        by_cases hcount : count = 0
        · simp only [hcount, dite_true]
        · simp only [hcount, dite_false]
          exact ih _ (by rw [← hleft, List.length_drop, List.length_cons]; omega) _ _ rfl

end WithFlush

/-- Where not all can be written, it does not matter what passing on would do. -/
theorem Fills.writePieces_withFlush (hw : w.Fills At capacity failure flushed) (h : At s taken)
    (hroom : taken.length ≤ capacity) {pieces : List (List UInt8)}
    (hshort : capacity < (taken ++ pieces.flatten).length)
    (flush : StateM σ (Except IoError Unit)) :
    ({ w with flush := flush } : Writer (StateM σ)).writePieces pieces s =
      w.writePieces pieces s := by
  induction pieces generalizing taken s with
  | nil =>
    rw [List.flatten_nil, List.append_nil] at hshort
    omega
  | cons piece pieces ih =>
    have hsame : ({ w with flush := flush } : Writer (StateM σ)).writeAll piece =
        w.writeAll piece :=
      writeRest_withFlush w flush w.interruptions piece
    rcases hw.run_writeAll h hroom piece with ⟨s', hwrite, hat⟩
    rw [writePieces_cons, writePieces_cons, hsame, hwrite]
    by_cases hfits : (taken ++ piece).length ≤ capacity
    · rw [if_pos hfits]
      rw [List.take_of_length_le hfits] at hat
      apply ih hat hfits
      rwa [List.flatten_cons, ← List.append_assoc] at hshort
    · rw [if_neg hfits]

end Writer

namespace Announcement

theorem ofAnnouncement_line {daemon : Pid} (hpositive : 0 < daemon.number) :
    ∃ text, String.fromUTF8? ⟨(line daemon).toArray⟩ = some text ∧
      Daemon.ofAnnouncement text = .ok ⟨daemon⟩ := by
  have hannounces := announces_text hpositive ['\n'] (by simp)
  refine ⟨text daemon ++ "\n", ?_, (Daemon.ofAnnouncement_eq_ok_iff _ ⟨daemon⟩).mpr hannounces⟩
  rw [line, Text.toList_eq_data]
  exact Text.fromUTF8?_toUTF8 (text daemon ++ "\n")

variable {σ : Type} {w : Writer (StateM σ)} {At : σ → List UInt8 → Prop} {capacity : Nat}
  {failure : Option ErrorCode}
  {flushed : Except IoError Unit} {s : σ}

/-- Announcing a daemon to a writer of limited capacity. The writer takes the first bytes of the
line up to its capacity. The outcome is a success exactly if these are all and passing them on
succeeds; otherwise it is the failure of the one or the other, and nothing is passed on of a line
that is not complete. It is the same in whatever pieces the line is written. After a success the
daemon is read back from the bytes that were taken. -/
theorem write_complete_or_failed (hw : w.Fills At capacity failure flushed) (h : At s [])
    {daemon : Pid} (hpositive : 0 < daemon.number) :
    let line := ("Daemon PID " ++ daemon.text ++ "\n").toUTF8.toList
    ∃ result final taken, write w daemon s = (result, final) ∧
      (announce w daemon).run s = (result.mapError .inputOutput, final) ∧
      At final taken ∧ taken = line.take (min capacity line.length) ∧
      (result = .ok () ↔ line.length ≤ capacity ∧ flushed = .ok ()) ∧
      (∀ e, result = .error e → if line.length ≤ capacity then flushed = .error e
        else e = Writer.refused failure) ∧
      (capacity < line.length → ∀ flush, write { w with flush := flush } daemon s =
        (result, final)) ∧
      (∀ pieces, pieces.flatten = line → ∃ final', w.writePieces pieces s = (result, final') ∧
        At final' taken) ∧
      (result = .ok () → ∃ text, String.fromUTF8? ⟨taken.toArray⟩ = some text ∧
      Daemon.ofAnnouncement text = .ok ⟨daemon⟩) := by
  intro line
  have hline : Announcement.line daemon = line := line_eq daemon
  have hpieces := hw.run_writePieces h (Nat.zero_le capacity)
  simp only [List.nil_append] at hpieces
  rcases hpieces (pieces daemon) with ⟨final, hrun, hfinal⟩
  rw [flatten_pieces, hline] at hrun hfinal
  have hwritten : write w daemon s =
      (if line.length ≤ capacity then flushed else .error (Writer.refused failure), final) := hrun
  refine ⟨_, final, line.take capacity, hwritten, ?_, hfinal, ?_, ?_, ?_, ?_, ?_, ?_⟩
  · change ((write w daemon s).1.mapError LaunchError.inputOutput, (write w daemon s).2) = _
    rw [hwritten]
  · rw [List.take_eq_take_min]
  · by_cases hfits : line.length ≤ capacity
    · simp [hfits]
    · simp [hfits]
  · intro e
    by_cases hfits : line.length ≤ capacity
    · simp [hfits]
    · simp [hfits, eq_comm]
  · intro hshort flush
    have hlong : capacity < ([] ++ (pieces daemon).flatten).length := by
      rwa [List.nil_append, flatten_pieces, hline]
    rw [write, hw.writePieces_withFlush h (Nat.zero_le capacity) hlong]
    exact hrun
  · rintro pieces hflatten
    obtain ⟨final', hrun', hfinal'⟩ := hpieces pieces
    rw [hflatten] at hrun' hfinal'
    exact ⟨final', hrun', hfinal'⟩
  · intro hok
    by_cases hfits : line.length ≤ capacity
    · rw [List.take_of_length_le hfits, ← hline]
      exact ofAnnouncement_line hpositive
    · rw [if_neg hfits] at hok
      cases hok

end Announcement

namespace Store

/-- The outcome of passing on what a store has. -/
def flushed (store : Store) : Except IoError Unit :=
  match store.flushFailure with
  | some code => .error (.system code)
  | none => .ok ()

theorem fills (store : Store) (h : store.failure ≠ some .interrupted) :
    writer.Fills (fun s taken => s = { store with taken := taken }) store.capacity store.failure
      store.flushed where
  uninterrupted := h
  portion := by
    rintro s taken bytes rfl hroom hbytes
    let count := min (store.capacity - taken.length) (max 1 (store.portion taken.length))
    have hlength : 0 < bytes.length := List.length_pos_iff.mpr hbytes
    have hpart : bytes.take (bytes.take count).length = bytes.take count := by
      simp [List.take_eq_take_iff]
    have hcount : (bytes.take count).length = min count bytes.length := List.length_take
    refine ⟨(bytes.take count).length, { store with taken := taken ++ bytes.take count }, by
      omega, by omega, by omega, ?_, ?_⟩
    · have hopen : ¬store.capacity - taken.length = 0 := by omega
      simp only [writer, hopen, if_false]
      rfl
    · rw [hpart]
  full := by
    rintro s taken bytes rfl hfull hbytes
    have hnone : store.capacity - taken.length = 0 := by omega
    refine ⟨_, ?_, rfl⟩
    simp only [writer, hnone, if_true]
    cases store.failure with
    | some code => rfl
    | none => rfl
  flush := by
    rintro s taken rfl
    refine ⟨_, ?_, rfl⟩
    simp only [writer, flushed]
    cases store.flushFailure with
    | some code => rfl
    | none => rfl

end Store

namespace Announcement

/-- A store that is full in the middle of the number has the announcement of another daemon then,
and the failure is reported. -/
theorem write_complete_or_failed_of_cut :
    let store : Store := { capacity := 13, portion := fun _ => 5, failure := some 28 }
    ∃ final : Store, write Store.writer ⟨4242⟩ store = (.error (.system 28), final) ∧
      final.taken = "Daemon PID 42".toUTF8.toList ∧
      Daemon.ofAnnouncement "Daemon PID 42" = .ok ⟨⟨42⟩⟩ := by
  intro store
  obtain ⟨result, final, taken, hrun, -, hfinal, htaken, hok, herror, -⟩ :=
    write_complete_or_failed (store.fills (by decide)) (s := store) rfl
      (by decide : 0 < (⟨4242⟩ : Pid).number)
  have hlength : ("Daemon PID " ++ (⟨4242⟩ : Pid).text ++ "\n").toUTF8.toList.length = 16 := by
    rw [Text.toList_eq_data]
    rfl
  have hshort : ¬16 ≤ store.capacity := by decide
  rw [hlength] at hok herror htaken
  refine ⟨final, ?_, ?_, by rfl⟩
  · cases result with
    | ok done => exact absurd (hok.mp rfl).1 hshort
    | error e =>
      have hreported := herror e rfl
      rw [if_neg hshort] at hreported
      rw [hrun, hreported]
      rfl
  · rw [hfinal, htaken, Text.toList_eq_data, Text.toList_eq_data]
    rfl

end Announcement

end DaemonLaunch
