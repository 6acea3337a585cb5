import DaemonLaunch.Activity.Identity
import DaemonLaunch.Launch.TaskStatus

/-!
Status lines as a system writes them, with any bytes for the name. A line whose name is text is read
the same whatever the name is; a name that is not text makes the whole line unreadable.
-/

namespace DaemonLaunch

/-- A character of a field: it leaves a mark, and it is no bracket that could end a name. -/
def TaskStatus.IsFieldChar (c : Char) : Prop := Text.isBlank c = false ∧ c ≠ ')'

namespace TaskStatus.IsFieldChar

theorem of_isAlpha {c : Char} (hc : c.isAlpha = true) : IsFieldChar c := by
  change (decide (c.val ≥ 65 ∧ c.val ≤ 90) ||
    decide (c.val ≥ 97) && decide (c.val ≤ 122)) = true at hc
  simp only [Bool.or_eq_true, Bool.and_eq_true, decide_eq_true_eq, ge_iff_le,
    UInt32.le_iff_toNat_le] at hc
  change 65 ≤ c.toNat ∧ c.toNat ≤ 90 ∨ 97 ≤ c.toNat ∧ c.toNat ≤ 122 at hc
  refine ⟨Text.isBlank_of_visible (by omega) (by omega), ?_⟩
  rintro rfl
  revert hc
  decide

theorem of_mem_ofInt {n : Int} {c : Char} (hc : c ∈ (Text.ofInt n).toList) : IsFieldChar c := by
  obtain rfl | hdigit := Text.mem_ofInt hc
  · exact ⟨by decide, by decide⟩
  · simp only [Char.isDigit, Bool.and_eq_true, decide_eq_true_eq, ge_iff_le,
      UInt32.le_iff_toNat_le] at hdigit
    change 48 ≤ c.toNat ∧ c.toNat ≤ 57 at hdigit
    refine ⟨Text.isBlank_of_visible (by omega) (by omega), ?_⟩
    rintro rfl
    revert hdigit
    decide

end TaskStatus.IsFieldChar

open String in
private theorem isValidUTF8_between {before bytes after : ByteArray} (hbefore : before.IsValidUTF8)
    (hafter : after.IsValidUTF8) : (before ++ bytes ++ after).IsValidUTF8 ↔ bytes.IsValidUTF8 := by
  refine ⟨fun hvalid => ?_, fun hbytes => (hbefore.append hbytes).append hafter⟩
  let whole : String := .ofByteArray (before ++ bytes ++ after) hvalid
  let start : Pos.Raw := ⟨before.size⟩
  let stop : Pos.Raw := ⟨before.size + bytes.size⟩
  have hwhole : whole.toByteArray = before ++ bytes ++ after := rfl
  have hsize : whole.utf8ByteSize = before.size + bytes.size + after.size := by
    rw [← size_toByteArray, hwhole, ByteArray.size_append, ByteArray.size_append]
  have hle : start ≤ stop := Nat.le_add_right _ _
  have hstop : stop ≤ whole.rawEndPos := by
    rw [Pos.Raw.le_iff, byteIdx_rawEndPos, hsize]
    exact Nat.le_add_right _ _
  have hstartValid : start.IsValid whole := by
    rw [Pos.Raw.isValid_iff_isValidUTF8_extract_zero]
    refine ⟨Nat.le_trans hle hstop, ?_⟩
    rw [hwhole, ByteArray.append_assoc, ByteArray.extract_append_eq_left rfl]
    exact hbefore
  have hstopValid : stop.IsValid whole := by
    rw [Pos.Raw.isValid_iff_isValidUTF8_extract_utf8ByteSize]
    refine ⟨hstop, ?_⟩
    rw [hwhole, hsize, ByteArray.extract_append_eq_right (by simp [stop]) (by simp)]
    exact hafter
  have hpart : whole.toByteArray.extract start.byteIdx stop.byteIdx = bytes := by
    rw [hwhole, ByteArray.append_assoc]
    change (before ++ (bytes ++ after)).extract (before.size + 0) (before.size + bytes.size) = bytes
    rw [ByteArray.extract_append_size_add, ByteArray.extract_append_eq_left rfl]
  rw [← hpart]
  exact (Pos.Raw.isValidUTF8_extract_iff start stop hle hstop).mpr (.inr ⟨hstartValid, hstopValid⟩)

/-- What stands in a status line after the name. -/
structure StatusFields where
  state : Char
  parent : Int
  group : Int
  session : Int
  terminal : Int32
  rest : List Char
  letter : state.isAlpha = true
  plain : ∀ c ∈ rest, c.isDigit = true ∨ c = '-' ∨ c = ' '

namespace StatusFields

open Text

/-- The text after the name and its bracket, up to the end of the line. -/
def text (f : StatusFields) : String :=
  " " ++ String.singleton f.state ++ " " ++ ofInt f.parent ++ " " ++ ofInt f.group ++ " " ++
    ofInt f.session ++ " " ++
    ofInt f.terminal.toInt ++ " " ++ String.ofList f.rest ++ "\n"

/-- The line of a process whose name is made of the given bytes. -/
def line (f : StatusFields) (pid : Pid) (name : ByteArray) : ByteArray :=
  (pid.text ++ " (").toUTF8 ++ name ++ (")" ++ f.text).toUTF8

/-- Whether the state is that of a dead process. -/
def IsDead (f : StatusFields) : Prop := f.state ∈ ['Z', 'X', 'x']

instance (f : StatusFields) : Decidable f.IsDead :=
  inferInstanceAs (Decidable (f.state ∈ ['Z', 'X', 'x']))

variable (f : StatusFields)

private theorem toList_text : f.text.toList =
    ' ' :: ([f.state] ++ ' ' :: ((ofInt f.parent).toList ++ ' ' :: ((ofInt f.group).toList ++
      ' ' :: ((ofInt f.session).toList ++ ' ' ::
        ((ofInt f.terminal.toInt).toList ++ ' ' :: (f.rest ++ ['\n'])))))) := by
  simp [text]

private theorem bracket_not_mem_text : ')' ∉ f.text.toList := by
  have hstate : ')' ≠ f.state := (TaskStatus.IsFieldChar.of_isAlpha f.letter).2.symm
  have hnumber : ∀ n, ')' ∉ (ofInt n).toList :=
    fun n hmem => (TaskStatus.IsFieldChar.of_mem_ofInt hmem).2 rfl
  have hrest : ')' ∉ f.rest := fun hmem => by simpa using f.plain _ hmem
  rw [toList_text]
  simp [hstate, hnumber, hrest]

private theorem words_ofInt (n : Int) : words (ofInt n).toList = [(ofInt n).toList] :=
  words_eq_singleton (ofInt_ne_nil n) fun _ hc => (TaskStatus.IsFieldChar.of_mem_ofInt hc).1

private theorem words_text : ∃ more, words f.text.toList =
    [f.state] :: (ofInt f.parent).toList :: (ofInt f.group).toList :: (ofInt f.session).toList ::
      (ofInt f.terminal.toInt).toList :: more := by
  have hblank : isBlank ' ' = true := by decide
  have hstate : words [f.state] = [[f.state]] :=
    words_eq_singleton (List.cons_ne_nil _ _)
      (by simpa using (TaskStatus.IsFieldChar.of_isAlpha f.letter).1)
  refine ⟨words (f.rest ++ ['\n']), ?_⟩
  rw [toList_text, words_cons hblank]
  simp only [words_append_cons hblank, hstate, words_ofInt]
  rfl

theorem ofLine?_append (before : String) :
    TaskStatus.ofLine? (before ++ ")" ++ f.text) = some ⟨f.state, f.terminal⟩ := by
  have hline : (before ++ ")" ++ f.text).toList = before.toList ++ ')' :: f.text.toList := by simp
  obtain ⟨more, hwords⟩ := f.words_text
  rw [TaskStatus.ofLine?, hline, TaskStatus.afterName?_append f.bracket_not_mem_text]
  simp only [Option.bind_eq_bind, Option.bind_some, hwords, TaskStatus.word?_ofInt]
  rfl

/-- A line is read just if its name is text, and then the same whatever the name is. -/
theorem read_line (pid : Pid) (name : ByteArray) :
    (String.fromUTF8? (f.line pid name)).bind TaskStatus.ofLine? =
      if name.IsValidUTF8 then some ⟨f.state, f.terminal⟩ else none := by
  have hvalid : (f.line pid name).IsValidUTF8 ↔ name.IsValidUTF8 :=
    isValidUTF8_between (pid.text ++ " (").isValidUTF8 (")" ++ f.text).isValidUTF8
  by_cases hname : name.IsValidUTF8
  · let named : String := .ofByteArray name hname
    have hline : f.line pid name = (pid.text ++ " (" ++ named ++ ")" ++ f.text).toUTF8 := by
      simp [line, named, ByteArray.append_assoc]
    rw [if_pos hname, String.fromUTF8?, dif_pos (hvalid.mpr hname), Option.bind_some]
    have htext : String.fromUTF8 (f.line pid name) (hvalid.mpr hname) = pid.text ++ " (" ++ named ++
        ")" ++ f.text := by
      rw [← String.toByteArray_inj]
      exact hline
    rw [htext, ofLine?_append]
  · rw [if_neg hname, String.fromUTF8?, dif_neg (fun h => hname (hvalid.mp h)), Option.bind_none]

end StatusFields

end DaemonLaunch
