import DaemonLaunch.Launch.Daemon
import Mathlib.Data.List.Induction
import Mathlib.Data.Nat.Digits.Defs

/-!
The lines that announce a daemon. They are the fixed words, a decimal number in the range of
identifiers with any leading zeros, and any line ends; every other line is refused.
-/

namespace DaemonLaunch

namespace Text

/-- The value of decimal digits, the highest one first. -/
def decimalValue (digits : List Char) : Nat :=
  Nat.ofDigits 10 (digits.reverse.map fun c => c.toNat - '0'.toNat)

private theorem ofDigitChars_eq_decimalValue (digits : List Char) :
    Nat.ofDigitChars 10 digits 0 = decimalValue digits := by
  induction digits using List.reverseRecOn with
  | nil => rfl
  | append_singleton digits c ih =>
    rw [Nat.ofDigitChars_append, ih, Nat.ofDigitChars_cons, Nat.ofDigitChars_nil, decimalValue,
      decimalValue, List.reverse_append, List.reverse_singleton, List.singleton_append,
        List.map_cons, Nat.ofDigits_cons]
    omega

private theorem isDigit_iff (c : Char) : c.isDigit = true ↔ '0' ≤ c ∧ c ≤ '9' := by
  simp [Char.isDigit, Char.le_def]

theorem numeral?_eq_some_iff (digits : List Char) (n : Nat) :
    numeral? digits = some n ↔ digits ≠ [] ∧ (∀ c ∈ digits, '0' ≤ c ∧ c ≤ '9') ∧
    decimalValue digits = n := by
  simp [numeral?, isDigit_iff, ofDigitChars_eq_decimalValue, and_assoc]

end Text

namespace Announcement

/-- How a line announces a number: the fixed words, digits that are those of the number, and line
ends. -/
structure Written (line : String) (digits ends : List Char) : Prop where
  line : line.toList = "Daemon PID ".toList ++ digits ++ ends
  nonempty : digits ≠ []
  digit : ∀ c ∈ digits, '0' ≤ c ∧ c ≤ '9'
  ends : ∀ c ∈ ends, c = '\r' ∨ c = '\n'

/-- The line announces the number, which is positive and fits an identifier. -/
def Announces (line : String) (p : Int) : Prop :=
  ∃ digits ends, Written line digits ends ∧ Text.decimalValue digits = p ∧ 1 ≤ p ∧ p ≤ 2 ^ 31 - 1

theorem remainder?_of_written {line : String} {digits ends : List Char}
    (h : Written line digits ends) :
    remainder? line = some digits := by
  obtain ⟨front, last, rfl⟩ : ∃ front last, digits = front ++ [last] :=
    ⟨_, _, (List.dropLast_concat_getLast h.nonempty).symm⟩
  have hlast : last ≠ '\r' ∧ last ≠ '\n' := by
    have hdigit := h.digit last (by simp)
    constructor
    all_goals
      rintro rfl
      exact absurd hdigit.1 (by decide)
  exact remainder?_of_ends h.ends hlast h.line

theorem number_eq_ok_iff (line : String) (word : Int32) :
    number line = .ok word ↔ ∃ digits ends,
      Written line digits ends ∧ Text.decimalValue digits = word.toInt := by
  constructor
  · intro h
    rw [number] at h
    split at h
    · cases h
    · next digits hrest =>
      split at h
      · cases h
      · next n hdigits =>
        obtain ⟨hnonempty, hdigit, rfl⟩ := (Text.numeral?_eq_some_iff digits n).mp hdigits
        obtain ⟨ends, hends, hline⟩ := exists_ends_of_remainder? hrest
        refine ⟨digits, ends, ⟨hline, hnonempty, hdigit, hends⟩, ?_⟩
        split at h
        · next hfits =>
          rw [Bounds.mostSigned32] at hfits
          rw [← Except.ok.inj h, Int32.toInt_ofNat_of_lt (by omega)]
        · cases h
  · rintro ⟨digits, ends, hwritten, hvalue⟩
    have hdigits :=
      (Text.numeral?_eq_some_iff digits _).mpr ⟨hwritten.nonempty, hwritten.digit, rfl⟩
    have hlt := word.toInt_lt
    have hfits : (Text.decimalValue digits : Int) ≤ Bounds.mostSigned32 := by
      rw [Bounds.mostSigned32]
      omega
    have hword : Int32.ofNat (Text.decimalValue digits) = word := by
      rw [← Int32.toInt_inj, Int32.toInt_ofNat_of_lt (by omega), hvalue]
    simp only [number, remainder?_of_written hwritten, hdigits, if_pos hfits, hword]

end Announcement

namespace Daemon

open Announcement

theorem ofNumber_eq_ok_iff (number : Int32) (d : Daemon) :
    ofNumber number = .ok d ↔ 0 < number ∧ d = ⟨⟨number⟩⟩ := by
  rw [ofNumber]
  split
  · next hnumber => simp [Int32.not_lt.mpr hnumber]
  · next hnumber => simp [Int32.not_le.mp hnumber, eq_comm]

theorem ofAnnouncement_eq_ok_iff (line : String) (d : Daemon) :
    ofAnnouncement line = .ok d ↔ Announces line d.pid.number.toInt := by
  have hok : ofAnnouncement line = .ok d ↔ number line = .ok d.pid.number ∧ 0 < d.pid.number := by
    rw [ofAnnouncement]
    cases number line with
    | error cause => simp
    | ok word =>
      simp only [ofNumber_eq_ok_iff, Except.ok.injEq]
      constructor
      · rintro ⟨hpositive, rfl⟩
        exact ⟨rfl, hpositive⟩
      · rintro ⟨rfl, hpositive⟩
        exact ⟨hpositive, rfl⟩
  have hpositive : 0 < d.pid.number ↔ 1 ≤ d.pid.number.toInt := Int32.lt_iff_toInt_lt
  have hfits : d.pid.number.toInt ≤ 2 ^ 31 - 1 := Int.le_sub_one_of_lt d.pid.number.toInt_lt
  rw [hok, number_eq_ok_iff, hpositive, Announces]
  simp only [hfits, and_true, ← and_assoc, exists_and_right]

theorem exists_other_of_ofAnnouncement {line : String} {e : LaunchError}
    (h : ofAnnouncement line = .error e) :
    ∃ cause, e = .other cause := by
  rw [ofAnnouncement] at h
  split at h
  · next cause hnumber =>
    cases h
    exact ⟨cause, rfl⟩
  · next word hnumber =>
    rw [ofNumber] at h
    split at h
    · cases h
      exact ⟨.badPid word, rfl⟩
    · cases h

end Daemon

namespace Announcement

theorem announces_text {daemon : Pid} (hpositive : 0 < daemon.number) (ends : List Char)
    (hends : ∀ c ∈ ends, c = '\r' ∨ c = '\n') :
    Announces (text daemon ++ String.ofList ends) daemon.number.toInt := by
  have hpositive : 0 < daemon.number.toInt := Int32.lt_iff_toInt_lt.mp hpositive
  have hfits : daemon.number.toInt ≤ 2 ^ 31 - 1 := Int.le_sub_one_of_lt daemon.number.toInt_lt
  have htext : daemon.text.toList = Nat.toDigits 10 daemon.number.toInt.natAbs := by
    rw [Pid.text, Text.toList_ofInt, if_neg (by omega)]
  have hdigits := Text.numeral?_toDigits daemon.number.toInt.natAbs
  rw [Text.numeral?_eq_some_iff] at hdigits
  obtain ⟨hnonempty, hdigit, hvalue⟩ := hdigits
  have hline : (text daemon ++ String.ofList ends).toList =
      lead ++ Nat.toDigits 10 daemon.number.toInt.natAbs ++ ends := by
    simp only [text, String.toList_append, String.toList_ofList, htext]
  refine ⟨_, ends, ⟨hline, hnonempty, hdigit, hends⟩, ?_, hpositive, hfits⟩
  rw [hvalue, Int.natAbs_of_nonneg (Int.le_of_lt hpositive)]

end Announcement

namespace Daemon

open Announcement

theorem exists_ofAnnouncement_iff (line : String) (p : Int) :
    (∃ d, ofAnnouncement line = .ok d ∧ d.pid.number.toInt = p) ↔ Announces line p := by
  constructor
  · rintro ⟨d, hread, rfl⟩
    exact (ofAnnouncement_eq_ok_iff line d).mp hread
  · intro h
    have hnumber : (Int32.ofInt p).toInt = p := by
      obtain ⟨digits, ends, -, -, hpositive, hfits⟩ := h
      exact Int32.toInt_ofInt_of_le (by omega) (by omega)
    refine ⟨⟨⟨Int32.ofInt p⟩⟩, ?_, hnumber⟩
    rw [ofAnnouncement_eq_ok_iff, hnumber]
    exact h

/-- What is read from a line. A daemon is read exactly if the line announces its number, and from
every other line comes an error that names the line or the number. The announcement of every daemon
that can exist is read back, with any line ends after it. -/
theorem announcement_grammar :
    (∀ (line : String) (p : Int), (∃ d, ofAnnouncement line = .ok d ∧ d.pid.number.toInt = p) ↔
      Announces line p) ∧
    (∀ line : String, (∃ cause, ofAnnouncement line = .error (.other cause)) ↔
      ∀ p, ¬Announces line p) ∧
    ∀ (daemon : Pid) (ends : List Char), 0 < daemon.number → (∀ c ∈ ends, c = '\r' ∨ c = '\n') →
      ofAnnouncement (text daemon ++ String.ofList ends) = .ok ⟨daemon⟩ := by
  refine ⟨exists_ofAnnouncement_iff, ?_, ?_⟩
  · intro line
    constructor
    · rintro ⟨cause, hrefused⟩ p hannounces
      obtain ⟨d, hread, -⟩ := (exists_ofAnnouncement_iff line p).mpr hannounces
      rw [hrefused] at hread
      cases hread
    · intro hnone
      cases hread : ofAnnouncement line with
      | error e =>
        obtain ⟨cause, rfl⟩ := exists_other_of_ofAnnouncement hread
        exact ⟨cause, rfl⟩
      | ok d => exact absurd ((ofAnnouncement_eq_ok_iff line d).mp hread) (hnone _)
  · intro daemon ends hpositive hends
    rw [ofAnnouncement_eq_ok_iff]
    exact announces_text hpositive ends hends

example : ofAnnouncement "Daemon PID 0042\r\n\n" = .ok ⟨⟨42⟩⟩ := by rfl

end Daemon

end DaemonLaunch
