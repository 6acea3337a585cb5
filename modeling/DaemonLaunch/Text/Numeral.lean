/-!
Whole numbers as text. A numeral is a non-empty run of ASCII digits, leading zeros included; a plus
sign may stand before it, and a minus sign where negative numbers are meant. Reading keeps to given
bounds.
-/

namespace DaemonLaunch.Text

/-- The value of a non-empty run of ASCII digits. -/
def numeral? (text : List Char) : Option Nat :=
  if !text.isEmpty && text.all Char.isDigit then some (Nat.ofDigitChars 10 text 0) else none

/-- A number from zero to `most`, with an optional plus sign. -/
def natural? (most : Nat) (text : List Char) : Option Nat :=
  let digits := match text with
    | '+' :: rest => rest
    | _ => text
  (numeral? digits).filter (· ≤ most)

/-- A number from `least` to `most`, with an optional sign. -/
def integer? (least most : Int) (text : List Char) : Option Int :=
  let value := match text with
    | '-' :: rest => (numeral? rest).map fun n => -(n : Int)
    | '+' :: rest => (numeral? rest).map fun n => (n : Int)
    | _ => (numeral? text).map fun n => (n : Int)
  value.filter fun n => least ≤ n && n ≤ most

/-- Whether the text is a number with an optional sign, point and exponent, infinite, or no number
at all. -/
def isDecimal (text : List Char) : Bool :=
  let unsigned := match text with
    | '-' :: rest | '+' :: rest => rest
    | _ => text
  let whole := unsigned.takeWhile Char.isDigit
  let rest := unsigned.dropWhile Char.isDigit
  let (fraction, rest) := match rest with
    | '.' :: rest => (rest.takeWhile Char.isDigit, rest.dropWhile Char.isDigit)
    | _ => ([], rest)
  let exponent := match rest with
    | 'e' :: '-' :: rest | 'E' :: '-' :: rest | 'e' :: '+' :: rest | 'E' :: '+' :: rest => some rest
    | 'e' :: rest | 'E' :: rest => some rest
    | _ => none
  let finite := !(whole.isEmpty && fraction.isEmpty) &&
    match exponent with
    | some digits => !digits.isEmpty && digits.all Char.isDigit
    | none => rest.isEmpty
  finite || ["inf", "infinity", "nan"].contains (String.ofList (unsigned.map Char.toLower))

/-- The decimal text of a number, the minus sign first. -/
def ofInt (n : Int) : String :=
  if n < 0 then "-" ++ toString n.natAbs else toString n.natAbs

theorem toList_ofInt (n : Int) :
    (ofInt n).toList =
      if n < 0 then '-' :: Nat.toDigits 10 n.natAbs else Nat.toDigits 10 n.natAbs := by
  rw [ofInt]
  split <;> simp

theorem isDigit_of_mem_toDigits {n : Nat} {c : Char} (hc : c ∈ Nat.toDigits 10 n) :
    c.isDigit = true :=
  Nat.isDigit_of_mem_toDigits (by decide) (by decide) hc

theorem numeral?_toDigits (n : Nat) : numeral? (Nat.toDigits 10 n) = some n := by
  have hdigits : (Nat.toDigits 10 n).all Char.isDigit = true := List.all_eq_true.mpr fun c hc =>
    isDigit_of_mem_toDigits hc
  simp [numeral?, hdigits, Nat.toDigits_ne_nil]

theorem ne_of_isDigit {c d : Char} (hc : c.isDigit = true) (hd : d.isDigit = false) : c ≠ d := by
  rintro rfl
  rw [hc] at hd
  cases hd

theorem toDigits_ne_zero_cons {n : Nat} (hn : 0 < n) (rest : List Char) :
    Nat.toDigits 10 n ≠ '0' :: rest := by
  induction n using Nat.strongRecOn generalizing rest with
  | _ n ih =>
    rw [Nat.toDigits_eq_if (by decide)]
    split
    · next hsmall =>
      have hdigits : ∀ n < 10, 0 < n → n.digitChar ≠ '0' := by decide
      exact fun hdigit => hdigits n hsmall hn (List.cons.inj hdigit).1
    · next hlarge =>
      obtain ⟨c, ds, hcons⟩ :=
        List.exists_cons_of_ne_nil (Nat.toDigits_ne_nil (n := n / 10) (b := 10))
      rw [hcons, List.cons_append]
      rintro ⟨⟩
      exact ih (n / 10) (by omega) (by omega) ds hcons

theorem exists_toDigits_cons (n : Nat) :
    ∃ c ds, Nat.toDigits 10 n = c :: ds ∧ c.isDigit = true := by
  obtain ⟨c, ds, hcons⟩ := List.exists_cons_of_ne_nil (Nat.toDigits_ne_nil (n := n) (b := 10))
  exact ⟨c, ds, hcons, isDigit_of_mem_toDigits (n := n) (by simp [hcons])⟩

theorem toDigits_cases (n : Nat) :
    (n = 0 ∧ Nat.toDigits 10 n = ['0']) ∨
      ∃ c ds, Nat.toDigits 10 n = c :: ds ∧ c ≠ '0' ∧ ∀ d ∈ c :: ds, d.isDigit = true := by
  obtain rfl | hn := Nat.eq_zero_or_pos n
  · exact .inl ⟨rfl, Nat.toDigits_zero 10⟩
  · obtain ⟨c, ds, hcons, -⟩ := exists_toDigits_cons n
    refine .inr ⟨c, ds, hcons, ?_, fun d hd => isDigit_of_mem_toDigits (hcons ▸ hd)⟩
    rintro rfl
    exact toDigits_ne_zero_cons hn ds hcons

theorem integer?_ofInt {least most n : Int} (hleast : least ≤ n) (hmost : n ≤ most) :
    integer? least most (ofInt n).toList = some n := by
  have hwithin : (some n).filter (fun n => least ≤ n && n ≤ most) = some n := by
    simp [Option.filter, hleast, hmost]
  rw [toList_ofInt]
  by_cases hnegative : n < 0
  · have hvalue : -(n.natAbs : Int) = n := by omega
    rw [if_pos hnegative, integer?, numeral?_toDigits]
    change (some (-(n.natAbs : Int))).filter _ = some n
    rw [hvalue]
    exact hwithin
  · have hvalue : (n.natAbs : Int) = n := by omega
    obtain ⟨c, rest, hdigits, hdigit⟩ := exists_toDigits_cons n.natAbs
    have hread := numeral?_toDigits n.natAbs
    rw [if_neg hnegative]
    rw [hdigits] at hread ⊢
    have hminus : c ≠ '-' := by
      rintro rfl
      exact absurd hdigit (by decide)
    have hplus : c ≠ '+' := by
      rintro rfl
      exact absurd hdigit (by decide)
    rw [integer?]
    · rw [hread]
      change (some (n.natAbs : Int)).filter _ = some n
      rw [hvalue]
      exact hwithin
    · rintro rest ⟨⟩
      exact hminus rfl
    · rintro rest ⟨⟩
      exact hplus rfl

theorem mem_ofInt {n : Int} {c : Char} (hc : c ∈ (ofInt n).toList) :
    c = '-' ∨ c.isDigit = true := by
  rw [toList_ofInt] at hc
  split at hc
  · obtain rfl | hc := List.mem_cons.mp hc
    · exact .inl rfl
    · exact .inr (isDigit_of_mem_toDigits hc)
  · exact .inr (isDigit_of_mem_toDigits hc)

theorem ofInt_ne_nil (n : Int) : (ofInt n).toList ≠ [] := by
  rw [toList_ofInt]
  split
  · exact List.cons_ne_nil _ _
  · exact Nat.toDigits_ne_nil

/-- The text with the filling character put before it up to the given width. -/
def padLeft (width : Nat) (fill : Char) (text : String) : String :=
  String.ofList (List.replicate (width - text.length) fill) ++ text

end DaemonLaunch.Text
