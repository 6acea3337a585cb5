import DaemonLaunch.Json.Fault
import DaemonLaunch.Text.Hexadecimal

/-!
Blanks, words and quoted texts of JSON. A quoted text is either read, its escapes replaced, or only
passed over.
-/

namespace DaemonLaunch.Json

def isSpace (c : Char) : Bool := c == ' ' || c == '\n' || c == '\t' || c == '\r'

/-- The text from the next character that is not blank. -/
def skipSpace (text : List Char) : List Char := text.dropWhile isSpace

/-- The text after the rest of a word, all of whose characters must follow. -/
def readWord : List Char → List Char → Except Fault (List Char)
  | [], text => .ok text
  | _ :: _, [] => failAt .endInValue []
  | w :: word, c :: rest =>
    if c == w then readWord word rest else .error ⟨.expectedIdent, c :: rest, 1⟩

def readHex (text : List Char) : Except Fault Nat :=
  match text with
  | a :: b :: c :: d :: _ =>
    match Text.hexDigit? a, Text.hexDigit? b, Text.hexDigit? c, Text.hexDigit? d with
    | some a, some b, some c, some d => .ok (((a * 16 + b) * 16 + c) * 16 + d)
    | _, _, _, _ => .error ⟨.badEscape, text, 4⟩
  | _ => if Text.byteCount text < 4 then failAt .endInText [] else .error ⟨.badEscape, text, 4⟩

private def isHighSurrogate (n : Nat) : Bool := 0xd800 ≤ n && n ≤ 0xdbff
private def isLowSurrogate (n : Nat) : Bool := 0xdc00 ≤ n && n ≤ 0xdfff

private def readLowSurrogate (text : List Char) : Except Fault Nat :=
  match text with
  | [] => failAt .endInText []
  | '\\' :: [] => failAt .endInText []
  | '\\' :: 'u' :: rest => do
    let n ← readHex rest
    if isLowSurrogate n then return n else failAt .loneSurrogate (rest.drop 4)
  | '\\' :: c :: rest => .error ⟨.endOfHexEscape, c :: rest, 1⟩
  | c :: rest => .error ⟨.endOfHexEscape, c :: rest, 1⟩

private def simpleEscape? (c : Char) : Option Char :=
  [('"', '"'), ('\\', '\\'), ('/', '/'), ('b', '\x08'), ('f', '\x0c'), ('n', '\n'), ('r', '\r'),
    ('t', '\t')].lookup c

/-- The character that an escape stands for and the count of characters after the backslash. -/
def readEscape (text : List Char) : Except Fault (Char × Nat) :=
  match text with
  | [] => failAt .endInText []
  | 'u' :: rest => do
    let high ← readHex rest
    if isLowSurrogate high then failAt .loneSurrogate (rest.drop 4)
    else if isHighSurrogate high then
      let low ← readLowSurrogate (rest.drop 4)
      return (Char.ofNat (0x10000 + (high - 0xd800) * 0x400 + (low - 0xdc00)), 11)
    else return (Char.ofNat high, 5)
  | c :: rest =>
    match simpleEscape? c with
    | some meant => return (meant, 1)
    | none => .error ⟨.badEscape, c :: rest, 1⟩

/-- The text up to the closing quote, after passing over the given count of characters. -/
def readQuotedFrom (passed : Nat) : List Char → Except Fault (List Char × List Char)
  | [] => failAt .endInText []
  | c :: rest =>
    match passed with
    | passed + 1 => readQuotedFrom passed rest
    | 0 =>
      if c == '"' then .ok ([], rest)
      else if c == '\\' then do
        let (meant, count) ← readEscape rest
        let (more, left) ← readQuotedFrom count rest
        return (meant :: more, left)
      else if c.toNat < 0x20 then .error ⟨.controlCharacter, c :: rest, 1⟩
      else do
        let (more, left) ← readQuotedFrom 0 rest
        return (c :: more, left)

section QuotedSteps

variable {c : Char} {rest more left : List Char}

theorem readQuotedFrom_mark : readQuotedFrom 0 ('"' :: rest) = .ok ([], rest) := by
  simp [readQuotedFrom]

theorem readQuotedFrom_plain (hquote : c ≠ '"') (hescape : c ≠ '\\') (hcontrol : ¬c.toNat < 0x20)
    (h : readQuotedFrom 0 rest = .ok (more, left)) :
    readQuotedFrom 0 (c :: rest) = .ok (c :: more, left) := by
  simp [readQuotedFrom, hquote, hescape, hcontrol, h, bind, Except.bind, pure, Except.pure]

theorem readQuotedFrom_escaped (hc : c = '"' ∨ c = '\\')
    (h : readQuotedFrom 0 rest = .ok (more, left)) :
    readQuotedFrom 0 ('\\' :: c :: rest) = .ok (c :: more, left) := by
  have hescape : readEscape (c :: rest) = .ok (c, 1) := by
    obtain rfl | rfl := hc
    · rfl
    · rfl
  simp [readQuotedFrom, hescape, h, bind, Except.bind, pure, Except.pure]

theorem readQuotedFrom_code {a b : Char} {high low : Nat} (ha : Text.hexDigit? a = some high)
    (hb : Text.hexDigit? b = some low)
    (hcode : high * 16 + low < 0xd800) (h : readQuotedFrom 0 rest = .ok (more, left)) :
    readQuotedFrom 0 ('\\' :: 'u' :: '0' :: '0' :: a :: b :: rest) =
      .ok (Char.ofNat (high * 16 + low) :: more, left) := by
  have hzero : Text.hexDigit? '0' = some 0 := by decide
  have hhex : readHex ('0' :: '0' :: a :: b :: rest) = .ok (high * 16 + low) := by
    simp [readHex, hzero, ha, hb]
  have hlow : isLowSurrogate (high * 16 + low) = false := by
    simp only [isLowSurrogate, Bool.and_eq_false_iff, decide_eq_false_iff_not]
    omega
  have hhigh : isHighSurrogate (high * 16 + low) = false := by
    simp only [isHighSurrogate, Bool.and_eq_false_iff, decide_eq_false_iff_not]
    omega
  have hescape : readEscape ('u' :: '0' :: '0' :: a :: b :: rest) =
      .ok (Char.ofNat (high * 16 + low), 5) := by
    simp [readEscape, hhex, hlow, hhigh, bind, Except.bind, pure, Except.pure]
  simp [readQuotedFrom, hescape, h, bind, Except.bind, pure, Except.pure]

end QuotedSteps

def readQuoted (text : List Char) : Except Fault (String × List Char) := do
  let (chars, rest) ← readQuotedFrom 0 text
  return (String.ofList chars, rest)

private def passEscape (text : List Char) : Except Fault Nat :=
  match text with
  | [] => failAt .endInText []
  | 'u' :: rest => do
    let _ ← readHex rest
    return 5
  | c :: rest => if (simpleEscape? c).isSome then return 1 else .error ⟨.badEscape, c :: rest, 1⟩

/-- The text after the closing quote, after passing over the given count of characters. -/
def passQuotedFrom (passed : Nat) : List Char → Except Fault (List Char)
  | [] => failAt .endInText []
  | c :: rest =>
    match passed with
    | passed + 1 => passQuotedFrom passed rest
    | 0 =>
      if c == '"' then .ok rest
      else if c == '\\' then do
        let count ← passEscape rest
        passQuotedFrom count rest
      else if c.toNat < 0x20 then failAt .controlCharacter (c :: rest)
      else passQuotedFrom 0 rest

private theorem exists_of_readHex {text : List Char} {n : Nat} (h : readHex text = .ok n) :
    ∃ a b c d more, text = a :: b :: c :: d :: more := by
  unfold readHex at h
  split at h
  · exact ⟨_, _, _, _, _, rfl⟩
  · split at h <;> cases h

private theorem exists_of_readLowSurrogate {text : List Char} {n : Nat}
    (h : readLowSurrogate text = .ok n) :
    ∃ more low, text = '\\' :: 'u' :: more ∧ readHex more = .ok low := by
  unfold readLowSurrogate at h
  split at h
  · cases h
  · cases h
  · next more =>
    cases hhex : readHex more with
    | error fault => simp [hhex, bind, Except.bind] at h
    | ok low => exact ⟨more, low, rfl, hhex⟩
  · cases h
  · cases h

private theorem passEscape_of_readHex {text : List Char} {n : Nat} (h : readHex text = .ok n) :
    passEscape ('u' :: text) = .ok 5 := by
  simp [passEscape, h, bind, Except.bind, pure, Except.pure]

private theorem passEscape_of_readEscape {text : List Char} {meant : Char} {count : Nat}
    (h : readEscape text = .ok (meant, count)) :
    passEscape text = .ok count ∨ count = 11 ∧ ∃ a b c d more,
      text = 'u' :: a :: b :: c :: d :: '\\' :: 'u' :: more ∧
      passEscape text = .ok 5 ∧ passEscape ('u' :: more) = .ok 5 := by
  unfold readEscape at h
  split at h
  · cases h
  · next rest =>
    cases hhex : readHex rest with
    | error fault => simp [hhex, bind, Except.bind] at h
    | ok high =>
      have hpass := passEscape_of_readHex hhex
      simp only [hhex, bind, Except.bind] at h
      split at h
      · cases h
      · split at h
        · cases hlow : readLowSurrogate (rest.drop 4) with
          | error fault => simp [hlow] at h
          | ok low =>
            obtain ⟨more, second, hmore, hsecond⟩ := exists_of_readLowSurrogate hlow
            obtain ⟨a, b, c, d, others, rfl⟩ := exists_of_readHex hhex
            obtain ⟨e, f, g, k, rest', rfl⟩ := exists_of_readHex hsecond
            simp only [hlow, pure, Except.pure, Except.ok.injEq, Prod.mk.injEq] at h
            have hothers : others = '\\' :: 'u' :: e :: f :: g :: k :: rest' := by simpa using hmore
            rw [hothers] at hpass ⊢
            exact .inr ⟨h.2.symm, a, b, c, d, _, rfl, hpass, passEscape_of_readHex hsecond⟩
        · simp only [pure, Except.pure, Except.ok.injEq, Prod.mk.injEq] at h
          exact .inl (h.2 ▸ hpass)
  · next c rest hother =>
    split at h
    · next meant' hmeant =>
      simp only [pure, Except.pure, Except.ok.injEq, Prod.mk.injEq] at h
      left
      rw [passEscape]
      · simp [hmeant, ← h.2, pure, Except.pure]
      · exact hother
    · cases h

theorem passQuotedFrom_of_readQuotedFrom {passed : Nat} {text chars left : List Char}
    (h : readQuotedFrom passed text = .ok (chars, left)) :
    passQuotedFrom passed text = .ok left := by
  induction text generalizing passed chars with
  | nil => cases h
  | cons c rest ih =>
    cases passed with
    | succ passed => exact ih h
    | zero =>
      simp only [readQuotedFrom] at h
      rw [passQuotedFrom]
      split at h
      · next hquote =>
        cases h
        simp [hquote]
      · next hquote =>
        rw [if_neg hquote]
        split at h
        · next hescape =>
          rw [if_pos hescape]
          cases hmeant : readEscape rest with
          | error fault => simp [hmeant, bind, Except.bind] at h
          | ok escape =>
            cases hmore : readQuotedFrom escape.2 rest with
            | error fault => simp [hmeant, hmore, bind, Except.bind] at h
            | ok read =>
              simp only [hmeant, hmore, bind, Except.bind, pure, Except.pure, Except.ok.injEq,
                Prod.mk.injEq] at h
              have hrest := ih (hmore.trans (by rw [← h.2]))
              obtain hpass | ⟨heleven, a, b, c', d, more, rfl, hfirst, hsecond⟩ :=
                passEscape_of_readEscape hmeant
              · simpa [hpass, bind, Except.bind] using hrest
              · rw [heleven] at hrest
                simpa [passQuotedFrom, hfirst, hsecond, bind, Except.bind] using hrest
        · next hescape =>
          rw [if_neg hescape]
          split at h
          · cases h
          · next hcontrol =>
            rw [if_neg hcontrol]
            cases hmore : readQuotedFrom 0 rest with
            | error fault => simp [hmore, bind, Except.bind] at h
            | ok read =>
              simp only [hmore, bind, Except.bind, pure, Except.pure, Except.ok.injEq,
                Prod.mk.injEq] at h
              exact ih (hmore.trans (by rw [← h.2]))

def passQuoted (text : List Char) : Except Fault (List Char) := passQuotedFrom 0 text

theorem passQuoted_of_readQuoted {text left : List Char} {s : String}
    (h : readQuoted text = .ok (s, left)) :
    passQuoted text = .ok left := by
  rw [readQuoted] at h
  cases hread : readQuotedFrom 0 text with
  | error fault => simp [hread, bind, Except.bind] at h
  | ok read =>
    simp only [hread, bind, Except.bind, pure, Except.pure, Except.ok.injEq, Prod.mk.injEq] at h
    exact passQuotedFrom_of_readQuotedFrom (hread.trans (by rw [← h.2]))

end DaemonLaunch.Json
