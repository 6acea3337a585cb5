import DaemonLaunch.Proofs.AnnouncementGrammar
import DaemonLaunch.Text.Cut
import Mathlib.Data.List.TakeWhile

/-!
The lines that give a status. A line gives one exactly if it has a closing bracket and, after the
last one, at least five fields between blanks of which the fifth is a number of 32 bits. The byte
after that bracket begins a character or ends the line, so the fields can be cut off there, and
nothing before it matters.
-/

namespace DaemonLaunch

namespace Text

/-- A text is made of these fields in order, with blanks around and between them. -/
inductive Fields : List Char → List (List Char) → Prop
  | none {blanks : List Char} (hblanks : ∀ c ∈ blanks, isBlank c = true) : Fields blanks []
  | cons {blanks field rest : List Char} {fields : List (List Char)}
      (hblanks : ∀ c ∈ blanks, isBlank c = true)
      (hnonempty : field ≠ []) (hfield : ∀ c ∈ field, isBlank c = false)
      (hends : ∀ c ∈ rest.head?, isBlank c = true)
      (hrest : Fields rest fields) : Fields (blanks ++ (field ++ rest)) (field :: fields)

private theorem Fields.words_eq {text : List Char} {fields : List (List Char)}
    (h : Fields text fields) : words text = fields := by
  induction h with
  | none hblanks => exact words_blanks hblanks
  | cons hblanks hnonempty hfield hends hrest ih =>
    rw [words_blanks_append hblanks, words_append hnonempty hfield hends, ih]

private theorem fields_words (text : List Char) : Fields text (words text) := by
  -- a text gets shorter by the blanks and the field at its front
  induction hlength : text.length using Nat.strongRecOn generalizing text with
  | ind length ih =>
    have htext : text.takeWhile isBlank ++ text.dropWhile isBlank = text :=
      List.takeWhile_append_dropWhile
    have hblanks : ∀ c ∈ text.takeWhile isBlank, isBlank c = true :=
      fun c hc => List.mem_takeWhile_imp hc
    have hvisible := List.head?_dropWhile_not isBlank text
    cases hafter : text.dropWhile isBlank with
    | nil =>
      rw [hafter, List.append_nil] at htext
      rw [htext] at hblanks
      rw [words_blanks hblanks]
      exact .none hblanks
    | cons c after =>
      rw [hafter] at htext hvisible
      let field := c :: after.takeWhile (!isBlank ·)
      let rest := after.dropWhile (!isBlank ·)
      have hsplit : field ++ rest = c :: after := congrArg (c :: ·) List.takeWhile_append_dropWhile
      have hfield : ∀ d ∈ field, isBlank d = false := by
        intro d hd
        obtain rfl | hd := List.mem_cons.mp hd
        · exact hvisible
        · simpa using List.mem_takeWhile_imp hd
      have hends : ∀ d ∈ rest.head?, isBlank d = true := by
        intro d hd
        have hblank := List.head?_dropWhile_not (!isBlank ·) after
        rw [Option.mem_def.mp hd] at hblank
        simpa using hblank
      have hshorter : rest.length < length := by
        have hrest : rest.length ≤ after.length := List.length_dropWhile_le _ _
        have hcount := congrArg List.length htext
        rw [List.length_append, List.length_cons] at hcount
        omega
      rw [← htext, ← hsplit, words_blanks_append hblanks,
        words_append (List.cons_ne_nil _ _) hfield hends]
      exact .cons hblanks (List.cons_ne_nil _ _) hfield hends (ih _ hshorter rest rfl)

theorem words_eq_iff (text : List Char) (fields : List (List Char)) :
    words text = fields ↔ Fields text fields := by
  constructor
  · rintro rfl
    exact fields_words text
  · exact Fields.words_eq

/-- Decimal digits, any number of leading zeros among them. -/
structure IsNumeral (digits : List Char) : Prop where
  nonempty : digits ≠ []
  digit : ∀ c ∈ digits, '0' ≤ c ∧ c ≤ '9'

/-- How a number can be written: its digits, with a sign that only negative numbers need. -/
inductive Denotes : List Char → Int → Prop
  | unsigned {digits : List Char} (h : IsNumeral digits) : Denotes digits (decimalValue digits)
  | plus {digits : List Char} (h : IsNumeral digits) : Denotes ('+' :: digits) (decimalValue digits)
  | minus {digits : List Char} (h : IsNumeral digits) :
      Denotes ('-' :: digits) (-(decimalValue digits : Int))

private theorem numeral?_eq_some (digits : List Char) (n : Nat) :
    numeral? digits = some n ↔ IsNumeral digits ∧ decimalValue digits = n := by
  rw [numeral?_eq_some_iff, ← and_assoc]
  exact and_congr_left fun _ => ⟨fun h => ⟨h.1, h.2⟩, fun h => ⟨h.nonempty, h.digit⟩⟩

private theorem not_isNumeral_cons {c : Char} (hc : ¬('0' ≤ c ∧ c ≤ '9')) (rest : List Char) :
    ¬IsNumeral (c :: rest) :=
  fun h => hc (h.digit c List.mem_cons_self)

theorem integer?_eq_some_iff (least most : Int) (text : List Char) (n : Int) :
    integer? least most text = some n ↔ Denotes text n ∧ least ≤ n ∧ n ≤ most := by
  have hbounds : ∀ value : Option Int,
      value.filter (fun n => least ≤ n && n ≤ most) = some n ↔
        value = some n ∧ least ≤ n ∧ n ≤ most := by
    intro value
    rw [Option.filter_eq_some_iff]
    simp
  have hvalue : ∀ (sign : Int → Int) (digits : List Char),
      (Option.map sign do return ((← numeral? digits : Nat) : Int)) = some n ↔
      IsNumeral digits ∧ sign (decimalValue digits) = n := by
    intro sign digits
    simp [Option.bind_eq_some_iff, numeral?_eq_some, and_assoc]
  rw [integer?.eq_def, hbounds]
  apply and_congr_left
  rintro -
  split
  · next rest =>
    rw [hvalue]
    constructor
    · rintro ⟨hdigits, rfl⟩
      exact .minus hdigits
    · intro h
      cases h with
      | unsigned hdigits => exact absurd hdigits (not_isNumeral_cons (by decide) rest)
      | minus hdigits => exact ⟨hdigits, rfl⟩
  · next rest =>
    rw [hvalue]
    constructor
    · rintro ⟨hdigits, rfl⟩
      exact .plus hdigits
    · intro h
      cases h with
      | unsigned hdigits => exact absurd hdigits (not_isNumeral_cons (by decide) rest)
      | plus hdigits => exact ⟨hdigits, rfl⟩
  · next hminus hplus =>
    rw [hvalue]
    constructor
    · rintro ⟨hdigits, rfl⟩
      exact .unsigned hdigits
    · intro h
      cases h with
      | unsigned hdigits => exact ⟨hdigits, rfl⟩
      | plus hdigits => exact absurd rfl (hplus _)
      | minus hdigits => exact absurd rfl (hminus _)

end Text

namespace TaskStatus

theorem word?_eq_some_iff (text : List Char) (word : Int32) :
    word? text = some word ↔ Text.Denotes text word.toInt := by
  rw [word?, Option.map_eq_some_iff]
  constructor
  · rintro ⟨n, hread, rfl⟩
    obtain ⟨hdenotes, hleast, hmost⟩ := (Text.integer?_eq_some_iff _ _ text n).mp hread
    rw [Bounds.leastSigned32] at hleast
    rw [Bounds.mostSigned32] at hmost
    rw [Int32.toInt_ofInt_of_le (by omega) (by omega)]
    exact hdenotes
  · intro hdenotes
    have hleast : Bounds.leastSigned32 ≤ word.toInt := word.le_toInt
    have hmost : word.toInt ≤ Bounds.mostSigned32 := Int.le_of_lt_add_one word.toInt_lt
    exact ⟨word.toInt, (Text.integer?_eq_some_iff _ _ text _).mpr ⟨hdenotes, hleast, hmost⟩,
      Int32.ofInt_toInt word⟩

theorem afterName?_eq_some_iff (text rest : List Char) :
    afterName? text = some rest ↔ ∃ before, text = before ++ ')' :: rest ∧ ')' ∉ rest := by
  constructor
  · intro h
    have hmem : ')' ∈ text.reverse := by
      by_contra hnone
      rw [List.mem_reverse] at hnone
      simp [afterName?, hnone] at h
    obtain ⟨after, before, hreverse, hafter⟩ := List.eq_append_cons_of_mem hmem
    have hafter : ')' ∉ after.reverse := fun hmem => hafter (List.mem_reverse.mp hmem)
    have htext : text = before.reverse ++ ')' :: after.reverse := by
      rw [← text.reverse_reverse, hreverse]
      simp
    rw [htext, afterName?_append hafter] at h
    obtain rfl := Option.some.inj h
    exact ⟨before.reverse, htext, hafter⟩
  · rintro ⟨before, rfl, hrest⟩
    exact afterName?_append hrest before

theorem afterName?_eq_none_iff (text : List Char) : afterName? text = none ↔ ')' ∉ text := by
  rw [afterName?]
  split
  · next h => simp [List.contains_iff_mem.mp h]
  · next h => simpa using h

/-- The line gives the status: after its last closing bracket come at least five fields, the first
of which begins with the state, and the fifth is the number of the terminal. -/
def Gives (line : String) (status : TaskStatus) : Prop :=
  ∃ before rest state parent group session terminal more,
    line.toList = before ++ ')' :: rest ∧ ')' ∉ rest ∧
      Text.Fields rest ((status.state :: state) :: parent :: group :: session :: terminal :: more) ∧
      Text.Denotes terminal status.terminal.toInt

theorem ofLine?_eq_some_iff (line : String) (status : TaskStatus) :
    ofLine? line = some status ↔ Gives line status := by
  rw [ofLine?, Option.bind_eq_bind, Option.bind_eq_some_iff]
  constructor
  · rintro ⟨rest, hrest, hfields⟩
    obtain ⟨before, hline, hlast⟩ := (afterName?_eq_some_iff _ rest).mp hrest
    split at hfields
    · next letter state parent group session terminal more hwords =>
      obtain ⟨word, hword, hstatus⟩ := Option.bind_eq_some_iff.mp hfields
      obtain rfl := Option.some.inj hstatus
      exact ⟨before, rest, state, parent, group, session, terminal, more, hline, hlast,
        (Text.words_eq_iff _ _).mp hwords,
        (word?_eq_some_iff _ _).mp hword⟩
    · cases hfields
  · rintro ⟨before, rest, state, parent, group, session, terminal, more, hline, hlast, hfields,
      hnumber⟩
    refine ⟨rest, (afterName?_eq_some_iff _ rest).mpr ⟨before, hline, hlast⟩, ?_⟩
    simp [(Text.words_eq_iff _ _).mpr hfields, (word?_eq_some_iff _ _).mpr hnumber]

/-- At this offset stands the last byte that is a closing bracket. -/
structure LastBracket (line : String) (offset : Nat) : Prop where
  here : line.toUTF8.toList[offset]? = some 0x29
  last : ∀ later, offset < later → line.toUTF8.toList[later]? ≠ some 0x29

namespace LastBracket

private theorem unique {line : String} {offset other : Nat} (h : LastBracket line offset)
    (h' : LastBracket line other) :
    offset = other := by
  obtain hlt | heq | hlt := Nat.lt_trichotomy offset other
  · exact absurd h'.here (h.last other hlt)
  · exact heq
  · exact absurd h.here (h'.last offset hlt)

private theorem mem_utf8EncodeChar (c : Char) : 0x29 ∈ String.utf8EncodeChar c ↔ c = ')' := by
  have hcode : c = ')' ↔ c.val.toNat = 0x29 := by
    rw [← Char.val_inj, ← UInt32.toNat_inj]
    rfl
  have hbyte : (0x29 : UInt8).toNat = 0x29 := rfl
  rw [hcode, String.utf8EncodeChar]
  split
  · simp only [List.mem_singleton, ← UInt8.toNat_inj, UInt8.toNat_ofNat', hbyte]
    omega
  · next hlong =>
    -- the bytes of a longer character are all above those of ASCII
    refine iff_of_false ?_ (by omega)
    repeat' split
    all_goals
      simp only [List.mem_cons, List.not_mem_nil, or_false, ← UInt8.toNat_inj, UInt8.toNat_ofNat',
        hbyte]
      omega

theorem of_split {line : String} {before rest : List Char}
    (hline : line.toList = before ++ ')' :: rest) (hrest : ')' ∉ rest) :
    LastBracket line (Text.byteCount before) := by
  let bytes (text : List Char) : List UInt8 := text.flatMap String.utf8EncodeChar
  have hbytes : line.toUTF8.toList = bytes before ++ 0x29 :: bytes rest := by
    rw [Text.toList_toUTF8, hline, List.flatMap_append]
    rfl
  have hlength : (bytes before).length = Text.byteCount before :=
    Text.length_flatMap_utf8EncodeChar before
  constructor
  · rw [hbytes, ← hlength, List.getElem?_append_right (Nat.le_refl _), Nat.sub_self]
    rfl
  · intro later hlater hbyte
    obtain ⟨i, rfl⟩ : ∃ i, later = Text.byteCount before + (i + 1) :=
      ⟨later - Text.byteCount before - 1, by omega⟩
    rw [hbytes, ← hlength, List.getElem?_append_right (Nat.le_add_right _ _),
      Nat.add_sub_cancel_left, List.getElem?_cons_succ] at hbyte
    obtain ⟨c, hc, hmem⟩ := List.mem_flatMap.mp (List.mem_of_getElem? hbyte)
    rw [(mem_utf8EncodeChar c).mp hmem] at hc
    exact hrest hc

/-- The last byte that is a bracket belongs to the last character that is one. -/
theorem exists_split {line : String} {offset : Nat} (h : LastBracket line offset) :
    ∃ before rest, line.toList = before ++ ')' :: rest ∧ afterName? line.toList = some rest ∧
      offset = Text.byteCount before := by
  have hmem : ')' ∈ line.toList := by
    have hbyte := List.mem_of_getElem? h.here
    rw [Text.toList_toUTF8] at hbyte
    obtain ⟨c, hc, hmem⟩ := List.mem_flatMap.mp hbyte
    rwa [(mem_utf8EncodeChar c).mp hmem] at hc
  cases hafter : afterName? line.toList with
  | none => exact absurd hmem ((afterName?_eq_none_iff _).mp hafter)
  | some rest =>
    obtain ⟨before, hline, hrest⟩ := (afterName?_eq_some_iff _ rest).mp hafter
    exact ⟨before, rest, hline, rfl, h.unique (of_split hline hrest)⟩

/-- The line can be cut after the bracket: a character begins there, or the line ends. -/
theorem isValid {line : String} {offset : Nat} (h : LastBracket line offset) :
    (⟨offset + 1⟩ : String.Pos.Raw).IsValid line := by
  obtain ⟨before, rest, hline, -, rfl⟩ := h.exists_split
  rw [String.Pos.Raw.isValid_iff_exists_append]
  refine ⟨String.ofList (before ++ [')']), String.ofList rest, ?_, ?_⟩
  · rw [← String.ofList_append, List.append_assoc, List.singleton_append, ← hline,
      String.ofList_toList]
  · rw [String.Pos.Raw.ext_iff, String.byteIdx_rawEndPos, Text.utf8ByteSize_eq,
      String.toList_ofList, Text.byteCount_append]
    rfl

theorem dropBytes?_eq {line : String} {offset : Nat} (h : LastBracket line offset) :
    Text.dropBytes? (offset + 1) line.toList = afterName? line.toList := by
  obtain ⟨before, rest, hline, hafter, rfl⟩ := h.exists_split
  have hcount : Text.byteCount before + 1 = Text.byteCount (before ++ [')']) :=
    (Text.byteCount_append before [')']).symm
  have hcut : line.toList = before ++ [')'] ++ rest := by
    rw [hline, List.append_assoc, List.singleton_append]
  rw [hafter, hcount, hcut, Text.dropBytes?_byteCount]

end LastBracket

private theorem afterName?_eq_none_iff_forall (line : String) :
    afterName? line.toList = none ↔ ∀ offset, ¬LastBracket line offset := by
  constructor
  · intro hnone offset h
    obtain ⟨before, rest, -, hafter, -⟩ := h.exists_split
    rw [hnone] at hafter
    cases hafter
  · intro hnone
    by_contra hsome
    obtain ⟨rest, hafter⟩ := Option.ne_none_iff_exists'.mp hsome
    obtain ⟨before, hline, hrest⟩ := (afterName?_eq_some_iff _ rest).mp hafter
    exact hnone _ (.of_split hline hrest)

private theorem ofLine?_of_tail {tail : String} (htail : ')' ∉ tail.toList) (pid name : String) :
    ofLine? (pid ++ " (" ++ name ++ ")" ++ tail) = ofLine? (")" ++ tail) := by
  have hline : (pid ++ " (" ++ name ++ ")" ++ tail).toList = (pid ++ " (" ++ name).toList ++ ')' ::
      tail.toList := by simp
  have hshort : (")" ++ tail).toList = [] ++ ')' :: tail.toList := by simp
  rw [ofLine?, ofLine?, hline, hshort, afterName?_append htail, afterName?_append htail]

/-- A line gives a status exactly if the fields after its last closing bracket do, and nothing is
read from any other line. Reading never cuts the line inside a character or past its end, and what
stands before the bracket, the name of the process too, does not matter. -/
theorem status_grammar :
    (∀ (line : String) (status : TaskStatus), ofLine? line = some status ↔ Gives line status) ∧
    (∀ line : String, ofLine? line = none ↔ ∀ status, ¬Gives line status) ∧
    (∀ line : String, afterName? line.toList = none ↔ ∀ offset, ¬LastBracket line offset) ∧
    (∀ (line : String) (offset : Nat), LastBracket line offset →
      (⟨offset + 1⟩ : String.Pos.Raw).IsValid line ∧ (afterName? line.toList).isSome ∧
        Text.dropBytes? (offset + 1) line.toList = afterName? line.toList) ∧
    ∀ pid pid' name name' tail : String, ')' ∉ tail.toList →
      ofLine? (pid ++ " (" ++ name ++ ")" ++ tail) =
        ofLine? (pid' ++ " (" ++ name' ++ ")" ++ tail) := by
  refine ⟨ofLine?_eq_some_iff, ?_, afterName?_eq_none_iff_forall, ?_, ?_⟩
  · intro line
    rw [Option.eq_none_iff_forall_ne_some]
    exact forall_congr' fun status => not_congr (ofLine?_eq_some_iff line status)
  · intro line offset h
    obtain ⟨before, rest, -, hafter, -⟩ := h.exists_split
    exact ⟨h.isValid, by rw [hafter]; rfl, h.dropBytes?_eq⟩
  · intro pid pid' name name' tail htail
    rw [ofLine?_of_tail htail, ofLine?_of_tail htail]

/-- A bracket ends the line after a letter of two bytes, and a name with brackets and a blank of
three is as good as any other. -/
theorem status_grammar_of_brackets :
    (⟨6⟩ : String.Pos.Raw).IsValid "1 (é)" ∧ Text.dropBytes? 6 "1 (é)".toList = some [] ∧
      ofLine? ("77" ++ " (" ++ ") Z　(" ++ ")" ++ " S 1 77 77 +034816") = some ⟨'S', 34816⟩ := by
  obtain ⟨-, -, -, hcut, hname⟩ := status_grammar
  have hline : "1 (é)".toList = "1 (é".toList ++ ')' :: [] := by decide
  have hlast : LastBracket "1 (é)" 5 := .of_split hline (by decide)
  obtain ⟨hvalid, -, hdropped⟩ := hcut "1 (é)" 5 hlast
  refine ⟨hvalid, hdropped, ?_⟩
  rw [hname "77" "77" _ "doublefork" " S 1 77 77 +034816" (by decide)]
  rfl

end TaskStatus

end DaemonLaunch
