import DaemonLaunch.Json
import DaemonLaunch.Settings.Document

/-!
Documents written as an object of JSON. Every member is read back and gives its field, or it is
passed over, and the document gives what its members give.
-/

namespace DaemonLaunch.Json

open Settings (Field Draft QuoteStyle Scalar Document Blanks Layout)
open Settings.Document (jsonMember jsonRest jsonMembers)

variable (style : QuoteStyle) (layout : Layout)

private theorem readQuotedFrom_quoteChar (c : Char) {rest more left : List Char}
    (h : readQuotedFrom 0 rest = .ok (more, left)) :
    readQuotedFrom 0 (style.quoteChar c ++ rest) = .ok (c :: more, left) := by
  obtain ⟨hmark, heq⟩ | ⟨a, b, high, low, ha, hb, hvalue, hsmall, heq⟩ |
    ⟨hquote, hbackslash, hcontrol, heq⟩ :=
    style.quoteChar_cases c
  · rw [heq]
    exact readQuotedFrom_escaped hmark h
  · have hread := readQuotedFrom_code ha hb (by omega) h
    rw [Nat.mul_comm high, hvalue, Char.ofNat_toNat] at hread
    rw [heq]
    exact hread
  · rw [heq]
    exact readQuotedFrom_plain hquote hbackslash (fun hlow => hcontrol (.inl hlow)) h

private theorem readQuoted_quote (s : String) (left : List Char) :
    readQuoted (s.toList.flatMap style.quoteChar ++ '"' :: left) = .ok (s, left) := by
  have hread : ∀ chars, readQuotedFrom 0 (chars.flatMap style.quoteChar ++ '"' :: left) =
      .ok (chars, left) := by
    intro chars
    induction chars with
    | nil => exact readQuotedFrom_mark
    | cons c chars ih =>
      rw [List.flatMap_cons, List.append_assoc]
      exact readQuotedFrom_quoteChar style c ih
  simp [readQuoted, hread, bind, Except.bind, pure, Except.pure]

private theorem isSpace_of_blank {blanks : Blanks} {c : Char} (hc : c ∈ blanks.text) :
    isSpace c = true := by
  obtain rfl | rfl | rfl | rfl := blanks.blank c hc <;> decide

private theorem skipSpace_blanks (blanks : Blanks) (rest : List Char) :
    skipSpace (blanks.text ++ rest) = skipSpace rest := by
  rw [skipSpace, List.dropWhile_append_of_pos fun c hc => isSpace_of_blank hc, skipSpace]

private theorem skipSpace_only_blanks (blanks : Blanks) : skipSpace blanks.text = [] := by
  simpa [skipSpace] using skipSpace_blanks blanks []

private theorem skipSpace_written (scalar : Scalar) (rest : List Char) :
    skipSpace (scalar.written style ++ rest) = scalar.written style ++ rest := by
  obtain ⟨c, more, hcons, hspace, htab, hline, hreturn⟩ := scalar.exists_written_cons style
  simp [skipSpace, hcons, isSpace, hspace, htab, hline, hreturn]

section Values

variable {scalar : Scalar} {text rest : List Char} (hrest : EndsNumber rest)

include hrest in
theorem readValue_written (hrange : scalar.InRange) :
    readValue (scalar.written style ++ rest) = .ok (scalar.value, rest) := by
  cases scalar with
  | integer n => exact readValue_integer hrange.1 hrange.2 hrest
  | boolean b => exact readValue_boolean b
  | text s =>
    rw [Scalar.written, QuoteStyle.quote, List.append_assoc]
    exact readValue_quoted (readQuoted_quote style s rest)

include hrest in
private theorem passValue_written (hstart : skipSpace text = scalar.written style ++ rest) :
    passValue text = .ok rest := by
  cases scalar with
  | integer n => exact passValue_integer hstart hrest
  | boolean b => exact passValue_boolean hstart
  | text s =>
    rw [Scalar.written, QuoteStyle.quote, List.append_assoc] at hstart
    exact passValue_quoted hstart (readQuoted_quote style s rest)

end Values

section Members

variable {member : Document.Member} {draft : Draft} {rest : List Char}

private def memberTail (member : Document.Member) (rest : List Char) : List Char :=
  member.key.toList.flatMap style.quoteChar ++ '"' ::
    (layout.beforeColon.text ++ ':' :: (layout.afterColon.text ++
    (member.scalar.written style ++ rest)))

private theorem jsonMember_append (member : Document.Member) (rest : List Char) :
    jsonMember style layout member ++ rest = '"' :: memberTail style layout member rest := by
  simp [jsonMember, QuoteStyle.quote, memberTail]

private theorem readMember_written (hown : member.HasOwnKey) (hrange : member.scalar.InRange)
    (hrest : EndsNumber rest) (hfresh : ∀ field, draft.has field = true → field.key ≠ member.key) :
    readMember draft (memberTail style layout member rest) = .ok (member.applyTo draft, rest) := by
  have hkey := readQuoted_quote style member.key
    (layout.beforeColon.text ++ ':' ::
      (layout.afterColon.text ++ (member.scalar.written style ++ rest)))
  have hcolon : skipSpace (layout.beforeColon.text ++ ':' ::
      (layout.afterColon.text ++ (member.scalar.written style ++ rest))) =
      ':' :: (layout.afterColon.text ++ (member.scalar.written style ++ rest)) :=
        skipSpace_blanks _ _
  have hstart : skipSpace (layout.afterColon.text ++ (member.scalar.written style ++ rest)) =
      member.scalar.written style ++ rest := by
    rw [skipSpace_blanks, skipSpace_written]
  obtain ⟨field, hfield, hassign⟩ | ⟨hother, hsame⟩ := Document.Member.assign_eq_ok hown draft
  · have hopen : draft.has field = false :=
      Bool.eq_false_iff.mpr fun hgiven => hfresh field hgiven (Field.key_of_ofKey? hfield)
    refine readMember_field hkey hfield hopen hcolon ?_ hassign
    rw [hstart]
    exact readValue_written style hrest hrange
  · rw [hsame]
    exact readMember_other hkey hother hcolon (passValue_written style hrest hstart)

private theorem endsNumber_blanks (blanks : Blanks) {c : Char} (hc : c = ',' ∨ c = '}')
    (rest : List Char) :
    EndsNumber (blanks.text ++ c :: rest) := by
  have hends : ∀ d : Char, d = ' ' ∨ d = '\n' ∨ d = '\t' ∨ d = '\r' ∨ d = ',' ∨ d = '}' →
      d.isDigit = false ∧ d ≠ '.' ∧ d ≠ 'e' ∧ d ≠ 'E' := by
    rintro d (rfl | rfl | rfl | rfl | rfl | rfl) <;> decide
  intro d more heq
  refine hends d ?_
  match hblanks : blanks.text with
  | [] =>
    rw [hblanks] at heq
    obtain ⟨rfl, -⟩ := List.cons.inj heq
    simp [hc]
  | x :: xs =>
    rw [hblanks] at heq
    obtain ⟨rfl, -⟩ := List.cons.inj heq
    have hblank := blanks.blank x (by simp [hblanks])
    grind

private theorem endsNumber_jsonRest (members : List Document.Member) :
    EndsNumber (jsonRest style layout members) := by
  cases members with
  | nil => exact endsNumber_blanks _ (.inr rfl) _
  | cons member members =>
    simp only [jsonRest, List.append_assoc, List.cons_append]
    exact endsNumber_blanks _ (.inl rfl) _

private theorem length_lt_jsonRest (members : List Document.Member) :
    members.length < (jsonRest style layout members).length := by
  induction members with
  | nil =>
    simp only [jsonRest, List.length_append, List.length_cons, List.length_nil]
    omega
  | cons member members ih =>
    simp only [jsonRest, List.length_append, List.length_cons]
    omega

private theorem fresh_applyTo {keys : List String} (hkey : member.key ∉ keys)
    (hfresh : ∀ field, draft.has field = true → field.key ∉ keys) (field : Field)
    (hgiven : (member.applyTo draft).has field = true) : field.key ∉ keys := by
  obtain hbefore | hsame := Document.Member.key_of_has_applyTo hgiven
  · exact hfresh field hbefore
  · rw [hsame]
    exact hkey

private theorem readMembers_jsonRest {members : List Document.Member}
    (hown : ∀ member ∈ members, member.HasOwnKey)
    (hrange : ∀ member ∈ members, member.scalar.InRange)
    (hnodup : (members.map Document.Member.key).Nodup) {draft : Draft}
    (hfresh : ∀ field, draft.has field = true → field.key ∉ members.map Document.Member.key)
    {fuel : Nat} (hfuel : members.length < fuel) :
    readMembers fuel draft (jsonRest style layout members) =
      .ok (members.foldl Document.Member.applyTo draft, layout.outside.text) := by
  -- by the members: the draft has no field of a member to come, so every one of them finds its
  -- field open
  induction members generalizing draft fuel with
  | nil =>
    obtain ⟨fuel, rfl⟩ : ∃ left, fuel = left + 1 := ⟨fuel - 1, by omega⟩
    have hend : skipSpace (jsonRest style layout []) = '}' :: layout.outside.text :=
      skipSpace_blanks _ _
    simp [readMembers, hend]
  | cons member members ih =>
    obtain ⟨fuel, rfl⟩ : ∃ left, fuel = left + 1 := ⟨fuel - 1, by omega⟩
    rw [List.map_cons, List.nodup_cons] at hnodup
    have hcomma : skipSpace (jsonRest style layout (member :: members)) =
        ',' :: (layout.afterComma.text ++ '"' ::
          memberTail style layout member (jsonRest style layout members)) := by
      rw [← jsonMember_append, jsonRest, List.append_assoc, List.append_assoc, skipSpace_blanks]
      rfl
    have hquote : skipSpace (layout.afterComma.text ++ '"' ::
        memberTail style layout member (jsonRest style layout members)) =
        '"' :: memberTail style layout member (jsonRest style layout members) :=
          skipSpace_blanks _ _
    have hmember : readMember draft
        (memberTail style layout member (jsonRest style layout members)) =
        .ok (member.applyTo draft, jsonRest style layout members) := by
      refine readMember_written style layout (hown member (by simp)) (hrange member (by simp))
        (endsNumber_jsonRest style layout members) ?_
      intro field hgiven heq
      exact hfresh field hgiven (by simp [heq])
    have hrest :=
      ih (fun other hother => hown other (by simp [hother])) (fun other hother =>
        hrange other (by simp [hother]))
      hnodup.2 (fresh_applyTo hnodup.1 fun field hgiven hmem =>
        hfresh field hgiven (by simp [hmem]))
      (Nat.lt_of_succ_lt_succ hfuel)
    simp [readMembers, hcomma, hquote, hmember, hrest, bind, Except.bind]

private theorem readObject_jsonMembers {members : List Document.Member}
    (hown : ∀ member ∈ members, member.HasOwnKey)
    (hrange : ∀ member ∈ members, member.scalar.InRange)
    (hnodup : (members.map Document.Member.key).Nodup) :
    readObject (layout.afterOpening.text ++ jsonMembers style layout members) =
      .ok (members.foldl Document.Member.applyTo {}, layout.outside.text) := by
  cases members with
  | nil =>
    have hend : skipSpace (layout.afterOpening.text ++ '}' :: layout.outside.text) =
        '}' :: layout.outside.text :=
      skipSpace_blanks _ _
    simp [readObject, jsonMembers, hend]
  | cons member members =>
    rw [List.map_cons, List.nodup_cons] at hnodup
    have hquote : skipSpace (layout.afterOpening.text ++
        jsonMembers style layout (member :: members)) =
        '"' :: memberTail style layout member (jsonRest style layout members) := by
      rw [jsonMembers, jsonMember_append, skipSpace_blanks]
      rfl
    have hnothing : ∀ field, ¬({} : Draft).has field = true := by
      intro field
      cases field <;> simp [Draft.has]
    have hmember : readMember {} (memberTail style layout member (jsonRest style layout members)) =
        .ok (member.applyTo {}, jsonRest style layout members) :=
      readMember_written style layout (hown member (by simp)) (hrange member (by simp))
        (endsNumber_jsonRest style layout members)
        fun field hgiven => absurd hgiven (hnothing field)
    have hrest :=
      readMembers_jsonRest style layout (fun other hother => hown other (by simp [hother]))
      (fun other hother => hrange other (by simp [hother])) hnodup.2
      (fresh_applyTo hnodup.1 fun field hgiven => absurd hgiven (hnothing field))
      (Nat.lt_succ_of_lt (length_lt_jsonRest style layout members))
    simp [readObject, hquote, hmember, hrest, bind, Except.bind]

end Members

/-- A document that is written in JSON gives what its members give. -/
theorem draftOf_json (d : Document) :
    draftOf (String.ofList (d.json style layout)) = .ok d.draft := by
  have hbrace : skipSpace (d.json style layout) =
      '{' :: (layout.afterOpening.text ++ jsonMembers style layout d.members) := by
    rw [Document.json, skipSpace_blanks]
    rfl
  have hread : readDocument (d.json style layout) = .ok d.draft := by
    simp [readDocument, hbrace, readObject_jsonMembers style layout d.hasOwnKey d.inRange
      d.nodup_keys, skipSpace_only_blanks, Document.draft, bind, Except.bind, pure, Except.pure]
  rw [draftOf, String.toList_ofList, hread]

end DaemonLaunch.Json
