import DaemonLaunch.Settings.Document
import DaemonLaunch.Toml

/-!
Documents written as lines of TOML. Every line is read back as the key and the value of its member,
and the document gives what its members give.
-/

namespace DaemonLaunch.Toml

open Settings (Value Field Draft QuoteStyle Scalar Document)

variable (style : QuoteStyle)

private theorem readLineFrom_quoteChar (c : Char) {rest more left : List Char}
    (h : readLineFrom '"' 0 rest = some (more, left)) :
    readLineFrom '"' 0 (style.quoteChar c ++ rest) = some (c :: more, left) := by
  obtain ⟨hmark, heq⟩ | ⟨a, b, high, low, ha, hb, hvalue, -, heq⟩ |
    ⟨hquote, hbackslash, hcontrol, heq⟩ :=
    style.quoteChar_cases c
  · rw [heq]
    exact readLineFrom_escaped hmark h
  · have hread := readLineFrom_code ha hb (by rw [hvalue]; exact c.valid) h
    rw [hvalue, Char.ofNat_toNat] at hread
    rw [heq]
    exact hread
  · have hplain : isPlain c = true := by
      simp only [isPlain, Bool.or_eq_true, Bool.and_eq_true, decide_eq_true_eq]
      omega
    rw [heq]
    exact readLineFrom_plain hquote hbackslash hplain h

private theorem readLineFrom_quote (chars left : List Char) :
    readLineFrom '"' 0 (chars.flatMap style.quoteChar ++ '"' :: left) = some (chars, left) := by
  induction chars with
  | nil => exact readLineFrom_mark
  | cons c chars ih =>
    rw [List.flatMap_cons, List.append_assoc]
    exact readLineFrom_quoteChar style c ih

private theorem quoteChar_ne_quote (c : Char) (rest more : List Char) :
    style.quoteChar c ++ rest ≠ '"' :: more := by
  obtain ⟨-, heq⟩ | ⟨a, b, high, low, -, -, -, -, heq⟩ | ⟨hquote, -, -, heq⟩ :=
    style.quoteChar_cases c
  all_goals
    rw [heq]
    simp_all

private theorem readQuoted_quote (s : String) (left : List Char) :
    readQuoted (style.quote s ++ '\n' :: left) = some (s, '\n' :: left) := by
  have hread := readLineFrom_quote style s.toList ('\n' :: left)
  -- two quotes after the first one would open a text of several lines
  have hline : ∀ more, s.toList.flatMap style.quoteChar ++ '"' :: '\n' :: left ≠
      '"' :: '"' :: more := by
    intro more
    cases s.toList with
    | nil => simp
    | cons c chars =>
      rw [List.flatMap_cons, List.append_assoc]
      exact quoteChar_ne_quote style c _ _
  simpa [QuoteStyle.quote] using readQuoted_line hline hread

theorem readValue_written {scalar : Scalar} (hrange : scalar.InRange) (depth : Nat)
    (left : List Char) :
    readValue depth (scalar.written style ++ '\n' :: left) = some (scalar.value, '\n' :: left) := by
  cases scalar with
  | integer n =>
    have hread := readNumber_ofInt hrange.1 hrange.2 left
    obtain ⟨c, more, hcons⟩ := List.exists_cons_of_ne_nil (Text.ofInt_ne_nil n)
    have hc : c = '-' ∨ c.isDigit = true := Text.mem_ofInt (n := n) (by simp [hcons])
    rw [Scalar.written, hcons, List.cons_append,
      readValue_number depth hc, ← List.cons_append, ← hcons]
    exact hread
  | boolean b => exact readValue_boolean depth b
  | text s => exact readValue_quoted depth (readQuoted_quote style s left)

private theorem skipSpace_written (scalar : Scalar) (left : List Char) :
    skipSpace (scalar.written style ++ left) = scalar.written style ++ left := by
  obtain ⟨c, rest, hcons, hspace, htab, -, -⟩ := scalar.exists_written_cons style
  simp [skipSpace, hcons, isSpace, hspace, htab]

private theorem isBare_of_isBare {key : String} (h : Document.Member.IsBare key) :
    ∀ c ∈ key.toList, isBare c = true := by
  intro c hc
  have hbare : (c.isAlphanum || c == '_') = true := List.all_eq_true.mp h.2 c hc
  rw [isBare, hbare, Bool.true_or]

private theorem readLines_members {members : List Document.Member}
    (hown : ∀ member ∈ members, member.HasOwnKey)
    (hrange : ∀ member ∈ members, member.scalar.InRange) {c : Contents}
    {pairs : List (String × Value)}
    (hholds : c.Holds pairs) (hnew : (pairs.map Prod.fst ++ members.map Document.Member.key).Nodup)
    {fuel : Nat} (hfuel : members.length < fuel) :
    ∃ c', readLines fuel c (members.flatMap (Document.Member.toml style)) = some c' ∧
      c'.Holds (pairs ++ members.map fun member => (member.key, member.scalar.value)) := by
  -- by the members: none of the keys to come is among those of the lines that have been read
  induction members generalizing c pairs fuel with
  | nil =>
    obtain ⟨fuel, rfl⟩ := Nat.exists_eq_add_of_lt hfuel
    refine ⟨c, ?_, by simpa using hholds⟩
    simp [readLines, skipSpace]
  | cons member members ih =>
    obtain ⟨fuel, rfl⟩ : ∃ left, fuel = left + 1 := ⟨fuel - 1, by omega⟩
    have hbare := Document.Member.isBare_key (hown member (by simp))
    have hfresh : member.key ∉ pairs.map Prod.fst := by
      intro hmem
      exact (List.nodup_append.mp hnew).2.2 _ hmem member.key (by simp) rfl
    obtain ⟨c', hpair, hholds'⟩ := readPair_bare hbare.1 (isBare_of_isBare hbare) hholds hfresh
      (skipSpace_written style member.scalar _)
      (readValue_written style (hrange member (by simp)) (nestingLimit - 1)
        (members.flatMap (Document.Member.toml style)))
    have hline : (member :: members).flatMap (Document.Member.toml style) =
        member.key.toList ++ " = ".toList ++
        (member.scalar.written style ++ '\n' :: members.flatMap (Document.Member.toml style)) := by
      simp [Document.Member.toml]
    obtain ⟨final, hrest, hfinal⟩ := ih (fun other hother => hown other (by simp [hother]))
      (fun other hother => hrange other (by simp [hother])) hholds' (by simpa using hnew)
        (by simpa using hfuel)
    refine ⟨final, ?_, by simpa using hfinal⟩
    rw [hline, List.append_assoc,
      readLines_bare hbare.1 (isBare_of_isBare hbare), ← List.append_assoc, hpair]
    exact hrest

private theorem assignEntries_members {members : List Document.Member}
    (hown : ∀ member ∈ members, member.HasOwnKey)
    {entries : List Entry} (hentries : entries.map (fun entry => (entry.key, entry.value)) =
      members.map fun member =>
        (member.key, member.scalar.value)) (text : List Char) (draft : Draft) :
    assignEntries text draft entries = .ok (members.foldl Document.Member.applyTo draft) := by
  induction members generalizing entries draft with
  | nil =>
    rw [List.map_nil, List.map_eq_nil_iff] at hentries
    rw [hentries]
    rfl
  | cons member members ih =>
    obtain ⟨entry, others, rfl, hentry, hothers⟩ := List.map_eq_cons_iff.mp hentries
    obtain ⟨hkey, hvalue⟩ := Prod.mk.inj hentry
    have hnext :=
      ih (fun other hother => hown other (by simp [hother])) hothers (member.applyTo draft)
    obtain ⟨field, hfield, hassign⟩ | ⟨hother, hsame⟩ :=
      Document.Member.assign_eq_ok (hown member (by simp)) draft
    · simpa [assignEntries, hkey, hvalue, hfield, hassign] using hnext
    · simpa [assignEntries, hkey, hother, hsame] using hnext

private theorem length_le_toml (members : List Document.Member) :
    members.length ≤ (members.flatMap (Document.Member.toml style)).length := by
  induction members with
  | nil => simp
  | cons member members ih =>
    simp only [List.flatMap_cons, Document.Member.toml, List.length_append, List.length_cons,
      List.length_nil]
    omega

/-- A document that is written in TOML gives what its members give. -/
theorem draftOf_toml (d : Document) : draftOf (String.ofList (d.toml style)) = .ok d.draft := by
  -- a byte order mark would be dropped, but the first character belongs to a key
  have hmark : ∀ rest, d.toml style ≠ '\ufeff' :: rest := by
    intro rest
    rw [Document.toml]
    match hmembers : d.members with
    | [] => simp
    | member :: members =>
      have hbare := Document.Member.isBare_key (d.hasOwnKey member (by simp [hmembers]))
      obtain ⟨c, more, hcons⟩ :=
        List.exists_cons_of_ne_nil (show member.key.toList ≠ [] by simpa using hbare.1)
      have hc : isBare c = true := isBare_of_isBare hbare c (by simp [hcons])
      rw [List.flatMap_cons, Document.Member.toml, hcons]
      rintro ⟨⟩
      exact absurd hc (by decide)
  obtain ⟨c, hread, hholds⟩ :=
    readLines_members style d.hasOwnKey d.inRange Contents.holds_nil (by simpa using d.nodup_keys)
    (Nat.lt_succ_of_le (length_le_toml style d.members))
  rw [draftOf, String.toList_ofList, readDocument_lines hmark, Document.toml, hread]
  exact assignEntries_members d.hasOwnKey hholds.entries _ {}

end DaemonLaunch.Toml
