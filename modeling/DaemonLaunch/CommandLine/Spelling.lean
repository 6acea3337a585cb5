import DaemonLaunch.CommandLine

/-!
How command lines are written. A command line is a sequence of items, each of them an option with
its value or a flag, and every item is spelled by one argument or by two. Reading accepts exactly
the spellings of items that can be added to one another.
-/

namespace DaemonLaunch.CommandLine

/-- One thing that a command line gives. -/
inductive Item
  | option (p : ValueOption) (value : String)
  | flag (f : Flag)
  deriving DecidableEq, Repr

namespace Item

def switch : Item → Switch
  | option p _ => .option p
  | flag f => .flag f

def addTo (o : Options) : Item → Except UsageError Options
  | option p value => o.give p value
  | flag f => o.raise f

end Item

theorem addAll_cons_eq_ok_iff {item : Item} {items : List Item} {o options : Options} :
    (item :: items).foldlM Item.addTo o = .ok options ↔
      ∃ o', item.addTo o = .ok o' ∧ items.foldlM Item.addTo o' = .ok options := by
  rw [List.foldlM_cons]
  cases item.addTo o <;> simp [bind, Except.bind]

/-- The ways to write a switch in an argument, with the value that is attached to it. -/
inductive Switch.Written : Switch → Option String → String → Prop
  | name {name : String} {s : Switch} (hname : (name, s) ∈ Switch.names) :
      Written s none ("--" ++ name)
  | nameEquals {name : String} {s : Switch} (hname : (name, s) ∈ Switch.names) (value : String) :
      Written s (some value) ("--" ++ name ++ "=" ++ value)
  | letter {letter : Char} {p : ValueOption} (hletter : (letter, .option p) ∈ Switch.letters) :
      Written (.option p) none (String.ofList ['-', letter])
  | letterEquals {letter : Char} {p : ValueOption} (hletter : (letter, .option p) ∈ Switch.letters)
      (value : String) :
      Written (.option p) (some value) (String.ofList ['-', letter, '='] ++ value)
  | letterJoined {letter c : Char} {rest : List Char} {p : ValueOption}
      (hletter : (letter, .option p) ∈ Switch.letters)
      (hequals : c ≠ '=') : Written (.option p) (some (String.ofList (c :: rest)))
        (String.ofList ('-' :: letter :: c :: rest))

/-- An argument that is not taken for a switch. -/
def StandsAlone (argument : String) : Prop := ∀ c rest, argument.toList ≠ '-' :: c :: rest

/-- The arguments that spell an item. -/
inductive Item.Spelled : Item → List String → Prop
  | apart {p : ValueOption} {argument value : String}
      (hwritten : Switch.Written (.option p) none argument)
      (halone : StandsAlone value) : Spelled (option p value) [argument, value]
  | attached {p : ValueOption} {argument value : String}
      (hwritten : Switch.Written (.option p) (some value) argument) :
      Spelled (option p value) [argument]
  | raised {f : Flag} {argument : String} (hwritten : Switch.Written (.flag f) none argument) :
      Spelled (flag f) [argument]

/-- The arguments that spell items in their order; two dashes may end them. -/
inductive Spelled : List String → List Item → Prop
  | nil : Spelled [] []
  | ended : Spelled ["--"] []
  | cons {item : Item} {words arguments : List String} {items : List Item}
      (hitem : item.Spelled words)
      (hrest : Spelled arguments items) : Spelled (words ++ arguments) (item :: items)

section Switches

theorem names_spec : ∀ entry ∈ Switch.names,
    entry.1.toList ≠ [] ∧ '=' ∉ entry.1.toList ∧ Switch.names.lookup entry.1 = some entry.2 := by
  decide

theorem letters_spec : ∀ entry ∈ Switch.letters,
    entry.1 ≠ '-' ∧ Switch.letters.lookup entry.1 = some entry.2 := by
  decide

theorem not_flag_of_letter {letter : Char} {f : Flag} :
    (letter, Switch.flag f) ∉ Switch.letters := by
  cases f <;> simp [Switch.letters]

private theorem mem_of_lookup {α : Type} [BEq α] [LawfulBEq α] {key : α} {s : Switch}
    {table : List (α × Switch)}
    (h : table.lookup key = some s) : (key, s) ∈ table := by
  obtain ⟨before, after, rfl, -⟩ := List.lookup_eq_some_iff.mp h
  simp

private def tail : Option String → List Char
  | none => []
  | some value => '=' :: value.toList

private theorem name_append_tail {name : String} {s : Switch} (hname : (name, s) ∈ Switch.names)
    (value? : Option String) :
    (name.toList ++ tail value?).takeWhile (· != '=') = name.toList ∧
      (name.toList ++ tail value?).dropWhile (· != '=') = tail value? := by
  have hplain : ∀ c ∈ name.toList, (c != '=') = true := by
    intro c hc
    exact bne_iff_ne.mpr fun heq => (names_spec _ hname).2.1 (heq ▸ hc)
  rw [List.takeWhile_append_of_pos hplain, List.dropWhile_append_of_pos hplain]
  cases value? <;> simp [tail]

private theorem tail_inj {value? value?' : Option String} (h : tail value? = tail value?') :
    value? = value?' := by
  cases value? <;> cases value?' <;> simp_all [tail, String.toList_inj]

private def letterValue : List Char → Option String
  | [] => none
  | '=' :: value => some (String.ofList value)
  | value => some (String.ofList value)

private theorem Switch.written_iff {s : Switch} {value? : Option String} {argument : String} :
    s.Written value? argument ↔
      (∃ name, (name, s) ∈ Switch.names ∧
      argument.toList = '-' :: '-' :: (name.toList ++ tail value?)) ∨
      ∃ letter p rest, s = .option p ∧ (letter, s) ∈ Switch.letters ∧
        argument.toList = '-' :: letter :: rest ∧
        value? = letterValue rest := by
  constructor
  · intro h
    cases h with
    | @name name _ hname => exact .inl ⟨name, hname, by simp [tail]⟩
    | @nameEquals name _ hname value => exact .inl ⟨name, hname, by simp [tail]⟩
    | @letter letter p hletter =>
      exact .inr ⟨letter, p, [], rfl, hletter, String.toList_ofList, rfl⟩
    | @letterEquals letter p hletter value =>
      exact .inr ⟨letter, p, '=' :: value.toList, rfl, hletter, by simp, by simp [letterValue]⟩
    | @letterJoined letter c rest p hletter hequals =>
      refine .inr ⟨letter, p, c :: rest, rfl, hletter, String.toList_ofList, ?_⟩
      simp [letterValue, hequals]
  · rintro (⟨name, hname, hargument⟩ | ⟨letter, p, rest, rfl, hletter, hargument, rfl⟩)
    · cases value? with
      | none =>
        have hspelling : argument = "--" ++ name := String.toList_inj.mp (by simp [hargument, tail])
        rw [hspelling]
        exact .name hname
      | some value =>
        have hspelling : argument = "--" ++ name ++ "=" ++ value :=
          String.toList_inj.mp (by simp [hargument, tail])
        rw [hspelling]
        exact .nameEquals hname value
    · have hspelling : argument = String.ofList ('-' :: letter :: rest) := by
        rw [← hargument, String.ofList_toList]
      rw [hspelling]
      match rest with
      | [] => exact .letter hletter
      | c :: rest =>
        by_cases hc : c = '='
        · subst hc
          have hvalue : String.ofList ('-' :: letter :: '=' :: rest) =
              String.ofList ['-', letter, '='] ++ String.ofList rest := by
            rw [← String.ofList_append]
            rfl
          rw [hvalue]
          exact .letterEquals hletter _
        · have hvalue : letterValue (c :: rest) = some (String.ofList (c :: rest)) := by
            simp [letterValue, hc]
          rw [hvalue]
          exact .letterJoined hletter hc

theorem Switch.Written.unique {s s' : Switch} {value? value?' : Option String} {argument : String}
    (h : s.Written value? argument) (h' : s'.Written value?' argument) :
    s = s' ∧ value? = value?' := by
  obtain ⟨name, hname, hargument⟩ | ⟨letter, p, rest, -, hletter, hargument, rfl⟩ :=
    Switch.written_iff.mp h <;>
    obtain ⟨name', hname', hargument'⟩ | ⟨letter', p', rest', -, hletter', hargument', rfl⟩ :=
      Switch.written_iff.mp h'
  · have hsame : name.toList ++ tail value? = name'.toList ++ tail value?' := by
      simpa [hargument] using hargument'
    obtain ⟨htaken, hleft⟩ := name_append_tail hname value?
    obtain ⟨htaken', hleft'⟩ := name_append_tail hname' value?'
    rw [hsame] at htaken hleft
    obtain rfl : name = name' := String.toList_inj.mp (htaken.symm.trans htaken')
    have hlookup := (names_spec _ hname).2.2.symm.trans (names_spec _ hname').2.2
    exact ⟨Option.some.inj hlookup, tail_inj (hleft.symm.trans hleft')⟩
  · rw [hargument] at hargument'
    exact absurd (List.cons.inj (List.cons.inj hargument').2).1.symm (letters_spec _ hletter').1
  · rw [hargument] at hargument'
    exact absurd (List.cons.inj (List.cons.inj hargument').2).1 (letters_spec _ hletter).1
  · rw [hargument] at hargument'
    obtain ⟨rfl, rfl⟩ := List.cons.inj (List.cons.inj hargument').2
    have hlookup := (letters_spec _ hletter).2.symm.trans (letters_spec _ hletter').2
    exact ⟨Option.some.inj hlookup, rfl⟩

theorem Switch.Written.ne_dashes {s : Switch} {value? : Option String} {argument : String}
    (h : s.Written value? argument) :
    argument ≠ "--" := by
  rintro rfl
  obtain ⟨name, hname, hdashes⟩ | ⟨letter, p, rest, -, hletter, hdashes, -⟩ :=
    Switch.written_iff.mp h
  · have hempty : name = "" ∧ tail value? = [] := by simpa using hdashes.symm
    exact (names_spec _ hname).1 (by simp [hempty.1])
  · cases hdashes
    exact (letters_spec _ hletter).1 rfl

end Switches

namespace Reading

variable {r r' : Reading} {o : Options} {p : ValueOption} {value argument : String}

theorem asStop_eq_ok_iff {α : Type} {result : Except UsageError α} {a : α} :
    asStop result = .ok a ↔ result = .ok a := by
  cases result <;> simp [asStop]

private theorem switch_option_some :
    r.switch (.option p) (some value) = .ok r' ↔
      ∃ o o', r.settle = .ok o ∧ (Item.option p value).addTo o = .ok o' ∧ r' = { taken := o' } := by
  rw [switch, asStop_eq_ok_iff]
  cases r.settle with
  | error e => simp [bind, Except.bind]
  | ok o => cases hgive : o.give p value <;> simp [bind, Except.bind, pure, Except.pure, Item.addTo,
      hgive, eq_comm (a := r')]

private theorem switch_option_none :
    r.switch (.option p) none = .ok r' ↔ ∃ o,
      r.settle = .ok o ∧ r' = { taken := o, pending := some (p, none) } := by
  rw [switch, asStop_eq_ok_iff]
  cases r.settle <;> simp [bind, Except.bind, pure, Except.pure, eq_comm (a := r')]

private theorem switch_flag {f : Flag} :
    r.switch (.flag f) none = .ok r' ↔
      ∃ o o', r.settle = .ok o ∧ (Item.flag f).addTo o = .ok o' ∧ r' = { taken := o' } := by
  rw [switch, asStop_eq_ok_iff]
  cases r.settle with
  | error e => simp [bind, Except.bind]
  | ok o =>
    cases hraise : o.raise f <;> simp [bind, Except.bind, pure, Except.pure, Item.addTo, hraise,
      eq_comm (a := r')]

private theorem switch_flag_some {f : Flag} : r.switch (.flag f) (some value) ≠ .ok r' := by
  rw [switch]
  · simp
  · rintro o ⟨⟩

private theorem switch_stops {s : Switch} (hs : s = .help ∨ s = .version) (value? : Option String) :
    r.switch s value? ≠ .ok r' := by
  obtain rfl | rfl := hs
  all_goals
    cases value? with
    | some value => simp [switch]
    | none =>
      cases hsettle : r.settle <;> simp [switch, hsettle, asStop, bind, Except.bind, throw,
        throwThe, MonadExceptOf.throw]

private theorem switch_eq_ok {s : Switch} {value? : Option String}
    (h : r.switch s value? = .ok r') :
    (∃ p value o o', s = .option p ∧ value? = some value ∧ r.settle = .ok o ∧
        (Item.option p value).addTo o = .ok o' ∧ r' = { taken := o' }) ∨
      (∃ p o, s = .option p ∧ value? = none ∧ r.settle = .ok o ∧
        r' = { taken := o, pending := some (p, none) }) ∨
      ∃ f o o', s = .flag f ∧ value? = none ∧ r.settle = .ok o ∧ (Item.flag f).addTo o = .ok o' ∧
        r' = { taken := o' } := by
  cases s with
  | option p =>
    cases value? with
    | some value =>
      obtain ⟨o, o', hsettle, hadd, hr'⟩ := switch_option_some.mp h
      exact .inl ⟨p, value, o, o', rfl, rfl, hsettle, hadd, hr'⟩
    | none =>
      obtain ⟨o, hsettle, hr'⟩ := switch_option_none.mp h
      exact .inr (.inl ⟨p, o, rfl, rfl, hsettle, hr'⟩)
  | flag f =>
    cases value? with
    | some value => exact absurd h switch_flag_some
    | none =>
      obtain ⟨o, o', hsettle, hadd, hr'⟩ := switch_flag.mp h
      exact .inr (.inr ⟨f, o, o', rfl, rfl, hsettle, hadd, hr'⟩)
  | help => exact absurd h (switch_stops (.inl rfl) value?)
  | version => exact absurd h (switch_stops (.inr rfl) value?)

private theorem long_name {name : String} {s : Switch} (hname : (name, s) ∈ Switch.names)
    (value? : Option String) :
    r.long (name.toList ++ tail value?) = r.switch s value? := by
  obtain ⟨htaken, hleft⟩ := name_append_tail hname value?
  rw [long, htaken, hleft, String.ofList_toList, (names_spec _ hname).2.2]
  cases value? with
  | none => rfl
  | some value => simp [tail, String.ofList_toList]

private theorem short_letter {letter : Char} (hletter : (letter, .option p) ∈ Switch.letters)
    (rest : List Char) :
    r.short letter rest = r.switch (.option p) (letterValue rest) := by
  simp only [short, (letters_spec _ hletter).2]
  match rest with
  | [] => rfl
  | c :: rest =>
    by_cases hc : c = '='
    · subst hc
      rfl
    · simp [letterValue, hc]

theorem step_of_written {s : Switch} {value? : Option String} (h : s.Written value? argument) :
    r.step argument = r.switch s value? := by
  obtain ⟨name, hname, hargument⟩ | ⟨letter, p, rest, rfl, hletter, hargument, rfl⟩ :=
    Switch.written_iff.mp h
  · simp only [step, hargument]
    exact long_name hname value?
  · have hdash := (letters_spec _ hletter).1
    simp only [step, hargument]
    exact short_letter hletter rest

private theorem written_of_long {text : List Char}
    (hargument : argument.toList = '-' :: '-' :: text) (h : r.long text = .ok r') :
    ∃ s value?, Switch.Written s value? argument ∧ r.switch s value? = .ok r' := by
  have htext := List.takeWhile_append_dropWhile (p := (· != '=')) (l := text)
  rw [long] at h
  split at h
  · cases h
  · next s hlookup =>
    have hname := mem_of_lookup hlookup
    split at h
    · next hnone =>
      refine ⟨s, none, Switch.written_iff.mpr (.inl ⟨_, hname, ?_⟩), h⟩
      rw [hnone] at htext
      simpa [hargument, tail] using htext.symm
    · next c value hsome =>
      have hc : c = '=' := by
        have hhead := List.head?_dropWhile_not (· != '=') text
        simpa [hsome] using hhead
      refine ⟨s, some (String.ofList value), Switch.written_iff.mpr (.inl ⟨_, hname, ?_⟩), h⟩
      rw [hsome, hc] at htext
      simpa [hargument, tail] using htext.symm

private theorem written_of_short {letter : Char} {rest : List Char}
    (hargument : argument.toList = '-' :: letter :: rest) (h : r.short letter rest = .ok r') :
    ∃ s value?, Switch.Written s value? argument ∧ r.switch s value? = .ok r' := by
  have hoption : ∃ p, (letter, .option p) ∈ Switch.letters := by
    rw [short] at h
    split at h
    · cases h
    · next p hlookup => exact ⟨p, mem_of_lookup hlookup⟩
    · next s hoption hlookup =>
      have hmem := mem_of_lookup hlookup
      cases s with
      | option p => exact absurd rfl (hoption p)
      | flag f => exact absurd hmem not_flag_of_letter
      | help => exact absurd h (switch_stops (.inl rfl) none)
      | version => exact absurd h (switch_stops (.inr rfl) none)
  obtain ⟨p, hletter⟩ := hoption
  rw [short_letter hletter] at h
  exact ⟨_, _, Switch.written_iff.mpr (.inr ⟨letter, p, rest, rfl, hletter, hargument, rfl⟩), h⟩

private theorem step_of_alone (halone : StandsAlone argument) :
    r.step argument = asStop (r.word argument) := by
  rw [step]
  split
  · next text hargument => exact absurd hargument (halone '-' text)
  · next letter rest hnot hargument => exact absurd hargument (halone letter rest)
  · rfl

private theorem step_eq_ok (h : r.step argument = .ok r') :
    (∃ s value?, Switch.Written s value? argument ∧ r.switch s value? = .ok r') ∨
      StandsAlone argument ∧ r.word argument = .ok r' := by
  rw [step] at h
  split at h
  · next text hargument => exact .inl (written_of_long hargument h)
  · next letter rest hnot hargument => exact .inl (written_of_short hargument h)
  · next hlong hshort =>
      exact .inr ⟨fun c rest hargument => hshort c rest hargument, asStop_eq_ok_iff.mp h⟩

/-- What a step of reading does: it takes a whole item, opens an option for its value, or gives the
value to an open one. -/
inductive Steps (r : Reading) (argument : String) : Reading → Prop
  | taken {item : Item} {o o' : Options} (hspelled : item.Spelled [argument])
      (hsettle : r.settle = .ok o)
      (hadd : item.addTo o = .ok o') : Steps r argument { taken := o' }
  | opened {p : ValueOption} {o : Options} (hwritten : Switch.Written (.option p) none argument)
      (hsettle : r.settle = .ok o) :
      Steps r argument { taken := o, pending := some (p, none) }
  | valued {p : ValueOption} (hpending : r.pending = some (p, none))
      (halone : StandsAlone argument) :
      Steps r argument { r with pending := some (p, some argument) }

theorem step_eq_ok_iff : r.step argument = .ok r' ↔ r.Steps argument r' := by
  constructor
  · intro h
    obtain ⟨s, value?, hwritten, hswitch⟩ | ⟨halone, hword⟩ := step_eq_ok h
    · obtain ⟨p, value, o, o', rfl, rfl, hsettle, hadd, rfl⟩ | ⟨p, o, rfl, rfl, hsettle, rfl⟩ |
        ⟨f, o, o', rfl, rfl, hsettle, hadd, rfl⟩ := switch_eq_ok hswitch
      · exact .taken (.attached hwritten) hsettle hadd
      · exact .opened hwritten hsettle
      · exact .taken (.raised hwritten) hsettle hadd
    · rw [word] at hword
      split at hword
      · next p hpending =>
        cases hword
        exact .valued hpending halone
      · cases hword
  · intro h
    cases h with
    | taken hspelled hsettle hadd =>
      cases hspelled with
      | attached hwritten =>
        rw [step_of_written hwritten]
        exact switch_option_some.mpr ⟨_, _, hsettle, hadd, rfl⟩
      | raised hwritten =>
        rw [step_of_written hwritten]
        exact switch_flag.mpr ⟨_, _, hsettle, hadd, rfl⟩
    | opened hwritten hsettle =>
      rw [step_of_written hwritten]
      exact switch_option_none.mpr ⟨_, hsettle, rfl⟩
    | valued hpending halone =>
      rw [step_of_alone halone, word, hpending]
      rfl

private theorem settle_of_open (hpending : r.pending = some (p, none)) : r.settle ≠ .ok o := by
  simp [settle, hpending]

end Reading

section Spellings

variable {item item' : Item} {argument value : String} {arguments : List String}
  {items items' : List Item}

theorem spelled_nil_iff : Spelled [] items ↔ items = [] := by
  constructor
  · intro h
    generalize hwords : ([] : List String) = words at h
    cases h with
    | nil => rfl
    | ended => cases hwords
    | cons hitem hrest => cases hitem <;> cases hwords
  · rintro rfl
    exact .nil

theorem spelled_dashes_iff : Spelled ("--" :: arguments) items ↔ arguments = [] ∧ items = [] := by
  constructor
  · intro h
    generalize hwords : "--" :: arguments = words at h
    cases h with
    | nil => cases hwords
    | ended => exact ⟨(List.cons.inj hwords).2, rfl⟩
    | cons hitem hrest =>
      cases hitem with
      | apart hwritten halone => exact absurd (List.cons.inj hwords).1.symm hwritten.ne_dashes
      | attached hwritten => exact absurd (List.cons.inj hwords).1.symm hwritten.ne_dashes
      | raised hwritten => exact absurd (List.cons.inj hwords).1.symm hwritten.ne_dashes
  · rintro ⟨rfl, rfl⟩
    exact .ended

theorem spelled_cons_iff (hplain : argument ≠ "--") :
    Spelled (argument :: arguments) items ↔
      (∃ item items', items = item :: items' ∧ item.Spelled [argument] ∧ Spelled arguments items') ∨
      ∃ p value rest items', items = .option p value :: items' ∧ arguments = value :: rest ∧
        Switch.Written (.option p) none argument ∧ StandsAlone value ∧ Spelled rest items' := by
  constructor
  · intro h
    generalize hwords : argument :: arguments = words at h
    cases h with
    | nil => cases hwords
    | ended => exact absurd (List.cons.inj hwords).1 hplain
    | cons hitem hrest =>
      cases hitem with
      | apart hwritten halone =>
        obtain ⟨rfl, rfl⟩ := List.cons.inj hwords
        exact .inr ⟨_, _, _, _, rfl, rfl, hwritten, halone, hrest⟩
      | attached hwritten =>
        obtain ⟨rfl, rfl⟩ := List.cons.inj hwords
        exact .inl ⟨_, _, rfl, .attached hwritten, hrest⟩
      | raised hwritten =>
        obtain ⟨rfl, rfl⟩ := List.cons.inj hwords
        exact .inl ⟨_, _, rfl, .raised hwritten, hrest⟩
  · rintro (⟨item, items', rfl, hitem, hrest⟩ |
      ⟨p, value, rest, items', rfl, rfl, hwritten, halone, hrest⟩)
    · exact .cons hitem hrest
    · exact .cons (.apart hwritten halone) hrest

private theorem Item.Spelled.unique (h : item.Spelled [argument]) (h' : item'.Spelled [argument]) :
    item = item' := by
  cases h with
  | attached hwritten =>
    cases h' with
    | attached hwritten' =>
      obtain ⟨⟨⟩, ⟨⟩⟩ := hwritten.unique hwritten'
      rfl
    | raised hwritten' => cases (hwritten.unique hwritten').1
  | raised hwritten =>
    cases h' with
    | attached hwritten' => cases (hwritten.unique hwritten').1
    | raised hwritten' =>
      cases (hwritten.unique hwritten').1
      rfl

private theorem Item.Spelled.not_open {p : ValueOption} (h : item.Spelled [argument])
    (hopen : Switch.Written (.option p) none argument) : False := by
  cases h with
  | attached hwritten => cases (hwritten.unique hopen).2
  | raised hwritten => cases (hwritten.unique hopen).1

theorem Spelled.unique (h : Spelled arguments items) (h' : Spelled arguments items') :
    items = items' := by
  -- by the first spelling; how its next item is written tells where the item of the other one ends
  induction h generalizing items' with
  | nil => exact (spelled_nil_iff.mp h').symm
  | ended => exact (spelled_dashes_iff.mp h').2.symm
  | cons hitem hrest ih =>
    cases hitem with
    | apart hwritten halone =>
      obtain ⟨item, items', rfl, hitem', -⟩ |
        ⟨p, value, rest, items', rfl, heq, hwritten', -, hrest'⟩ :=
        (spelled_cons_iff hwritten.ne_dashes).mp h'
      · exact (hitem'.not_open hwritten).elim
      · obtain ⟨rfl, rfl⟩ := List.cons.inj heq
        cases (hwritten.unique hwritten').1
        rw [ih hrest']
    | attached hwritten =>
      obtain ⟨item, items', rfl, hitem', hrest'⟩ |
        ⟨p, value, rest, items', rfl, heq, hwritten', -, hrest'⟩ :=
        (spelled_cons_iff hwritten.ne_dashes).mp h'
      · rw [ih hrest', hitem'.unique (.attached hwritten)]
      · cases (hwritten.unique hwritten').2
    | raised hwritten =>
      obtain ⟨item, items', rfl, hitem', hrest'⟩ |
        ⟨p, value, rest, items', rfl, heq, hwritten', -, hrest'⟩ :=
        (spelled_cons_iff hwritten.ne_dashes).mp h'
      · rw [ih hrest', hitem'.unique (.raised hwritten)]
      · cases (hwritten.unique hwritten').1

end Spellings

namespace Reading

variable {r r' : Reading} {options : Options} {argument : String} {arguments : List String}

/-- Arguments that complete a reading: a value for an option that lacks one, and then items that can
be added to what is taken. -/
def Completes (r : Reading) (arguments : List String) (options : Options) : Prop :=
  match r.pending with
  | some (p, none) =>
    ∃ value rest o items, arguments = value :: rest ∧ StandsAlone value ∧
      r.taken.give p value = .ok o ∧
      Spelled rest items ∧ items.foldlM Item.addTo o = .ok options
  | _ =>
    ∃ o items, r.settle = .ok o ∧ Spelled arguments items ∧ items.foldlM Item.addTo o = .ok options

private theorem completes_iff (h : ∀ p, r.pending ≠ some (p, none)) :
    r.Completes arguments options ↔
      ∃ o items, r.settle = .ok o ∧ Spelled arguments items ∧
        items.foldlM Item.addTo o = .ok options := by
  rw [Completes]
  split
  · next p hpending => exact absurd hpending (h p)
  · rfl

private theorem completes_nil_iff : r.Completes [] options ↔ r.settle = .ok options := by
  rw [Completes]
  split
  · next p hpending => simp [settle, hpending]
  · simp [spelled_nil_iff, pure, Except.pure]

private theorem completes_dashes_iff :
    r.Completes ("--" :: arguments) options ↔ arguments = [] ∧ r.settle = .ok options := by
  rw [Completes]
  split
  · next p hpending =>
    constructor
    · rintro ⟨value, rest, o, items, hcons, halone, -⟩
      obtain ⟨rfl, rfl⟩ := List.cons.inj hcons
      exact absurd rfl (halone '-' [])
    · rintro ⟨-, hsettle⟩
      exact absurd hsettle (settle_of_open hpending)
  · constructor
    · rintro ⟨o, items, hsettle, hspelled, hadd⟩
      obtain ⟨rfl, rfl⟩ := spelled_dashes_iff.mp hspelled
      obtain rfl : o = options := by simpa [pure, Except.pure] using hadd
      exact ⟨rfl, hsettle⟩
    · rintro ⟨rfl, hsettle⟩
      exact ⟨options, [], hsettle, .ended, rfl⟩

private theorem completes_cons_iff (hplain : argument ≠ "--") :
    r.Completes (argument :: arguments) options ↔ ∃ r',
      r.Steps argument r' ∧ r'.Completes arguments options := by
  constructor
  · intro h
    rw [Completes] at h
    split at h
    · next p hpending =>
      obtain ⟨value, rest, o, items, hcons, halone, hgive, hrest⟩ := h
      obtain ⟨rfl, rfl⟩ := List.cons.inj hcons
      exact ⟨_, .valued hpending halone, (completes_iff (by simp)).mpr ⟨o, items, hgive, hrest⟩⟩
    · obtain ⟨o, items, hsettle, hspelled, hadd⟩ := h
      obtain ⟨item, items', rfl, hitem, hrest⟩ |
        ⟨p, value, rest, items', rfl, rfl, hwritten, halone, hrest⟩ :=
        (spelled_cons_iff hplain).mp hspelled
      · obtain ⟨o', hfirst, hothers⟩ := addAll_cons_eq_ok_iff.mp hadd
        exact ⟨_, .taken hitem hsettle hfirst, (completes_iff (by simp)).mpr ⟨o', items', rfl,
          hrest, hothers⟩⟩
      · obtain ⟨o', hfirst, hothers⟩ := addAll_cons_eq_ok_iff.mp hadd
        exact ⟨_, .opened hwritten hsettle, value, rest, o', items', rfl, halone, hfirst, hrest,
          hothers⟩
  · rintro ⟨r', hsteps, hrest⟩
    have hsettled : ∀ {o}, r.settle = .ok o → ∀ p, r.pending ≠ some (p, none) :=
      fun hsettle p hpending => settle_of_open hpending hsettle
    cases hsteps with
    | taken hspelled hsettle hadd =>
      obtain ⟨o, items, hsame, hitems, hothers⟩ := (completes_iff (by simp)).mp hrest
      cases hsame
      exact (completes_iff (hsettled hsettle)).mpr
        ⟨_, _, hsettle, .cons hspelled hitems, addAll_cons_eq_ok_iff.mpr ⟨_, hadd, hothers⟩⟩
    | opened hwritten hsettle =>
      obtain ⟨value, rest, o, items, rfl, halone, hgive, hitems, hothers⟩ := hrest
      exact (completes_iff (hsettled hsettle)).mpr
        ⟨_, _, hsettle, .cons (.apart hwritten halone) hitems,
          addAll_cons_eq_ok_iff.mpr ⟨_, hgive, hothers⟩⟩
    | valued hpending halone =>
      obtain ⟨o, items, hgive, hitems, hothers⟩ := (completes_iff (by simp)).mp hrest
      rw [Completes, hpending]
      exact ⟨_, _, _, _, rfl, halone, hgive, hitems, hothers⟩

/-- Reading succeeds on the arguments that complete it. The induction is on the arguments; an option
and its value are two steps, and in between the reading waits for the value. -/
theorem finish_eq_ok_iff : r.finish arguments = .ok options ↔ r.Completes arguments options := by
  induction arguments generalizing r with
  | nil => rw [finish, asStop_eq_ok_iff, completes_nil_iff]
  | cons argument arguments ih =>
    rw [finish]
    by_cases hdashes : argument = "--"
    · subst hdashes
      rw [completes_dashes_iff]
      cases arguments <;> simp [asStop_eq_ok_iff]
    · rw [completes_cons_iff hdashes]
      simp only [beq_iff_eq, hdashes, if_false, ← step_eq_ok_iff, ← ih]
      cases r.step argument <;> simp [bind, Except.bind]

end Reading

/-- Arguments are accepted just when they spell items that can be added to one another. -/
theorem read_eq_ok_iff {arguments : List String} {options : Options} :
    read arguments = .ok options ↔ ∃ items,
      Spelled arguments items ∧ items.foldlM Item.addTo {} = .ok options := by
  rw [read, Reading.finish_eq_ok_iff, Reading.completes_iff (by simp)]
  simp [Reading.settle]

end DaemonLaunch.CommandLine
