import DaemonLaunch.Activity.Script
import DaemonLaunch.CommandLine.Spelling
import DaemonLaunch.Proofs.FormatAgreement
import DaemonLaunch.Proofs.Preparing

/-!
What the options make of the settings. Items come to the same options in any order, and settings
take each field from the option for it, else from the settings file, and else from the defaults.
-/

namespace DaemonLaunch

namespace CommandLine

/-- A value that its option takes: a path that is not empty, or a number of seconds. -/
def Item.Sound : Item → Prop
  | .option .settingsFile value | .option .logFile value => value ≠ ""
  | .option .sleepSeconds value => ∃ n, Text.natural? Bounds.mostUnsigned64 value.toList = some n
  | .option .logFilter _ | .flag _ => True

/-- The options hold what the items give and nothing else. -/
structure Gives (items : List Item) (o : Options) : Prop where
  settingsFile : ∀ path, o.settingsFile = some path ↔ .option .settingsFile path ∈ items
  sleepSeconds : ∀ n, o.sleepSeconds = some n ↔
    ∃ text, .option .sleepSeconds text ∈ items ∧
      Text.natural? Bounds.mostUnsigned64 text.toList = some n
  logFilter : ∀ filter, o.logFilter = some filter ↔ .option .logFilter filter ∈ items
  logFile : ∀ path, o.logFile = some path ↔ .option .logFile path ∈ items
  keepStreams : o.keepStreams = true ↔ .flag .keepStreams ∈ items
  enterRoot : o.enterRoot = true ↔ .flag .enterRoot ∈ items

/-- The items can be added to one another, and come to the options. -/
structure Collected (items : List Item) (o : Options) : Prop where
  once : (items.map Item.switch).Nodup
  sound : ∀ item ∈ items, item.Sound
  gives : Gives items o

variable {items before : List Item} {item : Item} {o o' : Options}

private theorem mem_switches_option {p : ValueOption} :
    Switch.option p ∈ items.map Item.switch ↔ ∃ value, Item.option p value ∈ items := by
  constructor
  · intro h
    obtain ⟨item, hmem, hswitch⟩ := List.mem_map.mp h
    cases item with
    | option p' value =>
      cases hswitch
      exact ⟨value, hmem⟩
    | flag f => cases hswitch
  · rintro ⟨value, hmem⟩
    exact List.mem_map.mpr ⟨_, hmem, rfl⟩

private theorem mem_switches_flag {f : Flag} :
    Switch.flag f ∈ items.map Item.switch ↔ Item.flag f ∈ items := by
  constructor
  · intro h
    obtain ⟨item, hmem, hswitch⟩ := List.mem_map.mp h
    cases item with
    | option p' value => cases hswitch
    | flag f =>
      cases hswitch
      exact hmem
  · exact fun hmem => List.mem_map.mpr ⟨_, hmem, rfl⟩

theorem Gives.unique (h : Gives items o) (h' : Gives items o') : o = o' := by
  cases o
  cases o'
  simp only [Options.mk.injEq]
  refine ⟨?_, ?_, ?_, ?_, ?_, ?_⟩
  · exact Option.ext fun path => (h.settingsFile path).trans (h'.settingsFile path).symm
  · exact Option.ext fun n => (h.sleepSeconds n).trans (h'.sleepSeconds n).symm
  · exact Bool.eq_iff_iff.mpr (h.keepStreams.trans h'.keepStreams.symm)
  · exact Bool.eq_iff_iff.mpr (h.enterRoot.trans h'.enterRoot.symm)
  · exact Option.ext fun filter => (h.logFilter filter).trans (h'.logFilter filter).symm
  · exact Option.ext fun path => (h.logFile path).trans (h'.logFile path).symm

private theorem sound_of_addTo (hadd : item.addTo o = .ok o') : item.Sound := by
  match item with
  | .option .settingsFile value => exact (Options.give_settingsFile.mp hadd).2.1
  | .option .sleepSeconds value =>
    obtain ⟨-, n, hread, -⟩ := Options.give_sleepSeconds.mp hadd
    exact ⟨n, hread⟩
  | .option .logFile value => exact (Options.give_logFile.mp hadd).2.1
  | .option .logFilter value => trivial
  | .flag f => trivial

private theorem Collected.fresh (h : Collected before o) (hadd : item.addTo o = .ok o') :
    item.switch ∉ before.map Item.switch := by
  match item with
  | .option .settingsFile value =>
    rw [Item.switch, mem_switches_option]
    rintro ⟨other, hmem⟩
    simpa [(Options.give_settingsFile.mp hadd).1] using (h.gives.settingsFile other).mpr hmem
  | .option .sleepSeconds value =>
    rw [Item.switch, mem_switches_option]
    rintro ⟨other, hmem⟩
    obtain ⟨n, hread⟩ := h.sound _ hmem
    simpa [(Options.give_sleepSeconds.mp hadd).1] using (h.gives.sleepSeconds n).mpr ⟨other, hmem,
      hread⟩
  | .option .logFilter value =>
    rw [Item.switch, mem_switches_option]
    rintro ⟨other, hmem⟩
    simpa [(Options.give_logFilter.mp hadd).1] using (h.gives.logFilter other).mpr hmem
  | .option .logFile value =>
    rw [Item.switch, mem_switches_option]
    rintro ⟨other, hmem⟩
    simpa [(Options.give_logFile.mp hadd).1] using (h.gives.logFile other).mpr hmem
  | .flag .keepStreams =>
    rw [Item.switch, mem_switches_flag, ← h.gives.keepStreams,
      (Options.raise_keepStreams.mp hadd).1]
    exact Bool.false_ne_true
  | .flag .enterRoot =>
    rw [Item.switch, mem_switches_flag, ← h.gives.enterRoot, (Options.raise_enterRoot.mp hadd).1]
    exact Bool.false_ne_true

private theorem Gives.add (h : Gives before o) (hadd : item.addTo o = .ok o') :
    Gives (before ++ [item]) o' := by
  match item with
  | .option .settingsFile value =>
    obtain ⟨hnone, -, rfl⟩ := Options.give_settingsFile.mp hadd
    have hopen : ∀ path, .option .settingsFile path ∉ before := by simp [← h.settingsFile, hnone]
    constructor <;> simp [hopen, h.sleepSeconds, h.logFilter, h.logFile, h.keepStreams, h.enterRoot,
      eq_comm]
  | .option .sleepSeconds value =>
    obtain ⟨hnone, n, hread, rfl⟩ := Options.give_sleepSeconds.mp hadd
    have hopen : ∀ n text, .option .sleepSeconds text ∈ before →
        Text.natural? Bounds.mostUnsigned64 text.toList ≠ some n := by
      intro n text hmem hn
      simpa [hnone] using (h.sleepSeconds n).mpr ⟨text, hmem, hn⟩
    constructor
    case sleepSeconds =>
      intro n'
      constructor
      · rintro ⟨⟩
        exact ⟨value, by simp, hread⟩
      · rintro ⟨text, hmem, hn⟩
        obtain hbefore | hlast := List.mem_append.mp hmem
        · exact absurd hn (hopen n' text hbefore)
        · cases List.mem_singleton.mp hlast
          exact hread.symm.trans hn
    all_goals simp [h.settingsFile, h.logFilter, h.logFile, h.keepStreams, h.enterRoot]
  | .option .logFilter value =>
    obtain ⟨hnone, rfl⟩ := Options.give_logFilter.mp hadd
    have hopen : ∀ filter, .option .logFilter filter ∉ before := by simp [← h.logFilter, hnone]
    constructor <;> simp [hopen, h.settingsFile, h.sleepSeconds, h.logFile, h.keepStreams,
      h.enterRoot, eq_comm]
  | .option .logFile value =>
    obtain ⟨hnone, -, rfl⟩ := Options.give_logFile.mp hadd
    have hopen : ∀ path, .option .logFile path ∉ before := by simp [← h.logFile, hnone]
    constructor <;> simp [hopen, h.settingsFile, h.sleepSeconds, h.logFilter, h.keepStreams,
      h.enterRoot, eq_comm]
  | .flag .keepStreams =>
    obtain ⟨-, rfl⟩ := Options.raise_keepStreams.mp hadd
    constructor <;> simp [h.settingsFile, h.sleepSeconds, h.logFilter, h.logFile, h.enterRoot]
  | .flag .enterRoot =>
    obtain ⟨-, rfl⟩ := Options.raise_enterRoot.mp hadd
    constructor <;> simp [h.settingsFile, h.sleepSeconds, h.logFilter, h.logFile, h.keepStreams]

private theorem Gives.exists_add (h : Gives before o)
    (hfresh : item.switch ∉ before.map Item.switch) (hsound : item.Sound) :
    ∃ o', item.addTo o = .ok o' := by
  match item with
  | .option .settingsFile value =>
    have hnone : o.settingsFile = none := Option.eq_none_iff_forall_ne_some.mpr fun path hpath =>
      hfresh (mem_switches_option.mpr ⟨path, (h.settingsFile path).mp hpath⟩)
    exact ⟨_, Options.give_settingsFile.mpr ⟨hnone, hsound, rfl⟩⟩
  | .option .sleepSeconds value =>
    have hnone : o.sleepSeconds = none := by
      refine Option.eq_none_iff_forall_ne_some.mpr fun n hn => hfresh (mem_switches_option.mpr ?_)
      obtain ⟨text, hmem, -⟩ := (h.sleepSeconds n).mp hn
      exact ⟨text, hmem⟩
    obtain ⟨n, hread⟩ := hsound
    exact ⟨_, Options.give_sleepSeconds.mpr ⟨hnone, n, hread, rfl⟩⟩
  | .option .logFilter value =>
    have hnone : o.logFilter = none := Option.eq_none_iff_forall_ne_some.mpr fun filter hfilter =>
      hfresh (mem_switches_option.mpr ⟨filter, (h.logFilter filter).mp hfilter⟩)
    exact ⟨_, Options.give_logFilter.mpr ⟨hnone, rfl⟩⟩
  | .option .logFile value =>
    have hnone : o.logFile = none := Option.eq_none_iff_forall_ne_some.mpr fun path hpath =>
      hfresh (mem_switches_option.mpr ⟨path, (h.logFile path).mp hpath⟩)
    exact ⟨_, Options.give_logFile.mpr ⟨hnone, hsound, rfl⟩⟩
  | .flag .keepStreams =>
    have hlowered : o.keepStreams = false := by
      rw [Item.switch, mem_switches_flag, ← h.keepStreams] at hfresh
      exact Bool.eq_false_iff.mpr hfresh
    exact ⟨_, Options.raise_keepStreams.mpr ⟨hlowered, rfl⟩⟩
  | .flag .enterRoot =>
    have hlowered : o.enterRoot = false := by
      rw [Item.switch, mem_switches_flag, ← h.enterRoot] at hfresh
      exact Bool.eq_false_iff.mpr hfresh
    exact ⟨_, Options.raise_enterRoot.mpr ⟨hlowered, rfl⟩⟩

private theorem Collected.add (h : Collected before o) (hadd : item.addTo o = .ok o') :
    Collected (before ++ [item]) o' := by
  refine ⟨?_, ?_, h.gives.add hadd⟩
  · rw [List.map_append, List.nodup_append]
    refine ⟨h.once, by simp, ?_⟩
    intro s hs s' hs' heq
    rw [List.map_singleton, List.mem_singleton] at hs'
    exact h.fresh hadd (hs' ▸ heq ▸ hs)
  · intro other hmem
    obtain hbefore | hlast := List.mem_append.mp hmem
    · exact h.sound other hbefore
    · rw [List.mem_singleton.mp hlast]
      exact sound_of_addTo hadd

private theorem Collected.addAll_iff (h : Collected before o) :
    items.foldlM Item.addTo o = .ok o' ↔ Collected (before ++ items) o' := by
  -- by the items to come; what is collected from those before carries over to the next one
  induction items generalizing before o with
  | nil =>
    rw [List.append_nil]
    constructor
    · rintro ⟨⟩
      exact h
    · intro h'
      rw [h.gives.unique h'.gives]
      rfl
  | cons item items ih =>
    rw [addAll_cons_eq_ok_iff]
    constructor
    · rintro ⟨next, hadd, hrest⟩
      simpa using (ih (h.add hadd)).mp hrest
    · intro hall
      have hfresh : item.switch ∉ before.map Item.switch := by
        have honce := hall.once
        rw [List.map_append, List.nodup_append] at honce
        exact fun hmem => honce.2.2 _ hmem item.switch (by simp) rfl
      obtain ⟨next, hadd⟩ := h.gives.exists_add hfresh (hall.sound item (by simp))
      exact ⟨next, hadd, (ih (h.add hadd)).mpr (by simpa using hall)⟩

/-- Items can be added to one another when they are sound and all of different kinds; the options
then hold what they give. -/
theorem addAll_eq_ok_iff : items.foldlM Item.addTo {} = .ok o ↔ Collected items o := by
  have hnothing : Collected [] {} := by
    refine ⟨List.nodup_nil, by simp, ?_⟩
    constructor <;> simp
  exact hnothing.addAll_iff

theorem Collected.perm {items' : List Item} (h : Collected items o) (hperm : items.Perm items') :
    Collected items' o where
  once := (hperm.map Item.switch).nodup_iff.mp h.once
  sound item hmem := h.sound item (hperm.mem_iff.mpr hmem)
  gives := by
    constructor
    · exact fun path => (h.gives.settingsFile path).trans hperm.mem_iff
    · intro n
      rw [h.gives.sleepSeconds n]
      simp only [hperm.mem_iff]
    · exact fun filter => (h.gives.logFilter filter).trans hperm.mem_iff
    · exact fun path => (h.gives.logFile path).trans hperm.mem_iff
    · exact h.gives.keepStreams.trans hperm.mem_iff
    · exact h.gives.enterRoot.trans hperm.mem_iff

/-- The overrides are the given values; a raised flag overrides the other value only. -/
theorem Gives.overrides (h : Gives items o) (base : Settings) :
    let s := o.overrides.fillFrom base
    Settings.Prefers
      (fun n => ∃ text, .option .sleepSeconds text ∈ items ∧
        Text.natural? Bounds.mostUnsigned64 text.toList = some n)
      base.sleepSeconds s.sleepSeconds ∧
    s.detachStreams = (if .flag .keepStreams ∈ items then false else base.detachStreams) ∧
    s.enterRoot = (if .flag .enterRoot ∈ items then true else base.enterRoot) ∧
    Settings.Prefers (.option .logFilter · ∈ items) base.logFilter s.logFilter ∧
    Settings.Prefers (fun file => ∃ path, .option .logFile path ∈ items ∧ file = some path)
      base.logFile s.logFile := by
  refine ⟨Settings.prefers_getD h.sleepSeconds _, ?_, ?_, Settings.prefers_getD h.logFilter _,
    Settings.prefers_getD ?_ _⟩
  · simp only [← h.keepStreams, Settings.Draft.fillFrom, Options.overrides]
    cases o.keepStreams <;> rfl
  · simp only [← h.enterRoot, Settings.Draft.fillFrom, Options.overrides]
    cases o.enterRoot <;> rfl
  · intro file
    simp only [Options.overrides, Option.map_eq_some_iff, h.logFile, eq_comm]

end CommandLine

namespace Settings

open Activity CommandLine

/-- What a settings file has, or nothing if there is no file among the items. -/
inductive FileGives (items : List Item) (files : FileSystem) : Draft → Prop
  | nothing (hnone : ∀ path, .option .settingsFile path ∉ items) : FileGives items files {}
  | toml {path text : String} {draft : Draft} (hpath : .option .settingsFile path ∈ items)
      (htext : files.read path = .ok text.toUTF8) (hextension : Path.extension path = "toml")
      (hdraft : Toml.draftOf text = .ok draft) : FileGives items files draft
  | json {path text : String} {draft : Draft} (hpath : .option .settingsFile path ∈ items)
      (htext : files.read path = .ok text.toUTF8) (hextension : Path.extension path = "json")
      (hdraft : Json.draftOf text = .ok draft) : FileGives items files draft

/-- The settings file among the items holds a document, written in the format that the name of the
file tells. -/
inductive FileHolds (items : List Item) (files : FileSystem) (document : Document) : Prop
  | toml {path : String} (hpath : .option .settingsFile path ∈ items)
      (hextension : Path.extension path = "toml") (style : QuoteStyle)
      (htext : files.read path = .ok (String.ofList (document.toml style)).toUTF8)
  | json {path : String} (hpath : .option .settingsFile path ∈ items)
      (hextension : Path.extension path = "json")
      (style : QuoteStyle) (layout : Layout)
      (htext : files.read path = .ok (String.ofList (document.json style layout)).toUTF8)

private theorem text_unique {path text text' : String} {files : FileSystem}
    (h : files.read path = .ok text.toUTF8)
    (h' : files.read path = .ok text'.toUTF8) : text = text' := by
  rw [h, Except.ok.injEq] at h'
  exact String.toByteArray_inj.mp h'

private theorem FileGives.of_path {items : List Item} {o : Options} {files : FileSystem}
    {file : Draft} {path : String} (hgives : FileGives items files file) (hitems : Gives items o)
    (hpath : .option .settingsFile path ∈ items) :
    ∃ text, files.read path = .ok text.toUTF8 ∧
      (Path.extension path = "toml" ∧ Toml.draftOf text = .ok file ∨
        Path.extension path = "json" ∧ Json.draftOf text = .ok file) := by
  have hsame : ∀ path', .option .settingsFile path' ∈ items → path' = path := by
    intro path' hpath'
    have hfile := (hitems.settingsFile path').mpr hpath'
    rw [(hitems.settingsFile path).mpr hpath] at hfile
    exact (Option.some.inj hfile).symm
  cases hgives with
  | nothing hnone => exact absurd hpath (hnone path)
  | toml hpath' htext hextension hdraft =>
    cases hsame _ hpath'
    exact ⟨_, htext, .inl ⟨hextension, hdraft⟩⟩
  | json hpath' htext hextension hdraft =>
    cases hsame _ hpath'
    exact ⟨_, htext, .inr ⟨hextension, hdraft⟩⟩

/-- What a file has is what the members of its document give. -/
theorem FileGives.holds {items : List Item} {o : Options} {files : FileSystem} {file : Draft}
    {document : Document} (hgives : FileGives items files file) (hitems : Gives items o)
    (hholds : FileHolds items files document) : file.Holds document.members := by
  suffices hdraft : file = document.draft by
    rw [hdraft]
    exact document.holds_draft
  cases hholds with
  | toml hpath hextension style htext =>
    rcases hgives.of_path hitems hpath with ⟨text, htext', ⟨-, hdraft⟩ | ⟨hjson, -⟩⟩
    · cases text_unique htext htext'
      rw [Toml.draftOf_toml] at hdraft
      exact (Except.ok.inj hdraft).symm
    · rw [hextension] at hjson
      exact absurd hjson (by decide)
  | json hpath hextension style layout htext =>
    rcases hgives.of_path hitems hpath with ⟨text, htext', ⟨htoml, -⟩ | ⟨-, hdraft⟩⟩
    · rw [hextension] at htoml
      exact absurd htoml (by decide)
    · cases text_unique htext htext'
      rw [Json.draftOf_json] at hdraft
      exact (Except.ok.inj hdraft).symm

/-- Every field is the one of the item for it, else the one of the file, else the default. -/
structure Precedence (items : List Item) (file : Draft) (s : Settings) : Prop where
  sleepSeconds : Prefers
    (fun n => ∃ text, .option .sleepSeconds text ∈ items ∧
      Text.natural? Bounds.mostUnsigned64 text.toList = some n)
    (file.sleepSeconds.getD 200) s.sleepSeconds
  detachStreams :
    s.detachStreams = if .flag .keepStreams ∈ items then false else file.detachStreams.getD true
  enterRoot : s.enterRoot = if .flag .enterRoot ∈ items then true else file.enterRoot.getD false
  logFilter : Prefers (.option .logFilter · ∈ items) (file.logFilter.getD "off") s.logFilter
  logFile : Prefers (fun found => ∃ path, .option .logFile path ∈ items ∧ found = some path)
    (file.logFile.getD none) s.logFile

private theorem precedence_of_gives {items : List Item} {o : Options} (h : Gives items o)
    (file : Draft) :
    Precedence items file (o.overrides.fillFrom file.complete) := by
  obtain ⟨hsleep, hdetach, henter, hfilter, hfile⟩ := h.overrides file.complete
  exact ⟨hsleep, hdetach, henter, hfilter, hfile⟩

private theorem exists_draft {extension text : String} {s : Settings}
    (h : ofDocument extension text = .ok s) :
    ∃ draft, s = draft.complete ∧ (extension = "toml" ∧ Toml.draftOf text = .ok draft ∨
      extension = "json" ∧ Json.draftOf text = .ok draft) := by
  rw [ofDocument] at h
  split at h
  · next htoml =>
    rw [ofToml] at h
    split at h
    · next draft hdraft =>
      cases h
      exact ⟨draft, rfl, .inl ⟨by simpa using htoml, hdraft⟩⟩
    · cases h
  · split at h
    · next hjson =>
      rw [ofJson] at h
      split at h
      · next draft hdraft =>
        cases h
        exact ⟨draft, rfl, .inr ⟨by simpa using hjson, hdraft⟩⟩
      · cases h
    · cases h

private theorem precedence_of_run {σ : Type} {k : Kernel σ} {m final : Machine σ}
    {items : List Item} {o : Options} {s : Settings} (hgives : Gives items o)
    (h : run k (ofOptions o).run m = (.returned (.ok s), final)) :
    ∃ file, FileGives items m.files file ∧ Precedence items file s := by
  obtain ⟨-, -, base, rfl, ⟨hfile, rfl⟩ | ⟨path, text, hfile, htext, hdocument⟩⟩ :=
    run_ofOptions_eq_ok h
  · refine ⟨{}, .nothing ?_, precedence_of_gives hgives {}⟩
    intro path hmem
    have hpath := (hgives.settingsFile path).mpr hmem
    rw [hfile] at hpath
    cases hpath
  · have hmem := (hgives.settingsFile path).mp hfile
    obtain ⟨draft, rfl, ⟨hextension, hdraft⟩ | ⟨hextension, hdraft⟩⟩ := exists_draft hdocument
    · exact ⟨draft, .toml hmem htext hextension hdraft, precedence_of_gives hgives draft⟩
    · exact ⟨draft, .json hmem htext hextension hdraft, precedence_of_gives hgives draft⟩

/-- A command line that is accepted spells items. The items come to the same options in any order
and in any spelling; and settings that come out of them on any file system have every field from its
item, else from the settings file, else from the defaults, and hold up there. A file in which a
document is written has the fields of its members, in either format. -/
theorem options_take_precedence {σ : Type} (k : Kernel σ) {arguments : List String}
    {options : Options} (hread : CommandLine.read arguments = .ok options) :
    (∃ items, Spelled arguments items) ∧ ∀ items, Spelled arguments items →
      (∀ arguments' items', Spelled arguments' items' → items'.Perm items →
        CommandLine.read arguments' = .ok options) ∧
      ∀ (m final : Machine σ) (s : Settings),
        run k (ofOptions options).run m = (.returned (.ok s), final) →
        (∃ file, FileGives items m.files file ∧ Precedence items file s ∧
          ∀ document, FileHolds items m.files document → file.Holds document.members) ∧
        final = m ∧ run k s.check.run m = (.returned (.ok ()), m) ∧ 1 ≤ s.sleepSeconds := by
  rcases read_eq_ok_iff.mp hread with ⟨spelled, hspelled, hadd⟩
  refine ⟨⟨spelled, hspelled⟩, ?_⟩
  intro items hitems
  cases hspelled.unique hitems
  have hcollected := addAll_eq_ok_iff.mp hadd
  constructor
  · intro arguments' items' hspelled' hperm
    apply read_eq_ok_iff.mpr
    exact ⟨items', hspelled', addAll_eq_ok_iff.mpr (hcollected.perm hperm.symm)⟩
  · intro m final s hrun
    rcases run_ofOptions_eq_ok hrun with ⟨hfinal, hcheck, -⟩
    rcases precedence_of_run hcollected.gives hrun with ⟨file, hgives, hprecedence⟩
    have hsleeps : 1 ≤ s.sleepSeconds :=
      Nat.one_le_iff_ne_zero.mpr (sleepSeconds_of_run_check hcheck)
    refine ⟨⟨file, hgives, hprecedence, ?_⟩, hfinal, hcheck, hsleeps⟩
    intro document hholds
    exact hgives.holds hcollected.gives hholds

private def infoForThree : Document where
  members := [.sleepSeconds 3, .logFilter "info"]
  nodup_keys := by decide
  hasOwnKey := by decide
  inRange := by decide

private def inBothFormats : FileSystem :=
  let toml := String.ofList (infoForThree.toml .plain)
  let json := String.ofList (infoForThree.json .plain default)
  ((FileSystem.put {} ["c.toml"] (.file toml.toUTF8)).put ["c.json"] (.file json.toUTF8))

private def fiveAsked (path : String) : Options :=
  { settingsFile := some path, sleepSeconds := some 5, keepStreams := true,
    logFile := some "x.log" }

private def fiveSeconds : Settings :=
  { sleepSeconds := 5, detachStreams := false, logFilter := "info", logFile := some "x.log" }

private def itemsForFive (path : String) : List Item :=
  [.option .sleepSeconds "5", .flag .keepStreams, .option .settingsFile path,
    .option .logFile "x.log"]

private theorem spelled_five (path : String) (hstands : StandsAlone path) :
    Spelled ["-s5", "--keep-stdio", "--config", path, "--log-file=x.log"] (itemsForFive path) := by
  have hletter : ('s', Switch.option .sleepSeconds) ∈ Switch.letters := by decide
  have hkeep : ("keep-stdio", Switch.flag .keepStreams) ∈ Switch.names := by decide
  have hconfig : ("config", Switch.option .settingsFile) ∈ Switch.names := by decide
  have hfile : ("log-file", Switch.option .logFile) ∈ Switch.names := by decide
  exact .cons (.attached (.letterJoined hletter (by decide))) <| .cons (.raised (.name hkeep)) <|
    .cons (.apart (.name hconfig) hstands) <| .cons (.attached (.nameEquals hfile "x.log")) .nil

private theorem spelled_five_reordered :
    Spelled ["--log-file", "x.log", "--config=c.toml", "--sleep-secs", "5", "--keep-stdio", "--"]
      [.option .logFile "x.log", .option .settingsFile "c.toml", .option .sleepSeconds "5",
        .flag .keepStreams] := by
  have hsleep : ("sleep-secs", Switch.option .sleepSeconds) ∈ Switch.names := by decide
  have hkeep : ("keep-stdio", Switch.flag .keepStreams) ∈ Switch.names := by decide
  have hconfig : ("config", Switch.option .settingsFile) ∈ Switch.names := by decide
  have hfile : ("log-file", Switch.option .logFile) ∈ Switch.names := by decide
  exact .cons (.apart (.name hfile) (by simp [StandsAlone])) <|
    .cons (.attached (.nameEquals hconfig "c.toml")) <|
    .cons (.apart (.name hsleep) (by simp [StandsAlone])) <| .cons (.raised (.name hkeep)) .ended

/-- An option stands before the file, whose format does not matter, the file before a default, and
another order changes nothing. -/
theorem options_take_precedence_of_five :
    let m : Machine Script := .fresh {} inBothFormats none
    CommandLine.read ["--log-file", "x.log", "--config=c.toml", "--sleep-secs", "5", "--keep-stdio",
      "--"] =
        .ok (fiveAsked "c.toml") ∧
      ∀ path ∈ ["c.toml", "c.json"],
        CommandLine.read ["-s5", "--keep-stdio", "--config", path,
          "--log-file=x.log"] = .ok (fiveAsked path) ∧
        run Script.kernel (ofOptions (fiveAsked path)).run m = (.returned (.ok fiveSeconds), m) ∧
        ∃ file, FileGives (itemsForFive path) m.files file ∧
          Precedence (itemsForFive path) file fiveSeconds ∧
          file.Holds infoForThree.members := by
  intro m
  have hread : ∀ path ∈ ["c.toml", "c.json"],
      CommandLine.read ["-s5", "--keep-stdio", "--config", path,
        "--log-file=x.log"] = .ok (fiveAsked path) := by
    simp only [List.forall_mem_cons]
    exact ⟨rfl, rfl, by simp⟩
  have hrun : ∀ path ∈ ["c.toml", "c.json"],
      run Script.kernel (ofOptions (fiveAsked path)).run m = (.returned (.ok fiveSeconds), m) := by
    simp only [List.forall_mem_cons]
    exact ⟨rfl, rfl, by simp⟩
  have hholds : ∀ path ∈ ["c.toml", "c.json"],
      FileHolds (itemsForFive path) m.files infoForThree := by
    have htoml : Item.option .settingsFile "c.toml" ∈ itemsForFive "c.toml" := by decide
    have hjson : Item.option .settingsFile "c.json" ∈ itemsForFive "c.json" := by decide
    simp only [List.forall_mem_cons]
    exact ⟨.toml htoml (by decide) .plain rfl, .json hjson (by decide) .plain default rfl, by simp⟩
  have hstands : ∀ path ∈ ["c.toml", "c.json"], StandsAlone path := by
    simp [StandsAlone]
  constructor
  · rcases options_take_precedence Script.kernel (hread "c.toml" (by simp)) with ⟨-, hall⟩
    rcases hall _ (spelled_five "c.toml" (hstands _ (by simp))) with ⟨horder, -⟩
    exact horder _ _ spelled_five_reordered (by decide)
  · intro path hpath
    rcases options_take_precedence Script.kernel (hread path hpath) with ⟨-, hall⟩
    rcases hall _ (spelled_five path (hstands path hpath)) with ⟨-, hsettings⟩
    rcases (hsettings m m fiveSeconds (hrun path hpath)).1 with
      ⟨file, hgives, hprecedence, hdocument⟩
    exact ⟨hread path hpath, hrun path hpath, file, hgives, hprecedence,
      hdocument _ (hholds path hpath)⟩

end Settings

end DaemonLaunch
