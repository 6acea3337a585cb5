import DaemonLaunch.Launch.Preparation
import DaemonLaunch.Proofs.JsonDocuments
import DaemonLaunch.Proofs.TomlDocuments

/-!
The two formats of settings documents. Whatever members a document has, and in whatever order, it
comes to the same settings in TOML and in JSON.
-/

namespace DaemonLaunch.Settings

/-- The draft holds what the members give for its fields and nothing else. -/
structure Draft.Holds (members : List Document.Member) (d : Draft) : Prop where
  sleepSeconds : ∀ n, d.sleepSeconds = some n ↔ .sleepSeconds n ∈ members
  detachStreams : ∀ b, d.detachStreams = some b ↔ .detachStreams b ∈ members
  enterRoot : ∀ b, d.enterRoot = some b ↔ .enterRoot b ∈ members
  logFilter : ∀ filter, d.logFilter = some filter ↔ .logFilter filter ∈ members
  logFile : ∀ file, d.logFile = some file ↔ ∃ path, .logFile path ∈ members ∧ file = some path

namespace Draft

variable {members before : List Document.Member} {member : Document.Member} {d : Draft}

private theorem Holds.applyTo (h : d.Holds before)
    (hfresh : member.key ∉ before.map Document.Member.key) :
    (member.applyTo d).Holds (before ++ [member]) := by
  have hnew : ∀ other : Document.Member, other.key = member.key → other ∉ before :=
    fun other heq hmem => hfresh (heq ▸ List.mem_map_of_mem hmem)
  match member with
  | .sleepSeconds n =>
    have hopen : ∀ n', .sleepSeconds n' ∉ before := fun n' => hnew _ rfl
    constructor <;> simp [Document.Member.applyTo, hopen, h.detachStreams, h.enterRoot, h.logFilter,
      h.logFile, eq_comm]
  | .detachStreams b =>
    have hopen : ∀ b', .detachStreams b' ∉ before := fun b' => hnew _ rfl
    constructor <;>
      simp only [Document.Member.applyTo, List.mem_append, hopen, h.sleepSeconds, h.enterRoot,
        h.logFilter, h.logFile]
    all_goals simp [eq_comm]
  | .enterRoot b =>
    have hopen : ∀ b', .enterRoot b' ∉ before := fun b' => hnew _ rfl
    constructor <;>
      simp only [Document.Member.applyTo, List.mem_append, hopen, h.sleepSeconds, h.detachStreams,
        h.logFilter, h.logFile]
    all_goals simp [eq_comm]
  | .logFilter filter =>
    have hopen : ∀ filter', .logFilter filter' ∉ before := fun filter' => hnew _ rfl
    constructor <;> simp [Document.Member.applyTo, hopen, h.sleepSeconds, h.detachStreams,
      h.enterRoot, h.logFile, eq_comm]
  | .logFile path =>
    have hopen : ∀ path', .logFile path' ∉ before := fun path' => hnew _ rfl
    constructor <;> simp [Document.Member.applyTo, hopen, h.sleepSeconds, h.detachStreams,
      h.enterRoot, h.logFilter, eq_comm]
  | .other key scalar =>
    constructor <;> simp [Document.Member.applyTo, h.sleepSeconds, h.detachStreams, h.enterRoot,
      h.logFilter, h.logFile]

private theorem Holds.foldl (h : d.Holds before)
    (hnodup : ((before ++ members).map Document.Member.key).Nodup) :
    (members.foldl Document.Member.applyTo d).Holds (before ++ members) := by
  induction members generalizing before d with
  | nil => simpa using h
  | cons member members ih =>
    have hfresh : member.key ∉ before.map Document.Member.key := by
      rw [List.map_append, List.nodup_append] at hnodup
      exact fun hmem => hnodup.2.2 _ hmem member.key (by simp) rfl
    simpa using ih (h.applyTo hfresh) (by simpa using hnodup)

end Draft

/-- Every field is the one that a member of the document gives, and otherwise the default one. -/
structure Document.Gives (d : Document) (s : Settings) : Prop where
  sleepSeconds : Prefers (.sleepSeconds · ∈ d.members) ({} : Settings).sleepSeconds s.sleepSeconds
  detachStreams : Prefers (.detachStreams · ∈ d.members) ({} : Settings).detachStreams
    s.detachStreams
  enterRoot : Prefers (.enterRoot · ∈ d.members) ({} : Settings).enterRoot s.enterRoot
  logFilter : Prefers (.logFilter · ∈ d.members) ({} : Settings).logFilter s.logFilter
  logFile : Prefers (fun file => ∃ path, .logFile path ∈ d.members ∧ file = some path)
    ({} : Settings).logFile s.logFile

/-- The draft of a document holds what its members give. -/
theorem Document.holds_draft (d : Document) : d.draft.Holds d.members := by
  have hnothing : Draft.Holds [] {} := by
    constructor <;> simp
  exact hnothing.foldl (by simpa using d.nodup_keys)

private theorem Document.gives_draft (d : Document) : d.Gives d.draft.complete := by
  have hholds := d.holds_draft
  rw [Draft.complete_eq_fillFrom]
  constructor
  · exact prefers_getD hholds.sleepSeconds _
  · exact prefers_getD hholds.detachStreams _
  · exact prefers_getD hholds.enterRoot _
  · exact prefers_getD hholds.logFilter _
  · exact prefers_getD hholds.logFile _

/-- A document comes to the same settings in both formats, however its texts are quoted and its
parts are laid out: the fields of its members are taken and all the others have their defaults. -/
theorem formats_agree (d : Document) (style style' : QuoteStyle) (layout : Layout) :
    ∃ s, ofToml (String.ofList (d.toml style)) = .ok s ∧
      ofJson (String.ofList (d.json style' layout)) = .ok s ∧ d.Gives s := by
  refine ⟨d.draft.complete, ?_, ?_, d.gives_draft⟩
  · rw [ofToml, Toml.draftOf_toml]
  · rw [ofJson, Json.draftOf_json]

end DaemonLaunch.Settings
