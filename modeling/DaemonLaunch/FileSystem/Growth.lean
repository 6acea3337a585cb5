import DaemonLaunch.FileSystem

/-!
Growth of a file system by empty files. Everything that was there stays as it was, and the same
paths lead to directories and can be opened for appending as before, for a path that leads through a
new file fails as it did when the file was missing.
-/

namespace DaemonLaunch.FileSystem

/-- The second file system has everything that the first one has, and empty files in addition. -/
structure Grown (fs fs' : FileSystem) : Prop where
  working : fs'.working = fs.working
  nodes : ∀ place, fs'.node? place = fs.node? place ∨ fs.node? place = none ∧
    fs'.node? place = some (.file .empty)

/-- Names lead from one directory to another. -/
def LeadsTo (fs : FileSystem) (start : Location) (names : List String) (directory : Location) :
    Prop :=
  fs.walk start names = .ok directory ∧ fs.node? directory = some .directory

variable {fs fs' fs'' : FileSystem} {start place directory : Location} {name : String}
  {names : List String}

theorem walk_cons (fs : FileSystem) (start : Location) (name : String) (names : List String) :
    fs.walk start (name :: names) = (fs.step start name).bind (fs.walk · names) := rfl

theorem step_eq_ok_iff : fs.step start name = .ok place ↔ fs.node? start = some .directory ∧
    if name = "." then place = start
    else if name = ".." then place = start.tail
    else name.utf8ByteSize ≤ nameLimit ∧ (fs.node? (name :: start)).isSome ∧
      place = name :: start := by
  rw [step]
  split
  · next hstart =>
    by_cases hdot : name = "."
    · simp [hdot, hstart, eq_comm]
    · by_cases hdots : name = ".."
      · simp [hdots, hstart, eq_comm]
      · have hname : (name == ".") = false ∧ (name == "..") = false := by simp [hdot, hdots]
        simp only [hname.1, hname.2, if_neg hdot, if_neg hdots, hstart, true_and,
          Bool.false_eq_true, if_false]
        by_cases hlong : nameLimit < name.utf8ByteSize
        · simp [hlong, Nat.not_le.mpr hlong]
        · rw [if_neg hlong]
          cases (fs.node? (name :: start)).isSome with
          | true => simp [Nat.not_lt.mp hlong, eq_comm]
          | false => simp
  · next hother =>
    constructor
    · rintro ⟨⟩
    · rintro ⟨hstart, -⟩
      exact absurd hstart hother

theorem LeadsTo.start_directory (h : fs.LeadsTo start names directory) :
    fs.node? start = some .directory := by
  cases names with
  | nil =>
    have hstart : start = directory := by simpa [walk, pure, Except.pure] using h.1
    rw [hstart]
    exact h.2
  | cons name names =>
    have hwalk := h.1
    rw [walk_cons] at hwalk
    cases hstep : fs.step start name with
    | error code => simp [hstep, Except.bind] at hwalk
    | ok next => exact (step_eq_ok_iff.mp hstep).1

theorem leadsTo_cons : fs.LeadsTo start (name :: names) directory ↔
    ∃ next, fs.step start name = .ok next ∧ fs.LeadsTo next names directory := by
  rw [LeadsTo, walk_cons]
  cases fs.step start name with
  | error code => simp [Except.bind]
  | ok next => simp [Except.bind, LeadsTo]

namespace Grown

theorem refl (fs : FileSystem) : fs.Grown fs := ⟨rfl, fun _ => .inl rfl⟩

theorem trans (h : fs.Grown fs') (h' : fs'.Grown fs'') : fs.Grown fs'' where
  working := h'.working.trans h.working
  nodes place := by
    obtain hsame | ⟨hnone, hfile⟩ := h.nodes place
    · rw [← hsame]
      exact h'.nodes place
    · obtain hsame' | ⟨hnone', -⟩ := h'.nodes place
      · exact .inr ⟨hnone, hsame'.trans hfile⟩
      · rw [hfile] at hnone'
        cases hnone'

theorem kept (h : fs.Grown fs') {node : Node} (hnode : fs.node? place = some node) :
    fs'.node? place = some node := by
  obtain hsame | ⟨hnone, -⟩ := h.nodes place
  · rw [hsame, hnode]
  · rw [hnode] at hnone
    cases hnone

theorem directory_iff (h : fs.Grown fs') (place : Location) :
    fs'.node? place = some .directory ↔ fs.node? place = some .directory := by
  obtain hsame | ⟨hnone, hfile⟩ := h.nodes place
  · rw [hsame]
  · simp [hnone, hfile]

private theorem step_iff (h : fs.Grown fs') (hplace : fs.node? place = some .directory) :
    fs'.step start name = .ok place ↔ fs.step start name = .ok place := by
  have hplace' : fs'.node? place = some .directory := h.kept hplace
  have hnext : (fs'.node? (name :: start)).isSome ∧ place = name :: start ↔
      (fs.node? (name :: start)).isSome ∧ place = name :: start := by
    constructor
    all_goals
      rintro ⟨-, rfl⟩
      simp [hplace, hplace']
  rw [step_eq_ok_iff, step_eq_ok_iff, h.directory_iff, hnext]

theorem leadsTo_iff (h : fs.Grown fs') :
    fs'.LeadsTo start names directory ↔ fs.LeadsTo start names directory := by
  -- by the names: a step that comes before more names leads to a directory, so not into a new file
  induction names generalizing start with
  | nil =>
    rw [LeadsTo, LeadsTo, h.directory_iff]
    rfl
  | cons name names ih =>
    rw [leadsTo_cons, leadsTo_cons]
    constructor
    · rintro ⟨next, hstep, hleads⟩
      have hleads := ih.mp hleads
      exact ⟨next, (h.step_iff hleads.start_directory).mp hstep, hleads⟩
    · rintro ⟨next, hstep, hleads⟩
      exact ⟨next, (h.step_iff hleads.start_directory).mpr hstep, ih.mpr hleads⟩

theorem start_eq (h : fs.Grown fs') (path : String) : fs'.start path = fs.start path := by
  rw [FileSystem.start, FileSystem.start, h.working]

theorem opens_iff (h : fs.Grown fs') (path : String) :
    fs'.Opens path directory name ↔ fs.Opens path directory name := by
  have hway : fs'.LeadsTo (fs'.start path) (FileSystem.names path).dropLast directory ↔
      fs.LeadsTo (fs.start path) (FileSystem.names path).dropLast directory := by
    rw [h.start_eq, h.leadsTo_iff]
  constructor
  · intro hopens
    obtain ⟨hwalk, hfound⟩ := hway.mp ⟨hopens.way, hopens.found⟩
    have hfree : fs.node? (name :: directory) ≠ some .directory := by
      rw [ne_eq, ← h.directory_iff]
      exact hopens.free
    exact { hopens with way := hwalk, found := hfound, free := hfree }
  · intro hopens
    obtain ⟨hwalk, hfound⟩ := hway.mpr ⟨hopens.way, hopens.found⟩
    have hfree : fs'.node? (name :: directory) ≠ some .directory := by
      rw [ne_eq, h.directory_iff]
      exact hopens.free
    exact { hopens with way := hwalk, found := hfound, free := hfree }

end Grown

theorem grown_withFile (fs : FileSystem) (place : Location) : fs.Grown (fs.withFile place) := by
  rw [withFile]
  cases hnode : fs.node? place with
  | some node => exact .refl fs
  | none =>
    refine ⟨rfl, ?_⟩
    intro other
    have hother := fs.node?_put place other (.file .empty)
    by_cases hroot : other.isEmpty
    · left
      rw [hother, node?, if_pos hroot, if_pos hroot]
    · rw [if_neg hroot] at hother
      by_cases hplace : other = place
      · rw [if_pos hplace] at hother
        exact .inr ⟨by rw [hplace, hnode], hother⟩
      · rw [if_neg hplace] at hother
        left
        rw [hother, node?, if_neg hroot]

theorem node?_withFile {place : Location} (hplace : place ≠ [])
    (hfree : fs.node? place ≠ some .directory) :
    ∃ bytes, (fs.withFile place).node? place = some (.file bytes) := by
  rw [withFile]
  cases hnode : fs.node? place with
  | none => exact ⟨.empty, by simp [node?_put, hplace]⟩
  | some node =>
    cases node with
    | directory => exact absurd hnode hfree
    | file bytes => exact ⟨bytes, hnode⟩

theorem reaches_of_opens {path : String} (h : fs.Opens path directory name) :
    (fs.withFile (name :: directory)).Reaches path (name :: directory) := by
  have hgrown := fs.grown_withFile (name :: directory)
  obtain ⟨bytes, hnode⟩ := node?_withFile (List.cons_ne_nil name directory) h.free
  obtain ⟨hwalk, hfound⟩ := hgrown.leadsTo_iff.mpr ⟨h.way, h.found⟩
  have hnames : FileSystem.names path = (FileSystem.names path).dropLast ++ [name] := by
    obtain ⟨before, hnames⟩ := List.getLast?_eq_some_iff.mp h.last
    simp [hnames]
  have hstep : (fs.withFile (name :: directory)).step directory name = .ok (name :: directory) := by
    rw [step_eq_ok_iff, if_neg h.proper.1, if_neg h.proper.2, hnode]
    exact ⟨hfound, h.fits, rfl, rfl⟩
  refine ⟨h.valid, h.unslashed, ?_⟩
  rw [hgrown.start_eq, hnames, walk, List.foldlM_append]
  change (do let s ← (fs.withFile (name :: directory)).walk _ _; [name].foldlM _ s) = _
  rw [hwalk]
  simp [bind, Except.bind, pure, Except.pure, hstep]

theorem isFile_of_opens {path : String} (h : fs.Opens path directory name) :
    (fs.withFile (name :: directory)).isFile path = true := by
  have hreaches := reaches_of_opens h
  obtain ⟨bytes, hnode⟩ := node?_withFile (List.cons_ne_nil name directory) h.free
  exact isFile_of_walk hreaches.valid hreaches.unslashed hreaches.way hnode

/-- The place of the file that a path opens for appending. -/
def appendPlace? (fs : FileSystem) (path : String) : Option Location :=
  match fs.openForAppend path with
  | .ok (place, _) => some place
  | .error _ => none

theorem appendPlace?_eq_some_iff (fs : FileSystem) (path : String) (place : Location) :
    fs.appendPlace? path = some place ↔ ∃ directory name,
      fs.Opens path directory name ∧ place = name :: directory := by
  have hopened := fs.openForAppend_eq_ok_iff (fs.withFile place) path place
  rw [appendPlace?]
  cases hopen : fs.openForAppend path with
  | error failure =>
    rw [hopen] at hopened
    simpa using hopened
  | ok opened =>
    obtain ⟨found, after⟩ := opened
    obtain ⟨hopens, rfl⟩ := (fs.openForAppend_eq_ok_iff after path found).mp hopen
    rw [hopen] at hopened
    simp only [Option.some.injEq]
    constructor
    · rintro rfl
      exact hopens
    · intro hplace
      have hsame := hopened.mpr ⟨hplace, rfl⟩
      simp only [Except.ok.injEq, Prod.mk.injEq] at hsame
      exact hsame.1

theorem Grown.appendPlace?_eq (h : fs.Grown fs') (path : String) :
    fs'.appendPlace? path = fs.appendPlace? path := by
  apply Option.ext
  intro place
  rw [appendPlace?_eq_some_iff, appendPlace?_eq_some_iff]
  simp only [h.opens_iff]

/-- Opening a file for appending lets the file system grow, if it succeeds, and then the file is
there. -/
theorem grown_of_openForAppend {path : String} (h : fs.openForAppend path = .ok (place, fs')) :
    fs.Grown fs' ∧ fs'.isFile path = true ∧ fs.appendPlace? path = some place := by
  obtain ⟨⟨directory, name, hopens, rfl⟩, rfl⟩ := (fs.openForAppend_eq_ok_iff fs' path place).mp h
  refine ⟨fs.grown_withFile _, isFile_of_opens hopens, ?_⟩
  rw [appendPlace?, h]

theorem exists_opened {path : String} (h : fs.openForAppend path = .ok (place, fs')) :
    fs'.Reaches path place ∧ ∃ earlier, fs'.node? place = some (.file earlier) ∧
      (fs.node? place = some (.file earlier) ∨ fs.node? place = none ∧ earlier = .empty) := by
  obtain ⟨⟨directory, name, hopens, rfl⟩, rfl⟩ := (fs.openForAppend_eq_ok_iff fs' path place).mp h
  refine ⟨reaches_of_opens hopens, ?_⟩
  obtain ⟨earlier, hnode⟩ := node?_withFile (List.cons_ne_nil name directory) hopens.free
  refine ⟨earlier, hnode, ?_⟩
  obtain hsame | ⟨hnone, hempty⟩ :=
    (fs.grown_withFile (name :: directory)).nodes (name :: directory)
  · rw [← hsame]
    exact .inl hnode
  · rw [hempty] at hnode
    cases hnode
    exact .inr ⟨hnone, rfl⟩

end DaemonLaunch.FileSystem
