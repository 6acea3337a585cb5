import DaemonLaunch.IoError
import DaemonLaunch.FileSystem.Path

/-!
A file system of regular files and directories. Paths are resolved name by name from the root or
from the working directory; every name but the last must lead to a directory.
-/

namespace DaemonLaunch

/-- A place in the tree, by the names that lead there from the root, the last name first. -/
abbrev Location := List String

/-- What stands at a place. -/
inductive Node
  | directory
  | file (bytes : ByteArray)

def Node.isDirectory : Node → Bool
  | directory => true
  | file _ => false

structure FileSystem where
  /-- The places in use; the root is always a directory. -/
  nodes : List (Location × Node) := []
  /-- The directory from which relative paths start. -/
  working : Location := []
  deriving Inhabited

namespace FileSystem

/-- Names take at most so many bytes. -/
def nameLimit : Nat := 255

/-- Paths take fewer than so many bytes. -/
def pathLimit : Nat := 4096

/-- What stands at a place. -/
def node? (fs : FileSystem) (place : Location) : Option Node :=
  if place.isEmpty then some .directory else fs.nodes.lookup place

/-- One name further from a place, which must be a directory. -/
def step (fs : FileSystem) (place : Location) (name : String) : Except ErrorCode Location :=
  match fs.node? place with
  | some .directory =>
    if name == "." then .ok place
    else if name == ".." then .ok place.tail
    else if nameLimit < name.utf8ByteSize then .error .nameTooLong
    else if (fs.node? (name :: place)).isSome then .ok (name :: place)
    else .error .noEntry
  | _ => .error .notDirectory

/-- The place that names lead to. -/
def walk (fs : FileSystem) (start : Location) (names : List String) : Except ErrorCode Location :=
  names.foldlM fs.step start

/-- The names of a path in order. -/
def names (path : String) : List String :=
  ((path.toList.splitOn '/').filter fun name => !name.isEmpty).map String.ofList

/-- Where a path starts. -/
def start (fs : FileSystem) (path : String) : Location :=
  if path.toList.head? == some '/' then [] else fs.working

def endsInSlash (path : String) : Bool := path.toList.getLast? == some '/'

/-- What every path must satisfy before it is resolved. -/
def checkPath (path : String) : Except IoError Unit :=
  if path.toList.contains '\x00' then .error .nulInName
  else if path.isEmpty then .error (.system .noEntry)
  else if pathLimit ≤ path.utf8ByteSize then .error (.system .nameTooLong)
  else .ok ()

private def asSystem {α : Type} : Except ErrorCode α → Except IoError α
  | .ok a => .ok a
  | .error code => .error (.system code)

/-- What a path names; with a slash at its end it must be a directory. -/
def resolve (fs : FileSystem) (path : String) : Except IoError Node := do
  checkPath path
  let place ← asSystem (fs.walk (fs.start path) (names path))
  match fs.node? place with
  | some node =>
    if endsInSlash path && !node.isDirectory then .error (.system .notDirectory) else .ok node
  | none => .error (.system .noEntry)

def isDirectory (fs : FileSystem) (path : String) : Bool :=
  match fs.resolve path with
  | .ok .directory => true
  | _ => false

def isFile (fs : FileSystem) (path : String) : Bool :=
  match fs.resolve path with
  | .ok (.file _) => true
  | _ => false

def read (fs : FileSystem) (path : String) : Except IoError ByteArray := do
  match ← fs.resolve path with
  | .file bytes => .ok bytes
  | .directory => .error (.system .isDirectory)

def put (fs : FileSystem) (place : Location) (node : Node) : FileSystem :=
  { fs with nodes := (place, node) :: fs.nodes.filter (·.1 != place) }

private def placeFor (fs : FileSystem) (path : String) : Except ErrorCode Location :=
  match (names path).getLast? with
  | none => .error .isDirectory
  | some last =>
    if last == "." || last == ".." then do
      let _ ← fs.walk (fs.start path) (names path)
      .error .isDirectory
    else do
      let directory ← fs.walk (fs.start path) (names path).dropLast
      match fs.node? directory with
      | some .directory =>
        if endsInSlash path then .error .isDirectory
        else if nameLimit < last.utf8ByteSize then .error .nameTooLong
        else if (fs.node? (last :: directory)).any Node.isDirectory then .error .isDirectory
        else .ok (last :: directory)
      | _ => .error .notDirectory

/-- Opens a file for appending and makes it if it is missing. -/
def openForAppend (fs : FileSystem) (path : String) : Except IoError (Location × FileSystem) := do
  checkPath path
  let place ← asSystem (fs.placeFor path)
  match fs.node? place with
  | none => .ok (place, fs.put place (.file .empty))
  | some _ => .ok (place, fs)

def append (fs : FileSystem) (place : Location) (bytes : ByteArray) : FileSystem :=
  match fs.node? place with
  | some (.file old) => fs.put place (.file (old ++ bytes))
  | _ => fs

private def makeWay (fs : FileSystem) (place : Location) : List String → Location × FileSystem
  | [] => (place, fs)
  | name :: names =>
    if name == "." then makeWay fs place names
    else if name == ".." then makeWay fs place.tail names
    else
      let next := name :: place
      let fs := if (fs.node? next).isSome then fs else fs.put next .directory
      makeWay fs next names

def makeDirectory (fs : FileSystem) (path : String) : FileSystem :=
  (fs.makeWay (fs.start path) (names path)).2

/-- Makes a file with the given bytes, and the directories above it. -/
def makeFile (fs : FileSystem) (path : String) (bytes : ByteArray) : FileSystem :=
  match (names path).getLast? with
  | none => fs
  | some last =>
    let (directory, fs) := fs.makeWay (fs.start path) (names path).dropLast
    fs.put (last :: directory) (.file bytes)

theorem isDirectory_iff (fs : FileSystem) (path : String) :
    fs.isDirectory path = true ↔ checkPath path = .ok () ∧
      ∃ place, fs.walk (fs.start path) (names path) = .ok place ∧
        fs.node? place = some .directory := by
  rw [isDirectory, resolve]
  cases hpath : checkPath path with
  | error e => simp [bind, Except.bind]
  | ok done =>
    cases hwalk : fs.walk (fs.start path) (names path) with
    | error code => simp [asSystem, bind, Except.bind]
    | ok place =>
      match hnode : fs.node? place with
      | none => simp [asSystem, bind, Except.bind, hnode]
      | some .directory => simp [asSystem, bind, Except.bind, hnode, Node.isDirectory]
      | some (.file bytes) =>
        cases endsInSlash path <;> simp [asSystem, bind, Except.bind, hnode, Node.isDirectory]

theorem isFile_of_walk {fs : FileSystem} {path : String} {place : Location} {bytes : ByteArray}
    (hpath : checkPath path = .ok ())
    (hslash : endsInSlash path = false) (hwalk : fs.walk (fs.start path) (names path) = .ok place)
    (hnode : fs.node? place = some (.file bytes)) : fs.isFile path = true := by
  simp [isFile, resolve, hpath, hwalk, asSystem, bind, Except.bind, hnode, hslash]

/-- A file can be opened for appending by a path that names it in a directory. -/
structure Opens (fs : FileSystem) (path : String) (directory : Location) (name : String) :
    Prop where
  valid : checkPath path = .ok ()
  last : (names path).getLast? = some name
  proper : name ≠ "." ∧ name ≠ ".."
  unslashed : endsInSlash path = false
  fits : name.utf8ByteSize ≤ nameLimit
  way : fs.walk (fs.start path) (names path).dropLast = .ok directory
  found : fs.node? directory = some .directory
  free : fs.node? (name :: directory) ≠ some .directory

/-- The file system with a file at a place, an empty one if there was none. -/
def withFile (fs : FileSystem) (place : Location) : FileSystem :=
  match fs.node? place with
  | none => fs.put place (.file .empty)
  | some _ => fs

private theorem any_isDirectory_iff (node : Option Node) :
    node.any Node.isDirectory = true ↔ node = some .directory := by
  match node with
  | none => simp
  | some .directory => simp [Node.isDirectory]
  | some (.file bytes) => simp [Node.isDirectory]

private theorem unless_eq_ok_iff {ε α : Type} {refused : Prop} [Decidable refused] {e : ε}
    {result : Except ε α} {a : α} :
    (if refused then .error e else result) = .ok a ↔ ¬refused ∧ result = .ok a := by
  by_cases hrefused : refused <;> simp [hrefused]

private theorem placeFor_eq_ok_iff (fs : FileSystem) {path : String}
    (hpath : checkPath path = .ok ()) (place : Location) :
    fs.placeFor path = .ok place ↔ ∃ directory name,
      fs.Opens path directory name ∧ place = name :: directory := by
  constructor
  · intro hplace
    rw [placeFor] at hplace
    cases hlast : (names path).getLast? with
    | none => simp [hlast] at hplace
    | some name =>
      simp only [hlast] at hplace
      split at hplace
      · cases hwalk : fs.walk (fs.start path) (names path) <;> simp [hwalk, bind,
          Except.bind] at hplace
      · next hdots =>
        cases hway : fs.walk (fs.start path) (names path).dropLast with
        | error code => simp [hway, bind, Except.bind] at hplace
        | ok directory =>
          simp only [hway, bind, Except.bind] at hplace
          split at hplace
          · next hdirectory =>
            simp only [unless_eq_ok_iff, any_isDirectory_iff, Except.ok.injEq] at hplace
            obtain ⟨hslash, hfits, hfree, rfl⟩ := hplace
            exact ⟨directory, name, ⟨hpath, hlast, by simpa using hdots, by simpa using hslash,
              Nat.le_of_not_lt hfits, hway,
              hdirectory, hfree⟩, rfl⟩
          · cases hplace
  · rintro ⟨directory, name, h, rfl⟩
    have hfree : (fs.node? (name :: directory)).any Node.isDirectory = false := by
      rw [← Bool.not_eq_true, any_isDirectory_iff]
      exact h.free
    simp [placeFor, h.last, h.proper.1, h.proper.2, h.way, bind, Except.bind, h.found, h.unslashed,
      Nat.not_lt.mpr h.fits, hfree]

theorem openForAppend_eq_ok_iff (fs fs' : FileSystem) (path : String) (place : Location) :
    fs.openForAppend path = .ok (place, fs') ↔
      (∃ directory name, fs.Opens path directory name ∧ place = name :: directory) ∧
      fs' = fs.withFile place := by
  cases hpath : checkPath path with
  | error e =>
    have hrefused : fs.openForAppend path = .error e := by rw [openForAppend, hpath]; rfl
    rw [hrefused]
    constructor
    · rintro ⟨⟩
    · rintro ⟨⟨directory, name, h, -⟩, -⟩
      rw [h.valid] at hpath
      cases hpath
  | ok done =>
    rw [← placeFor_eq_ok_iff fs hpath, openForAppend, hpath]
    cases fs.placeFor path with
    | error code => simp [asSystem, bind, Except.bind]
    | ok found =>
      have hopened : (match fs.node? found with
          | none => Except.ok (found, fs.put found (.file .empty))
          | some _ =>
            .ok (found, fs)) = (.ok (found, fs.withFile found) :
              Except IoError (Location × FileSystem)) := by
        rw [withFile]
        cases fs.node? found <;> rfl
      simp only [asSystem, bind, Except.bind, hopened, Except.ok.injEq, Prod.mk.injEq]
      constructor
      · rintro ⟨rfl, rfl⟩
        exact ⟨rfl, rfl⟩
      · rintro ⟨rfl, rfl⟩
        exact ⟨rfl, rfl⟩

private theorem checkPath_eq_noEntry_iff (path : String) :
    checkPath path = .error (.system .noEntry) ↔ path = "" := by
  rw [checkPath]
  by_cases hempty : path = ""
  · simp [hempty]
  · have hlong : ErrorCode.nameTooLong ≠ ErrorCode.noEntry := by decide
    split
    · simp [hempty]
    · by_cases hfits : pathLimit ≤ path.utf8ByteSize <;> simp [hempty, hlong, hfits]

/-- A path names nothing when it is empty, when its names lead nowhere, or when nothing stands where
they lead. -/
theorem resolve_eq_noEntry_iff (fs : FileSystem) (path : String) :
    fs.resolve path = .error (.system .noEntry) ↔ path = "" ∨ checkPath path = .ok () ∧
      (fs.walk (fs.start path) (names path) = .error .noEntry ∨
        ∃ place, fs.walk (fs.start path) (names path) = .ok place ∧ fs.node? place = none) := by
  rw [← checkPath_eq_noEntry_iff, resolve]
  cases hpath : checkPath path with
  | error e => simp [bind, Except.bind]
  | ok done =>
    cases hwalk : fs.walk (fs.start path) (names path) with
    | error code => simp [asSystem, bind, Except.bind]
    | ok place =>
      have hfile : ErrorCode.notDirectory ≠ ErrorCode.noEntry := by decide
      cases hnode : fs.node? place with
      | none => simp [asSystem, bind, Except.bind, hnode]
      | some node =>
        simp only [asSystem, bind, Except.bind, hnode]
        split <;> simp [hnode, hfile]

/-- The names that lead to the directory in which a file is opened. A last name of dots is walked as
well, though no file can have it. -/
def way (path : String) : List String :=
  if (names path).getLast? = some "." ∨ (names path).getLast? = some ".." then names path
  else (names path).dropLast

private theorem placeFor_eq_noEntry_iff (fs : FileSystem) (path : String) :
    fs.placeFor path = .error .noEntry ↔ fs.walk (fs.start path) (way path) = .error .noEntry := by
  have hdirectory : ErrorCode.isDirectory ≠ ErrorCode.noEntry := by decide
  have hfile : ErrorCode.notDirectory ≠ ErrorCode.noEntry := by decide
  have hlong : ErrorCode.nameTooLong ≠ ErrorCode.noEntry := by decide
  rw [placeFor, way]
  cases hlast : (names path).getLast? with
  | none =>
    have hnames : names path = [] := List.getLast?_eq_none_iff.mp hlast
    simp [hnames, hdirectory, walk, pure, Except.pure]
  | some last =>
    by_cases hdots : last = "." ∨ last = ".."
    · cases hwalk : fs.walk (fs.start path) (names path) <;> simp [hdots, hwalk, hdirectory, bind,
        Except.bind]
    · cases hwalk : fs.walk (fs.start path) (names path).dropLast with
      | error code => simp [hdots, hwalk, bind, Except.bind]
      | ok directory =>
        -- every refusal past the walk has another code
        have hplain : (last == "." || last == "..") = false := by simpa using hdots
        simp only [Option.some.injEq, hdots, hplain, Bool.false_eq_true, if_false, hwalk,
          reduceCtorEq, iff_false, bind, Except.bind]
        repeat' split
        all_goals simp [hdirectory, hfile, hlong]

/-- Opening fails for want of an entry when the path is empty or when a name on the way is missing;
the file itself may be missing. -/
theorem openForAppend_eq_noEntry_iff (fs : FileSystem) (path : String) :
    fs.openForAppend path = .error (.system .noEntry) ↔
      path = "" ∨ checkPath path = .ok () ∧
      fs.walk (fs.start path) (way path) = .error .noEntry := by
  rw [← checkPath_eq_noEntry_iff, ← placeFor_eq_noEntry_iff, openForAppend]
  cases hpath : checkPath path with
  | error e => simp [bind, Except.bind]
  | ok done =>
    cases hplace : fs.placeFor path with
    | error code => simp [asSystem, bind, Except.bind]
    | ok place => cases hnode : fs.node? place <;> simp [asSystem, bind, Except.bind, hnode]

/-- The same directories and files are in the same places, whatever the files hold. -/
structure SameTree (fs fs' : FileSystem) : Prop where
  working : fs.working = fs'.working
  kinds : ∀ place, (fs.node? place).map Node.isDirectory = (fs'.node? place).map Node.isDirectory

theorem node?_put (fs : FileSystem) (place other : Location) (node : Node) :
    (fs.put place node).node? other =
      if other.isEmpty then some .directory else if other = place then some node
        else fs.nodes.lookup other := by
  rw [node?]
  split
  · rfl
  · have hkept : ∀ nodes : List (Location × Node), other ≠ place →
        (nodes.filter (·.1 != place)).lookup other = nodes.lookup other := by
      intro nodes hother
      induction nodes with
      | nil => rfl
      | cons entry nodes ih =>
        by_cases hentry : entry.1 = place
        · have hskip : (other == entry.1) = false := by simpa [hentry] using hother
          rw [List.filter_cons_of_neg (by simp [hentry]), ih, List.lookup_cons, hskip]
        · rw [List.filter_cons_of_pos (by simpa using hentry), List.lookup_cons, List.lookup_cons,
            ih]
    by_cases hother : other = place
    · simp [put, hother]
    · have hskip : (other == place) = false := by simpa using hother
      rw [if_neg hother, put, List.lookup_cons, hskip]
      exact hkept fs.nodes hother

theorem sameTree_put (fs : FileSystem) (place : Location) (bytes bytes' : ByteArray) :
    (fs.put place (.file bytes)).SameTree (fs.put place (.file bytes')) where
  working := rfl
  kinds other := by
    rw [node?_put, node?_put]
    split
    · rfl
    · split
      · rfl
      · rfl

namespace SameTree

theorem refl (fs : FileSystem) : fs.SameTree fs := ⟨rfl, fun _ => rfl⟩

variable {fs fs' fs'' : FileSystem}

theorem trans (h : fs.SameTree fs') (h' : fs'.SameTree fs'') : fs.SameTree fs'' :=
  ⟨h.working.trans h'.working, fun place => (h.kinds place).trans (h'.kinds place)⟩

private theorem node? (h : fs.SameTree fs') (place : Location) :
    (fs.node? place = some .directory ∧ fs'.node? place = some .directory) ∨
      (∃ bytes bytes', fs.node? place = some (.file bytes) ∧
      fs'.node? place = some (.file bytes')) ∨
      fs.node? place = none ∧ fs'.node? place = none := by
  have hkind := h.kinds place
  match hnode : fs.node? place, hnode' : fs'.node? place with
  | some .directory, some .directory => simp
  | some (.file bytes), some (.file bytes') => simp
  | none, none => simp
  | some .directory, some (.file bytes') => simp [hnode, hnode', Node.isDirectory] at hkind
  | some (.file bytes), some .directory => simp [hnode, hnode', Node.isDirectory] at hkind
  | some node, none => simp [hnode, hnode'] at hkind
  | none, some node => simp [hnode, hnode'] at hkind

private theorem step (h : fs.SameTree fs') (place : Location) (name : String) :
    fs.step place name = fs'.step place name := by
  have hnext : (fs.node? (name :: place)).isSome = (fs'.node? (name :: place)).isSome := by
    obtain ⟨hnode, hnode'⟩ | ⟨bytes, bytes', hnode, hnode'⟩ | ⟨hnode, hnode'⟩ :=
      h.node? (name :: place)
    all_goals simp [hnode, hnode']
  rw [FileSystem.step, FileSystem.step, hnext]
  obtain ⟨hnode, hnode'⟩ | ⟨bytes, bytes', hnode, hnode'⟩ | ⟨hnode, hnode'⟩ := h.node? place
  all_goals rw [hnode, hnode']

theorem walk (h : fs.SameTree fs') (start : Location) (names : List String) :
    fs.walk start names = fs'.walk start names := by
  induction names generalizing start with
  | nil => rfl
  | cons name names ih =>
    rw [FileSystem.walk, FileSystem.walk, List.foldlM_cons, List.foldlM_cons, h.step]
    cases fs'.step start name with
    | error code => rfl
    | ok place => exact ih place

theorem isDirectory (h : fs.SameTree fs') (path : String) :
    fs.isDirectory path = fs'.isDirectory path := by
  have hstart : fs.start path = fs'.start path := by rw [start, start, h.working]
  have hplace : ∀ place, fs.node? place = some .directory ↔ fs'.node? place = some .directory := by
    intro place
    obtain ⟨hnode, hnode'⟩ | ⟨bytes, bytes', hnode, hnode'⟩ | ⟨hnode, hnode'⟩ := h.node? place
    all_goals simp [hnode, hnode']
  rw [Bool.eq_iff_iff, isDirectory_iff, isDirectory_iff, hstart, h.walk]
  simp only [hplace]

end SameTree

section Append

variable {fs fs' : FileSystem} {path : String} {place : Location} {old : ByteArray}

/-- A path by which a file can be read, if there is one at the place. -/
structure Reaches (fs : FileSystem) (path : String) (place : Location) : Prop where
  valid : checkPath path = .ok ()
  unslashed : endsInSlash path = false
  way : fs.walk (fs.start path) (names path) = .ok place

theorem read_eq_ok_iff (fs : FileSystem) (path : String) (bytes : ByteArray) :
    fs.read path = .ok bytes ↔ ∃ place,
      fs.Reaches path place ∧ fs.node? place = some (.file bytes) := by
  constructor
  · intro hread
    rw [read, resolve] at hread
    cases hpath : checkPath path with
    | error e => simp [hpath, bind, Except.bind] at hread
    | ok done =>
      cases hwalk : fs.walk (fs.start path) (names path) with
      | error code => simp [hpath, hwalk, asSystem, bind, Except.bind] at hread
      | ok place =>
        refine ⟨place, ⟨hpath, ?_, hwalk⟩, ?_⟩
        all_goals
          match hnode : fs.node? place with
          | none => simp [hpath, hwalk, asSystem, bind, Except.bind, hnode] at hread
          | some .directory =>
            simp [hpath, hwalk, asSystem, bind, Except.bind, hnode, Node.isDirectory] at hread
          | some (.file found) =>
            cases hslash : endsInSlash path with
            | true =>
              simp [hpath, hwalk, asSystem, bind, Except.bind, hnode, Node.isDirectory,
                hslash] at hread
            | false => simp_all [asSystem, bind, Except.bind, Node.isDirectory]
  · rintro ⟨place, h, hnode⟩
    simp [read, resolve, h.valid, h.way, h.unslashed, hnode, asSystem, bind, Except.bind]

theorem SameTree.reaches (h : fs.SameTree fs') (hreaches : fs.Reaches path place) :
    fs'.Reaches path place where
  valid := hreaches.valid
  unslashed := hreaches.unslashed
  way := by
    have hstart : fs.start path = fs'.start path := by rw [start, start, h.working]
    rw [← hstart, ← h.walk]
    exact hreaches.way

theorem node?_put_of_ne (fs : FileSystem) {other : Location} (hother : other ≠ place)
    (node : Node) :
    (fs.put place node).node? other = fs.node? other := by
  rw [node?_put, if_neg hother]
  rfl

theorem node?_append_of_ne (fs : FileSystem) {other : Location} (hother : other ≠ place)
    (bytes : ByteArray) :
    (fs.append place bytes).node? other = fs.node? other := by
  rw [append]
  split
  · exact fs.node?_put_of_ne hother _
  · rfl

@[simp] theorem append_working (fs : FileSystem) (place : Location) (bytes : ByteArray) :
    (fs.append place bytes).working = fs.working := by
  rw [append]
  split <;> rfl

theorem node?_withFile_of_ne (fs : FileSystem) {other : Location} (hother : other ≠ place) :
    (fs.withFile place).node? other = fs.node? other := by
  rw [withFile]
  split
  · exact fs.node?_put_of_ne hother _
  · rfl

theorem node?_append_self (hnode : fs.node? place = some (.file old)) (bytes : ByteArray) :
    (fs.append place bytes).node? place = some (.file (old ++ bytes)) := by
  have hplace : place.isEmpty = false := by
    cases hroot : place.isEmpty with
    | false => rfl
    | true => simp [node?, hroot] at hnode
  simp [append, hnode, node?_put, hplace]

theorem sameTree_append (hnode : fs.node? place = some (.file old)) (bytes : ByteArray) :
    fs.SameTree (fs.append place bytes) where
  working := (fs.append_working place bytes).symm
  kinds other := by
    by_cases hother : other = place
    · rw [hother, hnode, node?_append_self hnode]
      rfl
    · rw [node?_append_of_ne fs hother]

end Append

end FileSystem

end DaemonLaunch
