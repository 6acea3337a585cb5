import DaemonLaunch.Settings.Field

/-!
What a TOML document has defined so far. Every path of keys names a value, a table or a list of
tables; a path through a list of tables leads into its last one. The top level keeps its entries in
order, each with the stretch of text that stands for it in messages.
-/

namespace DaemonLaunch.Toml

open Settings (Value)

/-- What a path of keys names. -/
inductive Named
  | value
  /-- A table with a header of its own. -/
  | table
  /-- A table that only the header of a table inside it speaks of. -/
  | outerTable
  /-- A table that a key with dots has made. -/
  | dottedTable
  | tables
  deriving DecidableEq, Repr

/-- A stretch of text: what is left to read at its start and at its end. -/
structure Stretch where
  start : List Char
  stop : List Char
  deriving Inhabited

/-- An entry at the top level. -/
structure Entry where
  key : String
  value : Value
  stretch : Stretch

/-- A path of keys with the stretch of its first key. -/
structure KeyPath where
  keys : List String
  first : Stretch

structure Contents where
  named : List (List String × Named) := []
  entries : List Entry := []
  /-- The table that keys are read into. -/
  current : List String := []

namespace Contents

def lookup (c : Contents) (path : List String) : Option Named := c.named.lookup path

/-- Names a path anew; at the top level the entry goes to the end. -/
def define (c : Contents) (path : List String) (named : Named) (value : Value) (stretch : Stretch) :
    Contents :=
  { c with
    named := (path, named) :: c.named.filter (·.1 != path)
    entries := match path with
      | [key] => c.entries.filter (·.key != key) ++ [⟨key, value, stretch⟩]
      | _ => c.entries }

/-- Moves the end of a table's stretch. -/
def extendTo (c : Contents) (path : List String) (stop : List Char) : Contents :=
  { c with entries := c.entries.map fun entry =>
      if path == [entry.key] then { entry with stretch := { entry.stretch with stop := stop } }
      else entry }

private def openOuter (first : Stretch) (c : Contents) (path : List String) : Option Contents :=
  match c.lookup path with
  | none => some (c.define path .outerTable .map first)
  | some .value => none
  | some _ => some c

private def openDotted (first : Stretch) (c : Contents) (path : List String) : Option Contents :=
  match c.lookup path with
  | none => some (c.define path .dottedTable .map first)
  | some .value | some .table => none
  | some _ => some c

private def properPrefixes (keys : List String) : List (List String) :=
  (List.range (keys.length - 1)).map fun n => keys.take (n + 1)

/-- A header of a table, which must be new or only spoken of by headers of tables inside it. -/
def openTable (c : Contents) (path : KeyPath) (header : Stretch) : Option Contents := do
  let c ← (properPrefixes path.keys).foldlM (openOuter path.first) c
  match c.lookup path.keys with
  | none | some .outerTable =>
    some { c.define path.keys .table .map header with current := path.keys }
  | some _ => none

/-- A header of one more table of a list. The stretch of the list runs from the first header on. -/
def openTables (c : Contents) (path : KeyPath) (header : Stretch) : Option Contents := do
  let c ← (properPrefixes path.keys).foldlM (openOuter path.first) c
  match c.lookup path.keys with
  | none => some { c.define path.keys .tables .sequence header with current := path.keys }
  | some .tables =>
    let within := c.named.filter fun entry =>
      !(path.keys.isPrefixOf entry.1 && entry.1 != path.keys)
    some { ({ c with named := within }).extendTo path.keys header.stop with current := path.keys }
  | some _ => none

/-- A key of the current table with its value. -/
def addValue (c : Contents) (path : KeyPath) (value : Value) (stretch : Stretch) :
    Option Contents := do
  let above := (properPrefixes path.keys).map (c.current ++ ·)
  let c ← above.foldlM (openDotted path.first) c
  match above.getLast?.map c.lookup with
  | none | some (some .dottedTable) =>
    let full := c.current ++ path.keys
    if (c.lookup full).isSome then none
    else some ((c.define full .value value stretch).extendTo c.current stretch.stop)
  | some _ => none

/-- The contents are pairs of keys and values at the top level, and keys are read into it. -/
structure Holds (c : Contents) (pairs : List (String × Value)) : Prop where
  current : c.current = []
  entries : c.entries.map (fun entry => (entry.key, entry.value)) = pairs
  lookup : ∀ key, key ∉ pairs.map Prod.fst → c.lookup [key] = none

theorem holds_nil : Contents.Holds {} [] := ⟨rfl, rfl, fun _ _ => rfl⟩

section Holds

variable {c : Contents} {pairs : List (String × Value)} {key : String}

theorem Holds.define (h : c.Holds pairs) (hnew : key ∉ pairs.map Prod.fst) (value : Value)
    (stretch : Stretch) :
    (c.define [key] .value value stretch).Holds (pairs ++ [(key, value)]) where
  current := h.current
  entries := by
    have hkeep : c.entries.filter (·.key != key) = c.entries := by
      refine List.filter_eq_self.mpr fun entry hentry => ?_
      have hmem : entry.key ∈ pairs.map Prod.fst := by
        rw [← h.entries, List.map_map]
        exact List.mem_map_of_mem hentry
      have hne : entry.key ≠ key := fun heq => hnew (heq ▸ hmem)
      simpa using hne
    simp only [Contents.define, hkeep, List.map_append, h.entries, List.map_cons, List.map_nil]
  lookup other hother := by
    rw [List.map_append, List.mem_append, not_or] at hother
    have hne : other ≠ key := by simpa using hother.2
    have hold : c.lookup [other] = none := h.lookup other hother.1
    rw [Contents.lookup, List.lookup_eq_none_iff] at hold
    rw [Contents.lookup, Contents.define, List.lookup_eq_none_iff]
    intro entry hentry
    obtain rfl | hkept := List.mem_cons.mp hentry
    · simpa using hne
    · exact hold entry (List.mem_filter.mp hkept).1

theorem Holds.addValue (h : c.Holds pairs) (hnew : key ∉ pairs.map Prod.fst) (first : Stretch)
    (value : Value) (stretch : Stretch) :
    ∃ c', c.addValue ⟨[key], first⟩ value stretch = some c' ∧
      c'.Holds (pairs ++ [(key, value)]) := by
  have hextend : ∀ (c : Contents) (stop : List Char), c.extendTo [] stop = c := by
    intro c stop
    simp [extendTo]
  refine ⟨_, ?_, h.define hnew value stretch⟩
  simp [Contents.addValue, properPrefixes, h.current, h.lookup key hnew, hextend]

end Holds

end Contents

/-- The paths named within an inline table. -/
abbrev InlineNames := List (List String × Named)

/-- A key of an inline table. -/
def InlineNames.add (names : InlineNames) (keys : List String) : Option InlineNames := do
  let names ← (Contents.properPrefixes keys).foldlM (fun (names : InlineNames) path =>
    match names.lookup path with
    | none => some ((path, .dottedTable) :: names)
    | some .dottedTable => some names
    | some _ => none) names
  if (names.lookup keys).isSome then none else some ((keys, .value) :: names)

end DaemonLaunch.Toml
