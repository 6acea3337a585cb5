import DaemonLaunch.LogFilter.Directive

/-!
Log filters: directives between commas, empty ones left out. Of the directives that speak of an
event, the one with the longest target decides, then the one with more fields, then the last in the
text; an event that no directive speaks of is not let through.
-/

namespace DaemonLaunch

/-- The directives of a filter in the order of the text. -/
structure LogFilter where
  directives : List LogFilter.Directive
  deriving DecidableEq, Repr

namespace LogFilter

def ofText (text : String) : Except FilterError LogFilter := do
  let pieces := (text.toList.splitOn ',').filter fun piece => !piece.isEmpty
  return ⟨← pieces.mapM Directive.ofText⟩

/-- Whether a directive speaks of events with the target. Spans and field values never occur, and an
event's only field is its message. -/
def Directive.concerns (d : Directive) (target : List Char) : Bool :=
  d.span.isNone && (d.fields.all fun field => !field.hasValue && field.name == "message".toList) &&
    match d.target with
    | none => true
    | some start => start.isPrefixOf target

/-- The length of the target, none coming before the empty one. -/
def Directive.targetRank (d : Directive) : Nat :=
  match d.target with
  | none => 0
  | some start => start.length + 1

/-- Whether the second directive decides before the first. -/
def Directive.yieldsTo (first second : Directive) : Bool :=
  first.targetRank < second.targetRank ||
    (first.targetRank == second.targetRank && first.fields.length ≤ second.fields.length)

/-- The directive that decides on events with the target. -/
def decisive (filter : LogFilter) (target : String) : Option Directive :=
  (filter.directives.filter (·.concerns target.toList)).foldl (fun best d =>
    match best with
    | none => some d
    | some first => if first.yieldsTo d then some d else some first) none

/-- Whether an event with the level and target is let through. -/
def admits (filter : LogFilter) (level : Level) (target : String) : Bool :=
  match filter.decisive target with
  | some d => d.threshold.passes level
  | none => false

end LogFilter

end DaemonLaunch
