import DaemonLaunch.Settings
import DaemonLaunch.Settings.Field

/-!
Drafts: settings of which some fields are still open. A document or a command line gives a draft;
the fields it leaves open keep the value they have without it.
-/

namespace DaemonLaunch.Settings

structure Draft where
  sleepSeconds : Option Nat := none
  detachStreams : Option Bool := none
  enterRoot : Option Bool := none
  logFilter : Option String := none
  logFile : Option (Option String) := none
  deriving DecidableEq, Repr, Inhabited

namespace Draft

def has (d : Draft) : Field → Bool
  | .sleepSeconds => d.sleepSeconds.isSome
  | .detachStreams => d.detachStreams.isSome
  | .enterRoot => d.enterRoot.isSome
  | .logFilter => d.logFilter.isSome
  | .logFile => d.logFile.isSome

/-- The draft with a field given by a value of a document. -/
def assign (d : Draft) (field : Field) (value : Value) : Except Mismatch Draft :=
  match field, value with
  | .sleepSeconds, .integer n =>
    if 0 ≤ n then .ok { d with sleepSeconds := some n.toNat }
    else .error { found := value, expected := field.expected, outOfRange := true }
  | .detachStreams, .boolean b => .ok { d with detachStreams := some b }
  | .enterRoot, .boolean b => .ok { d with enterRoot := some b }
  | .logFilter, .text s => .ok { d with logFilter := some s }
  | .logFile, .text s => .ok { d with logFile := some (some s) }
  | .logFile, .null => .ok { d with logFile := some none }
  | _, _ => .error { found := value, expected := field.expected }

/-- The settings with the given fields, and the open ones taken from a base. -/
def fillFrom (d : Draft) (base : Settings) : Settings where
  sleepSeconds := d.sleepSeconds.getD base.sleepSeconds
  detachStreams := d.detachStreams.getD base.detachStreams
  enterRoot := d.enterRoot.getD base.enterRoot
  logFilter := d.logFilter.getD base.logFilter
  logFile := d.logFile.getD base.logFile

/-- The settings with every open field at the default of the field, which for two of them is that of
their type. -/
def complete (d : Draft) : Settings where
  sleepSeconds := d.sleepSeconds.getD defaultSleepSeconds
  detachStreams := d.detachStreams.getD defaultDetachStreams
  enterRoot := d.enterRoot.getD default
  logFilter := d.logFilter.getD defaultLogFilter
  logFile := d.logFile.getD default

/-- The defaults of the fields are those of the settings as a whole. -/
theorem complete_eq_fillFrom (d : Draft) : d.complete = d.fillFrom {} := rfl

end Draft

/-- A value is what is given for it, and if nothing is given it is the one to fall back to. -/
structure Prefers {α : Type} (Given : α → Prop) (fallback value : α) : Prop where
  given : ∀ a, Given a → value = a
  otherwise : (∀ a, ¬Given a) → value = fallback

theorem prefers_getD {α : Type} {Given : α → Prop} {given? : Option α}
    (h : ∀ a, given? = some a ↔ Given a) (fallback : α) :
    Prefers Given fallback (given?.getD fallback) where
  given a ha := by rw [(h a).mpr ha, Option.getD_some]
  otherwise hnone := by
    have hopen : given? = none := Option.eq_none_iff_forall_ne_some.mpr fun a ha =>
      hnone a ((h a).mp ha)
    rw [hopen, Option.getD_none]

end DaemonLaunch.Settings
