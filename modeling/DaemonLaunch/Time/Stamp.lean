import DaemonLaunch.Time.Span

/-!
Time stamps: the calendar date and the time of day, to the microsecond, of a span since the start of
1970.
-/

namespace DaemonLaunch

structure Date where
  year : Nat
  month : Nat
  day : Nat
  deriving DecidableEq, Repr

namespace Date

/-- The date that many days after the first of January 1970. Years are counted from March on, so
that the leap day ends the year, in eras of 400 years of equal length. -/
def ofDays (days : Nat) : Date :=
  let shifted := days + 719468
  let era := shifted / 146097
  let ofEra := shifted % 146097
  let year := (ofEra - ofEra / 1460 + ofEra / 36524 - ofEra / 146096) / 365
  let ofYear := ofEra - (365 * year + year / 4 - year / 100)
  let month := (5 * ofYear + 2) / 153
  let day := ofYear - (153 * month + 2) / 5 + 1
  if month < 10 then ⟨year + era * 400, month + 3, day⟩ else ⟨year + era * 400 + 1, month - 9, day⟩

end Date

/-- The time stamp of the given span since the start of 1970; a year of five digits has a plus
sign. -/
def Span.stamp (s : Span) : String :=
  let seconds := s.nanoseconds / 1000000000
  let date := Date.ofDays (seconds / 86400)
  let ofDay := seconds % 86400
  let padded (width n : Nat) := Text.padLeft width '0' (toString n)
  let year := if 9999 < date.year then "+" ++ toString date.year else padded 4 date.year
  year ++ "-" ++ padded 2 date.month ++ "-" ++ padded 2 date.day ++ "T" ++
    padded 2 (ofDay / 3600) ++ ":" ++ padded 2 (ofDay / 60 % 60) ++ ":" ++
    padded 2 (ofDay % 60) ++ "." ++ padded 6 (s.nanoseconds / 1000 % 1000000) ++ "Z"

end DaemonLaunch
