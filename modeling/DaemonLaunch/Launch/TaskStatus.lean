import DaemonLaunch.Bounds
import DaemonLaunch.Text.Blank
import DaemonLaunch.Text.Numeral

/-!
The status line of a process: its identifier, its name in brackets, and fields between blanks. The
name may hold anything, brackets too, so the fields are looked for after the last closing bracket.
-/

namespace DaemonLaunch

/-- What is needed of a status line. -/
structure TaskStatus where
  /-- The first character of the state. -/
  state : Char
  /-- The number of the controlling terminal; zero is none. -/
  terminal : Int32
  deriving DecidableEq, Repr

namespace TaskStatus

/-- The text after the last closing bracket, if there is one. -/
def afterName? (line : List Char) : Option (List Char) :=
  if line.contains ')' then some (line.reverse.takeWhile (· != ')')).reverse else none

/-- A signed word of 32 bits. -/
def word? (text : List Char) : Option Int32 :=
  (Text.integer? Bounds.leastSigned32 Bounds.mostSigned32 text).map Int32.ofInt

/-- The status that a line gives: the state is the first field after the name and the terminal is
the fifth. -/
def ofLine? (line : String) : Option TaskStatus := do
  let rest ← afterName? line.toList
  match Text.words rest with
  | (state :: _) :: _ :: _ :: _ :: terminal :: _ => return ⟨state, ← word? terminal⟩
  | _ => none

theorem afterName?_append {rest : List Char} (hrest : ')' ∉ rest) (before : List Char) :
    afterName? (before ++ ')' :: rest) = some rest := by
  have hno : ∀ c ∈ rest.reverse, (c != ')') = true := by
    intro c hc
    simp only [bne_iff_ne]
    rintro rfl
    exact hrest (List.mem_reverse.mp hc)
  have hreverse : (before ++ ')' :: rest).reverse = rest.reverse ++ ')' :: before.reverse := by simp
  rw [afterName?, if_pos (by simp), hreverse, List.takeWhile_append_of_pos hno]
  simp

theorem word?_ofInt (word : Int32) : word? (Text.ofInt word.toInt).toList = some word := by
  have hleast : Bounds.leastSigned32 ≤ word.toInt := word.le_toInt
  have hmost : word.toInt ≤ Bounds.mostSigned32 := Int.le_of_lt_add_one word.toInt_lt
  rw [word?, Text.integer?_ofInt hleast hmost, Option.map_some, Int32.ofInt_toInt]

/-- A dead process may still have a status; its state says so. -/
def isDead (status : TaskStatus) : Bool :=
  status.state == 'Z' || status.state == 'X' || status.state == 'x'

end TaskStatus

end DaemonLaunch
