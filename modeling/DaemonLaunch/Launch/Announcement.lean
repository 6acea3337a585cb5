import DaemonLaunch.Bounds
import DaemonLaunch.Launch.Writer
import DaemonLaunch.Text.Cut

/-!
The line that announces a daemon: fixed words and the daemon's identifier. It is read back with any
line ends after it.
-/

namespace DaemonLaunch

namespace Announcement

/-- The words before the identifier. -/
def lead : List Char := "Daemon PID ".toList

def text (daemon : Pid) : String := String.ofList lead ++ daemon.text

/-- The line with its end. -/
def line (daemon : Pid) : List UInt8 := (text daemon ++ "\n").toUTF8.toList

theorem line_eq (daemon : Pid) :
    line daemon = ("Daemon PID " ++ daemon.text ++ "\n").toUTF8.toList := by
  have hlead : String.ofList lead = "Daemon PID " := String.ofList_toList
  have htext : text daemon = "Daemon PID " ++ daemon.text := congrArg (· ++ daemon.text) hlead
  exact congrArg (fun text : String => (text ++ "\n").toUTF8.toList) htext

/-- The pieces in which the line is written. -/
def pieces (daemon : Pid) : List (List UInt8) := [(text daemon).toUTF8.toList, "\n".toUTF8.toList]

theorem text_append_end (daemon : Pid) :
    (text daemon).toUTF8.toList ++ "\n".toUTF8.toList = line daemon :=
  (Text.toList_toUTF8_append (text daemon) "\n").symm

theorem flatten_pieces (daemon : Pid) : (pieces daemon).flatten = line daemon := by
  rw [← text_append_end, pieces, List.flatten_cons, List.flatten_singleton]

theorem text_ne_nil (daemon : Pid) : (text daemon).toUTF8.toList ≠ [] := by
  have hlead : lead ≠ [] := by decide
  apply Text.toList_toUTF8_ne_nil
  rw [text, String.toList_append, String.toList_ofList]
  exact List.append_ne_nil_of_left_ne_nil hlead _

/-- Writes the line with its end and passes it on. -/
def write {m : Type → Type} [Monad m] (w : Writer m) (daemon : Pid) : m (Except IoError Unit) :=
  w.writePieces (pieces daemon)

/-- Announces a daemon, or fails with what the writer fails with. -/
def announce {m : Type → Type} [Monad m] (w : Writer m) (daemon : Pid) :
    ExceptT LaunchError m Unit :=
  ExceptT.adapt .inputOutput (ExceptT.mk (write w daemon))

private def isLineEnd (c : Char) : Bool := c == '\r' || c == '\n'

/-- What follows the words before the identifier up to the line ends. -/
def remainder? (line : String) : Option (List Char) :=
  let body := (line.toList.reverse.dropWhile isLineEnd).reverse
  if lead.isPrefixOf body then some (body.drop lead.length) else none

private theorem isLineEnd_iff (c : Char) : isLineEnd c = true ↔ c = '\r' ∨ c = '\n' := by
  simp [isLineEnd]

theorem exists_ends_of_remainder? {line : String} {rest : List Char}
    (h : remainder? line = some rest) :
    ∃ ends, (∀ c ∈ ends, c = '\r' ∨ c = '\n') ∧ line.toList = lead ++ rest ++ ends := by
  let body := (line.toList.reverse.dropWhile isLineEnd).reverse
  let ends := (line.toList.reverse.takeWhile isLineEnd).reverse
  have hline : body ++ ends = line.toList := by
    rw [← List.reverse_append, List.takeWhile_append_dropWhile, List.reverse_reverse]
  have hprefix : lead <+: body ∧ body.drop lead.length = rest := by simpa [remainder?, body] using h
  obtain ⟨⟨rest', hbody⟩, hrest⟩ := hprefix
  rw [← hbody, List.drop_left] at hrest
  refine ⟨ends, ?_, by rw [← hline, ← hbody, hrest]⟩
  intro c hc
  have hend :=
    List.all_eq_true.mp (List.all_takeWhile (p := isLineEnd) (l := line.toList.reverse)) c
      (List.mem_reverse.mp hc)
  exact (isLineEnd_iff c).mp hend

theorem remainder?_of_ends {line : String} {rest ends : List Char} {last : Char}
    (hends : ∀ c ∈ ends, c = '\r' ∨ c = '\n')
    (hlast : last ≠ '\r' ∧ last ≠ '\n') (hline : line.toList = lead ++ (rest ++ [last]) ++ ends) :
    remainder? line = some (rest ++ [last]) := by
  have hdropped : ∀ c ∈ ends.reverse, isLineEnd c = true :=
    fun c hc => (isLineEnd_iff c).mpr (hends c (List.mem_reverse.mp hc))
  have hstays : isLineEnd last = false := by simpa [isLineEnd] using hlast
  have hbody : (line.toList.reverse.dropWhile isLineEnd).reverse = lead ++ (rest ++ [last]) := by
    rw [hline, List.reverse_append, List.dropWhile_append_of_pos hdropped]
    simp [hstays]
  simp [remainder?, hbody]

/-- The number announced by a line: digits only, and within the range of identifiers. -/
def number (line : String) : Except OtherCause Int32 :=
  match remainder? line with
  | none => .error (.notAnnouncement line)
  | some digits =>
    match Text.numeral? digits with
    | none => .error (.badNumber line)
    | some n =>
      if (n : Int) ≤ Bounds.mostSigned32 then .ok (Int32.ofNat n) else .error .numberTooLarge

end Announcement

end DaemonLaunch
