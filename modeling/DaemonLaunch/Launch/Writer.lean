import DaemonLaunch.Activity
import DaemonLaunch.LaunchError

/-!
Writers take bytes, perhaps fewer at a time than they are given. Writing all bytes goes on until
none is left, the writer fails, or it takes none; a write that is interrupted is made again.
-/

namespace DaemonLaunch

/-- Something that bytes can be written to. -/
structure Writer (m : Type → Type) where
  /-- Takes some of the bytes, as many as the answer says. -/
  write : List UInt8 → m (Except IoError Nat)
  /-- Passes on what has been taken. -/
  flush : m (Except IoError Unit)
  /-- How often its writes are interrupted, at most. -/
  interruptions : Nat := 0

namespace Writer

variable {m : Type → Type} [Monad m]

/-- Writes all of the bytes, where writes are interrupted so often at most. -/
def writeRest (w : Writer m) : (interruptions : Nat) → List UInt8 → m (Except IoError Unit)
  | _, [] => pure (.ok ())
  | interruptions, b :: bytes => do
    match ← w.write (b :: bytes) with
    | .error failure =>
      if _h : failure = .system .interrupted ∧
        0 < interruptions then w.writeRest (interruptions - 1) (b :: bytes)
      else pure (.error failure)
    | .ok taken =>
      if _h : taken = 0 then pure (.error .wroteNothing)
      else w.writeRest interruptions ((b :: bytes).drop taken)
  -- a write that is made again has one interruption less to come, any other has fewer bytes
  termination_by interruptions bytes => interruptions + bytes.length
  decreasing_by all_goals simp only [List.length_drop, List.length_cons]; omega

def writeAll (w : Writer m) (bytes : List UInt8) : m (Except IoError Unit) :=
  w.writeRest w.interruptions bytes

/-- Writes pieces one after the other and passes them on. -/
def writePieces (w : Writer m) : List (List UInt8) → m (Except IoError Unit)
  | [] => w.flush
  | piece :: pieces => do
    match ← w.writeAll piece with
    | .error failure => pure (.error failure)
    | .ok () => w.writePieces pieces

end Writer

/-- Standard output takes all it is given. -/
def standardOutput : Writer Activity where
  write bytes := do
    Activity.perform (.print bytes)
    return .ok bytes.length
  flush := return .ok ()

/-- The write end of the pipe, whose writes are interrupted so often at most. -/
def pipeEnd (interruptions : Nat) : Writer Activity where
  write bytes := do
    match ← Activity.ask (.send bytes) with
    | .ok taken => return .ok taken
    | .error code => return .error (.system code)
  flush := return .ok ()
  interruptions := interruptions

/-- A store that takes a limited count of bytes. -/
structure Store where
  taken : List UInt8 := []
  /-- How many bytes it takes in all. -/
  capacity : Nat
  /-- How many it takes at once, by the count it has. -/
  portion : Nat → Nat := fun _ => capacity
  /-- How it fails when it is full; without this it takes no bytes. -/
  failure : Option ErrorCode := none
  flushFailure : Option ErrorCode := none

def Store.writer : Writer (StateM Store) where
  write bytes := fun store =>
    let room := store.capacity - store.taken.length
    if room = 0 then
      match store.failure with
      | some code => (.error (.system code), store)
      | none => (.ok 0, store)
    else
      let part := bytes.take (min room (max 1 (store.portion store.taken.length)))
      (.ok part.length, { store with taken := store.taken ++ part })
  flush := fun store =>
    match store.flushFailure with
    | some code => (.error (.system code), store)
    | none => (.ok (), store)

end DaemonLaunch
