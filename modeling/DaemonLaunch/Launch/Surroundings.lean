import DaemonLaunch.Launch

/-!
What a daemon changes about its surroundings: the standard streams lead to the null device, and the
working directory is the root.
-/

namespace DaemonLaunch.Launch

open Activity

/-- Lets a stream lead to the null device. -/
def redirect (stream : Stream) : Launch Unit := do
  accept (fun code => .streams (.notRedirected stream (.ofCode code))) (← ask (.redirect stream))

/-- Lets every standard stream lead to the null device, one after the other. -/
def detachStreams : Launch Unit := do
  accept (fun code => .streams (.noNullDevice (.system code))) (← ask .openNull)
  Stream.all.forM redirect

def enterRoot : Launch Unit := do
  accept (fun code => .other (.notInRoot (.system code))) (← ask (.enterDirectory "/"))

end DaemonLaunch.Launch
