import DaemonLaunch.Activity
import DaemonLaunch.LaunchError

/-!
Steps of a launch: activities that may fail with a launch error. A failed step ends the launch but
not the process.
-/

namespace DaemonLaunch

/-- An activity that may fail. -/
abbrev Launch (α : Type) := ExceptT LaunchError Activity α

namespace Launch

/-- The value of a reply; a refused request fails with the error of its code. -/
def accept {α : Type} (refusal : ErrorCode → LaunchError) : Except ErrorCode α → Launch α
  | .ok value => pure value
  | .error code => throw (refusal code)

end Launch

end DaemonLaunch
