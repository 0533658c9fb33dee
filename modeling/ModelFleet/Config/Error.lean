/-!
# Errors of the daemon

Why a daemon cannot be made from its settings, or cannot run.
-/

namespace ModelFleet

inductive DaemonError
  | config (detail : String)
  | server (detail : String)
  | io (detail : String)
  deriving DecidableEq

def DaemonError.message : DaemonError → String
  | config detail => s!"Configuration error: {detail}"
  | server detail => s!"Server error: {detail}"
  | io detail => s!"IO error: {detail}"

end ModelFleet
