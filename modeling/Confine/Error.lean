/-!
# Errors of the engine

Three things go wrong for a caller: a working directory that cannot be used, a child
that cannot be started or written to, and a session id that is not registered.
-/

namespace Confine

/-- An error the engine reports to its caller. -/
inductive Error where
  | invalidWorkingDirectory (path : String)
  | launchFailed (context : String)
  | sessionNotFound (id : String)
  deriving DecidableEq, Repr

/-- The message of an error. -/
def Error.message : Error → String
  | .invalidWorkingDirectory p => "invalid working directory: " ++ p
  | .launchFailed c => "launch failed: " ++ c
  | .sessionNotFound id => "session not found: " ++ id

/-- The kind of an error, as callers tell them apart. -/
def Error.kind : Error → String
  | .invalidWorkingDirectory _ => "InvalidWorkingDirectory"
  | .launchFailed _ => "LaunchFailed"
  | .sessionNotFound _ => "SessionNotFound"

end Confine
