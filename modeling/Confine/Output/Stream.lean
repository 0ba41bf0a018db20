/-!
# Output streams

A child writes to two streams. Through pipes they stay apart; through a terminal
both arrive merged on one stream.
-/

namespace Confine

/-- The two output streams of a child process. -/
inductive Stream where
  | stdout
  | stderr
  deriving DecidableEq, Repr, Inhabited

end Confine
