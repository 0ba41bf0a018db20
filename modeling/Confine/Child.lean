import Confine.Launch
import Confine.Output.Collector

/-!
# A running child, as its parent sees it

The parent knows what it has sent the child: bytes written to its terminal and signals
sent to its process group, each at a time. The child is deterministic, so everything it
has done by a given time follows from those. A handle keeps them together with the
trace they produce, computed up to a horizon; asking about a later time extends the
horizon, and sending something new recomputes the trace, which leaves everything
before the time of sending as it was.

The parent learns that the leader ended only when it looks (`poll`); from then on the
exit status is known and the leader is reaped. The group can be signalled while any of
its processes is left, and the unreaped leader counts as one.

Times are nanoseconds since the child was started.
-/

namespace Confine

open Confine.Host

/-- A launched child and what its parent has sent it. -/
structure Child where
  launch : Launch
  files : Node
  mode : TerminalMode
  /-- Bytes written to the terminal, oldest first. -/
  writes : List (Nat × List UInt8)
  /-- Signals sent to the group, oldest first. -/
  signals : List (Nat × Nat)
  /-- How far the trace is computed. -/
  horizon : Nat
  trace : Trace
  /-- The leader's exit status, once the parent has seen it end. -/
  status : Option Status
  /-- Whether the parent still holds the child's input. -/
  inputOpen : Bool

namespace Child

/-- How much further than asked a trace is computed, so that nearby questions reuse it. -/
def window : Nat := 30 * 1000000000

/-- The message of a write to a child whose input the parent does not hold. -/
def inputClosed : Error := .launchFailed "process input is closed"

/-- The trace for the current stimuli up to a horizon. -/
def traceTo (c : Child) (horizon : Nat) : Child :=
  { c with horizon, trace := c.launch.run c.files ⟨c.writes, c.signals⟩ horizon }

/-- The handle with its trace computed at least up to a time. -/
def upTo (c : Child) (t : Nat) : Child :=
  if t ≤ c.horizon then c else c.traceTo (t + window)

/-- Starts a child. Only a terminal gives the parent the child's input. -/
def spawn (spec : LaunchSpec) (host : HostView) : Except Error Child := do
  let l ← spec.start host
  let c : Child :=
    { launch := l
      files := host.files
      mode := spec.mode
      writes := []
      signals := []
      horizon := 0
      trace := ⟨[], none, none, none⟩
      status := none
      inputOpen := spec.mode == .pty }
  pure (c.traceTo window)

/-- When the leader ended, as far as the trace reaches. -/
def leaderEnd (c : Child) : Option Nat := c.trace.leader.map (·.1)

/-- Whether the leader ended by a time, as far as the trace reaches. -/
def endedBy (c : Child) (t : Nat) : Bool :=
  match c.leaderEnd with
  | some x => x ≤ t
  | none => false

/-- Looks at the leader at a time: whether it still runs. When it has ended, its
status becomes known. -/
def poll (c : Child) (t : Nat) : Child × Bool :=
  if c.status.isSome then (c, false)
  else
    let c := c.upTo t
    match c.trace.leader with
    | some (x, st) => if x ≤ t then ({ c with status := some st }, false) else (c, true)
    | none => (c, true)

/-- Whether a process of the group is left at a time; the unreaped leader is one. -/
def groupAlive (c : Child) (t : Nat) : Bool :=
  c.status.isNone ||
    match (c.upTo t).trace.groupEnd with
    | some g => t < g
    | none => true

/-- Signals the group at a time. The signal is delivered only while the group is
there; the answer says whether it was. A signal sent at the instant of the start
reaches the group a nanosecond later, once it has started. -/
def signal (c : Child) (t : Nat) (sig : Nat) : Child × Bool :=
  if c.groupAlive t then
    ({ c with signals := c.signals ++ [(max t 1, sig)] }.traceTo (max c.horizon t + window), true)
  else (c, false)

/-- Asks the group to end. -/
def terminate (c : Child) (t : Nat) : Child := (c.signal t Signal.term).1

/-- Kills the group. -/
def forceKill (c : Child) (t : Nat) : Child := (c.signal t Signal.kill).1

/-- Writes bytes to the child's input at a time. -/
def write (c : Child) (t : Nat) (bytes : List UInt8) : Except Error Child :=
  if !c.inputOpen then .error inputClosed
  else .ok ({ c with writes := c.writes ++ [(t, bytes)] }.traceTo (max c.horizon t + window))

/-- The exit code of the leader once it is known: its own code, or 128 and the signal
that ended it. -/
def exitCode (c : Child) : Option Int := c.status.map fun st => (st.code : Int)

/-- When the last holder of the child's output let go, as far as the trace reaches. -/
def outputEnd (c : Child) : Option Nat := c.trace.outputEnd

/-- Everything the child wrote up to a time, with its stream; on a terminal there is
one stream. Nothing is read after the output ended. -/
def outputTo (c : Child) (t : Nat) : List (Stream × List UInt8) :=
  let last := match c.outputEnd with
    | some e => min e t
    | none => t
  let stream (s : Stream) : Stream := if c.mode == .pty then .stdout else s
  (c.trace.events.filter (·.time ≤ last)).map fun e => (stream e.stream, e.bytes)

/-- The chunks of output that reached the parent before a time, on any stream.
Nothing is read after the output ended. -/
def arrivedBefore (c : Child) (t : Nat) : List (List UInt8) :=
  let readable (e : Shell.Event) : Bool := match c.outputEnd with
    | some x => e.time ≤ x
    | none => true
  (c.trace.events.filter fun e => e.time < t && readable e).map (·.bytes)

/-- When reading the output ends, for a reader that starts waiting at a time and gives
up after a limit: at the end of the output, or at the limit. -/
def drainEnd (c : Child) (t limit : Nat) : Nat :=
  match (c.upTo (t + limit)).outputEnd with
  | some e => if e ≤ t then t else min e (t + limit)
  | none => t + limit

/-- Lets go of the child's input. -/
def closeInput (c : Child) : Child := { c with inputOpen := false }

end Child

end Confine
