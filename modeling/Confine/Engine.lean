import Confine.Child
import Confine.Text.Utf8

/-!
# Running one command

The engine runs a command under the configured shell and waits for it. It looks at the
child once per poll interval: an ended leader ends the wait, and otherwise a passed
deadline, or a cancellation by the caller, starts the escalation. Escalating asks the
whole group to end, waits out the grace period while looking at each tick, and then
kills the group and waits up to five seconds more for the leader. The engine then
reads what is left of the output for at most half a second.

The result carries the leader's exit code, or 124 when the deadline passed, in which
case the line `command timed out` ends the error text. Both texts are the collected
bytes read as UTF-8, each ill-formed sequence replaced.

## Time

A call runs on a clock of its own, in nanoseconds from the start of the call. The
child starts one millisecond in. A look at the child is followed by a sleep of the
poll interval, which the host's timer stretches by half a millisecond, so the looks
are one tick apart. Reading the clock is free.
-/

namespace Confine

open Confine.Host

/-- A request to run one command. -/
structure Request where
  command : String
  cwd : Option String := none
  timeout : Option Duration := none
  terminalMode : Option TerminalMode := none
  env : List (String × String) := []
  deriving Repr

/-- What one command produced. -/
structure ExecResult where
  exitCode : Int
  stdout : String
  stderr : String
  truncated : Bool
  timedOut : Bool
  deriving Repr, DecidableEq

/-- How a call can go wrong: an error of the engine, or an overflow of the host's
clock, which stops the caller altogether. -/
inductive Fault where
  | error (e : Error)
  | overflow (message : String)
  deriving Repr, DecidableEq

/-- How a call ends for its caller: with a result, or given up before it came. -/
inductive Reply where
  | finished (r : ExecResult)
  | abandoned
  deriving Repr, DecidableEq

/-- What interrupts a call from outside, in nanoseconds from its start: a cancellation
of the command, and the caller giving up on the call. -/
structure Interruptions where
  cancelAt : Option Nat := none
  abandonAt : Option Nat := none
  deriving Repr

/-- Why the wait for the child ended. -/
inductive Ending where
  | exited
  | timedOut
  | cancelled
  deriving DecidableEq, Repr

/-- An engine: its settings, and the host it runs on with its own environment. -/
structure Engine where
  config : ExecConfig
  host : HostView
  env : List (String × String)

namespace Clock

/-- Nanoseconds in a millisecond. -/
def milli : Nat := 1000000

/-- From the start of a call to the start of its child. -/
def launchDelay : Nat := milli

/-- What the host's timer adds to every sleep. -/
def timerSlack : Nat := 500000

/-- How long the engine reads the output after the child is gone. -/
def drainLimit : Nat := 500 * milli

/-- How long the engine waits for a killed leader. -/
def confirmLimit : Nat := 5000 * milli

/-- The clock reading of the host's monotonic clock when a call starts. -/
def origin : Instant := ⟨1000 * 1000000000⟩

/-- The panic text of a deadline the host's clock cannot hold. -/
def overflowMessage : String := "overflow when adding duration to instant"

/-- The first multiple of a step that is at least a time. -/
def ticksTo (time step : Nat) : Nat := (time + step - 1) / step

theorem ticksTo_spec (time step : Nat) (h : 0 < step) : time ≤ ticksTo time step * step := by
  unfold ticksTo
  have := Nat.lt_div_mul_add (a := time + step - 1) h
  omega

end Clock

/-- The error text with a line after it: on a line of its own unless the text is empty
or ends a line. -/
def appendLine (text line : String) : String :=
  if text.isEmpty || text.endsWith "\n" then text ++ line else text ++ "\n" ++ line

/-- The line that ends the error text of a command that ran out of time. -/
def timeoutLine : String := "command timed out"

/-- The exit code of a command that ran out of time. -/
def timeoutExitCode : Int := 124

namespace Engine

/-- The launch a request asks for: the working directory resolved inside the jail and
existing, the configured shell, the environment the child receives. -/
def prepare (e : Engine) (command : String) (cwd : Option String) (mode : TerminalMode)
    (env : List (String × String)) : Except Error LaunchSpec := do
  let resolved ← Workspace.resolve e.host e.config.workspaceRoot cwd
  let dir ← Workspace.ensureDirectory e.host resolved
  let parent := fun k => (e.env.find? (·.1 == k)).map (·.2)
  pure { shell := e.config.shell, command, cwd := dir, mode,
         env := (Env.forChild parent e.config.envAllowlist env).toList }

/-- How far the wait needs the child's trace: a tick past the deadline or the
cancellation, whichever comes first, or the horizon when there is neither. -/
def waitBound (tick : Nat) (deadline cancel : Option Nat) (horizon : Nat) : Nat :=
  match deadline, cancel with
  | some d, some k => min d k + tick
  | some d, none => d + tick
  | none, some k => k + tick
  | none, none => horizon

/-- The poll loop: when the wait ends and why. The child is looked at every tick from
its start; at each look an ended leader comes first, then the deadline, and a
cancellation is noticed during the sleep that follows. `horizon` bounds a wait with
neither deadline nor cancellation. -/
def waitFor (c : Child) (tick : Nat) (deadline cancel : Option Nat) (horizon : Nat) :
    Child × Ending × Nat :=
  let c := c.upTo (waitBound tick deadline cancel horizon)
  let exitTick := c.leaderEnd.map (Clock.ticksTo · tick)
  let deadlineTick := deadline.map (Clock.ticksTo · tick)
  let cancelTick := cancel.map fun k => if k ≤ tick then 0 else Clock.ticksTo (k - tick) tick
  let before (a : Option Nat) (b : Option Nat) : Bool := match a, b with
    | some x, some y => x ≤ y
    | some _, none => true
    | none, _ => false
  if before exitTick deadlineTick && before exitTick cancelTick then
    let t := exitTick.getD 0 * tick
    ((c.poll t).1, .exited, t)
  else if before deadlineTick cancelTick then
    (c, .timedOut, deadlineTick.getD 0 * tick)
  else match cancelTick, cancel with
    | some k, some asked => (c, .cancelled, max asked (k * tick))
    | _, _ => ((c.poll horizon).1, .exited, horizon)

/-- Kills the group at a time and waits for the leader, a tick at a time, up to the
confirmation limit. Gives the handle, when the wait ended, and whether the kill reached
the group. -/
def killAndConfirm (c : Child) (killAt tick : Nat) : Child × Nat × Bool :=
  let c := (c.poll killAt).1
  let (c, killed) := c.signal killAt Signal.kill
  let c := c.upTo (killAt + Clock.confirmLimit + tick)
  let limitTicks := Clock.ticksTo Clock.confirmLimit tick
  let deadTicks := match c.leaderEnd with
    | some x => min limitTicks (Clock.ticksTo (x - min killAt x) tick)
    | none => limitTicks
  let t := killAt + deadTicks * tick
  ((c.poll t).1, t, killed)

/-- The look of an escalation from `start`, the looks one tick apart, that first finds
the leader ended and its whole group gone, as far as the trace reaches. -/
def goneLook (c : Child) (start tick : Nat) : Option Nat :=
  match c.leaderEnd, c.trace.groupEnd with
  | some x, some g => some (Clock.ticksTo (max x g - min start (max x g)) tick)
  | _, _ => none

/-- Escalation from a time: the group is asked to end, then looked at every tick until
it is gone or the grace period is over; a group still there is killed, and the leader
waited for. Gives the handle, when escalation ended, and whether a kill reached the
group. -/
def escalate (c : Child) (start tick grace : Nat) : Child × Nat × Bool :=
  let c := c.terminate start
  let c := c.upTo (start + grace + tick)
  let graceTicks := Clock.ticksTo grace tick
  match goneLook c start tick with
  | some k =>
    if k ≤ graceTicks then
      let t := start + k * tick
      ((c.poll t).1, t, false)
    else killAndConfirm c (start + graceTicks * tick) tick
  | none => killAndConfirm c (start + graceTicks * tick) tick

/-- The handle as an escalation from `start` holds it at a time before the escalation is
over: asked to end at the start, and killed once the kill is due. -/
def escalationAt (c : Child) (start tick grace a : Nat) : Child :=
  let c := c.terminate start
  let c := c.upTo (start + grace + tick)
  let graceTicks := Clock.ticksTo grace tick
  let killAt := start + graceTicks * tick
  if !(goneLook c start tick).any (· ≤ graceTicks) && killAt ≤ a then
    ((c.poll killAt).1.forceKill killAt)
  else c

/-- The guard a call keeps on its child's group, armed from the launch until the wait and
any escalation are over. -/
structure Guard where
  grace : Nat
  armed : Bool
  deriving Repr

namespace Guard

/-- The guard of a child just launched. -/
def new (grace : Nat) : Guard := { grace, armed := true }

/-- The group is known to be gone, or escalated: nothing is left to clean up. -/
def disarm (g : Guard) : Guard := { g with armed := false }

/-- Dropping the guard at a time: armed, it asks the group to end and kills it once the
grace period is over; disarmed, it does nothing. -/
def drop (g : Guard) (c : Child) (t : Nat) : Child :=
  if g.armed then (c.terminate t).forceKill (t + g.grace) else c

end Guard

/-- The output read into a collector of the configured size. -/
def collect (budget : Nat) (chunks : List (Stream × List UInt8)) : Collector :=
  chunks.foldl (fun acc (s, bytes) => (acc.append bytes s).2) (Collector.empty budget)

/-- The deadline of a wait, in nanoseconds after the child's start; a timeout the clock
cannot add is refused. -/
def deadlineOf (timeout : Option Duration) : Except Fault (Option Nat) :=
  match timeout with
  | none => pure none
  | some t => match Clock.origin.add? t with
    | some _ => pure (some t.nanos)
    | none => throw (Fault.overflow Clock.overflowMessage)

/-- The time from one look at a child to the next: the poll interval, which the host's
timer stretches. -/
def tick (e : Engine) : Nat := e.config.pollInterval.nanos + Clock.timerSlack

/-- How far a wait with neither a deadline nor a cancellation follows its child. -/
def waitHorizon : Nat := 4 * 3600 * 1000000000

/-- The child once its wait is over, when that was, and whether a kill reached its group:
as the wait left it after an exit, escalated otherwise. -/
def settle (e : Engine) (child : Child) (ending : Ending) (endedAt : Nat) : Child × Nat × Bool :=
  match ending with
  | .exited => (child, endedAt, false)
  | _ => escalate child endedAt e.tick e.config.killGrace.nanos

/-- The result of a call whose wait ended as `ending`, read from the settled child after
the drain, and when the drain ended. -/
def report (e : Engine) (ending : Ending) (child : Child) (settledAt : Nat) :
    ExecResult × Nat :=
  let doneAt := child.drainEnd settledAt Clock.drainLimit
  let out := collect e.config.maxOutputBytes ((child.upTo doneAt).outputTo doneAt)
  let timedOut := ending == .timedOut
  let stderr := Text.Utf8.decodeLossy out.stderr
  ({ exitCode := if timedOut then timeoutExitCode else child.exitCode.getD (-1)
     stdout := Text.Utf8.decodeLossy out.stdout
     stderr := if timedOut then appendLine stderr timeoutLine else stderr
     truncated := out.truncated
     timedOut }, doneAt)

/-- Waits for a launched child, escalates unless it exited, and reads what it wrote: the
result, and when the drain ended, both from the child's start. -/
def finish (e : Engine) (child : Child) (deadline cancel : Option Nat) : ExecResult × Nat :=
  let (waited, ending, endedAt) := waitFor child e.tick deadline cancel waitHorizon
  let settled := e.settle waited ending endedAt
  e.report ending settled.1 settled.2.1

/-- What a call leaves of a launched child when its caller gives up at time `a` from the
child's start: the handle as the call held it then, once its guard is dropped. The guard
is armed until the call has settled the child: through the wait, and through the
escalation that follows a wait that did not see the child exit. -/
def abandon (e : Engine) (child : Child) (deadline cancel : Option Nat) (a : Nat) : Child :=
  let grace := e.config.killGrace.nanos
  let guard := Guard.new grace
  let w := waitFor child e.tick deadline cancel waitHorizon
  let settled := e.settle w.1 w.2.1 w.2.2
  if a < settled.2.1 then
    guard.drop (if a < w.2.2 then child else escalationAt w.1 w.2.2 e.tick grace a) a
  else guard.disarm.drop settled.1 a

/-- Runs a request to its end: the result, and how long after the call it came. A
cancellation, at a time since the call, starts the escalation at the next look. -/
def complete (e : Engine) (req : Request) (cancelAt : Option Nat := none) :
    Except Fault (ExecResult × Nat) := do
  let mode := req.terminalMode.getD e.config.terminalMode
  let spec ← (e.prepare req.command req.cwd mode req.env).mapError Fault.error
  let child ← (Child.spawn spec e.host).mapError Fault.error
  let deadline ← deadlineOf (e.config.effectiveTimeout req.timeout)
  let (result, doneAt) := e.finish child deadline (cancelAt.map (· - Clock.launchDelay))
  pure (result, doneAt + Clock.launchDelay)

/-- Runs a request to its end, or until the caller gives up. -/
def execute (e : Engine) (req : Request) (intr : Interruptions := {}) : Except Fault Reply := do
  let (result, doneAt) ← e.complete req intr.cancelAt
  if intr.abandonAt.any (· < doneAt) then return .abandoned
  pure (.finished result)

end Engine

end Confine
