import Confine.Engine
import Confine.Output.Backlog
import Confine.Snapshot
import Confine.Text.Hex

/-!
# Interactive sessions

A session is a shell on a terminal that a caller talks to over time. What the child
writes to the terminal piles up in a bounded backlog as it arrives, and readers drain
the backlog piece by piece. A session remembers when it was opened, when it was last
used, and how long it may stay unused before it is closed.

The backlog is fed by a pump that moves in the chunks that reached the parent, and once
the reader of the terminal has seen the end of the output it has delivered everything and
stops for good. A look of a read lets the pump append first, and where its `Pace` says,
again between its steps. A session's output is settled once its child is gone and either
the pump has stopped or the child ended a tenth of a second ago; an end of output is
reported only when the output is settled and nothing waits in the backlog.

Times are nanoseconds on the clock of the registry that holds the session.
-/

namespace Confine

open Confine.Host

/-- One session. -/
structure Session where
  id : String
  command : String
  cwd : String
  /-- When it was opened, and when its child started. -/
  opened : Nat
  lastActivity : Nat
  idleTimeout : Nat
  child : Child
  backlog : Backlog
  /-- How many of the child's output events have reached the backlog. -/
  fed : Nat
  /-- Whether the pump has delivered the whole output and stopped. -/
  pumpDone : Bool
  /-- When the registry first saw the child ended. -/
  exitedAt : Option Nat
  closed : Bool

namespace Session

/-- How long after the child's end its output counts as settled in any case. -/
def settleDelay : Nat := 100 * 1000000

/-- The name of the session with a sequence number and a nonce: `sh-`, the number in
at least six digits, and twelve hex digits. -/
def idOf (seq : Nat) (nonce : Nat) : String :=
  let digits := toString seq
  let padded := String.ofList (List.replicate (6 - digits.length) '0') ++ digits
  let hex := String.ofList ((List.range 12).reverse.map fun i => Text.Hex.digit (nonce / Nat.pow 16 i % 16))
  "sh-" ++ padded ++ "-" ++ hex

/-- A nonce for a sequence number, spread over 48 bits. -/
def nonceOf (seq : Nat) : Nat := (seq * 0x9E3779B97F4A + 0x5DEECE66D) % Nat.pow 2 48

/-- Opens a session on a started child. -/
def start (id : String) (spec : LaunchSpec) (child : Child) (now idleTimeout budget : Nat) :
    Session :=
  { id, command := spec.command, cwd := spec.cwd, opened := now, lastActivity := now,
    idleTimeout, child, backlog := Backlog.empty budget, fed := 0, pumpDone := false,
    exitedAt := none, closed := false }

/-- The child's clock at a registry time. -/
def childTime (s : Session) (now : Nat) : Nat := now - s.opened

/-- Marks the session as used. -/
def touch (s : Session) (now : Nat) : Session := { s with lastActivity := now }

/-- Whether the session has been unused for its whole idle timeout. -/
def isIdle (s : Session) (now : Nat) : Bool := s.idleTimeout ≤ now - s.lastActivity

/-- Looks at the child: whether it still runs. The first look that finds it ended
records the time. -/
def poll (s : Session) (now : Nat) : Session × Bool :=
  let (c, alive) := s.child.poll (s.childTime now)
  let exitedAt := if !alive && s.exitedAt.isNone then some now else s.exitedAt
  ({ s with child := c, exitedAt }, alive)

/-- Moves what the child wrote before a time into the backlog. The pump stops once the
reader has seen the end of the output, everything before it delivered, and a stopped pump
delivers nothing more. -/
def feed (s : Session) (now : Nat) : Session :=
  let t := s.childTime now
  let c := s.child.upTo t
  let fresh := if s.pumpDone then [] else (c.arrivedBefore t).drop s.fed
  let backlog := fresh.foldl (fun b bytes => (b.append bytes).2) s.backlog
  let ended := match c.outputEnd with
    | some e => e < t
    | none => false
  { s with child := c, backlog, fed := s.fed + fresh.length, pumpDone := s.pumpDone || ended }

/-- Whether the output is settled at a time. -/
def settled (s : Session) (now : Nat) : Session × Bool :=
  let (s, alive) := s.poll now
  if alive then (s, false)
  else
    let longAgo := match s.exitedAt with
      | some x => x + settleDelay ≤ now
      | none => false
    (s, s.pumpDone || longAgo)

/-- Takes at most `max` bytes from the backlog, with the flag of dropped bytes. -/
def drain (s : Session) (max : Nat) : (List UInt8 × Bool) × Session :=
  let (out, b) := s.backlog.drain max
  (out, { s with backlog := b })

/-- Where the pump appends inside a look, besides what it appended before the look began:
at a time between the look at the child and the drain, and at a time between the drain and
the check for an empty backlog; `none` where it appends nothing. -/
structure Pace where
  beforeDrain : Option Nat
  beforeCheck : Option Nat

/-- A pump that has appended, by the time a look begins, everything that reached the
parent. -/
def Pace.eager : Pace := ⟨none, none⟩

/-- The pump appends what reached the parent before a time, if it appends at all. -/
def feedAt (s : Session) : Option Nat → Session
  | some t => s.feed t
  | none => s

/-- What one look of a read sees: the bytes it drains, whether a byte was dropped since the
previous drain, whether it reports the end of the output, and whether the pump had stopped
when it looked at the child. -/
structure Glance where
  bytes : List UInt8
  truncated : Bool
  eof : Bool
  finished : Bool
  deriving DecidableEq, Repr

/-- One look of a read: it marks the session used, lets the pump append, looks at the child,
drains at most `m` bytes and checks for an empty backlog, with the pump appending between
the steps as the pace says. -/
def look (s : Session) (now m : Nat) (p : Pace := .eager) : Glance × Session :=
  let s₁ := (s.touch now).feed now
  let (s₂, settled) := s₁.settled now
  let ((bytes, truncated), s₃) := (s₂.feedAt p.beforeDrain).drain m
  let s₄ := s₃.feedAt p.beforeCheck
  (⟨bytes, truncated, settled && s₄.backlog.isEmpty, s₁.pumpDone⟩, s₄)

/-- Writes bytes to the terminal. -/
def write (s : Session) (now : Nat) (bytes : List UInt8) : Except Error Session := do
  let c ← s.child.write (s.childTime now) bytes
  pure { s with child := c }

/-- The session as a listing shows it; the exit code only once the child is gone. -/
def snapshot (s : Session) (now : Nat) (epoch : Int) : Session × Snapshot :=
  let (s, alive) := s.poll now
  (s, { id := s.id, command := s.command, cwd := s.cwd,
        startedAt := Timestamp.ofNanos (epoch + s.opened), alive,
        exitCode := if alive then none else s.child.exitCode })

/-- Closes the session: a child still running is asked to end, and the terminal is let
go. Closing twice does nothing more. -/
def close (s : Session) (now : Nat) : Session :=
  if s.closed then s
  else
    let (s, alive) := s.poll now
    let c := if alive then s.child.terminate (s.childTime now) else s.child
    { s with child := c.closeInput, closed := true }

end Session

end Confine
