import Confine.Session

/-!
# The session registry

A registry keeps the open sessions of one engine and runs on a clock of its own. Every
operation first closes the sessions that have stayed unused for their whole idle
timeout. Opening resolves the working directory and starts the child before it
touches the registry; when the registry is full it then closes the oldest sessions
(by opening time, then by id) to make room, and a cap of zero means no cap. Writing and
reading count as use; listing and closing do not.

A read waits, one poll interval at a time, until it has bytes to return, sees dropped
bytes, or reaches the end of the output, and gives up at its deadline with nothing.
It looks at the child before it drains the backlog, so an end of output is never
reported ahead of bytes that arrived in between.

A reaper, once started, sweeps idle sessions at a fixed interval between operations.

A session leaves by idle pruning, by eviction for the cap, or by being closed, alone or
with all the others. It is closed as it leaves, and the registry keeps it, closed,
among its retired sessions.
-/

namespace Confine

open Confine.Host

/-- What opening a session asks for. -/
structure OpenRequest where
  command : String
  cwd : Option String := none
  idleTimeout : Option Duration := none
  env : List (String × String) := []
  deriving Repr

/-- What a read returns. -/
structure ReadResult where
  stdout : String
  stderr : String
  eof : Bool
  truncated : Bool
  deriving Repr, DecidableEq

/-- The answer of a read that found nothing before its deadline. -/
def ReadResult.nothing : ReadResult := ⟨"", "", false, false⟩

/-- A sweeper of idle sessions: its next sweep and the time between sweeps. -/
structure Reaper where
  next : Nat
  step : Nat
  deriving Repr

/-- The open sessions, oldest first, with the registry's clock. -/
structure Registry where
  engine : Engine
  sessions : List Session
  now : Nat
  /-- The sequence number of the next session id. -/
  seq : Nat
  reaper : Option Reaper
  /-- The sessions that left, each closed as it left, in the order they left. -/
  retired : List Session

namespace Registry

/-- What one operation of the registry takes. -/
def opCost : Nat := 50000

/-- What starting a child takes. -/
def spawnCost : Nat := Clock.milli

/-- The wall-clock reading at the registry's start, in nanoseconds since 1970. -/
def epoch : Int := 1767225600 * 1000000000

/-- A registry with no sessions. -/
def new (engine : Engine) : Registry := ⟨engine, [], 0, 1, none, []⟩

/-- Closes sessions that leave at the current time and lets them go. -/
def retire (r : Registry) (gone : List Session) : Registry :=
  { r with retired := r.retired ++ gone.map (·.close r.now) }

/-- Drops the sessions idle at the current time, closing each. -/
def prune (r : Registry) : Registry :=
  { r.retire (r.sessions.filter (·.isIdle r.now)) with
    sessions := r.sessions.filter fun s => !s.isIdle r.now }

/-- Runs the reaper's sweeps due up to a time, then sets the clock to it. -/
def advance (r : Registry) (t : Nat) : Registry :=
  let t := max r.now t
  match r.reaper with
  | none => { r with now := t }
  | some rp =>
    let sweeps := if rp.next ≤ t then (t - rp.next) / rp.step + 1 else 0
    let swept := (List.range sweeps).foldl
      (fun acc k => { acc with now := rp.next + k * rp.step }.prune) r
    { swept with now := t, reaper := some { rp with next := rp.next + sweeps * rp.step } }

/-- Lets time pass: a sleep of a duration, stretched by the timer. -/
def sleep (r : Registry) (d : Nat) : Registry := r.advance (r.now + d + Clock.timerSlack)

/-- Starts a reaper that sweeps after every interval. -/
def spawnReaper (r : Registry) (interval : Duration) : Registry :=
  let step := interval.nanos + Clock.timerSlack
  let r := r.advance (r.now + opCost)
  { r with reaper := some ⟨r.now + step, step⟩ }

/-- The session with an id. -/
def find? (r : Registry) (id : String) : Option Session := r.sessions.find? (·.id == id)

/-- Puts back a session changed by an operation. -/
def replace (r : Registry) (s : Session) : Registry :=
  { r with sessions := r.sessions.map fun x => if x.id == s.id then s else x }

/-- Whether a session is older than another: opened earlier, or at the same time with
a smaller id. -/
def older (a b : Session) : Bool := a.opened < b.opened || (a.opened == b.opened && a.id < b.id)

/-- Closes the oldest sessions until there is room for one more. -/
def evict (r : Registry) : Registry :=
  let cap := r.engine.config.maxSessions
  let excess := if cap = 0 then 0 else r.sessions.length + 1 - min cap (r.sessions.length + 1)
  let ordered := r.sessions.mergeSort older
  let gone := (ordered.take excess).map (·.id)
  { r.retire (ordered.take excess) with sessions := r.sessions.filter fun s => !gone.contains s.id }

/-- Opens a session on a terminal and returns its id. -/
def openSession (r : Registry) (req : OpenRequest) : Registry × Except Error String :=
  let r := r.advance (r.now + opCost)
  match r.engine.prepare req.command req.cwd .pty req.env with
  | .error e => (r, .error e)
  | .ok spec =>
    let idle := (req.idleTimeout.getD r.engine.config.sessionIdleTimeout).nanos
    let r := r.prune
    let id := Session.idOf r.seq (Session.nonceOf r.seq)
    let r := { r with seq := r.seq + 1 }
    match Child.spawn spec r.engine.host with
    | .error e => (r, .error e)
    | .ok child =>
      let r := r.advance (r.now + spawnCost)
      let s := Session.start id spec child r.now idle r.engine.config.maxOutputBytes
      let r := r.evict
      ({ r with sessions := r.sessions ++ [s] }, .ok id)

/-- Writes bytes to a session's terminal. -/
def write (r : Registry) (id : String) (bytes : List UInt8) : Registry × Except Error Unit :=
  let r := (r.advance (r.now + opCost)).prune
  match r.find? id with
  | none => (r, .error (.sessionNotFound id))
  | some s =>
    let s := (s.touch r.now).poll r.now |>.1
    match s.write r.now bytes with
    | .ok s => (r.replace s, .ok ())
    | .error e => (r.replace s, .error e)

/-- One look of a read at the current time: the answer if there is one. -/
def readOnce (r : Registry) (id : String) (maxBytes : Nat) :
    Registry × Except Error (Option ReadResult) :=
  let r := r.prune
  match r.find? id with
  | none => (r, .error (.sessionNotFound id))
  | some s =>
    let g := (s.look r.now maxBytes).1
    let r := r.replace (s.look r.now maxBytes).2
    if !g.bytes.isEmpty || g.truncated || g.eof then
      (r, .ok (some ⟨Text.Utf8.decodeLossy g.bytes, "", g.eof, g.truncated⟩))
    else (r, .ok none)

/-- The registry's time from which the host's clock can no longer be read. -/
def clockEnd : Nat := (Instant.maxSecs + 1) * Duration.nanosPerSec - Clock.origin.nanos

/-- One look of a read: its answer, the end of the wait once the deadline has passed, or
what `next` makes of the registry one poll interval later. -/
def readStep (id : String) (maxBytes tick : Nat) (deadline : Option Nat)
    (next : Registry → Option (Registry × Except Error ReadResult)) (r : Registry) :
    Option (Registry × Except Error ReadResult) :=
  match r.readOnce id maxBytes with
  | (r, .error e) => some (r, .error e)
  | (r, .ok (some res)) => some (r, .ok res)
  | (r, .ok none) =>
    if deadline.any (· ≤ r.now) then some (r, .ok .nothing)
    else next (r.advance (r.now + tick))

/-- The looks of a read, one poll interval apart, until an answer or the deadline;
`none` when no look ever answers, so that the read never returns. The looks go on while
time moves forward and the host's clock can still read it. -/
def readLoop (id : String) (maxBytes tick : Nat) (deadline : Option Nat) (r : Registry) :
    Option (Registry × Except Error ReadResult) :=
  readStep id maxBytes tick deadline
    (fun r' => if r.now < r'.now ∧ r'.now < clockEnd then
      readLoop id maxBytes tick deadline r' else none) r
termination_by clockEnd - r.now

/-- What every look keeps, whatever the looks after it return, holds of every result of
a read's looks. -/
theorem readLoop_partial_correctness (id : String) (maxBytes tick : Nat) (deadline : Option Nat)
    (motive : Registry → Registry × Except Error ReadResult → Prop)
    (step : ∀ next : Registry → Option (Registry × Except Error ReadResult),
      (∀ r res, next r = some res → motive r res) →
      ∀ r res, readStep id maxBytes tick deadline next r = some res → motive r res) :
    ∀ r res, readLoop id maxBytes tick deadline r = some res → motive r res := by
  intro r
  -- induction on the time left before the clock's end, which every further look shortens
  induction hleft : clockEnd - r.now using Nat.strongRecOn generalizing r with
  | _ n ih =>
    intro res hres
    rw [readLoop] at hres
    refine step _ (fun r' res' hnext => ?_) r res hres
    split at hnext
    · exact ih (clockEnd - r'.now) (by omega) r' rfl res' hnext
    · cases hnext

/-- A read of at most `maxBytes` (at least one) from a session, waiting up to a timeout;
`none` when it never returns. A deadline beyond what the host's clock holds stops the
caller. -/
def readCall (r : Registry) (id : String) (maxBytes : Nat) (timeout : Option Duration) :
    Option (Registry × Except Fault ReadResult) :=
  let r := r.advance (r.now + opCost)
  let here := Clock.origin.after ⟨r.now⟩
  match timeout.map fun t => (here.add? t).isSome with
  | some false => some (r, .error (.overflow Clock.overflowMessage))
  | _ =>
    let tick := r.engine.config.pollInterval.nanos + Clock.timerSlack
    let deadline := timeout.map (r.now + ·.nanos)
    (readLoop id (max maxBytes 1) tick deadline r).map fun (r, res) => (r, res.mapError Fault.error)

/-- A read as its caller sees it. A read that never returns hands nothing back, and its
caller never resumes; the value given for it, the registry before the read, is never
looked at. -/
def read (r : Registry) (id : String) (maxBytes : Nat) (timeout : Option Duration) :
    Registry × Except Fault ReadResult :=
  (r.readCall id maxBytes timeout).getD (r, .ok .nothing)

/-- Closes a session if it is registered. -/
def close (r : Registry) (id : String) : Registry :=
  let r := (r.advance (r.now + opCost)).prune
  { r.retire (r.sessions.filter (·.id == id)) with sessions := r.sessions.filter (·.id != id) }

/-- Closes every session. -/
def closeAll (r : Registry) : Registry :=
  let r := r.advance (r.now + opCost)
  { r.retire r.sessions with sessions := [] }

/-- The registered sessions, newest first. -/
def list (r : Registry) : Registry × List Snapshot :=
  let r := (r.advance (r.now + opCost)).prune
  let pairs := r.sessions.map (·.snapshot r.now epoch)
  ({ r with sessions := pairs.map (·.1) }, Snapshot.sort (pairs.map (·.2)))

end Registry

end Confine
