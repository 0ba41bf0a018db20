import Confine.Shell.Eval
import Confine.Host.Terminal
/-!
# Running a launched job

A launch starts one program as the leader of a new process group, with either the
job's two output pipes and no input, or a terminal for all three. Given the stimuli
(bytes written to the terminal and signals to the group, each at a time) and a
horizon, the simulation yields a trace: the output events in time order, when and how
the leader ended, when the last process of the group ended, and when the last
holder of the output closed it.

On a terminal, the leader's end hangs up the processes that are left. Background
jobs that nobody waited for run after the leader, from the time they started.
-/

namespace Confine.Host

open Confine.Shell

/-- What is launched. Texts are byte strings. -/
structure Launch where
  /-- The program the launched file holds. -/
  utility : String
  argv : List String
  /-- The environment, in the order the program receives it. -/
  env : List (String × String)
  /-- The working directory as given, and its canonical names. -/
  cwd : String
  phys : List String
  onTerminal : Bool

/-- What reaches a running job from outside. -/
structure Stimuli where
  /-- Bytes written to the terminal. -/
  writes : List (Nat × List UInt8)
  /-- Signals to the whole group. -/
  signals : List (Nat × Nat)

/-- What a launched job did, up to the horizon. -/
structure Trace where
  events : List Event
  /-- When the leader ended and how; `none` if it ran past the horizon. -/
  leader : Option (Nat × Status)
  /-- When the last process of the group ended. -/
  groupEnd : Option Nat
  /-- When the last process holding the output ended. -/
  outputEnd : Option Nat

/-- The leader's process number. -/
def leaderPid : Nat := 4242

/-- Nesting allowed in evaluation. -/
def evalFuel : Nat := 4000

/-- Steps allowed for one simulation. -/
def stepBudget : Nat := 400000

/-- The latest of some times, `none` if any is `none`. -/
def latest (ts : List (Option Nat)) : Option Nat :=
  ts.foldl (fun acc t => match acc, t with
    | some a, some b => some (Nat.max a b)
    | _, _ => none) (some 0)

/-- The leader's initial state. -/
def Launch.leaderState (l : Launch) : Sh :=
  let stdio : List (Nat × Fd) := if l.onTerminal then [(0, .terminal), (1, .terminal), (2, .terminal)]
    else [(0, .null), (1, .stream .stdout), (2, .stream .stderr)]
  { pid := leaderPid, now := 0, fds := stdio, cwd := l.cwd, phys := l.phys,
    vars := l.env.map fun (k, v) => (k, { value := some v, exported := true }),
    positional := [], arg0 := l.argv.headD l.utility, funcs := [], traps := [], ignored := [],
    shellIgnored := [], pendingTraps := [], seen := 0, status := 0, lastBackground := none,
    line := 0, errexit := false, noglob := false, nounset := false, xtrace := false,
    interactive := false, guarded := false, bashLike := false, bodies := #[], loops := 0,
    calls := 0, rootPid := leaderPid, subStatus := none, locals := [], hardIgnored := [] }

/-- Run the launched job against the stimuli up to the horizon. -/
def Launch.run (l : Launch) (fs : Node) (stim : Stimuli) (horizon : Nat) : Trace :=
  let intake := Terminal.intake stim.writes
  let echo : List Event := if l.onTerminal then
      intake.echo.reverse.map fun (t, bs) => ⟨t, .stdout, bs⟩
    else []
  let sh := l.leaderState
  let world : World :=
    { sh, fs, events := [], tty := { chunks := intake.chunks.reverse, finish := .never }, feeds := #[], pipes := #[],
      jobs := [], procs := [], nextPid := leaderPid + 1,
      signals := stim.signals ++ (if l.onTerminal then intake.signals.reverse else []),
      directed := [], onTerminal := l.onTerminal, horizon, steps := stepBudget,
      leader := leaderPid }
  let job : M Unit := do
    let e ← runProcess sh (do
      spend cost.exec
      let code ← runUtility evalFuel l.utility l.argv
      throw (.exit code))
    if l.onTerminal then
      match e.finish with
      | some t => modify fun w => { w with signals := w.signals ++ [(t, Signal.hup)] }
      | none => pure ()
    for _ in [0:1000] do
      match (← get).jobs.find? (·.outcome.isNone) with
      | none => break
      | some j =>
        let _ ← tryCatch (do let _ ← settleJob evalFuel j.pid; pure ()) (fun _ => pure ())
  let (_, w) := (job.run).run world
  let leaderRecord := w.procs.find? (·.pid == leaderPid)
  let leader := leaderRecord.bind fun p => match p.finish, p.status with
    | some t, some st => some (t, st)
    | _, _ => none
  let holders := w.procs.filter (·.holdsOutput)
  let outputEnd := if holders.isEmpty then some 0 else latest (holders.map (·.finish))
  let events := (echo ++ w.events.reverse).mergeSort fun a b => a.time ≤ b.time
  ⟨events, leader, latest (w.procs.map (·.finish)), outputEnd⟩

end Confine.Host
