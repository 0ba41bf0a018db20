import Confine.Output.Stream
import Confine.Host.Signal
import Confine.Host.Feed
import Confine.Host.FileSystem
import Confine.Host.Terminal
import Confine.Shell.Syntax
import Confine.Shell.CommandTable
import Confine.Shell.Limits
import Confine.Text.Octets
/-!
# The state of a simulated host

Processes run one at a time against a shared world: the file system, what has left
the job so far (timed output events), the terminal's input, the pipes between
processes, the background children not yet run, and the signals that reach the
process group at given times.

A running process has its own state `Sh`: its clock, descriptors, working directory,
variables, functions, traps and options. Programs other than the shell use the same
record and ignore the shell's parts.

The evaluation monad is `ExceptT Flow (StateM World)`: an exit, a signal death or a
`return` is thrown as a `Flow` and keeps the world as it was at the throw, so output
already written stays written. The caller of a child process saves its own `Sh` and
restores it when the child is done.

Time is in nanoseconds. Each step of a process costs time (`Cost`), and every wait
delivers the group signals that fall into it: a signal ignored by the process does
nothing, one it traps is queued for its trap, and any other ends the process at the
signal's time.
-/

namespace Confine.Shell

open Confine.Host

/-- Where a file descriptor leads. -/
inductive Fd where
  /-- One of the job's output pipes. -/
  | stream (s : Stream)
  /-- The job's terminal, for reading and writing. -/
  | terminal
  /-- The null device. -/
  | null
  /-- The full device, which refuses every write. -/
  | full
  /-- The zero device. -/
  | zero
  /-- A regular file, by its canonical names; writes append. -/
  | file (names : List String)
  /-- The write end of an internal pipe. -/
  | pipe (id : Nat)
  /-- A read end: an internal pipe or a file's contents. -/
  | feed (id : Nat)
  /-- A regular file opened for reading and writing, by its entry among the open files. -/
  | shared (id : Nat)
  deriving DecidableEq, Repr, Inhabited

/-- A shell variable. An unset variable keeps its place only if the shell made it. -/
structure Var where
  value : Option String
  exported : Bool := false
  readonly : Bool := false
  deriving Repr, Inhabited

/-- Time costs of the simulated host, in nanoseconds. -/
structure Cost where
  /-- A shell's start before its first command. -/
  startup : Nat := 800000
  /-- One builtin or assignment. -/
  builtin : Nat := 2000
  /-- From a fork to the child's first step. -/
  fork : Nat := 150000
  /-- From the start of a program to its first output. -/
  exec : Nat := 400000
  /-- From a child's exit to the parent's next step. -/
  reap : Nat := 30000
  deriving Repr

/-- The host's costs. -/
def cost : Cost := {}

/-- The shell's option settings, as `local -` keeps them for the end of a function. -/
structure OptionSet where
  errexit : Bool
  noglob : Bool
  interactive : Bool
  xtrace : Bool
  nounset : Bool
  extra : List String
  deriving Inhabited

/-- The state of one running process. -/
structure Sh where
  pid : Nat
  now : Nat
  fds : List (Nat × Fd)
  /-- The logical working directory, as a byte string. -/
  cwd : String
  /-- The working directory's canonical names. -/
  phys : List String
  /-- Variables in order of creation. -/
  vars : List (String × Var)
  positional : List String
  /-- `$0`, and the name in error messages. -/
  arg0 : String
  funcs : List (String × Command)
  /-- Trap commands by signal number, 0 being the exit trap. -/
  traps : List (Nat × String)
  /-- Signals ignored: inherited, or trapped with an empty command. -/
  ignored : List Nat
  /-- Signals ignored by an interactive shell for itself only. -/
  shellIgnored : List Nat
  /-- Caught signals whose traps have not run yet. -/
  pendingTraps : List Nat
  /-- Group signals up to this time have been delivered. -/
  seen : Nat
  status : Nat
  lastBackground : Option Nat
  line : Nat
  errexit : Bool
  noglob : Bool
  nounset : Bool
  xtrace : Bool
  interactive : Bool
  /-- Inside a condition, where `errexit` does not apply. -/
  guarded : Bool
  /-- The shell's flavour announces itself as bash. -/
  bashLike : Bool
  /-- Here-document bodies read so far. -/
  bodies : Array (List WordPart)
  /-- Nesting of loops, for `break` and `continue`. -/
  loops : Nat
  /-- Nesting of function calls, for `return`. -/
  calls : Nat
  /-- The shell's own number, `$$`, which subshells keep. -/
  rootPid : Nat
  /-- Status of the last command substitution of the current command. -/
  subStatus : Option Nat
  /-- Variables made local in the current function, with what they were before. -/
  locals : List (String × Option Var)
  /-- Signals ignored when the shell started, which traps cannot change. -/
  hardIgnored : List Nat
  /-- The names of the options that are on, beyond those with fields of their own. -/
  extraOptions : List String := []
  /-- The file mode creation mask. -/
  umask : Nat := 0o22
  /-- Aliases, in the order the shell lists them. -/
  aliases : List (String × String) := []
  /-- The number of the argument `getopts` reads next, from one. -/
  optind : Nat := 1
  /-- Where `getopts` stopped inside a cluster of option letters. -/
  optoff : Option Nat := none
  /-- The programs found on the search path, as the shell remembers them. -/
  commands : List CommandTable.Tracked := []
  /-- The options as they were when the running function declared `local -`. -/
  savedOptions : Option OptionSet := none
  /-- The time up to which the shell has collected its ended children. -/
  reapedUntil : Nat := 0
  /-- Why a write to standard output failed, if one did. -/
  writeFailure : Option Errno := none
  /-- Whether the shell runs its jobs under job control: the `monitor` option is on, it
  reached its terminal, and it is not a subshell. -/
  jobControl : Bool := false
  /-- The resource limits set by `ulimit`, by the resource's letter; the others are as
  the host starts them. -/
  limits : List (Char × Limit) := []
  deriving Inhabited

/-- A background child: how to run it, and once run, how it ended. -/
structure Job where
  pid : Nat
  owner : Nat
  /-- Its number in its shell's job list, from 1. -/
  number : Nat
  /-- Whether the shell waited for it; such an ended job gives up its number to the
  next one. -/
  waited : Bool := false
  /-- Whether the shell collected it while listing its jobs. -/
  reaped : Bool := false
  /-- Whether it was started under job control. -/
  controlled : Bool := false
  /-- The command text of each of its processes: empty unless under job control. -/
  texts : List String := []
  start : Nat
  child : Sh
  body : Command
  /-- Signals sent to it alone, with their times. -/
  signals : List (Nat × Nat)
  /-- End time and status once run; an end of `none` is a child still running. -/
  outcome : Option (Option Nat × Option Status)

/-- The record of a process that has run. -/
structure ProcRecord where
  pid : Nat
  start : Nat
  /-- When it ended; `none` if it never did within the simulation. -/
  finish : Option Nat
  status : Option Status
  /-- Whether it held the job's output open until its end. -/
  holdsOutput : Bool
  deriving Repr

/-- Output that left the job: on a stream, at a time. -/
structure Event where
  time : Nat
  stream : Stream
  bytes : List UInt8
  deriving Repr

/-- An internal pipe: chunks written with their times, newest first, and the time its
reader went away. A writer that will fill it without end leaves its pattern in
`endless` instead of writing forever. -/
structure Pipe where
  chunks : List (Nat × List UInt8)
  readerGone : Option Nat
  endless : Option (List UInt8) := none
  deriving Repr, Inhabited

/-- A regular file opened for reading and writing: where its next read or write
happens. The descriptors that duplicate it share the place. -/
structure OpenFile where
  names : List String
  offset : Nat
  deriving Repr, Inhabited

/-- Everything processes share. -/
structure World where
  sh : Sh
  fs : Node
  events : List Event
  tty : Feed
  feeds : Array Feed
  pipes : Array Pipe
  jobs : List Job
  procs : List ProcRecord
  nextPid : Nat
  /-- Signals to the whole group, by time. -/
  signals : List (Nat × Nat)
  /-- Signals sent to one process: its number, the time and the signal. -/
  directed : List (Nat × Nat × Nat)
  /-- Whether the job runs on a terminal. -/
  onTerminal : Bool
  /-- Nothing after this time is observed. -/
  horizon : Nat
  /-- Steps left for all evaluation. -/
  steps : Nat
  /-- The process that leads the job. -/
  leader : Nat
  /-- The files opened for reading and writing. -/
  openFiles : Array OpenFile := #[]

/-- How evaluation leaves the normal path. -/
inductive Flow where
  /-- The process exits with a code. -/
  | exit (code : Nat)
  /-- The process is killed by a signal. -/
  | killed (sig : Nat)
  /-- A function or sourced text returns. -/
  | ret (code : Nat)
  | brk (levels : Nat)
  | cont (levels : Nat)
  /-- The process runs on past everything observed: it never ends here. -/
  | stall
  /-- A shell error: a non-interactive shell exits with the code, an interactive one
  returns to its prompt. -/
  | abort (code : Nat)
  deriving Repr, Inhabited

abbrev M := ExceptT Flow (StateM World)

/-! ### Process state -/

def getSh : M Sh := do return (← get).sh
def setSh (s : Sh) : M Unit := modify fun w => { w with sh := s }
def modifySh (f : Sh → Sh) : M Unit := modify fun w => { w with sh := f w.sh }
def now : M Nat := do return (← getSh).now

/-- The descriptor behind a number. -/
def fd? (n : Nat) : M (Option Fd) := do return (← getSh).fds.lookup n

/-- Point a descriptor number somewhere, or close it. -/
def Sh.setFd (s : Sh) (n : Nat) (f : Option Fd) : Sh :=
  let rest := s.fds.filter (·.1 != n)
  match f with
  | some f => { s with fds := (rest ++ [(n, f)]).mergeSort fun a b => a.1 ≤ b.1 }
  | none => { s with fds := rest }

/-! ### Signals and time -/

/-- What a signal does to this process now. -/
inductive Disposition where
  | ignore
  | catch
  | terminate
  | stop
  deriving DecidableEq, Repr

def Sh.disposition (s : Sh) (sig : Nat) : Disposition :=
  if Signal.catchable sig && (s.ignored.contains sig || s.shellIgnored.contains sig) then .ignore
  else if Signal.catchable sig && (s.traps.lookup sig).isSome then .catch
  else match Signal.defaultAction sig with
    | .terminate => .terminate
    | .ignore => .ignore
    | .stop => .stop

/-- The group signals after time `a` up to and including `b`. -/
def signalsIn (sigs : List (Nat × Nat)) (a b : Nat) : List (Nat × Nat) :=
  sigs.filter fun (t, _) => a < t && t ≤ b

/-- The signals that reach process `pid`: the group's and its own. -/
def World.signalsFor (w : World) (pid : Nat) : List (Nat × Nat) :=
  w.signals ++ w.directed.filterMap fun (p, t, sig) => if p = pid then some (t, sig) else none

/-- The first signal after `a` (up to `b`, if given) that does more than nothing to
the process: its time and what it does. -/
def firstAction (s : Sh) (sigs : List (Nat × Nat)) (a : Nat) (b : Option Nat) :
    Option (Nat × Nat × Disposition) :=
  let window := sigs.filter fun (t, _) => a < t && (match b with | some b => t ≤ b | none => true)
  let acted := window.filterMap fun (t, sig) =>
    let d := s.disposition sig
    if d = .ignore then none else some (t, sig, d)
  (acted.mergeSort fun x y => x.1 ≤ y.1).head?

/-- The process waits until `target`, or forever when `target` is `none`. Signals in
between are delivered. The result is `true` if the wait ran to its end, `false` if a
caught signal cut it short (its trap is then pending and the clock is at the
signal). A fatal signal throws `killed` at its time; a stop, or an endless wait
without a signal, or a wait past the horizon, throws `stall`. With `interruptible`
off, caught signals are queued and the wait goes on. -/
def waitUntil (target : Option Nat) (interruptible : Bool := false) : M Bool := do
  let w ← get
  let s := w.sh
  let limit := match target with
    | some t => some (Nat.min t w.horizon)
    | none => some w.horizon
  let acted := firstAction s (w.signalsFor s.pid) (Nat.max s.now s.seen) limit
  match acted with
  | some (t, sig, .terminate) =>
    setSh { s with now := Nat.max s.now t, seen := t }
    throw (.killed sig)
  | some (t, _, .stop) =>
    setSh { s with now := Nat.max s.now t, seen := t }
    throw .stall
  | some (t, sig, _) =>
    -- caught
    setSh { s with now := Nat.max s.now t, seen := t,
                   pendingTraps := s.pendingTraps ++ [sig] }
    if interruptible then return false
    else
      -- later signals in the same wait
      waitRest target
  | none =>
    match target with
    | some t =>
      if t > w.horizon then
        setSh { s with now := w.horizon, seen := w.horizon }
        throw .stall
      setSh { s with now := Nat.max s.now t, seen := Nat.max s.seen t }
      return true
    | none =>
      setSh { s with now := w.horizon, seen := w.horizon }
      throw .stall
where
  /-- The rest of a wait after a caught signal, without further interruption; each
  caught signal is queued once. -/
  waitRest (target : Option Nat) : M Bool := do
    let w ← get
    let s := w.sh
    let limit := match target with
      | some t => Nat.min t w.horizon
      | none => w.horizon
    let window := signalsIn (w.signalsFor s.pid) s.seen limit
    let fatal := window.find? fun (_, sig) =>
      let d := s.disposition sig
      d = .terminate || d = .stop
    let caught := (window.filter fun (t, sig) =>
      s.disposition sig = .catch && (match fatal with | some (ft, _) => t ≤ ft | none => true)).map (·.2)
    setSh { s with pendingTraps := s.pendingTraps ++ caught }
    match fatal with
    | some (t, sig) =>
      modifySh fun s => { s with now := Nat.max s.now t, seen := t }
      if s.disposition sig = .terminate then throw (.killed sig) else throw .stall
    | none =>
      match target with
      | some t =>
        if t > w.horizon then
          modifySh fun s => { s with now := w.horizon, seen := w.horizon }
          throw .stall
        modifySh fun s => { s with now := Nat.max s.now t, seen := Nat.max s.seen t }
        return true
      | none =>
        modifySh fun s => { s with now := w.horizon, seen := w.horizon }
        throw .stall

/-- Spend `dt` nanoseconds working. -/
def spend (dt : Nat) : M Unit := do
  let _ ← waitUntil (some ((← now) + dt))

/-- Use one evaluation step; with none left the process is taken to run on unseen. -/
def useStep : M Unit := do
  let w ← get
  match w.steps with
  | 0 =>
    let _ ← waitUntil none
    throw .stall
  | k + 1 => set { w with steps := k }

/-- Deliver a signal to this process now, as `kill` on itself does. -/
def selfSignal (sig : Nat) : M Unit := do
  let s ← getSh
  if sig = 0 then return
  match s.disposition sig with
  | .ignore => pure ()
  | .catch => setSh { s with pendingTraps := s.pendingTraps ++ [sig] }
  | .terminate => throw (.killed sig)
  | .stop => throw .stall

/-! ### Output -/

/-- Record output that leaves the job. -/
def emitEvent (stream : Stream) (bytes : List UInt8) : M Unit := do
  if bytes.isEmpty then return
  let t ← now
  modify fun w => { w with events := ⟨t, stream, bytes⟩ :: w.events }

/-- Write bytes to a descriptor. A write to a pipe whose reader is gone raises the
broken-pipe signal, and fails if the process ignores it. -/
def writeFd (n : Nat) (bytes : List UInt8) : M (Except Errno Unit) := do
  if bytes.isEmpty then return .ok ()
  match ← fd? n with
  | none => return .error .badDescriptor
  | some (.stream s) => emitEvent s bytes; return .ok ()
  | some .terminal => emitEvent .stdout (Terminal.translateOutput bytes); return .ok ()
  | some .null | some .zero => return .ok ()
  | some .full => return .error .noSpace
  | some (.feed _) => return .error .badDescriptor
  | some (.file names) =>
    modify fun w =>
      let old := match w.fs.get? names with
        | some (.file content) => content
        | _ => []
      { w with fs := (w.fs.put? names (.file (old ++ bytes))).getD w.fs }
    return .ok ()
  | some (.shared id) =>
    modify fun w =>
      match w.openFiles[id]? with
      | none => w
      | some o =>
        -- the bytes replace what stands at the place; a gap before it reads as zeros
        let old := match w.fs.get? o.names with
          | some (.file content) => content
          | _ => []
        let gap := List.replicate (o.offset - old.length) (0 : UInt8)
        let new := old.take o.offset ++ gap ++ bytes ++ old.drop (o.offset + bytes.length)
        { w with fs := (w.fs.put? o.names (.file new)).getD w.fs,
                 openFiles := w.openFiles.set! id { o with offset := o.offset + bytes.length } }
    return .ok ()
  | some (.pipe id) =>
    let w ← get
    let t := w.sh.now
    match w.pipes[id]? with
    | none => return .error .badDescriptor
    | some p =>
      match p.readerGone with
      | some g =>
        if g ≤ t then
          selfSignal Signal.pipe
          return .error .brokenPipe
        else
          set { w with pipes := w.pipes.set! id { p with chunks := (t, bytes) :: p.chunks } }
          return .ok ()
      | none =>
        set { w with pipes := w.pipes.set! id { p with chunks := (t, bytes) :: p.chunks } }
        return .ok ()

/-- Go on as a writer to descriptor `n` that never runs out: into a pipe whose reader
goes away it lives until then, and the broken-pipe signal meets its next write;
otherwise it goes on unseen. -/
def goOnWriting (n : Nat) : M Unit := do
  match ← fd? n with
  | some (.pipe id) =>
    match ((← get).pipes[id]?).bind (·.readerGone) with
    | some g =>
      let _ ← waitUntil (some (Nat.max g (← now)))
      selfSignal Signal.pipe
      let _ ← waitUntil none
    | none => let _ ← waitUntil none
  | _ => let _ ← waitUntil none

/-- Write a pattern to descriptor `n` without end. Into a pipe the pattern is left as
the pipe's endless content, and the writer lives until its reader goes away, when the
broken-pipe signal meets its next write; elsewhere a large block is written and the
writer goes on unseen. -/
def pourEndless (n : Nat) (pattern : List UInt8) : M Unit := do
  if pattern.isEmpty then
    let _ ← waitUntil none
    return
  match ← fd? n with
  | some (.pipe id) =>
    let w ← get
    match w.pipes[id]? with
    | some p =>
      set { w with pipes := w.pipes.set! id { p with endless := some pattern } }
      match p.readerGone with
      | some g =>
        let _ ← waitUntil (some (Nat.max g (← now)))
        selfSignal Signal.pipe
        let _ ← waitUntil none
      | none => let _ ← waitUntil none
    | none => let _ ← waitUntil none
  | _ =>
    let block := (List.replicate (1048576 / pattern.length + 1) pattern).flatten
    let _ ← writeFd n block
    let _ ← waitUntil none

/-- Write; a failure is only noted, for standard output. -/
def put (n : Nat) (bytes : List UInt8) : M Unit := do
  match ← writeFd n bytes with
  | .error e => if n == 1 then modifySh fun s => { s with writeFailure := some e }
  | .ok () => pure ()

/-- Write a byte string. -/
def putStr (n : Nat) (s : String) : M Unit := put n (Text.Octets.toBytes s)

/-! ### Input -/

/-- Read at most `max` bytes from a descriptor, waiting for them as the reader would.
`none` is end of input (or a read that a caught signal cut short). -/
def readFd (n : Nat) (max : Nat) : M (Option (List UInt8)) := do
  let t ← now
  match ← fd? n with
  | some .terminal =>
    let w ← get
    match w.tty.read t max with
    | (.bytes at' data, f) =>
      if (← waitUntil (some at') true) then
        modify fun w => { w with tty := f }
        return some data
      else return none
    | (.eof at', f) =>
      if (← waitUntil (some at') true) then
        modify fun w => { w with tty := f }
        return none
      else return none
    | (.blocked, _) =>
      let _ ← waitUntil none true
      return none
  | some (.feed id) =>
    let w ← get
    match w.feeds[id]? with
    | none => return none
    | some feed =>
      match feed.read t max with
      | (.bytes at' data, f) =>
        if (← waitUntil (some at') true) then
          modify fun w => { w with feeds := w.feeds.set! id f }
          return some data
        else return none
      | (.eof at', f) =>
        let _ ← waitUntil (some at') true
        modify fun w => { w with feeds := w.feeds.set! id f }
        return none
      | (.blocked, _) =>
        let _ ← waitUntil none true
        return none
  | some .zero | some .full => return some (List.replicate max 0)
  | some (.shared id) =>
    let w ← get
    match w.openFiles[id]? with
    | none => return none
    | some o =>
      let content := match w.fs.get? o.names with
        | some (.file c) => c
        | _ => []
      let data := (content.drop o.offset).take max
      if data.isEmpty then return none
      set { w with openFiles := w.openFiles.set! id { o with offset := o.offset + data.length } }
      return some data
  | _ => return none

/-- Put bytes back in front of a descriptor's input. -/
def unreadFd (n : Nat) (bytes : List UInt8) : M Unit := do
  let t ← now
  match ← fd? n with
  | some .terminal => modify fun w => { w with tty := w.tty.unread t bytes }
  | some (.feed id) =>
    modify fun w => match w.feeds[id]? with
      | some f => { w with feeds := w.feeds.set! id (f.unread t bytes) }
      | none => w
  | some (.shared id) =>
    modify fun w => match w.openFiles[id]? with
      | some o => { w with openFiles := w.openFiles.set! id { o with offset := o.offset - bytes.length } }
      | none => w
  | _ => pure ()

/-- A regular file opened for reading and writing, at its start. -/
def openShared (names : List String) : M Fd := do
  let w ← get
  set { w with openFiles := w.openFiles.push { names, offset := 0 } }
  return .shared w.openFiles.size

/-- A new read end holding `feed`. -/
def newFeed (feed : Feed) : M Nat := do
  let w ← get
  set { w with feeds := w.feeds.push feed }
  return w.feeds.size

/-- A new empty pipe. -/
def newPipe : M Nat := do
  let w ← get
  set { w with pipes := w.pipes.push { chunks := [], readerGone := none } }
  return w.pipes.size

/-- What was written to a pipe, in order. -/
def pipeChunks (id : Nat) : M (List (Nat × List UInt8)) := do
  match (← get).pipes[id]? with
  | some p => return p.chunks.reverse
  | none => return []

/-- A fresh process number. -/
def newPid : M Nat := do
  let w ← get
  set { w with nextPid := w.nextPid + 1 }
  return w.nextPid

/-! ### Variables

Variables are listed the way the shell's table holds them: by a hash of the name
into 39 buckets, and within a bucket in order of creation. -/

/-- The bucket of a name. -/
def bucket (name : String) : Nat :=
  let bs := Text.Octets.toBytes name
  let first := match bs.head? with | some b => b.toNat * 16 | none => 0
  (bs.foldl (fun acc b => acc + b.toNat) first) % 39

/-- Variables in listing order. -/
def listed (vars : List (String × Var)) : List (String × Var) :=
  vars.mergeSort fun a b => bucket a.1 ≤ bucket b.1

def Sh.var? (s : Sh) (name : String) : Option String :=
  (s.vars.lookup name).bind (·.value)

/-- Sets a variable's value, keeping its flags; a new one goes last. -/
def Sh.putVar (s : Sh) (name value : String) : Sh :=
  match s.vars.lookup name with
  | some v =>
    { s with vars := s.vars.map fun (n, x) => if n = name then (n, { v with value := some value }) else (n, x) }
  | none => { s with vars := s.vars ++ [(name, { value := some value })] }

/-- Sets a variable, and exports it too while the option `allexport` is on. Setting
`OPTIND` also restarts `getopts` at that argument, and setting `PATH` forgets the
programs the new path might find elsewhere. -/
def Sh.setVar (s : Sh) (name value : String) : Sh :=
  let s := if name = "PATH" then
      { s with commands := CommandTable.afterPathChange s.commands ((s.var? "PATH").getD "") value }
    else s
  let s := s.putVar name value
  let s := if s.extraOptions.contains "allexport" then
      { s with vars := s.vars.map fun (n, x) => if n = name then (n, { x with exported := true }) else (n, x) }
    else s
  if name = "OPTIND" then
    let k := if !value.isEmpty && value.toList.all Char.isDigit then value.toNat! else 0
    { s with optind := if k = 0 then 1 else k, optoff := none }
  else s

/-! ### Options -/

/-- The shell's options in their fixed order, with their letters; the last two have
none. -/
def optionTable : List (String × Option Char) :=
  [("errexit", some 'e'), ("noglob", some 'f'), ("ignoreeof", some 'I'),
   ("interactive", some 'i'), ("monitor", some 'm'), ("noexec", some 'n'), ("stdin", some 's'),
   ("xtrace", some 'x'), ("verbose", some 'v'), ("vi", some 'V'), ("emacs", some 'E'),
   ("noclobber", some 'C'), ("allexport", some 'a'), ("notify", some 'b'), ("nounset", some 'u'),
   ("nolog", none), ("debug", none)]

/-- Whether the option of a name is on. -/
def Sh.option (s : Sh) (name : String) : Bool :=
  match name with
  | "errexit" => s.errexit
  | "noglob" => s.noglob
  | "interactive" => s.interactive
  | "xtrace" => s.xtrace
  | "nounset" => s.nounset
  | _ => s.extraOptions.contains name

/-- Turns the option of a name on or off. -/
def Sh.withOption (s : Sh) (name : String) (on : Bool) : Sh :=
  match name with
  | "errexit" => { s with errexit := on }
  | "noglob" => { s with noglob := on }
  | "interactive" => { s with interactive := on }
  | "xtrace" => { s with xtrace := on }
  | "nounset" => { s with nounset := on }
  | _ =>
    let rest := s.extraOptions.filter (· != name)
    { s with extraOptions := if on then name :: rest else rest }

/-- The option settings now. -/
def Sh.options (s : Sh) : OptionSet :=
  ⟨s.errexit, s.noglob, s.interactive, s.xtrace, s.nounset, s.extraOptions⟩

/-- The shell with option settings put back. -/
def Sh.withOptions (s : Sh) (o : OptionSet) : Sh :=
  { s with errexit := o.errexit, noglob := o.noglob, interactive := o.interactive,
           xtrace := o.xtrace, nounset := o.nounset, extraOptions := o.extra }

/-- The letters of the options that are on, as `$-` shows them: last option first. -/
def Sh.optionFlags (s : Sh) : String :=
  String.ofList (optionTable.reverse.filterMap fun (name, letter) =>
    if s.option name then letter else none)

def Sh.exportVar (s : Sh) (name : String) : Sh :=
  match s.vars.lookup name with
  | some _ => { s with vars := s.vars.map fun (n, x) => if n = name then (n, { x with exported := true }) else (n, x) }
  | none => { s with vars := s.vars ++ [(name, { value := none, exported := true })] }

def Sh.unsetVar (s : Sh) (name : String) : Sh :=
  let s := if name = "PATH" then
      { s with commands := CommandTable.afterPathChange s.commands ((s.var? "PATH").getD "") "" }
    else s
  { s with vars := s.vars.filter (·.1 != name) }

/-- The environment a child gets: exported variables that are set, as `name=value`. -/
def Sh.environment (s : Sh) : List (String × String) :=
  (listed s.vars).filterMap fun (n, v) =>
    if v.exported then v.value.map fun x => (n, x) else none

/-! ### Files -/

/-- The working directory's canonical names. -/
def Sh.cwdNames (s : Sh) : List String := s.phys

/-- Look a path (a byte string) up from the working directory. -/
def statPath (p : String) : M (Except Errno (List String × Node)) := do
  let w ← get
  return stat w.fs w.sh.cwdNames (Text.Octets.toText p)

/-- The canonical names of a path's parent and its last name, for creating it. -/
def parentOf (p : String) : M (Except Errno (List String × String)) := do
  let w ← get
  let text := Text.Octets.toText p
  let names := pathNames text
  match names.getLast? with
  | none => return .error .noEntry
  | some last =>
    let parentText := Path.ofNames (Path.isAbsolute text) names.dropLast
    let parentText := if parentText.isEmpty then "." else parentText
    match stat w.fs w.sh.cwdNames parentText with
    | .ok (pn, .dir _) => return .ok (pn, last)
    | .ok _ => return .error .notDir
    | .error e => return .error e

/-- Where opening a path to write creates or finds the file: its directory's canonical
names and its name. A link in the last place is followed, so writing to a link that
names nothing creates the file it names. -/
def creationPlace (p : String) : M (Except Errno (List String × String)) :=
  go maxLinks p
where
  go : Nat → String → M (Except Errno (List String × String))
    | 0, _ => return .error .loop
    | k + 1, q => do
      match ← parentOf q with
      | .ok (dir, name) =>
        match (← get).fs.get? (dir ++ [Text.Octets.toText name]) with
        | some (.link target) =>
          let next := if Path.isAbsolute target then target else Path.ofNames true dir ++ "/" ++ target
          go k (Text.Octets.ofText next)
        | _ => return .ok (dir, name)
      | .error e => return .error e

end Confine.Shell
