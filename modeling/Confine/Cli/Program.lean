import Confine.Cli.Grammar
import Confine.Cli.Load
import Confine.Cli.Report
import Confine.Registry

/-!
# The program

The program reads its command line after filling its environment from the nearest
environment file. Help and the version go to the standard output, a refused command
line to the standard error with exit code 2, and no command at all prints the help
followed by an empty line.

`exec` runs one command on the engine and prints what it printed, the standard
output and then the error output, or with `--json` the indented report; the exit code
is the command's. An interrupt cancels the command, which then ends as a timeout does,
but keeps its own exit code.

`shell` opens a session on a terminal, sends each line of the program's input to it
with a line break, then an end-of-transmission byte at the end of the input or at a
line that is not valid UTF-8, and relays the session's output until its end, reading
at most 4096 bytes at a time with a wait of 200 ms. It exits with the session's exit
code, or 0 when it is not known. An interrupt ends the relay.

Failures print `Error: ` and the message on the standard error and give exit code 1;
an exit code beyond a byte gives 1. A deadline the host's clock cannot hold stops the
program with code 101.

## Time

The program runs on a clock of its own, in nanoseconds from its start. It has read its
command line after one millisecond and loaded its configuration after two, when it
starts its command. An interrupt that comes before the program listens for one kills
it: `exec` listens from the start of its command, `shell` once the session is open.
-/

namespace Confine.Cli

open Confine.Host

namespace Pace

/-- From the start to a read command line. -/
def parsed : Nat := Clock.milli

/-- From the start to a loaded configuration, when the command starts. -/
def started : Nat := 2 * Clock.milli

/-- The signal an interrupt sends. -/
def interruptSignal : Nat := 2

/-- How long `shell` waits for each read of the session. -/
def readWait : Duration := Duration.ofMillis 200

/-- The most `shell` reads from the session at once. -/
def readChunk : Nat := 4096

/-- The byte that tells a terminal the input has ended. -/
def endOfTransmission : UInt8 := 0x04

/-- How long after the lines of its input `shell` sees the input's end. -/
def endOfInput : Nat := 5 * Clock.milli

end Pace

/-- How a process ended: with an exit code, or killed by a signal. -/
inductive Exit where
  | code (n : Nat)
  | signal (n : Nat)
  deriving DecidableEq, Repr

/-- What the program is given when it starts: its arguments and environment, the host's
files with its working directory, the bytes of its input, and when an interrupt comes. -/
structure Context where
  args : List String
  env : List (String × String)
  files : Node
  cwd : List String
  input : List UInt8 := []
  interruptAt : Option Nat := none

/-- What a run of the program shows from outside: what it writes and when, in order,
and how and when it ends, if it ends within the time looked at. -/
structure Transcript where
  writes : List (Nat × Stream × List UInt8)
  exit : Option (Exit × Nat)
  deriving Repr

namespace Transcript

/-- A run that writes one text to a stream and ends at a time. -/
def finish (t : Nat) (stream : Stream) (text : String) (e : Exit) : Transcript :=
  ⟨if text.isEmpty then [] else [(t, stream, Text.Utf8.encode text)], some (e, t)⟩

/-- The run as it is when an interrupt kills the program at a time: what it wrote
before, and an end by the interrupt. -/
def killedAt (tr : Transcript) (t : Nat) : Transcript :=
  ⟨tr.writes.filter (·.1 < t), some (.signal Pace.interruptSignal, t)⟩

end Transcript

/-- The exit code of a process for a result's code: the code when it fits in a byte,
else 1. -/
def exitStatus (code : Int) : Nat := if 0 ≤ code && code ≤ 255 then code.toNat else 1

/-- The message of a failure on the standard error. -/
def errorLine (message : String) : String := "Error: " ++ message ++ "\n"

/-- The text a deadline beyond the host's clock prints as the program stops. -/
def overflowReport (message : String) : String :=
  "\nthread 'main' panicked at library/std/src/time.rs:\n" ++ message ++
    "\nnote: run with RUST_BACKTRACE=1 environment variable to display a backtrace\n"

/-- What the program writes when reading its configuration crashes. -/
def crashReport : String :=
  "\nthread 'main' panicked:\ninternal error: entered unreachable code" ++
    "\nnote: run with RUST_BACKTRACE=1 environment variable to display a backtrace\n"

/-- An interrupt applied to a run: one that comes before the program listens and
before it ends kills it then. -/
def interrupted (tr : Transcript) (listensAt : Option Nat) (at? : Option Nat) : Transcript :=
  match at? with
  | none => tr
  | some t =>
    let beforeListening := listensAt.all (t < ·)
    let beforeEnd := match tr.exit with
      | some (_, e) => t < e
      | none => true
    if beforeListening && beforeEnd then tr.killedAt t else tr

/-- Runs `exec`. -/
def runExec (ctx : Context) (env : List (String × String)) (config : ExecConfig)
    (a : ExecArgs) : Transcript :=
  let engine : Engine := ⟨config, ⟨ctx.files, some ctx.cwd⟩, env⟩
  let req : Request :=
    { command := a.command, cwd := a.cwd, timeout := a.timeoutSecs.map Duration.ofSecs,
      terminalMode := if a.pty then some .pty else none }
  let cancel := ctx.interruptAt.map (· - Pace.started)
  let t0 := Pace.started
  let run : Transcript := match engine.complete req cancel with
    | .error (.error e) => Transcript.finish t0 .stderr (errorLine e.message) (.code 1)
    | .error (.overflow m) => Transcript.finish t0 .stderr (overflowReport m) (.code 101)
    | .ok (r, took) =>
      let t := t0 + took
      let code := Exit.code (exitStatus r.exitCode)
      if a.json then Transcript.finish t .stdout (r.pretty ++ "\n") code
      else
        let out := (if r.stdout.isEmpty then [] else [(t, Stream.stdout, Text.Utf8.encode r.stdout)]) ++
          (if r.stderr.isEmpty then [] else [(t, Stream.stderr, Text.Utf8.encode r.stderr)])
        ⟨out, some (code, t)⟩
  interrupted run (some t0) ctx.interruptAt

/-- The lines of the program's input, each with a line break in place of its own, up
to the first line that is not valid UTF-8, and whether each ended with a break of its
own. A carriage return right before a break is dropped; one at the very end of the
input stays. -/
def inputLines (bytes : List UInt8) : List (List UInt8 × Bool) :=
  let pieces := bytes.splitOn 0x0A
  let ended := pieces.getLast? == some []
  let pieces := if ended then pieces.dropLast else pieces
  let broken := (List.range pieces.length).map fun i => ended || i + 1 < pieces.length
  let valid := (pieces.zip broken).takeWhile fun (p, _) => Text.Utf8.encode (Text.Utf8.decodeLossy p) == p
  valid.map fun (p, b) => ((if b && p.getLast? == some 0x0D then p.dropLast else p) ++ [0x0A], b)

/-- Sends the input's lines to a session, then the end-of-transmission byte; a write
that fails stops the sending. The lines that end with a break go at once; the end of
the input, and with it a last line without a break, is seen a while later. -/
def forward (id : String) : List (List UInt8 × Bool) → Registry → Registry
  | [], r => ((r.advance (r.now + Pace.endOfInput)).write id [Pace.endOfTransmission]).1
  | (l, broken) :: rest, r =>
    let r := if broken then r else r.advance (r.now + Pace.endOfInput)
    match r.write id l with
    | (r, .ok ()) => if broken then forward id rest r else (r.write id [Pace.endOfTransmission]).1
    | (r, .error _) => r

/-- How the relay ended: at the session's end or an interrupt, by a failed read, or
still going when the time looked at was over. -/
inductive RelayEnd where
  | done
  | failed (e : Error)
  | running
  deriving Repr

/-- One read of the relay: how the relay ends, or the registry and the chunks to go on
with. An interrupt at a time before the read's end ends the relay then. -/
def relayOnce (id : String) (interruptAt : Option Nat) (r : Registry)
    (acc : List (Nat × List UInt8)) :
    (Registry × List (Nat × List UInt8) × RelayEnd) ⊕ (Registry × List (Nat × List UInt8)) :=
  let (r', res) := r.read id Pace.readChunk (some Pace.readWait)
  if interruptAt.any (· ≤ r'.now) then .inl (r.advance (interruptAt.getD 0), acc, .done)
  else match res with
    | .error (.error e) => .inl (r', acc, .failed e)
    | .error (.overflow _) => .inl (r', acc, .done)
    | .ok chunk =>
      let acc := if chunk.stdout.isEmpty then acc
        else acc ++ [(r'.now, Text.Utf8.encode chunk.stdout)]
      if chunk.eof then .inl (r', acc, .done) else .inr (r', acc)

/-- Relays a session's output, read by read, until its end, an interrupt at a time,
a failed read, or the time looked at. Gives the registry, the chunks with the time each
was read, and how the relay ended. -/
def relay (id : String) (interruptAt : Option Nat) (horizon : Nat) :
    Nat → Registry → List (Nat × List UInt8) → Registry × List (Nat × List UInt8) × RelayEnd
  | 0, r, acc => (r, acc, .running)
  | fuel + 1, r, acc =>
    if r.now > horizon then (r, acc, .running)
    else match relayOnce id interruptAt r acc with
      | .inl result => result
      | .inr (r, acc) => relay id interruptAt horizon fuel r acc

/-- How many reads a relay makes at most. -/
def relayFuel : Nat := 1000000

/-- Runs `shell`, looking at it up to a time. -/
def runShell (ctx : Context) (env : List (String × String)) (config : ExecConfig)
    (a : ShellArgs) (horizon : Nat) : Transcript :=
  let engine : Engine := ⟨config, ⟨ctx.files, some ctx.cwd⟩, env⟩
  let t0 := Pace.started
  let r := (Registry.new engine).spawnReaper config.sessionReaperInterval
  let req : OpenRequest :=
    { command := a.command.getD "", cwd := a.cwd,
      idleTimeout := a.idleTimeoutSecs.map Duration.ofSecs }
  match r.openSession req with
  | (r, .error e) =>
    interrupted (Transcript.finish (t0 + r.now) .stderr (errorLine e.message) (.code 1))
      none ctx.interruptAt
  | (r, .ok id) =>
    let listensAt := t0 + r.now
    let r := forward id (inputLines ctx.input) r
    let stopAt := ctx.interruptAt.map (· - t0)
    let (r, chunks, ending) := relay id stopAt (horizon - min horizon t0) relayFuel r []
    let writes := chunks.map fun (t, bytes) => (t0 + t, Stream.stdout, bytes)
    let run : Transcript := match ending with
      | .running => ⟨writes, none⟩
      | _ =>
        let (r, snaps) := r.list
        let code := ((snaps.find? (·.id == id)).bind (·.exitCode)).getD 0
        let r := r.closeAll
        let t := t0 + r.now
        match ending with
        | .failed e => ⟨writes ++ [(t, .stderr, Text.Utf8.encode (errorLine e.message))], some (.code 1, t)⟩
        | _ => ⟨writes, some (.code (exitStatus code), t)⟩
    interrupted run (some listensAt) ctx.interruptAt

/-- Runs the program, looking at it up to a time. -/
def run (ctx : Context) (horizon : Nat) : Transcript :=
  let env := withEnvFile ctx.files ctx.cwd ctx.env
  let unguarded := fun (tr : Transcript) => interrupted tr none ctx.interruptAt
  match parse ctx.args with
  | .show text => unguarded (Transcript.finish Pace.parsed .stdout text (.code 0))
  | .refuse text => unguarded (Transcript.finish Pace.parsed .stderr text (.code 2))
  | .run _ none =>
    unguarded (Transcript.finish Pace.parsed .stdout (rootSpec.helpText ++ "\n") (.code 0))
  | .run _ (some cmd) =>
    match loadConfig ctx.files ctx.cwd env with
    | .error .crash => unguarded (Transcript.finish Pace.started .stderr crashReport (.code 101))
    | .error e => unguarded (Transcript.finish Pace.started .stderr e.report (.code 1))
    | .ok config =>
      match cmd with
      | .exec a => runExec ctx env config a
      | .shell a => runShell ctx env config a horizon

end Confine.Cli
