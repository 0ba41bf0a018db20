import Confine.Cli.Program
import Confine.Host.Image

/-!
# The command line

The program's entry point: it reads its arguments, the variables it knows of from the
environment, and its whole input, runs the program on the standard host with `/tmp`
as its working directory, and writes out what the run wrote, in order. A run killed by
a signal exits with 128 and the signal's number.
-/

open Confine Confine.Cli Confine.Host

/-- The environment variables the program passes on: the usual ones, and those that
configure the engine. -/
def knownVariables : List String :=
  ["PATH", "HOME", "LANG", "LC_ALL", "TZ", "TERM", "PS1", "USER", "SHELL", "RUST_LOG"] ++
    ExecConfig.fieldNames.map fun f => environmentPrefix ++ "EXEC__" ++ f.toUpper

/-- How long a run is looked at: one day. -/
def lookFor : Nat := 24 * 3600 * 1000000000

/-- Reads a stream to its end. -/
partial def readAll (h : IO.FS.Stream) (acc : ByteArray) : IO ByteArray := do
  let chunk ← h.read 65536
  if chunk.isEmpty then return acc else readAll h (acc ++ chunk)

def main (args : List String) : IO UInt32 := do
  let env ← knownVariables.filterMapM fun k => do
    return (← IO.getEnv k).map fun v => (k, v)
  let input ← readAll (← IO.getStdin) ByteArray.empty
  let ctx : Context :=
    { args, env, files := Image.standard, cwd := ["tmp"], input := input.toList }
  let tr := Cli.run ctx lookFor
  let out ← IO.getStdout
  let err ← IO.getStderr
  for (_, stream, bytes) in tr.writes do
    let h := if stream == .stdout then out else err
    h.write (ByteArray.mk bytes.toArray)
    h.flush
  match tr.exit with
  | some (.code c, _) => return c.toUInt32
  | some (.signal s, _) => return (128 + s).toUInt32
  | none => return 1
