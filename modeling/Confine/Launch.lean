import Confine.Config
import Confine.Env
import Confine.Workspace
import Confine.Host.Run
import Confine.Text.Octets

/-!
# Starting a child

A launch names a shell, a command, a working directory, a terminal mode and the whole
environment of the child. The shell runs the command through `-c`; a blank command
starts the bare shell, which then reads its commands from its input. A child on a
terminal also receives `TERM=xterm-256color`. The environment reaches the child
ordered by name, each name once.

Starting is refused the way the host refuses it, in the host's order: a NUL byte in
any text handed to the host, then a working directory that cannot be entered, then a
program that cannot be run. The refusal names the shell, and says when a terminal was
asked for.
-/

namespace Confine

open Confine.Host

/-- What to start. -/
structure LaunchSpec where
  shell : String
  command : String
  cwd : String
  mode : TerminalMode
  env : List (String × String)
  deriving Repr

namespace LaunchSpec

/-- The terminal type a child on a terminal is told. -/
def terminalType : String := "xterm-256color"

/-- The host's text for a NUL byte inside a text it was given. -/
def nulMessage : String := "nul byte found in provided data"

/-- The arguments after the shell: the command through `-c`, or none when the command
is blank. -/
def args (s : LaunchSpec) : List String :=
  if Text.isBlankText s.command then [] else ["-c", s.command]

/-- The environment the child receives, ordered by name. -/
def childEnv (s : LaunchSpec) : List (String × String) :=
  let env := Env.empty.setAll s.env
  match s.mode with
  | .pipes => env.toList
  | .pty => (env.set "TERM" terminalType).toList

/-- What a refusal to start says before the host's reason. -/
def context (s : LaunchSpec) : String :=
  match s.mode with
  | .pipes => "failed to spawn " ++ s.shell
  | .pty => "failed to spawn " ++ s.shell ++ " on PTY"

/-- A refusal to start, for a reason of the host. -/
def refuse (s : LaunchSpec) (reason : String) : Error :=
  .launchFailed (s.context ++ ": " ++ reason)

/-- Every text the host is handed to start the child. -/
def texts (s : LaunchSpec) : List String :=
  s.shell :: s.args ++ s.env.flatMap (fun (k, v) => [k, v]) ++ [s.cwd]

/-- The directories searched for a program named without a slash. -/
def searchPath (s : LaunchSpec) : List String :=
  ((s.env.find? (·.1 == "PATH")).map (·.2) |>.getD "/usr/bin:/bin").splitOn ":"

/-- The program the shell names, looked up from the child's working directory: a
path with a slash is taken as it is, a bare name is searched along the path. -/
def program (s : LaunchSpec) (files : Node) (cwd : List String) : Except Errno String :=
  let run (p : String) : Except Errno String :=
    match stat files cwd p with
    | .ok (_, .program u) => .ok u
    | .ok _ => .error .access
    | .error e => .error e
  if s.shell.isEmpty then .error .noEntry
  else if s.shell.contains '/' then run s.shell
  else
    let found := s.searchPath.filterMap fun dir =>
      match run ((if dir.isEmpty then "." else dir) ++ "/" ++ s.shell) with
      | .ok u => some u
      | .error _ => none
    match found with
    | u :: _ => .ok u
    | [] => .error .noEntry

/-- Starts the child on a host, or says why the host refuses. -/
def start (s : LaunchSpec) (host : HostView) : Except Error Launch := do
  if s.texts.any (·.contains '\x00') then throw (s.refuse nulMessage)
  let here := host.cwd.getD []
  let dir ← match (if s.cwd.isEmpty then .error .noEntry else stat host.files here s.cwd) with
    | .ok (names, n) => if n.isDir then pure names else throw (s.refuse Errno.notDir.describe)
    | .error e => throw (s.refuse e.describe)
  let utility ← match s.program host.files dir with
    | .ok u => pure u
    | .error e => throw (s.refuse e.describe)
  let bytes := Text.Octets.ofText
  pure { utility
         argv := (s.shell :: s.args).map bytes
         env := s.childEnv.map fun (k, v) => (bytes k, bytes v)
         cwd := bytes s.cwd
         phys := dir
         onTerminal := s.mode == .pty }

end LaunchSpec

end Confine
