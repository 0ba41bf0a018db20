import Confine.Config.Layered
import Confine.Cli.DotEnv
import Confine.Host.FileSystem
import Confine.Path
import Confine.Settings.Ini
import Confine.Settings.Json
import Confine.Settings.Json5
import Confine.Settings.Ron
import Confine.Settings.Toml
import Confine.Settings.Yaml

/-!
# Loading the program's configuration

Before it reads its command line the program fills its environment from the nearest
environment file `.env`, looking in the working directory and then in each directory
above it.

Its configuration has three layers: the built-in defaults, then the local file
`config/local` with the extension of its format (`toml`, `json`, `yaml`, `yml`,
`ini`, `ron` or `json5`, looked for in that order), then the environment variables whose names start with
`SANDSHELL_`. The local file may be missing; a file named `config/local` itself, with
no extension, makes the program pass the local layer over, and so does a file that is
not valid UTF-8. A local file that does not parse, or whose top is not a table, stops
the program, as do settings the engine cannot use. The failure is reported as a
context line with its cause below it, indented.
-/

namespace Confine.Cli

open Confine.Settings
open Confine.Host

/-- The formats a configuration file can be written in. -/
inductive Format where
  | toml
  | json
  | yaml
  | ini
  | ron
  | json5
  deriving DecidableEq, Repr

/-- Reads a document of a format: its value, or a message, or a crash. -/
def Format.parse : Format → String → Except Yaml.Refusal Value
  | .toml => fun text => (Toml.parse text).mapError .problem
  | .json => fun text => (Json.parse text).mapError .problem
  | .yaml => Yaml.parse
  | .ini => fun text => (Ini.parse text).mapError .problem
  | .ron => fun text => (Ron.parse text).mapError .problem
  | .json5 => fun text => (Json5.parse text).mapError .problem

/-- The extensions of the local file in the order they are looked for. -/
def localExtensions : List (String × Format) :=
  [("toml", .toml), ("json", .json), ("yaml", .yaml), ("yml", .yaml),
   ("ini", .ini), ("ron", .ron), ("json5", .json5)]

/-- The local file's path without its extension, from the working directory. -/
def localStem : String := "config/local"

/-- The prefix of the environment variables that configure the program. -/
def environmentPrefix : String := "SANDSHELL_"

/-- The built-in defaults: the table `exec` with the engine's defaults. -/
def defaults : List (String × Setting) :=
  let n (k : String) (v : Nat) : String × Setting := (k, .scalar none (.int v))
  [("exec", .table none [
    n "default_timeout_secs" 120,
    n "max_timeout_secs" 1800,
    n "max_output_bytes" 102400,
    ("terminal_mode", .scalar none (.str "pipes")),
    ("shell", .scalar none (.str "/bin/sh")),
    n "session_idle_timeout_secs" 1800,
    n "session_reaper_interval_secs" 60,
    n "max_sessions" 4,
    n "kill_grace_ms" 200,
    n "poll_interval_ms" 10])]

/-- Why the configuration could not be loaded. -/
inductive LoadError where
  /-- A source could not be read. -/
  | build (cause : String)
  /-- The settings cannot be used by the engine. -/
  | deserialize (cause : String)
  /-- Reading a source crashed. -/
  | crash
  deriving Repr, DecidableEq

/-- The context line of a failure. -/
def LoadError.context : LoadError → String
  | .build _ => "Failed to build configuration"
  | .deserialize _ => "Failed to deserialize configuration"
  | .crash => "Failed to build configuration"

/-- The cause of a failure. -/
def LoadError.cause : LoadError → String
  | .build c => c
  | .deserialize c => c
  | .crash => "internal error: entered unreachable code"

/-- A text with every non-empty line indented by four blanks. -/
def indent (text : String) : String :=
  "\n".intercalate ((text.splitOn "\n").map fun l => if l.isEmpty then l else "    " ++ l)

/-- The report of a failure: the context, then the cause indented below it. -/
def LoadError.report (e : LoadError) : String :=
  "Error: " ++ e.context ++ "\n\nCaused by:\n" ++ indent e.cause ++ "\n"

/-- The contents of a regular file at a path, following links. -/
def regularFile? (root : Node) (cwd : List String) (p : String) : Option (List UInt8) :=
  match stat root cwd p with
  | .ok (_, .file content) => some content
  | .ok (_, .program _) => some []
  | _ => none

/-- The local file: its path, format and text, when one is found and readable. -/
def localFile (root : Node) (cwd : List String) : Option (String × Format × String) :=
  if (regularFile? root cwd localStem).isSome then none
  else
    let found := localExtensions.findSome? fun (ext, fmt) =>
      let p := localStem ++ "." ++ ext
      (regularFile? root cwd p).map fun bytes => (p, fmt, bytes)
    match found with
    | some (p, fmt, bytes) =>
      if Text.Utf8.encode (Text.Utf8.decodeLossy bytes) == bytes then
        some (p, fmt, Text.Utf8.decodeLossy bytes)
      else none
    | none => none

/-- The entries of a file's top table, every value marked with the file's path. -/
def fileEntries (path : String) (fmt : Format) (text : String) :
    Except LoadError (List (String × Setting)) :=
  match fmt.parse text with
  | .error (.problem e) => .error (.build (e ++ " in " ++ path))
  | .error .crash => .error .crash
  | .ok v =>
    match Setting.ofValue (some path) v with
    | .table _ entries => .ok entries
    | s => .error (.build ("invalid type: " ++ s.unexpected ++ ", expected a map in " ++ path ++
      " in " ++ path))

/-- Loads the engine's settings from the three layers. -/
def loadConfig (root : Node) (cwd : List String) (env : List (String × String)) :
    Except LoadError ExecConfig := do
  let layered := Setting.empty.layer defaults
  let layered ← match localFile root cwd with
    | none => pure layered
    | some (p, fmt, text) =>
      match fileEntries p fmt text with
      | .ok entries => pure (layered.layer entries)
      | .error e => throw e
  let layered := layered.layer (environmentEntries environmentPrefix env)
  (ExecConfig.ofConfiguration layered).mapError fun p => .deserialize p.text

/-- The nearest environment file, looking from a directory up to the root: its bytes,
if one is found before a directory that cannot be searched. -/
def findEnvFile (root : Node) : List String → Option (List UInt8)
  | dir =>
    let rec up : List String → Nat → Option (List UInt8)
      | _, 0 => none
      | d, fuel + 1 =>
        match stat root [] (Path.ofNames true (d ++ [".env"])) with
        | .ok (_, .file content) => some content
        | .ok (_, .program _) => some []
        | .ok _ | .error .noEntry =>
          if d.isEmpty then none else up d.dropLast fuel
        | .error _ => none
    up dir (dir.length + 1)

/-- The environment after the nearest environment file fills it in. -/
def withEnvFile (root : Node) (cwd : List String) (env : List (String × String)) :
    List (String × String) :=
  match findEnvFile root cwd with
  | some bytes => DotEnv.fill env bytes
  | none => env

end Confine.Cli
