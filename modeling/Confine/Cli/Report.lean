import Confine.Engine
import Confine.Settings.Value

/-!
# The report of a finished command

With `--json` the program prints the result of a command as a JSON object, indented
by two blanks a level, with the fields in a fixed order: `exit_code`, `stdout`,
`stderr`, `truncated`, `timed_out`. In a string a quote and a backslash are escaped,
so are the control characters, by their short escapes where JSON has one and as
`\u00xx` with lowercase digits otherwise; every other character stands as itself.
-/

namespace Confine.Cli

/-- The escaped form of one character inside a JSON string. -/
def jsonEscape (c : Char) : List Char :=
  if c == '"' then ['\\', '"']
  else if c == '\\' then ['\\', '\\']
  else if c == '\n' then ['\\', 'n']
  else if c == '\r' then ['\\', 'r']
  else if c == '\t' then ['\\', 't']
  else if c == '\x08' then ['\\', 'b']
  else if c == '\x0c' then ['\\', 'f']
  else if c.toNat < 0x20 then
    let hex := Nat.toDigits 16 c.toNat
    ['\\', 'u'] ++ List.replicate (4 - hex.length) '0' ++ hex
  else [c]

/-- A JSON string. -/
def jsonString (s : String) : String := String.ofList ('"' :: s.toList.flatMap jsonEscape ++ ['"'])

/-- The text of a boolean in JSON. -/
def jsonBool (b : Bool) : String := if b then "true" else "false"

end Confine.Cli

namespace Confine

open Confine.Cli

/-- The result of a command as an indented JSON object. -/
def ExecResult.pretty (r : ExecResult) : String :=
  let field (k v : String) := "  " ++ jsonString k ++ ": " ++ v
  "\x7b\n" ++ ",\n".intercalate [
    field "exit_code" (Settings.intText r.exitCode),
    field "stdout" (jsonString r.stdout),
    field "stderr" (jsonString r.stderr),
    field "truncated" (jsonBool r.truncated),
    field "timed_out" (jsonBool r.timedOut)] ++ "\n\x7d"

end Confine
