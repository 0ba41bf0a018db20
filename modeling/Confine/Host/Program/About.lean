import Confine.Host.Program.Basic
import Confine.Host.Program.Options

/-!
# What a program says about itself

Every utility answers `--help` with its usage lines and `--version` with the line that
names it, its package and the package's version. The usage lines carry the name the
program was run by, a path included, where the program writes its own name; the
version line always names the program plainly.
-/

namespace Confine.Host.Program

open Confine.Shell

/-- The package a utility comes from and the package's version. -/
def packageOf (name : String) : String × String :=
  match name with
  | "grep" => ("GNU grep", "3.8")
  | "xargs" => ("GNU findutils", "4.9.0")
  | _ => ("GNU coreutils", "9.1")

/-- The line `--version` starts with: `name (package) version`. -/
def versionLine (name : String) : String :=
  let (package, version) := packageOf name
  name ++ " (" ++ package ++ ") " ++ version

/-- The usage lines of a utility, each a pattern after the program's name. The first
follows `Usage:`, the others `or:`. -/
def usagePatterns (name : String) : List String :=
  match name with
  | "cat" | "head" | "tail" | "ls" | "rm" | "tee" => ["[OPTION]... [FILE]..."]
  | "wc" | "sort" => ["[OPTION]... [FILE]...", "[OPTION]... --files0-from=F"]
  | "cut" => ["OPTION... [FILE]..."]
  | "tr" => ["[OPTION]... STRING1 [STRING2]"]
  | "od" =>
    ["[OPTION]... [FILE]...", "[-abcdfilosx]... [FILE] [[+]OFFSET[.][b]]",
     "--traditional [OPTION]... [FILE] [[+]OFFSET[.][b] [+][LABEL][.][b]]"]
  | "uniq" => ["[OPTION]... [INPUT [OUTPUT]]"]
  | "mkdir" => ["[OPTION]... DIRECTORY..."]
  | "touch" => ["[OPTION]... FILE..."]
  | "seq" => ["[OPTION]... LAST", "[OPTION]... FIRST LAST", "[OPTION]... FIRST INCREMENT LAST"]
  | "sleep" => ["NUMBER[SUFFIX]...", "OPTION"]
  | "env" => ["[OPTION]... [-] [NAME=VALUE]... [COMMAND [ARG]...]"]
  | "echo" => ["[SHORT-OPTION]... [STRING]...", "LONG-OPTION"]
  | "printf" => ["FORMAT [ARGUMENT]...", "OPTION"]
  | "true" | "false" => ["[ignored command line arguments]", "OPTION"]
  | "pwd" | "uname" | "whoami" | "tty" => ["[OPTION]..."]
  | "yes" => ["[STRING]...", "OPTION"]
  | "id" => ["[OPTION]... [USER]..."]
  | "basename" => ["NAME [SUFFIX]", "OPTION... NAME..."]
  | "dirname" => ["[OPTION] NAME..."]
  | "date" => ["[OPTION]... [+FORMAT]", "[-u|--utc|--universal] [MMDDhhmm[[CC]YY][.ss]]"]
  | "stty" =>
    ["[-F DEVICE | --file=DEVICE] [SETTING]...", "[-F DEVICE | --file=DEVICE] [-a|--all]",
     "[-F DEVICE | --file=DEVICE] [-g|--save]"]
  | "expr" => ["EXPRESSION", "OPTION"]
  | "grep" => ["[OPTION]... PATTERNS [FILE]..."]
  | "xargs" => ["[OPTION]... COMMAND [INITIAL-ARGS]..."]
  | _ => ["[OPTION]..."]

/-- The usage text of a utility run by the name `shown`. -/
def usageText (name shown : String) : String :=
  if name == "test" || name == "[" then
    "Usage: test EXPRESSION\n  or:  test\n  or:  [ EXPRESSION ]\n  or:  [ ]\n  or:  [ OPTION\n"
  else
  match usagePatterns name with
  | [] => ""
  | first :: more =>
    "Usage: " ++ shown ++ " " ++ first ++ "\n" ++
      String.join (more.map fun p => "  or:  " ++ shown ++ " " ++ p ++ "\n")

/-- Print the usage text of a utility. `grep` writes only the last part of the name it
was run by. -/
def showUsage (name : String) : M Unit := do
  let shown ← invokedName name
  let shown := if name == "grep" then (shown.splitOn "/").getLastD shown else shown
  say (usageText name shown)

/-- Print the version line of a utility. -/
def showVersion (name : String) : M Unit := say (versionLine name ++ "\n")

/-- Answer `--help` or `--version` if the options read end with one: the status to
exit with, or none when the program goes on. -/
def aboutRequest (name : String) (r : ReadOptions) : M (Option Nat) := do
  match r.options.getLast? with
  | some ("help", _) => showUsage name; return some 0
  | some ("version", _) => showVersion name; return some 0
  | _ => return none

end Confine.Host.Program
