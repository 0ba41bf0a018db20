import Confine.Host.FileSystem

/-!
# The host's file-system image

The host the engine runs on: the system directories with the programs that the shell
can find, the device files, and room for working directories under `/tmp`. `/bin`,
`/lib` and `/sbin` are links into `/usr`, as on a merged-usr system.
-/

namespace Confine.Host

namespace Node

/-- An empty directory. -/
def emptyDir : Node := .dir []

/-- Makes every directory along a list of names, keeping what exists. -/
def mkdirAll : Node → List String → Node
  | n, [] => n
  | .dir entries, name :: rest =>
    let sub := match (entries.find? (·.1 == name)).map (·.2) with
      | some s => s
      | none => emptyDir
    .dir (setEntry entries name (mkdirAll sub rest))
  | n, _ => n

/-- Puts a node at an absolute path, making the directories above it. -/
def putPath (root : Node) (p : String) (node : Node) : Node :=
  let names := pathNames p
  let parent := names.dropLast
  let withDirs := root.mkdirAll parent
  (withDirs.put? names node).getD withDirs

end Node

/-- The utilities installed in `/usr/bin`. -/
def utilities : List String :=
  ["sh", "dash", "bash", "echo", "printf", "cat", "env", "sort", "ls", "head", "tail", "tr",
   "seq", "stty", "sleep", "true", "false", "pwd", "wc", "yes", "uname", "id", "whoami",
   "basename", "dirname", "date", "mkdir", "rm", "touch", "test", "[", "tty", "grep",
   "cut", "uniq", "tee", "xargs", "expr", "od"]

/-- The standard image: system directories, utilities, devices and `/tmp`. -/
def Image.standard : Node :=
  let usrBin : Node := .dir (utilities.map fun u => (u, Node.program u))
  .dir [
    ("bin", .link "usr/bin"),
    ("boot", .dir []),
    ("dev", .dir [("fd", .link "/proc/self/fd"), ("full", .device .full), ("null", .device .null),
      ("stderr", .link "/proc/self/fd/2"), ("stdin", .link "/proc/self/fd/0"),
      ("stdout", .link "/proc/self/fd/1"), ("tty", .device .terminal), ("zero", .device .zero)]),
    ("etc", .dir []),
    ("home", .dir []),
    ("lib", .link "usr/lib"),
    ("lib64", .link "usr/lib64"),
    ("media", .dir []),
    ("mnt", .dir []),
    ("opt", .dir []),
    ("proc", .dir [("self", .dir [("fd", .dir ((List.range 10).map fun k =>
      (toString k, Node.device (.descriptor k))))])]),
    ("root", .dir []),
    ("run", .dir []),
    ("sbin", .link "usr/sbin"),
    ("srv", .dir []),
    ("sys", .dir []),
    ("tmp", .dir []),
    ("usr", .dir [("bin", usrBin), ("lib", .dir []), ("lib64", .dir []),
      ("local", .dir [("bin", .dir [])]), ("sbin", .dir [])]),
    ("var", .dir [])]

end Confine.Host
