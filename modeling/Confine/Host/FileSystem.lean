import Confine.Path

/-!
# A file-system image

The host's files form a tree of directories, regular files, symbolic links, programs
and devices. A path is looked up one name at a time from the root or from a working
directory; a symbolic link on the way is replaced by its target, at most forty times
per lookup. Lookups fail the way the host reports it: a missing name, a name under
something that is no directory, or too many links.
-/

namespace Confine.Host

/-- A device file: reading the null device gives nothing, reading the zero device
gives zero bytes without end, the full device reads as the zero device and refuses
every write, the terminal is the controlling terminal, and a descriptor device is
whatever the process that opens it has open as that descriptor. -/
inductive Device where
  | null
  | zero
  | full
  | terminal
  | descriptor (n : Nat)
  deriving DecidableEq, Repr

/-- A node of the file tree. A program is an executable file whose behaviour is the
named utility. -/
inductive Node where
  | file (content : List UInt8)
  | program (utility : String)
  | device (d : Device)
  | link (target : String)
  | dir (entries : List (String × Node))
  deriving Repr, Inhabited

/-- Why a lookup or an operation on files failed, by its host error number. -/
inductive Errno where
  | noEntry
  | notDir
  | loop
  | access
  | isDir
  | exists
  | noDevice
  | notTty
  | brokenPipe
  | notEmpty
  | badDescriptor
  | noSpace
  deriving DecidableEq, Repr

/-- The host's error number. -/
def Errno.code : Errno → Nat
  | .noEntry => 2
  | .notDir => 20
  | .loop => 40
  | .access => 13
  | .isDir => 21
  | .exists => 17
  | .noDevice => 6
  | .notTty => 25
  | .brokenPipe => 32
  | .notEmpty => 39
  | .badDescriptor => 9
  | .noSpace => 28

/-- The host's text for an error number. -/
def Errno.text : Errno → String
  | .noEntry => "No such file or directory"
  | .notDir => "Not a directory"
  | .loop => "Too many levels of symbolic links"
  | .access => "Permission denied"
  | .isDir => "Is a directory"
  | .exists => "File exists"
  | .noDevice => "No such device or address"
  | .notTty => "Inappropriate ioctl for device"
  | .brokenPipe => "Broken pipe"
  | .notEmpty => "Directory not empty"
  | .badDescriptor => "Bad file descriptor"
  | .noSpace => "No space left on device"

/-- The error as the host formats an I/O error: text and number. -/
def Errno.describe (e : Errno) : String :=
  s!"{e.text} (os error {String.ofList (Nat.toDigits 10 e.code)})"

namespace Node

/-- Whether a node is a directory. -/
def isDir : Node → Bool
  | .dir _ => true
  | _ => false

/-- The entry of a directory under a name. -/
def child? : Node → String → Option Node
  | .dir entries, name => (entries.find? (·.1 == name)).map (·.2)
  | _, _ => none

/-- The node at a list of names below this one, without following links. -/
def get? (n : Node) : List String → Option Node
  | [] => some n
  | name :: rest => (n.child? name).bind (·.get? rest)

/-- Replaces or adds the entry under a name, keeping the others in order. -/
def setEntry (entries : List (String × Node)) (name : String) (node : Node) : List (String × Node) :=
  if entries.any (·.1 == name) then entries.map fun (k, v) => if k == name then (k, node) else (k, v)
  else entries ++ [(name, node)]

/-- Puts a node at a list of names below this directory; every directory on the way
must exist. -/
def put? : Node → List String → Node → Option Node
  | _, [], node => some node
  | .dir entries, [name], node => some (.dir (setEntry entries name node))
  | .dir entries, name :: rest, node => do
    let sub ← (entries.find? (·.1 == name)).map (·.2)
    let sub' ← sub.put? rest node
    pure (.dir (setEntry entries name sub'))
  | _, _, _ => none

end Node

/-- The names of a path's components, with `.` and `..` kept as text. -/
def pathNames (p : String) : List String :=
  (Path.components p).filterMap fun
    | .root => none
    | .cur => some "."
    | .parent => some ".."
    | .normal n => some n

/-- Follows a path from a canonical directory. `done` holds the canonical names
reached so far, last first; `links` bounds how many links may still be replaced.
The last name is followed through a link only when `followLast` is set. The result
is the canonical list of names, last first. -/
def walk (root : Node) (followLast : Bool) (links : Nat) (done : List String) :
    List String → Except Errno (List String)
  | [] => .ok done
  | name :: rest =>
    if name = "." then walk root followLast links done rest
    else if name = ".." then walk root followLast links done.tail rest
    else
      match root.get? done.reverse with
      | some (.dir entries) =>
        match ((entries.find? (·.1 == name)).map (·.2) : Option Node) with
        | none => .error .noEntry
        | some (Node.link target) =>
          if rest.isEmpty && !followLast then .ok (name :: done)
          else match links with
            | 0 => .error .loop
            | k + 1 =>
              let start := if Path.isAbsolute target then [] else done
              walk root followLast k start (pathNames target ++ rest)
        | some _ => walk root followLast links (name :: done) rest
      | some _ => .error .notDir
      | none => .error .noEntry
termination_by names => (links, names.length)

/-- The host's bound on links replaced in one lookup. -/
def maxLinks : Nat := 40

/-- The canonical names of a path, looked up from the working directory `cwd`
(itself canonical names, first first). -/
def lookup (root : Node) (cwd : List String) (p : String) (followLast : Bool := true) :
    Except Errno (List String) :=
  let start := if Path.isAbsolute p then [] else cwd.reverse
  (walk root followLast maxLinks start (pathNames p)).map List.reverse

/-- The node a path names, following links, with its canonical names. -/
def stat (root : Node) (cwd : List String) (p : String) : Except Errno (List String × Node) := do
  let names ← lookup root cwd p
  match root.get? names with
  | some n => pure (names, n)
  | none => throw .noEntry

/-- The canonical text of a path that exists. An empty path names nothing. -/
def canonicalize (root : Node) (cwd : List String) (p : String) : Except Errno String :=
  if p.isEmpty then .error .noEntry
  else (stat root cwd p).map fun (names, _) => Path.ofNames true names

/-- Whether a path names a directory, following links. -/
def isDirectory (root : Node) (cwd : List String) (p : String) : Bool :=
  match stat root cwd p with
  | .ok (_, n) => n.isDir
  | .error _ => false

end Confine.Host
