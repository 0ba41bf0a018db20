/-!
# Resource limits

A process has, for each resource, a soft limit that the kernel enforces and a hard limit
above which the soft one cannot go; `none` is no limit. A child starts with its
parent's limits. `ulimit` shows and sets them in the resource's own unit: blocks of 512
bytes for file sizes, kilobytes for memory, a plain count for the rest.
-/

namespace Confine.Shell

/-- One limit, in bytes or as a count: the soft value and its hard ceiling; `none` is no
limit. -/
structure Limit where
  soft : Option Nat
  hard : Option Nat
  deriving DecidableEq, Repr, Inhabited

/-- A resource that `ulimit` knows: its option letter, the name `ulimit -a` shows, the
unit it counts in, and the limit of a process that the host starts. -/
structure Resource where
  letter : Char
  name : String
  unit : Nat
  initial : Limit
  deriving Repr, Inhabited

/-- The resources in the order `ulimit -a` lists them. -/
def resources : List Resource :=
  [⟨'t', "time(seconds)", 1, ⟨none, none⟩⟩,
   ⟨'f', "file(blocks)", 512, ⟨none, none⟩⟩,
   ⟨'d', "data(kbytes)", 1024, ⟨none, none⟩⟩,
   ⟨'s', "stack(kbytes)", 1024, ⟨some 8388608, none⟩⟩,
   ⟨'c', "coredump(blocks)", 512, ⟨some 0, none⟩⟩,
   ⟨'m', "memory(kbytes)", 1024, ⟨none, none⟩⟩,
   ⟨'l', "locked memory(kbytes)", 1024, ⟨some 8388608, some 8388608⟩⟩,
   ⟨'p', "process", 1, ⟨some 128597, some 128597⟩⟩,
   ⟨'n', "nofiles", 1, ⟨some 20000, some 20000⟩⟩,
   ⟨'v', "vmemory(kbytes)", 1024, ⟨none, none⟩⟩,
   ⟨'w', "locks", 1, ⟨none, none⟩⟩,
   ⟨'r', "rtprio", 1, ⟨some 0, some 0⟩⟩]

/-- The most open files a process may be allowed. -/
def openFilesCeiling : Nat := 1048576

/-- Why a limit cannot be set. -/
inductive LimitRefusal where
  /-- The soft limit would stand above the hard one. -/
  | invalid
  /-- The hard limit would pass what the host allows. -/
  | notPermitted
  deriving DecidableEq, Repr

/-- The message of a refused limit, as the host's error text. -/
def LimitRefusal.text : LimitRefusal → String
  | .invalid => "Invalid argument"
  | .notPermitted => "Operation not permitted"

/-- Whether one limit is at most another; no limit is above every number. -/
def Limit.atMost : Option Nat → Option Nat → Bool
  | _, none => true
  | none, some _ => false
  | some a, some b => a ≤ b

/-- The limit after setting its soft value, its hard value or both to `value`. -/
def Limit.update (old : Limit) (soft hard : Bool) (value : Option Nat) : Limit :=
  { soft := if soft then value else old.soft, hard := if hard then value else old.hard }

/-- Checks a new limit of a resource: its soft value may not pass its hard one, and the
open files may not pass the host's ceiling. -/
def Resource.check (r : Resource) (l : Limit) : Except LimitRefusal Limit :=
  if r.letter == 'n' && !Limit.atMost l.hard (some openFilesCeiling) then .error .notPermitted
  else if !Limit.atMost l.soft l.hard then .error .invalid
  else .ok l

/-- A limit as `ulimit` shows it: `unlimited`, or the value in the resource's unit. -/
def Resource.display (r : Resource) : Option Nat → String
  | none => "unlimited"
  | some v => toString (v / r.unit)

end Confine.Shell
