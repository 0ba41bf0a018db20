/-!
# The table of commands found on the search path

A shell remembers where it found each program it ran: the name, the full path, and
the index of the search-path entry that held it. `type` calls such a program a
*tracked alias*, and `hash` lists the table. The table is a hash table of 31 buckets,
listed bucket by bucket, each bucket in the order its names were added; the list here
is kept in that order.

When the search path changes, every entry found at or after the first entry that
changed is forgotten, since a search in the new path might find it elsewhere.
-/

namespace Confine.Shell.CommandTable

/-- A program the shell found on the search path. -/
structure Tracked where
  name : String
  path : String
  /-- The index of the search-path entry that holds it. -/
  index : Nat
  deriving Repr, BEq, Inhabited

/-- The bucket of a name: sixteen times its first byte plus the sum of all its bytes,
kept to fifteen bits, modulo 31. -/
def bucket (name : String) : Nat :=
  let bytes := name.toList.map Char.toNat
  (16 * bytes.headD 0 + bytes.foldl (· + ·) 0) % 32768 % 31

/-- Adds a program after every entry of its bucket or an earlier one, unless its name
is already there. -/
def remember (table : List Tracked) (t : Tracked) : List Tracked :=
  if table.any (·.name == t.name) then table
  else
    let b := bucket t.name
    let before := table.takeWhile fun e => bucket e.name ≤ b
    before ++ t :: table.drop before.length

/-- Forgets a name. -/
def forget (table : List Tracked) (name : String) : List Tracked :=
  table.filter (·.name != name)

/-- The path a name was found at, if the table has it. -/
def lookup (table : List Tracked) (name : String) : Option String :=
  (table.find? (·.name == name)).map (·.path)

/-- The index of the first search-path entry that differs between two paths, counting
a new or a lost entry at the end as a change of the entry after; no change gives a
number beyond every entry. -/
def firstChange : List Char → List Char → Nat → Nat
  | o :: os, n :: ns, idx =>
    if o == n then firstChange os ns (if n == ':' then idx + 1 else idx) else idx
  | [], [], _ => 9999
  | [], ':' :: _, idx => idx + 1
  | [], _ :: _, idx => idx
  | ':' :: _, [], idx => idx + 1
  | _ :: _, [], idx => idx

/-- The table after the search path changes from `old` to `new`. -/
def afterPathChange (table : List Tracked) (old new : String) : List Tracked :=
  let first := firstChange old.toList new.toList 0
  table.filter (·.index < first)

/-- A program's line in the list `hash` prints: its path. -/
def Tracked.line (t : Tracked) : String := t.path ++ "\n"

end Confine.Shell.CommandTable
