/-!
# Aliases

An alias is a name that stands for text: when the name is read where a command word
may stand, the text is read in its place. The shell keeps its aliases in a hash table
of 39 buckets, and lists them bucket by bucket, each bucket in the order its names were
first defined; the list here is kept in that order. Redefining a name keeps its place.
-/

namespace Confine.Shell.Alias

/-- The bucket of a name: sixteen times its first byte plus the sum of all its bytes,
in 32-bit arithmetic, modulo 39. -/
def bucket (name : String) : Nat :=
  let bytes := name.toList.map Char.toNat
  (16 * bytes.headD 0 + bytes.foldl (· + ·) 0) % Nat.pow 2 32 % 39

/-- Defines an alias: in place if the name has one, else after every alias of its
bucket or an earlier one. -/
def define (table : List (String × String)) (name value : String) : List (String × String) :=
  if table.any (·.1 == name) then table.map fun (n, v) => if n = name then (n, value) else (n, v)
  else
    let b := bucket name
    let before := table.takeWhile fun (n, _) => bucket n ≤ b
    before ++ (name, value) :: table.drop before.length

/-- Removes an alias. -/
def remove (table : List (String × String)) (name : String) : List (String × String) :=
  table.filter (·.1 != name)

end Confine.Shell.Alias
