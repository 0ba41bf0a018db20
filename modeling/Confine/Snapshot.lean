import Confine.Timestamp

/-!
# Session snapshots and their order

A snapshot describes one registered session. Listings show the newest session
first; sessions started at the same instant appear in ascending order of their ids,
compared as bytes. Sorting is stable, so entries equal in both keys keep their order.
-/

namespace Confine

/-- What a listing says about one session. -/
structure Snapshot where
  id : String
  command : String
  cwd : String
  startedAt : Timestamp
  alive : Bool
  exitCode : Option Int
  deriving Repr

namespace Snapshot

/-- Whether `a` may stand before `b`: it started later, or at the same instant with an
id no greater. -/
def before (a b : Snapshot) : Bool :=
  b.startedAt < a.startedAt || (a.startedAt = b.startedAt && a.id ≤ b.id)

/-- Snapshots newest first, ties broken by id. -/
def sort (xs : List Snapshot) : List Snapshot := xs.mergeSort before

end Snapshot

end Confine
