import Confine.Regex.Basic

/-!
# Matching a regular expression

Matching runs every alternative at once. A *trail* is one way of having matched so
far: the place reached and what each group captured. Running an expression takes the
list of trails before it to the list of trails after it, with no trail twice, so a
match of the whole expression from a start is any trail left at the end, and the
longest match ends at the farthest of them. Back references compare bytes with what
their group captured on the same trail.

A repetition runs its body the least number of times, then again as long as new
trails appear and the most allows; a body that can match the empty string adds no
trail the second time, so this stops.

`search` finds the leftmost match and, of those starting there, the longest, as
POSIX asks.
-/

namespace Confine.Regex

/-- One way of having matched so far: the place reached and, per group, the last
text it captured, as a start and an end. -/
structure Trail where
  pos : Nat
  groups : List (Nat × Nat × Nat) := []
  deriving BEq, Repr

/-- The trail with a group's capture set. -/
def Trail.capture (t : Trail) (index start : Nat) : Trail :=
  { t with groups := (index, start, t.pos) :: t.groups.filter (·.1 != index) }

/-- Adds trails not already in a list, keeping the list's order. -/
def addNew (acc : List Trail) : List Trail → List Trail
  | [] => acc
  | t :: rest => if acc.contains t then addNew acc rest else addNew (acc ++ [t]) rest

/-- Whether an assertion holds at a place of a subject. -/
def Anchor.holds (subject : Array UInt8) (a : Anchor) (pos : Nat) : Bool :=
  let before := pos > 0 && (subject[pos - 1]?.map isWordByte).getD false
  let after := (subject[pos]?.map isWordByte).getD false
  match a with
  | .start => pos = 0
  | .finish => pos = subject.size
  | .wordBoundary => before != after
  | .notWordBoundary => before == after
  | .wordStart => !before && after
  | .wordEnd => before && !after

/-- Whether the bytes of a subject at a place repeat those of a span, ignoring ASCII
case when asked. -/
def repeatsAt (subject : Array UInt8) (ignoreCase : Bool) (start finish pos : Nat) : Bool :=
  let len := finish - start
  pos + len ≤ subject.size &&
    (List.range len).all fun i =>
      let a := subject[start + i]?.getD 0
      let b := subject[pos + i]?.getD 0
      a == b || (ignoreCase && lower a == lower b)

/-- The trails after `least` to `most` further runs of `step` from the given ones.
After the least, a run that adds no new trail ends the repetition; `fuel` bounds the
runs when there is no most. -/
def repeatRuns (step : List Trail → List Trail) (least : Nat) (most : Option Nat) (fuel : Nat)
    (ts : List Trail) : List Trail :=
  let firm := (List.range least).foldl (fun acc _ => addNew [] (step acc)) ts
  let extra := match most with
    | some m => m - least
    | none => fuel
  grow extra firm firm
where
  /-- Runs `step` on the trails found last, keeping those not seen before. -/
  grow : Nat → List Trail → List Trail → List Trail
    | 0, _, acc => acc
    | k + 1, frontier, acc =>
      let fresh := addNew [] ((step frontier).filter fun t => !acc.contains t)
      if fresh.isEmpty then acc else grow k fresh (acc ++ fresh)

/-- The trails after an expression, from the trails before it. -/
def Pattern.run (subject : Array UInt8) (ignoreCase : Bool) : Pattern → List Trail → List Trail
  | .empty, ts => ts
  | .byte set, ts => ts.filterMap fun t =>
    match subject[t.pos]? with
    | some b => if set.admits ignoreCase b then some { t with pos := t.pos + 1 } else none
    | none => none
  | .anchor a, ts => ts.filter fun t => a.holds subject t.pos
  | .group index body, ts =>
    addNew [] (ts.flatMap fun t => (Pattern.run subject ignoreCase body [t]).map (·.capture index t.pos))
  | .backref index, ts => ts.filterMap fun t =>
    match t.groups.lookup index with
    | some (s, e) =>
      if repeatsAt subject ignoreCase s e t.pos then some { t with pos := t.pos + (e - s) } else none
    | none => none
  | .seq a b, ts => Pattern.run subject ignoreCase b (Pattern.run subject ignoreCase a ts)
  | .alt a b, ts => addNew (Pattern.run subject ignoreCase a ts) (Pattern.run subject ignoreCase b ts)
  | .rep body least most, ts =>
    repeatRuns (fun xs => Pattern.run subject ignoreCase body xs) least most (subject.size + 1) ts
  | .lazy body least most, ts =>
    repeatRuns (fun xs => Pattern.run subject ignoreCase body xs) least most (subject.size + 1) ts
  | .look behind negated body, ts => ts.filter fun t =>
    let found :=
      if behind then
        (List.range (t.pos + 1)).any fun s =>
          (Pattern.run subject ignoreCase body [{ t with pos := s }]).any (·.pos == t.pos)
      else !(Pattern.run subject ignoreCase body [t]).isEmpty
    found != negated

/-- The ends of the matches of an expression that start at a place, farthest first. -/
def Pattern.endsFrom (r : Pattern) (subject : Array UInt8) (ignoreCase : Bool) (start : Nat) : List Nat :=
  let ends := (r.run subject ignoreCase [{ pos := start }]).map (·.pos)
  ends.eraseDups.mergeSort (· ≥ ·)

/-- The leftmost-longest match at or after a place, as its start and end. -/
def Pattern.search (r : Pattern) (subject : Array UInt8) (ignoreCase : Bool) (origin : Nat) :
    Option (Nat × Nat) :=
  (List.range (subject.size + 1 - origin)).findSome? fun i =>
    (r.endsFrom subject ignoreCase (origin + i)).head?.map fun e => (origin + i, e)

end Confine.Regex
