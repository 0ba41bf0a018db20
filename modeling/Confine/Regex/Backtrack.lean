import Confine.Regex.Match

/-!
# Matching in the order of a backtracking matcher

Perl's patterns do not ask for the longest match but for the first one a
backtracking matcher reaches: alternatives are tried from the left, a greedy
repetition tries one more run of its body before stopping and a lazy one stops
before trying one more, and a look-around succeeds or fails without consuming
anything. `Pattern.first` follows that order over the trails of `Match`, handing each
trail on to what comes after, and gives the first trail that gets all the way
through. A repetition whose body matched the empty string stops, so every path ends;
`fuel` bounds how deep the tries nest, and running out counts as no match.
-/

namespace Confine.Regex

mutual

/-- The first trail, in the order of trying, that matches a pattern from `t` and that
the continuation `k` accepts. -/
def Pattern.first (subject : Array UInt8) (ignoreCase : Bool) : Nat → Pattern → Trail →
    (Trail → Option Trail) → Option Trail
  | 0, _, _, _ => none
  | n + 1, p, t, k =>
    match p with
    | .empty => k t
    | .byte set =>
      match subject[t.pos]? with
      | some b => if set.admits ignoreCase b then k { t with pos := t.pos + 1 } else none
      | none => none
    | .anchor a => if a.holds subject t.pos then k t else none
    | .group index body => Pattern.first subject ignoreCase n body t fun t' => k (t'.capture index t.pos)
    | .backref index =>
      match t.groups.lookup index with
      | some (s, e) =>
        if repeatsAt subject ignoreCase s e t.pos then k { t with pos := t.pos + (e - s) } else none
      | none => none
    | .seq a b => Pattern.first subject ignoreCase n a t fun t' => Pattern.first subject ignoreCase n b t' k
    | .alt a b =>
      match Pattern.first subject ignoreCase n a t k with
      | some r => some r
      | none => Pattern.first subject ignoreCase n b t k
    | .rep body least most => greedyRuns subject ignoreCase n body least most t k
    | .lazy body least most => lazyRuns subject ignoreCase n body least most t k
    | .look behind negated body =>
      let found : Option Trail :=
        if behind then
          (List.range (t.pos + 1)).findSome? fun i =>
            Pattern.first subject ignoreCase n body { t with pos := t.pos - i } fun t' =>
              if t'.pos == t.pos then some t' else none
        else Pattern.first subject ignoreCase n body t some
      match found, negated with
      | some t', false => k { t' with pos := t.pos }
      | none, true => k t
      | _, _ => none

/-- A greedy repetition: the least number of runs, then one more run before stopping,
as long as runs consume something and the most allows. -/
def greedyRuns (subject : Array UInt8) (ignoreCase : Bool) : Nat → Pattern → Nat → Option Nat →
    Trail → (Trail → Option Trail) → Option Trail
  | 0, _, _, _, _, _ => none
  | n + 1, body, least, most, t, k =>
    match least with
    | l + 1 =>
      Pattern.first subject ignoreCase n body t fun t' =>
        greedyRuns subject ignoreCase n body l (most.map (· - 1)) t' k
    | 0 =>
      if most == some 0 then k t
      else
        let more := Pattern.first subject ignoreCase n body t fun t' =>
          if t'.pos == t.pos then none
          else greedyRuns subject ignoreCase n body 0 (most.map (· - 1)) t' k
        match more with
        | some r => some r
        | none => k t

/-- A lazy repetition: the least number of runs, then stopping before trying one more
run, as long as runs consume something and the most allows. -/
def lazyRuns (subject : Array UInt8) (ignoreCase : Bool) : Nat → Pattern → Nat → Option Nat →
    Trail → (Trail → Option Trail) → Option Trail
  | 0, _, _, _, _, _ => none
  | n + 1, body, least, most, t, k =>
    match least with
    | l + 1 =>
      Pattern.first subject ignoreCase n body t fun t' =>
        lazyRuns subject ignoreCase n body l (most.map (· - 1)) t' k
    | 0 =>
      match k t with
      | some r => some r
      | none =>
        if most == some 0 then none
        else Pattern.first subject ignoreCase n body t fun t' =>
          if t'.pos == t.pos then none
          else lazyRuns subject ignoreCase n body 0 (most.map (· - 1)) t' k

end

/-- The fuel for matching a pattern against a subject: room for every byte of the
subject to pass through every node of the pattern several times. -/
def Pattern.size : Pattern → Nat
  | .group _ body => body.size + 1
  | .seq a b => a.size + b.size + 1
  | .alt a b => a.size + b.size + 1
  | .rep body _ _ => body.size + 1
  | .lazy body _ _ => body.size + 1
  | .look _ _ body => body.size + 1
  | _ => 1

/-- The end of the first match, in the order of trying, that starts at a place. -/
def Pattern.firstEnd (r : Pattern) (subject : Array UInt8) (ignoreCase : Bool) (start : Nat) :
    Option Nat :=
  let fuel := 4 * (subject.size + 2) * (r.size + 2)
  (Pattern.first subject ignoreCase fuel r { pos := start } some).map (·.pos)

end Confine.Regex
