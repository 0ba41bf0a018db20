/-!
# Shell patterns

The patterns of `case`, of the `#` and `%` parameter operators, and of file-name
expansion. `*` fits any string, `?` any one character, and a bracket expression
one character from a set: ranges `a-z`, classes such as `[:digit:]`, negated by a
leading `!` (a leading `^` is an ordinary member), with `]` literal when it comes
first. A bracket that is never
closed is an ordinary `[`. A backslash makes the next character ordinary, and so
does quoting: the pattern is built from characters that each carry whether they were
quoted.
-/

namespace Confine.Shell

/-- One member of a bracket expression. -/
inductive SetItem where
  | single (c : Char)
  | range (lo hi : Char)
  | named (cls : String)
  deriving DecidableEq, Repr

/-- One element of a pattern. -/
inductive Glob where
  | lit (c : Char)
  | one
  | star
  | set (negated : Bool) (items : List SetItem)
  deriving DecidableEq, Repr

/-- Membership in a named character class (ASCII classes). -/
def Glob.inClass (cls : String) (c : Char) : Bool :=
  match cls with
  | "alpha" => c.isAlpha
  | "digit" => c.isDigit
  | "alnum" => c.isAlphanum
  | "upper" => c.isUpper
  | "lower" => c.isLower
  | "space" => c = ' ' || ('\t' ≤ c && c ≤ '\r')
  | "blank" => c = ' ' || c = '\t'
  | "punct" => c.toNat > 32 && c.toNat < 127 && !c.isAlphanum
  | "print" => c.toNat ≥ 32 && c.toNat < 127
  | "graph" => c.toNat > 32 && c.toNat < 127
  | "cntrl" => c.toNat < 32 || c.toNat = 127
  | "xdigit" => c.isDigit || ('a' ≤ c && c ≤ 'f') || ('A' ≤ c && c ≤ 'F')
  | _ => false

/-- Whether a bracket member holds a character. -/
def SetItem.contains (i : SetItem) (c : Char) : Bool :=
  match i with
  | .single d => c = d
  | .range lo hi => lo ≤ c && c ≤ hi
  | .named cls => Glob.inClass cls c

namespace Glob

/-- Whether one element other than `star` accepts a character. -/
def accepts (g : Glob) (c : Char) : Bool :=
  match g with
  | .lit d => c = d
  | .one => true
  | .star => true
  | .set neg items => items.any (fun i => i.contains c) != neg

/-- The class name in `[:name:]` at the head, and what follows its `:]`. -/
def className : List (Char × Bool) → Option (String × List (Char × Bool))
  | (':', false) :: rest =>
    let name := rest.takeWhile fun p => p.1.isAlpha && !p.2
    match rest.drop name.length with
    | (':', false) :: (']', false) :: after => some (String.ofList (name.map (·.1)), after)
    | _ => none
  | _ => none

/-- The items of a bracket expression up to its closing `]`: the items and the rest
after it, or `none` if it never closes. -/
def bracketItems : Nat → List (Char × Bool) → Bool → Option (List SetItem × List (Char × Bool))
  | 0, _, _ => none
  | _, [], _ => none
  | fuel + 1, (c, q) :: rest, first =>
    if c = ']' && !q && !first then some ([], rest)
    else
      let (c, q, rest) :=
        if c = '\\' && !q then
          match rest with
          | (d, _) :: r => (d, true, r)
          | [] => (c, q, rest)
        else (c, q, rest)
      if c = '[' && !q then
        match className rest with
        | some (cls, after) =>
          (bracketItems fuel after false).map fun (items, r) => (.named cls :: items, r)
        | none => (bracketItems fuel rest false).map fun (items, r) => (.single c :: items, r)
      else match rest with
        | ('-', false) :: (d, dq) :: r =>
          if d = ']' && !dq then
            (bracketItems fuel (('-', false) :: (d, dq) :: r) false).map
              fun (items, r) => (.single c :: items, r)
          else (bracketItems fuel r false).map fun (items, r) => (.range c d :: items, r)
        | _ => (bracketItems fuel rest false).map fun (items, r) => (.single c :: items, r)

/-- Compile characters, each marked quoted or not, into a pattern. -/
def compile : Nat → List (Char × Bool) → List Glob
  | 0, _ => []
  | _, [] => []
  | fuel + 1, (c, q) :: rest =>
    if q then .lit c :: compile fuel rest
    else if c = '\\' then
      match rest with
      | (d, _) :: r => .lit d :: compile fuel r
      | [] => [.lit '\\']
    else if c = '*' then .star :: compile fuel rest
    else if c = '?' then .one :: compile fuel rest
    else if c = '[' then
      let (neg, body) := match rest with
        | ('!', false) :: r => (true, r)
        | r => (false, r)
      match bracketItems (body.length + 1) body true with
      | some (items, after) => .set neg items :: compile fuel after
      | none => .lit '[' :: compile fuel rest
    else .lit c :: compile fuel rest

/-- The pattern of characters each marked quoted or not. -/
def ofMarked (cs : List (Char × Bool)) : List Glob := compile (cs.length + 1) cs

/-- The pattern of an unquoted text. -/
def ofText (s : String) : List Glob := ofMarked (s.toList.map fun c => (c, false))

/-- Whether a pattern has any element other than a literal. -/
def isMagic (p : List Glob) : Bool := p.any fun | .lit _ => false | _ => true

/-- Whether the pattern fits the whole text. -/
def fits : List Glob → List Char → Bool
  | [], cs => cs.isEmpty
  | .star :: ps, cs => (List.range (cs.length + 1)).any fun i => fits ps (cs.drop i)
  | g :: ps, c :: cs => g.accepts c && fits ps cs
  | _ :: _, [] => false
termination_by ps => ps.length

/-- Length of the shortest (or, with `longest`, the longest) prefix the pattern fits. -/
def prefixMatch (p : List Glob) (cs : List Char) (longest : Bool) : Option Nat :=
  let lens := List.range (cs.length + 1)
  (if longest then lens.reverse else lens).find? fun n => fits p (cs.take n)

/-- Length of the shortest (or longest) suffix the pattern fits. -/
def suffixMatch (p : List Glob) (cs : List Char) (longest : Bool) : Option Nat :=
  let lens := List.range (cs.length + 1)
  (if longest then lens.reverse else lens).find? fun n => fits p (cs.drop (cs.length - n))

@[simp] theorem matches_nil (cs : List Char) : fits [] cs = cs.isEmpty := by
  simp [fits]

theorem matches_lit (c : Char) (ps : List Glob) (d : Char) (cs : List Char) :
    fits (.lit c :: ps) (d :: cs) = (decide (d = c) && fits ps cs) := by
  simp [fits, accepts]

end Glob

end Confine.Shell
