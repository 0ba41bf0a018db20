/-!
# Parsing expression grammars

A parsing expression grammar reads text by trying its expressions in order: a choice
takes its first alternative that matches, a repetition takes as many as match, and a
look-ahead tests without reading. Rules name expressions. Between the items of a
sequence and of a repetition the grammar skips its blank space, unless the rule being
read is atomic: an atomic rule reads its text as written and hides the rules it calls,
a compound one reads as written but keeps them. A silent rule leaves no node in the
tree.

When the text does not read, the refusal names the place furthest into the text where
a rule was tried and failed, and every rule that failed there: the positives, or the
negatives where a negative look-ahead found what it must not. A rule that failed
only because one rule inside it failed at its own start is not named, the rule inside
is. Rules inside atomic ones are never named.
-/

namespace Confine.Text.Peg

/-- How a rule reads. -/
inductive Kind where
  /-- Leaves a node and skips blank space between its items. -/
  | normal
  /-- Leaves no node. -/
  | silent
  /-- Reads its text as written and hides the rules it calls. -/
  | atomic
  /-- Reads its text as written but keeps the rules it calls. -/
  | compound
  deriving BEq, Repr

/-- An expression of a grammar over rules `R`. -/
inductive Expr (R : Type) where
  | text (s : List Char)
  | textNoCase (s : List Char)
  | test (p : Char → Bool)
  | anyChar
  | start
  | finish
  | seq (a b : Expr R)
  | alt (a b : Expr R)
  | opt (e : Expr R)
  | star (e : Expr R)
  | plus (e : Expr R)
  | times (n : Nat) (e : Expr R)
  | ahead (e : Expr R)
  | notAhead (e : Expr R)
  | rule (r : R)

/-- The items of a sequence, in order. -/
def Expr.seqs {R : Type} : List (Expr R) → Expr R
  | [] => .text []
  | [e] => e
  | e :: rest => .seq e (Expr.seqs rest)

/-- Alternatives, tried in order. -/
def Expr.alts {R : Type} : List (Expr R) → Expr R
  | [] => .test fun _ => false
  | [e] => e
  | e :: rest => .alt e (Expr.alts rest)

/-- A literal text. -/
def Expr.lit {R : Type} (s : String) : Expr R := .text s.toList

/-- A grammar: each rule's kind and body, its rank in the order of rules, which orders
the rules a refusal names, its name there, and the blank space skipped between items. -/
structure Grammar (R : Type) where
  kind : R → Kind
  body : R → Expr R
  rank : R → Nat
  name : R → String
  blank : Expr R

/-- A node of the tree a reading leaves: a rule and the span of text it read, and the
nodes of the rules inside it. -/
inductive Node (R : Type) where
  | node (r : R) (start stop : Nat) (children : List (Node R))

/-- Whether the rules being read are atomic, compound or neither. -/
inductive Atomicity where
  | atomic
  | compound
  | free
  deriving BEq

/-- Whether reading is inside a look-ahead, and of which sign. -/
inductive Lookahead where
  | none
  | positive
  | negative
  deriving BEq

/-- Where reading stands besides its place: atomicity and look-ahead. -/
structure Mode where
  atomicity : Atomicity := .free
  lookahead : Lookahead := .none

/-- The furthest place where rules failed, and which: the positives and the negatives,
in the order they failed. -/
structure Attempts (R : Type) where
  pos : Nat := 0
  positives : List R := []
  negatives : List R := []

namespace Attempts

variable {R : Type}

/-- How many rules failed at a place, if it is the furthest. -/
def countAt (a : Attempts R) (p : Nat) : Nat :=
  if a.pos == p then a.positives.length + a.negatives.length else 0

/-- Records that a rule failed at a place (or, in a negative look-ahead, matched):
`marks` are the lengths of the two lists and `before` the count when the rule
started. -/
def record (a : Attempts R) (m : Mode) (r : R) (p : Nat) (marks : Nat × Nat) (before : Nat) : Attempts R :=
  if m.atomicity == .atomic then a else
  let now := a.countAt p
  -- one failure inside names the rule that failed better than this one
  if now > before && now - before == 1 then a else
  let a := if p == a.pos then { a with positives := a.positives.take marks.1, negatives := a.negatives.take marks.2 } else a
  let a := if p > a.pos then { pos := p } else a
  if p != a.pos then a
  else if m.lookahead == .negative then { a with negatives := a.negatives ++ [r] }
  else { a with positives := a.positives ++ [r] }

end Attempts

/-- The outcome of reading an expression: the attempts, and on success where reading
ended with the nodes it left. -/
abbrev Outcome (R : Type) := Attempts R × Option (Nat × List (Node R))

section Reading

variable {R : Type} (g : Grammar R) (input : Array Char)

/-- Whether the text continues with some characters at a place. -/
def matchesAt (cs : List Char) (p : Nat) (same : Char → Char → Bool) : Bool :=
  cs.length ≤ input.size - p && (cs.zipIdx.all fun (c, i) => same (input.getD (p + i) ' ') c)

/-- The place after the blank space from a place. -/
def skipBlank (read : Expr R → Mode → Nat → Attempts R → Outcome R) (m : Mode) (p : Nat)
    (a : Attempts R) : Attempts R × Nat :=
  if m.atomicity != .free then (a, p)
  else
    match read g.blank { m with atomicity := .atomic } p a with
    | (a, some (q, _)) => (a, q)
    | (a, none) => (a, p)

/-- Reads an expression repeatedly from a place, with blank space between, as long as
it matches and moves on; `bound` limits the repetitions. -/
def repeatFrom (read : Expr R → Mode → Nat → Attempts R → Outcome R) (e : Expr R) (m : Mode) :
    Nat → Nat → List (Node R) → Attempts R → Outcome R
  | 0, p, acc, a => (a, some (p, acc))
  | bound + 1, p, acc, a =>
    let (a, q) := skipBlank g read m p a
    match read e m q a with
    | (a, some (r, ns)) => if r == p then (a, some (p, acc)) else repeatFrom read e m bound r (acc ++ ns) a
    | (a, none) => (a, some (p, acc))

/-- Reads an expression at a place in a mode; `fuel` bounds how deeply reading nests. -/
def read : Nat → Expr R → Mode → Nat → Attempts R → Outcome R
  | 0, _, _, _, a => (a, none)
  | fuel + 1, e, m, p, a =>
    let again := read fuel
    match e with
    | .text cs => (a, if matchesAt input cs p (· == ·) then some (p + cs.length, []) else none)
    | .textNoCase cs =>
      (a, if matchesAt input cs p (fun x y => x.toLower == y.toLower) then some (p + cs.length, []) else none)
    | .test t => (a, if p < input.size && t (input.getD p ' ') then some (p + 1, []) else none)
    | .anyChar => (a, if p < input.size then some (p + 1, []) else none)
    | .start => (a, if p == 0 then some (p, []) else none)
    | .finish => (a, if p == input.size then some (p, []) else none)
    | .seq x y =>
      match again x m p a with
      | (a, some (q, ns)) =>
        let (a, q) := skipBlank g again m q a
        match again y m q a with
        | (a, some (r, ns')) => (a, some (r, ns ++ ns'))
        | (a, none) => (a, none)
      | (a, none) => (a, none)
    | .alt x y =>
      match again x m p a with
      | (a, some r) => (a, some r)
      | (a, none) => again y m p a
    | .opt x =>
      match again x m p a with
      | (a, some r) => (a, some r)
      | (a, none) => (a, some (p, []))
    | .star x =>
      match again x m p a with
      | (a, some (q, ns)) => repeatFrom g again x m (input.size + 1) q ns a
      | (a, none) => (a, some (p, []))
    | .plus x =>
      match again x m p a with
      | (a, some (q, ns)) => repeatFrom g again x m (input.size + 1) q ns a
      | (a, none) => (a, none)
    | .times 0 _ => (a, some (p, []))
    | .times (n + 1) x =>
      (List.range n).foldl (fun (acc : Outcome R) _ =>
        match acc with
        | (a, some (q, ns)) =>
          let (a, q) := skipBlank g again m q a
          match again x m q a with
          | (a, some (r, ns')) => (a, some (r, ns ++ ns'))
          | (a, none) => (a, none)
        | failed => failed) (again x m p a)
    | .ahead x =>
      let m' := { m with lookahead := if m.lookahead == .negative then .negative else .positive }
      match again x m' p a with
      | (a, some _) => (a, some (p, []))
      | (a, none) => (a, none)
    | .notAhead x =>
      let m' := { m with lookahead := if m.lookahead == .negative then .positive else .negative }
      match again x m' p a with
      | (a, some _) => (a, none)
      | (a, none) => (a, some (p, []))
    | .rule r =>
      match g.kind r with
      | .silent => again (g.body r) m p a
      | kind =>
        let marks := if p == a.pos then (a.positives.length, a.negatives.length) else (0, 0)
        let before := a.countAt p
        let inner : Mode := match kind with
          | .atomic => { m with atomicity := .atomic }
          | .compound => { m with atomicity := .compound }
          | _ => m
        match again (g.body r) inner p a with
        | (a, some (q, ns)) =>
          let a := if m.lookahead == .negative then a.record m r p marks before else a
          let ns := if m.lookahead == .none && m.atomicity != .atomic then [.node r p q ns] else ns
          (a, some (q, ns))
        | (a, none) =>
          ((if m.lookahead != .negative then a.record m r p marks before else a), none)

end Reading

/-- Why a text does not read: the place, and the rules that failed there, each list in
the order of the rules and without repeats. -/
structure Refusal (R : Type) where
  pos : Nat
  positives : List R
  negatives : List R

/-- Rules in the order of a grammar, without repeats. -/
def ordered {R : Type} (g : Grammar R) (rs : List R) : List R :=
  let sorted := rs.mergeSort fun x y => g.rank x ≤ g.rank y
  sorted.foldr (fun r acc => match acc with
    | s :: _ => if g.rank s == g.rank r then acc else r :: acc
    | [] => [r]) []

/-- Reads a whole text with a rule: the nodes it leaves, or the refusal. -/
def parse {R : Type} (g : Grammar R) (top : R) (text : List Char) : Except (Refusal R) (List (Node R)) :=
  let input := text.toArray
  let fuel := 64 * (input.size + 4)
  match read g input fuel (.rule top) {} 0 {} with
  | (_, some (_, ns)) => .ok ns
  | (a, none) => .error ⟨a.pos, ordered g a.positives, ordered g a.negatives⟩

/-- Names rules as a list: `a`, `a or b`, `a, b, or c`. -/
def enumerate (names : List String) : String :=
  match names with
  | [x] => x
  | [x, y] => x ++ " or " ++ y
  | _ => ", ".intercalate names.dropLast ++ ", or " ++ names.getLastD ""

/-- What a refusal says was wrong. -/
def Refusal.message {R : Type} (g : Grammar R) (f : Refusal R) : String :=
  let pos := enumerate (f.positives.map g.name)
  let neg := enumerate (f.negatives.map g.name)
  match f.negatives.isEmpty, f.positives.isEmpty with
  | false, false => "unexpected " ++ neg ++ "; expected " ++ pos
  | false, true => "unexpected " ++ neg
  | true, false => "expected " ++ pos
  | true, true => "unknown parsing error"

/-- The line and column, both from one, of a place in a text. -/
def lineColumn (text : List Char) (pos : Nat) : Nat × Nat :=
  (text.take pos).foldl (fun (l, c) ch => if ch == '\n' then (l + 1, 1) else (l, c + 1)) (1, 1)

/-- The line a place is on, with its line break, as the refusal shows it: the breaks
written as visible signs when the place is at one, dropped otherwise. -/
def shownLine (text : List Char) (pos : Nat) : String :=
  let startAt := pos - ((text.take pos).reverse.takeWhile (· != '\n')).length
  let fromStart := text.drop startAt
  let line := if pos + 1 == text.length then fromStart
    else match fromStart.findIdx? (· == '\n') with
      | some i => fromStart.take (i + 1)
      | none => fromStart
  let atBreak := text[pos]? == some '\n' || text[pos]? == some '\r'
  if atBreak then
    String.join (line.map fun c => if c == '\r' then "␍" else if c == '\n' then "␊" else String.singleton c)
  else String.ofList (line.filter fun c => c != '\r' && c != '\n')

/-- The text of a refusal: the place, the line with a mark under the place, and the
message. -/
def Refusal.render {R : Type} (g : Grammar R) (f : Refusal R) (text : List Char) : String :=
  let (line, col) := lineColumn text f.pos
  let number := toString line
  let pad := String.ofList (List.replicate number.length ' ')
  let shown := shownLine text f.pos
  let under := String.ofList ((shown.toList.take (col - 1)).map fun c => if c == '\t' then '\t' else ' ')
  pad ++ "--> " ++ number ++ ":" ++ toString col ++ "\n" ++
    pad ++ " |\n" ++
    number ++ " | " ++ shown ++ "\n" ++
    pad ++ " | " ++ under ++ "^---\n" ++
    pad ++ " |\n" ++
    pad ++ " = " ++ f.message g

end Confine.Text.Peg
