import Confine.Host.Program.Basic
import Confine.Host.Program.About
import Confine.Shell.Condition
/-!
# `test` and `[` as programs

The programs read their words by count where the standard says how: one word is true
when it is not empty; two are `! word` or a unary operator and its operand; three are
a binary comparison, `! ` before two, `( word )`, or an `-a` or `-o` of two words;
four are `!` before three or parentheses around two. Other counts, and the words
inside parentheses, are read by the grammar

    or   := and ("-o" and)*        and := term ("-a" term)*
    term := "!"* ( "(" words ")" | "-l" word binop word | word binop word
                 | unary-op word | word )

where `-l word` stands for the length of the word in an integer comparison. Integers
are decimal, of any size, with blanks around them. A malformed expression is reported
and makes the status 2; `[` needs `]` as its last word, and answers `--help` and
`--version` when that is its one word.
-/

namespace Confine.Host.Program.Predicate

open Confine.Shell

/-- The words of an expression, the program's name first so that they count from one,
and what the evaluator can learn of files. -/
structure Words where
  args : Array String
  probe : Condition.Probe

namespace Words

/-- The word at a place; the empty text past the end. -/
def word (w : Words) (i : Nat) : String := w.args.getD i ""

/-- One more than the number of words. -/
def count (w : Words) : Nat := w.args.size

end Words

/-- What a step of the evaluation gives: its value and the place after the words it
read, or the message of a malformed expression. -/
abbrev Step := Except String (Bool × Nat)

/-- The binary operators. -/
def binaryOperators : List String :=
  ["=", "!=", "==", "-nt", "-ot", "-ef", "-eq", "-ne", "-lt", "-le", "-gt", "-ge"]

/-- Whether a word is a binary operator. -/
def isBinary (s : String) : Bool := binaryOperators.contains s

/-- Whether a word is a minus and one of the letters of the unary operators. -/
def isUnary (s : String) : Bool :=
  match s.toList with
  | ['-', c] => "abcdefghknoprstuwxzGLOSN".toList.contains c
  | _ => false

/-- Whether a word is a minus and one other byte. -/
def looksLikeOption (s : String) : Bool :=
  match s.toList with
  | ['-', _] => true
  | _ => false

/-- An integer as the comparisons read it: blanks, a sign, digits and blanks. -/
def findInt (s : String) : Except String Int :=
  let blank (c : Char) : Bool := c = ' ' || c = '\t'
  let cs := s.toList.dropWhile blank
  let (negative, body) := match cs with
    | '+' :: r => (false, r)
    | '-' :: r => (true, r)
    | r => (false, r)
  let ds := body.takeWhile Char.isDigit
  let rest := (body.drop ds.length).dropWhile blank
  if ds.isEmpty || !rest.isEmpty then .error ("invalid integer " ++ quoteAlways s)
  else .ok (if negative then -(digitsValue ds : Int) else digitsValue ds)

/-- The message for a missing operand: it names the last word. -/
def beyond (w : Words) : Step :=
  .error ("missing argument after " ++ quoteAlways (w.word (w.count - 1)))

/-- Move past a word; when `mustRemain`, a word has to follow. -/
def advance (w : Words) (mustRemain : Bool) (pos : Nat) : Except String Nat :=
  if mustRemain && pos + 1 ≥ w.count then
    .error ("missing argument after " ++ quoteAlways (w.word (w.count - 1)))
  else .ok (pos + 1)

/-- A unary operator at `pos` and its operand. -/
def unaryOperator (w : Words) (pos : Nat) : Step := do
  let op := w.word pos
  let _ ← advance w true pos
  let arg := w.word (pos + 1)
  let next := pos + 2
  let p := w.probe
  let kind := p.kind arg
  let value ← match op.toList with
    | ['-', 'a'] | ['-', 'e'] => pure kind.isSome
    | ['-', 'r'] | ['-', 'w'] | ['-', 'O'] | ['-', 'G'] => pure kind.isSome
    | ['-', 'x'] => pure (kind == some .directory)
    | ['-', 'f'] =>
      pure (match kind with
        | some (.regular _) => true
        | _ => false)
    | ['-', 'd'] => pure (kind == some .directory)
    | ['-', 'c'] => pure (kind == some .charDevice)
    | ['-', 's'] =>
      pure (match kind with
        | some (.regular n) => n > 0
        | some .directory => true
        | _ => false)
    | ['-', 'h'] | ['-', 'L'] => pure (p.isLink arg)
    | ['-', 't'] =>
      let fd ← findInt arg
      pure (0 ≤ fd && fd ≤ 2147483647 && p.isTerminal fd.toNat)
    | ['-', 'n'] => pure (!arg.isEmpty)
    | ['-', 'z'] => pure arg.isEmpty
    | ['-', 'o'] => throw (quoteAlways op ++ ": unary operator expected")
    | _ => pure false
  pure (value, next)

/-- A binary operator after the word at `pos`, with `-l` before the left operand when
`leftLength`, and perhaps before the right one. -/
def binaryOperator (w : Words) (leftLength : Bool) (pos : Nat) : Step := do
  let pos := if leftLength then pos + 1 else pos
  let op := pos + 1
  let rightLength := op + 2 < w.count && w.word (op + 1) == "-l"
  let pos := if rightLength then pos + 1 else pos
  let o := w.word op
  let after := pos + 3
  if ["-lt", "-le", "-gt", "-ge", "-eq", "-ne"].contains o then
    let l ← if leftLength then pure ((w.word (op - 1)).length : Int) else findInt (w.word (op - 1))
    let r ← if rightLength then pure ((w.word (op + 2)).length : Int) else findInt (w.word (op + 1))
    let value := match o with
      | "-lt" => l < r
      | "-le" => l ≤ r
      | "-gt" => l > r
      | "-ge" => l ≥ r
      | "-eq" => l == r
      | _ => l != r
    pure (value, after)
  else if o == "-nt" || o == "-ot" || o == "-ef" then
    if leftLength || rightLength then throw (o ++ " does not accept -l")
    let a := w.word (op - 1)
    let b := w.word (op + 1)
    let p := w.probe
    let value := match o with
      | "-nt" => (p.kind a).isSome && (p.kind b).isNone
      | "-ot" => (p.kind b).isSome && (p.kind a).isNone
      | _ => match p.place a, p.place b with
        | some x, some y => x == y
        | _, _ => false
    pure (value, after)
  else if o == "=" || o == "==" then pure (w.word pos == w.word (pos + 2), after)
  else if o == "!=" then pure (w.word pos != w.word (pos + 2), after)
  else throw (quoteAlways o ++ ": unknown binary operator")

/-- One word: true when it is not empty. -/
def oneArgument (w : Words) (pos : Nat) : Step := pure (!(w.word pos).isEmpty, pos + 1)

/-- Two words: `!` and a word, or a unary operator and its operand. -/
def twoArguments (w : Words) (pos : Nat) : Step :=
  if w.word pos == "!" then (oneArgument w (pos + 1)).map fun (v, p) => (!v, p)
  else if looksLikeOption (w.word pos) then
    if isUnary (w.word pos) then unaryOperator w pos
    else .error (quoteAlways (w.word pos) ++ ": unary operator expected")
  else beyond w

mutual

/-- The words from `pos` on, `count` of them, read by count. -/
def byCount (w : Words) : Nat → Nat → Nat → Step
  | 0, _, _ => .error "expression too deep"
  | fuel + 1, count, pos =>
    match count with
    | 1 => oneArgument w pos
    | 2 => twoArguments w pos
    | 3 => threeArguments w fuel pos
    | 4 =>
      if w.word pos == "!" then do
        let pos ← advance w true pos
        let (v, p) ← threeArguments w fuel pos
        pure (!v, p)
      else if w.word pos == "(" && w.word (pos + 3) == ")" then do
        let (v, p) ← twoArguments w (pos + 1)
        pure (v, p + 1)
      else expr w fuel pos
    | _ => expr w fuel pos

/-- Three words from `pos`. -/
def threeArguments (w : Words) : Nat → Nat → Step
  | 0, _ => .error "expression too deep"
  | fuel + 1, pos =>
    if isBinary (w.word (pos + 1)) then binaryOperator w false pos
    else if w.word pos == "!" then do
      let pos ← advance w true pos
      let (v, p) ← twoArguments w pos
      pure (!v, p)
    else if w.word pos == "(" && w.word (pos + 2) == ")" then do
      let (v, p) ← oneArgument w (pos + 1)
      pure (v, p + 1)
    else if w.word (pos + 1) == "-a" || w.word (pos + 1) == "-o" then expr w fuel pos
    else .error (quoteAlways (w.word (pos + 1)) ++ ": binary operator expected")

/-- An expression by the grammar from `pos`. -/
def expr (w : Words) : Nat → Nat → Step
  | 0, _ => .error "expression too deep"
  | fuel + 1, pos => if pos ≥ w.count then beyond w else orLoop w fuel false pos

/-- Alternatives joined by `-o`, each evaluated. -/
def orLoop (w : Words) : Nat → Bool → Nat → Step
  | 0, _, _ => .error "expression too deep"
  | fuel + 1, acc, pos => do
    let (v, pos) ← andLoop w fuel true pos
    let acc := acc || v
    if pos < w.count && w.word pos == "-o" then orLoop w fuel acc (pos + 1) else pure (acc, pos)

/-- Terms joined by `-a`, each evaluated. -/
def andLoop (w : Words) : Nat → Bool → Nat → Step
  | 0, _, _ => .error "expression too deep"
  | fuel + 1, acc, pos => do
    let (v, pos) ← term w fuel pos
    let acc := acc && v
    if pos < w.count && w.word pos == "-a" then andLoop w fuel acc (pos + 1) else pure (acc, pos)

/-- A term from `pos`, after the `!` words before it. -/
def term (w : Words) : Nat → Nat → Step
  | 0, _ => .error "expression too deep"
  | fuel + 1, pos => do
    let (negated, pos) ← nots w fuel false pos
    if pos ≥ w.count then return ← beyond w
    let (v, pos) ← primary w fuel pos
    pure (negated != v, pos)

/-- The `!` words in front of a term: whether they negate it, and the place after. -/
def nots (w : Words) : Nat → Bool → Nat → Except String (Bool × Nat)
  | 0, _, _ => .error "expression too deep"
  | fuel + 1, negated, pos =>
    if pos < w.count && w.word pos == "!" then do
      let pos ← advance w true pos
      nots w fuel (!negated) pos
    else pure (negated, pos)

/-- A term without its `!` words. -/
def primary (w : Words) : Nat → Nat → Step
  | 0, _ => .error "expression too deep"
  | fuel + 1, pos =>
    if w.word pos == "(" then do
      let pos ← advance w true pos
      let inside := (List.range 4).find? fun i =>
        !(pos + i + 1 < w.count && w.word (pos + i + 1) != ")")
      let count := match inside with
        | some i => i + 1
        | none => w.count - pos
      let (v, pos) ← byCount w fuel count pos
      if pos ≥ w.count then throw (quoteAlways ")" ++ " expected")
      if w.word pos != ")" then
        throw (quoteAlways ")" ++ " expected, found " ++ quoteAlways (w.word pos))
      pure (v, pos + 1)
    else if 4 ≤ w.count - pos && w.word pos == "-l" && isBinary (w.word (pos + 2)) then
      binaryOperator w true pos
    else if 3 ≤ w.count - pos && isBinary (w.word (pos + 1)) then binaryOperator w false pos
    else if looksLikeOption (w.word pos) then
      if isUnary (w.word pos) then unaryOperator w pos
      else .error (quoteAlways (w.word pos) ++ ": unary operator expected")
    else pure (!(w.word pos).isEmpty, pos + 1)

end

/-- The value of an expression, or the message that rejects it. -/
def evaluate (probe : Condition.Probe) (words : List String) : Except String Bool := do
  let w : Words := { args := #[""] ++ words.toArray, probe }
  if words.isEmpty then return false
  let (v, pos) ← byCount w (8 * w.count + 8) words.length 1
  if pos != w.count then throw ("extra argument " ++ quoteAlways (w.word pos))
  pure v

end Confine.Host.Program.Predicate

namespace Confine.Host.Program

open Confine.Shell

/-- `test` or, with `bracket`, `[` as a program: status 0 for true, 1 for false, 2 for a
malformed expression. -/
def testProgram (bracket : Bool) (probe : Condition.Probe) (args : List String) : M Nat := do
  let name := if bracket then "[" else "test"
  if bracket then
    if args == ["--help"] then showUsage name; return 0
    if args == ["--version"] then showVersion name; return 0
    if args.getLast? != some "]" then
      complain name ("missing " ++ quoteAlways "]")
      return 2
  let words := if bracket then args.dropLast else args
  match Predicate.evaluate probe words with
  | .ok v => return if v then 0 else 1
  | .error msg => complain name msg; return 2

end Confine.Host.Program
