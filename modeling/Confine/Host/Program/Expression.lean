import Confine.Host.Program.Basic
import Confine.Regex.Parse
import Confine.Regex.Match

/-!
# Evaluating expressions

`expr` evaluates the expression its arguments spell, one token per argument, and
prints the value. From the loosest to the tightest, the operators are `|`, `&`, the
comparisons `<`, `<=`, `=`, `==`, `!=`, `>=`, `>`, then `+` and `-`, then `*`, `/` and
`%`, then `:`; each groups to the left. Then come the words `length`, `match`,
`substr` and `index`, `+` quoting the next token, and parentheses.

Values are whole numbers of any size or strings; a string of digits, with a leading
`-`, is a number where one is needed. Comparison is numeric when both sides are
numbers and by bytes otherwise. `STRING : REGEX` matches a basic regular expression
at the start of the string and gives the text of the first group, or the length of
the match when there is no group. `|` and `&` evaluate their right side only when it
decides the value.

The value is *null* when it is the empty string or a zero. The status is 1 for a null
value and 0 for any other, and 2 for an invalid expression or pattern.
-/

namespace Confine.Host.Program

open Confine.Shell

/-- A value of an expression. -/
inductive ExprValue where
  | num (i : Int)
  | str (s : String)
  deriving BEq, Inhabited

/-- Why an expression has no value. -/
inductive ExprError where
  | invalid (msg : String)
  | nonInteger
  | divisionByZero
  | badPattern (msg : String)

/-- The message of an error. -/
def ExprError.message : ExprError → String
  | .invalid m => "syntax error: " ++ m
  | .nonInteger => "non-integer argument"
  | .divisionByZero => "division by zero"
  | .badPattern m => m

namespace ExprValue

/-- Whether a text is a number: an optional `-`, then one digit or more. -/
def looksNumeric (s : String) : Bool :=
  let cs := match s.toList with
    | '-' :: r => r
    | r => r
  !cs.isEmpty && cs.all Char.isDigit

/-- The text of a value. -/
def text : ExprValue → String
  | .num i => toString i
  | .str s => s

/-- The number a value stands for, if it is one. -/
def number? : ExprValue → Option Int
  | .num i => some i
  | .str s =>
    if looksNumeric s then
      match s.toList with
      | '-' :: r => some (-(String.ofList r).toNat!)
      | _ => some s.toNat!
    else none

/-- Whether a value is null: the empty string, or zeros with an optional `-`. -/
def isNull : ExprValue → Bool
  | .num i => i = 0
  | .str s =>
    let cs := match s.toList with
      | '-' :: r => r
      | r => r
    s.isEmpty || (!cs.isEmpty && cs.all (· = '0'))

end ExprValue

/-- Byte order of texts. -/
def textCompare (a b : String) : Ordering :=
  compare (Text.Octets.toBytes a) (Text.Octets.toBytes b)

/-- `STRING : REGEX`: the text of the first group, or the length of the match; an
empty string or zero when there is no match. -/
def matchAtStart (s pattern : String) : Except ExprError ExprValue := do
  let compiled ← (Regex.compile .basic (Text.Octets.toBytes pattern)).mapError
    (fun p => ExprError.badPattern p.message)
  let subject := (Text.Octets.toBytes s).toArray
  let trails := compiled.regex.run subject false [{ pos := 0 }]
  let groups := compiled.regex.groupCount
  let best := trails.foldl (fun (acc : Option Regex.Trail) t =>
    match acc with
    | none => some t
    | some b =>
      let span (x : Regex.Trail) : Nat := match x.groups.lookup 1 with
        | some (gs, ge) => ge - gs
        | none => 0
      if t.pos > b.pos || (t.pos = b.pos && span t > span b) then some t else some b) none
  match best with
  | none => return if groups > 0 then .str "" else .num 0
  | some t =>
    if groups > 0 then
      match t.groups.lookup 1 with
      | some (gs, ge) => return .str (Text.Octets.ofBytes ((subject.toList.drop gs).take (ge - gs)))
      | none => return .str ""
    else return .num t.pos

/-- The reader of an expression: the tokens left and the one read last. -/
structure ExprTokens where
  rest : List String
  last : String := ""

/-- Evaluating an expression. -/
abbrev ExprM := StateT ExprTokens (Except ExprError)

namespace ExprM

/-- Reads a token if it is the one given. -/
def accept (tok : String) : ExprM Bool := do
  let st ← get
  match st.rest with
  | t :: more => if t = tok then set { rest := more, last := t : ExprTokens }; return true else return false
  | [] => return false

/-- Reads any token; one must be left. -/
def take : ExprM String := do
  let st ← get
  match st.rest with
  | t :: more => set { rest := more, last := t : ExprTokens }; return t
  | [] => throw (.invalid ("missing argument after " ++ quoteAlways st.last))

/-- The numbers of two values, or an error. -/
def numbers (l r : ExprValue) : ExprM (Int × Int) :=
  match l.number?, r.number? with
  | some a, some b => pure (a, b)
  | _, _ => throw .nonInteger

/-- A result computed outside the reader. -/
def liftM {α : Type} (e : Except ExprError α) : ExprM α :=
  match e with
  | .ok a => pure a
  | .error err => throw err

mutual

/-- Alternatives: `|`. -/
def anyOf : Nat → Bool → ExprM ExprValue
  | 0, _ => throw (.invalid "too deep")
  | fuel + 1, run => do
    let mut l ← allOf fuel run
    for _ in [0:(← get).rest.length + 1] do
      if !(← accept "|") then break
      let r ← allOf fuel (run && l.isNull)
      if l.isNull then l := if r.isNull then .num 0 else r
    return l

/-- Conjunctions: `&`. -/
def allOf : Nat → Bool → ExprM ExprValue
  | 0, _ => throw (.invalid "too deep")
  | fuel + 1, run => do
    let mut l ← comparison fuel run
    for _ in [0:(← get).rest.length + 1] do
      if !(← accept "&") then break
      let r ← comparison fuel (run && !l.isNull)
      if l.isNull || r.isNull then l := .num 0
    return l

/-- Comparisons. -/
def comparison : Nat → Bool → ExprM ExprValue
  | 0, _ => throw (.invalid "too deep")
  | fuel + 1, run => do
    let mut l ← sum fuel run
    for _ in [0:(← get).rest.length + 1] do
      let op ← if ← accept "<" then pure "<"
        else if ← accept "<=" then pure "<="
        else if (← accept "=") || (← accept "==") then pure "="
        else if ← accept "!=" then pure "!="
        else if ← accept ">=" then pure ">="
        else if ← accept ">" then pure ">"
        else pure ""
      if op.isEmpty then break
      let r ← sum fuel run
      if run then
        let order := match l.number?, r.number? with
          | some a, some b =>
            if ExprValue.looksNumeric l.text && ExprValue.looksNumeric r.text then compare a b
            else textCompare l.text r.text
          | _, _ => textCompare l.text r.text
        let holds : Bool := match op with
          | "<" => order == .lt
          | "<=" => order != .gt
          | "=" => order == .eq
          | "!=" => order != .eq
          | ">=" => order != .lt
          | _ => order == .gt
        l := .num (if holds then 1 else 0)
      else l := .num 0
    return l

/-- Sums and differences. -/
def sum : Nat → Bool → ExprM ExprValue
  | 0, _ => throw (.invalid "too deep")
  | fuel + 1, run => do
    let mut l ← product fuel run
    for _ in [0:(← get).rest.length + 1] do
      let op ← if ← accept "+" then pure "+" else if ← accept "-" then pure "-" else pure ""
      if op.isEmpty then break
      let r ← product fuel run
      if run then
        let (a, b) ← numbers l r
        l := .num (if op = "+" then a + b else a - b)
    return l

/-- Products, quotients and remainders, which go toward zero. -/
def product : Nat → Bool → ExprM ExprValue
  | 0, _ => throw (.invalid "too deep")
  | fuel + 1, run => do
    let mut l ← matching fuel run
    for _ in [0:(← get).rest.length + 1] do
      let op ← if ← accept "*" then pure "*" else if ← accept "/" then pure "/"
        else if ← accept "%" then pure "%" else pure ""
      if op.isEmpty then break
      let r ← matching fuel run
      if run then
        let (a, b) ← numbers l r
        if op != "*" && b = 0 then throw .divisionByZero
        l := .num (if op = "*" then a * b else if op = "/" then a.tdiv b else a.tmod b)
    return l

/-- Matches: `:`. -/
def matching : Nat → Bool → ExprM ExprValue
  | 0, _ => throw (.invalid "too deep")
  | fuel + 1, run => do
    let mut l ← word fuel run
    for _ in [0:(← get).rest.length + 1] do
      if !(← accept ":") then break
      let r ← word fuel run
      if run then l ← liftM (matchAtStart l.text r.text)
    return l

/-- The words `length`, `match`, `substr`, `index`, and `+` quoting a token. -/
def word : Nat → Bool → ExprM ExprValue
  | 0, _ => throw (.invalid "too deep")
  | fuel + 1, run => do
    if ← accept "+" then return .str (← take)
    if ← accept "length" then
      let r ← word fuel run
      return .num (Text.Octets.toBytes r.text).length
    if ← accept "match" then
      let l ← word fuel run
      let r ← word fuel run
      if run then return ← liftM (matchAtStart l.text r.text) else return l
    if ← accept "index" then
      let l ← word fuel run
      let r ← word fuel run
      let chars := r.text.toList
      return .num (match l.text.toList.findIdx? chars.contains with
        | some i => (i + 1 : Nat)
        | none => 0)
    if ← accept "substr" then
      let l ← word fuel run
      let i1 ← word fuel run
      let i2 ← word fuel run
      let s := l.text.toList
      match i1.number?, i2.number? with
      | some p, some n =>
        if p ≤ 0 || n ≤ 0 || s.length < p.toNat then return .str ""
        else return .str (String.ofList ((s.drop (p.toNat - 1)).take n.toNat))
      | _, _ => return .str ""
    primary fuel run

/-- A parenthesized expression or a token. -/
def primary : Nat → Bool → ExprM ExprValue
  | 0, _ => throw (.invalid "too deep")
  | fuel + 1, run => do
    if (← get).rest.isEmpty then
      throw (.invalid ("missing argument after " ++ quoteAlways (← get).last))
    if ← accept "(" then
      let v ← anyOf fuel run
      match (← get).rest with
      | [] => throw (.invalid ("expecting ')' after " ++ quoteAlways (← get).last))
      | t :: _ =>
        if ← accept ")" then return v
        else throw (.invalid ("expecting ')' instead of " ++ quoteAlways t))
    if ← accept ")" then throw (.invalid "unexpected ')'")
    return .str (← take)

end

end ExprM

/-- The value of the expression a list of tokens spells. -/
def evalExpr (tokens : List String) : Except ExprError ExprValue :=
  match (ExprM.anyOf (10 * tokens.length + 10) true).run { rest := tokens } with
  | .error e => .error e
  | .ok (v, st) =>
    match st.rest with
    | [] => .ok v
    | t :: _ => .error (.invalid ("unexpected argument " ++ quoteAlways t))

/-- `expr EXPRESSION`. -/
def expr (args : List String) : M Nat := do
  let args := match args with
    | "--" :: rest => rest
    | a => a
  if args.isEmpty then
    complain "expr" "missing operand"
    tryHelp "expr"
    return 2
  match evalExpr args with
  | .ok v =>
    say (v.text ++ "\n")
    return if v.isNull then 1 else 0
  | .error e =>
    complain "expr" e.message
    return 2

end Confine.Host.Program
