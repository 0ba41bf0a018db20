import Confine.Text.Alphanumeric
import Confine.Text.Blank
import Confine.Text.Utf8

/-!
# Environment files

An environment file holds `KEY=value` lines that fill in the process environment:
a variable already set keeps its value. Lines are read in order, and the first line
that cannot be read ends the reading, keeping what came before it.

A line may start with `export `. A key starts with a letter or an underscore and goes
on with letters, digits, underscores and dots. Blank lines and lines starting with `#`
are skipped. A value is written plainly, or between single quotes, taken as written,
or between double quotes, where a backslash escapes a backslash, a quote, a dollar
sign, a blank or `n` for a line break. A quoted value may go on over several lines.
Outside single quotes `$NAME` and `${NAME}` stand for the value of a variable: the
environment's, else an earlier line's, else nothing; a plain name is letters and
digits of any script. Outside quotes a blank ends the value, and only a comment may
follow it. A byte order mark at the start of the file is passed over.
-/

namespace Confine.DotEnv

/-- How far a line has come in the reading of quotes. -/
inductive Quoting where
  | complete
  | whitespace
  | escape
  | strongOpen
  | strongOpenEscape
  | weakOpen
  | weakOpenEscape
  deriving DecidableEq, Repr

/-- One character's step through the quoting states; `none` when it starts a comment. -/
def Quoting.step : Quoting → Char → Option Quoting
  | .whitespace, c =>
    if c == '#' then none
    else some (if c == '\\' then .escape else if c == '"' then .weakOpen
      else if c == '\'' then .strongOpen else .complete)
  | .escape, _ => some .complete
  | .complete, c =>
    some (if Text.isBlank c && c != '\n' && c != '\r' then .whitespace
      else if c == '\\' then .escape else if c == '"' then .weakOpen
      else if c == '\'' then .strongOpen else .complete)
  | .weakOpen, c => some (if c == '\\' then .weakOpenEscape else if c == '"' then .complete else .weakOpen)
  | .weakOpenEscape, _ => some .weakOpen
  | .strongOpen, c =>
    some (if c == '\\' then .strongOpenEscape else if c == '\'' then .complete else .strongOpen)
  | .strongOpenEscape, _ => some .strongOpen

/-- Runs characters through the quoting states: the state at the end, or how many
characters come before a comment. -/
def Quoting.run (q : Quoting) : List Char → Quoting ⊕ Nat
  | [] => .inl q
  | c :: rest =>
    match q.step c with
    | none => .inr 0
    | some q' =>
      match q'.run rest with
      | .inl e => .inl e
      | .inr k => .inr (k + 1)

/-- The physical lines of a file, each with its line break, as far as each is valid
UTF-8; `true` when an ill-formed line stopped the reading. -/
def physicalLines (bytes : List UInt8) : List (List Char) × Bool :=
  let pieces := bytes.splitOn 0x0A
  let n := pieces.length
  let withBreaks := (pieces.zip (List.range n)).filterMap fun (p, i) =>
    if i + 1 < n then some (p ++ [0x0A]) else if p.isEmpty then none else some p
  let rec go : List (List UInt8) → List (List Char) × Bool
    | [] => ([], false)
    | l :: rest =>
      if Text.Utf8.encode (Text.Utf8.decodeLossy l) == l then
        let (ls, stopped) := go rest
        (Text.Utf8.decode l :: ls, stopped)
      else ([], true)
  go withBreaks

/-- A line without its final line break and a carriage return before it. -/
def dropBreak (cs : List Char) : List Char :=
  let cs := if cs.getLast? == some '\n' then cs.dropLast else cs
  if cs.getLast? == some '\r' then cs.dropLast else cs

/-- The logical lines of a file: physical lines joined while a quote is open, cut at a
comment. `true` when the reading stopped at a line it could not read. -/
def logicalLines (physical : List (List Char)) : List (List Char) × Bool :=
  let rec go : List (List Char) → List Char → Quoting → List (List Char) × Bool
    | [], buf, q => ([], !(buf.isEmpty && q == .complete))
    | pl :: rest, buf, q =>
      let whole := buf ++ pl
      if (whole.dropWhile Text.isBlank).head? == some '#' then
        let (ls, e) := go rest [] .complete
        ([] :: ls, e)
      else match q.run pl with
        | .inr k =>
          let (ls, e) := go rest [] .complete
          ((buf ++ pl.take k) :: ls, e)
        | .inl .complete =>
          let (ls, e) := go rest [] .complete
          (dropBreak whole :: ls, e)
        | .inl q' => go rest whole q'
  go physical [] .complete

/-- How a `$` reference is being read. -/
inductive Reference where
  | none
  | plain
  | braced
  deriving DecidableEq, Repr

/-- Where reading a value stands. -/
structure ValueState where
  out : List Char := []
  strong : Bool := false
  weak : Bool := false
  escaped : Bool := false
  expectingEnd : Bool := false
  reference : Reference := .none
  name : List Char := []

/-- Reads a value, replacing references by what `lookup` gives; `none` when the value
is ill-formed. -/
def parseValue (lookup : String → String) (input : List Char) : Option String :=
  let subst := fun (st : ValueState) =>
    { st with out := st.out ++ (lookup (String.ofList st.name)).toList, name := [] }
  let rec go : List Char → ValueState → Option ValueState
    | [], st => some st
    | c :: rest, st =>
      if st.expectingEnd then
        if c == ' ' || c == '\t' then go rest st
        else if c == '#' then some st
        else none
      else if st.escaped then
        if c == '\\' || c == '\'' || c == '"' || c == '$' || c == ' ' then
          go rest { st with out := st.out ++ [c], escaped := false }
        else if c == 'n' then go rest { st with out := st.out ++ ['\n'], escaped := false }
        else none
      else if st.strong then
        if c == '\'' then go rest { st with strong := false }
        else go rest { st with out := st.out ++ [c] }
      else if st.reference != .none then
        if Text.isAlphanumeric c then go rest { st with name := st.name ++ [c] }
        else if st.reference == .plain then
          if c == '{' && st.name.isEmpty then go rest { st with reference := .braced }
          else
            let st := subst st
            if c == '$' then go rest { st with reference := .plain }
            else go rest { st with reference := .none, out := st.out ++ [c] }
        else if c == '}' then go rest { subst st with reference := .none }
        else go rest { st with name := st.name ++ [c] }
      else if c == '$' then go rest { st with reference := .plain }
      else if st.weak then
        if c == '"' then go rest { st with weak := false }
        else if c == '\\' then go rest { st with escaped := true }
        else go rest { st with out := st.out ++ [c] }
      else if c == '\'' then go rest { st with strong := true }
      else if c == '"' then go rest { st with weak := true }
      else if c == '\\' then go rest { st with escaped := true }
      else if c == ' ' || c == '\t' then go rest { st with expectingEnd := true }
      else go rest { st with out := st.out ++ [c] }
  match go input {} with
  | none => none
  | some st =>
    if st.reference == .braced || st.strong || st.weak then none
    else some (String.ofList (subst st).out)

/-- Whether a character may start a key. -/
def isKeyStart (c : Char) : Bool := (c.isAlpha && c.toNat < 128) || c == '_'

/-- Whether a character may go on a key. -/
def isKeyChar (c : Char) : Bool := (c.isAlphanum && c.toNat < 128) || c == '_' || c == '.'

/-- Takes a key off the front of a line. -/
def takeKey (cs : List Char) : Option (String × List Char) :=
  match cs with
  | c :: _ =>
    if isKeyStart c then
      let key := cs.takeWhile isKeyChar
      some (String.ofList key, cs.drop key.length)
    else none
  | [] => none

/-- Takes the `=` after a key. -/
def takeEqual : List Char → Option (List Char)
  | '=' :: rest => some rest
  | _ => none

/-- Reads one logical line: nothing for a blank line or a comment, else its key and
value; `none` when the line is ill-formed. -/
def parseLine (lookup : String → String) (line : List Char) :
    Option (Option (String × String)) := do
  let line := (line.reverse.dropWhile Text.isBlank).reverse
  let rest := line.dropWhile Text.isBlank
  if rest.isEmpty || rest.head? == some '#' then return none
  let (key, rest) ← takeKey rest
  let rest := rest.dropWhile Text.isBlank
  let (key, rest) ← if key == "export" then
      match takeEqual rest with
      | some r => pure (key, r)
      | none => do
        let (k, r) ← takeKey rest
        let r ← takeEqual (r.dropWhile Text.isBlank)
        pure (k, r)
    else do
      let r ← takeEqual rest
      pure (key, r)
  let rest := rest.dropWhile Text.isBlank
  if rest.isEmpty || rest.head? == some '#' then return some (key, "")
  let v ← parseValue lookup rest
  return some (key, v)

/-- The value of a variable in an environment. -/
def lookupIn (env : List (String × String)) (k : String) : Option String :=
  (env.find? (·.1 == k)).map (·.2)

/-- Fills an environment from a file's lines in order: a variable already set keeps
its value, and the first ill-formed line ends the reading. -/
def fill (env : List (String × String)) (bytes : List UInt8) : List (String × String) :=
  let bytes := if bytes.take 3 == [0xEF, 0xBB, 0xBF] then bytes.drop 3 else bytes
  let (physical, _) := physicalLines bytes
  let (lines, _) := logicalLines physical
  let rec go : List (List Char) → List (String × String) → List (String × String) →
      List (String × String)
    | [], env, _ => env
    | l :: rest, env, earlier =>
      let lookup := fun k => match lookupIn env k with
        | some v => v
        | none => (lookupIn earlier k).getD ""
      match parseLine lookup l with
      | none => env
      | some none => go rest env earlier
      | some (some (k, v)) =>
        let env := if (lookupIn env k).isSome then env else env ++ [(k, v)]
        go rest env ((k, v) :: earlier)
  go lines env []

end Confine.DotEnv
