import Confine.Settings.Value
import Confine.Settings.Number
import Confine.Double.Shortest
import Confine.Text.Quote

/-!
# RON documents

RON, the notation of Rust values, writes a structure as its fields in parentheses,
`(name: value, ...)`, optionally after the structure's name; a tuple as values in
parentheses; a list in brackets; and a map as `key: value` pairs in braces, whose
keys must be strings to become settings. `Some(x)` is `x`, `None` and `()` are null,
and a name alone is null. Numbers are integers, also in hexadecimal (`0x`), octal
(`0o`) or binary (`0b`), or floats with a point or an exponent, and `inf` and `NaN`;
strings are double-quoted with escapes, or raw (`r"..."`, `r#"..."#`); a character
in single quotes is a string. Comments are `//` to the end of the line and `/* */`,
and a trailing comma is allowed everywhere.

A document that does not read is refused with the line and column where reading
stopped, the column counted in bytes. A map key that is no string or character
refuses the document without a place.
-/

namespace Confine.Settings.Ron

/-- The reader's place: the text left, and the line and column, from one, of its
first character. -/
structure Cursor where
  rest : List Char
  line : Nat := 1
  col : Nat := 1

/-- Reading: a cursor, and a message when reading fails. -/
abbrev Reader := StateT Cursor (Except String)

def peek : Reader (Option Char) := do return (← get).rest.head?

def peekAt (n : Nat) : Reader (Option Char) := do return (← get).rest[n]?

/-- Moves past one character. -/
def bump : Reader Unit := modify fun c =>
  match c.rest with
  | [] => c
  | x :: rest => if x = '\n' then { rest, line := c.line + 1, col := 1 } else { c with rest, col := c.col + x.utf8Size }

/-- Fails at the current place. -/
def failHere (msg : String) : Reader α := do
  let c ← get
  throw (toString c.line ++ ":" ++ toString c.col ++ ": " ++ msg)

/-- Skips white space and comments; block comments nest. -/
def skipSpace : Reader Unit := do
  for _ in [0:(← get).rest.length + 2] do
    match ← peek with
    | some c =>
      if c.isWhitespace then bump
      else if c = '/' && (← peekAt 1) = some '/' then
        for _ in [0:(← get).rest.length + 2] do
          match ← peek with
          | some '\n' | none => break
          | some _ => bump
      else if c = '/' && (← peekAt 1) = some '*' then
        bump; bump
        let mut depth := 1
        for _ in [0:(← get).rest.length + 2] do
          match ← peek, ← peekAt 1 with
          | none, _ => break
          | some '*', some '/' =>
            bump; bump
            depth := depth - 1
            if depth = 0 then break
          | some '/', some '*' =>
            bump; bump
            depth := depth + 1
          | some _, _ => bump
        if depth > 0 then failHere "Unclosed block comment"
      else break
    | none => break

def isIdentStart (c : Char) : Bool := c.isAlpha || c = '_'

def isIdentChar (c : Char) : Bool := c.isAlphanum || c = '_'

/-- An identifier, if one starts here. -/
def identifier : Reader (Option String) := do
  match ← peek with
  | some c =>
    if !isIdentStart c then return none
    let mut w := ""
    for _ in [0:(← get).rest.length + 2] do
      match ← peek with
      | some x => if isIdentChar x then w := w.push x; bump else break
      | none => break
    return some w
  | none => return none

/-- Whether the text ahead, after `(` and blanks, is a field name and a colon: a
structure rather than a tuple. -/
def fieldAhead : Reader Bool := do
  let cs := (← get).rest
  let name := cs.takeWhile isIdentChar
  match name with
  | [] => return false
  | c :: _ =>
    if !isIdentStart c then return false
    let after := (cs.drop name.length).dropWhile Char.isWhitespace
    return after.head? == some ':'

/-- The value of a hexadecimal digit, if it is one. -/
def hexDigit (c : Char) : Option Nat :=
  if c.isDigit then some (c.toNat - '0'.toNat)
  else if 'a' ≤ c && c ≤ 'f' then some (c.toNat - 'a'.toNat + 10)
  else if 'A' ≤ c && c ≤ 'F' then some (c.toNat - 'A'.toNat + 10)
  else none

/-- The value of a hexadecimal digit after it was read, or the refusal. -/
def hexAfter (c : Char) : Reader Nat :=
  match hexDigit c with
  | some d => pure d
  | none => failHere "Non-hex digit found"

/-- The next character, taken; the end of the text refuses. -/
def take : Reader Char := do
  match ← peek with
  | some c => bump; pure c
  | none => failHere "Unexpected end of RON"

/-- The character an escape stands for, after its backslash: `\x` takes two
hexadecimal digits for a byte, `\u` one to six in braces for a code point. -/
def escape : Reader Char := do
  match ← take with
  | '\'' => pure '\''
  | '"' => pure '"'
  | '\\' => pure '\\'
  | 'n' => pure '\n'
  | 'r' => pure '\r'
  | 't' => pure '\t'
  | '0' => pure '\x00'
  | 'x' =>
    let hi ← hexAfter (← take)
    let lo ← hexAfter (← take)
    pure (Char.ofNat (hi * 16 + lo))
  | 'u' =>
    if (← take) != '\x7b' then failHere "Missing \x7b in Unicode escape"
    let mut v := 0
    let mut count := 0
    for _ in [0:6] do
      match ← peek with
      | none => failHere "Unexpected end of RON"
      | some '\x7d' => break
      | some c =>
        bump
        v := v * 16 + (← hexAfter c)
        count := count + 1
    if count == 0 then failHere "Expected 1-6 digits, got 0 digits in Unicode escape"
    if (← take) != '\x7d' then failHere "No \x7d at the end of Unicode escape"
    if decide v.isValidChar then pure (Char.ofNat v) else failHere "Not a valid char"
  | _ => failHere "Unknown escape character"

/-- A double-quoted string after its quote. A string with no closing quote nor
backslash ahead is refused where it starts. -/
def stringBody : Reader String := do
  let ends (cs : List Char) : Bool := cs.any fun c => c == '"' || c == '\\'
  if !ends (← get).rest then failHere "Expected end of string"
  let mut out := ""
  for _ in [0:(← get).rest.length + 2] do
    match ← peek with
    | none => failHere "Unexpected end of RON"
    | some '"' => bump; return out
    | some '\\' =>
      bump
      out := out.push (← escape)
      if !ends (← get).rest then failHere "Unexpected end of RON"
    | some c => out := out.push c; bump
  failHere "Expected end of string"

/-- A raw string after its `r`: hashes, a quote, the text, a quote and as many hashes. -/
def rawString : Reader String := do
  let mut hashes := 0
  for _ in [0:(← get).rest.length + 2] do
    if (← peek) = some '#' then hashes := hashes + 1; bump else break
  if (← peek) != some '"' then failHere "Expected string"
  bump
  let close := '"' :: List.replicate hashes '#'
  let mut out := ""
  for _ in [0:(← get).rest.length + 2] do
    let cs := (← get).rest
    if cs.take close.length == close then
      for _ in close do bump
      return out
    match cs with
    | c :: _ => out := out.push c; bump
    | [] => failHere "Expected end of string"
  failHere "Expected end of string"

/-- A value as a document writes it, before it becomes a setting: maps may have keys
of any kind, and characters, units and options are kept apart. -/
inductive Datum where
  | unit
  | bool (b : Bool)
  | char (c : Char)
  | int (i : Int)
  | float (d : Double)
  | str (s : String)
  | none
  | some (d : Datum)
  | seq (items : List Datum)
  | map (entries : List (Datum × Datum))
  deriving Inhabited

/-- A number: an integer in a radix, or a float. Underscores between digits are
ignored. -/
def number : Reader Datum := do
  let mut text := ""
  for _ in [0:(← get).rest.length + 2] do
    match ← peek with
    | some c =>
      if c.isAlphanum || c = '.' || c = '_' || c = '+' || c = '-' then text := text.push c; bump else break
    | none => break
  let clean := String.ofList (text.toList.filter (· != '_'))
  let (negative, body) := match clean.toList with
    | '-' :: r => (true, r)
    | '+' :: r => (false, r)
    | r => (false, r)
  let radix : Option (Nat × List Char) := match body with
    | '0' :: 'x' :: r => some (16, r)
    | '0' :: 'o' :: r => some (8, r)
    | '0' :: 'b' :: r => some (2, r)
    | _ => none
  match radix with
  | some (b, ds) =>
    match ds.mapM (fun c => (hexDigit c).filter (· < b)) with
    | some (d :: more) =>
      let n := (d :: more).foldl (fun acc x => acc * b + x) 0
      let i : Int := if negative then -(n : Int) else n
      if Number.isInt64 i then return .int i else return .float (Double.ofRatio negative n 1)
    | _ => failHere "Expected integer"
  | none =>
    if body.all Char.isDigit && !body.isEmpty then
      let n := body.foldl (fun acc c => acc * 10 + (c.toNat - '0'.toNat)) 0
      let i : Int := if negative then -(n : Int) else n
      if Number.isInt64 i then return .int i else return .float (Double.ofRatio negative n 1)
    else match Number.float? clean with
      | some (.float d) => return .float d
      | some (.int i) => return .int i
      | _ => failHere "Expected float"

/-- The place of a kind of value in the order of keys: booleans, characters, maps,
numbers, options, strings, sequences, units. -/
def Datum.rank : Datum → Nat
  | .bool _ => 0 | .char _ => 1 | .map _ => 2 | .int _ | .float _ => 3
  | .none | .some _ => 4 | .str _ => 5 | .seq _ => 6 | .unit => 7

/-- Whether one key goes before another: by kind, then by value for the plain kinds. -/
def Datum.before (a b : Datum) : Bool :=
  if a.rank != b.rank then a.rank < b.rank
  else match a, b with
    | .bool x, .bool y => !x && y
    | .char x, .char y => x < y
    | .int x, .int y => x < y
    | .int _, .float _ => true
    | .str x, .str y => decide (x < y)
    | _, _ => false

/-- Whether two keys are the same: equal plain values. -/
def Datum.sameKey (a b : Datum) : Bool :=
  match a, b with
  | .bool x, .bool y => x == y
  | .char x, .char y => x == y
  | .int x, .int y => x == y
  | .str x, .str y => x == y
  | .unit, .unit => true
  | _, _ => false

/-- Adds an entry to a map, ordered by key; an equal key takes the new value. -/
def insertEntry (entries : List (Datum × Datum)) (k v : Datum) : List (Datum × Datum) :=
  if entries.any (·.1.sameKey k) then entries.map fun (k', x) => if k'.sameKey k then (k', v) else (k', x)
  else
    let (lower, upper) := entries.span fun (k', _) => k'.before k
    lower ++ (k, v) :: upper

mutual

/-- A value. -/
def value : Nat → Reader Datum
  | 0 => failHere "Exceeded recursion limit"
  | fuel + 1 => do
    skipSpace
    let c ← peek
    if c = some 'r' && ((← peekAt 1) = some '"' || (← peekAt 1) = some '#') then
      bump
      return .str (← rawString)
    match ← identifier with
    | some "true" => return .bool true
    | some "false" => return .bool false
    | some "None" => return .none
    | some "inf" => return .float (.infinite false)
    | some "NaN" => return .float .nan
    | some "Some" =>
      skipSpace
      if (← peek) != some '(' then failHere "Expected opening `(`"
      bump
      let v ← value fuel
      skipSpace
      if (← peek) = some ',' then bump; skipSpace
      if (← peek) != some ')' then failHere "Expected closing `)`"
      bump
      return .some v
    | some _ =>
      skipSpace
      if (← peek) = some '(' then bump; group fuel
      else return .unit
    | none =>
      match c with
      | some '(' => bump; group fuel
      | some '[' => bump; seqUntil fuel ']' []
      | some '\x7b' => bump; map fuel []
      | some '"' => bump; return .str (← stringBody)
      | some '\'' =>
        bump
        let ch ← match ← peek with
          | some '\\' => do bump; escape
          | some x => do bump; pure x
          | none => failHere "Unexpected end of RON"
        if (← peek) != some '\'' then failHere "Expected char"
        bump
        return .char ch
      | some x =>
        if x.isDigit || x = '+' || x = '-' || x = '.' then
          if x = '-' && (← get).rest.take 4 == ['-', 'i', 'n', 'f'] then
            for _ in [0:4] do bump
            return .float (.infinite true)
          number
        else
          -- the refusal names the first byte of the character as a character
          let byte := (String.singleton x).toUTF8[0]!.toNat
          failHere ("Unexpected byte " ++ Text.quoteChar (Char.ofNat byte))
      | none => failHere "Unexpected end of RON"

/-- The inside of parentheses: `()` is a unit, named fields make a map, and other
values a sequence. -/
def group : Nat → Reader Datum
  | 0 => failHere "Exceeded recursion limit"
  | fuel + 1 => do
    skipSpace
    if (← peek) = some ')' then bump; return .unit
    if ← fieldAhead then fields fuel []
    else seqUntil fuel ')' []

/-- Named fields up to the closing parenthesis. -/
def fields : Nat → List (Datum × Datum) → Reader Datum
  | 0, _ => failHere "Exceeded recursion limit"
  | fuel + 1, acc => do
    skipSpace
    if (← peek) = some ')' then bump; return .map acc
    match ← identifier with
    | none => failHere "Expected identifier"
    | some name =>
      skipSpace
      if (← peek) != some ':' then failHere "Expected colon"
      bump
      let v ← value fuel
      skipSpace
      match ← peek with
      | some ',' => bump; fields fuel (insertEntry acc (.str name) v)
      | some ')' => bump; return .map (insertEntry acc (.str name) v)
      | _ => failHere "Expected comma"

/-- Values up to a closing character. -/
def seqUntil : Nat → Char → List Datum → Reader Datum
  | 0, _, _ => failHere "Exceeded recursion limit"
  | fuel + 1, close, acc => do
    skipSpace
    if (← peek) = some close then bump; return .seq acc.reverse
    let v ← value fuel
    skipSpace
    match ← peek with
    | some ',' => bump; seqUntil fuel close (v :: acc)
    | some x => if x = close then bump; return .seq (v :: acc).reverse else failHere "Expected comma"
    | none => failHere "Unexpected end of RON"

/-- A map after its brace. -/
def map : Nat → List (Datum × Datum) → Reader Datum
  | 0, _ => failHere "Exceeded recursion limit"
  | fuel + 1, acc => do
    skipSpace
    if (← peek) = some '\x7d' then bump; return .map acc
    let k ← value fuel
    skipSpace
    if (← peek) != some ':' then failHere "Expected colon"
    bump
    let v ← value fuel
    skipSpace
    match ← peek with
    | some ',' => bump; map fuel (insertEntry acc k v)
    | some '\x7d' => bump; return .map (insertEntry acc k v)
    | _ => failHere "Expected comma"

end

/-- What a refusal calls a value that is not the string a key must be. -/
def Datum.describe : Datum → String
  | .bool b => "the boolean \x60" ++ (if b then "true" else "false") ++ "\x60"
  | .int i => "the signed integer \x60" ++ intText i ++ "\x60"
  | .float d => "the floating point number \x60" ++ Double.Layout.plain.text d ++ "\x60"
  | .char c => "the UTF-8 character \x60" ++ String.singleton c ++ "\x60"
  | .str s => "the string " ++ Text.quote s
  | .unit => "a unit value"
  | .none | .some _ => "an optional value"
  | .seq _ => "a sequence"
  | .map _ => "a map"

mutual

/-- A value as a setting: an option is what it holds, a unit is null, a character a
string, and a map needs keys that read as strings. -/
def Datum.toValue : Datum → Except String Value
  | .unit | .none => .ok .null
  | .some d => d.toValue
  | .bool b => .ok (.bool b)
  | .char c => .ok (.str (String.singleton c))
  | .int i => .ok (.int i)
  | .float d => .ok (.float d)
  | .str s => .ok (.str s)
  | .seq items => Value.list <$> Datum.listToValues items
  | .map entries => Value.table <$> Datum.entriesToValues entries

/-- The items of a sequence as settings. -/
def Datum.listToValues : List Datum → Except String (List Value)
  | [] => .ok []
  | d :: rest => do
    let v ← d.toValue
    let vs ← Datum.listToValues rest
    pure (v :: vs)

/-- The entries of a map as settings, each key as a string. -/
def Datum.entriesToValues : List (Datum × Datum) → Except String (List (String × Value))
  | [] => .ok []
  | (k, d) :: rest => do
    let key ← match k with
      | .str s => pure s
      | .char c => pure (String.singleton c)
      | other => .error ("Expected a string but found " ++ other.describe ++ " instead")
    let v ← d.toValue
    let vs ← Datum.entriesToValues rest
    pure ((key, v) :: vs)

end

/-- The settings of a RON text, or the message that refuses it. -/
def parse (text : String) : Except String Value := do
  let fuel := text.length + 2
  let d ← (do
    let v ← value fuel
    skipSpace
    if (← peek).isSome then failHere "Non-whitespace trailing characters"
    return v).run' { rest := text.toList }
  d.toValue

end Confine.Settings.Ron
