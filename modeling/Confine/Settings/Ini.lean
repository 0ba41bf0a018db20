import Confine.Settings.Value
import Confine.Text.Quote

/-!
# INI documents

An INI document is a list of `key = value` lines (`:` also separates), grouped under
`[section]` headers; keys before the first header stand at the top. Every value is
text: blanks around it are dropped, a value in single or double quotes loses its
quotes, and backslash escapes (`\n`, `\t`, `\xHHHH`, ...) are decoded. A comment
line starts with `;` or `#` at the first column; a comment anywhere else is refused.
A key runs up to its `=` or `:`, even across lines.

Names are lowercased. Of two keys of one name the later wins; a section met again
replaces the earlier one.

A document that does not read is refused with the line and column of the character
the reader stopped at.
-/

namespace Confine.Settings.Ini

/-- The reader's place: the text left, the character at hand, and its line and
column as counted so far. -/
structure Cursor where
  rest : List Char
  current : Option Char
  line : Nat := 0
  col : Nat := 0

/-- Reading: a cursor, and a message with its place when reading fails. -/
abbrev Reader := StateT Cursor (Except String)

/-- Moves to the next character, counting lines and columns. -/
def bump : Reader Unit := modify fun c =>
  match c.rest with
  | [] => { c with current := none }
  | x :: rest =>
    if x = '\n' then { c with rest, current := some x, line := c.line + 1, col := 0 }
    else { c with rest, current := some x, col := c.col + 1 }

/-- Fails with a message at the place of the current character. -/
def failWith (msg : String) : Reader α := do
  let c ← get
  throw (toString (c.line + 1) ++ ":" ++ toString (c.col + 1) ++ " " ++ msg)

/-- The end markers as the message names them. -/
def endpointText (ends : List (Option Char)) : String :=
  "[" ++ ", ".intercalate (ends.map fun e => match e with
    | some c => "Some(" ++ (if c = '\n' then "'\\n'" else if c = '\r' then "'\\r'" else "'" ++ String.singleton c ++ "'") ++ ")"
    | none => "None") ++ "]"

/-- Skips white space, line breaks included. -/
def skipWhitespace : Reader Unit := do
  for _ in [0:(← get).rest.length + 2] do
    match (← get).current with
    | some c => if c.isWhitespace then bump else break
    | none => break

/-- Skips blanks that are not line breaks. -/
def skipBlanks : Reader Unit := do
  for _ in [0:(← get).rest.length + 2] do
    match (← get).current with
    | some c => if c.isWhitespace && c != '\n' && c != '\r' then bump else break
    | none => break

/-- Reads text up to one of the end markers, decoding escapes; the end itself is not
taken. Running out of text when it is not an end marker is refused. -/
def readUntil (ends : List (Option Char)) : Reader String := do
  let mut out := ""
  for _ in [0:(← get).rest.length + 2] do
    let c ← get
    if ends.contains c.current then break
    match c.current with
    | none => failWith ("expecting \"" ++ endpointText ends ++ "\" but found EOF.")
    | some '\\' =>
      bump
      match (← get).current with
      | none => failWith ("expecting \"" ++ endpointText ends ++ "\" but found EOF.")
      | some e =>
        match e with
        | '0' => out := out.push '\x00'
        | 'a' => out := out.push '\x07'
        | 'b' => out := out.push '\x08'
        | 't' => out := out.push '\t'
        | 'r' => out := out.push '\r'
        | 'n' => out := out.push '\n'
        | '\n' => pure ()
        | 'x' =>
          let mut code := ""
          for _ in [0:4] do
            bump
            match (← get).current with
            | none => failWith ("expecting \"" ++ endpointText ends ++ "\" but found EOF.")
            | some '\\' =>
              -- a backslash inside the code must end the line, which then counts as a digit
              bump
              match (← get).current with
              | some '\n' => code := code.push '\n'
              | some other =>
                failWith ("expecting \"\\\\n\" but found \"Some(" ++ Text.quoteChar other ++ ")\".")
              | none => failWith "expecting \"\\\\n\" but found \"None\"."
            | some h => code := code.push h
          -- a plus sign may lead the digits
          let digits := match code.toList with
            | '+' :: more => more
            | all => all
          let value := digits.foldl (fun acc h =>
            acc.bind fun a =>
              let d := if h.isDigit then some (h.toNat - '0'.toNat)
                else if 'a' ≤ h && h ≤ 'f' then some (h.toNat - 'a'.toNat + 10)
                else if 'A' ≤ h && h ≤ 'F' then some (h.toNat - 'A'.toNat + 10) else none
              d.map (a * 16 + ·)) (some 0)
          match value with
          | some v =>
            if !digits.isEmpty && v ≤ 0x10FFFF && !(0xD800 ≤ v && v ≤ 0xDFFF) then out := out.push (Char.ofNat v)
            else failWith "unknown character in \\xHH form"
          | none => failWith "unknown character in \\xHH form"
        | other => out := out.push other
    | some x => out := out.push x
    bump
  return out

/-- Drops blanks at both ends. -/
def trim (s : String) : String := s.trimAscii.toString

/-- A value after its `=`: blanks skipped, then quoted or plain text to the end of the
line. -/
def value : Reader String := do
  bump
  skipBlanks
  let eol := [some '\n', some '\r', none]
  match (← get).current with
  | none => return ""
  | some q =>
    if q = '"' || q = '\'' then
      bump
      let inner ← readUntil [some q]
      bump
      return inner ++ (← readUntil eol)
    else return trim (← readUntil eol)

/-- A document: sections in order, the top first, each with its keys and values. -/
def document : Reader (List (Option String × List (String × String))) := do
  bump
  skipWhitespace
  let mut sections : List (Option String × List (String × String)) := [(none, [])]
  let mut key := ""
  for _ in [0:(← get).rest.length + 2] do
    let c ← get
    match c.current with
    | none => break
    | some ';' | some '#' =>
      if c.col > 1 then failWith "doesn't support inline comment"
      for _ in [0:(← get).rest.length + 2] do
        match (← get).current with
        | some x => bump; if x = '\n' then break
        | none => break
    | some '[' =>
      bump
      let name ← readUntil [some ']']
      if (← get).current = some ']' then bump
      sections := sections ++ [(some (trim name), [])]
    | some '=' | some ':' =>
      if key.isEmpty then failWith "missing key"
      let v ← value
      sections := match sections.reverse with
        | (s, kvs) :: rest => ((s, kvs ++ [(key, v)]) :: rest).reverse
        | [] => [(none, [(key, v)])]
      key := ""
    | some _ =>
      key := trim (← readUntil [some '=', some ':'])
    skipWhitespace
  return sections

/-- Sets an entry, in place when the name is there. -/
def setEntry (entries : List (String × Value)) (k : String) (v : Value) : List (String × Value) :=
  if entries.any (·.1 == k) then entries.map fun (n, x) => if n == k then (n, v) else (n, x)
  else entries ++ [(k, v)]

/-- The settings of an INI text, or the message that refuses it. -/
def parse (text : String) : Except String Value :=
  match document.run' { rest := text.toList, current := none } with
  | .error e => .error e
  | .ok sections =>
    .ok (.table (sections.foldl (fun top (name, kvs) =>
      let entries := kvs.foldl (fun acc (k, v) => setEntry acc k.toLower (.str v)) []
      match name with
      | some n => setEntry top n.toLower (.table entries)
      | none => entries.foldl (fun acc (k, v) => setEntry acc k v) top) []))

end Confine.Settings.Ini
