import Confine.Settings.Toml.Datum

/-!
# TOML documents

A TOML document is read into a settings tree: key/value lines, `[table]` headers and
`[[array of tables]]` headers, with the values of `Toml.Datum`. A key may be dotted.

Tables are built as the document goes. The lines after a header fill that header's
table, which joins the document at the next header or at the end. A table may be
made in passing, as the parent of a deeper header or by a dotted key; a header may
later define a table made in passing by another header, but not one made by dotted
keys, nor one a header defined, nor an inline table. Dotted keys may not reach into
a table that a header made, nor into a value that is no table.

A document that is not well formed is refused at the first place where reading
cannot go on. The refusal names the line and column, shows that line with a caret
under the place, and says what was wrong.
-/

namespace Confine.Settings.Toml

/-- An entry of a table under construction: a value, a table (which remembers whether
it was made only in passing, and whether by dotted keys), or an array of tables. -/
inductive Item where
  | datum (d : Datum)
  | table (implicit dotted : Bool) (entries : List (String × Item))
  | tables (items : List (List (String × Item)))
  deriving Inhabited

mutual

/-- An entry as a settings value. -/
def Item.toValue : Item → Value
  | .datum d => d.toValue
  | .table _ _ entries => .table (Item.entriesToValues entries)
  | .tables items => .list (Item.tablesToValues items)

/-- The entries of a table as settings entries. -/
def Item.entriesToValues : List (String × Item) → List (String × Value)
  | [] => []
  | (k, i) :: rest => (k, i.toValue) :: Item.entriesToValues rest

/-- The tables of an array of tables as settings values. -/
def Item.tablesToValues : List (List (String × Item)) → List Value
  | [] => []
  | t :: rest => .table (Item.entriesToValues t) :: Item.tablesToValues rest

end

/-- A table under construction, with its two marks. -/
structure Shelf where
  implicit : Bool := false
  dotted : Bool := false
  entries : List (String × Item) := []

/-- Why a key or header cannot be placed. -/
inductive Conflict where
  /-- A key is there already; the table it is in, when the message names it. -/
  | duplicate (key : String) (table : Option (List String))
  /-- Dotted keys reach into a value that is no table. -/
  | wrongType (path : List String) (actual : String)

/-- The message of a conflict. -/
def Conflict.message : Conflict → String
  | .duplicate k none => "duplicate key \x60" ++ k ++ "\x60"
  | .duplicate k (some []) => "duplicate key \x60" ++ k ++ "\x60 in document root"
  | .duplicate k (some t) => "duplicate key \x60" ++ k ++ "\x60 in table \x60" ++ ".".intercalate t ++ "\x60"
  | .wrongType p t =>
    "dotted key \x60" ++ ".".intercalate p ++ "\x60 attempted to extend non-table type (" ++ t ++ ")"

/-- Replaces the entry under a key, keeping its place. -/
def replaceEntry (entries : List (String × Item)) (k : String) (i : Item) : List (String × Item) :=
  entries.map fun (k', x) => if k' == k then (k', i) else (k', x)

/-- Applies a change to the table at a path below a table, making the missing tables
on the way (marked as made in passing, and by dotted keys when `dotted`); through an
array of tables the path goes into its last table. `whole` is the path for messages
and `depth` how much of it is behind. -/
def reach {α : Type} (dotted : Bool) (whole : List String) (change : Shelf → Except Conflict (Shelf × α)) :
    Nat → List String → Shelf → Except Conflict (Shelf × α)
  | _, [], t => change t
  | depth, k :: ks, t =>
    match t.entries.find? (·.1 == k) with
    | none => do
      let (sub, a) ← reach dotted whole change (depth + 1) ks { implicit := true, dotted }
      pure ({ t with entries := t.entries ++ [(k, .table sub.implicit sub.dotted sub.entries)] }, a)
    | some (_, .datum d) => .error (.wrongType (whole.take (depth + 1)) d.typeName)
    | some (_, .tables items) => do
      let (sub, a) ← reach dotted whole change (depth + 1) ks { entries := items.getLastD [] }
      pure ({ t with entries := replaceEntry t.entries k (.tables (items.dropLast ++ [sub.entries])) }, a)
    | some (_, .table implicit innerDotted entries) =>
      if dotted && !implicit then .error (.duplicate k none)
      else do
        let (sub, a) ← reach dotted whole change (depth + 1) ks { implicit, dotted := innerDotted, entries }
        pure ({ t with entries := replaceEntry t.entries k (.table sub.implicit sub.dotted sub.entries) }, a)

/-- What a document has read so far: the tables that have joined it, the table that
lines go to now with its path, and whether that table belongs to an array of tables. -/
structure Building where
  root : Shelf := {}
  current : Shelf := {}
  path : List String := []
  inArray : Bool := false

namespace Building

/-- Joins the current table to the document. -/
def settle (b : Building) : Except Conflict Building := do
  match b.path.getLast? with
  | none => pure { b with root := { b.root with entries := b.current.entries } }
  | some name =>
    let parent := b.path.dropLast
    let (root, ()) ← reach false parent (fun t =>
      match t.entries.find? (·.1 == name) with
      | none =>
        let entry : Item := if b.inArray then .tables [b.current.entries] else .table false false b.current.entries
        pure ({ t with entries := t.entries ++ [(name, entry)] }, ())
      | some (_, .tables items) =>
        if b.inArray then pure ({ t with entries := replaceEntry t.entries name (.tables (items ++ [b.current.entries])) }, ())
        else .error (.duplicate name (some parent))
      | some (_, .table true _ _) =>
        if b.inArray then .error (.duplicate name (some parent))
        else pure ({ t with entries := replaceEntry t.entries name (.table false false b.current.entries) }, ())
      | some _ => .error (.duplicate name (some parent))) 0 parent b.root
    pure { b with root }

/-- Sets a key, perhaps dotted, in the current table. -/
def setKey (b : Building) (path : List String) (d : Datum) : Except Conflict Building := do
  let leaf := path.getLastD ""
  let above := path.dropLast
  let (current, ()) ← reach true above (fun t =>
    if t.dotted == above.isEmpty then .error (.duplicate leaf none)
    else if t.entries.any (·.1 == leaf) then .error (.duplicate leaf (some b.path))
    else pure ({ t with entries := t.entries ++ [(leaf, .datum d)] }, ())) 0 above b.current
  pure { b with current }

/-- Starts the table of a `[table]` header, taking over a table made in passing by
another header. -/
def openTable (b : Building) (path : List String) : Except Conflict Building := do
  let b ← b.settle
  let name := path.getLastD ""
  let parent := path.dropLast
  let (root, found) ← reach false parent (fun t =>
    match t.entries.find? (·.1 == name) with
    | none => pure (t, [])
    | some (_, .table true false entries) =>
      pure ({ t with entries := t.entries.filter (·.1 != name) }, entries)
    | some _ => .error (.duplicate name (some parent))) 0 parent b.root
  pure { root, current := { entries := found }, path, inArray := false }

/-- Starts a new table of a `[[table]]` header. -/
def openArrayTable (b : Building) (path : List String) : Except Conflict Building := do
  let b ← b.settle
  let name := path.getLastD ""
  let parent := path.dropLast
  let (root, ()) ← reach false parent (fun t =>
    match t.entries.find? (·.1 == name) with
    | none => pure ({ t with entries := t.entries ++ [(name, .tables [])] }, ())
    | some (_, .tables _) => pure (t, ())
    | some _ => .error (.duplicate name (some parent))) 0 parent b.root
  pure { root, current := {}, path, inArray := true }

end Building

/-- Applies a change of the building, refusing softly where the element started. -/
def building (start : Nat) (b : Except Conflict Building) : Reader Building :=
  match b with
  | .ok b => pure b
  | .error c => softAt start c.message

/-- A header line, `[table]` or `[[table]]`. -/
def header (b : Building) : Reader Building :=
  hinted (.form "table header") do
    let start := (← get).pos
    let arrayHeader := (← peekMany 2) == ['[', '[']
    word (if arrayHeader then "[[" else "[")
    let path ← firmly key
    let _ ← firmly (hintedAll [.expected "`.`", .expected (if arrayHeader then "`]]`" else "`]`")]
      (word (if arrayHeader then "]]" else "]")))
    firmly (hintedAll [.expected "newline", .expected "`#`"] lineTrailing)
    building start (if arrayHeader then b.openArrayTable path else b.openTable path)

/-- A key/value line. -/
def keyValue (fuel : Nat) (b : Building) : Reader Building := do
  let start := (← get).pos
  let path ← key
  let d ← firmly do
    let _ ← hintedAll [.expected "`.`", .expected "`=`"] (one (· == '='))
    blanks
    let d ← value fuel
    hintedAll [.expected "newline", .expected "`#`"] lineTrailing
    pure d
  building start (b.setKey path d)

/-- One element of a document: a comment line, a header, a line break, or a key/value
line, and the blanks after it. -/
def element (fuel : Nat) (b : Building) : Reader Building := do
  let b ← match ← peek with
    | some '#' => firmly (do comment; firstOf [newline, atEnd]; pure b)
    | some '[' => firmly (header b)
    | some '\n' | some '\r' => do newline; pure b
    | some _ => firmly (keyValue fuel b)
    | none => soft
  blanks
  pure b

/-- Elements until they end; `steps` bounds how many. -/
def elements (fuel : Nat) : Nat → Building → Reader Building
  | 0, b => pure b
  | steps + 1, b => do
    let before := (← get).pos
    match ← attempt (element fuel b) with
    | none => pure b
    | some b' => if (← get).pos == before then pure b' else elements fuel steps b'

/-- A whole document. -/
def document : Reader Building := do
  let _ ← attempt (word "\uFEFF")
  blanks
  let fuel := (← get).rest.length + 2
  let b ← elements fuel fuel {}
  atEnd
  pure b

/-- The line and column, both from zero, of a character position in a text: a place
past the end counts on the last line, after its last character. -/
def lineColumn (text : List Char) (pos : Nat) : Nat × Nat :=
  if text.isEmpty then (0, pos) else
  let index := min pos (text.length - 1)
  let beyond := pos - index
  let before := text.take index
  let lineStart := index - (before.reverse.takeWhile (· != '\n')).length
  let line := (text.take lineStart).count '\n'
  (line, index - lineStart + beyond)

/-- The text of a refusal, with the line it is on and a caret under the place. -/
def Failure.render (f : Failure) (text : String) : String :=
  let (line, col) := lineColumn text.toList f.pos
  let content := (text.splitOn "\n").getD line ""
  let number := toString (line + 1)
  let pad (n : Nat) := String.ofList (List.replicate n ' ')
  "TOML parse error at line " ++ number ++ ", column " ++ toString (col + 1) ++ "\n" ++
    pad (number.length + 1) ++ "|\n" ++ number ++ " | " ++ content ++ "\n" ++
    pad (number.length + 1) ++ "|" ++ pad (col + 1) ++ "^\n" ++ f.message ++ "\n"

/-- Reads a document into a table, or the text of the refusal. -/
def parse (text : String) : Except String Value :=
  match document.run ⟨text.toList, 0⟩ with
  | .error f => .error (f.render text)
  | .ok (b, _) =>
    match b.settle with
    | .ok b => .ok (.table (Item.entriesToValues b.root.entries))
    | .error c => .error (c.message ++ "\n")

end Confine.Settings.Toml
