import Confine.Settings.Number
import Confine.Double.Shortest
import Confine.Text.Quote

/-!
# Layered settings

Configuration comes in layers: built-in defaults, then a file, then the environment,
each later layer overriding the earlier ones. Every value remembers where it came
from, so that a message about it can say so.

Laying a source over the settings goes key by key. A key at the top of a source is a
path when it is made of dot-separated names, and a path reaches through tables,
turning whatever stands in its way into an empty table. A table laid over a key merges
into what is there entry by entry; anything else replaces it. A table made by laying
is new and comes from nowhere.

The environment contributes the variables whose names start with a prefix, in any
case: the rest of the name, lowercased, with each double underscore read as a dot.
A value reads as a boolean, an integer or a float when its text is one.

A value is read as a count or as text by fixed rules, and a value of the wrong kind
gives a message that names what was found, what was expected, the key that leads to
it and where it came from.
-/

namespace Confine.Settings

/-- Where a setting came from, as messages name it; the built-in defaults have no
name. -/
abbrev Origin := Option String

/-- A layered setting: a scalar, a list or a table, each with its origin. -/
inductive Setting where
  | scalar (origin : Origin) (v : Value)
  | list (origin : Origin) (items : List Setting)
  | table (origin : Origin) (entries : List (String × Setting))
  deriving Repr, Inhabited

namespace Setting

/-- A table with no entries and no origin. -/
def empty : Setting := .table none []

/-- Where a setting came from. -/
def origin : Setting → Origin
  | .scalar o _ => o
  | .list o _ => o
  | .table o _ => o

/-- Whether a setting is a table. -/
def isTable : Setting → Bool
  | .table _ _ => true
  | _ => false

/-- The entry of a table under a key. -/
def entry? : Setting → String → Option Setting
  | .table _ entries, key => (entries.find? (·.1 == key)).map (·.2)
  | _, _ => none

/-- Sets the entry of a table under a key: in place when the key is there, else last.
A setting that is not a table is left as it is. -/
def insert : Setting → String → Setting → Setting
  | .table o entries, key, v =>
    if entries.any (·.1 == key) then
      .table o (entries.map fun (k, x) => if k == key then (k, v) else (k, x))
    else .table o (entries ++ [(key, v)])
  | s, _, _ => s

/-- A setting made a table: itself if it is one, else an empty table. -/
def asTable (s : Setting) : Setting := if s.isTable then s else empty

mutual

/-- A value read from a source, every part marked with the source. An integer beyond
the signed 64-bit range becomes the nearest double. -/
def ofValue (o : Origin) : Value → Setting
  | .list items => .list o (ofValues o items)
  | .table entries => .table o (ofEntries o entries)
  | .int i =>
    if Number.isInt64 i then .scalar o (.int i)
    else .scalar o (.float (Double.ofRatio (i < 0) i.natAbs 1))
  | v => .scalar o v

/-- The items of a list read from a source. -/
def ofValues (o : Origin) : List Value → List Setting
  | [] => []
  | v :: rest => ofValue o v :: ofValues o rest

/-- The entries of a table read from a source. -/
def ofEntries (o : Origin) : List (String × Value) → List (String × Setting)
  | [] => []
  | (k, v) :: rest => (k, ofValue o v) :: ofEntries o rest

end

mutual

/-- Lays a setting over the entry of a table under a key: a table merges entry by
entry into the entry, which becomes a table if it was not one; anything else replaces
the entry. -/
def put (root : Setting) (key : String) : Setting → Setting
  | .table _ incoming =>
    let root := root.asTable
    root.insert key (putAll ((root.entry? key).getD empty) incoming)
  | v => root.asTable.insert key v

/-- Lays entries one by one over a table. With no entries the target stays as it is. -/
def putAll (target : Setting) : List (String × Setting) → Setting
  | [] => target
  | (k, v) :: rest => putAll (put target.asTable k v) rest

end

/-- Lays a setting at a path of names: the last name is set in the table reached
through the others, each of which becomes a table if it is not one. -/
def putPath (root : Setting) : List String → Setting → Setting
  | [], _ => root
  | [key], v => root.put key v
  | key :: rest, v =>
    let child := ((root.entry? key).getD (.scalar none .null)).asTable
    root.insert key (child.putPath rest v)

end Setting

/-- Whether a character may stand in a name of a path. -/
def isPathChar (c : Char) : Bool := c.isAlphanum || c == '_' || c == '-'

/-- The names of a key read as a path, or the key alone when it is not one. -/
def pathOf (key : String) : List String :=
  let parts := key.splitOn "."
  if parts.all fun p => !p.isEmpty && p.all isPathChar then parts else [key]

/-- Lays a source's entries over the settings, each key read as a path. -/
def Setting.layer (root : Setting) (entries : List (String × Setting)) : Setting :=
  entries.foldl (fun acc (k, v) => acc.putPath (pathOf k) v) root

/-- The origin of settings taken from the environment. -/
def environmentOrigin : String := "the environment"

/-- The value of an environment variable: a boolean, a signed 64-bit integer or a float
when its text reads as one, else the text. -/
def environmentValue (text : String) : Value :=
  let lower := text.toLower
  if lower == "true" then .bool true
  else if lower == "false" then .bool false
  else match Number.int64? text with
    | some i => .int i
    | none => (Number.float? text).getD (.str text)

/-- The entries the environment gives under a prefix: each variable whose lowercased
name starts with the lowercased prefix, keyed by the rest of that name with each `__`
read as a dot. Of two variables with the same key the later one counts. -/
def environmentEntries (pre : String) (vars : List (String × String)) :
    List (String × Setting) :=
  let pattern := pre.toLower
  vars.foldl (fun acc (name, text) =>
    let lower := name.toLower
    if lower.startsWith pattern then
      let key := ((lower.drop pattern.length).toString).replace "__" "."
      let v := Setting.scalar (some environmentOrigin) (environmentValue text)
      if acc.any (·.1 == key) then acc.map fun (k, x) => if k == key then (k, v) else (k, x)
      else acc ++ [(key, v)]
    else acc) []

/-- Why a setting cannot be used. -/
inductive Problem where
  /-- A value of the wrong kind: what was found, what was expected, the key that leads
  to it, and where it came from. -/
  | invalidType (origin : Origin) (unexpected expected : String) (key : Option String)
  /-- A message of the reader of a type. -/
  | message (text : String)
  deriving Repr, Inhabited

namespace Problem

/-- Puts a segment in front of the key of a wrong-kind problem, with a dot before a
key that does not start with an index. -/
def prepend (segment : String) (dot : Bool) : Problem → Problem
  | .invalidType o u e key =>
    let rest := key.getD ""
    let sep := if dot && !rest.isEmpty && !rest.startsWith "[" then "." else ""
    .invalidType o u e (some (segment ++ sep ++ rest))
  | p => p

/-- The problem seen from the table entry that holds the value. -/
def underKey (key : String) (p : Problem) : Problem := p.prepend key true

/-- The problem seen from the list item that holds the value. -/
def underIndex (i : Nat) (p : Problem) : Problem := p.prepend ("[" ++ natDigits i ++ "]") false

/-- The text of a problem. -/
def text : Problem → String
  | .invalidType o u e key =>
    "invalid type: " ++ u ++ ", expected " ++ e ++
      (match key with | some k => " for key \x60" ++ k ++ "\x60" | none => "") ++
      (match o with | some src => " in " ++ src | none => "")
  | .message t => t

end Problem

namespace Setting

/-- What a setting is, as a wrong-kind problem names it. -/
def unexpected : Setting → String
  | .scalar _ .null => "unit value"
  | .scalar _ (.bool b) => "boolean \x60" ++ toString b ++ "\x60"
  | .scalar _ (.int i) => "64-bit integer \x60" ++ intText i ++ "\x60"
  | .scalar _ (.str s) => "string " ++ Text.quote s
  | .scalar _ (.float d) => "floating point \x60" ++ Double.Layout.plain.text d ++ "\x60"
  | .list _ _ | .scalar _ (.list _) => "sequence"
  | .table _ _ | .scalar _ (.table _) => "map"

/-- What a setting is, as the reader of a type names it. -/
def found : Setting → String
  | .scalar _ .null => "unit value"
  | .scalar _ (.bool b) => "boolean \x60" ++ toString b ++ "\x60"
  | .scalar _ (.int i) => "integer \x60" ++ intText i ++ "\x60"
  | .scalar _ (.str s) => "string " ++ Text.quote s
  | .scalar _ (.float d) => "floating point \x60" ++ Double.Layout.pointed.text d ++ "\x60"
  | .list _ _ | .scalar _ (.list _) => "sequence"
  | .table _ _ | .scalar _ (.table _) => "map"

/-- The reader's message for a setting of the wrong kind. -/
def mismatch (s : Setting) (expected : String) : Problem :=
  .message ("invalid type: " ++ s.found ++ ", expected " ++ expected)

/-- A setting read as an unsigned 64-bit count. Text reads as one of the words for
true or false, or as decimal digits; a float is rounded. -/
def count (s : Setting) : Except Problem Nat :=
  match s with
  | .scalar o (.int i) =>
    if i ≥ 0 then .ok i.toNat
    else .error (.invalidType o s.unexpected "an unsigned 64 bit or less integer" none)
  | .scalar o (.str t) =>
    let lower := t.toLower
    if lower == "true" || lower == "on" || lower == "yes" then .ok 1
    else if lower == "false" || lower == "off" || lower == "no" then .ok 0
    else match Number.uint64? t with
      | some n => .ok n
      | none => .error (.invalidType o s.unexpected "an integer" none)
  | .scalar _ (.bool b) => .ok (if b then 1 else 0)
  | .scalar o .null => .error (.invalidType o s.unexpected "an integer" none)
  | .scalar _ (.float d) => .ok (Number.countOf d)
  | .list o _ | .scalar o (.list _) => .error (.invalidType o s.unexpected "an integer" none)
  | .table o _ | .scalar o (.table _) => .error (.invalidType o s.unexpected "an integer" none)

/-- A setting read as text: a scalar's own text. -/
def text (s : Setting) : Except Problem String :=
  match s with
  | .scalar _ (.str t) => .ok t
  | .scalar _ (.bool b) => .ok (toString b)
  | .scalar _ (.int i) => .ok (intText i)
  | .scalar o .null => .error (.invalidType o s.unexpected "a string" none)
  | .scalar _ (.float d) => .ok (Double.Layout.plain.text d)
  | .list o _ | .scalar o (.list _) => .error (.invalidType o s.unexpected "a string" none)
  | .table o _ | .scalar o (.table _) => .error (.invalidType o s.unexpected "a string" none)

/-- A setting that may be absent: null reads as nothing. -/
def optional (read : Setting → Except Problem α) : Setting → Except Problem (Option α)
  | .scalar _ .null => .ok none
  | s => some <$> read s

/-- A list read item by item; a problem with an item names its index. -/
def items (read : Setting → Except Problem α) (s : Setting) : Except Problem (List α) :=
  match s with
  | .list _ xs =>
    (xs.zip (List.range xs.length)).mapM fun (x, i) => (read x).mapError (Problem.underIndex i)
  | _ => .error (s.mismatch "a sequence")

end Setting

end Confine.Settings
