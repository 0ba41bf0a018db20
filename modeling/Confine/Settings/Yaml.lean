import Confine.Settings.Yaml.Node
import Confine.Settings.Number

/-!
# YAML settings

A YAML text gives settings when it holds at most one document: none gives an empty
table, and more are refused. The document's nodes become values: strings, integers
and booleans as they are, reals read as doubles, sequences as lists and mappings as
tables, and everything else, null, bad values, as null. A real whose text is one of
YAML's own spellings of infinity or not-a-number, such as `.inf`, does not read as a
double and is refused.

A table needs names for its entries: a string key is the name, an integer key its
decimal text. Any other key, a boolean, a real, null or a collection, makes reading
crash.
-/

namespace Confine.Settings.Yaml

/-- Why a YAML text gives no settings: a message, or a crash on a key that cannot name
an entry. -/
inductive Refusal where
  | problem (message : String)
  | crash
  deriving Repr, Inhabited, DecidableEq

mutual

/-- The value of a node. -/
def Node.toValue : Node → Except Refusal Value
  | .string s => .ok (.str s)
  | .real s =>
    match Number.float? s with
    | some v => .ok v
    | none => .error (.problem ("Parsing " ++ s ++ " as floating point number failed"))
  | .integer i => .ok (.int i)
  | .boolean b => .ok (.bool b)
  | .array items => .list <$> Node.toValues items
  | .hash entries => .table <$> Node.toEntries entries
  | .null => .ok .null
  | .badValue => .ok .null

/-- The values of a sequence's nodes. -/
def Node.toValues : List Node → Except Refusal (List Value)
  | [] => .ok []
  | n :: rest => do
    let v ← n.toValue
    return v :: (← Node.toValues rest)

/-- The entries of a mapping, in order; a later entry of the same name replaces an
earlier one in its place. -/
def Node.toEntries : List (Node × Node) → Except Refusal (List (String × Value))
  | [] => .ok []
  | (k, v) :: rest => do
    let name ← match k with
      | .string s => pure s
      | .integer i => pure (toString i)
      | _ => throw .crash
    let x ← v.toValue
    let later ← Node.toEntries rest
    return if later.any (·.1 == name) then later else (name, x) :: later

end

/-- The settings of a YAML text. -/
def parse (text : String) : Except Refusal Value :=
  match loadAll text with
  | .error p => .error (.problem p.render)
  | .ok [] => .ok (.table [])
  | .ok [d] => d.toValue
  | .ok docs => .error (.problem ("Got " ++ toString docs.length ++ " YAML documents, expected 1"))

end Confine.Settings.Yaml
