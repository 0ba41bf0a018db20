import Confine.Settings.Yaml.Event
import Confine.Text.Quote

/-!
# YAML nodes

The last stage of reading YAML builds each document's tree of nodes from the events.
A plain scalar is typed by its text: `~` and `null` are null, `true` and `false` are
booleans, whole numbers in 64 bits, also after `0x`, `0o` or `+`, are integers, and
texts that read as a float, or `.inf` and `.nan` in their spellings, are reals, kept
as text; anything else is a string. A tag from the YAML tags asks for a type instead,
and a scalar that does not fit it is a bad value. Quoted and block scalars are always
strings.

An alias stands for a copy of the node its anchor was on, once that node is complete.
A key met twice in one mapping is refused at the place of its second value. A stream
may hold several documents; an empty document is a bad value.
-/

namespace Confine.Settings.Yaml

/-- A YAML node. A mapping keeps its entries in order. -/
inductive Node where
  | real (text : String)
  | integer (i : Int)
  | string (s : String)
  | boolean (b : Bool)
  | array (items : List Node)
  | hash (entries : List (Node × Node))
  | null
  | badValue
  deriving Repr, Inhabited

namespace Node

mutual

/-- Whether two nodes are the same, entries compared in order. -/
def same : Node → Node → Bool
  | .real a, .real b => a == b
  | .integer a, .integer b => a == b
  | .string a, .string b => a == b
  | .boolean a, .boolean b => a == b
  | .array a, .array b => sameItems a b
  | .hash a, .hash b => sameEntries a b
  | .null, .null => true
  | .badValue, .badValue => true
  | _, _ => false

def sameItems : List Node → List Node → Bool
  | [], [] => true
  | a :: as, b :: bs => same a b && sameItems as bs
  | _, _ => false

def sameEntries : List (Node × Node) → List (Node × Node) → Bool
  | [], [] => true
  | (k, v) :: as, (k', v') :: bs => same k k' && same v v' && sameEntries as bs
  | _, _ => false

end

mutual

/-- The debugging text of a node, as the duplicate-key message shows it. -/
def debug : Node → String
  | .real s => "Real(" ++ Text.quote s ++ ")"
  | .integer i => "Integer(" ++ toString i ++ ")"
  | .string s => "String(" ++ Text.quote s ++ ")"
  | .boolean b => "Boolean(" ++ toString b ++ ")"
  | .array items => "Array([" ++ debugItems items ++ "])"
  | .hash entries => "Hash(\x7b" ++ debugEntries entries ++ "\x7d)"
  | .null => "Null"
  | .badValue => "BadValue"

def debugItems : List Node → String
  | [] => ""
  | [a] => debug a
  | a :: rest => debug a ++ ", " ++ debugItems rest

def debugEntries : List (Node × Node) → String
  | [] => ""
  | [(k, v)] => debug k ++ ": " ++ debug v
  | (k, v) :: rest => debug k ++ ": " ++ debug v ++ ", " ++ debugEntries rest

end

end Node

/-- A decimal number as a float's text reads: a sign, digits with at most one point
and at least one digit, and an exponent; or an infinity or not-a-number in any case. -/
def isFloatText (s : String) : Bool :=
  let cs := match s.toList with
    | '+' :: r => r
    | '-' :: r => r
    | r => r
  let word := (String.ofList cs).toLower
  if word = "inf" || word = "infinity" || word = "nan" then true
  else
    let whole := cs.takeWhile Char.isDigit
    let cs := cs.drop whole.length
    let (frac, cs) := match cs with
      | '.' :: r => let f := r.takeWhile Char.isDigit; (f, r.drop f.length)
      | r => ([], r)
    let expOk := match cs with
      | [] => true
      | e :: r =>
        if e = 'e' || e = 'E' then
          let r := match r with
            | '+' :: t => t
            | '-' :: t => t
            | t => t
          !r.isEmpty && r.all Char.isDigit
        else false
    !(whole.isEmpty && frac.isEmpty) && expOk

/-- A whole number in a radix with an optional sign, within 64 bits. -/
def radixValue (s : String) (radix : Nat) : Option Int :=
  let (negative, cs) := match s.toList with
    | '+' :: r => (false, r)
    | '-' :: r => (true, r)
    | r => (false, r)
  let digit (c : Char) : Option Nat :=
    let v := if c.isDigit then c.toNat - '0'.toNat
      else if 'a' ≤ c && c ≤ 'z' then c.toNat - 'a'.toNat + 10
      else if 'A' ≤ c && c ≤ 'Z' then c.toNat - 'A'.toNat + 10
      else radix
    if v < radix then some v else none
  if cs.isEmpty then none
  else
    match cs.mapM digit with
    | none => none
    | some ds =>
      let n := ds.foldl (fun acc d => acc * radix + d) 0
      let v : Int := if negative then -(n : Int) else n
      if -(Nat.pow 2 63 : Int) ≤ v && v < (Nat.pow 2 63 : Int) then some v else none

/-- Whether a real's text is one of the spellings of infinity or not-a-number. -/
def isSpecialReal (s : String) : Bool :=
  [".inf", ".Inf", ".INF", "+.inf", "+.Inf", "+.INF", "-.inf", "-.Inf", "-.INF", ".nan", "NaN", ".NAN"].contains s

/-- A plain scalar typed by its text. -/
def Node.ofPlain (v : String) : Node :=
  let prefixed : Option Int :=
    if v.startsWith "0x" then radixValue (v.drop 2).toString 16
    else if v.startsWith "0o" then radixValue (v.drop 2).toString 8
    else if v.startsWith "+" then radixValue (v.drop 1).toString 10
    else none
  match prefixed with
  | some i => .integer i
  | none =>
    if v = "~" || v = "null" then .null
    else if v = "true" then .boolean true
    else if v = "false" then .boolean false
    else match radixValue v 10 with
      | some i => .integer i
      | none => if isSpecialReal v || isFloatText v then .real v else .string v

/-- A scalar event's node: its style, then its tag, then its text decide. -/
def Node.ofScalar (v : String) (style : Style) (tag : Option Tag) : Node :=
  if style != .plain then .string v
  else match tag with
    | some t =>
      if t.handle = "tag:yaml.org,2002:" then
        match t.suffix with
        | "bool" => if v = "true" then .boolean true else if v = "false" then .boolean false else .badValue
        | "int" => match radixValue v 10 with
          | some i => .integer i
          | none => .badValue
        | "float" => if isSpecialReal v || isFloatText v then .real v else .badValue
        | "null" => if v = "~" || v = "null" then .null else .badValue
        | _ => .string v
      else .string v
    | none => .ofPlain v

/-- The loader's state: the documents done, the collections open with their anchors,
the pending key of each open mapping, the anchored nodes, and the first problem. -/
structure Loader where
  docs : List Node := []
  stack : List (Node × Nat) := []
  keys : List Node := []
  anchored : List (Nat × Node) := []
  problem : Option Problem := none
  deriving Inhabited

namespace Loader

/-- Adds a finished node to the collection open on top, or makes it the document. In a
mapping a node is a key when no key is pending, else the value of the pending key. -/
def insert (l : Loader) (node : Node) (anchor : Nat) (mark : Mark) : Loader :=
  let l := if anchor > 0 then { l with anchored := (anchor, node) :: l.anchored } else l
  match l.stack with
  | [] => { l with stack := [(node, anchor)] }
  | (.array items, a) :: rest => { l with stack := (.array (items ++ [node]), a) :: rest }
  | (.hash entries, a) :: rest =>
    match l.keys with
    | .badValue :: ks => { l with keys := node :: ks }
    | key :: ks =>
      if entries.any (fun (k, _) => k.same key) then
        { l with problem := some ⟨mark, key.debug ++ ": duplicated key in mapping"⟩ }
      else { l with stack := (.hash (entries ++ [(key, node)]), a) :: rest, keys := .badValue :: ks }
    | [] => l
  | _ => l

/-- Takes one event. After a problem, events are ignored. -/
def step (l : Loader) (ev : Event) (mark : Mark) : Loader :=
  if l.problem.isSome then l
  else match ev with
    | .documentEnd =>
      match l.stack with
      | [] => { l with docs := l.docs ++ [.badValue] }
      | (n, _) :: _ => { l with docs := l.docs ++ [n], stack := [] }
    | .sequenceStart a _ => { l with stack := (.array [], a) :: l.stack }
    | .mappingStart a _ => { l with stack := (.hash [], a) :: l.stack, keys := .badValue :: l.keys }
    | .sequenceEnd =>
      match l.stack with
      | (n, a) :: rest => { l with stack := rest }.insert n a mark
      | [] => l
    | .mappingEnd =>
      match l.stack with
      | (n, a) :: rest => { l with stack := rest, keys := l.keys.drop 1 }.insert n a mark
      | [] => l
    | .scalar v style a tag => l.insert (Node.ofScalar v style tag) a mark
    | .alias id => l.insert ((l.anchored.lookup id).getD .badValue) 0 mark
    | _ => l

end Loader

/-- Reads every document of a text. A problem found while reading the text wins over
one found while building nodes. -/
def loadAll (text : String) : Except Problem (List Node) :=
  let rec go : Nat → Loader → ParseM Loader
    | 0, l => pure l
    | fuel + 1, l => do
      let (ev, mark) ← Parser.next
      match ev with
      | .streamEnd => pure l
      | .documentStart =>
        modify fun p => { p with anchors := [] }
        go fuel (l.step ev mark)
      | _ => go fuel (l.step ev mark)
  match (go (8 * text.length + 16) {}).run' { scanner := Scanner.ofText text } with
  | .error e => .error e
  | .ok l =>
    match l.problem with
    | some p => .error p
    | none => .ok l.docs

end Confine.Settings.Yaml
