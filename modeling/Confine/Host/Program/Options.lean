/-!
# Command-line options

The utilities read their options the GNU way. A short option is a letter after `-`;
several may share one `-`, and one that takes a value takes the rest of its word, or
else the next word. A long option is a name after `--`, which may be shortened to any
prefix that no other name shares; its value follows `=` or, when it requires one,
comes in the next word. `--` ends the options and `-` alone is an operand. Options
and operands may be mixed, unless the options stop at the first operand, as they do
for a program that takes a command.

The options come out in order as pairs of a key and a value; a short option's key is
its letter, a long option's key is what the table gives for it. A long option whose
key is `help` or `version` ends the reading where it stands, since the program answers
it and exits.
-/

namespace Confine.Host.Program

/-- Whether an option takes a value. -/
inductive Takes where
  | nothing
  | value
  | maybe
  deriving BEq

/-- A long option: its name, whether it takes a value, and the key it stands for. -/
structure LongOption where
  name : String
  takes : Takes
  key : String

/-- The options a program knows: its letters with what they take, and its long
options. -/
structure OptionTable where
  short : List (Char × Takes)
  long : List LongOption := []
  /-- Whether the options end at the first operand. -/
  inOrder : Bool := false
  /-- Whether a word that starts as a negative number (a minus, then a digit or a
  point) ends the options. -/
  numbersFirst : Bool := false

/-- Why the options could not be read. -/
inductive OptionError where
  | invalid (c : Char)
  | unrecognized (word : String)
  | needsValue (c : Char)
  | longNeedsValue (name : String)
  | longTakesNothing (name : String)
  | ambiguous (word : String) (names : List String)

/-- The message of an option error, after the program's name. -/
def OptionError.message : OptionError → String
  | .invalid c => "invalid option -- '" ++ String.singleton c ++ "'"
  | .unrecognized w => "unrecognized option '" ++ w ++ "'"
  | .needsValue c => "option requires an argument -- '" ++ String.singleton c ++ "'"
  | .longNeedsValue n => "option '--" ++ n ++ "' requires an argument"
  | .longTakesNothing n => "option '--" ++ n ++ "' doesn't allow an argument"
  | .ambiguous w ns =>
    "option '" ++ w ++ "' is ambiguous; possibilities:" ++ String.join (ns.map fun n => " '--" ++ n ++ "'")

/-- The options read: keys with their values, in order, and the operands. -/
structure ReadOptions where
  options : List (String × Option String)
  operands : List String

namespace OptionTable

/-- The long option a word names: the one of exactly that name, else the first the
word is a prefix of, provided every other such option means the same (has its key and
takes the same). The ambiguity lists the first and every other that means something
else, in the table's order. -/
def findLong (t : OptionTable) (word name : String) : Except OptionError LongOption :=
  match t.long.find? (·.name == name) with
  | some o => .ok o
  | none =>
    match t.long.filter (·.name.startsWith name) with
    | [] => .error (.unrecognized word)
    | o :: more =>
      let others := more.filter fun m => m.key != o.key || m.takes != o.takes
      if others.isEmpty then .ok o
      else .error (.ambiguous word (o.name :: others.map (·.name)))

/-- Reads the letters of one word of short options; the rest of the words follow. -/
def shortWord (t : OptionTable) : List Char → List String → List (String × Option String) →
    Except OptionError (List (String × Option String) × List String)
  | [], rest, acc => .ok (acc, rest)
  | c :: more, rest, acc =>
    match t.short.lookup c with
    | none => .error (.invalid c)
    | some .nothing => shortWord t more rest (acc ++ [(String.singleton c, none)])
    | some .maybe =>
      .ok (acc ++ [(String.singleton c, if more.isEmpty then none else some (String.ofList more))], rest)
    | some .value =>
      if !more.isEmpty then .ok (acc ++ [(String.singleton c, some (String.ofList more))], rest)
      else match rest with
        | v :: after => .ok (acc ++ [(String.singleton c, some v)], after)
        | [] => .error (.needsValue c)

/-- Reads the options and operands of a list of words. -/
def read (t : OptionTable) (words : List String) : Except OptionError ReadOptions :=
  go (words.length + 1) words [] []
where
  go : Nat → List String → List (String × Option String) → List String → Except OptionError ReadOptions
  | 0, rest, opts, ops => .ok ⟨opts, ops ++ rest⟩
  | _, [], opts, ops => .ok ⟨opts, ops⟩
  | fuel + 1, w :: rest, opts, ops =>
    match w.toList with
    | ['-', '-'] => .ok ⟨opts, ops ++ rest⟩
    | '-' :: '-' :: body =>
      let (name, value) := match body.splitOn '=' with
        | [n] => (String.ofList n, none)
        | n :: vs => (String.ofList n, some ("=".intercalate (vs.map String.ofList)))
        | [] => ("", none)
      match t.findLong w name with
      | .error e => .error e
      | .ok o =>
        match o.takes, value with
        | .nothing, some _ => .error (.longTakesNothing o.name)
        | .nothing, none =>
          -- asking for help or the version ends the reading at once
          if o.key == "help" || o.key == "version" then .ok ⟨opts ++ [(o.key, none)], ops⟩
          else go fuel rest (opts ++ [(o.key, none)]) ops
        | .maybe, v => go fuel rest (opts ++ [(o.key, v)]) ops
        | .value, some v => go fuel rest (opts ++ [(o.key, some v)]) ops
        | .value, none =>
          match rest with
          | v :: after => go fuel after (opts ++ [(o.key, some v)]) ops
          | [] => .error (.longNeedsValue o.name)
    | '-' :: c :: more =>
      if t.numbersFirst && (c.isDigit || c == '.') then .ok ⟨opts, ops ++ w :: rest⟩ else
      match t.shortWord (c :: more) rest [] with
      | .error e => .error e
      | .ok (got, after) => go fuel after (opts ++ got) ops
    | _ =>
      if t.inOrder then .ok ⟨opts, ops ++ w :: rest⟩
      else go fuel rest opts (ops ++ [w])

end OptionTable

/-- The value of the last option of a key, if one was given. -/
def ReadOptions.last? (r : ReadOptions) (key : String) : Option (Option String) :=
  (r.options.filter (·.1 == key)).getLast?.map (·.2)

/-- Whether an option of a key was given. -/
def ReadOptions.has (r : ReadOptions) (key : String) : Bool := r.options.any (·.1 == key)

/-- The choice an option's argument names: the choice of exactly that name, else the
only one it is a prefix of, or several of one meaning. Otherwise the message says the
argument is invalid or ambiguous and lists the valid choices, those of one meaning on
one line. -/
def matchChoice {α : Type} [BEq α] (option : String) (choices : List (String × α)) (arg : String) :
    Except String α :=
  match choices.find? (·.1 == arg) with
  | some (_, v) => .ok v
  | none =>
    let fits := choices.filter (·.1.startsWith arg)
    match fits with
    | (_, v) :: more =>
      if more.all (·.2 == v) then .ok v else .error (refusal "ambiguous")
    | [] => .error (refusal "invalid")
where
  refusal (kind : String) : String :=
    let quoted (x : String) := "'" ++ x ++ "'"
    let lines := choices.foldl (fun (acc : List (List String × α)) (name, v) =>
      match acc.getLast? with
      | some (names, w) => if w == v then acc.dropLast ++ [(names ++ [name], w)] else acc ++ [([name], v)]
      | none => [([name], v)]) []
    kind ++ " argument " ++ quoted arg ++ " for " ++ quoted ("--" ++ option) ++
      "\nValid arguments are:" ++
      String.join (lines.map fun (names, _) => "\n  - " ++ ", ".intercalate (names.map quoted))

/-- The long options every program knows, last in its table. -/
def standardLong : List LongOption :=
  [⟨"help", .nothing, "help"⟩, ⟨"version", .nothing, "version"⟩]

end Confine.Host.Program
