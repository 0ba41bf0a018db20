/-!
# Reading options one at a time

`getopts` reads the next option letter from a list of arguments and says where it
stopped: the number of the next argument, counted from one, and the place inside the
argument when a cluster such as `-ab` is only partly read. Options end at the first
argument that is not a `-` followed by something, or after `--`.

The letters it knows are given in a spec such as `ab:`, where a colon after a letter
means the letter takes an argument: the rest of its cluster, or else the next
argument. A spec that starts with a colon asks for silence: an unknown letter or a
missing argument is then reported only through the letter and the argument, not by a
message.
-/

namespace Confine.Shell.Getopts

/-- What one call finds. -/
structure Step where
  /-- The letter read: the option, `?` for an unknown one or for the end, `:` for a
  missing argument when silent. -/
  letter : Char
  /-- The new value of the argument variable: a text, unset, or left alone. -/
  optarg : Option (Option String)
  /-- A message for the error stream. -/
  message : Option String
  /-- The number of the next argument, from one. -/
  next : Nat
  /-- Where reading stopped inside the argument before `next`, if inside one. -/
  offset : Option Nat
  /-- Whether the options have ended. -/
  done : Bool
  deriving Repr

/-- Whether a letter is in the spec, and if so whether it takes an argument. Letters
are read from the front, each possibly followed by one colon, so a colon after a
colon is read as a letter. -/
def lookup (c : Char) : List Char → Option Bool
  | [] => none
  | [x] => if x = c then some false else none
  | x :: y :: rest =>
    if x = c then some (y = ':')
    else if y = ':' then lookup c rest else lookup c (y :: rest)

/-- The next option of `args`, after reading up to argument `ind` (from one) and,
within the argument before it, to `off`. -/
def step (spec : List Char) (args : List (List Char)) (ind : Nat) (off : Option Nat) : Step :=
  let silent := spec.head? == some ':'
  let ending (next : Nat) : Step :=
    { letter := '?', optarg := none, message := none, next := next + 1, offset := none, done := true }
  -- the argument being read, as its index, and the letters left in it
  let inside : Option (Nat × List Char) :=
    match off with
    | some o =>
      if ind ≤ 1 then none
      else
        let word := (args[ind - 2]?).getD []
        if word.length < o || word.length = o then none else some (ind - 2, word.drop o)
    | none => none
  let start : Option (Nat × List Char × Nat) :=
    match inside with
    | some (w, rest) => some (w, rest, ind - 1)
    | none =>
      match args[ind - 1]? with
      | some ('-' :: c :: more) =>
        if c = '-' && more.isEmpty then none else some (ind - 1, c :: more, ind)
      | _ => none
  match start with
  | none =>
    -- `--` is passed over
    let passed := match inside, args[ind - 1]? with
      | none, some ['-', '-'] => ind
      | _, _ => ind - 1
    ending passed
  | some (w, letters, next) =>
    let word := (args[w]?).getD []
    match letters with
    | [] => ending next
    | c :: after =>
      let offsetAfter := word.length - after.length
      match lookup c spec with
      | none =>
        if silent then
          { letter := '?', optarg := some (some (String.singleton c)), message := none,
            next := next + 1, offset := some offsetAfter, done := false }
        else
          { letter := '?', optarg := some none, message := some ("Illegal option -" ++ String.singleton c),
            next := next + 1, offset := some offsetAfter, done := false }
      | some false =>
        { letter := c, optarg := some (some ""), message := none, next := next + 1,
          offset := some offsetAfter, done := false }
      | some true =>
        if !after.isEmpty then
          { letter := c, optarg := some (some (String.ofList after)), message := none,
            next := next + 1, offset := none, done := false }
        else
          match args[next]? with
          | some value =>
            { letter := c, optarg := some (some (String.ofList value)), message := none,
              next := next + 2, offset := none, done := false }
          | none =>
            if silent then
              { letter := ':', optarg := some (some (String.singleton c)), message := none,
                next := next + 1, offset := none, done := false }
            else
              { letter := '?', optarg := some none,
                message := some ("No arg for -" ++ String.singleton c ++ " option"),
                next := next + 1, offset := none, done := false }

end Confine.Shell.Getopts
