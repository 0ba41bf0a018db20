import Confine.Text.Blank

/-!
# The command line

The program takes a global flag `--log-json` and one of two commands: `exec` runs a
command to its end, `shell` relays a terminal session. A third command, `help`, prints
the help of the program or of a command. Without a command the program prints its help.

Arguments are read left to right. A long option is `--name` or `--name=value`; an
option that takes a value and has none attached takes the next argument, unless that
argument looks like an option itself. `--` makes every later argument a value. A value
is checked when the next argument is read or the line ends, so an unknown option
found first is what gets reported. A count is an unsigned 64-bit decimal.

A refused line is described the way the parser's users know it: the complaint, tips
such as a similar name or how to pass a value that starts with a dash, a usage line,
and where to find more help. Help and the version go to the standard output and end
the program successfully; a refusal goes to the standard error with exit code 2.
-/

namespace Confine.Cli

/-- An option of a command: a flag, or an option with a value that is text or a count. -/
structure OptionSpec where
  long : String
  short : Option Char := none
  valueName : Option String := none
  numeric : Bool := false
  help : String
  /-- Where the option stands in help, before its name decides. -/
  rank : Nat
  deriving Repr

/-- The value a command takes after its options. -/
structure ArgumentSpec where
  name : String
  required : Bool
  repeated : Bool := false
  help : String
  deriving Repr

/-- What the parser knows of a command. -/
structure Spec where
  /-- The command as typed, from the program's name. -/
  path : String
  about : String
  argument : Option ArgumentSpec
  options : List OptionSpec
  commands : List (String × String)
  deriving Repr

/-- The program's name. -/
def programName : String := "sandshell"

/-- The program's version. -/
def version : String := "0.1.4"

/-- The options every command has. -/
def helpOption : OptionSpec := { long := "help", short := some 'h', help := "Print help", rank := 999 }

def logJsonOption : OptionSpec := { long := "log-json", help := "Emit logs as JSON lines", rank := 0 }

def cwdOption : OptionSpec :=
  { long := "cwd", valueName := some "CWD", help := "Working directory, relative to the workspace root",
    rank := 0 }

/-- The program itself. -/
def rootSpec : Spec :=
  { path := programName
    about := "Confined shell execution and interactive sessions"
    argument := none
    options := [logJsonOption, helpOption,
      { long := "version", short := some 'V', help := "Print version", rank := 1000 }]
    commands := [("exec", "Run a command and report its output and exit code"),
      ("shell", "Open an interactive shell session"),
      ("help", "Print this message or the help of the given subcommand(s)")] }

/-- The `exec` command. -/
def execSpec : Spec :=
  { path := programName ++ " exec"
    about := "Run a command and report its output and exit code"
    argument := some
      { name := "COMMAND", required := true, help := "Command text, interpreted by the configured shell" }
    options := [cwdOption, logJsonOption,
      { long := "timeout-secs", valueName := some "TIMEOUT_SECS", numeric := true,
        help := "Deadline in seconds (clamped to the configured maximum)", rank := 1 },
      { long := "pty", help := "Run on a pseudo-terminal instead of pipes", rank := 2 },
      { long := "json", help := "Print the whole result as JSON", rank := 3 },
      helpOption]
    commands := [] }

/-- The `shell` command. -/
def shellSpec : Spec :=
  { path := programName ++ " shell"
    about := "Open an interactive shell session"
    argument := some
      { name := "COMMAND", required := false
        help := "Command to run; the configured shell itself when omitted" }
    options := [cwdOption, logJsonOption,
      { long := "idle-timeout-secs", valueName := some "IDLE_TIMEOUT_SECS", numeric := true,
        help := "Idle window in seconds before the session is evicted", rank := 1 },
      helpOption]
    commands := [] }

/-- The `help` command. -/
def helpSpec : Spec :=
  { path := programName ++ " help"
    about := "Print this message or the help of the given subcommand(s)"
    argument := some
      { name := "COMMAND", required := false, repeated := true
        help := "Print help for the subcommand(s)" }
    options := []
    commands := [] }

/-- The spec of a command by name. -/
def commandSpec? (name : String) : Option Spec :=
  match name with
  | "exec" => some execSpec
  | "shell" => some shellSpec
  | "help" => some helpSpec
  | _ => none

/-! ## Help -/

/-- Text padded with spaces to a width. -/
def padRight (s : String) (width : Nat) : String :=
  s ++ String.ofList (List.replicate (width - s.length) ' ')

/-- An option as help and messages show it: `--name` or `--name <VALUE>`. -/
def OptionSpec.display (o : OptionSpec) : String :=
  match o.valueName with
  | some v => "--" ++ o.long ++ " <" ++ v ++ ">"
  | none => "--" ++ o.long

/-- The left column of an option in help. -/
def OptionSpec.column (o : OptionSpec) : String :=
  match o.short with
  | some c => "-" ++ String.singleton c ++ ", " ++ o.display
  | none => "    " ++ o.display

/-- The argument as help shows it. -/
def ArgumentSpec.display (a : ArgumentSpec) : String :=
  (if a.required then "<" ++ a.name ++ ">" else "[" ++ a.name ++ "]") ++
    (if a.repeated then "..." else "")

/-- Rows of a help section, the left column padded to the widest. -/
def helpSection (title : String) (rows : List (String × String)) : String :=
  let width := rows.foldl (fun w (l, _) => max w l.length) 0
  title ++ ":\n" ++ String.join (rows.map fun (l, r) => "  " ++ padRight l width ++ "  " ++ r ++ "\n")

/-- The options in the order help shows them. -/
def Spec.ordered (s : Spec) : List OptionSpec :=
  s.options.mergeSort fun a b => a.rank < b.rank || (a.rank == b.rank && decide (a.long ≤ b.long))

/-- The usage line of a command with nothing typed yet. -/
def Spec.usage (s : Spec) : String :=
  s.path ++ (if s.options.isEmpty then "" else " [OPTIONS]") ++
    (match s.argument with | some a => " " ++ a.display | none => "") ++
    (if s.commands.isEmpty then "" else " [COMMAND]")

/-- The help of a command. -/
def Spec.helpText (s : Spec) : String :=
  let args := match s.argument with
    | some a => "\n" ++ helpSection "Arguments" [(a.display, a.help)]
    | none => ""
  let cmds := if s.commands.isEmpty then "" else "\n" ++ helpSection "Commands" s.commands
  let opts := if s.options.isEmpty then "" else
    "\n" ++ helpSection "Options" (s.ordered.map fun o => (o.column, o.help))
  s.about ++ "\n\nUsage: " ++ s.usage ++ "\n" ++ cmds ++ args ++ opts

/-! ## What a line asks for -/

/-- What `exec` was given. -/
structure ExecArgs where
  command : String
  cwd : Option String
  timeoutSecs : Option Nat
  pty : Bool
  json : Bool
  deriving Repr, DecidableEq

/-- What `shell` was given. -/
structure ShellArgs where
  command : Option String
  cwd : Option String
  idleTimeoutSecs : Option Nat
  deriving Repr, DecidableEq

/-- A command to run. -/
inductive Command where
  | exec (a : ExecArgs)
  | shell (a : ShellArgs)
  deriving Repr, DecidableEq

/-- What a command line asks for. -/
inductive Invocation where
  /-- Run a command, or print the help when there is none. -/
  | run (logJson : Bool) (cmd : Option Command)
  /-- Print a text on the standard output and stop. -/
  | show (text : String)
  /-- Print a complaint on the standard error and stop with code 2. -/
  | refuse (text : String)
  deriving Repr, DecidableEq

/-! ## Complaints -/

/-- Why a line is refused. -/
inductive Complaint where
  | repeated (arg : String)
  | emptyValue (arg : String)
  | invalidValue (value arg reason : String)
  | missing (args : List String)
  | unexpected (arg : String)
  | unrecognized (name : String)
  | extraValue (value arg : String)
  deriving Repr, DecidableEq

/-- The complaint's sentence. -/
def Complaint.sentence : Complaint → String
  | .repeated a => s!"the argument '{a}' cannot be used multiple times"
  | .emptyValue a => s!"a value is required for '{a}' but none was supplied"
  | .invalidValue v a r => s!"invalid value '{v}' for '{a}': {r}"
  | .missing args => "the following required arguments were not provided:" ++
      String.join (args.map fun a => "\n  " ++ a)
  | .unexpected a => s!"unexpected argument '{a}' found"
  | .unrecognized n => s!"unrecognized subcommand '{n}'"
  | .extraValue v a => s!"unexpected value '{v}' for '{a}' found; no more were expected"

/-- A refusal: the complaint, the similar names if there are any, with the kind of
thing they name, further tips, and the usage line if one is shown. -/
structure Refusal where
  complaint : Complaint
  similar : Option (String × List String) := none
  tips : List String := []
  usage : Option String := none
  deriving Repr, DecidableEq

/-- The text of a refusal. -/
def Refusal.render (r : Refusal) : String :=
  let quoted := fun (names : List String) => ", ".intercalate (names.map fun n => "'" ++ n ++ "'")
  let similar := match r.similar with
    | some (what, [name]) => s!"\n\n  tip: a similar {what} exists: '{name}'"
    | some (what, names) => s!"\n\n  tip: some similar {what}s exist: " ++ quoted names
    | none => ""
  let tips := match r.similar, r.tips with
    | _, [] => ""
    | some _, ts => String.join (ts.map fun t => "\n  tip: " ++ t)
    | none, ts => "\n" ++ String.join (ts.map fun t => "\n  tip: " ++ t)
  let usage := match r.usage with
    | some u => "\n\nUsage: " ++ u
    | none => ""
  "error: " ++ r.complaint.sentence ++ similar ++ tips ++ usage ++
    "\n\nFor more information, try '--help'.\n"

/-! ## Similar names -/

/-- The similarity of two words by Jaro's measure, from 0 to 1. -/
def jaro (a b : String) : Float :=
  let xs := a.toList.toArray
  let ys := b.toList.toArray
  if xs.size == 0 && ys.size == 0 then 1.0
  else if xs.size == 0 || ys.size == 0 then 0.0
  else
    let window := (max xs.size ys.size) / 2 - 1
    let step := fun (acc : Array Bool × List Char) (i : Nat) =>
      let (taken, matched) := acc
      let lo := i - min i window
      let hi := min (i + window + 1) ys.size
      match (List.range (hi - lo)).find? (fun k => !taken.getD (lo + k) true && ys[lo + k]! == xs[i]!) with
      | some k => (taken.set! (lo + k) true, matched ++ [xs[i]!])
      | none => (taken, matched)
    let (taken, fromA) := (List.range xs.size).foldl step (Array.replicate ys.size false, [])
    let fromB := (List.range ys.size).filterMap fun j => if taken[j]! then some ys[j]! else none
    let m := fromA.length
    if m == 0 then 0.0
    else
      let half := ((fromA.zip fromB).filter fun (p, q) => p != q).length
      let t := (half / 2 : Nat).toFloat
      let mf := m.toFloat
      (mf / xs.size.toFloat + mf / ys.size.toFloat + (mf - t) / mf) / 3.0

/-- The names similar enough to a word (above 0.7), from the least similar to the
most, equally similar names in their order. -/
def similarNames (word : String) (names : List String) : List String :=
  let scored := names.filterMap fun n => let s := jaro word n; if s > 0.7 then some (s, n) else none
  (scored.mergeSort fun a b => a.1 ≤ b.1).map (·.2)

/-- The most similar of some names, if any is similar enough; of equally similar names
the last. -/
def closest (word : String) (names : List String) : Option String :=
  (similarNames word names).getLast?

/-! ## Parsing a command's arguments -/

/-- What has been read of a command's arguments. -/
structure Reading where
  flags : List String := []
  values : List (String × String) := []
  argument : Option String := none
  /-- The options present, in order, as a usage line names them. -/
  used : List String := []
  /-- An option waiting for its value, and the value once read. -/
  pending : Option (OptionSpec × Option String) := none
  afterDashes : Bool := false
  deriving Repr

/-- How reading a command's arguments ends. -/
inductive Outcome where
  | done (r : Reading)
  | help
  | version
  | refused (r : Refusal)
  | subcommand (name : String) (rest : List String) (r : Reading)
  deriving Repr

/-- The standard library's reason a text is not an unsigned 64-bit decimal. -/
def countProblem (s : String) : Option String :=
  let digits := if s.startsWith "+" then s.drop 1 |>.toString else s
  if s.isEmpty then some "cannot parse integer from empty string"
  else if digits.isEmpty || !digits.all Char.isDigit then some "invalid digit found in string"
  else if digits.toNat! ≥ Nat.pow 2 64 then some "number too large to fit in target type"
  else none

/-- A usage line from what was typed: the command, the options used, then the
argument when it is required or was given. -/
def Spec.smartUsage (s : Spec) (r : Reading) (extra : List String) : String :=
  let opts := (r.used ++ extra).filterMap fun long => (s.options.find? (·.long == long)).map (·.display)
  let opts := opts.foldl (fun acc o => if acc.contains o then acc else acc ++ [o]) []
  let arg := match s.argument with
    | some a => if a.required || r.argument.isSome then [ "<" ++ a.name ++ ">" ] else []
    | none => []
  String.intercalate " " (s.path :: opts ++ arg)

/-- The usage line for a complaint: the full one when nothing was typed, else the
one made from what was typed. -/
def Spec.usageFor (s : Spec) (r : Reading) (extra : List String) : String :=
  if r.used.isEmpty && extra.isEmpty && r.argument.isNone then s.usage else s.smartUsage r extra

/-- Settles the option waiting for a value: checks the value, or complains that
there is none. -/
def Reading.settle (r : Reading) : Except Refusal Reading :=
  match r.pending with
  | none => .ok r
  | some (o, none) => .error { complaint := .emptyValue o.display }
  | some (o, some v) =>
    match (if o.numeric then countProblem v else none) with
    | some why => .error { complaint := .invalidValue v o.display why }
    | none => .ok { r with pending := none, values := r.values ++ [(o.long, v)] }

/-- Records an option that is present, refusing a second use. -/
def Spec.mark (s : Spec) (r : Reading) (o : OptionSpec) : Except Refusal Reading :=
  if r.used.contains o.long then
    .error { complaint := .repeated o.display, usage := some s.usage }
  else .ok { r with used := r.used ++ [o.long] }

/-- The refusal of an unknown long option, with a similar option of this command, or
of a command named later on the line. -/
def Spec.unknownLong (s : Spec) (r : Reading) (name : String) (rest : List String) : Refusal :=
  let longs := s.options.map (·.long)
  match closest name longs with
  | some near =>
    { complaint := .unexpected ("--" ++ name), similar := some ("argument", ["--" ++ near]),
      usage := some (s.usageFor r [near]) }
  | none =>
    let inCommand := s.commands.filterMap fun (c, _) =>
      match commandSpec? c, rest.idxOf? c with
      | some cs, some pos =>
        (closest name (cs.options.map (·.long))).map fun near => (pos, c, near)
      | _, _ => none
    match inCommand.foldl (fun best x => match best with
        | some b => if x.1 < b.1 then some x else best
        | none => some x) none with
    | some (_, c, near) =>
      { complaint := .unexpected ("--" ++ name), tips := [s!"'{c} --{near}' exists"],
        usage := some (s.usageFor r []) }
    | none =>
      let tips := if s.argument.isSome && !r.afterDashes then
        [s!"to pass '--{name}' as a value, use '-- --{name}'"] else []
      { complaint := .unexpected ("--" ++ name), tips, usage := some (s.usageFor r []) }

/-- The refusal of an unknown short option. -/
def Spec.unknownShort (s : Spec) (r : Reading) (flag : String) : Refusal :=
  let tips := if s.argument.isSome && !r.afterDashes then
    [s!"to pass '{flag}' as a value, use '-- {flag}'"] else []
  { complaint := .unexpected flag, tips, usage := some s.usage }

/-- The refusal of a value with no place: a command name after `--`, one with similar
command names, or none. -/
def Spec.unplaced (s : Spec) (word : String) (afterDashes : Bool := false) : Refusal :=
  if afterDashes && s.commands.any (·.1 == word) then
    { complaint := .unexpected word,
      tips := [s!"subcommand '{word}' exists; to use it, remove the '--' before it"],
      usage := some s.usage }
  else
  match similarNames word (s.commands.map (·.1)) with
  | near@(_ :: _) => { complaint := .unrecognized word, similar := some ("subcommand", near),
                       usage := some s.usage }
  | [] =>
    if !s.commands.isEmpty then { complaint := .unrecognized word, usage := some s.usage }
    else { complaint := .unexpected word, usage := some s.usage }

/-- Takes a value for the command's argument. -/
def Spec.place (s : Spec) (r : Reading) (word : String) : Except Refusal Reading := do
  let r ← r.settle
  match s.argument, r.argument with
  | some _, none => pure { r with argument := some word }
  | some a, some old =>
    if a.repeated then pure { r with argument := some (old ++ "\x00" ++ word) }
    else throw (s.unplaced word r.afterDashes)
  | none, _ => throw (s.unplaced word r.afterDashes)

/-- Reads short options bundled in one argument, such as `-h`. -/
def Spec.shorts (s : Spec) (r : Reading) : List Char → Except Outcome Reading
  | [] => .ok r
  | c :: more =>
    match s.options.find? (·.short == some c) with
    | some o =>
      if o.long == "help" then
        match r.settle with
        | .ok _ => .error .help
        | .error e => .error (.refused e)
      else if o.long == "version" then
        match r.settle with
        | .ok _ => .error .version
        | .error e => .error (.refused e)
      else s.shorts r more
    | none => .error (.refused (s.unknownShort r ("-" ++ String.singleton c)))

/-- Reads a long option, with a value attached after `=` or not. -/
def Spec.long (s : Spec) (r : Reading) (name : String) (attached : Option String)
    (rest : List String) : Except Outcome Reading :=
  match s.options.find? (·.long == name) with
  | none => .error (.refused (s.unknownLong r name rest))
  | some o =>
    match r.settle with
    | .error e => .error (.refused e)
    | .ok r =>
      if o.long == "help" then .error .help
      else if o.long == "version" then .error .version
      else
        match s.mark r o with
        | .error e => .error (.refused e)
        | .ok r =>
          match o.valueName, attached with
          | none, none => .ok { r with flags := r.flags ++ [o.long] }
          | none, some v =>
            .error (.refused
              { complaint := .extraValue v o.display, usage := some (s.smartUsage r []) })
          | some _, some v => .ok { r with pending := some (o, some v) }
          | some _, none => .ok { r with pending := some (o, none) }

/-- Reads a command's arguments from left to right. -/
def Spec.read (s : Spec) : Reading → List String → Outcome
  | r, [] =>
    match r.settle with
    | .ok r => .done r
    | .error e => .refused e
  | r, word :: rest =>
    let flagLike := word.startsWith "-" && word != "-"
    if r.afterDashes then
      match s.place r word with
      | .ok r => s.read r rest
      | .error e => .refused e
    else if !s.commands.isEmpty && (s.commands.any (·.1 == word)) then
      match r.settle with
      | .ok r => .subcommand word rest r
      | .error e => .refused e
    else if word == "--" then
      s.read { r with afterDashes := true } rest
    else if word.startsWith "--" then
      let body := (word.drop 2).toString
      let (name, attached) := match body.splitOn "=" with
        | [n] => (n, none)
        | n :: vs => (n, some (String.intercalate "=" vs))
        | [] => (body, none)
      match s.long r name attached rest with
      | .ok r => s.read r rest
      | .error o => o
    else if flagLike then
      match s.shorts r (word.toList.drop 1) with
      | .ok r => s.read r rest
      | .error o => o
    else
      match r.pending with
      | some (o, none) => s.read { r with pending := some (o, some word) } rest
      | _ =>
        match s.place r word with
        | .ok r => s.read r rest
        | .error e => .refused e

/-- The value of an option, if given. -/
def Reading.value? (r : Reading) (long : String) : Option String :=
  (r.values.find? (·.1 == long)).map (·.2)

/-- Whether a flag was given. -/
def Reading.flag (r : Reading) (long : String) : Bool := r.flags.contains long

/-- Checks that a required argument is there. -/
def Spec.complete (s : Spec) (r : Reading) : Except Refusal Reading :=
  match s.argument, r.argument with
  | some a, none =>
    if a.required then
      .error { complaint := .missing [a.display], usage := some (s.smartUsage r []) }
    else .ok r
  | _, _ => .ok r

/-- The help a `help` command asks for: of the program, or of the command named. -/
def helpFor (names : List String) : Except Refusal String :=
  match names with
  | [] => .ok rootSpec.helpText
  | [n] => match commandSpec? n with
    | some s => .ok s.helpText
    | none => .error { complaint := .unrecognized n, usage := some rootSpec.usage }
  | n :: m :: _ => match commandSpec? n with
    | some s => .error { complaint := .unrecognized m, usage := some s.usage }
    | none => .error { complaint := .unrecognized n, usage := some rootSpec.usage }

/-- The count an option holds, once checked. -/
def countOf (r : Reading) (long : String) : Option Nat :=
  (r.value? long).map fun v => (if v.startsWith "+" then (v.drop 1).toString else v).toNat!

/-- What the arguments of a command ask for. -/
def commandInvocation (name : String) (logJson : Bool) (rest : List String) : Invocation :=
  match commandSpec? name with
  | none => .refuse (rootSpec.unplaced name).render
  | some s =>
    if name == "help" then
      match helpFor rest with
      | .ok text => .show text
      | .error e => .refuse e.render
    else
      match s.read {} rest with
      | .help => .show s.helpText
      | .version => .show (programName ++ " " ++ version ++ "\n")
      | .refused e => .refuse e.render
      | .subcommand _ _ _ => .refuse (s.unplaced name).render
      | .done r =>
        match s.complete r with
        | .error e => .refuse e.render
        | .ok r =>
          let logJson := logJson || r.flag "log-json"
          if name == "exec" then
            .run logJson (some (.exec
              { command := r.argument.getD "", cwd := r.value? "cwd"
                timeoutSecs := countOf r "timeout-secs", pty := r.flag "pty", json := r.flag "json" }))
          else
            .run logJson (some (.shell
              { command := r.argument, cwd := r.value? "cwd"
                idleTimeoutSecs := countOf r "idle-timeout-secs" }))

/-- What a command line asks for, after the program's name. -/
def parse (args : List String) : Invocation :=
  match rootSpec.read {} args with
  | .help => .show rootSpec.helpText
  | .version => .show (programName ++ " " ++ version ++ "\n")
  | .refused e => .refuse e.render
  | .done r => .run (r.flag "log-json") none
  | .subcommand name rest r => commandInvocation name (r.flag "log-json") rest

end Confine.Cli
