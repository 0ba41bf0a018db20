import Confine.Host.Program.Basic
import Confine.Host.Program.Options
import Confine.Host.Program.About
import Confine.Shell.Format
/-!
# Small system programs

`true`, `false`, `sleep`, `stty`, `tty`, `pwd`, `uname`, `id`,
`whoami`, `basename`, `dirname` and the printing form of `env`, as the GNU tools
behave. The terminal is 24 rows by 80 columns.
-/

namespace Confine.Host.Program

open Confine.Shell

/-- A `sleep` interval in nanoseconds: a decimal number with an optional unit
`s`, `m`, `h` or `d`; `none` if malformed, and `some none` for `inf`. -/
def interval (s : String) : Option (Option Nat) :=
  if s = "inf" || s = "infinity" then some none
  else
    let cs := s.toList
    let (body, unit) := match cs.getLast? with
      | some 's' => (cs.dropLast, 1)
      | some 'm' => (cs.dropLast, 60)
      | some 'h' => (cs.dropLast, 3600)
      | some 'd' => (cs.dropLast, 86400)
      | _ => (cs, 1)
    let whole := body.takeWhile Char.isDigit
    let rest := body.drop whole.length
    let frac := match rest with
      | '.' :: r => r
      | _ => []
    let wellFormed := (rest.isEmpty || rest.head? == some '.') && frac.all Char.isDigit
      && !(whole.isEmpty && frac.isEmpty)
    if !wellFormed then none
    else
      let digits (ds : List Char) : Nat := ds.foldl (fun a c => a * 10 + (c.toNat - '0'.toNat)) 0
      let fracNs := (digits ((frac.take 9) ++ List.replicate (9 - (Nat.min 9 frac.length)) '0'))
      some (some ((digits whole * 1000000000 + fracNs) * unit))

/-- `sleep`: the sum of its intervals. -/
def sleep (args : List String) : M Nat := do
  if args.isEmpty then
    complain "sleep" "missing operand"; tryHelp "sleep"; return 1
  let mut total : Option Nat := some 0
  for a in args do
    match interval a with
    | none =>
      complain "sleep" ("invalid time interval " ++ quoteAlways a)
      tryHelp "sleep"; return 1
    | some none => total := none
    | some (some ns) => total := total.map (· + ns)
  match total with
  | some ns => let _ ← waitUntil (some ((← now) + ns))
  | none => let _ ← waitUntil none
  return 0

/-- `stty`: `size` reports the terminal's rows and columns; other settings are
accepted. Without a terminal on standard input it fails. -/
def stty (args : List String) : M Nat := do
  if !(← isTerminal 0) then
    complain "stty" "'standard input': Inappropriate ioctl for device"
    return 1
  match args with
  | ["size"] => say "24 80\n"; return 0
  | [] => say "speed 38400 baud; line = 0;\n-brkint -imaxbel\n"; return 0
  | _ => return 0

/-- `tty`: the terminal's name, or `not a tty`. -/
def tty (_args : List String) : M Nat := do
  if ← isTerminal 0 then say "/dev/pts/0\n"; return 0
  else say "not a tty\n"; return 1

/-- The physical working directory as text. -/
def physicalCwd : M String := do
  let names := (← getSh).cwdNames
  let w ← get
  match lookup w.fs [] (Path.ofNames true names) with
  | .ok canon => return Text.Octets.ofText (Path.ofNames true canon)
  | .error _ => return Text.Octets.ofText (Path.ofNames true names)

/-- `pwd`: the physical working directory. -/
def pwd (_args : List String) : M Nat := do
  say ((← physicalCwd) ++ "\n"); return 0

/-- The option table of `uname`. -/
def unameOptions : OptionTable where
  short := "asnrvmpio".toList.map fun c => (c, .nothing)
  long := [⟨"all", .nothing, "a"⟩, ⟨"kernel-name", .nothing, "s"⟩, ⟨"sysname", .nothing, "s"⟩,
    ⟨"nodename", .nothing, "n"⟩, ⟨"kernel-release", .nothing, "r"⟩, ⟨"release", .nothing, "r"⟩,
    ⟨"kernel-version", .nothing, "v"⟩, ⟨"machine", .nothing, "m"⟩, ⟨"processor", .nothing, "p"⟩,
    ⟨"hardware-platform", .nothing, "i"⟩, ⟨"operating-system", .nothing, "o"⟩] ++ standardLong

/-- `uname`: the fields asked for, in a fixed order, the kernel's name when none is.
The processor and the hardware platform are unknown, and `-a` leaves them out. -/
def uname (args : List String) : M Nat := do
  match unameOptions.read args with
  | .error e => complain "uname" e.message; tryHelp "uname"; return 1
  | .ok parsed =>
  if let some code ← aboutRequest "uname" parsed then return code
  if let some extra := parsed.operands.head? then
    complain "uname" ("extra operand " ++ quoteAlways extra); tryHelp "uname"; return 1
  let all := parsed.has "a"
  let asked (k : String) : Bool := all || parsed.has k
  let none := parsed.options.isEmpty
  let fields : List (Bool × String) :=
    [(asked "s" || none, "Linux"), (asked "n", "sandbox"), (asked "r", "6.1.0"),
     (asked "v", "#1 SMP"), (asked "m", "x86_64"), (parsed.has "p" && !all, "unknown"),
     (parsed.has "i" && !all, "unknown"), (asked "o", "GNU/Linux")]
  say (" ".intercalate (fields.filterMap fun (on, text) => if on then some text else Option.none) ++ "\n")
  return 0

/-- `id` for the superuser. -/
def userIds (args : List String) : M Nat := do
  match args with
  | ["-u"] | ["-g"] => say "0\n"
  | ["-un"] | ["-gn"] | ["-u", "-n"] | ["-n", "-u"] => say "root\n"
  | _ => say "uid=0(root) gid=0(root) groups=0(root)\n"
  return 0

/-- The option table of a program that knows only `--help` and `--version`, and
whose options end at the first operand. -/
def aboutOnlyOptions : OptionTable where
  short := []
  long := standardLong
  inOrder := true

/-- `whoami`: the superuser's name; no operand. -/
def whoami (args : List String) : M Nat := do
  match aboutOnlyOptions.read args with
  | .error e => complain "whoami" e.message; tryHelp "whoami"; return 1
  | .ok parsed =>
  if let some code ← aboutRequest "whoami" parsed then return code
  if let some extra := parsed.operands.head? then
    complain "whoami" ("extra operand " ++ quoteAlways extra); tryHelp "whoami"; return 1
  say "root\n"
  return 0

/-- `true` or `false`: the status, after the usage or the version when that is the one
argument asked. -/
def constantStatus (name : String) (code : Nat) (args : List String) : M Nat := do
  if args == ["--help"] then showUsage name
  else if args == ["--version"] then showVersion name
  return code

/-- The last component of a path, trailing slashes ignored. -/
def baseName (s : String) : String :=
  let cs := s.toList
  let trimmed := (cs.reverse.dropWhile (· = '/')).reverse
  if trimmed.isEmpty then (if cs.isEmpty then "" else "/")
  else String.ofList ((trimmed.reverse.takeWhile (· != '/')).reverse)

/-- All but the last component of a path. -/
def dirName (s : String) : String :=
  let cs := (s.toList.reverse.dropWhile (· = '/')).reverse
  if cs.isEmpty then (if s.isEmpty then "." else "/")
  else
    let parent := (cs.reverse.dropWhile (· != '/')).reverse
    if parent.isEmpty then "."
    else
      let p := (parent.reverse.dropWhile (· = '/')).reverse
      if p.isEmpty then "/" else String.ofList p

/-- A name without its directory and without a suffix, unless the suffix is the
whole of what is left or that is the root. -/
def stripSuffix (name suffix : String) : String :=
  let b := baseName name
  if b != suffix && !b.startsWith "/" && b.endsWith suffix then
    String.ofList (b.toList.take (b.length - suffix.length))
  else b

/-- The option table of `basename`. -/
def basenameOptions : OptionTable where
  short := [('a', .nothing), ('s', .value), ('z', .nothing)]
  long := [⟨"multiple", .nothing, "a"⟩, ⟨"suffix", .value, "s"⟩, ⟨"zero", .nothing, "z"⟩,
    ⟨"help", .nothing, "help"⟩, ⟨"version", .nothing, "version"⟩]

/-- `basename NAME [SUFFIX]` and `basename -a [-s SUFFIX] NAME...`. -/
def basename (args : List String) : M Nat := do
  match basenameOptions.read args with
  | .error e => complain "basename" e.message; tryHelp "basename"; return 1
  | .ok parsed =>
  if let some code ← aboutRequest "basename" parsed then return code
  let suffix := (parsed.last? "s").bind (fun x => x)
  let multiple := parsed.has "a" || suffix.isSome
  let ending := if parsed.has "z" then "\x00" else "\n"
  match parsed.operands with
  | [] => complain "basename" "missing operand"; tryHelp "basename"; return 1
  | names =>
    if multiple then
      for n in names do say (stripSuffix n (suffix.getD "") ++ ending)
      return 0
    match names with
    | [n] => say (baseName n ++ ending); return 0
    | [n, s] => say (stripSuffix n s ++ ending); return 0
    | _ :: _ :: extra :: _ =>
      complain "basename" ("extra operand " ++ quoteAlways extra); tryHelp "basename"; return 1
    | [] => return 1

/-- `dirname NAME...`. -/
def dirname (args : List String) : M Nat := do
  if args.isEmpty then complain "dirname" "missing operand"; tryHelp "dirname"; return 1
  for a in args do say (dirName a ++ "\n")
  return 0

/-- What `env` was asked: whether to start from an empty environment, the names to
remove, the directory to run in, whether to end printed entries with a zero byte,
whether to report its steps, and the operands: assignments and then the command. -/
structure EnvRequest where
  clear : Bool := false
  unset : List String := []
  chdir : Option String := none
  nul : Bool := false
  debug : Bool := false
  operands : List String := []

/-- The option table of `env`: the options end at the first operand. -/
def envOptions : OptionTable where
  short := [('C', .value), ('i', .nothing), ('S', .value), ('u', .value), ('v', .nothing),
    ('0', .nothing)]
  long := [⟨"ignore-environment", .nothing, "i"⟩, ⟨"null", .nothing, "0"⟩,
    ⟨"unset", .value, "u"⟩, ⟨"chdir", .value, "C"⟩,
    ⟨"default-signal", .maybe, "default-signal"⟩, ⟨"ignore-signal", .maybe, "ignore-signal"⟩,
    ⟨"block-signal", .maybe, "block-signal"⟩,
    ⟨"list-signal-handling", .nothing, "list-signal-handling"⟩, ⟨"debug", .nothing, "v"⟩,
    ⟨"split-string", .value, "S"⟩] ++ standardLong
  inOrder := true

/-- The words of a `-S` string: split at blanks, with single quotes, double quotes and
backslash escapes; a `#` that starts a word starts a comment. -/
def splitWords (s : String) : List String :=
  let rec go : Nat → List Char → Option Char → Option (List Char) → List String → List String
    | 0, _, _, cur, acc => (acc ++ cur.toList.map String.ofList)
    | _, [], _, cur, acc => acc ++ cur.toList.map String.ofList
    | k + 1, c :: rest, quote, cur, acc =>
      let add (x : Char) : List Char := (cur.getD []) ++ [x]
      match quote with
      | some q =>
        if c = q then go k rest none (some (cur.getD [])) acc
        else if c = '\\' && q = '"' then
          match rest with
          | d :: more => go k more quote (some (add (if d = 'n' then '\n' else if d = 't' then '\t' else d))) acc
          | [] => go k [] quote (some (add c)) acc
        else go k rest quote (some (add c)) acc
      | none =>
        if c = ' ' || c = '\t' || c = '\n' then
          go k rest none none (acc ++ cur.toList.map String.ofList)
        else if c = '\'' || c = '"' then go k rest (some c) (some (cur.getD [])) acc
        else if c = '#' && cur.isNone then acc
        else if c = '\\' then
          match rest with
          | '_' :: more => go k more none none (acc ++ cur.toList.map String.ofList)
          | 'c' :: _ => acc ++ cur.toList.map String.ofList
          | d :: more => go k more none (some (add (if d = 'n' then '\n' else if d = 't' then '\t' else d))) acc
          | [] => go k [] none (some (add c)) acc
        else go k rest none (some (add c)) acc
  go (s.length + 1) s.toList none none []

/-- The options of `env` read into a request; the words of a `-S` string are read
again in front of the operands. Also the options as read, for `--help` and
`--version`. -/
def readEnvOptions : Nat → List String → EnvRequest →
    Except OptionError (EnvRequest × List (String × Option String))
  | 0, words, r => .ok ({ r with operands := words }, [])
  | k + 1, words, r =>
    match envOptions.read words with
    | .error e => .error e
    | .ok parsed =>
      let r := parsed.options.foldl (fun (r : EnvRequest) (key, value) =>
        match key with
        | "i" => { r with clear := true }
        | "u" => { r with unset := r.unset ++ value.toList }
        | "C" => { r with chdir := value }
        | "0" => { r with nul := true }
        | "v" => { r with debug := true }
        | _ => r) r
      let splits := parsed.options.filterMap fun (key, value) => if key == "S" then value else none
      if splits.isEmpty || parsed.options.any (fun o => o.1 == "help" || o.1 == "version") then
        .ok ({ r with operands := parsed.operands }, parsed.options)
      else readEnvOptions k (splits.flatMap splitWords ++ parsed.operands) r

/-- `env` with nothing to run: the environment, one `name=value` per line, in the
order the process received it. -/
def printEnv (vars : List (String × String)) : M Nat := do
  say (String.join (vars.map fun (n, v) => n ++ "=" ++ v ++ "\n"))
  return 0

end Confine.Host.Program
