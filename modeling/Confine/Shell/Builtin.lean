import Confine.Shell.State
import Confine.Shell.Jobs
import Confine.Shell.Format
import Confine.Shell.Condition
import Confine.Shell.Fields
import Confine.Shell.Parse
import Confine.Host.Program.System
import Confine.Shell.Mask
import Confine.Shell.Getopts
import Confine.Shell.Alias
/-!
# Builtins that stand alone

The shell's own commands that do not run other commands: variables (`export`,
`readonly`, `unset`, `local`, `set`, `shift`), `trap`, `kill`, `cd`, `pwd`, `read`,
`echo`, `printf`, `test`, `type`, and a few that only answer. Each sets the status
and may report an error as the shell does: `name: line: command: message` on the
error stream. An error in a special builtin is a shell error (`abort`).
-/

namespace Confine.Shell

open Confine.Host

/-- Decimal text. -/
def decimal (n : Nat) : String := String.ofList (Nat.toDigits 10 n)

/-- Report an error: `shell: line: [command: ]message`. -/
def shellError (cmd : Option String) (msg : String) : M Unit := do
  let s ← getSh
  let head := s.arg0 ++ ": " ++ decimal s.line ++ ": "
  let body := match cmd with
    | some c => c ++ ": " ++ msg
    | none => msg
  putStr 2 (head ++ body ++ "\n")

/-- A shell error: report it and abort with status 2. -/
def fatal (cmd : Option String) (msg : String) : M α := do
  shellError cmd msg
  throw (.abort 2)

def setStatus (n : Nat) : M Unit := modifySh fun s => { s with status := n }

/-- Runs a builtin. A write to its standard output that failed is reported once it is
done, as an input/output error, and makes an even status odd. -/
def checkingOutput (name : String) (body : M Unit) : M Unit := do
  let outer := (← getSh).writeFailure
  modifySh fun s => { s with writeFailure := none }
  body
  if (← getSh).writeFailure.isSome then
    shellError (some name) (name ++ ": I/O error")
    modifySh fun s => { s with status := Nat.lor s.status 1 }
  modifySh fun s => { s with writeFailure := outer }

/-- Builtins whose errors end a non-interactive shell. -/
def specialNames : List String := specialBuiltins

/-- The other builtins. -/
def regularNames : List String :=
  ["alias", "bg", "cd", "command", "echo", "false", "fg", "getopts", "hash", "jobs", "kill",
   "printf", "pwd", "read", "test", "[", "true", "type", "ulimit", "umask",
   "unalias", "wait"]

/-! ### Variables -/

/-- Whether a variable is read-only. -/
def Sh.isReadonly (s : Sh) (name : String) : Bool :=
  match s.vars.lookup name with
  | some v => v.readonly
  | none => false

/-- Assign a variable, refusing a read-only one with a shell error. -/
def assign (name value : String) : M Unit := do
  let s ← getSh
  if s.isReadonly name then fatal none (name ++ ": is read only")
  setSh (s.setVar name value)

/-- The value of a parameter: special, positional or a variable. -/
def paramValue (name : String) : M (Option String) := do
  let s ← getSh
  match name with
  | "?" => return some (decimal s.status)
  | "$" => return some (decimal s.rootPid)
  | "!" => return s.lastBackground.map decimal
  | "#" => return some (decimal s.positional.length)
  | "-" => return some s.optionFlags
  | "0" => return some s.arg0
  | "@" | "*" => return some (" ".intercalate s.positional)
  | "LINENO" => return some (decimal s.line)
  | _ =>
    if !name.isEmpty && name.toList.all Char.isDigit then
      let k := name.toNat!
      return if k = 0 then some s.arg0 else s.positional[k - 1]?
    else return s.var? name

/-- `IFS`, or its default when unset. -/
def ifsValue : M String := do
  return ((← getSh).var? "IFS").getD " \t\n"

/-! ### Options and positional parameters -/

/-- Sets or clears the option of a letter; none if no option has it. Turning on one of
the two line-editing modes turns the other off. -/
def Sh.setOption (s : Sh) (c : Char) (on : Bool) : Option Sh :=
  match optionTable.find? (·.2 == some c) with
  | some (name, _) =>
    let s := s.withOption name on
    if on && c = 'V' then some (s.withOption "emacs" false)
    else if on && c = 'E' then some (s.withOption "vi" false)
    else some s
  | none => none

/-- A value in single quotes, as listings write it so that the shell reads it back: a
run of single quotes is written in double quotes between two quoted parts. -/
def singleQuote (v : String) : String :=
  let rec go : Nat → List Char → String
    | 0, _ => ""
    | fuel + 1, cs =>
      let plain := cs.takeWhile (· != '\'')
      let rest := cs.drop plain.length
      let quotes := rest.takeWhile (· == '\'')
      let after := rest.drop quotes.length
      "'" ++ String.ofList plain ++ "'" ++
        (if quotes.isEmpty then "" else "\"" ++ String.ofList quotes ++ "\"") ++
        (if after.isEmpty then "" else go fuel after)
  go (v.length + 1) v.toList

/-- `set`: with no arguments, list the variables; else options and, after them, the
positional parameters. An option word starts with `-` or `+`; `-o name` and `+o name`
name an option, and `-o` alone lists them all. A lone `-` turns off `-x` and `-v` and
ends the options, `--` ends them; either one clears the parameters when nothing
follows it. -/
def setBuiltin (args : List String) : M Unit := do
  let s ← getSh
  if args.isEmpty then
    let vars := (s.vars.filterMap fun (n, v) => v.value.map fun x => (n, x)).mergeSort
      fun a b => decide (a.1 ≤ b.1)
    putStr 1 (String.join (vars.map fun (n, v) => n ++ "=" ++ singleQuote v ++ "\n"))
    setStatus 0
    return
  let rec go : Nat → List String → M (Option (List String))
    | 0, _ => pure none
    | _, [] => pure none
    | k + 1, a :: rest => do
      if a = "-" then
        modifySh fun s => (s.withOption "xtrace" false).withOption "verbose" false
        pure (if rest.isEmpty then none else some rest)
      else if a = "--" then pure (some rest)
      else if a.startsWith "-" || a.startsWith "+" then
        let on := a.startsWith "-"
        let rec letters : Nat → List Char → List String → M (List String)
          | 0, _, more => pure more
          | _, [], more => pure more
          | j + 1, c :: cs, more => do
            if c = 'o' then
              match more with
              | [] =>
                let s ← getSh
                if on then
                  putStr 1 ("Current option settings\n" ++ String.join (optionTable.map fun (name, _) =>
                    name ++ String.ofList (List.replicate (16 - name.length) ' ') ++
                      (if s.option name then "on" else "off") ++ "\n"))
                else
                  putStr 1 (String.join (optionTable.map fun (name, _) =>
                    "set " ++ (if s.option name then "-o " else "+o ") ++ name ++ "\n"))
                letters j cs []
              | name :: more' =>
                if optionTable.any (·.1 == name) then
                  modifySh fun s => s.withOption name on
                  letters j cs more'
                else fatal (some "set") ("Illegal option -o " ++ name)
            else
              match (← getSh).setOption c on with
              | some s' => setSh s'; letters j cs more
              | none => fatal (some "set") ("Illegal option -" ++ String.singleton c)
        let more ← letters (a.length + rest.length + 1) (a.toList.drop 1) rest
        go k more
      else pure (some (a :: rest))
  let params ← go (args.length + 1) args
  if !(← syncJobControl) then shellError (some "set") noTerminalWarning
  match params with
  | some params => modifySh fun s => { s with positional := params, optind := 1, optoff := none }
  | none => pure ()
  setStatus 0

/-- `shift [n]`. -/
def shiftBuiltin (args : List String) : M Unit := do
  let s ← getSh
  let n ← match args with
    | [] => pure 1
    | a :: _ =>
      if !a.isEmpty && a.toList.all Char.isDigit then pure a.toNat!
      else fatal (some "shift") ("Illegal number: " ++ a)
  if n > s.positional.length then fatal (some "shift") "can't shift that many"
  setSh { s with positional := s.positional.drop n, status := 0, optind := 1, optoff := none }

/-- `export` and `readonly`: mark names, assigning `name=value` first. -/
def markBuiltin (readonly : Bool) (args : List String) : M Unit := do
  let args := args.filter (· != "--")
  if args.isEmpty || args = ["-p"] then
    let s ← getSh
    let pfx := if readonly then "readonly " else "export "
    let shown := (s.vars.filter fun (_, v) => if readonly then v.readonly else v.exported).mergeSort
      fun a b => decide (a.1 ≤ b.1)
    putStr 1 (String.join (shown.map fun (n, v) =>
      pfx ++ n ++ (match v.value with | some x => "=" ++ singleQuote x | none => "") ++ "\n"))
    setStatus 0
    return
  for a in args do
    let (name, value) := match a.toList.splitOn '=' with
      | n :: v :: more => (String.ofList n, some (String.ofList (['='].intercalate (v :: more))))
      | _ => (a, none)
    match value with
    | some v => assign name v
    | none => pure ()
    modifySh fun s =>
      let s := if (s.vars.lookup name).isNone then { s with vars := s.vars ++ [(name, ({ value := none } : Var))] } else s
      { s with vars := s.vars.map fun (n, x) =>
        if n = name then (n, if readonly then { x with readonly := true } else { x with exported := true }) else (n, x) }
  setStatus 0

/-- `unset [-f|-v] name...`. -/
def unsetBuiltin (args : List String) : M Unit := do
  let (funcs, names) := match args with
    | "-f" :: rest => (true, rest)
    | "-v" :: rest => (false, rest)
    | rest => (false, rest)
  for a in names do
    let s ← getSh
    -- a variable's name ends at the first `=`
    let n := String.ofList (a.toList.takeWhile (· != '='))
    if funcs then setSh { s with funcs := s.funcs.filter (·.1 != a) }
    else if !isName n then fatal (some "unset") (n ++ ": bad variable name")
    else if s.isReadonly n then fatal (some "unset") (n ++ ": is read only")
    else setSh (s.unsetVar n)
  setStatus 0

/-- `local name[=value]...`: the names get their old values back when the function
returns, and `-` stands for the shell's options. Outside a function it is an error. -/
def localBuiltin (args : List String) : M Unit := do
  if (← getSh).calls == 0 then fatal (some "local") "not in a function"
  for a in args do
    if a == "-" then
      -- the options come back when the function returns
      modifySh fun s => if s.savedOptions.isSome then s else { s with savedOptions := some s.options }
      continue
    let (name, value) := match a.toList.splitOn '=' with
      | n :: v :: more => (String.ofList n, some (String.ofList (['='].intercalate (v :: more))))
      | _ => (a, none)
    let s ← getSh
    if !(s.locals.any (·.1 == name)) then
      setSh { s with locals := (name, s.vars.lookup name) :: s.locals }
    match value with
    | some v => assign name v
    | none => pure ()
  setStatus 0

/-- The option letters at the front of a builtin's arguments, each one of `spec`, and
the arguments after them; an unknown letter is returned as the error. Options end at
an argument that is not `-` followed by something, and `--` ends them and is dropped. -/
def builtinOptions (spec : List Char) (args : List String) : Except Char (List Char × List String) :=
  let rec go : List String → List Char → Except Char (List Char × List String)
    | [], acc => .ok (acc.reverse, [])
    | a :: rest, acc =>
      match a.toList with
      | ['-', '-'] => .ok (acc.reverse, rest)
      | '-' :: c :: more =>
        match (c :: more).find? (!spec.contains ·) with
        | some bad => .error bad
        | none => go rest ((c :: more).reverse ++ acc)
      | _ => .ok (acc.reverse, a :: rest)
  go args []

/-- Reads a builtin's options: letters after `-`, several to a word, a letter that
takes a value taking the rest of its word or else the next word. A word that does not
start with `-`, a lone `-`, or `--` (which is dropped) ends the options. Returns the
letters with their values and the words left, or the message for an unknown letter
or a missing value. -/
def valuedOptions (spec : List (Char × Bool)) (args : List String) :
    Except String (List (Char × Option String) × List String) :=
  go (args.length + 1) args []
where
  go : Nat → List String → List (Char × Option String) →
      Except String (List (Char × Option String) × List String)
    | 0, rest, acc => .ok (acc, rest)
    | _, [], acc => .ok (acc, [])
    | fuel + 1, a :: rest, acc =>
      match a.toList with
      | ['-', '-'] => .ok (acc, rest)
      | '-' :: c :: more => letters fuel (c :: more) rest acc
      | _ => .ok (acc, a :: rest)
  letters : Nat → List Char → List String → List (Char × Option String) →
      Except String (List (Char × Option String) × List String)
    | fuel, [], rest, acc => go fuel rest acc
    | fuel, c :: more, rest, acc =>
      match spec.lookup c with
      | none => .error ("Illegal option -" ++ String.singleton c)
      | some false => letters fuel more rest (acc ++ [(c, none)])
      | some true =>
        if !more.isEmpty then go fuel rest (acc ++ [(c, some (String.ofList more))])
        else match rest with
          | v :: after => go fuel after (acc ++ [(c, some v)])
          | [] => .error ("No arg for -" ++ String.singleton c ++ " option")

/-- The option letters each builtin accepts, for those that read options: any other
letter is refused before the builtin runs. -/
def builtinLetters : List (String × List Char) :=
  [("export", ['p']), ("readonly", ['p']), ("unset", ['v', 'f']), ("cd", ['L', 'P']),
   ("pwd", ['L', 'P']), ("command", ['p', 'v', 'V']), ("hash", ['r']), ("wait", []),
   ("trap", []), ("fg", []), ("bg", []), ("jobs", ['l', 'p']), ("unalias", ['a']),
   ("ulimit", "HSatfdscmlpnvwr".toList)]

/-- Refuses an option letter a builtin does not know, with a shell error. -/
def checkLetters (name : String) (args : List String) : M Unit := do
  match builtinLetters.lookup name with
  | some letters =>
    match valuedOptions (letters.map (·, false)) args with
    | .ok _ => pure ()
    | .error msg => fatal (some name) msg
  | none => pure ()

/-- `getopts spec name [arg...]`: reads the next option from the arguments, or from the
positional parameters, into the variable, with its argument in `OPTARG` and the number
of the next argument in `OPTIND`. The status is 1 once the options have ended. -/
def getoptsBuiltin (args : List String) : M Unit := do
  match args with
  | spec :: var :: given =>
    let s ← getSh
    let params := if given.isEmpty then s.positional else given
    let s := if s.optind > params.length + 1 then { s with optind := 1, optoff := none } else s
    let st := Getopts.step spec.toList (params.map String.toList) s.optind s.optoff
    match st.message with
    | some m => putStr 2 (m ++ "\n")
    | none => pure ()
    let s := match st.optarg with
      | some (some v) => s.putVar "OPTARG" v
      | some none => s.unsetVar "OPTARG"
      | none => s
    setSh (s.putVar "OPTIND" (decimal st.next))
    assign var (String.singleton st.letter)
    modifySh fun s => { s with optind := st.next, optoff := st.offset, status := if st.done then 1 else 0 }
  | _ => fatal (some "getopts") "Usage: getopts optstring var [arg]"

/-- `umask [-S] [mode]`: shows the mask, in octal or symbolically, or sets it. -/
def umaskBuiltin (args : List String) : M Unit := do
  match builtinOptions ['S'] args with
  | .error c => fatal (some "umask") ("Illegal option -" ++ String.singleton c)
  | .ok (flags, rest) =>
    let s ← getSh
    match rest with
    | [] =>
      putStr 1 ((if flags.contains 'S' then Mask.symbolic s.umask else Mask.octal s.umask) ++ "\n")
      setStatus 0
    | text :: _ =>
      match Mask.parse s.umask text with
      | .ok m => setSh { s with umask := m, status := 0 }
      | .error .number => fatal (some "umask") ("Illegal number: " ++ text)
      | .error .mode => fatal (some "umask") ("Illegal mode: " ++ text)

/-- The limit of a resource that the shell has now. -/
def Sh.limit (s : Sh) (r : Resource) : Limit := (s.limits.lookup r.letter).getD r.initial

/-- A limit given to `ulimit`: `unlimited`, or digits in the resource's unit, counted
as the host's unsigned words count, which wrap. -/
def readLimit (r : Resource) (text : String) : Option (Option Nat) :=
  let word := Nat.pow 2 64
  if text = "unlimited" then some none
  else if !text.toList.all Char.isDigit then none
  else
    let v := text.toList.foldl (fun v c => (v * 10 + (c.toNat - 48)) % word) 0 * r.unit % word
    some (if v = word - 1 then none else some v)

/-- `ulimit [-H|-S] [-a|-LETTER] [limit]`: shows the soft limit of a resource (the hard
one after `-H`), each resource's with `-a`, or sets one; the resource is the file size
unless a letter names another. A limit is set soft and hard unless `-H` or `-S` says
which. -/
def ulimitBuiltin (args : List String) : M Unit := do
  match builtinOptions ("HSa".toList ++ resources.map (·.letter)) args with
  | .error c => fatal (some "ulimit") ("Illegal option -" ++ String.singleton c)
  | .ok (flags, rest) =>
    -- the last of `-H` and `-S` decides; without either, both
    let how : Option Bool := flags.foldl (fun h c =>
      if c == 'H' then some true else if c == 'S' then some false else h) none
    let all := flags.contains 'a'
    let what := ((flags.filter fun c => c != 'H' && c != 'S' && c != 'a').getLast?).getD 'f'
    let r := (resources.find? (·.letter == what)).getD default
    let s ← getSh
    let shown (r : Resource) : String :=
      let l := s.limit r
      r.display (if how == some true then l.hard else l.soft)
    match rest with
    | [] =>
      if all then
        putStr 1 (String.join (resources.map fun r =>
          r.name ++ String.ofList (List.replicate (20 - r.name.length) ' ') ++ " " ++ shown r ++ "\n"))
      else putStr 1 (shown r ++ "\n")
      setStatus 0
    | [text] =>
      if all then fatal (some "ulimit") "too many arguments"
      match readLimit r text with
      | none => fatal (some "ulimit") "bad number"
      | some value =>
        let l := (s.limit r).update (how != some true) (how != some false) value
        match r.check l with
        | .ok l =>
          setSh { s with limits := (r.letter, l) :: s.limits.filter (·.1 != r.letter), status := 0 }
        | .error e => fatal (some "ulimit") ("error setting limit (" ++ e.text ++ ")")
    | _ => fatal (some "ulimit") "too many arguments"

/-- `alias [name[=value]...]`: defines aliases, or shows them, all of them when no name
is given. A name with no alias is reported and makes the status 1. -/
def aliasBuiltin (args : List String) : M Unit := do
  let shown (n v : String) := n ++ "=" ++ singleQuote v ++ "\n"
  if args.isEmpty then
    putStr 1 (String.join ((← getSh).aliases.map fun (n, v) => shown n v))
    setStatus 0
  else
    let mut status := 0
    for a in args do
      -- an equals sign after the first character defines
      match (a.toList.drop 1).idxOf? '=' with
      | some i =>
        let name := String.ofList (a.toList.take (i + 1))
        let value := String.ofList (a.toList.drop (i + 2))
        modifySh fun s => { s with aliases := Alias.define s.aliases name value }
      | none =>
        match (← getSh).aliases.lookup a with
        | some v => putStr 1 (shown a v)
        | none =>
          putStr 2 ("alias: " ++ a ++ " not found\n")
          status := 1
    setStatus status

/-- `unalias [-a] name...`: removes aliases, all of them with `-a`. A name with no alias
is reported and makes the status 1. -/
def unaliasBuiltin (args : List String) : M Unit := do
  match builtinOptions ['a'] args with
  | .error c => fatal (some "unalias") ("Illegal option -" ++ String.singleton c)
  | .ok (flags, names) =>
    if flags.contains 'a' then
      modifySh fun s => { s with aliases := [], status := 0 }
    else
      let mut status := 0
      for n in names do
        if ((← getSh).aliases.lookup n).isSome then
          modifySh fun s => { s with aliases := Alias.remove s.aliases n }
        else
          putStr 2 ("unalias: " ++ n ++ " not found\n")
          status := 1
      setStatus status

/-! ### Signals -/

/-- A signal named in a `trap` or `kill`: a number, or a name with or without `SIG`
in any case; `EXIT` is 0 for `trap`. -/
def signalOf? (s : String) (forTrap : Bool) : Option Nat :=
  if !s.isEmpty && s.toList.all Char.isDigit then
    let n := s.toNat!
    if n < 65 then some n else none
  else if forTrap && s.toUpper = "EXIT" then some 0
  else Signal.ofName? s

/-- The name `trap` lists a signal by. -/
def trapName (n : Nat) : String := if n = 0 then "EXIT" else Signal.listedName n

/-- `trap`. -/
def trapBuiltin (args : List String) : M Unit := do
  let s ← getSh
  match args with
  | [] =>
    let shown := s.traps.mergeSort fun a b => a.1 ≤ b.1
    putStr 1 (String.join (shown.map fun (sig, act) =>
      "trap -- " ++ singleQuote act ++ " " ++ trapName sig ++ "\n"))
    setStatus 0
  | first :: rest =>
    let (action, sigs) :=
      if !first.isEmpty && first.toList.all Char.isDigit then (none, args)
      else if first = "-" then (none, rest)
      else (some first, rest)
    for name in sigs do
      match signalOf? name true with
      | none => fatal (some "trap") (name ++ ": bad trap")
      | some sig =>
        let s ← getSh
        if s.hardIgnored.contains sig then pure ()
        else match action with
          | none =>
            setSh { s with traps := s.traps.filter (·.1 != sig), ignored := s.ignored.filter (· != sig) }
          | some act =>
            let traps := (s.traps.filter (·.1 != sig)) ++ [(sig, act)]
            let ignored := if act.isEmpty && sig != 0 then
                (if s.ignored.contains sig then s.ignored else s.ignored ++ [sig])
              else s.ignored.filter (· != sig)
            setSh { s with traps, ignored }
    setStatus 0

/-- Send a signal to a process: to this one at once, to another as a signal at the
current time. -/
def signalProcess (pid sig : Nat) : M Bool := do
  let s ← getSh
  let w ← get
  if pid = s.pid then
    selfSignal sig
    return true
  let known := w.jobs.any (·.pid == pid) || pid = w.leader || pid = s.rootPid ||
    w.procs.any (fun p => p.pid == pid && p.finish.isNone)
  if !known then return false
  -- a job that has not yet started running gets the signal as it starts
  let moment := match w.jobs.find? (·.pid == pid) with
    | some j => Nat.max s.now (j.start + 1)
    | none => s.now
  if sig != 0 then
    set { w with directed := w.directed ++ [(pid, moment, sig)] }
  return true

/-- `kill`: a first word `-SIGNAL` names the signal; any other first word with a dash
is read as the options `-l` (list) and `-s SIGNAL`. Without a signal it is `TERM`. A
failed send is reported with an empty line after it. -/
def killBuiltin (args : List String) : M Unit := do
  let usage := "Usage: kill [-s sigspec | -signum | -sigspec] [pid | job]... or\nkill -l [exitstatus]"
  if args.isEmpty then fatal (some "kill") usage
  let (signal, list, rest) ← match args with
    | a :: more =>
      match a.toList with
      | '-' :: name =>
        match signalOf? (String.ofList name) false with
        | some n => pure (some n, false, more)
        | none =>
          match valuedOptions [('l', false), ('s', true)] args with
          | .error msg => fatal (some "kill") msg
          | .ok (opts, words) =>
            let mut sig : Option Nat := none
            for (c, v) in opts do
              if c == 's' then
                match signalOf? (v.getD "") false with
                | some n => sig := some n
                | none => fatal (some "kill") ("invalid signal number or name: " ++ v.getD "")
            pure (sig, opts.any (·.1 == 'l'), words)
      | _ => pure (none, false, args)
    | [] => pure (none, false, [])
  let signal := if !list && signal.isNone then some Signal.term else signal
  if (signal.isNone || rest.isEmpty) != list then fatal (some "kill") usage
  if list then
    match rest with
    | [] =>
      putStr 1 ("0\n" ++ String.join ((List.range 64).map fun i => Signal.listedName (i + 1) ++ "\n"))
      setStatus 0
    | n :: _ =>
      if n.isEmpty || !n.toList.all Char.isDigit then fatal (some "kill") ("Illegal number: " ++ n)
      let k := n.toNat!
      let k := if k > 128 then k - 128 else k
      if 0 < k && k < 65 then
        putStr 1 (Signal.listedName k ++ "\n")
        setStatus 0
      else fatal (some "kill") ("invalid signal number or exit status: " ++ n)
    return
  let sig := signal.getD Signal.term
  let mut status := 0
  for t in rest do
    let s ← getSh
    match t.toList with
    | '%' :: _ =>
      -- a job is signalled as a process group, which it leads only under job control,
      -- and only until the shell has collected it
      match findJob (← myJobs).reverse (some t) false with
      | .ok j =>
        if j.controlled && (j.ended s.reapedUntil).isNone then
          let _ ← signalProcess j.pid sig
        else
          shellError (some "kill") "No such process\n"
          status := 1
      | .error miss => fatal (some "kill") miss.message
    | '-' :: r =>
      if r.isEmpty || !r.all Char.isDigit then fatal (some "kill") ("Illegal number: " ++ String.ofList r)
      -- the whole group
      modify fun w => { w with signals := w.signals ++ [(s.now, sig)] }
      selfSignal sig
    | cs =>
      if cs.isEmpty || !cs.all Char.isDigit then fatal (some "kill") ("Illegal number: " ++ t)
      if !(← signalProcess t.toNat! sig) then
        shellError (some "kill") "No such process\n"
        status := 1
  setStatus status

/-! ### Directories -/

/-- Normalize a path lexically: drop `.`, let `..` remove the name before it. -/
def lexicalNames (names : List String) : List String :=
  names.foldl (fun acc n => if n = "." then acc else if n = ".." then acc.dropLast else acc ++ [n]) []

/-- `cd [-L|-P] [DIR]`: to `HOME` without an operand, to `OLDPWD` (printed) for `-`,
and to the working directory when that is empty or unset. -/
def cdBuiltin (args : List String) : M Unit := do
  let s ← getSh
  -- leading `-L` and `-P` are options, the last one deciding; words after the first
  -- operand are ignored
  let (opts, operands) ← match valuedOptions [('L', false), ('P', false)] args with
    | .ok r => pure r
    | .error msg => fatal (some "cd") msg
  let physical := (opts.getLast?.map (·.1)) == some 'P'
  let (target, announce) := match operands with
    | [] => ((s.var? "HOME").getD "", false)
    | "-" :: _ => ((s.var? "OLDPWD").getD "", true)
    | d :: _ => (d, false)
  let target := if target.isEmpty then "." else target
  let text := Text.Octets.toText target
  let logical := if Path.isAbsolute text then pathNames text
    else pathNames (Text.Octets.toText s.cwd) ++ pathNames text
  let names := lexicalNames logical
  let w ← get
  let found := if physical then stat w.fs s.phys text else stat w.fs [] (Path.ofNames true names)
  match found with
  | .ok (canon, .dir _) =>
    let newCwd := Text.Octets.ofText (Path.ofNames true (if physical then canon else names))
    let s := (s.setVar "OLDPWD" s.cwd).exportVar "OLDPWD"
    let s := (s.setVar "PWD" newCwd).exportVar "PWD"
    setSh { s with cwd := newCwd, phys := canon, status := 0 }
    if announce then putStr 1 (newCwd ++ "\n")
  | _ => fatal (some "cd") ("can't cd to " ++ target)

/-- `pwd`. -/
def pwdBuiltin (args : List String) : M Unit := do
  if args.contains "-P" then
    let p ← Host.Program.physicalCwd
    putStr 1 (p ++ "\n")
  else putStr 1 ((← getSh).cwd ++ "\n")
  setStatus 0

/-! ### Input -/

/-- Split a line read by `read` among `n` names: blanks in `IFS` around fields are
dropped, the last name takes the rest of the line less its trailing blanks. The
characters carry whether a backslash protected them. -/
def readFields (ifs : List Char) (n : Nat) (line : List (Char × Bool)) : List String :=
  let isSep (p : Char × Bool) := !p.2 && ifs.contains p.1
  let isSepBlank (p : Char × Bool) := isSep p && ifsBlank p.1
  let rec go : Nat → Nat → List (Char × Bool) → List String
    | 0, _, _ => []
    | _, 0, _ => []
    | _, 1, rest =>
      let rest := rest.dropWhile isSepBlank
      let trimmed := (rest.reverse.dropWhile isSepBlank).reverse
      [String.ofList (trimmed.map (·.1))]
    | fuel + 1, k + 1, rest =>
      let rest := rest.dropWhile isSepBlank
      let field := rest.takeWhile (!isSep ·)
      let after := rest.drop field.length
      -- one separator: blanks, then at most one other IFS character, then blanks
      let after := after.dropWhile isSepBlank
      let after := match after with
        | p :: more => if isSep p && !ifsBlank p.1 then more.dropWhile isSepBlank else after
        | [] => []
      String.ofList (field.map (·.1)) :: go fuel k after
  go (line.length + n + 1) n line

/-- `read [-r] [-p prompt] name...`. -/
def readBuiltin (args : List String) : M Unit := do
  let (flags, names) ← match valuedOptions [('p', true), ('r', false)] args with
    | .ok r => pure r
    | .error msg => fatal (some "read") msg
  let raw := flags.any (·.1 == 'r')
  let prompt := (flags.filter (·.1 == 'p')).getLast?.bind (·.2)
  if names.isEmpty then fatal (some "read") "arg count"
  match prompt with
  | some p => if (← fd? 0) == some .terminal then putStr 2 p
  | none => pure ()
  let limit := (← get).steps + 1
  let mut line : Array (Char × Bool) := #[]
  let mut gotNewline := false
  let mut escaped := false
  for _ in [0:limit] do
    useStep
    match ← readFd 0 1 with
    | none => break
    | some bs =>
      match bs with
      | [] => break
      | b :: _ =>
        let c := Char.ofNat b.toNat
        if escaped then
          escaped := false
          if c = '\n' then pure ()
          else line := line.push (c, true)
        else if c = '\\' && !raw then escaped := true
        else if c = '\n' then
          gotNewline := true
          break
        else line := line.push (c, false)
  let ifs := (← ifsValue).toList
  let values := readFields ifs names.length line.toList
  for (name, i) in names.zipIdx do
    if !isName name then fatal (some "read") (name ++ ": bad variable name")
    assign name (values.getD i "")
  setStatus (if gotNewline then 0 else 1)

/-! ### Output -/

/-- `echo`. -/
def echoBuiltin (args : List String) : M Unit := do
  putStr 1 (String.ofList (Format.echo args))
  setStatus 0

/-- `printf`. -/
def printfBuiltin (args : List String) : M Unit := do
  -- one word of options is read, and none is known
  let args ← match args with
    | "--" :: rest => pure rest
    | a :: _ =>
      match a.toList with
      | '-' :: c :: _ => fatal (some "printf") ("Illegal option -" ++ String.singleton c)
      | _ => pure args
    | [] => pure args
  match args with
  | [] => fatal (some "printf") "usage: printf format [arg ...]"
  | fmt :: rest =>
    let out := Format.printf fmt rest
    match out.failure with
    | some f =>
      -- an error drops what was written so far
      for w in out.warnings do shellError (some "printf") w.message
      shellError (some "printf") f.message
      setStatus 2
    | none =>
      putStr 1 (String.ofList out.text)
      for w in out.warnings do shellError (some "printf") w.message
      setStatus (if out.warnings.isEmpty then 0 else 1)

/-! ### Tests -/

/-- What `test` can see of the host. -/
def probe : M Condition.Probe := do
  let w ← get
  let s := w.sh
  let kind (p : String) : Option Condition.Kind :=
    match stat w.fs s.phys (Text.Octets.toText p) with
    | .ok (_, .file c) => some (.regular c.length)
    | .ok (_, .program _) => some (.regular 1)
    | .ok (_, .dir _) => some .directory
    | .ok (_, .device _) => some .charDevice
    | .ok (_, .link _) => some .other
    | .error _ => none
  let isLink (p : String) : Bool :=
    match lookup w.fs s.phys (Text.Octets.toText p) false with
    | .ok names => match w.fs.get? names with
      | some (.link _) => true
      | _ => false
    | .error _ => false
  let isTerminal (n : Nat) : Bool := s.fds.lookup n == some .terminal
  let place (p : String) : Option (List String) :=
    match stat w.fs s.phys (Text.Octets.toText p) with
    | .ok (names, _) => some names
    | .error _ => none
  return ⟨kind, isLink, isTerminal, place⟩

/-- `test` and `[`. -/
def testBuiltin (name : String) (args : List String) : M Unit := do
  let p ← probe
  let result := if name = "[" then Condition.bracket p args else Condition.evaluate p args
  match result with
  | .ok v => setStatus (if v then 0 else 1)
  | .error e =>
    shellError (some name) e.message
    setStatus 2

end Confine.Shell
