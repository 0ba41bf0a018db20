import Confine.Shell.Builtin
import Confine.Shell.Arith
import Confine.Host.Program.Text
import Confine.Host.Program.Files
import Confine.Host.Program.System
import Confine.Host.Program.Printing
import Confine.Host.Program.Predicate
import Confine.Host.Program.Clock
import Confine.Host.Program.Sequence
import Confine.Host.Program.Search
import Confine.Host.Program.Batches
import Confine.Host.Program.Columns
import Confine.Host.Program.Expression
import Confine.Host.Program.Dump
import Confine.Host.Program.Ends
import Confine.Host.Program.Ordering
import Confine.Host.Program.Translate
/-!
# The shell evaluator

Words are expanded (tilde, parameters, command substitution, arithmetic), split into
fields by `IFS`, matched against file names, and have their quotes removed. Simple
commands expand their words first, then apply their redirections, then their
assignments, and run a special builtin, a function, a builtin or a program found
on `PATH`, in that order of lookup. Programs and subshells run as child processes
with their own clocks; the parent waits for them and resumes when they end.

A pipeline's stages run one after another, each reading what the one before wrote,
with the times it wrote it. Since a reader that ends early stops its writer (with
the broken-pipe signal at the writer's next write), the stages are run over a
growing window of time until the time each reader went away is known; each round
starts again from the state before the pipeline.

Background jobs are run when the shell waits for them, or when the job is over.

Every function takes fuel that bounds the nesting of evaluation; loops are bounded
by the world's step budget. When either runs out the process is taken to run on
unseen (`stall`).
-/

namespace Confine.Shell

open Confine.Host

/-- How a command name is found. -/
inductive Resolved where
  | special
  | function (body : Command)
  | builtin
  /-- A program file, by path, and the program it holds. -/
  | program (path : String) (utility : String)
  /-- A file found that cannot be run. -/
  | denied (path : String)
  | missing

/-- A child process as its parent sees it at the end. -/
structure Ended where
  pid : Nat
  finish : Option Nat
  status : Option Status

/-- Whether a process holds the job's output open. -/
def holdsOutput (fds : List (Nat × Fd)) : Bool :=
  fds.any fun (_, f) => match f with
    | .stream _ | .terminal => true
    | _ => false

/-- The state of a child forked from `s` at `start`: caught traps and pending
signals are not inherited; ignored signals are. -/
def Sh.fork (s : Sh) (pid start : Nat) : Sh :=
  { s with pid, now := start, seen := start, traps := s.traps.filter (·.2.isEmpty),
           pendingTraps := [], interactive := false, shellIgnored := [], locals := [],
           subStatus := none, jobControl := false }

/-- Run `body` as the process `child`; afterwards the caller's own state is back. -/
def runProcess (child : Sh) (body : M Unit) : M Ended := do
  let parent ← getSh
  setSh child
  let r ← tryCatch (do body; pure none) (fun f => pure (some f))
  let s ← getSh
  let (finish, status) : Option Nat × Option Status := match r with
    | none => (some s.now, some (.exited (s.status % 256)))
    | some (.exit c) => (some s.now, some (.exited (c % 256)))
    | some (.abort c) => (some s.now, some (.exited (c % 256)))
    | some (.ret c) => (some s.now, some (.exited (c % 256)))
    | some (.killed sig) => (some s.now, some (.signaled sig))
    | some .stall => (none, none)
    | some (.brk _) | some (.cont _) => (some s.now, some (.exited (s.status % 256)))
  modify fun w => { w with procs := w.procs ++ [⟨child.pid, child.now, finish, status, holdsOutput s.fds⟩] }
  setSh parent
  return ⟨child.pid, finish, status⟩

/-- Wait in the foreground for a child: caught signals wait until it is done. -/
def awaitChild (e : Ended) : M Nat := do
  match e.finish with
  | some t =>
    let _ ← waitUntil (some (Nat.max t (← now)))
    spend cost.reap
    return match e.status with
      | some st => st.code
      | none => 0
  | none =>
    let _ ← waitUntil none
    throw .stall

/-- Wait in the foreground for a child the shell forked. Every child that ended by
then is collected, and a child killed by a signal other than `INT` or `PIPE` is
reported by the signal's description. -/
def awaitForked (e : Ended) : M Nat := do
  let code ← awaitChild e
  modifySh fun s => { s with reapedUntil := s.now }
  reportSignal e.status
  return code

/-- The text of bits, quotes removed; a cut stands for a space. -/
def bitsText (bits : List Bit) : String :=
  String.ofList (bits.filterMap fun b => match b with
    | .ch c _ _ => some c
    | .cut => some ' '
    | .mark => none)

/-- The characters of bits with whether each was quoted, for a pattern. -/
def bitsMarked (bits : List Bit) : List (Char × Bool) :=
  bits.filterMap fun b => match b with
    | .ch c q _ => some (c, q)
    | _ => none

/-- Whether a value counts as missing for an operator (with `:`, empty counts). -/
def missingValue (v : Option String) (colon : Bool) : Bool :=
  match v with
  | none => true
  | some x => colon && x.isEmpty

/-- Join lists with a separator list between them. -/
def joinWith (sep : List Bit) : List (List Bit) → List Bit
  | [] => []
  | [x] => x
  | x :: rest => x ++ sep ++ joinWith sep rest

/-- The home directory of `~user`. -/
def tildeValue (user : String) : M String := do
  if user.isEmpty then return ((← getSh).var? "HOME").getD "~"
  else if user = "root" then return "/root"
  else return "~" ++ user

/-- Strip trailing line feeds. -/
def stripNewlines (s : String) : String :=
  String.ofList ((s.toList.reverse.dropWhile (· = '\n')).reverse)

/-- Find a command on `PATH`. An empty entry is the working directory. -/
def searchPathIn (path name : String) : M (Resolved × Nat) := do
  let s ← getSh
  let w ← get
  let dirs := path.splitOn ":"
  let mut denied : Option (String × Nat) := none
  for (d, i) in dirs.zipIdx do
    let full := if d.isEmpty then name else d ++ "/" ++ name
    match stat w.fs s.phys (Text.Octets.toText full) with
    | .ok (_, .program u) => return (.program full u, i)
    | .ok (_, .file _) => if denied.isNone then denied := some (full, i)
    | _ => pure ()
  match denied with
  | some (p, i) => return (.denied p, i)
  | none => return (.missing, 0)

/-- Look a name up in the search path; an unset `PATH` searches the working directory. -/
def searchPath (name : String) : M Resolved := do
  return (← searchPathIn (((← getSh).var? "PATH").getD "") name).1

/-- Look a name up as a program that runs programs does: in `PATH`, or in the system's
own path when it is unset. -/
def programSearch (name : String) : M Resolved := do
  return (← searchPathIn (((← getSh).var? "PATH").getD "/bin:/usr/bin") name).1

/-- Look a name up in the search path, and remember where a program was found. -/
def trackPath (name : String) : M Resolved := do
  let s ← getSh
  match CommandTable.lookup s.commands name with
  | some full =>
    match stat (← get).fs s.phys (Text.Octets.toText full) with
    | .ok (_, .program u) => return .program full u
    | _ => pure ()
  | none => pure ()
  let (r, i) ← searchPathIn ((s.var? "PATH").getD "") name
  match r with
  | .program full _ =>
    modifySh fun s => { s with commands := CommandTable.remember s.commands ⟨name, full, i⟩ }
  | _ => pure ()
  return r

/-- Find a command by name: special builtins, functions, builtins, then files, with
`search` looking a name without a slash up in the search path. -/
def resolveWith (name : String) (functions : Bool) (search : String → M Resolved) :
    M Resolved := do
  let s ← getSh
  if specialNames.contains name then return .special
  if functions then
    match s.funcs.lookup name with
    | some body => return .function body
    | none => pure ()
  if regularNames.contains name then return .builtin
  if name.toList.contains '/' then
    let w ← get
    match stat w.fs s.phys (Text.Octets.toText name) with
    | .ok (_, .program u) => return .program name u
    | .ok _ => return .denied name
    | .error _ => return .missing
  search name

/-- Find a command by name without remembering it. -/
def resolveName (name : String) (functions : Bool) : M Resolved :=
  resolveWith name functions searchPath

/-- Open a redirection target. `none` inside `ok` closes the descriptor. -/
def openTarget (op : RedirOp) (path : String) : M (Except String (Option Fd)) := do
  let s ← getSh
  match op with
  | .dupInput | .dupOutput =>
    if path = "-" then return .ok none
    else if !path.isEmpty && path.toList.all Char.isDigit then
      match s.fds.lookup path.toNat! with
      | some f => return .ok (some f)
      | none => return .error (path ++ ": Bad file descriptor")
    else return .error ("Syntax error: Bad fd number")
  | .input =>
    match ← statPath path with
    | .ok (_, node) =>
      match node with
      | .file content => return .ok (some (.feed (← newFeed (Feed.ofFile s.now content))))
      | .program _ => return .ok (some (.feed (← newFeed (Feed.ofFile s.now Program.programImage))))
      | .device .null => return .ok (some .null)
      | .device .zero | .device .full => return .ok (some .zero)
      | .device (.descriptor k) =>
        match s.fds.lookup k with
        | some f => return .ok (some f)
        | none => return .error ("cannot open " ++ path ++ ": No such file")
      | .device .terminal =>
        if (← get).onTerminal then return .ok (some .terminal)
        else return .error ("cannot open " ++ path ++ ": No such device or address")
      | .dir _ => return .ok (some (.feed (← newFeed (Feed.empty s.now))))
      | .link _ => return .error ("cannot open " ++ path ++ ": No such file")
    | .error e =>
      let msg := if e = .noEntry || e = .notDir then "No such file" else e.text
      return .error ("cannot open " ++ path ++ ": " ++ msg)
  | _ =>
    let truncate := op == .output || op == .clobber
    match ← statPath path with
    | .ok (names, node) =>
      match node with
      | .dir _ => return .error ("cannot create " ++ path ++ ": Is a directory")
      | .device .null => return .ok (some .null)
      | .device .zero => return .ok (some .zero)
      | .device .full => return .ok (some .full)
      | .device (.descriptor k) =>
        -- the descriptor's file, opened again: a regular file is truncated again
        match s.fds.lookup k with
        | some (.file names) =>
          if truncate then modify fun w => { w with fs := (w.fs.put? names (.file [])).getD w.fs }
          return .ok (some (.file names))
        | some f => return .ok (some f)
        | none => return .error ("cannot create " ++ path ++ ": Directory nonexistent")
      | .device .terminal =>
        if (← get).onTerminal then return .ok (some .terminal)
        else return .error ("cannot create " ++ path ++ ": No such device or address")
      | _ =>
        -- under `set -C`, `>` does not overwrite a regular file
        if op == .output && s.option "noclobber" then
          return .error ("cannot create " ++ path ++ ": File exists")
        if truncate then
          modify fun w => { w with fs := (w.fs.put? names (.file [])).getD w.fs }
        if op == .readWrite then return .ok (some (← openShared names))
        return .ok (some (.file names))
    | .error _ =>
      match ← creationPlace path with
      | .ok (dir, name) =>
        let names := dir ++ [Text.Octets.toText name]
        modify fun w => { w with fs := (w.fs.put? names (.file [])).getD w.fs }
        if op == .readWrite then return .ok (some (← openShared names))
        return .ok (some (.file names))
      | .error e =>
        let msg := if e = .noEntry || e = .notDir then "Directory nonexistent" else e.text
        return .error ("cannot create " ++ path ++ ": " ++ msg)

/-- Put saved descriptors back, last saved first. -/
def restoreFds (saved : List (Nat × Option Fd)) : M Unit :=
  modifySh fun s => saved.reverse.foldl (fun s (n, f) => s.setFd n f) s

/-- The text of parts that are not expanded (a here-document with a quoted
delimiter). -/
def literalText (parts : List WordPart) : String :=
  String.join (parts.map fun p => match p with
    | .lit s => s
    | .squote s => s
    | .escaped c => String.singleton c
    | _ => "")

/-- Raise the status's error exit under `set -e`. -/
def checkErrexit : M Unit := do
  let s ← getSh
  if s.errexit && !s.guarded && s.status != 0 then throw (.exit s.status)

/-- Set a variable for the length of a command, remembering what it was. -/
def tempAssign (name value : String) : M (String × Option Var) := do
  let s ← getSh
  let old := s.vars.lookup name
  assign name value
  modifySh (·.exportVar name)
  return (name, old)

/-- Put back variables set for a command. -/
def restoreVars (saved : List (String × Option Var)) : M Unit :=
  modifySh fun s => saved.reverse.foldl (fun s (name, old) =>
    match old with
    | some v =>
      if (s.vars.lookup name).isSome then
        { s with vars := s.vars.map fun (n, x) => if n = name then (n, v) else (n, x) }
      else { s with vars := s.vars ++ [(name, v)] }
    | none => s.unsetVar name) s

/-- The initial variables of a shell: its own, each at the front of its bucket, then
the environment in order. -/
def initialVars (env : List (String × String)) : List (String × Var) :=
  let own : List (String × Option String) :=
    [("IFS", some " \t\n"), ("MAIL", none), ("MAILPATH", none),
     ("PATH", some "/usr/local/sbin:/usr/local/bin:/usr/sbin:/usr/bin:/sbin:/bin"),
     ("PS1", some "# "), ("PS2", some "> "), ("PS4", some "+ "), ("OPTIND", some "1"),
     ("LINENO", some "")]
  let base : List (String × Var) := own.reverse.map fun (n, v) => (n, { value := v })
  env.foldl (fun vars (n, v) =>
    if (vars.lookup n).isSome then
      vars.map fun (m, x) => if m = n then (m, { x with value := some v, exported := true }) else (m, x)
    else vars ++ [(n, { value := some v, exported := true })]) base

mutual

/-- The bits of a word's parts; `q` inside double quotes. -/
def partsBits : Nat → List WordPart → Bool → M (List Bit)
  | 0, _, _ => throw .stall
  | n + 1, ps, q => do
    let mut acc : Array Bit := #[]
    for p in ps do
      acc := acc ++ (← partBits n p q).toArray
    pure acc.toList

/-- The bits of one part. -/
def partBits : Nat → WordPart → Bool → M (List Bit)
  | 0, _, _ => throw .stall
  | n + 1, part, q => do
    match part with
    | .lit s => pure (if q then Bit.quotedText s else Bit.literal s)
    | .escaped c => pure [.ch c true false]
    | .squote s => pure (.mark :: Bit.quotedText s)
    | .dquote parts =>
      let inner ← partsBits n parts true
      let s ← getSh
      let hasAt := parts.any fun p => match p with
        | .param "@" .plain _ => true
        | _ => false
      pure (if s.positional.isEmpty && hasAt then inner else .mark :: inner)
    | .param name op arg => paramBits n name op arg q
    | .cmdSub src line =>
      let out ← commandOutput n src line
      pure (if q then Bit.quotedText out else Bit.expanded out)
    | .arith parts =>
      let v ← arithValue n parts
      pure (if q then Bit.quotedText v else Bit.expanded v)
    | .tilde user => do pure (Bit.quotedText (← tildeValue user))

/-- A parameter expansion. -/
def paramBits : Nat → String → ParamOp → List WordPart → Bool → M (List Bit)
  | 0, _, _, _, _ => throw .stall
  | n + 1, name, op, arg, q => do
    let s ← getSh
    let textBits (v : String) : List Bit := if q then Bit.quotedText v else Bit.expanded v
    if (name = "@" || name = "*") && op == .plain then
      if q then
        if name = "@" then
          return joinWith [.cut] (s.positional.map fun p => .mark :: Bit.quotedText p)
        else
          let ifs ← ifsValue
          let sep := match ifs.toList with
            | c :: _ => String.singleton c
            | [] => ""
          return Bit.quotedText (sep.intercalate s.positional)
      else
        return joinWith [.cut] (s.positional.map Bit.expanded)
    if (name = "@" || name = "*" || name = "#") && op == .length then
      return textBits (decimal (if name = "#" then (decimal s.positional.length).length else s.positional.length))
    let value ← paramValue name
    match op with
    | .plain =>
      match value with
      | some v => pure (textBits v)
      | none =>
        if s.nounset then fatal none (name ++ ": parameter not set")
        else pure []
    | .length =>
      match value with
      | some v => pure (textBits (decimal v.length))
      | none =>
        if s.nounset then fatal none (name ++ ": parameter not set")
        else pure (textBits "0")
    | .useDefault colon =>
      if missingValue value colon then partsBits n arg q else pure (textBits (value.getD ""))
    | .assignDefault colon =>
      if missingValue value colon then
        let bits ← partsBits n arg q
        let v := bitsText bits
        if isName name then assign name v
        else fatal none (name ++ ": bad variable name")
        pure (textBits v)
      else pure (textBits (value.getD ""))
    | .errorIfUnset colon =>
      if missingValue value colon then
        let bits ← partsBits n arg q
        let msg := bitsText bits
        let msg := if msg.isEmpty then
            (if colon then "parameter null or not set" else "parameter not set")
          else msg
        fatal none (name ++ ": " ++ msg)
      else pure (textBits (value.getD ""))
    | .useAlternative colon =>
      if missingValue value colon then pure [] else partsBits n arg q
    | .removePrefix largest =>
      let v := value.getD ""
      let pat := Glob.ofMarked (bitsMarked (← partsBits n arg false))
      match Glob.prefixMatch pat v.toList largest with
      | some k => pure (textBits (String.ofList (v.toList.drop k)))
      | none => pure (textBits v)
    | .removeSuffix largest =>
      let v := value.getD ""
      let pat := Glob.ofMarked (bitsMarked (← partsBits n arg false))
      match Glob.suffixMatch pat v.toList largest with
      | some k => pure (textBits (String.ofList (v.toList.take (v.length - k))))
      | none => pure (textBits v)

/-- The output of a command substitution, without its trailing line feeds. -/
def commandOutput : Nat → String → Nat → M String
  | 0, _, _ => throw .stall
  | n + 1, src, line => do
    let _ ← claimJobNumber
    let s ← getSh
    let pid ← newPid
    let pipe ← newPipe
    let child := (s.fork pid (s.now + cost.fork)).setFd 1 (some (.pipe pipe))
    let ended ← runProcess child (do
      match readAll src line s.bodies s.aliases with
      | .error e =>
        modifySh fun s => { s with line := e.line }
        shellError none ("Syntax error: " ++ e.message)
        throw (.exit 2)
      | .ok (c, bodies) =>
        modifySh fun s => { s with bodies }
        evalCommand n c
        throw (.exit (← getSh).status))
    let code ← awaitForked ended
    modifySh fun s => { s with subStatus := some code }
    let chunks ← pipeChunks pipe
    return stripNewlines (Text.Octets.ofBytes (chunks.flatMap (·.2)))

/-- The value of an arithmetic expansion. -/
def arithValue : Nat → List WordPart → M String
  | 0, _ => throw .stall
  | n + 1, parts => do
    let text := bitsText (← partsBits n parts true)
    let s ← getSh
    match Arith.eval (fun name => s.var? name) text with
    | .ok (v, assigns) =>
      for (name, value) in assigns do assign name (Arith.render value)
      pure (Arith.render v)
    | .error .quotientTrap => throw (.killed Signal.fpe)
    | .error e => fatal none (e.message text)

/-- Expand words into fields: split and matched against file names. -/
def expandWords : Nat → List (List WordPart) → M (List String)
  | 0, _ => throw .stall
  | n + 1, words => do
    let mut out : Array String := #[]
    for w in words do
      let bits ← partsBits n w false
      let ifs ← ifsValue
      let fields := splitFields ifs bits
      let s ← getSh
      let fs := (← get).fs
      for f in fields do
        if s.noglob then out := out.push f.text
        else
          let found := globField fs s.phys f
          if found.isEmpty then out := out.push f.text else out := out ++ found.toArray
    pure out.toList

/-- Expand a word to one text, without splitting or file names. -/
def expandText : Nat → List WordPart → M String
  | 0, _ => throw .stall
  | n + 1, w => do pure (bitsText (← partsBits n w false))

/-- Apply redirections to the current process. On failure the error is reported,
what was done is undone, and the result is `none`. -/
def applyRedirs : Nat → List Redir → M (Option (List (Nat × Option Fd)))
  | 0, _ => throw .stall
  | n + 1, rs => do
    let mut saved : List (Nat × Option Fd) := []
    for r in rs do
      match r with
      | .file fd op target =>
        let path ← expandText n target
        match ← openTarget op path with
        | .ok f =>
          saved := saved ++ [(fd, ← fd? fd)]
          modifySh (·.setFd fd f)
        | .error msg =>
          shellError none msg
          restoreFds saved
          return none
      | .here fd idx expand =>
        let body := ((← getSh).bodies[idx]?).getD []
        let text ← if expand then do pure (bitsText (← partsBits n body true)) else pure (literalText body)
        let id ← newFeed (Feed.ofBytes (← now) (Text.Octets.toBytes text))
        saved := saved ++ [(fd, ← fd? fd)]
        modifySh (·.setFd fd (some (.feed id)))
    return some saved

/-- Run a command with redirections around it; a failed redirection gives status 2. -/
def withRedirs : Nat → List Redir → M Unit → M Unit
  | 0, _, _ => throw .stall
  | n + 1, rs, body => do
    if rs.isEmpty then body
    else
      match ← applyRedirs n rs with
      | none => setStatus 2
      | some saved =>
        let r ← tryCatch (do body; pure none) (fun f => pure (some f))
        restoreFds saved
        match r with
        | some f => throw f
        | none => pure ()

/-- Evaluate a command with `set -e` suspended, as in a condition. -/
def guardedEval : Nat → Command → M Unit
  | 0, _ => throw .stall
  | n + 1, c => do
    let g := (← getSh).guarded
    modifySh fun s => { s with guarded := true }
    let r ← tryCatch (do evalCommand n c; pure none) (fun f => pure (some f))
    modifySh fun s => { s with guarded := g }
    match r with
    | some f => throw f
    | none => pure ()

/-- Evaluate a command. -/
def evalCommand : Nat → Command → M Unit
  | 0, _ => throw .stall
  | n + 1, c => do
    useStep
    match c with
    | .simple assigns words redirs line => evalSimple n assigns words redirs line
    | .pipeline neg stages => evalPipeline n neg stages
    | .andOr first rest => evalAndOr n first rest
    | .list items => evalList n items
    | .subshell body redirs =>
      withRedirs n redirs (do
        let code ← runSubshell n body
        setStatus code
        checkErrexit)
    | .group body redirs => withRedirs n redirs (evalCommand n body)
    | .ifThen branches otherwise redirs => withRedirs n redirs (evalIf n branches otherwise)
    | .loop untilMode cond body redirs => withRedirs n redirs (evalLoop n untilMode cond body)
    | .forIn var words body redirs => withRedirs n redirs (evalFor n var words body)
    | .caseOf subject arms redirs => withRedirs n redirs (evalCase n subject arms)
    | .funDef name body =>
      modifySh fun s => { s with funcs := (s.funcs.filter (·.1 != name)) ++ [(name, body)] }
      setStatus 0

/-- A list: each command in turn, the background ones started and left. -/
def evalList : Nat → List (Command × Bool) → M Unit
  | 0, _ => throw .stall
  | n + 1, items => do
    if items.isEmpty then setStatus ((← getSh).status)
    for (c, async) in items do
      if async then background n c else evalCommand n c
      runPendingTraps n

/-- `a && b || c`: all but the last run as conditions. -/
def evalAndOr : Nat → Command → List (Connective × Command) → M Unit
  | 0, _, _ => throw .stall
  | n + 1, first, rest => do
    if rest.isEmpty then evalCommand n first
    else
      guardedEval n first
      let count := rest.length
      for ((conn, c), i) in rest.zipIdx do
        let st := (← getSh).status
        let go := match conn with
          | .andThen => st == 0
          | .orElse => st != 0
        if go then
          if i + 1 == count then evalCommand n c else guardedEval n c

/-- `if`. -/
def evalIf : Nat → List (Command × Command) → Option Command → M Unit
  | 0, _, _ => throw .stall
  | n + 1, branches, otherwise => do
    for (cond, body) in branches do
      guardedEval n cond
      if (← getSh).status == 0 then
        evalCommand n body
        return
    match otherwise with
    | some e => evalCommand n e
    | none => setStatus 0

/-- What a loop body's end asks of the loop. -/
def loopBody : Nat → Command → M Nat
  | 0, _ => throw .stall
  | n + 1, body => do
    let r ← tryCatch (do evalCommand n body; pure none) (fun f => pure (some f))
    match r with
    | none => pure 0
    | some (.brk k) =>
      if k > 1 && (← getSh).loops > 1 then
        modifySh fun s => { s with loops := s.loops - 1 }
        throw (.brk (k - 1))
      else pure 1
    | some (.cont k) =>
      if k > 1 && (← getSh).loops > 1 then
        modifySh fun s => { s with loops := s.loops - 1 }
        throw (.cont (k - 1))
      else pure 2
    | some f =>
      modifySh fun s => { s with loops := s.loops - 1 }
      throw f

/-- `while` and `until`. -/
def evalLoop : Nat → Bool → Command → Command → M Unit
  | 0, _, _, _ => throw .stall
  | n + 1, untilMode, cond, body => do
    modifySh fun s => { s with loops := s.loops + 1 }
    let mut last := 0
    let limit := (← get).steps + 1
    for _ in [0:limit] do
      useStep
      guardedEval n cond
      let st := (← getSh).status
      if (st == 0) == untilMode then break
      let r ← loopBody n body
      last := (← getSh).status
      if r == 1 then break
    modifySh fun s => { s with loops := s.loops - 1 }
    setStatus last

/-- `for`. -/
def evalFor : Nat → String → Option (List (List WordPart)) → Command → M Unit
  | 0, _, _, _ => throw .stall
  | n + 1, var, words, body => do
    let items ← match words with
      | some ws => expandWords n ws
      | none => pure (← getSh).positional
    modifySh fun s => { s with loops := s.loops + 1 }
    let mut last := 0
    for item in items do
      useStep
      assign var item
      let r ← loopBody n body
      last := (← getSh).status
      if r == 1 then break
    modifySh fun s => { s with loops := s.loops - 1 }
    setStatus last

/-- `case`. -/
def evalCase : Nat → List WordPart → List (List (List WordPart) × Command) → M Unit
  | 0, _, _ => throw .stall
  | n + 1, subject, arms => do
    let text ← expandText n subject
    for (patterns, body) in arms do
      for p in patterns do
        let pat := Glob.ofMarked (bitsMarked (← partsBits n p false))
        if Glob.fits pat text.toList then
          evalCommand n body
          return
    setStatus 0

/-- Run a command in a subshell and wait for it. -/
def runSubshell : Nat → Command → M Nat
  | 0, _ => throw .stall
  | n + 1, body => do
    let _ ← claimJobNumber
    let s ← getSh
    let pid ← newPid
    let ended ← runProcess (s.fork pid (s.now + cost.fork)) (do
      evalCommand n body
      throw (.exit (← getSh).status))
    awaitForked ended

/-- Start a background job; it runs when waited for or at the end. -/
def background : Nat → Command → M Unit
  | 0, _ => throw .stall
  | _ + 1, c => do
    let number ← claimJobNumber
    let s ← getSh
    let pid ← newPid
    let start := s.now + cost.fork
    let child := s.fork pid start
    -- without job control the job ignores interrupts and reads nothing
    let ignore := [Signal.int, Signal.quit].filter (!child.ignored.contains ·)
    let child := if s.jobControl then child
      else { child with ignored := child.ignored ++ ignore }.setFd 0 (some .null)
    let job : Job := { pid, owner := s.pid, number, start, child, body := c, signals := [],
                       outcome := none, controlled := s.jobControl,
                       texts := jobTexts s.jobControl c }
    modify fun w => { w with jobs := w.jobs ++ [job] }
    modifySh fun s => { s with lastBackground := some pid }
    spend (cost.builtin * 10)
    setStatus 0

/-- Run a background job if it has not run: its end and status. -/
def settleJob : Nat → Nat → M (Option (Option Nat × Option Status))
  | 0, _ => throw .stall
  | n + 1, pid => do
    let w ← get
    match w.jobs.find? (·.pid == pid) with
    | none => pure none
    | some j =>
      match j.outcome with
      | some o => pure (some o)
      | none =>
        let e ← runProcess j.child (do
          evalCommand n j.body
          throw (.exit (← getSh).status))
        let o := (e.finish, e.status)
        modify fun w => { w with jobs := w.jobs.map fun k => if k.pid == pid then { k with outcome := some o } else k }
        pure (some o)

/-- Runs a background job that has not run to learn whether it ends by `limit`; only
then is its run kept. A job still running then is run again once asked for after that,
so that a signal sent to it meanwhile reaches it. -/
def settleJobBy : Nat → Nat → Nat → M Unit
  | 0, _, _ => throw .stall
  | n + 1, limit, pid => do
    let w ← get
    match w.jobs.find? (·.pid == pid) with
    | some j =>
      if j.outcome.isNone then
        match ← settleJob n pid with
        | some (some t, _) => if t ≤ limit then pure () else set w
        | _ => set w
    | none => pure ()

/-- A pipeline of several stages. -/
def evalPipeline : Nat → Bool → List Command → M Unit
  | 0, _, _ => throw .stall
  | n + 1, neg, stages => do
    match stages with
    | [single] =>
      if neg then
        guardedEval n single
        setStatus (if (← getSh).status == 0 then 1 else 0)
      else evalCommand n single
    | _ =>
      let code ← runPipeline n stages
      setStatus (if neg then (if code == 0 then 1 else 0) else code)
      if !neg then checkErrexit

/-- Run the stages of a pipeline once, each stage's reader gone at the given time. -/
def runStages : Nat → List Command → List (Option Nat) → M (List Ended)
  | 0, _, _ => throw .stall
  | n + 1, stages, gone => do
    let s ← getSh
    let mut input : Option Fd := s.fds.lookup 0
    let mut ends : Array Ended := #[]
    let count := stages.length
    for (cmd, i) in stages.zipIdx do
      let pid ← newPid
      let start := s.now + cost.fork + i * 20000
      let isLast := i + 1 == count
      let pipe ← if isLast then pure none else do
        let id ← newPipe
        modify fun w => { w with pipes := w.pipes.modify id fun p => { p with readerGone := gone.getD i none } }
        pure (some id)
      let child := (s.fork pid start).setFd 0 input
      let child := match pipe with
        | some id => child.setFd 1 (some (.pipe id))
        | none => child
      let e ← runProcess child (do
        evalCommand n cmd
        throw (.exit (← getSh).status))
      ends := ends.push e
      match pipe with
      | some id =>
        let chunks ← pipeChunks id
        let p := ((← get).pipes[id]?).getD { chunks := [], readerGone := none }
        let finish : FeedEnd := match p.endless with
          | some pat => .endless pat
          | none => match e.finish with
            | some t => .eof t
            | none => .never
        let feedId ← newFeed { chunks, finish }
        input := some (.feed feedId)
      | none => pure ()
    pure ends.toList

/-- A pipeline, run in rounds over a growing window until each reader's end is
known; then the shell waits for every stage. The status is the last stage's. -/
def runPipeline : Nat → List Command → M Nat
  | 0, _ => throw .stall
  | n + 1, stages => do
    let _ ← claimJobNumber
    let w0 ← get
    let start := w0.sh.now
    let full := w0.horizon
    let count := stages.length
    let mut window := Nat.min full (start + 2000000)
    let mut gone : List (Option Nat) := List.replicate count none
    let mut used := 0
    let mut result : List Ended := []
    for _ in [0:64] do
      set { w0 with horizon := window, steps := w0.steps - used }
      let ends ← runStages n stages gone
      used := used + ((w0.steps - used) - (← get).steps)
      let newGone := (List.range count).map fun i => (ends[i + 1]?).bind (·.finish)
      let cut := ends.any (·.finish.isNone)
      result := ends
      if newGone != gone then
        gone := newGone
      else if !cut || window ≥ full then break
      else window := Nat.min full (start + 2 * (window - start) + 1000000)
    modify fun w => { w with horizon := full }
    let latest : Option Nat := result.foldl (fun acc e => match acc, e.finish with
      | some a, some b => some (Nat.max a b)
      | _, _ => none) (some (← now))
    match latest with
    | some t =>
      let _ ← waitUntil (some t)
      spend cost.reap
      modifySh fun s => { s with reapedUntil := s.now }
    | none =>
      let _ ← waitUntil none
      throw .stall
    let byEnd := result.mergeSort fun a b => a.finish.getD 0 ≤ b.finish.getD 0
    for e in byEnd do reportSignal e.status
    return match result.getLast? with
      | some e => match e.status with
        | some st => st.code
        | none => 0
      | none => 0

/-- Under `set -x`, writes a command as it will run: `PS4`, then its assignments and its
words after expansion, separated by blanks, on the error output the command had
before its own redirections. -/
def traceCommand (values : List (String × String)) (argv : List String)
    (saved : List (Nat × Option Fd)) : M Unit := do
  let s ← getSh
  if !s.xtrace then return
  let text := (s.var? "PS4").getD "" ++
    " ".intercalate (values.map (fun (name, v) => name ++ "=" ++ v) ++ argv) ++ "\n"
  match saved.find? (·.1 == 2) with
  | some (_, before) =>
    let now := s.fds.lookup 2
    modifySh (·.setFd 2 before)
    putStr 2 text
    modifySh (·.setFd 2 now)
  | none => putStr 2 text

/-- A simple command: its words are expanded, then its redirections made and its
assignments expanded, then it is traced and looked up and run. -/
def evalSimple : Nat → List (String × List WordPart) → List (List WordPart) → List Redir →
    Nat → M Unit
  | 0, _, _, _, _ => throw .stall
  | n + 1, assigns, words, redirs, line => do
    modifySh fun s => { s with line, subStatus := none }
    let argv ← expandWords n words
    match argv with
    | [] =>
      match ← applyRedirs n redirs with
      | none => setStatus 2
      | some saved =>
        let mut values : List (String × String) := []
        for (name, w) in assigns do
          let v ← expandText n w
          assign name v
          values := values ++ [(name, v)]
        traceCommand values [] saved
        restoreFds saved
        setStatus ((← getSh).subStatus.getD 0)
      spend cost.builtin
      checkErrexit
    | name :: args =>
      -- a search path given with the command is the one it is found in, unremembered
      let given ← match assigns.find? (·.1 == "PATH") with
        | some (_, w) => some <$> expandText n w
        | none => pure none
      let kind ← resolveWith name true fun nm => match given with
        | some p => do return (← searchPathIn p nm).1
        | none => trackPath nm
      match ← applyRedirs n redirs with
      | none =>
        match kind with
        | .special => throw (.abort 2)
        | _ => setStatus 2
      | some saved =>
        match kind with
        | .special =>
          let mut values : List (String × String) := []
          for (v, w) in assigns do
            let x ← expandText n w
            assign v x
            values := values ++ [(v, x)]
          traceCommand values argv saved
          spend cost.builtin
          checkingOutput name (runSpecial n name args)
          if !(name == "exec" && args.isEmpty) then restoreFds saved
        | .missing =>
          let mut values : List (String × String) := []
          for (v, w) in assigns do
            values := values ++ [(v, ← expandText n w)]
          traceCommand values argv saved
          shellError none (name ++ ": not found")
          restoreFds saved
          setStatus 127
        | _ =>
          let mut temps : List (String × Option Var) := []
          let mut values : List (String × String) := []
          for (v, w) in assigns do
            let x ← expandText n w
            temps := temps ++ [← tempAssign v x]
            values := values ++ [(v, x)]
          traceCommand values argv saved
          let r ← tryCatch (do
            match kind with
            | .function body => callFunction n body args
            | .builtin =>
              spend cost.builtin
              -- an error in a regular builtin ends only the builtin, with status 2
              tryCatch (checkingOutput name (runBuiltin n name args)) fun f => match f with
                | .abort c => setStatus c
                | f => throw f
            | .program _ util => runExternal n util argv
            | .denied _ =>
              let code ← runDenied n name
              setStatus code
            | _ => pure ()
            pure none) (fun f => pure (some f))
          restoreVars temps
          restoreFds saved
          match r with
          | some f => throw f
          | none => pure ()
      checkErrexit

/-- A program that cannot be run: the child reports it and exits 126. -/
def runDenied : Nat → String → M Nat
  | 0, _ => throw .stall
  | _ + 1, name => do
    let _ ← claimJobNumber
    let s ← getSh
    let pid ← newPid
    let ended ← runProcess (s.fork pid (s.now + cost.fork)) (do
      shellError none (name ++ ": Permission denied")
      throw (.exit 126))
    awaitForked ended

/-- Call a function with arguments. -/
def callFunction : Nat → Command → List String → M Unit
  | 0, _, _ => throw .stall
  | n + 1, body, args => do
    let s ← getSh
    setSh { s with positional := args, calls := s.calls + 1, locals := [], optind := 1, optoff := none,
                   savedOptions := none }
    let r ← tryCatch (do evalCommand n body; pure none) (fun f => pure (some f))
    let after ← getSh
    let restored := after.locals.foldl (fun sh (name, old) =>
      match old with
      | some v => { sh with vars := sh.vars.map fun (m, x) => if m = name then (m, v) else (m, x) }
      | none => sh.unsetVar name) after
    let restored := match after.savedOptions with
      | some o => restored.withOptions o
      | none => restored
    setSh { restored with positional := s.positional, calls := s.calls, locals := s.locals,
                          optind := s.optind, optoff := s.optoff, savedOptions := s.savedOptions }
    match r with
    | some (.ret c) => setStatus c
    | some f => throw f
    | none => pure ()

/-- Run a program in a child process and wait for it. -/
def runExternal : Nat → String → List String → M Unit
  | 0, _, _ => throw .stall
  | n + 1, util, argv => do
    let _ ← claimJobNumber
    let s ← getSh
    let pid ← newPid
    let ended ← runProcess (s.fork pid (s.now + cost.fork)) (execProgram n util argv)
    setStatus (← awaitForked ended)

/-- Become a program: the process keeps its descriptors, its environment is what was
exported, and its exit ends the process. -/
def execProgram : Nat → String → List String → M Unit
  | 0, _, _ => throw .stall
  | n + 1, util, argv => do execWith n util argv (← getSh).environment

/-- Replace the process with a program, given its environment in order. -/
def execWith : Nat → String → List String → List (String × String) → M Unit
  | 0, _, _, _ => throw .stall
  | n + 1, util, argv, env => do
    let s ← getSh
    setSh { s with vars := env.map fun (k, v) => (k, { value := some v, exported := true }),
                   funcs := [], traps := [], pendingTraps := [], positional := argv.drop 1,
                   arg0 := argv.headD util, locals := [], interactive := false, shellIgnored := [],
                   writeFailure := none, jobControl := false }
    spend cost.exec
    let code ← runUtility n util argv
    match (← getSh).writeFailure, Program.writeFailureStatus util with
    | some e, some failure =>
      Program.complain util ("write error: " ++ e.text)
      throw (.exit failure)
    | _, _ => throw (.exit code)

/-- What a program does. -/
def runUtility : Nat → String → List String → M Nat
  | 0, _, _ => throw .stall
  | n + 1, util, argv => do
    let args := argv.drop 1
    match util with
    | "sh" | "dash" => shellMain n argv false
    | "bash" => shellMain n argv true
    | "env" => envProgram n args
    | "xargs" => batchProgram n args
    | "grep" => Program.grep args
    | "cut" => Program.cut args
    | "uniq" => Program.uniq args
    | "expr" => Program.expr args
    | "od" => Program.od args
    | "cat" => Program.cat args
    | "head" => Program.head args
    | "tail" => Program.tail args
    | "tr" => Program.tr args
    | "sort" => Program.sort args
    | "wc" => Program.wc args
    | "seq" => Program.seq args
    | "yes" => Program.yes args
    | "tee" => Program.tee args
    | "ls" => Program.ls args
    | "mkdir" => Program.mkdir args
    | "touch" => Program.touch args
    | "rm" => Program.rm args
    | "sleep" => Program.sleep args
    | "stty" => Program.stty args
    | "tty" => Program.tty args
    | "pwd" => Program.pwd args
    | "echo" => Program.echo args
    | "printf" => Program.printf args
    | "uname" => Program.uname args
    | "id" => Program.userIds args
    | "whoami" => Program.whoami args
    | "date" => Program.date args
    | "basename" => Program.basename args
    | "dirname" => Program.dirname args
    | "true" => Program.constantStatus "true" 0 args
    | "false" => Program.constantStatus "false" 1 args
    | "test" | "[" => Program.testProgram (util == "[") (← probe) args
    | "kill" =>
      killBuiltin args
      pure (← getSh).status
    | _ => pure 0

/-- `env`: change the environment, then print it or run a program with it in a
directory of its choosing. Its own failures exit with 125; a program it cannot find
with 127, one it cannot run with 126. -/
def envProgram : Nat → List String → M Nat
  | 0, _ => throw .stall
  | n + 1, args => do
    let usageError (msg : String) : M Nat := do
      Program.complain "env" msg
      Program.tryHelp "env"
      pure 125
    let debug (r : Program.EnvRequest) (msg : String) : M Unit :=
      if r.debug then putStr 2 (msg ++ "\n") else pure ()
    match Program.readEnvOptions (args.length + 1) args {} with
    | .error e =>
      match e with
      | .invalid c =>
        if Program.isCSpace c then
          Program.complain "env" e.message
          Program.complain "env" "use -[v]S to pass options in shebang lines"
          Program.tryHelp "env"
          pure 125
        else usageError e.message
      | _ => usageError e.message
    | .ok (req, options) =>
    match options.getLast? with
    | some ("help", _) => Program.showUsage "env"; pure 0
    | some ("version", _) => Program.showVersion "env"; pure 0
    | _ =>
    let (req, operands) := match req.operands with
      | "-" :: rest => ({ req with clear := true }, rest)
      | ops => (req, ops)
    let s ← getSh
    let mut vars := s.vars.filter fun (_, v) => v.value.isSome
    if req.clear then
      debug req "cleaning environ"
      vars := []
    else
      for name in req.unset do
        debug req ("unset:    " ++ name)
        if name.isEmpty || name.toList.contains '=' then
          Program.complain "env" ("cannot unset " ++ Program.quoteAlways name ++ ": Invalid argument")
          return 125
        vars := vars.filter (·.1 != name)
    let assignments := operands.takeWhile fun a => a.toList.contains '='
    for a in assignments do
      debug req ("setenv:   " ++ a)
      let name := String.ofList (a.toList.takeWhile (· != '='))
      let value := String.ofList ((a.toList.dropWhile (· != '=')).drop 1)
      vars := if (vars.lookup name).isSome then
          vars.map fun (m, x) => if m = name then (m, { x with value := some value }) else (m, x)
        else vars ++ [(name, { value := some value, exported := true })]
    let command := operands.drop assignments.length
    if req.nul && !command.isEmpty then
      return ← usageError "cannot specify --null (-0) with command"
    if req.chdir.isSome && command.isEmpty then
      return ← usageError "must specify command with --chdir (-C)"
    match command with
    | [] =>
      let entries := vars.filterMap fun (k, v) => v.value.map fun x => k ++ "=" ++ x
      Program.say (String.join (entries.map (· ++ (if req.nul then "\x00" else "\n"))))
      pure 0
    | cmd :: rest =>
      let mut s := { s with vars := vars.map fun (k, v) => (k, { v with exported := true }) }
      if let some dir := req.chdir then
        debug req ("chdir:    " ++ Program.quoteFile dir)
        let w ← get
        match stat w.fs s.phys (Text.Octets.toText dir) with
        | .ok (canon, node) =>
          if node.isDir then
            s := { s with phys := canon, cwd := Text.Octets.ofText (Path.ofNames true canon) }
          else
            Program.complain "env" ("cannot change directory to " ++ Program.quoteFile dir ++ ": " ++
              Errno.notDir.text)
            return 125
        | .error e =>
          Program.complain "env" ("cannot change directory to " ++ Program.quoteFile dir ++ ": " ++ e.text)
          return 125
      debug req ("executing: " ++ cmd)
      for (a, i) in (cmd :: rest).zipIdx do
        debug req ("   arg[" ++ toString i ++ "]= " ++ Program.quoteAlways a)
      setSh s
      let notFound : M Nat := do
        Program.complain "env" (Program.quoteAlways cmd ++ ": No such file or directory")
        if cmd.toList.any Program.isCSpace then
          Program.complain "env" "use -[v]S to pass options in shebang lines"
        pure 127
      let env := vars.filterMap fun (k, v) => v.value.map fun x => (k, x)
      match ← programSearch cmd with
      | .program _ util =>
        execWith n util (cmd :: rest) env
        pure 0
      | _ =>
        if cmd.toList.contains '/' then
          let w ← get
          match stat w.fs s.phys (Text.Octets.toText cmd) with
          | .ok (_, .program util) =>
            execWith n util (cmd :: rest) env
            pure 0
          | .ok _ =>
            Program.complain "env" (Program.quoteAlways cmd ++ ": Permission denied")
            pure 126
          | .error _ => notFound
        else notFound

/-- `xargs`: runs its command once per batch of the items of its input, each run with
the null device as its standard input, and waits for it. A command that cannot be
found or run, exits with 255 or is killed stops the program; other failures make its
status 123 at the end. -/
def batchProgram : Nat → List String → M Nat
  | 0, _ => throw .stall
  | n + 1, args => do
    match Program.readBatchOptions args with
    | .error msg =>
      Program.complain "xargs" msg
      pure 1
    | .ok req =>
      let input ← match req.argFile with
        | some path =>
          match ← Program.openInput 9 path with
          | .ok () => Program.readToEnd 9
          | .error e =>
            Program.complain "xargs" ("Cannot open input file " ++ Program.quoteName path ++ ": " ++ e.text)
            return 1
        | none => Program.readToEnd 0
      let (events, ended) := req.events input
      let mut status := 0
      for argv in req.plan events ended do
        let cmd := argv.headD "echo"
        if req.verbose then
          putStr 2 (String.join (argv.map (· ++ " ")) ++ "\n")
        let target ← if cmd.toList.contains '/' then do
            let w ← get
            match stat w.fs (← getSh).phys (Text.Octets.toText cmd) with
            | .ok (_, .program u) => pure (Resolved.program cmd u)
            | .ok _ => pure (Resolved.denied cmd)
            | .error _ => pure Resolved.missing
          else programSearch cmd
        match target with
        | .program _ util =>
          let s ← getSh
          let pid ← newPid
          let child := (s.fork pid (s.now + cost.fork)).setFd 0 (some .null)
          let ended ← runProcess child (execProgram n util argv)
          let code ← awaitChild ended
          match ended.status with
          | some (.signaled sig) =>
            Program.complain "xargs" (cmd ++ ": terminated by signal " ++ toString sig)
            return 125
          | _ =>
            if code = 255 then
              Program.complain "xargs" (cmd ++ ": exited with status 255; aborting")
              return 124
            if code ≠ 0 then status := 123
        | .denied _ =>
          Program.complain "xargs" (cmd ++ ": Permission denied")
          return 126
        | _ =>
          Program.complain "xargs" (cmd ++ ": No such file or directory")
          return 127
      match ended.message with
      | some msg =>
        Program.complain "xargs" msg
        pure 1
      | none => pure status

/-- Special builtins. -/
def runSpecial : Nat → String → List String → M Unit
  | 0, _, _ => throw .stall
  | n + 1, name, args => do
    checkLetters name args
    match name with
    | ":" => setStatus 0
    | "break" | "continue" =>
      let k ← match args with
        | a :: _ =>
          if !a.isEmpty && a.toList.all Char.isDigit && a.toNat! > 0 then pure a.toNat!
          else fatal (some name) ("Illegal number: " ++ a)
        | [] => pure 1
      if (← getSh).loops == 0 then setStatus 0
      else if name == "break" then throw (.brk k) else throw (.cont k)
    | "eval" =>
      if args.isEmpty then setStatus 0
      else evalString n (" ".intercalate args)
    | "." =>
      match args with
      | [] => setStatus 0
      | file :: _ =>
        match ← statPath file with
        | .ok (_, .file content) =>
          let r ← tryCatch (do evalString n (Text.Octets.ofBytes content); pure none) (fun f => pure (some f))
          match r with
          | some (.ret c) => setStatus c
          | some f => throw f
          | none => pure ()
        | _ => fatal (some ".") (file ++ ": not found")
    | "exec" =>
      match args with
      | [] => setStatus 0
      | cmd :: _ =>
        -- only a program replaces the shell: a builtin's name is looked up as a file
        let found ← if cmd.toList.contains '/' then resolveName cmd false else searchPath cmd
        match found with
        | .program _ util => execProgram n util args
        | .denied _ =>
          shellError (some "exec") (cmd ++ ": Permission denied")
          throw (.exit 126)
        | _ =>
          shellError (some "exec") (cmd ++ ": not found")
          throw (.exit 127)
    | "exit" =>
      match args with
      | [] => throw (.exit (← getSh).status)
      | a :: _ =>
        if !a.isEmpty && a.toList.all Char.isDigit then throw (.exit (a.toNat! % 256))
        else fatal (some "exit") ("Illegal number: " ++ a)
    | "export" => markBuiltin false args
    | "readonly" => markBuiltin true args
    | "return" =>
      let code ← match args with
        | [] => pure (← getSh).status
        | a :: _ =>
          if !a.isEmpty && a.toList.all Char.isDigit then pure (a.toNat! % 256)
          else fatal (some "return") ("Illegal number: " ++ a)
      throw (.ret code)
    | "set" => setBuiltin args
    | "shift" => shiftBuiltin args
    | "times" =>
      putStr 1 "0m0.000000s 0m0.000000s\n0m0.000000s 0m0.000000s\n"
      setStatus 0
    | "trap" => trapBuiltin args
    | "unset" => unsetBuiltin args
    | "local" => localBuiltin args
    | _ => setStatus 0

/-- Regular builtins. -/
def runBuiltin : Nat → String → List String → M Unit
  | 0, _, _ => throw .stall
  | n + 1, name, args => do
    checkLetters name args
    match name with
    | "echo" => echoBuiltin args
    | "printf" => printfBuiltin args
    | "cd" => cdBuiltin args
    | "pwd" => pwdBuiltin args
    | "read" => readBuiltin args
    | "test" | "[" => testBuiltin name args
    | "true" => setStatus 0
    | "false" => setStatus 1
    | "kill" => killBuiltin args
    | "wait" => waitBuiltin n args
    | "jobs" => jobsBuiltin n args
    | "fg" | "bg" =>
      let operands := match valuedOptions [] args with
        | .ok (_, words) => words
        | .error _ => args
      resumeJobs n (name == "fg") operands
    | "umask" => umaskBuiltin args
    | "getopts" => getoptsBuiltin args
    | "alias" => aliasBuiltin args
    | "unalias" => unaliasBuiltin args
    | "type" => typeBuiltin args false
    | "hash" => hashBuiltin args
    | "command" =>
      let (flags, words) := match valuedOptions [('p', false), ('v', false), ('V', false)] args with
        | .ok (fs, ws) => (fs.map (fun (f : Char × Option String) => f.1), ws)
        | .error _ => ([], args)
      if flags.contains 'v' then typeBuiltin words true
      else if flags.contains 'V' then typeBuiltin words false
      else match words with
      | cmd :: rest =>
        match ← resolveWith cmd false trackPath with
        | .special => checkingOutput cmd (runSpecial n cmd rest)
        | .builtin => checkingOutput cmd (runBuiltin n cmd rest)
        | .program _ util => runExternal n util (cmd :: rest)
        | .denied _ =>
          let code ← runDenied n cmd
          setStatus code
        | _ =>
          shellError none (cmd ++ ": not found")
          setStatus 127
      | [] => setStatus 0
    | "ulimit" => ulimitBuiltin args
    | _ => setStatus 0

/-- `type`, and `command -v` (`brief`): keywords, aliases, then what running the name
would find. A program the shell remembers is a tracked alias; a name with a slash is
itself if there is such a file. -/
def typeBuiltin : List String → Bool → M Unit
  | names, brief => do
    let mut status := 0
    for nm in names do
      let s ← getSh
      if keywords.contains nm then
        if brief then putStr 1 (nm ++ "\n") else putStr 1 (nm ++ " is a shell keyword\n")
      else match s.aliases.lookup nm with
      | some v =>
        putStr 1 (if brief then "alias " ++ nm ++ "=" ++ singleQuote v ++ "\n"
          else nm ++ " is an alias for " ++ v ++ "\n")
      | none =>
        let found ← if nm.toList.contains '/' then do
            match stat (← get).fs s.phys (Text.Octets.toText nm) with
            | .ok _ => pure (Resolved.denied nm)
            | .error _ => pure Resolved.missing
          else resolveName nm true
        match found with
        | .special =>
          putStr 1 (if brief then nm ++ "\n" else nm ++ " is a special shell builtin\n")
        | .function _ =>
          putStr 1 (if brief then nm ++ "\n" else nm ++ " is a shell function\n")
        | .builtin =>
          putStr 1 (if brief then nm ++ "\n" else nm ++ " is a shell builtin\n")
        | .program path _ =>
          let tracked := (CommandTable.lookup s.commands nm).isSome
          putStr 1 (if brief then path ++ "\n"
            else nm ++ " is " ++ (if tracked then "a tracked alias for " else "") ++ path ++ "\n")
        | .denied path =>
          if nm.toList.contains '/' then
            putStr 1 (if brief then path ++ "\n" else nm ++ " is " ++ path ++ "\n")
          else
            if !brief then putStr 1 (nm ++ ": not found\n")
            status := 127
        | .missing =>
          if !brief then putStr 1 (nm ++ ": not found\n")
          status := 127
    setStatus status

/-- `hash`: list the programs the shell remembers, forget them all (`-r`), or look
names up afresh. -/
def hashBuiltin (args : List String) : M Unit := do
  match args with
  | "-r" :: _ =>
    modifySh fun s => { s with commands := [] }
    setStatus 0
  | [] =>
    putStr 1 (String.join ((← getSh).commands.map (·.line)))
    setStatus 0
  | names =>
    let mut status := 0
    for nm in names do
      modifySh fun s => { s with commands := CommandTable.forget s.commands nm }
      match ← resolveWith nm true trackPath with
      | .missing | .denied _ =>
        shellError (some "hash") (nm ++ ": not found")
        status := 1
      | _ => pure ()
    setStatus status

/-- `wait`: for the named jobs, or all of this shell's. A caught signal ends the wait
with `128` plus its number. -/
def waitBuiltin : Nat → List String → M Unit
  | 0, _ => throw .stall
  | n + 1, args => do
    let mine ← myJobs
    let args := match valuedOptions [] args with
      | .ok (_, words) => words
      | .error _ => args
    let mut targets : List Nat := if args.isEmpty then mine.map (·.pid) else []
    for a in args do
      if a.startsWith "%" then
        match findJob mine.reverse (some a) false with
        | .ok j => targets := targets ++ [j.pid]
        | .error miss => fatal (some "wait") miss.message
      else if a.isEmpty || !a.all Char.isDigit then fatal (some "wait") ("Illegal number: " ++ a)
      else if mine.any (·.pid == a.toNat!) then targets := targets ++ [a.toNat!]
    let mut outcomes : List (Nat × Option Nat × Option Status) := []
    for pid in targets do
      match ← settleJob n pid with
      | some (finish, status) => outcomes := outcomes ++ [(pid, finish, status)]
      | none => pure ()
    let latest : Option Nat := outcomes.foldl (fun acc (_, f, _) => match acc, f with
      | some a, some b => some (Nat.max a b)
      | _, _ => none) (some (← now))
    let done ← waitUntil latest true
    if !done then
      let sig := ((← getSh).pendingTraps.getLast?).getD 0
      setStatus (128 + sig)
    else
      let mark (j : Job) : Job := if outcomes.any (·.1 == j.pid) then { j with waited := true } else j
      modify fun w => { w with jobs := w.jobs.map mark }
      modifySh fun s => { s with reapedUntil := s.now }
      if args.isEmpty then setStatus 0
      else
        match outcomes.getLast? with
        | some (_, _, some st) => setStatus st.code
        | _ => setStatus 127

/-- Learns which of this shell's jobs have ended by now, and collects one more of them,
as a wait that does not block does. -/
def collectJob : Nat → M Unit
  | 0 => throw .stall
  | n + 1 => do
    for j in ← myJobs do
      settleJobBy n (← now) j.pid
    let s ← getSh
    let waiting := (← myJobs).find? fun j => (j.ended s.reapedUntil).isNone &&
      match j.outcome with
      | some (some t, some _) => t ≤ s.now
      | _ => false
    match waiting with
    | some k =>
      let mark (j : Job) : Job := if j.pid == k.pid then { j with reaped := true } else j
      modify fun w => { w with jobs := w.jobs.map mark }
    | none => pure ()

/-- `jobs [-l|-p] [job...]`: lists this shell's jobs, or the named ones, most recent
first, and forgets those listed as ended; the last of `-l` (with process numbers) and
`-p` (process numbers only, and nothing forgotten) decides. Without operands one more
ended child is collected first. -/
def jobsBuiltin : Nat → List String → M Unit
  | 0, _ => throw .stall
  | n + 1, args => do
    let (opts, operands) := match valuedOptions [('l', false), ('p', false)] args with
      | .ok r => r
      | .error _ => ([], args)
    let mode := (opts.getLast?.map (·.1)).getD ' '
    if operands.isEmpty then collectJob n
    else
      for j in ← myJobs do
        settleJobBy n (← now) j.pid
    let requests : List (Nat ⊕ String) ← if operands.isEmpty then
        pure ((← myJobs).reverse.map fun j => Sum.inl j.pid)
      else pure (operands.map Sum.inr)
    for r in requests do
      let live := (← myJobs).reverse
      let found : Option Job ← match r with
        | .inl pid => pure (live.find? (·.pid == pid))
        | .inr o =>
          match findJob live (some o) false with
          | .ok j => pure (some j)
          | .error miss => fatal (some "jobs") miss.message
      match found with
      | none => pure ()
      | some job =>
        let ended := job.ended (← getSh).reapedUntil
        if mode == 'p' then putStr 1 (decimal job.pid ++ "\n")
        else
          let state := match ended with
            | some st => st.report
            | none => "Running"
          putStr 1 (jobLine job (jobMark live job) (mode == 'l') state)
          if ended.isSome then forgetJob job.pid
    setStatus 0

/-- Before it reads a command, a shell under job control reports on its error output
each job that has ended since it last looked, and forgets it. -/
def reportEndedJobs : Nat → M Unit
  | 0 => throw .stall
  | n + 1 => do
    collectJob n
    for pid in (← myJobs).reverse.map (·.pid) do
      let live := (← myJobs).reverse
      match live.find? (·.pid == pid) with
      | some job =>
        match job.ended (← getSh).reapedUntil with
        | some st =>
          putStr 2 (jobLine job (jobMark live job) false st.report)
          forgetJob pid
        | none => pure ()
      | none => pure ()

/-- `fg` and `bg` for jobs under job control. `fg` writes a job's command and waits for
it, which ends it as a job; `bg` makes a job the current one and writes its number and
command. -/
def resumeJobs : Nat → Bool → List String → M Unit
  | 0, _, _ => throw .stall
  | n + 1, foreground, operands => do
    let name := if foreground then "fg" else "bg"
    let targets : List (Option String) := if operands.isEmpty then [none] else operands.map some
    for t in targets do
      let job ← match findJob (← myJobs).reverse t true with
        | .ok j => pure j
        | .error miss => fatal (some name) miss.message
      if foreground then
        putStr 1 (job.texts.headD "" ++ job.pipeTail)
        let collected := (job.ended (← getSh).reapedUntil).isSome
        match ← settleJob n job.pid with
        | some (finish, status) =>
          let _ ← waitUntil finish false
          modifySh fun s => { s with reapedUntil := s.now }
          if !collected then reportSignal status
          forgetJob job.pid
          setStatus ((status.map Status.code).getD 0)
        | none => setStatus 0
      else
        modify fun w => { w with jobs := w.jobs.filter (·.pid != job.pid) ++ [job] }
        putStr 1 ("[" ++ decimal job.number ++ "] " ++ job.texts.headD "" ++ job.pipeTail)
        setStatus 0

/-- Run the traps of caught signals. -/
def runPendingTraps : Nat → M Unit
  | 0 => throw .stall
  | n + 1 => do
    let s ← getSh
    if s.pendingTraps.isEmpty then return
    setSh { s with pendingTraps := [] }
    for sig in s.pendingTraps do
      match (← getSh).traps.lookup sig with
      | some act =>
        if !act.isEmpty then
          let st := (← getSh).status
          evalString n act
          setStatus st
      | none => pure ()

/-- Read and run a text command by command, as `eval` and traps do; with no command
in it the status is 0. -/
def evalString : Nat → String → M Unit
  | 0, _ => throw .stall
  | n + 1, text => do
    let s ← getSh
    let mut reader : Reader := { Reader.ofText text s.line s.bodies with aliases := s.aliases }
    let mut ran := false
    for _ in [0:text.length + 2] do
      match readCommand.run reader with
      | .error e => fatal none ("Syntax error: " ++ e.message)
      | .ok (.eof, _) => break
      | .ok (.empty, r) => reader := r
      | .ok (.command c, r) =>
        modifySh fun s => { s with bodies := r.bodies }
        evalCommand n c
        ran := true
        let sh ← getSh
        reader := { r with bodies := sh.bodies, aliases := sh.aliases }
    if !ran then setStatus 0

/-- Under `set -v`, writes the input the parser has just read to the error output: the
text between where reading started and where it stopped. -/
def echoRead (before after : List Char) : M Unit := do
  if (← getSh).option "verbose" then
    putStr 2 (String.ofList (before.take (before.length - after.length)))

/-- Read a text command by command and run each, as `sh -c` does. -/
def runText : Nat → String → M Unit
  | 0, _ => throw .stall
  | n + 1, text => do
    let mut reader : Reader := { Reader.ofText text 1 (← getSh).bodies with aliases := (← getSh).aliases }
    for _ in [0:text.length + 2] do
      match readCommand.run reader with
      | .error e =>
        modifySh fun s => { s with line := e.line }
        shellError none ("Syntax error: " ++ e.message)
        throw (.abort 2)
      | .ok (.eof, r) =>
        echoRead reader.rest r.rest
        break
      | .ok (.empty, r) =>
        echoRead reader.rest r.rest
        reader := r
      | .ok (.command c, r) =>
        echoRead reader.rest r.rest
        reader := { r with bodies := #[] }
        modifySh fun s => { s with bodies := r.bodies }
        evalCommand n c
        runPendingTraps n
        let sh ← getSh
        reader := { reader with bodies := sh.bodies, aliases := sh.aliases }

/-- Read commands from standard input and run them; an interactive shell prompts,
survives errors, and says goodbye with a line feed at end of input. -/
def readLoop : Nat → M Unit
  | 0 => throw .stall
  | n + 1 => do
    let limit := (← get).steps + 1
    let mut buffer : String := ""
    let mut line := 1
    -- whether ended jobs are to be reported before the next command is read
    let mut due := true
    for _ in [0:limit] do
      useStep
      if due && (← getSh).jobControl then reportEndedJobs n
      due := false
      let s ← getSh
      if s.interactive then
        let prompt := if buffer.isEmpty then (s.var? "PS1").getD "" else (s.var? "PS2").getD ""
        putStr 2 prompt
      match ← readFd 0 4096 with
      | none =>
        if (← getSh).interactive then putStr 2 "\n"
        break
      | some chunk =>
        buffer := buffer ++ Text.Octets.ofBytes chunk
        let mut reader : Reader := { Reader.ofText buffer line (← getSh).bodies with aliases := (← getSh).aliases }
        let mut consumed := false
        for _ in [0:buffer.length + 2] do
          if due && (← getSh).jobControl then reportEndedJobs n
          due := false
          match readCommand.run reader with
          | .error e =>
            if e.atEnd then break
            modifySh fun s => { s with line := e.line }
            shellError none ("Syntax error: " ++ e.message)
            if !(← getSh).interactive then throw (.abort 2)
            setStatus 2
            buffer := ""
            consumed := true
            due := true
            break
          | .ok (.eof, r) =>
            buffer := ""
            line := r.line
            consumed := true
            break
          | .ok (.empty, r) =>
            echoRead reader.rest r.rest
            reader := r
            buffer := String.ofList r.rest
            line := r.line
            due := true
          | .ok (.command c, r) =>
            echoRead reader.rest r.rest
            reader := r
            buffer := String.ofList r.rest
            line := r.line
            due := true
            modifySh fun s => { s with bodies := r.bodies }
            let res ← tryCatch (do evalCommand n c; runPendingTraps n; pure none) (fun f => pure (some f))
            match res with
            | some (.abort code) =>
              if (← getSh).interactive then setStatus code else throw (.abort code)
            | some f => throw f
            | none => pure ()
            reader := { reader with aliases := (← getSh).aliases }
        let _ := consumed

/-- A shell process: options, variables, then its commands; at the end the exit
trap runs and the shell exits. -/
def shellMain : Nat → List String → Bool → M Nat
  | 0, _, _ => throw .stall
  | n + 1, argv, bashLike => do
    let s ← getSh
    let env := s.vars.filterMap fun (k, v) => if v.exported then v.value.map fun x => (k, x) else none
    let name := argv.headD "sh"
    -- options
    let rec opts : Nat → List String → Bool → List Char → List String × Bool × List Char
      | 0, rest, c, fl => (rest, c, fl)
      | _, [], c, fl => ([], c, fl)
      | k + 1, a :: rest, c, fl =>
        if a = "--" then (rest, c, fl)
        else if a.startsWith "-" && a.length > 1 then
          let letters := a.toList.drop 1
          opts k rest (c || letters.contains 'c') (fl ++ letters.filter (· != 'c'))
        else (a :: rest, c, fl)
    let (operands, cmdMode, flags) := opts (argv.length + 1) (argv.drop 1) false []
    let w ← get
    let physText := Path.ofNames true s.phys
    let pwd := match env.lookup "PWD" with
      | some p =>
        match lookup w.fs [] (Text.Octets.toText p) with
        | .ok names => if names == s.phys && p.startsWith "/" then p else Text.Octets.ofText physText
        | .error _ => Text.Octets.ofText physText
      | none => Text.Octets.ofText physText
    let vars := initialVars env
    let vars := vars.map fun (k, v) => if k = "IFS" then (k, { v with value := some " \t\n" }) else
      if k = "OPTIND" then (k, { v with value := some "1" }) else (k, v)
    let base : Sh := { s with
      vars := vars
      funcs := []
      traps := []
      pendingTraps := []
      locals := []
      cwd := pwd
      hardIgnored := s.ignored
      status := 0
      line := 1
      errexit := false
      xtrace := false
      nounset := false
      noglob := false
      extraOptions := []
      aliases := []
      optind := 1
      optoff := none
      bashLike := bashLike
      rootPid := s.pid
      loops := 0
      calls := 0
      guarded := false
      lastBackground := none
      subStatus := none
      bodies := #[] }
    let base := (base.setVar "PPID" "1")
    let base := (base.setVar "PWD" pwd).exportVar "PWD"
    let base := if bashLike then base.setVar "BASH_VERSION" "5.2.15(1)-release" else base
    let (arg0, positional, text) : String × List String × Option String :=
      if cmdMode then
        match operands with
        | t :: a0 :: rest => (a0, rest, some t)
        | [t] => (name, [], some t)
        | [] => (name, [], none)
      else (name, operands, none)
    if cmdMode && text.isNone then
      setSh { base with arg0 := name }
      putStr 2 (name ++ ": 0: -c requires an argument\n")
      return 2
    let interactive := flags.contains 'i' ||
      (!cmdMode && operands.isEmpty && s.fds.lookup 0 == some .terminal && s.fds.lookup 1 == some .terminal)
    let ignoredHere := if interactive then [Signal.term, Signal.quit, Signal.int] else []
    let base := { base with arg0 := arg0, positional := positional, interactive := interactive, shellIgnored := ignoredHere }
    let base := flags.foldl (fun sh c => (sh.setOption c true).getD sh) base
    let base := base.withOption "stdin" (!cmdMode && operands.isEmpty)
    let base := if flags.contains 'm' then base else base.withOption "monitor" interactive
    setSh { base with jobControl := false }
    -- a shell given its name, by `-c` or as a script, also names the command
    let named := if cmdMode then operands.length ≥ 2 else !operands.isEmpty
    if !(← syncJobControl) then
      putStr 2 (arg0 ++ ": 0: " ++ (if named then arg0 ++ ": " else "") ++ noTerminalWarning ++ "\n")
    spend cost.startup
    let r ← tryCatch (do
      match text with
      | some t => runText n t
      | none => readLoop n
      pure none) (fun f => pure (some f))
    let code ← match r with
      | none => pure (← getSh).status
      | some (.exit c) => pure c
      | some (.abort c) => pure c
      | some (.ret c) => pure c
      | some (.brk _) | some (.cont _) => pure (← getSh).status
      | some f => throw f
    -- the exit trap
    let s ← getSh
    match s.traps.lookup 0 with
    | some act =>
      if act.isEmpty then return code
      setSh { s with traps := s.traps.filter (·.1 != 0), status := code }
      let r2 ← tryCatch (do evalString n act; pure none) (fun f => pure (some f))
      match r2 with
      | some (.exit c) => return c
      | some (.killed sig) => throw (.killed sig)
      | some .stall => throw .stall
      | _ => return code
    | none => return code

end

end Confine.Shell
