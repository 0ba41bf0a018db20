import Confine.Shell.State
import Confine.Shell.Summary
/-!
# The job list of a shell

A shell numbers its background children from 1. A new child takes the lowest number
that no job holds, or, without job control, that is held by a job the shell has waited
for; that job is then forgotten. Every child the shell forks goes through the same
search, so a foreground command also frees such a number, though it keeps none. Under
job control an ended job is forgotten only once it has been reported.

The list is read most recent first: the first job is the current one, marked `+`, the
second the previous one, marked `-`. A job has ended, as the list reports it, once the
shell has collected it: by waiting for it, by waiting for a foreground child that ended
after it, or while listing.

A job operand names a job: `%`, `%%` or `%+` the current job, `%-` the previous one,
`%N` the job numbered `N`, `%TEXT` the one whose command starts with the text and
`%?TEXT` the one whose command holds it. A shell without job control records no
command text for its jobs, so only the empty text matches them, and matches each.
Under job control each process keeps the text of its command, written back from the
parsed command.
-/

namespace Confine.Shell

open Confine.Host

/-- The lowest number from `n` that no job of the list holds, or that a job the shell
waited for holds; `fuel` bounds the search. -/
def freeJobNumber (jobs : List Job) : Nat → Nat → Nat
  | 0, n => n
  | fuel + 1, n =>
    match jobs.find? (·.number == n) with
    | some j => if j.waited then n else freeJobNumber jobs fuel (n + 1)
    | none => n

/-- This shell's jobs, oldest first. -/
def myJobs : M (List Job) := do
  let w ← get
  return w.jobs.filter (·.owner == w.sh.pid)

/-- Takes a job number for a child of this shell; a job that held it is forgotten. -/
def claimJobNumber : M Nat := do
  let mine ← myJobs
  let held := if (← getSh).jobControl then mine.map fun j => { j with waited := false } else mine
  let n := freeJobNumber held (mine.length + 1) 1
  let owner := (← getSh).pid
  modify fun w => { w with jobs := w.jobs.filter fun j => !(j.owner == owner && j.number == n) }
  return n

/-- Forgets a job: its number is free again. -/
def forgetJob (pid : Nat) : M Unit :=
  modify fun w => { w with jobs := w.jobs.filter (·.pid != pid) }

/-- How a job ended, once the shell has collected it. -/
def Job.ended (j : Job) (reapedUntil : Nat) : Option Status :=
  match j.outcome with
  | some (some t, some st) => if j.waited || j.reaped || t ≤ reapedUntil then some st else none
  | _ => none

/-- Reports a foreground child killed by a signal other than `INT` or `PIPE`, by the
signal's description on the error output. -/
def reportSignal : Option Status → M Unit
  | some (.signaled sig) =>
    if sig != Signal.int && sig != Signal.pipe then putStr 2 (Signal.describe sig ++ "\n")
    else pure ()
  | _ => pure ()

/-- Why a job operand names no job. -/
inductive JobMiss where
  | noSuch (name : String)
  | noCurrent
  | noPrevious
  | ambiguous (name : String)
  /-- Found, but asked for as a job under job control, which it is not. -/
  | notControlled (name : Option String)

/-- The message of a job operand that names no job; a missing operand reads `(null)`. -/
def JobMiss.message : JobMiss → String
  | .noSuch n => "No such job: " ++ n
  | .noCurrent => "No current job"
  | .noPrevious => "No previous job"
  | .ambiguous n => n ++ ": ambiguous"
  | .notControlled n => "job " ++ n.getD "(null)" ++ " not created under job control"

/-- The job an operand names in a list read most recent first; no operand names the
current job. A text names the job whose first command starts with it, or holds it after
`?`. `controlled` asks for a job started under job control. -/
def findJob (jobs : List Job) (name : Option String) (controlled : Bool) : Except JobMiss Job := do
  let found ← match name with
    | none => current
    | some text =>
      match text.toList with
      | ['%'] | ['%', '+'] | ['%', '%'] => current
      | ['%', '-'] =>
        match jobs[1]? with
        | some j => pure j
        | none => throw .noPrevious
      | '%' :: rest =>
        if !rest.isEmpty && rest.all Char.isDigit then
          match jobs.find? (·.number == String.toNat! (String.ofList rest)) with
          | some j => pure j
          | none => throw (.noSuch text)
        else
          let first (j : Job) : List Char := (j.texts.headD "").toList
          let fits := match rest with
            | '?' :: p => jobs.filter fun j => (String.ofList (first j)).contains (String.ofList p)
            | p => jobs.filter fun j => p.isPrefixOf (first j)
          match fits with
          | [j] => pure j
          | [] => throw (.noSuch text)
          | _ => throw (.ambiguous text)
      | _ => throw (.noSuch text)
  if controlled && !found.controlled then throw (.notControlled name) else pure found
where
  current : Except JobMiss Job :=
    match jobs.head? with
    | some j => pure j
    | none => throw .noCurrent

/-- The number of processes a background command runs as: one for each stage of a
pipeline that is not negated, else one. -/
def processCount : Command → Nat
  | .pipeline false stages => Nat.max stages.length 1
  | _ => 1

/-- The commands of a job's processes after the first, each after `| `, and the line's
end. -/
def Job.pipeTail (j : Job) : String :=
  String.join ((j.texts.drop 1).map (" | " ++ ·)) ++ "\n"

/-- A job's line in the list: its number and mark, with `pid` its process number, its
state, blanks up to column 33 (at least one), and the commands of its processes. -/
def jobLine (j : Job) (mark : Char) (pid : Bool) (state : String) : String :=
  let head := "[" ++ toString j.number ++ "] " ++ String.singleton mark ++ " " ++
    (if pid then toString j.pid ++ " " else "") ++ state
  let pad := Nat.max (33 - head.length) 1
  head ++ String.ofList (List.replicate pad ' ') ++ j.texts.headD "" ++ j.pipeTail

/-- The mark of a job in a list read most recent first: `+` for the current job, `-`
for the previous one. -/
def jobMark (live : List Job) (j : Job) : Char :=
  if (live.head?.map (·.pid)) == some j.pid then '+'
  else if (live[1]?.map (·.pid)) == some j.pid then '-' else ' '

/-- The command texts a job started now records: under job control those of its
processes, else one empty text for each process. -/
def jobTexts (controlled : Bool) (c : Command) : List String :=
  if controlled then c.processSummaries else List.replicate (processCount c) ""

/-- What a shell says when it cannot reach a terminal for job control. -/
def noTerminalWarning : String := "can't access tty; job control turned off"

/-- Brings the shell's job control in line with its `monitor` option; a subshell keeps
what it has. `false` when the shell could not reach a terminal: the option is then
turned off again, and the caller warns. -/
def syncJobControl : M Bool := do
  let s ← getSh
  let on := s.option "monitor"
  if on == s.jobControl || s.pid != s.rootPid then return true
  if !on then
    modifySh fun s => { s with jobControl := false }
    return true
  if (← get).onTerminal then
    modifySh fun s => { s with jobControl := true }
    return true
  modifySh fun s => s.withOption "monitor" false
  return false

end Confine.Shell
