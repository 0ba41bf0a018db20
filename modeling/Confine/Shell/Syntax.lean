/-!
# The shell language: syntax

A command line is a list of and-or lists, each run in the foreground or in the
background. An and-or list chains pipelines with `&&` and `||`; a pipeline joins
commands with `|`. A command is a simple command (assignments, words and
redirections) or a compound one: a subshell, a brace group, `if`, `while`, `until`,
`for`, `case`, or a function definition.

A word is a sequence of parts: literal text, quoted text, and the expansions that
the shell performs when the word is used.
-/

namespace Confine.Shell

/-- What a parameter expansion does with the parameter's value. With `colon`, an
empty value counts as unset. -/
inductive ParamOp where
  | plain
  | length
  | useDefault (colon : Bool)
  | assignDefault (colon : Bool)
  | errorIfUnset (colon : Bool)
  | useAlternative (colon : Bool)
  | removeSuffix (largest : Bool)
  | removePrefix (largest : Bool)
  deriving DecidableEq, Repr, Inhabited

/-- How a redirection opens its target. -/
inductive RedirOp where
  | input
  | output
  | clobber
  | append
  | readWrite
  | dupInput
  | dupOutput
  deriving DecidableEq, Repr, Inhabited

/-- Which operator joins two pipelines in an and-or list. -/
inductive Connective where
  | andThen
  | orElse
  deriving DecidableEq, Repr, Inhabited

/-- One part of a word. A command substitution keeps its source text and the line
it starts on; it is read when the word is expanded. -/
inductive WordPart where
  | lit (s : String)
  | escaped (c : Char)
  | squote (s : String)
  | dquote (parts : List WordPart)
  | param (name : String) (op : ParamOp) (arg : List WordPart)
  | cmdSub (source : String) (line : Nat)
  | arith (parts : List WordPart)
  | tilde (user : String)
  deriving Repr, Inhabited

/-- A redirection of file descriptor `fd`. A here-document names its body by its
number among the bodies read so far; the body is expanded unless its delimiter was
quoted. -/
inductive Redir where
  | file (fd : Nat) (op : RedirOp) (target : List WordPart)
  | here (fd : Nat) (body : Nat) (expand : Bool)
  deriving Repr, Inhabited

/-- A command. `line` is the line a simple command starts on. -/
inductive Command where
  | simple (assigns : List (String × List WordPart)) (words : List (List WordPart))
      (redirs : List Redir) (line : Nat)
  | pipeline (negate : Bool) (stages : List Command)
  | andOr (first : Command) (rest : List (Connective × Command))
  | list (items : List (Command × Bool))
  | subshell (body : Command) (redirs : List Redir)
  | group (body : Command) (redirs : List Redir)
  | ifThen (branches : List (Command × Command)) (otherwise : Option Command)
      (redirs : List Redir)
  | loop (untilMode : Bool) (cond body : Command) (redirs : List Redir)
  | forIn (var : String) (words : Option (List (List WordPart))) (body : Command)
      (redirs : List Redir)
  | caseOf (subject : List WordPart) (arms : List (List (List WordPart) × Command))
      (redirs : List Redir)
  | funDef (name : String) (body : Command)
  deriving Repr

instance : Inhabited Command := ⟨.list []⟩

/-- A word made of one literal. -/
def litWord (s : String) : List WordPart := [.lit s]

/-- Whether a name can be a variable or function name: a letter or underscore, then
letters, digits and underscores, all ASCII. -/
def isName (s : String) : Bool :=
  match s.toList with
  | [] => false
  | c :: cs => (c.isAlpha || c == '_') && cs.all fun d => d.isAlphanum || d == '_'

end Confine.Shell
