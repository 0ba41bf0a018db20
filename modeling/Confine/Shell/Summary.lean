import Confine.Shell.Syntax
/-!
# Commands written back as text

A shell under job control keeps, for every process of a job, the text of the command
that the process runs, and shows it when it lists its jobs. The text is written back
from the parsed command, not copied from the input, so it has a form of its own:

* words are joined by one blank, and each redirection follows as a blank, the
  descriptor's digit, the operator and the target (`sleep 1 1>/dev/null`);
* `;`, `&&`, `||` and `|` stand between blanks, a group loses its braces, and no
  compound command shows its redirections;
* quoted text is always in double quotes, with `"`, `$`, `\` and the single quote
  escaped by a backslash in it; a backslash that quoted a character is dropped;
* every parameter expansion is written braced, a command substitution as `$(...)`, a
  here-document as `<<...` and a function definition's body as `{ ... }`.

The parameter expansion writes its operator when it meets the `=` that ends the
parameter's name in the parsed word. An unquoted `=` later in the same word is taken for
that mark again, and writes the operator once more: `$a=b` comes back as `${a}}b`.
-/

namespace Confine.Shell

/-- The code of a parameter expansion's kind: plain `1`, then `-`, `+`, `?`, `=`, `%`,
`%%`, `#`, `##`, and `10` for the length; `16` is added when an empty value counts as
unset. -/
def ParamOp.code : ParamOp → Nat
  | .plain => 1
  | .useDefault colon => 2 + (if colon then 16 else 0)
  | .useAlternative colon => 3 + (if colon then 16 else 0)
  | .errorIfUnset colon => 4 + (if colon then 16 else 0)
  | .assignDefault colon => 5 + (if colon then 16 else 0)
  | .removeSuffix largest => if largest then 7 else 6
  | .removePrefix largest => if largest then 9 else 8
  | .length => 10

/-- The operator written for a kind code: `}` closes a plain expansion at once. -/
def operatorText (code : Nat) : String :=
  match code % 16 with
  | 1 => "\x7d"
  | 2 => "-"
  | 3 => "+"
  | 4 => "?"
  | 5 => "="
  | 6 => "%"
  | 7 => "%%"
  | 8 => "#"
  | 9 => "##"
  | _ => ""

/-- A word being written back: the text so far, the kind code of the last parameter
expansion met (`0` before any), and a stack of bits, the lowest for the innermost
expansion's word, each telling whether a double quote is open there. -/
structure WordWriter where
  out : String := ""
  kind : Nat := 0
  quotes : Nat := 0
  deriving Inhabited

namespace WordWriter

/-- Writes text as it is. -/
def append (w : WordWriter) (s : String) : WordWriter := { w with out := w.out ++ s }

/-- Opens or closes a quotation: a double quote, whichever quote was written. -/
def quoteMark (w : WordWriter) : WordWriter :=
  { w with out := w.out.push '"', quotes := w.quotes ^^^ 1 }

/-- Meets the mark that ends a parameter's name: the expansion's operator is written,
after a colon if an empty value counts as unset, and an expansion with a word of its
own opens a new level of quoting. -/
def nameEnd (w : WordWriter) : WordWriter :=
  let quotes := if w.kind % 16 != 1 then w.quotes * 2 else w.quotes
  { w with out := w.out ++ (if w.kind ≥ 16 then ":" else "") ++ operatorText w.kind, quotes }

/-- Writes one character: `'`, `\`, `"` and `$` with a backslash before them, and an
unquoted `=` after a parameter expansion as the mark that ends a name. -/
def char (w : WordWriter) (quoted : Bool) (c : Char) : WordWriter :=
  if c == '\'' || c == '\\' || c == '"' || c == '$' then (w.append "\\").append (String.singleton c)
  else if c == '=' && !quoted && w.kind != 0 then w.nameEnd
  else w.append (String.singleton c)

/-- Writes single-quoted text: a backslash in it stands as it is. -/
def singleQuoted (w : WordWriter) (s : String) : WordWriter :=
  (s.toList.foldl (fun w c => if c == '\\' then w.append "\\" else w.char true c) w.quoteMark).quoteMark

/-- Closes a parameter expansion that has a word: the brace, with a quote left open in
the word closed before it. -/
def closeExpansion (w : WordWriter) : WordWriter :=
  { w with out := w.out ++ (if w.quotes % 2 == 1 then "\"\x7d" else "\x7d"), quotes := w.quotes / 2,
           kind := 0 }

mutual

/-- Writes one part of a word; `quoted` tells whether it stands in double quotes. -/
def part (w : WordWriter) (quoted : Bool) : WordPart → WordWriter
  | .lit s => s.toList.foldl (fun w c => w.char quoted c) w
  | .escaped c => w.append (String.singleton c)
  | .squote s => w.singleQuoted s
  | .dquote ps => (w.quoteMark.parts true ps).quoteMark
  | .param name op arg =>
    let w := { w with kind := op.code }
    let w := w.append (if op == .length then "$\x7b#" else "$\x7b")
    let w := (name.toList.foldl (fun w c => w.char true c) w).nameEnd
    let w := w.parts quoted arg
    if op == .plain then w else w.closeExpansion
  | .cmdSub _ _ => w.append "$(...)"
  | .arith ps => ((w.append "$((").parts quoted ps).append "))"
  | .tilde user => w.append ("~" ++ user)

/-- Writes the parts of a word one after another. -/
def parts (w : WordWriter) (quoted : Bool) : List WordPart → WordWriter
  | [] => w
  | p :: ps => (w.part quoted p).parts quoted ps

end

end WordWriter

/-- A word written back; a double quote left open is closed. -/
def wordSummary (word : List WordPart) : String :=
  let w := ({} : WordWriter).parts false word
  if w.quotes % 2 == 1 then w.out.push '"' else w.out

/-- The operator of a redirection as written back. -/
def RedirOp.text : RedirOp → String
  | .input => "<"
  | .output => ">"
  | .clobber => ">|"
  | .append => ">>"
  | .readWrite => "<>"
  | .dupInput => "<&"
  | .dupOutput => ">&"

/-- A descriptor number as one character: its digit, `/` for a closed one (`-1`). -/
def descriptorChar (n : Int) : String :=
  String.singleton (Char.ofNat (48 + n).toNat)

/-- A redirection written back: a here-document as `<<...`; a duplication names its
descriptor by one character. -/
def Redir.summary : Redir → String
  | .here _ _ _ => "<<..."
  | .file fd op target =>
    let head := descriptorChar fd ++ op.text
    if op == .dupInput || op == .dupOutput then
      match target with
      | [.lit "-"] => head ++ descriptorChar (-1)
      | [.lit digits] =>
        if !digits.isEmpty && digits.all Char.isDigit then head ++ descriptorChar digits.toNat!
        else head ++ wordSummary target
      | _ => head ++ wordSummary target
    else head ++ wordSummary target

mutual

/-- A command written back, as a job list shows it. -/
def Command.summary : Command → String
  | .simple _ words redirs _ =>
    " ".intercalate (words.map wordSummary) ++ String.join (redirs.map fun r => " " ++ r.summary)
  | .pipeline negate stages =>
    (if negate then "!" else "") ++ " | ".intercalate (stages.attach.map fun ⟨c, _⟩ => c.summary)
  | .andOr first rest =>
    first.summary ++ String.join (rest.attach.map fun ⟨(k, c), _⟩ =>
      (if k == .andThen then " && " else " || ") ++ c.summary)
  | .list items => "; ".intercalate (items.attach.map fun ⟨(c, _), _⟩ => c.summary)
  | .subshell body _ => "(" ++ body.summary ++ ")"
  | .group body _ => body.summary
  | .ifThen branches otherwise _ => Command.ifSummary branches otherwise
  | .loop untilMode cond body _ =>
    (if untilMode then "until " else "while ") ++ cond.summary ++ "; do " ++ body.summary ++
      "; done"
  | .forIn var words body _ =>
    let items := match words with
      | some ws => " ".intercalate (ws.map wordSummary)
      | none => "\"$\x7b@\x7d\""
    "for " ++ var ++ " in " ++ items ++ "; do " ++ body.summary ++ "; done"
  | .caseOf subject arms _ =>
    "case " ++ wordSummary subject ++ " in " ++ String.join (arms.attach.map fun ⟨(patterns, body), _⟩ =>
      (patterns.head?.map wordSummary).getD "" ++ ") " ++ body.summary ++ ";; ") ++ "esac"
  | .funDef name _ => name ++ "() \x7b ... \x7d"
termination_by c => sizeOf c
decreasing_by
  all_goals simp_wf
  all_goals first
    | omega
    | (rename_i h; have := List.sizeOf_lt_of_mem h; (try simp at this); omega)

/-- `if` with its branches written back: each further branch is an `if` in the `else`
part of the one before. -/
def Command.ifSummary : List (Command × Command) → Option Command → String
  | [], _ => ""
  | [(cond, body)], otherwise =>
    let tail := match otherwise with
      | some e => "; else " ++ e.summary
      | none => ""
    "if " ++ cond.summary ++ "; then " ++ body.summary ++ tail ++ "; fi"
  | (cond, body) :: rest, otherwise =>
    "if " ++ cond.summary ++ "; then " ++ body.summary ++ "; else " ++
      Command.ifSummary rest otherwise ++ "; fi"
termination_by bs e => sizeOf bs + sizeOf e
decreasing_by
  all_goals simp_wf
  all_goals omega

end

/-- The texts of the processes a background command runs as: one for each stage of a
pipeline that is not negated, else one for the whole command. -/
def Command.processSummaries : Command → List String
  | .pipeline false stages@(_ :: _ :: _) => stages.map Command.summary
  | c => [c.summary]

end Confine.Shell
