/-!
# Reading TOML text: readers and their failures

A reader takes characters from the front of what is left of a document. It succeeds
with a result, or fails *softly*, so that another form may be tried where it started,
or *firmly*, once the text is known to be of a form and cannot be completed, which
refuses the whole document.

A failure records where reading stopped and what it learned on its way out: the name
of the form being read ("invalid string") and the tokens that would have fit there
("expected `]`"), innermost first, and for a value of the right shape but out of range
its cause. The message of a refusal names the innermost form, then every token, then
the cause, each on a line of its own.
-/

namespace Confine.Settings.Toml

/-- What a failure learned about the place it failed at. -/
inductive Hint where
  /-- The name of the form being read. -/
  | form (name : String)
  /-- A token that would have fit. -/
  | expected (token : String)
  deriving Repr

/-- Whether a failure lets an alternative be tried. -/
inductive Severity where
  | soft
  | firm
  deriving BEq, Repr

/-- A failure: how severe, where reading stopped, the hints gathered, innermost first,
and a cause. -/
structure Failure where
  severity : Severity := .soft
  pos : Nat
  hints : List Hint := []
  cause : Option String := none
  deriving Repr

/-- The message of a failure: the innermost form read, the tokens that would have fit,
and the cause, each on a line of its own. -/
def Failure.message (f : Failure) : String :=
  let form := f.hints.findSome? fun | .form n => some n | _ => none
  let tokens := f.hints.filterMap fun | .expected t => some t | _ => none
  let lines := [form.map ("invalid " ++ ·),
    if tokens.isEmpty then none else some ("expected " ++ ", ".intercalate tokens), f.cause]
  "\n".intercalate (lines.filterMap id)

/-- Where reading stands: what is left and how many characters were read. -/
structure Cursor where
  rest : List Char
  pos : Nat
  deriving Repr

/-- A reader of a part of a document. A failure leaves the cursor where the reader
started, so an alternative may be tried from there. -/
abbrev Reader := StateT Cursor (Except Failure)

/-- The next character, if any. -/
def peek : Reader (Option Char) := do return (← get).rest.head?

/-- The next characters, at most `n` of them. -/
def peekMany (n : Nat) : Reader (List Char) := do return (← get).rest.take n

/-- Fails softly where reading stands. -/
def soft {α : Type} : Reader α := do throw { pos := (← get).pos }

/-- Fails softly at a place, with a cause. -/
def softAt {α : Type} (pos : Nat) (cause : String) : Reader α := throw { pos, cause := some cause }

/-- Turns the soft failures of a reader into firm ones. -/
def firmly {α : Type} (r : Reader α) : Reader α :=
  tryCatch r fun f => throw { f with severity := .firm }

/-- Adds a hint to the failures of a reader. -/
def hinted {α : Type} (h : Hint) (r : Reader α) : Reader α :=
  tryCatch r fun f => throw { f with hints := f.hints ++ [h] }

/-- Adds hints, in order, to the failures of a reader. -/
def hintedAll {α : Type} (hs : List Hint) (r : Reader α) : Reader α :=
  tryCatch r fun f => throw { f with hints := f.hints ++ hs }

/-- The result of a reader, or none where it fails softly; a firm failure stays. -/
def attempt {α : Type} (r : Reader α) : Reader (Option α) :=
  tryCatch (some <$> r) fun f => if f.severity == .soft then pure none else throw f

/-- The first of several readers that does not fail softly; when all do, the failure
of the last. -/
def firstOf {α : Type} : List (Reader α) → Reader α
  | [] => soft
  | [r] => r
  | r :: rs => tryCatch r fun f => if f.severity == .soft then firstOf rs else throw f

/-- A reader whose result passes a check; otherwise a soft failure where it started,
with the check's cause. -/
def checked {α β : Type} (r : Reader α) (check : α → Except String β) : Reader β := do
  let start := (← get).pos
  let a ← r
  match check a with
  | .ok b => pure b
  | .error cause => softAt start cause

/-- A reader whose result satisfies a test; otherwise a soft failure where it started. -/
def satisfying {α : Type} (r : Reader α) (test : α → Bool) : Reader α := do
  let start := (← get).pos
  let a ← r
  if test a then pure a else throw { pos := start }

/-- The characters a reader consumed. -/
def consumed {α : Type} (r : Reader α) : Reader (List Char) := do
  let start ← get
  let _ ← r
  return start.rest.take ((← get).pos - start.pos)

/-- One character that satisfies a test. -/
def one (test : Char → Bool) : Reader Char := do
  let c ← get
  match c.rest with
  | ch :: more => if test ch then set ({ rest := more, pos := c.pos + 1 } : Cursor); pure ch else soft
  | [] => soft

/-- Any one character. -/
def anyChar : Reader Char := one fun _ => true

/-- A text, character for character. -/
def word (s : String) : Reader Unit := do
  let c ← get
  if c.rest.take s.length == s.toList then
    set ({ rest := c.rest.drop s.length, pos := c.pos + s.length } : Cursor)
  else soft

/-- The characters that satisfy a test, at most `most` of them; fewer than `least`
is a soft failure where reading started. -/
def span (least : Nat) (most : Option Nat) (test : Char → Bool) : Reader (List Char) := do
  let c ← get
  let all := c.rest.takeWhile test
  let taken := match most with
    | some m => all.take m
    | none => all
  if taken.length < least then soft
  else
    set ({ rest := c.rest.drop taken.length, pos := c.pos + taken.length } : Cursor)
    pure taken

/-- Repeats a reader until it fails softly or stops consuming; `fuel` bounds the
repetitions. -/
def repeatFrom {α : Type} (r : Reader α) : Nat → List α → Reader (List α)
  | 0, acc => pure acc.reverse
  | fuel + 1, acc => do
    let before := (← get).pos
    match ← attempt r with
    | some a => if (← get).pos == before then pure (a :: acc).reverse else repeatFrom r fuel (a :: acc)
    | none => pure acc.reverse

/-- Repeats a reader as often as it succeeds and consumes. -/
def many {α : Type} (r : Reader α) : Reader (List α) := do
  repeatFrom r ((← get).rest.length + 1) []

/-- One or more items with separators between them. An item that fails softly after a
separator ends the list before that separator. -/
def separatedOne {α : Type} (item : Reader α) (sep : Reader Unit) : Reader (List α) := do
  let first ← item
  let more ← many (do sep; item)
  pure (first :: more)

/-- Zero or more items with separators between them. -/
def separated {α : Type} (item : Reader α) (sep : Reader Unit) : Reader (List α) := do
  match ← attempt item with
  | none => pure []
  | some first =>
    let more ← many (do sep; item)
    pure (first :: more)

/-- Fails softly unless the document has ended. -/
def atEnd : Reader Unit := do
  if (← get).rest.isEmpty then pure () else soft

end Confine.Settings.Toml
