/-!
# Terminal line discipline

A pseudo-terminal in its default mode: input is edited a line at a time and echoed;
output has each line feed turned into carriage return and line feed.

Input bytes are folded through `step` one at a time. A carriage return counts as a
line feed. A line feed ends the line, which becomes readable. The end-of-file key
(control-D) hands over the line so far, or, on an empty line, an end-of-input mark;
it is not echoed. The interrupt, quit and suspend keys (control-C, control-backslash,
control-Z) signal the foreground processes, echo as `^C` and so on, and drop the line.
The erase key (DEL) removes the last byte and echoes backspace-space-backspace; the
kill key (control-U) erases the whole line, byte by byte; the word-erase key
(control-W) erases back over blanks and punctuation to the start of the word before
them, a word being letters, digits and underscores. The reprint key (control-R) echoes
`^R`, a new line and the line so far. The literal-next key (control-V) echoes `^` and a
backspace, and puts the next byte in the line whatever it is. The stop and start keys
(control-S, control-Q) only control output and never reach the line. Other control
bytes echo in caret form and stay in the line; everything else echoes as itself.
-/

namespace Confine.Host.Terminal

/-- Terminal output processing: a line feed becomes carriage return, line feed. -/
def translateOutput (bs : List UInt8) : List UInt8 :=
  bs.flatMap fun b => if b = 10 then [13, 10] else [b]

@[simp] theorem translateOutput_nil : translateOutput [] = [] := rfl

theorem translateOutput_append (a b : List UInt8) :
    translateOutput (a ++ b) = translateOutput a ++ translateOutput b := by
  simp [translateOutput]

/-- What the discipline made of the input so far. -/
structure Intake where
  /-- The line being edited, in order. -/
  line : List UInt8
  /-- Echoed bytes with their times, newest first. -/
  echo : List (Nat × List UInt8)
  /-- Readable chunks with their times, newest first; an empty chunk marks end of input. -/
  chunks : List (Nat × List UInt8)
  /-- Signals for the foreground processes, newest first. -/
  signals : List (Nat × Nat)
  /-- Whether the next byte is taken literally. -/
  literal : Bool := false
  deriving Repr, Inhabited

namespace Intake

def empty : Intake := ⟨[], [], [], [], false⟩

/-- Record an echo. -/
def say (i : Intake) (time : Nat) (bs : List UInt8) : Intake :=
  if bs.isEmpty then i else { i with echo := (time, bs) :: i.echo }

/-- The caret form of a control byte. -/
def caret (b : UInt8) : List UInt8 := [94, b ^^^ 0x40]

/-- The bytes that erase one echoed byte: a control byte echoed in caret form takes
two columns. -/
def rubout (b : UInt8) : List UInt8 :=
  if b < 32 && b != 9 then [8, 32, 8, 8, 32, 8] else [8, 32, 8]

/-- Whether a byte belongs to a word for the word-erase key. -/
def wordByte (b : UInt8) : Bool :=
  (48 ≤ b && b ≤ 57) || (65 ≤ b && b ≤ 90) || (97 ≤ b && b ≤ 122) || b = 95

/-- How many bytes at the end of a line (given last first) the word-erase key removes:
those that are not part of a word, then the word before them. -/
def wordTail (rev : List UInt8) : Nat :=
  let gap := (rev.takeWhile (!wordByte ·)).length
  gap + ((rev.drop gap).takeWhile wordByte).length

/-- The echo of a byte in the line: caret form for a control byte other than tab. -/
def shown (b : UInt8) : List UInt8 := if b < 32 && b != 9 then caret b else [b]

/-- One input byte written at `time`. -/
def step (i : Intake) (time : Nat) (b : UInt8) : Intake :=
  if i.literal then { (i.say time (shown b)) with line := i.line ++ [b], literal := false } else
  let b := if b = 13 then 10 else b
  if b = 10 then
    { (i.say time [13, 10]) with line := [], chunks := (time, i.line ++ [10]) :: i.chunks }
  else if b = 4 then
    { i with line := [], chunks := (time, i.line) :: i.chunks }
  else if b = 3 || b = 28 || b = 26 then
    let sig := if b = 3 then 2 else if b = 28 then 3 else 20
    { (i.say time (caret b)) with line := [], signals := (time, sig) :: i.signals }
  else if b = 127 then
    match i.line.getLast? with
    | some last => { (i.say time (rubout last)) with line := i.line.dropLast }
    | none => i
  else if b = 21 then
    { (i.say time (i.line.reverse.flatMap rubout)) with line := [] }
  else if b = 23 then
    let n := wordTail i.line.reverse
    { (i.say time ((i.line.reverse.take n).flatMap rubout)) with line := i.line.take (i.line.length - n) }
  else if b = 18 then
    i.say time (caret b ++ [13, 10] ++ i.line.flatMap shown)
  else if b = 22 then
    { (i.say time [94, 8]) with literal := true }
  else if b = 17 || b = 19 then i
  else if b < 32 && b != 9 then
    { (i.say time (caret b)) with line := i.line ++ [b] }
  else
    { (i.say time [b]) with line := i.line ++ [b] }

/-- Feed a whole write. -/
def feed (i : Intake) (time : Nat) (bs : List UInt8) : Intake :=
  bs.foldl (fun acc b => acc.step time b) i

end Intake

/-- The discipline run over timed writes. -/
def intake (writes : List (Nat × List UInt8)) : Intake :=
  writes.foldl (fun acc w => acc.feed w.1 w.2) Intake.empty

theorem intake_append (a b : List (Nat × List UInt8)) :
    intake (a ++ b) = b.foldl (fun acc w => acc.feed w.1 w.2) (intake a) := by
  simp [intake, List.foldl_append]

end Confine.Host.Terminal
