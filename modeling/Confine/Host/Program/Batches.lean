import Confine.Host.Program.Options
import Confine.Text.Octets

/-!
# Command lines from input

`xargs` reads items from its input and runs a command once per batch of them, the
items after the command's own arguments. By default items are separated by blanks
and line feeds; single and double quotes keep blanks in an item and a backslash
keeps the next byte, but a quote may not run past its line. With `-0` or `-d` items
are separated by one byte only and nothing is special.

A batch holds every item, or `-n` of them, or the items of `-L` lines, where a line
that ends in a blank goes on into the next one. With `-I` every line is one item that
replaces the marker in the command's arguments. Without items the command still
runs once, unless `-r` or `-I`. An `-E` item ends the input.

Reading the input gives *events*: items and the ends of lines. The batches follow from
the events alone, and an unmatched quote ends them with a refusal after the items
already read have run.
-/

namespace Confine.Host.Program

/-- What `xargs` was asked. -/
structure BatchRequest where
  /-- The single separator byte, when items are not read the default way. -/
  delimiter : Option UInt8 := none
  maxArgs : Option Nat := none
  maxLines : Option Nat := none
  /-- The marker that each line replaces in the command's arguments. -/
  replace : Option String := none
  eofItem : Option String := none
  runIfEmpty : Bool := true
  verbose : Bool := false
  /-- A file to read items from instead of the standard input. -/
  argFile : Option String := none
  /-- The command and its own arguments. -/
  command : List String := ["echo"]

/-- What reading the input gives. -/
inductive BatchEvent where
  /-- An item. -/
  | item (text : List UInt8)
  /-- The end of a line that counts for `-L`. -/
  | lineEnd
  deriving BEq

/-- How reading the input ended. -/
inductive BatchEnd where
  | done
  /-- A quote was not closed on its line. -/
  | unmatched (double : Bool)
  deriving BEq

/-- The refusal of an unmatched quote. -/
def BatchEnd.message : BatchEnd → Option String
  | .done => none
  | .unmatched d =>
    some ("unmatched " ++ (if d then "double" else "single") ++
      " quote; by default quotes are special to xargs unless you use the -0 option")

/-- Whether a byte is a blank: a space or a tab. -/
def isBlankByte (b : UInt8) : Bool := b = 32 || b = 9

/-- Whether a byte is white space. -/
def isSpaceByte (b : UInt8) : Bool := b = 32 || (9 ≤ b && b ≤ 13)

/-- The state of the default reader. -/
inductive ReadState where
  | space
  | normal
  | quote (q : UInt8)
  | escape
  deriving BEq

/-- Reads items the default way. `lines` makes blanks part of items, so that each line
is one item. The reader skips white space before an item; in an item a blank ends it
(unless `lines`), a line feed ends it and its line, quotes and backslashes work as
described above; an item equal to the end marker ends the input. -/
def readDefault (lines : Bool) (eofItem : Option (List UInt8)) (input : List UInt8) :
    List BatchEvent × BatchEnd :=
  go input .space [] false false true []
where
  /-- The bytes left, the state, the item so far (reversed), whether an item was
  begun, whether the last byte was a blank, whether the item is the first of its
  line, and the events so far (reversed). At the end an item with no bytes, even a
  quoted one, gives nothing. -/
  go : List UInt8 → ReadState → List UInt8 → Bool → Bool → Bool → List BatchEvent →
      List BatchEvent × BatchEnd
  | [], st, cur, _, _, first, acc =>
    if cur.isEmpty then (acc.reverse, .done)
    else match st with
      | .quote q => (acc.reverse, .unmatched (q = 34))
      | _ =>
        if first && eofItem == some cur.reverse then (acc.reverse, .done)
        else ((.item cur.reverse :: acc).reverse, .done)
  | b :: rest, st, cur, seen, prevBlank, first, acc =>
    let st := if st == .space && !isSpaceByte b then ReadState.normal else st
    match st with
    | .space => go rest .space cur seen (isBlankByte b) first acc
    | .normal =>
      if b = 10 then
        if cur.isEmpty && !seen then go rest .space [] false false true acc
        else if eofItem == some cur.reverse then (acc.reverse, .done)
        else
          let acc := BatchEvent.item cur.reverse :: acc
          let acc := if prevBlank then acc else .lineEnd :: acc
          go rest .space [] false false true acc
      else if !lines && isBlankByte b then
        if eofItem == some cur.reverse then (acc.reverse, .done)
        else go rest .space [] false true false (.item cur.reverse :: acc)
      else if b = 92 then go rest .escape cur true false first acc
      else if b = 39 || b = 34 then go rest (.quote b) cur true false first acc
      else go rest .normal (b :: cur) true (isBlankByte b) first acc
    | .quote q =>
      if b = 10 then (acc.reverse, .unmatched (q = 34))
      else if b = q then go rest .normal cur true false first acc
      else go rest (.quote q) (b :: cur) true (isBlankByte b) first acc
    | .escape => go rest .normal (b :: cur) true (isBlankByte b) first acc

/-- Reads items separated by one byte; each separator also ends a line. -/
def readDelimited (sep : UInt8) (eofItem : Option (List UInt8)) (input : List UInt8) :
    List BatchEvent × BatchEnd :=
  let parts := input.splitOn sep
  let parts := if parts.getLast? == some [] then parts.dropLast else parts
  let upTo := match eofItem with
    | some e => parts.takeWhile (· != e)
    | none => parts
  (upTo.flatMap fun p => [.item p, .lineEnd], .done)

/-- The events of an input under a request. -/
def BatchRequest.events (r : BatchRequest) (input : List UInt8) : List BatchEvent × BatchEnd :=
  let eofItem := r.eofItem.map Text.Octets.toBytes
  match r.delimiter with
  | some d => readDelimited d eofItem input
  | none => readDefault r.replace.isSome eofItem input

/-- Every occurrence of a marker in a text replaced. -/
def replaceAll (text marker by_ : String) : String :=
  if marker.isEmpty then text else by_.intercalate (text.splitOn marker)

/-- The argument lists to run, in order, for the events of an input. -/
def BatchRequest.plan (r : BatchRequest) (events : List BatchEvent) (ended : BatchEnd) :
    List (List String) :=
  match r.replace with
  | some marker =>
    events.filterMap fun e => match e with
      | .item t =>
        let line := Text.Octets.ofBytes t
        some (r.command.map fun a => replaceAll a marker line)
      | .lineEnd => none
  | none =>
    let (done, pending, _) := events.foldl (fun (done, pending, lines) e =>
      match e with
      | .item t =>
        let pending := pending ++ [Text.Octets.ofBytes t]
        if r.maxArgs.any (· ≤ pending.length) then (done ++ [pending], [], 0)
        else (done, pending, lines)
      | .lineEnd =>
        let lines := lines + 1
        if r.maxLines.any (· ≤ lines) && !pending.isEmpty then (done ++ [pending], [], 0)
        else (done, pending, lines)) (([] : List (List String)), ([] : List String), 0)
    let last := if !pending.isEmpty then [pending]
      else if done.isEmpty && r.runIfEmpty && ended == .done then [[]]
      else []
    (done ++ last).map (r.command ++ ·)

/-- The option table of `xargs`; options end at the command. -/
def batchOptions : OptionTable where
  short := [('0', .nothing), ('a', .value), ('E', .value), ('e', .maybe), ('i', .maybe),
    ('I', .value), ('l', .maybe), ('L', .value), ('n', .value), ('p', .nothing),
    ('r', .nothing), ('s', .value), ('t', .nothing), ('x', .nothing), ('P', .value),
    ('d', .value), ('o', .nothing)]
  long := [⟨"null", .nothing, "0"⟩, ⟨"arg-file", .value, "a"⟩, ⟨"delimiter", .value, "d"⟩,
    ⟨"eof", .maybe, "e"⟩, ⟨"replace", .maybe, "i"⟩, ⟨"max-lines", .maybe, "l"⟩,
    ⟨"max-args", .value, "n"⟩, ⟨"open-tty", .nothing, "o"⟩, ⟨"interactive", .nothing, "p"⟩,
    ⟨"no-run-if-empty", .nothing, "r"⟩, ⟨"max-chars", .value, "s"⟩,
    ⟨"verbose", .nothing, "t"⟩, ⟨"exit", .nothing, "x"⟩, ⟨"max-procs", .value, "P"⟩,
    ⟨"process-slot-var", .value, "process-slot-var"⟩, ⟨"show-limits", .nothing, "show-limits"⟩,
    ⟨"help", .nothing, "help"⟩, ⟨"version", .nothing, "version"⟩]
  inOrder := true

/-- A positive count for an option, or the message refusing it. -/
def batchCount (opt : Char) (least : Nat) (v : String) : Except String Nat :=
  let digits := v.toList
  if !digits.isEmpty && digits.all Char.isDigit then
    let n := v.toNat!
    if n < least then
      .error ("value " ++ v ++ " for -" ++ String.singleton opt ++ " option should be >= " ++ toString least)
    else .ok n
  else .error ("invalid number \"" ++ v ++ "\" for -" ++ String.singleton opt ++ " option")

/-- The separator byte of `-d`: one byte, or an escape. -/
def delimiterByte (v : String) : Except String UInt8 :=
  match Text.Octets.toBytes v with
  | [b] => .ok b
  | [92, c] =>
    match Char.ofNat c.toNat with
    | 'n' => .ok 10 | 't' => .ok 9 | 'r' => .ok 13 | '0' => .ok 0 | '\\' => .ok 92
    | 'a' => .ok 7 | 'b' => .ok 8 | 'f' => .ok 12 | 'v' => .ok 11
    | _ => .error ("invalid input delimiter specification " ++ v ++ ": the delimiter must be either a single character or an escape sequence starting with \\.")
  | _ => .error ("invalid input delimiter specification " ++ v ++ ": the delimiter must be either a single character or an escape sequence starting with \\.")

/-- What the arguments of `xargs` ask, or the message refusing them. -/
def readBatchOptions (args : List String) : Except String BatchRequest := do
  let parsed ← (batchOptions.read args).mapError (·.message)
  let mut r : BatchRequest := {}
  for (key, value) in parsed.options do
    let v := value.getD ""
    match key with
    | "0" => r := { r with delimiter := some 0 }
    | "d" => r := { r with delimiter := some (← delimiterByte v) }
    | "a" => r := { r with argFile := some v }
    | "E" => r := { r with eofItem := if v.isEmpty then none else some v }
    | "e" => r := { r with eofItem := value }
    | "I" => r := { r with replace := some v, maxLines := some 1, maxArgs := none }
    | "i" => r := { r with replace := some (value.getD "\x7b\x7d"), maxLines := some 1, maxArgs := none }
    | "L" => r := { r with maxLines := some (← batchCount 'L' 1 v), maxArgs := none, replace := none }
    | "l" =>
      let n ← match value with
        | some x => batchCount 'l' 1 x
        | none => pure 1
      r := { r with maxLines := some n, maxArgs := none, replace := none }
    | "n" => r := { r with maxArgs := some (← batchCount 'n' 1 v), maxLines := none }
    | "r" => r := { r with runIfEmpty := false }
    | "t" | "p" => r := { r with verbose := true }
    | "s" => let _ ← batchCount 's' 1 v
    | "P" => let _ ← batchCount 'P' 0 v
    | _ => pure ()
  if !parsed.operands.isEmpty then r := { r with command := parsed.operands }
  return r

end Confine.Host.Program
