import Confine.Host.Program.Basic
import Confine.Host.Program.Options
import Confine.Host.Program.About
import Confine.Host.Program.Ends
import Confine.Extended.Basic

/-!
# Sorting lines

`sort` writes the lines of its inputs in order. Lines are compared by their keys in
turn, and, when all keys tie, by their bytes, unless `-s` keeps tied lines in the
order they came or `-u` keeps only the first line of each run of ties.

A key (`-k POS1[,POS2]`) is a stretch of a line from a field and character to a field
and character; fields are split at the byte `-t` gives, or else start at blanks, which
then belong to the field that follows. Without a key the whole line is one. Each key
compares its text by bytes, or as a number (`-n`: a decimal with a sign and a point;
`-g`: a floating point number, with non-numbers first; `-h`: a number with a unit
like `K` or `M`), as a month name (`-M`), or as a version (`-V`); it may ignore case
(`-f`), bytes that are neither alphanumeric nor blank (`-d`) or unprintable bytes
(`-i`), skip blanks at its ends (`-b`), and reverse (`-r`). Letters after a key apply
to it alone; the options apply to every key that has no letters of its own.

`-c` checks that the input is in order instead, reporting the first line out of order;
`-C` does so silently; `-m` merges inputs that are each in order; `-o` writes to a
file once all input is read; `-z` ends lines with zero bytes instead of line feeds.
-/

namespace Confine.Host.Program

open Confine.Shell

/-- Which bytes a key skips. -/
inductive Skipped where
  /-- Bytes that are neither alphanumeric nor blank. -/
  | nondictionary
  /-- Unprintable bytes. -/
  | nonprinting
  deriving BEq

/-- How a key compares its text. -/
structure KeyOrder where
  numeric : Bool := false
  general : Bool := false
  human : Bool := false
  month : Bool := false
  version : Bool := false
  random : Bool := false
  skipped : Option Skipped := none
  fold : Bool := false
  reverse : Bool := false
  skipStartBlanks : Bool := false
  skipEndBlanks : Bool := false

/-- Which end of a key a `b` applies to. -/
inductive BlankSide where
  | start
  | finish
  | both
  deriving BEq

namespace KeyOrder

/-- The order with one more letter, if the letter is one of the ordering letters. -/
def withLetter (o : KeyOrder) (side : BlankSide) (c : Char) : Option KeyOrder :=
  match c with
  | 'b' =>
    some { o with skipStartBlanks := o.skipStartBlanks || side != .finish,
                  skipEndBlanks := o.skipEndBlanks || side != .start }
  | 'd' => some { o with skipped := some .nondictionary }
  | 'f' => some { o with fold := true }
  | 'g' => some { o with general := true }
  | 'h' => some { o with human := true }
  | 'i' => some { o with skipped := if o.skipped.isNone then some .nonprinting else o.skipped }
  | 'M' => some { o with month := true }
  | 'n' => some { o with numeric := true }
  | 'R' => some { o with random := true }
  | 'r' => some { o with reverse := true }
  | 'V' => some { o with version := true }
  | _ => none

/-- Reads ordering letters from the front of a text: the order, and the text after
them. -/
def withLetters (o : KeyOrder) (side : BlankSide) : List Char → KeyOrder × List Char
  | [] => (o, [])
  | c :: rest =>
    match o.withLetter side c with
    | some o' => withLetters o' side rest
    | none => (o, c :: rest)

/-- Whether the order is the plain one: nothing but perhaps `r` asked. -/
def isPlain (o : KeyOrder) : Bool :=
  !(o.skipped.isSome || o.fold || o.skipStartBlanks || o.skipEndBlanks || o.numeric ||
    o.general || o.human || o.month || o.version || o.random)

/-- The letters of an order that clash, as the message names them. -/
def clashLetters (o : KeyOrder) : String :=
  String.ofList <|
    (if o.skipped == some .nondictionary then ['d'] else []) ++ (if o.fold then ['f'] else []) ++
    (if o.general then ['g'] else []) ++ (if o.human then ['h'] else []) ++
    (if o.skipped == some .nonprinting then ['i'] else []) ++ (if o.month then ['M'] else []) ++
    (if o.numeric then ['n'] else []) ++ (if o.random then ['R'] else []) ++
    (if o.version then ['V'] else [])

/-- Whether more than one way of comparing is asked at once. -/
def clashes (o : KeyOrder) : Bool :=
  let ways := [o.numeric, o.general, o.human, o.month, o.version || o.random || o.skipped.isSome]
  ways.count true > 1

end KeyOrder

/-- A key: the field it starts in (from zero, or `none` for the start of the line) and
the character in it, the field it ends in (or `none` for the end of the line) and the
characters into it (zero for all of it), and how it compares. -/
structure SortKey where
  startField : Option Nat := none
  startChar : Nat := 0
  endField : Option Nat := none
  endChar : Nat := 0
  order : KeyOrder := {}

/-- Reads a field or character count at the front of a text: the count, saturated, and
the text after its digits. -/
def fieldCount (cs : List Char) : Option (Nat × List Char) :=
  let body := cs.dropWhile isCSpace
  if body.head? == some '-' then none else
  let body := match body with
    | '+' :: r => r
    | r => r
  let ds := body.takeWhile Char.isDigit
  if ds.isEmpty then none
  else some (Nat.min (digitsValue ds) countLimit, body.drop ds.length)

/-- Reads the text of `-k POS1[,POS2]`, or the message refusing it. -/
def readKeySpec (spec : String) : Except String SortKey := do
  let invalid (what : String) (at_ : List Char) : String :=
    what ++ ": invalid count at start of " ++ quoteAlways (String.ofList at_)
  let bad (what : String) : String := what ++ ": invalid field specification " ++ quoteAlways spec
  let cs := spec.toList
  let (sword, rest) ← match fieldCount cs with
    | some r => pure r
    | none => throw (invalid "invalid number at field start" cs)
  if sword = 0 then throw (bad "field number is zero")
  let (schar, rest) ← match rest with
    | '.' :: more =>
      match fieldCount more with
      | some (0, _) => throw (bad "character offset is zero")
      | some (n, r) => pure (n, r)
      | none => throw (invalid "invalid number after '.'" more)
    | _ => pure (1, rest)
  let startField := if sword = 1 && schar = 1 then none else some (sword - 1)
  let (order, rest) := KeyOrder.withLetters {} .start rest
  let (endField, endChar, order, rest) ← match rest with
    | ',' :: more =>
      let (eword, r) ← match fieldCount more with
        | some r => pure r
        | none => throw (invalid "invalid number after ','" more)
      if eword = 0 then throw (bad "field number is zero")
      let (echar, r) ← match r with
        | '.' :: m =>
          match fieldCount m with
          | some x => pure x
          | none => throw (invalid "invalid number after '.'" m)
        | _ => pure (0, r)
      let (order, r) := order.withLetters .finish r
      pure (some (eword - 1), echar, order, r)
    | _ => pure (none, 0, order, rest)
  if !rest.isEmpty then throw (bad "stray character in field spec")
  return { startField, startChar := schar - 1, endField, endChar, order }

/-! ### Comparing -/

/-- Whether a byte is a blank between fields: a space, a tab or a line feed. -/
def isFieldBlank (b : UInt8) : Bool := b = 32 || b = 9 || b = 10

/-- The first place from `p` on, before `lim`, where the test fails. -/
def skipWhile (line : Array UInt8) (test : UInt8 → Bool) (p lim : Nat) : Nat :=
  go (lim - p) p
where
  go : Nat → Nat → Nat
  | 0, q => q
  | fuel + 1, q => if q < lim && test (line.getD q 0) then go fuel (q + 1) else q

/-- The place after `n` fields from the start: with a separator, after the `n`-th
separator; else after blanks and the text that follows them, `n` times. The last
separator is passed only when `pastLast`. -/
def passFields (tab : Option UInt8) (line : Array UInt8) (n : Nat) (pastLast : Bool) : Nat :=
  go n 0
where
  go : Nat → Nat → Nat
  | 0, p => p
  | k + 1, p =>
    let lim := line.size
    if p ≥ lim then p
    else match tab with
      | some t =>
        let q := skipWhile line (· != t) p lim
        let q := if q < lim && (k > 0 || pastLast) then q + 1 else q
        go k q
      | none =>
        let q := skipWhile line isFieldBlank p lim
        go k (skipWhile line (fun b => !isFieldBlank b) q lim)

/-- Where a key's text starts in a line. -/
def SortKey.start (k : SortKey) (tab : Option UInt8) (line : Array UInt8) (keyEnd : Nat) : Nat :=
  let lim := line.size
  match k.startField with
  | none => if k.order.skipStartBlanks then skipWhile line isFieldBlank 0 keyEnd else 0
  | some sword =>
    let p := passFields tab line sword true
    let p := if k.order.skipStartBlanks then skipWhile line isFieldBlank p lim else p
    Nat.min lim (p + k.startChar)

/-- Where a key's text ends in a line. -/
def SortKey.finish (k : SortKey) (tab : Option UInt8) (line : Array UInt8) : Nat :=
  let lim := line.size
  match k.endField with
  | none => lim
  | some eword =>
    let p := passFields tab line (if k.endChar = 0 then eword + 1 else eword) (k.endChar != 0)
    if k.endChar = 0 then p
    else
      let p := if k.order.skipEndBlanks then skipWhile line isFieldBlank p lim else p
      Nat.min lim (p + k.endChar)

/-- The text of a key in a line. -/
def SortKey.text (k : SortKey) (tab : Option UInt8) (line : Array UInt8) : List UInt8 :=
  let e := k.finish tab line
  let s := k.start tab line e
  (line.extract s (Nat.max s e)).toList

/-- The sign of a comparison. -/
def signOf (o : Ordering) : Int :=
  match o with
  | .lt => -1
  | .eq => 0
  | .gt => 1

/-- Byte order of byte lists. -/
def compareBytes (a b : List UInt8) : Int := signOf (compare a b)

/-- The exact value of the number at the front of a text, after blanks: a `-`, digits
and a fraction, as a numerator and the power of ten below it. No number is zero. -/
def leadingDecimal (bs : List UInt8) : Int × Nat :=
  let bs := bs.dropWhile isFieldBlank
  let (negative, bs) := match bs with
    | 45 :: r => (true, r)
    | r => (false, r)
  let isDigit (b : UInt8) : Bool := 48 ≤ b && b ≤ 57
  let whole := bs.takeWhile isDigit
  let frac := match bs.drop whole.length with
    | 46 :: r => r.takeWhile isDigit
    | _ => []
  let value (ds : List UInt8) : Nat := ds.foldl (fun a d => a * 10 + (d - 48).toNat) 0
  let n : Int := value (whole ++ frac)
  (if negative then -n else n, frac.length)

/-- Compares two exact decimals. -/
def compareDecimal (a b : Int × Nat) : Int :=
  let (x, dx) := a
  let (y, dy) := b
  signOf (compare (x * (Nat.pow 10 dy : Nat)) (y * (Nat.pow 10 dx : Nat)))

/-- The order of the unit after a number, negated for a negative number, and zero for
a number without a nonzero digit. -/
def unitOrder (bs : List UInt8) : Int :=
  let bs := bs.dropWhile isFieldBlank
  let (negative, body) := match bs with
    | 45 :: r => (true, r)
    | r => (false, r)
  let isDigit (b : UInt8) : Bool := 48 ≤ b && b ≤ 57
  let whole := body.takeWhile isDigit
  let afterWhole := body.drop whole.length
  let (digits, after) := match afterWhole with
    | 46 :: r => (whole ++ r.takeWhile isDigit, r.dropWhile isDigit)
    | r => (whole, r)
  let order : Int := match after.head? with
    | some 75 | some 107 => 1 | some 77 => 2 | some 71 => 3 | some 84 => 4 | some 80 => 5
    | some 69 => 6 | some 90 => 7 | some 89 => 8 | _ => 0
  if digits.any (· != 48) then (if negative then -order else order) else 0

/-- The number of a month's abbreviation at the front of a text, after blanks, any
case; zero for none. -/
def monthNumber (bs : List UInt8) : Nat :=
  let name := ((bs.dropWhile isFieldBlank).take 3).map fun b => if 97 ≤ b && b ≤ 122 then b - 32 else b
  let months := ["JAN", "FEB", "MAR", "APR", "MAY", "JUN", "JUL", "AUG", "SEP", "OCT", "NOV", "DEC"]
  match months.findIdx? (fun m => Text.Octets.toBytes m == name) with
  | some i => i + 1
  | none => 0

/-- The long double at the front of a text as `strtold` reads it, after white space;
none when the text does not start with a number. -/
def readGeneral (bs : List UInt8) : Option Extended :=
  (Extended.read (bs.map fun b => Char.ofNat b.toNat)).map (·.1)

/-- Compares two readings of `-g`: non-numbers first, then not-a-number (the positive
before the negative), then numbers by value, where the two zeros are equal. -/
def compareGeneral (a b : Option Extended) : Int :=
  match a, b with
  | none, none => 0
  | none, some _ => -1
  | some _, none => 1
  | some x, some y =>
    if x.lt y then -1
    else if y.lt x then 1
    else if x.eqv y then 0
    else if !y.isNan then -1
    else if !x.isNan then 1
    else signOf (compare x.isNegative y.isNegative)

/-- Compares two version texts: digits as numbers, letters before other bytes, `~`
before everything, an ending before anything but `~`, with a file suffix set aside. -/
def compareVersions (a b : List UInt8) : Int :=
  let isDigit (x : UInt8) : Bool := 48 ≤ x && x ≤ 57
  let isAlpha (x : UInt8) : Bool := (65 ≤ x && x ≤ 90) || (97 ≤ x && x ≤ 122)
  let rank (s : List UInt8) : Int :=
    match s with
    | [] => -1
    | x :: _ =>
      if isDigit x then 0 else if isAlpha x then x.toNat
      else if x = 126 then -2 else x.toNat + 256
  -- the Debian comparison of two strings
  let rec nonDigits : Nat → List UInt8 → List UInt8 → Int × List UInt8 × List UInt8
    | 0, s, t => (0, s, t)
    | fuel + 1, s, t =>
      let sNon := match s with | x :: _ => !isDigit x | [] => false
      let tNon := match t with | x :: _ => !isDigit x | [] => false
      if sNon || tNon then
        let r1 := rank s
        let r2 := rank t
        if r1 != r2 then (r1 - r2, s, t) else nonDigits fuel (s.drop 1) (t.drop 1)
      else (0, s, t)
  let rec go : Nat → List UInt8 → List UInt8 → Int
    | 0, _, _ => 0
    | fuel + 1, s, t =>
      if s.isEmpty && t.isEmpty then 0
      else
        let (d, s, t) := nonDigits (s.length + t.length + 1) s t
        if d != 0 then d
        else
          let s := s.dropWhile (· = 48)
          let t := t.dropWhile (· = 48)
          let ds := s.takeWhile isDigit
          let dt := t.takeWhile isDigit
          if ds.length != dt.length then (if ds.length > dt.length then 1 else -1)
          else
            let first := (ds.zip dt).find? (fun (x, y) => x != y)
            match first with
            | some (x, y) => (x.toNat : Int) - y.toNat
            | none => go fuel (s.drop ds.length) (t.drop dt.length)
  let verrevcmp (s t : List UInt8) : Int := go (s.length + t.length + 1) s t
  -- the length without a suffix of the form (\.[A-Za-z~][A-Za-z0-9~]*)*
  let prefixLength (s : List UInt8) : Nat :=
    let arr := s.toArray
    let n := arr.size
    let rec scan : Nat → Nat → Nat → Nat
      | 0, _, p => p
      | fuel + 1, i, p =>
        if i ≥ n then p
        else
          let i := i + 1
          let p := i
          let rec suffix : Nat → Nat → Nat
            | 0, j => j
            | f + 1, j =>
              if j + 1 < n && arr[j]! = 46 && (isAlpha arr[j + 1]! || arr[j + 1]! = 126) then
                let k := skipWhile arr (fun x => isAlpha x || isDigit x || x = 126) (j + 2) n
                suffix f k
              else j
          let i := suffix (n + 1) i
          scan fuel i p
    scan (n + 1) 0 0
  if a.isEmpty then (if b.isEmpty then 0 else -1)
  else if b.isEmpty then 1
  else
    let dotFirst : Option Int :=
      match a.head?, b.head? with
      | some 46, some 46 =>
        let adot := a.length = 1
        let bdot := b.length = 1
        if adot then some (if bdot then 0 else -1)
        else if bdot then some 1
        else
          let adotdot := a = [46, 46]
          let bdotdot := b = [46, 46]
          if adotdot then some (if bdotdot then 0 else -1)
          else if bdotdot then some 1 else none
      | some 46, _ => some (-1)
      | _, some 46 => some 1
      | _, _ => none
    match dotFirst with
    | some r => r
    | none =>
      let pa := prefixLength a
      let pb := prefixLength b
      let onePass := pa = a.length && pb = b.length
      let r := verrevcmp (a.take pa) (b.take pb)
      if r != 0 || onePass then r else verrevcmp a b

/-- Whether a key skips a byte. -/
def Skipped.skips (s : Skipped) (b : UInt8) : Bool :=
  match s with
  | .nondictionary => !((48 ≤ b && b ≤ 57) || (65 ≤ b && b ≤ 90) || (97 ≤ b && b ≤ 122) || isFieldBlank b)
  | .nonprinting => !(32 ≤ b && b < 127)

/-- Compares the texts of one key, before reversing. -/
def KeyOrder.compareTexts (o : KeyOrder) (a b : List UInt8) : Int :=
  let prepare (t : List UInt8) : List UInt8 :=
    let t := match o.skipped with
      | some s => t.filter fun x => !s.skips x
      | none => t
    if o.fold then t.map fun x => if 97 ≤ x && x ≤ 122 then x - 32 else x else t
  let a := prepare a
  let b := prepare b
  if o.numeric then compareDecimal (leadingDecimal a) (leadingDecimal b)
  else if o.general then compareGeneral (readGeneral a) (readGeneral b)
  else if o.human then
    let d := unitOrder a - unitOrder b
    if d != 0 then d else compareDecimal (leadingDecimal a) (leadingDecimal b)
  else if o.month then (monthNumber a : Int) - monthNumber b
  else if o.version then compareVersions a b
  else compareBytes a b

/-- What `sort` was asked. -/
structure SortRequest where
  keys : List SortKey := []
  /-- The order the options give, for keys without letters and for the last
  comparison. -/
  global : KeyOrder := {}
  tab : Option UInt8 := none
  unique : Bool := false
  stable : Bool := false
  check : Option Char := none
  merge : Bool := false
  output : Option String := none
  delimiter : UInt8 := 10

namespace SortRequest

/-- The keys lines are compared by: those given, each without letters taking the
options, or the options as one key over the whole line when they ask anything. -/
def effectiveKeys (r : SortRequest) : List SortKey :=
  if r.keys.isEmpty then
    if r.global.isPlain then [] else [{ order := r.global }]
  else r.keys.map fun k =>
    if k.order.isPlain && !k.order.reverse then { k with order := r.global } else k

/-- Compares two lines: by each key in turn, then, unless stable or unique, by all
their bytes. -/
def compareLines (r : SortRequest) (keys : List SortKey) (a b : Array UInt8) : Int :=
  let byKeys := keys.foldl (fun acc k =>
    if acc != 0 then acc
    else
      let d := k.order.compareTexts (k.text r.tab a) (k.text r.tab b)
      if k.order.reverse then -d else d) 0
  if byKeys != 0 || ((r.unique || r.stable) && !keys.isEmpty) then byKeys
  else
    let d := compareBytes a.toList b.toList
    if r.global.reverse then -d else d

/-- The lines in order, only the first of each run of ties when unique. -/
def sortLines (r : SortRequest) (lines : List (Array UInt8)) : List (Array UInt8) :=
  let keys := r.effectiveKeys
  let sorted := lines.mergeSort fun a b => r.compareLines keys a b ≤ 0
  if r.unique then dedup keys sorted else sorted
where
  dedup (keys : List SortKey) : List (Array UInt8) → List (Array UInt8)
    | [] => []
    | x :: rest => x :: dedup keys (rest.dropWhile fun y => r.compareLines keys x y == 0)
  termination_by l => l.length
  decreasing_by
    simp only [List.length_cons]
    have := dropWhile_length_le (fun y => r.compareLines keys x y == 0) rest
    omega

/-- Merges lists that are each in order: the least first line goes first, the
earlier list's on a tie. -/
def mergeLines (r : SortRequest) (inputs : List (List (Array UInt8))) : List (Array UInt8) :=
  let keys := r.effectiveKeys
  let total := (inputs.map List.length).foldl (· + ·) 0
  let rec go : Nat → List (List (Array UInt8)) → Option (Array UInt8) → List (Array UInt8) →
      List (Array UInt8)
    | 0, _, _, acc => acc.reverse
    | fuel + 1, ins, last, acc =>
      let best := ins.zipIdx.foldl (fun (best : Option (Array UInt8 × Nat)) (l, i) =>
        match l, best with
        | [], _ => best
        | x :: _, none => some (x, i)
        | x :: _, some (y, j) => if r.compareLines keys x y < 0 then some (x, i) else some (y, j)) none
      match best with
      | none => acc.reverse
      | some (x, i) =>
        let ins := ins.zipIdx.map fun (l, j) => if j = i then l.drop 1 else l
        let repeated := r.unique && (last.map (r.compareLines keys · x == 0)).getD false
        go fuel ins (some x) (if repeated then acc else x :: acc)
  go (total + 1) inputs none []

/-- The first line out of order, by its number from one, if there is one; with
`-u` a tie is out of order too. -/
def firstDisorder (r : SortRequest) (lines : List (Array UInt8)) : Option (Nat × Array UInt8) :=
  let keys := r.effectiveKeys
  let pairs := (lines.zip (lines.drop 1)).zipIdx
  (pairs.find? fun ((a, b), _) =>
    let d := r.compareLines keys a b
    d > 0 || (r.unique && d == 0)).map fun ((_, b), i) => (i + 2, b)

end SortRequest

/-- The option table of `sort`. -/
def sortOptions : OptionTable where
  short := [('b', .nothing), ('c', .nothing), ('C', .nothing), ('d', .nothing), ('f', .nothing),
    ('g', .nothing), ('h', .nothing), ('i', .nothing), ('k', .value), ('m', .nothing),
    ('M', .nothing), ('n', .nothing), ('o', .value), ('r', .nothing), ('R', .nothing),
    ('s', .nothing), ('S', .value), ('t', .value), ('T', .value), ('u', .nothing),
    ('V', .nothing), ('y', .maybe), ('z', .nothing)]
  long := [⟨"ignore-leading-blanks", .nothing, "b"⟩, ⟨"check", .maybe, "check"⟩,
    ⟨"compress-program", .value, "compress"⟩, ⟨"debug", .nothing, "debug"⟩,
    ⟨"dictionary-order", .nothing, "d"⟩, ⟨"ignore-case", .nothing, "f"⟩,
    ⟨"files0-from", .value, "files0"⟩, ⟨"general-numeric-sort", .nothing, "g"⟩,
    ⟨"ignore-nonprinting", .nothing, "i"⟩, ⟨"key", .value, "k"⟩, ⟨"merge", .nothing, "m"⟩,
    ⟨"month-sort", .nothing, "M"⟩, ⟨"numeric-sort", .nothing, "n"⟩,
    ⟨"human-numeric-sort", .nothing, "h"⟩, ⟨"version-sort", .nothing, "V"⟩,
    ⟨"random-sort", .nothing, "R"⟩, ⟨"random-source", .value, "random-source"⟩,
    ⟨"sort", .value, "sort"⟩, ⟨"output", .value, "o"⟩, ⟨"reverse", .nothing, "r"⟩,
    ⟨"stable", .nothing, "s"⟩, ⟨"batch-size", .value, "batch-size"⟩,
    ⟨"buffer-size", .value, "S"⟩, ⟨"field-separator", .value, "t"⟩,
    ⟨"temporary-directory", .value, "T"⟩, ⟨"unique", .nothing, "u"⟩,
    ⟨"zero-terminated", .nothing, "z"⟩, ⟨"parallel", .value, "parallel"⟩] ++ standardLong

/-- Applies the options read by `sort` to a request, or gives the message refusing
them. -/
def readSortOptions (opts : List (String × Option String)) : Except String SortRequest :=
  opts.foldlM (fun r (key, value) =>
    let v := value.getD ""
    match key with
    | "k" => do
      let k ← readKeySpec v
      pure { r with keys := r.keys ++ [k] }
    | "t" =>
      match Text.Octets.toBytes v with
      | [] => .error "empty tab"
      | [b] =>
        if r.tab.any (· != b) then .error "incompatible tabs" else .ok { r with tab := some b }
      | bs =>
        if v == "\\0" then
          if r.tab.any (· != 0) then .error "incompatible tabs" else .ok { r with tab := some 0 }
        else
          let _ := bs
          .error ("multi-character tab " ++ quoteAlways v)
    | "c" | "C" => .ok { r with check := some key.front }
    | "check" =>
      match value with
      | none => .ok { r with check := some 'c' }
      | some w =>
        let names := ["quiet", "silent", "diagnose-first"]
        match names.filter (·.startsWith w) with
        | [] | [_, _] | [_, _, _] =>
          if names.contains w then .ok { r with check := some (if w = "diagnose-first" then 'c' else 'C') }
          else .error ("invalid argument " ++ quoteAlways w ++ " for '--check'")
        | [n] => .ok { r with check := some (if n = "diagnose-first" then 'c' else 'C') }
        | _ => .ok r
    | "m" => .ok { r with merge := true }
    | "o" =>
      if r.output.any (· != v) then .error "multiple output files specified"
      else .ok { r with output := some v }
    | "s" => .ok { r with stable := true }
    | "u" => .ok { r with unique := true }
    | "z" => .ok { r with delimiter := 0 }
    | "sort" =>
      let letter := match v with
        | "general-numeric" => some 'g' | "human-numeric" => some 'h' | "month" => some 'M'
        | "numeric" => some 'n' | "random" => some 'R' | "version" => some 'V' | _ => none
      match letter.bind (r.global.withLetter .both) with
      | some o => .ok { r with global := o }
      | none => .error ("invalid argument " ++ quoteAlways v ++ " for '--sort'")
    | k =>
      match k.toList with
      | [c] =>
        match r.global.withLetter .both c with
        | some o => .ok { r with global := o }
        | none => .ok r
      | _ => .ok r) {}

/-- Reads the lines of an input: standard input for `-`. A directory cannot be read. -/
def sortInput (f : String) (delim : UInt8) : M (Except String (List (Array UInt8))) := do
  let data ← if f = "-" then
      if (← fd? 0).isNone then pure (.error ("read failed: -: " ++ Errno.badDescriptor.text))
      else pure (Except.ok (← readToEnd 0))
    else match ← openInput 9 f with
      | .ok () => pure (.ok (← readToEnd 9))
      | .error .isDir => pure (.error ("read failed: " ++ quoteName f ++ ": Is a directory"))
      | .error e => pure (.error ("open failed: " ++ quoteName f ++ ": " ++ e.text))
  return data.map fun bs =>
    (records delim bs).map fun l => (if l.getLast? == some delim then l.dropLast else l).toArray

/-- `sort [OPTION]... [FILE]...`. -/
def sort (args : List String) : M Nat := do
  match sortOptions.read args with
  | .error e => complain "sort" e.message; tryHelp "sort"; return 2
  | .ok parsed =>
  if let some code ← aboutRequest "sort" parsed then return code
  match readSortOptions parsed.options with
  | .error msg => complain "sort" msg; return 2
  | .ok r =>
  match r.effectiveKeys.find? (·.order.clashes) with
  | some k =>
    complain "sort" ("options '-" ++ k.order.clashLetters ++ "' are incompatible"); return 2
  | none =>
  let files := if parsed.operands.isEmpty then ["-"] else parsed.operands
  let delim := r.delimiter
  match r.check with
  | some mode =>
    if files.length > 1 then
      complain "sort" ("extra operand " ++ quoteFile (files.getD 1 "") ++ " not allowed with -" ++
        String.singleton mode)
      return 2
    if r.output.isSome then
      complain "sort" ("options '-" ++ String.singleton mode ++ "o' are incompatible"); return 2
    let f := files.getD 0 "-"
    match ← sortInput f delim with
    | .error msg => complain "sort" msg; return 2
    | .ok lines =>
      match r.firstDisorder lines with
      | none => return 0
      | some (n, line) =>
        if mode = 'c' then
          put 2 (bytes ("sort: " ++ f ++ ":" ++ toString n ++ ": disorder: ") ++ line.toList ++ [delim])
        return 1
  | none =>
  -- every input must be readable before anything is read
  for f in files do
    if f != "-" then
      match ← statPath f with
      | .error e => complain "sort" ("cannot read: " ++ quoteName f ++ ": " ++ e.text); return 2
      | .ok _ => pure ()
  if let some out := r.output then
    match ← creationPlace out with
    | .error e => complain "sort" ("open failed: " ++ quoteName out ++ ": " ++ e.text); return 2
    | .ok _ => pure ()
  let mut inputs : List (List (Array UInt8)) := []
  for f in files do
    match ← sortInput f delim with
    | .error msg => complain "sort" msg; return 2
    | .ok lines => inputs := inputs ++ [lines]
  let sorted := if r.merge then r.mergeLines inputs else r.sortLines inputs.flatten
  let text := sorted.flatMap fun l => l.toList ++ [delim]
  match r.output with
  | none => put 1 text
  | some out =>
    match ← creationPlace out with
    | .ok (dir, name) =>
      let names := dir ++ [Text.Octets.toText name]
      modify fun w => { w with fs := (w.fs.put? names (.file text)).getD w.fs }
    | .error _ => pure ()
  return 0

end Confine.Host.Program
