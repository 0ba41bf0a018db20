import Confine.Host.Program.Basic
import Confine.Host.Program.Options
import Confine.Host.Program.About
import Confine.Regex.Parse

/-!
# Translating bytes

`tr SET1 [SET2]` copies its input to its output, translating the bytes of the first
set into the bytes of the second at the same places (`-c` takes the bytes outside the
first set, in increasing order), deleting those of the first set (`-d`), and
squeezing each run of a byte of the last set given into one (`-s`).

A set is written with escapes (`\n`, `\t`, `\\`, octal `\ooo` up to `\377`), ranges
`a-z`, classes `[:alpha:]`, a byte's equivalence class `[=c=]`, which in the C locale
is the byte itself, and repeats `[c*n]` (`n` decimal, or octal with a leading zero);
in the second set `[c*]` repeats `c` until it is as long as the first. A shorter
second set is padded with its last byte, unless `-t` cuts the first set instead.
Translating `[:lower:]` to `[:upper:]`, or back, changes the case of every letter.

Each rule that a pair of sets breaks has its own message, and the status is then 1.
-/

namespace Confine.Host.Program

open Confine.Shell

/-- The named classes of bytes. -/
inductive ByteClass where
  | alnum | alpha | blank | cntrl | digit | graph | lower | print | punct | space | upper | xdigit
  deriving BEq

namespace ByteClass

/-- The class of a name. -/
def ofName : String → Option ByteClass
  | "alnum" => some .alnum | "alpha" => some .alpha | "blank" => some .blank
  | "cntrl" => some .cntrl | "digit" => some .digit | "graph" => some .graph
  | "lower" => some .lower | "print" => some .print | "punct" => some .punct
  | "space" => some .space | "upper" => some .upper | "xdigit" => some .xdigit
  | _ => none

/-- The name of a class. -/
def name : ByteClass → String
  | .alnum => "alnum" | .alpha => "alpha" | .blank => "blank" | .cntrl => "cntrl"
  | .digit => "digit" | .graph => "graph" | .lower => "lower" | .print => "print"
  | .punct => "punct" | .space => "space" | .upper => "upper" | .xdigit => "xdigit"

/-- The bytes of a class, in increasing order. -/
def members (c : ByteClass) : List UInt8 :=
  let ranges := (Regex.Read.classRanges c.name).getD []
  (List.range 256).filterMap fun n =>
    let b := n.toUInt8
    if ranges.any (fun (lo, hi) => lo ≤ b && b ≤ hi) then some b else none

/-- Whether translating may use the class in the second set: only the cases. -/
def isCase (c : ByteClass) : Bool := c == .lower || c == .upper

end ByteClass

/-- One element of a set. -/
inductive SetPart where
  | byte (b : UInt8)
  | range (lo hi : UInt8)
  | cls (c : ByteClass)
  | equiv (b : UInt8)
  /-- `[c*n]`; `none` repeats until the second set is long enough. -/
  | repeated (b : UInt8) (count : Option Nat)

/-- A byte as messages show it: itself when printable, else in octal. -/
def printableByte (b : UInt8) : String :=
  if 32 ≤ b && b < 127 then String.singleton (Char.ofNat b.toNat)
  else
    let ds := Nat.toDigits 8 b.toNat
    "\\" ++ String.ofList (List.replicate (3 - ds.length) '0' ++ ds)

/-- Bytes as messages show them: escapes for the C ones, octal for other unprintable
bytes. -/
def printableBytes (bs : List UInt8) : String :=
  String.join <| bs.map fun b =>
    match b with
    | 92 => "\\" | 7 => "\\a" | 8 => "\\b" | 12 => "\\f" | 10 => "\\n" | 13 => "\\r"
    | 9 => "\\t" | 11 => "\\v"
    | _ => printableByte b

/-- The bytes of a set's text after its escapes, each marked when it came from an
escape, and the warnings that reading them gave. -/
def unescapeSet (s : String) : List (UInt8 × Bool) × List String :=
  go (s.length + 1) (Text.Octets.toBytes s) [] []
where
  isOct (b : UInt8) : Bool := 48 ≤ b && b ≤ 55
  go : Nat → List UInt8 → List (UInt8 × Bool) → List String → List (UInt8 × Bool) × List String
  | 0, _, acc, ws => (acc.reverse, ws.reverse)
  | _, [], acc, ws => (acc.reverse, ws.reverse)
  | fuel + 1, 92 :: rest, acc, ws =>
    match rest with
    | [] =>
      (((92, false) :: acc).reverse,
        ("warning: an unescaped backslash at end of string is not portable" :: ws).reverse)
    | c :: more =>
      if isOct c then
        match more with
        | d :: more2 =>
          if isOct d then
            let v2 := (c - 48).toNat * 8 + (d - 48).toNat
            match more2 with
            | e :: more3 =>
              if isOct e then
                let v3 := v2 * 8 + (e - 48).toNat
                if v3 < 256 then go fuel more3 ((v3.toUInt8, true) :: acc) ws
                else
                  let ch (x : UInt8) := String.singleton (Char.ofNat x.toNat)
                  let w := "warning: the ambiguous octal escape \\" ++ ch c ++ ch d ++ ch e ++
                    " is being\n\tinterpreted as the 2-byte sequence \\0" ++ ch c ++ ch d ++ ", " ++ ch e
                  go fuel more2 ((v2.toUInt8, true) :: acc) (w :: ws)
              else go fuel more2 ((v2.toUInt8, true) :: acc) ws
            | [] => go fuel more2 ((v2.toUInt8, true) :: acc) ws
          else go fuel more ((c - 48, true) :: acc) ws
        | [] => go fuel more ((c - 48, true) :: acc) ws
      else
        let v : UInt8 := match c with
          | 92 => 92 | 97 => 7 | 98 => 8 | 102 => 12 | 110 => 10 | 114 => 13 | 116 => 9
          | 118 => 11 | _ => c
        go fuel more ((v, true) :: acc) ws
  | fuel + 1, b :: rest, acc, ws => go fuel rest ((b, false) :: acc) ws

/-- Whether the unescaped byte at a place is the given one. -/
def plainAt (es : Array (UInt8 × Bool)) (i : Nat) (b : UInt8) : Bool :=
  match es[i]? with
  | some (x, false) => x = b
  | _ => false

/-- The place of the closing `c]` of a class or equivalence class from `start` on. -/
def closingAt (es : Array (UInt8 × Bool)) (start : Nat) (c : UInt8) : Option Nat :=
  (List.range (es.size - 1 - start)).map (· + start) |>.find? fun i => plainAt es i c && plainAt es (i + 1) 93

/-- Whether `*`, digits and `]` follow at a place, so that a failed class is read as
a repeat. -/
def starDigitsClose (es : Array (UInt8 × Bool)) (i : Nat) : Bool :=
  plainAt es i 42 &&
    (match ((List.range (es.size - (i + 1))).map (· + i + 1)).find? fun j =>
        match es[j]? with
        | some ((x : UInt8), esc) => !(48 ≤ x && x ≤ 57) || esc
        | none => true with
     | some j => plainAt es j 93
     | none => false)

/-- Reads a repeat `[c*n]` whose `c` is at `start`: the byte, the count and the place of
the closing bracket; `none` if it is not one, and an error for a bad count. -/
def bracketedRepeat (es : Array (UInt8 × Bool)) (start : Nat) :
    Except String (Option (UInt8 × Option Nat × Nat)) :=
  if !plainAt es (start + 1) 42 then .ok none
  else
    let after := (List.range (es.size - (start + 2))).map (· + start + 2)
    let close := after.find? fun i => match es[i]? with
      | some ((x : UInt8), esc) => esc || x = 93
      | none => true
    match close with
    | none => .ok none
    | some i =>
      match es[i]? with
      | some (93, false) =>
        let digits := ((List.range (i - (start + 2))).map fun k => (es[start + 2 + k]?.map (·.1)).getD 0)
        let b := (es[start]?.map (·.1)).getD 0
        if digits.isEmpty then .ok (some (b, none, i))
        else
          let base := if digits.head? == some 48 then 8 else 10
          let ok := digits.all fun d => 48 ≤ d && d.toNat < 48 + base
          let n := digits.foldl (fun a d => a * base + (d - 48).toNat) 0
          if !ok || n > Nat.pow 2 64 - 1 then
            .error ("invalid repeat count " ++ quoteAlways (printableBytes digits) ++ " in [c*n] construct")
          else .ok (some (b, if n = 0 then none else some n, i))
      | _ => .ok none

/-- Reads a set's elements from its unescaped bytes. -/
def readSetParts (es : Array (UInt8 × Bool)) : Except String (List SetPart) :=
  go (es.size + 1) 0 []
where
  byteAt (i : Nat) : UInt8 := (es[i]?.map (·.1)).getD 0
  go : Nat → Nat → List SetPart → Except String (List SetPart)
  | 0, _, acc => .ok acc.reverse
  | fuel + 1, i, acc =>
    if i ≥ es.size then .ok acc.reverse
    else if i + 2 ≥ es.size then go fuel (i + 1) (.byte (byteAt i) :: acc)
    else
      let asRange : Except String (List SetPart) :=
        if plainAt es (i + 1) 45 then
          let lo := byteAt i
          let hi := byteAt (i + 2)
          if hi < lo then
            .error ("range-endpoints of '" ++ printableByte lo ++ "-" ++ printableByte hi ++
              "' are in reverse collating sequence order")
          else go fuel (i + 3) (.range lo hi :: acc)
        else go fuel (i + 1) (.byte (byteAt i) :: acc)
      let asRepeat : Except String (List SetPart) :=
        match bracketedRepeat es (i + 1) with
        | .error e => .error e
        | .ok (some (b, n, close)) => go fuel (close + 1) (.repeated b n :: acc)
        | .ok none => asRange
      if plainAt es i 91 then
        if plainAt es (i + 1) 58 || plainAt es (i + 1) 61 then
          let delim := byteAt (i + 1)
          match closingAt es (i + 2) delim with
          | some close =>
            let operand := (List.range (close - (i + 2))).map fun k => byteAt (i + 2 + k)
            if operand.isEmpty then
              .error (if delim = 58 then "missing character class name '[::]'"
                else "missing equivalence class character '[==]'")
            else if delim = 58 then
              match ByteClass.ofName (Text.Octets.ofBytes operand) with
              | some c => go fuel (close + 2) (.cls c :: acc)
              | none =>
                if starDigitsClose es (i + 2) then asRepeat
                else .error ("invalid character class " ++ quoteAlways (printableBytes operand))
            else
              match operand with
              | [b] => go fuel (close + 2) (.equiv b :: acc)
              | _ =>
                if starDigitsClose es (i + 2) then asRepeat
                else .error (printableBytes operand ++ ": equivalence class operand must be a single character")
          | none => asRepeat
        else asRepeat
      else asRange

namespace SetPart

/-- The bytes an element stands for, in order; a repeat to fill gives none here. -/
def bytes : SetPart → List UInt8
  | .byte b | .equiv b => [b]
  | .range lo hi => (List.range (hi.toNat - lo.toNat + 1)).map fun k => (lo.toNat + k).toUInt8
  | .cls c => c.members
  | .repeated b n => List.replicate (n.getD 0) b

/-- The case class of an element, if it is one. -/
def caseClass : SetPart → Option ByteClass
  | .cls c => if c.isCase then some c else none
  | _ => none

def isFill : SetPart → Bool
  | .repeated _ none => true
  | _ => false

end SetPart

/-- The bytes of a set in order. -/
def setBytes (parts : List SetPart) : List UInt8 := parts.flatMap SetPart.bytes

/-- Whether a byte is in a set, or outside it when complemented. -/
def inSet (parts : List SetPart) (complement : Bool) (b : UInt8) : Bool :=
  (setBytes parts).contains b != complement

/-- The bytes outside a set, in increasing order. -/
def complementBytes (parts : List SetPart) : List UInt8 :=
  let inside := setBytes parts
  (List.range 256).filterMap fun n => if inside.contains n.toUInt8 then none else some n.toUInt8

/-- The bytes of a set, each with the case class of its element and whether it starts
its element. -/
def markedBytes (parts : List SetPart) : List (UInt8 × Option ByteClass × Bool) :=
  parts.flatMap fun p => p.bytes.zipIdx.map fun (b, k) => (b, p.caseClass, k = 0)

/-- The bytes after the rest of the current element. -/
def skipElement (l : List (UInt8 × Option ByteClass × Bool)) : List (UInt8 × Option ByteClass × Bool) :=
  l.dropWhile fun x => !x.2.2

theorem skipElement_length_le (l : List (UInt8 × Option ByteClass × Bool)) :
    (skipElement l).length ≤ l.length :=
  dropWhile_length_le _ l

/-- Checks that each case class of the second set starts where one of the first set
starts; once they meet, the rest of both is skipped. -/
def casesAligned : List (UInt8 × Option ByteClass × Bool) → List (UInt8 × Option ByteClass × Bool) → Bool
  | [], _ => true
  | _, [] => true
  | (_, c1, n1) :: r1, (_, c2, n2) :: r2 =>
    if n2 && c2.isSome && !(n1 && c1.isSome) then false
    else if c2.isSome then casesAligned (skipElement r1) (skipElement r2)
    else casesAligned r1 r2
termination_by a => a.length
decreasing_by
  all_goals simp only [List.length_cons]
  all_goals (have hl := skipElement_length_le r1; omega)

/-- The lengths two sets count for when the second has case classes: their bytes, where
a pair of case classes counts as one byte each. -/
def pairedLength : List (UInt8 × Option ByteClass × Bool) → List (UInt8 × Option ByteClass × Bool) →
    Nat × Nat
  | [], r2 => (0, r2.length)
  | r1, [] => (r1.length, 0)
  | _ :: r1, (_, c2, _) :: r2 =>
    let (a, b) := if c2.isSome then pairedLength (skipElement r1) (skipElement r2)
      else pairedLength r1 r2
    (a + 1, b + 1)
termination_by a => a.length
decreasing_by
  all_goals simp only [List.length_cons]
  all_goals (have hl := skipElement_length_le r1; omega)

/-- What `tr` was asked. -/
structure TranslateRequest where
  complement : Bool := false
  delete : Bool := false
  squeeze : Bool := false
  truncate : Bool := false

/-- How each byte is written: translated to a byte, or deleted; and the bytes whose
runs are squeezed. -/
structure ByteMap where
  image : Array (Option UInt8)
  squeezed : Array Bool

/-- The identity. -/
def ByteMap.identity : Array (Option UInt8) := (Array.range 256).map fun n => some n.toUInt8

/-- The membership table of a set. -/
def setTable (parts : List SetPart) (complement : Bool) : Array Bool :=
  let inside := setBytes parts
  (Array.range 256).map fun n => inside.contains n.toUInt8 != complement

/-- The map of a request and its sets, or the message refusing them. -/
def TranslateRequest.plan (r : TranslateRequest) (s1 : List SetPart) (s2 : Option (List SetPart)) :
    Except String ByteMap := do
  if s1.any SetPart.isFill then throw "the [c*] repeat construct may not appear in string1"
  let none256 : Array Bool := Array.replicate 256 false
  match s2 with
  | none =>
    if r.delete then
      let del := setTable s1 r.complement
      return { image := ByteMap.identity.zipIdx.map fun (x, i) => if del[i]! then none else x,
               squeezed := none256 }
    else
      return { image := ByteMap.identity, squeezed := setTable s1 r.complement }
  | some s2 =>
    if (s2.filter SetPart.isFill).length > 1 then
      throw "only one [c*] repeat construct may appear in string2"
    let translating := !r.delete
    let len1 := if r.complement then (complementBytes s1).length else (setBytes s1).length
    let len2 := (setBytes s2).length
    -- a repeat to fill takes up the difference
    let s2 := s2.map fun p => match p with
      | .repeated b none => .repeated b (some (len1 - len2))
      | p => p
    if !translating then
      let del := setTable s1 r.complement
      return { image := ByteMap.identity.zipIdx.map fun (x, i) => if del[i]! then none else x,
               squeezed := setTable s2 false }
    if s2.any fun p => match p with | .equiv _ => true | _ => false then
      throw "[=c=] expressions may not appear in string2 when translating"
    if s2.any fun p => match p with | .cls c => !c.isCase | _ => false then
      throw "when translating, the only character classes that may appear in\nstring2 are 'upper' and 'lower'"
    let m1 := markedBytes s1
    let m2 := markedBytes s2
    let hasClass2 := s2.any fun p => match p with | .cls _ => true | _ => false
    if !r.complement && hasClass2 && !casesAligned m1 m2 then
      throw "misaligned [:upper:] and/or [:lower:] construct"
    let (l1, l2) := if !r.complement && hasClass2 then pairedLength m1 m2
      else (len1, (setBytes s2).length)
    let s2 ← if l1 > l2 && !r.truncate then
        if l2 = 0 then throw "when not truncating set1, string2 must be non-empty"
        else match s2.getLast? with
          | some (.cls _) =>
            throw "when translating with string1 longer than string2,\nthe latter string must not end with a character class"
          | some (.byte b) | some (.repeated b _) | some (.equiv b) => pure (s2 ++ [.repeated b (some (l1 - l2))])
          | some (.range _ hi) => pure (s2 ++ [.repeated hi (some (l1 - l2))])
          | none => pure s2
      else pure s2
    let out2 := setBytes s2
    if r.complement && s1.any (fun p => match p with | .cls _ => true | _ => false) &&
        !(out2.length == len1 && out2.all (· == out2.headD 0)) then
      throw "when translating with complemented character classes,\nstring2 must map all characters in the domain to one"
    let image : Array (Option UInt8) ←
      if r.complement then
        pure <| ((complementBytes s1).zip out2).foldl (fun img (a, b) => img.set! a.toNat (some b)) ByteMap.identity
      else
        let pairs := (markedBytes s1).zip (markedBytes s2)
        pure <| pairs.foldl (fun img ((a, c1, _), (b, c2, _)) =>
          match c1, c2 with
          | some .lower, some .upper =>
            img.zipIdx.map fun (x, i) => if 97 ≤ i && i ≤ 122 then some (i - 32).toUInt8 else x
          | some .upper, some .lower =>
            img.zipIdx.map fun (x, i) => if 65 ≤ i && i ≤ 90 then some (i + 32).toUInt8 else x
          | _, _ => img.set! a.toNat (some b)) ByteMap.identity
    return { image, squeezed := if r.squeeze then setTable s2 false else none256 }

/-- The bytes written for a chunk, and the byte whose run is being squeezed after it. -/
def ByteMap.apply (m : ByteMap) (squeezing : Option UInt8) (chunk : List UInt8) :
    List UInt8 × Option UInt8 :=
  let (out, last) := chunk.foldl (fun (out, last) b =>
    match m.image[b.toNat]! with
    | none => (out, last)
    | some c =>
      if last == some c then (out, last)
      else (c :: out, if m.squeezed[c.toNat]! then some c else none)) ([], squeezing)
  (out.reverse, last)

/-- The option table of `tr`; options end at the first set. -/
def translateOptions : OptionTable where
  short := [('A', .nothing), ('c', .nothing), ('C', .nothing), ('d', .nothing), ('s', .nothing),
    ('t', .nothing)]
  long := [⟨"complement", .nothing, "c"⟩, ⟨"delete", .nothing, "d"⟩,
    ⟨"squeeze-repeats", .nothing, "s"⟩, ⟨"truncate-set1", .nothing, "t"⟩,
    ⟨"help", .nothing, "help"⟩, ⟨"version", .nothing, "version"⟩]
  inOrder := true

/-- `tr [OPTION]... SET1 [SET2]`. -/
def tr (args : List String) : M Nat := do
  match translateOptions.read args with
  | .error e => complain "tr" e.message; tryHelp "tr"; return 1
  | .ok parsed =>
  if let some code ← aboutRequest "tr" parsed then return code
  let r : TranslateRequest := parsed.options.foldl (fun r (k, _) =>
    match k with
    | "c" | "C" => { r with complement := true }
    | "d" => { r with delete := true }
    | "s" => { r with squeeze := true }
    | "t" => { r with truncate := true }
    | _ => r) {}
  let sets := parsed.operands
  let least := if r.delete == r.squeeze then 2 else 1
  let most := if !r.delete || r.squeeze then 2 else 1
  if sets.length < least then
    if sets.isEmpty then complain "tr" "missing operand"
    else
      complain "tr" ("missing operand after " ++ quoteAlways (sets.getLastD ""))
      putStr 2 (if r.squeeze then "Two strings must be given when both deleting and squeezing repeats.\n"
        else "Two strings must be given when translating.\n")
    tryHelp "tr"; return 1
  if sets.length > most then
    complain "tr" ("extra operand " ++ quoteAlways (sets.getD most ""))
    if sets.length = 2 then
      putStr 2 "Only one string may be given when deleting without squeezing repeats.\n"
    tryHelp "tr"; return 1
  let (es1, warnings1) := unescapeSet (sets.getD 0 "")
  for w in warnings1 do complain "tr" w
  let spec1 ← match readSetParts es1.toArray with
    | .ok s => pure (some s)
    | .error msg => do complain "tr" msg; pure none
  let some spec1 := spec1 | return 1
  let spec2 ← match sets with
    | [_, t] => do
      let (es2, warnings2) := unescapeSet t
      for w in warnings2 do complain "tr" w
      match readSetParts es2.toArray with
      | .ok s => pure (some (some s))
      | .error msg => do complain "tr" msg; pure none
    | _ => pure (some none)
  let some spec2 := spec2 | return 1
  let plan := r.plan spec1 spec2
  -- a repeat to fill belongs only to translating
  let plan := match spec2 with
    | some s =>
      if r.delete && s.any SetPart.isFill then
        Except.error "the [c*] construct may appear in string2 only when translating"
      else plan
    | none => plan
  match plan with
  | .error msg => complain "tr" msg; return 1
  | .ok m =>
  if (← fd? 0).isNone then
    complain "tr" ("read error: " ++ Errno.badDescriptor.text)
    return 1
  let mut squeezing : Option UInt8 := none
  let budget := (← get).steps + 1
  for _ in [0:budget] do
    useStep
    match ← endlessPattern 0 with
    | some p =>
      let (once, after) := m.apply squeezing (p ++ p)
      let (again, _) := m.apply after (p ++ p)
      if again.isEmpty then
        put 1 once
        discard (waitUntil none)
      else pourEndless 1 again
    | none =>
      match ← readFd 0 65536 with
      | none => break
      | some chunk =>
        let (out, last) := m.apply squeezing chunk
        squeezing := last
        put 1 out
  return 0

end Confine.Host.Program
