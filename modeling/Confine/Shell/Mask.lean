/-!
# The file mode creation mask

The mask is nine permission bits, three for each class of user: the owner, the group
and the others. It is shown as four octal digits, or symbolically by the permissions
it leaves, `u=rwx,g=rx,o=rx`.

It is set from octal digits or from a symbolic mode, a list of clauses separated by
commas. A clause names the classes it touches (`u`, `g`, `o`, or `a` for all three,
all of them when it names none), then an operator and permissions; a class letter
among the permissions stands for the permissions that class has now, and `X` for
execute when some class may execute. `+` adds the permissions, `-` takes them away
and `=` makes them the only ones of the classes named. A clause may go on with a
further operator for the same classes. Symbolic modes work on the permissions left,
which are the complement of the mask.
-/

namespace Confine.Shell.Mask

/-- All nine permission bits. -/
def full : Nat := 0o777

/-- The octal text of a mask: four digits. -/
def octal (mask : Nat) : String :=
  let ds := Nat.toDigits 8 mask
  String.ofList (List.replicate (4 - ds.length) '0' ++ ds)

/-- The permissions a mask leaves, by class: `u=rwx,g=rx,o=rx`. -/
def symbolic (mask : Nat) : String :=
  let allowed := full - mask % (full + 1)
  ",".intercalate ([('u', 6), ('g', 3), ('o', 0)].map fun (cls, shift) =>
    let bits := allowed / Nat.pow 2 shift % 8
    String.ofList (cls :: '=' :: ([('r', 4), ('w', 2), ('x', 1)].filterMap fun (c, b) =>
      if bits / b % 2 = 1 then some c else none)))

/-- Why a mode cannot be set. -/
inductive Problem where
  /-- Octal digits with something else among them. -/
  | number
  /-- A symbolic mode that does not read. -/
  | mode
  deriving DecidableEq, Repr

/-- The mask written in octal digits: each digit below eight. -/
def ofOctal (cs : List Char) : Except Problem Nat :=
  cs.foldlM (fun acc c =>
    if '0' ≤ c && c ≤ '7' then .ok (acc * 8 + (c.toNat - '0'.toNat)) else .error .number) 0

/-- The classes a clause names: the bit `1` of each class's three, shifted to it. -/
def classBit (c : Char) : Nat :=
  match c with
  | 'a' => 0o111
  | 'u' => 0o100
  | 'g' => 0o010
  | 'o' => 0o001
  | _ => 0

/-- The three permission bits a permission letter adds, given the permissions the
classes have now. -/
def permissionBits (allowed : Nat) (c : Char) : Nat :=
  match c with
  | 'r' => 4
  | 'w' => 2
  | 'x' => 1
  | 'u' => allowed / 64 % 8
  | 'g' => allowed / 8 % 8
  | 'o' => allowed % 8
  | 'X' => if allowed &&& 0o111 != 0 then 1 else 0
  | _ => 0

/-- Applies the clauses of a symbolic mode to the permissions `now`; `allowed` is what
they were before the first clause. The result and the text that does not read. -/
def applyClauses (allowed : Nat) : Nat → Nat → Nat → List Char → Nat × List Char
  | 0, now, _, cs => (now, cs)
  | fuel + 1, now, positions, cs =>
    match cs with
    | [] => (now, [])
    | _ =>
      let named := cs.takeWhile ("augo".toList.contains ·)
      let cs := cs.drop named.length
      let positions := named.foldl (fun p c => p ||| classBit c) positions
      let positions := if positions = 0 then 0o111 else positions
      match cs with
      | op :: rest =>
        if "=+-".toList.contains op then
          let perms := rest.takeWhile ("rwxugoXs".toList.contains ·)
          let rest := rest.drop perms.length
          let bits := (perms.foldl (fun v c => v ||| permissionBits allowed c) 0) % 8 * positions
          let now := match op with
            | '-' => now &&& (full - bits)
            | '=' => bits ||| (now &&& (full - positions * 7))
            | _ => now ||| bits
          match rest with
          | ',' :: more => applyClauses allowed fuel now 0 more
          | c :: _ => if "=+-".toList.contains c then applyClauses allowed fuel now positions rest else (now, rest)
          | [] => (now, [])
        else (now, cs)
      | [] => (now, [])

/-- The new mask a mode text gives, from the current mask: octal digits when it starts
with a digit, else a symbolic mode. -/
def parse (mask : Nat) (text : String) : Except Problem Nat :=
  match text.toList with
  | c :: _ =>
    if c.isDigit then (ofOctal text.toList).map (· % (full + 1))
    else
      let allowed := full - mask % (full + 1)
      match applyClauses allowed (text.length + 1) allowed 0 text.toList with
      | (now, []) => .ok (full - now % (full + 1))
      | _ => .error .mode
  | [] => .ok mask

end Confine.Shell.Mask
