import Confine.Shell.Pattern
import Confine.Host.FileSystem
import Confine.Text.Octets
/-!
# Fields of an expanded word

A word's expansion is a sequence of bits: characters that remember whether they were
quoted and whether they came from an unquoted expansion (only those are split),
marks where quotes stood (so `""` still makes a field), and cuts where `"$@"` ends
one parameter.

Field splitting follows the shell's rule for `IFS`. Blank `IFS` characters at the
start of a field are skipped; any other `IFS` character ends the field, even an
empty one; a run of blanks with at most one other `IFS` character in it is one
separator; an empty field at the end is dropped.

Pathname expansion then replaces a field whose unquoted characters form a pattern by
the sorted paths that match it, one component at a time; names starting with `.`
match only a pattern component that starts with a literal `.`. A pattern with no
match stays as it was.
-/

namespace Confine.Shell

open Confine.Host

/-- One piece of an expanded word. -/
inductive Bit where
  | ch (c : Char) (quoted : Bool) (split : Bool)
  | mark
  | cut
  deriving DecidableEq, Repr

/-- The bits of literal text. -/
def Bit.literal (s : String) : List Bit := s.toList.map fun c => .ch c false false

/-- The bits of quoted text. -/
def Bit.quotedText (s : String) : List Bit := s.toList.map fun c => .ch c true false

/-- The bits of an unquoted expansion's result. -/
def Bit.expanded (s : String) : List Bit := s.toList.map fun c => .ch c false true

/-- A field under construction: characters with their quoting, and whether anything
(a quote mark counts) is in it. -/
structure Field where
  chars : List (Char × Bool)
  present : Bool
  deriving Repr

def Field.empty : Field := ⟨[], false⟩

/-- The blank characters, which `IFS` treats specially. -/
def ifsBlank (c : Char) : Bool := c = ' ' || c = '\t' || c = '\n'

/-- Skip the separator characters after a delimiter: blanks, and one other `IFS`
character if the delimiter was a blank. -/
def skipSeparators (ifs : List Char) : Nat → Bool → List Bit → List Bit
  | 0, _, bits => bits
  | fuel + 1, wasBlank, bits =>
    match bits with
    | .ch c false true :: rest =>
      if !ifs.contains c then bits
      else if ifsBlank c then skipSeparators ifs fuel wasBlank rest
      else if wasBlank then skipSeparators ifs fuel false rest
      else bits
    | _ => bits

/-- A field built last character first, put the right way round. -/
def Field.close (f : Field) : Field := { f with chars := f.chars.reverse }

/-- Split bits into fields, newest field first in `done`; the field being built, `cur`,
holds its characters last first. -/
def splitBits (ifs : List Char) : Nat → List Bit → Field → List Field → List Field
  | 0, _, cur, done => if cur.present then cur.close :: done else done
  | _, [], cur, done => if cur.present then cur.close :: done else done
  | fuel + 1, b :: rest, cur, done =>
    match b with
    | .mark => splitBits ifs fuel rest { cur with present := true } done
    | .cut => splitBits ifs fuel rest Field.empty (if cur.present then cur.close :: done else done)
    | .ch c q s =>
      if s && !q && ifs.contains c then
        let blank := ifsBlank c
        if !cur.present && blank then splitBits ifs fuel rest cur done
        else splitBits ifs fuel (skipSeparators ifs fuel blank rest) Field.empty (cur.close :: done)
      else splitBits ifs fuel rest ⟨(c, q) :: cur.chars, true⟩ done

/-- The fields of a word's bits under `IFS`. -/
def splitFields (ifs : String) (bits : List Bit) : List Field :=
  (splitBits ifs.toList (bits.length + 1) bits Field.empty []).reverse

/-- The fields without splitting: cuts still separate, and quote marks still count. -/
def joinFields (bits : List Bit) : List Field :=
  (splitBits [] (bits.length + 1) bits Field.empty []).reverse

/-- A field's text. -/
def Field.text (f : Field) : String := String.ofList (f.chars.map (·.1))

/-- Split at every `/`, quoted or not. -/
def components (cs : List (Char × Bool)) : List (List (Char × Bool)) :=
  go cs [] []
where
  go : List (Char × Bool) → List (Char × Bool) → List (List (Char × Bool)) → List (List (Char × Bool))
  | [], cur, acc => (cur.reverse :: acc).reverse
  | (c, q) :: rest, cur, acc => if c = '/' then go rest [] (cur.reverse :: acc) else go rest ((c, q) :: cur) acc

/-- The names in a directory, as byte strings, sorted by bytes. -/
def dirNames (fs : Node) (dir : List String) : List String :=
  match fs.get? dir with
  | some (.dir entries) =>
    (entries.map fun e => Text.Octets.ofText e.1).mergeSort fun a b => decide (a ≤ b)
  | _ => []

/-- Expand pattern components below a directory reached as `shown` (the text so far)
with canonical names `at'`. -/
def globWalk (fs : Node) : List (List (Char × Bool)) → String → List String → List String
  | [], shown, _ => [shown]
  | comp :: rest, shown, here =>
    let sep := if shown.isEmpty || shown.endsWith "/" then shown else shown ++ "/"
    let pat := Glob.ofMarked comp
    if comp.isEmpty then
      -- a slash after a directory: the directory itself, written with the slash
      if rest.isEmpty then [shown ++ "/"] else globWalk fs rest (shown ++ "/") here
    else if !Glob.isMagic pat then
      let name := String.ofList (comp.map (·.1))
      if rest.isEmpty then
        match walk fs false maxLinks here.reverse [Text.Octets.toText name] with
        | .ok _ => [sep ++ name]
        | .error _ => []
      else
        match stat fs here (Text.Octets.toText name) with
        | .ok (names, .dir _) => globWalk fs rest (sep ++ name) names
        | _ => []
    else
      let dotOk := match comp.head? with | some ('.', _) => true | _ => false
      -- a directory lists itself and its parent too, which only a leading dot matches
      let listed := if dotOk then (".." :: "." :: dirNames fs here).mergeSort fun a b => decide (a ≤ b)
        else dirNames fs here
      let names := listed.filter fun n =>
        (dotOk || !n.startsWith ".") && Glob.fits pat n.toList
      names.flatMap fun n =>
        if rest.isEmpty then [sep ++ n]
        else match stat fs here (Text.Octets.toText n) with
          | .ok (names, .dir _) => globWalk fs rest (sep ++ n) names
          | _ => []

/-- The paths a field matches as a pattern, sorted; empty if it is no pattern or
matches nothing. -/
def globField (fs : Node) (cwd : List String) (f : Field) : List String :=
  if !Glob.isMagic (Glob.ofMarked f.chars) then []
  else
    let comps := components f.chars
    let (absolute, comps) := match comps with
      | [] :: rest => (true, rest)
      | cs => (false, cs)
    let found := globWalk fs comps (if absolute then "/" else "") (if absolute then [] else cwd)
    found.mergeSort fun a b => decide (a ≤ b)

end Confine.Shell
