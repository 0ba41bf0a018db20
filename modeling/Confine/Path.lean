/-!
# Paths and their components

A path is text; its meaning is its list of components. A leading `/` is the root
component, however many slashes there are. Empty parts between slashes and a
trailing slash carry nothing. `.` is dropped, except as the first component of a
relative path. `..` names the parent.

Normalisation walks the components from left to right: `.` is skipped, `..` removes
the last kept name and fails when no name is left to remove, and every other
component is kept. A normal path has no `.` or `..` component.
-/

namespace Confine.Path

/-- One component of a path. -/
inductive Component where
  | root
  | cur
  | parent
  | normal (name : String)
  deriving DecidableEq, Repr

/-- Splits text at slashes, keeping empty parts. -/
def splitSlash (cs : List Char) : List (List Char) :=
  cs.splitOn '/'

/-- The component of one non-empty part between slashes. -/
def partComponent (part : List Char) : Component :=
  if part = ['.', '.'] then .parent else .normal (String.ofList part)

/-- The components of a path. -/
def components (p : String) : List Component :=
  let cs := p.toList
  match cs with
  | '/' :: _ =>
    .root :: ((splitSlash cs).filter (fun part => !part.isEmpty && part ≠ ['.'])).map partComponent
  | _ =>
    let parts := splitSlash cs
    let lead := match parts with
      | ['.'] :: _ => [Component.cur]
      | _ => []
    lead ++ ((parts.filter (fun part => !part.isEmpty && part ≠ ['.'])).map partComponent)

/-- Whether a path is absolute. -/
def isAbsolute (p : String) : Bool := p.startsWith "/"

/-- Appends a path: an absolute path replaces the base, otherwise the two are joined
by one slash unless the base is empty or already ends in one. -/
def join (base p : String) : String :=
  if isAbsolute p then p
  else if base.isEmpty then p
  else if base.endsWith "/" then base ++ p
  else base ++ "/" ++ p

/-- A path with its root component removed, if it has one. -/
def stripRoot (p : String) : String :=
  match components p with
  | .root :: rest => render false (rest.filterMap fun
      | .normal n => some n
      | .parent => some ".."
      | _ => none)
  | _ => p
where
  /-- The text of a root flag and names. -/
  render (rooted : Bool) (names : List String) : String :=
    (if rooted then "/" else "") ++ "/".intercalate names

/-- A path built from a root flag and a list of names. -/
def ofNames (rooted : Bool) (names : List String) : String :=
  (if rooted then "/" else "") ++ "/".intercalate names

/-- The state of a normalising walk: whether the path is rooted, and the names kept
so far, last first. -/
structure Walk where
  rooted : Bool
  names : List String

/-- One step of normalisation; `none` when `..` finds nothing to remove. -/
def Walk.step (w : Walk) : Component → Option Walk
  | .root => some { w with rooted := true }
  | .cur => some w
  | .parent => match w.names with
    | [] => none
    | _ :: rest => some { w with names := rest }
  | .normal n => some { w with names := n :: w.names }

/-- Walks a list of components. -/
def walk (w : Walk) : List Component → Option Walk
  | [] => some w
  | c :: cs => (w.step c).bind (walk · cs)

/-- The normal form of a path, or `none` when `..` climbs past its start. -/
def normalize (p : String) : Option String :=
  (walk ⟨false, []⟩ (components p)).map fun w => ofNames w.rooted w.names.reverse

/-- Whether the components of `root` are a prefix of those of `p`. -/
def startsWith (p root : String) : Bool :=
  (components root).isPrefixOf (components p)

theorem walk_append (w : Walk) (xs ys : List Component) :
    walk w (xs ++ ys) = (walk w xs).bind (walk · ys) := by
  induction xs generalizing w with
  | nil => simp [walk]
  | cons c cs ih =>
    simp only [List.cons_append, walk]
    cases w.step c <;> simp [ih]

end Confine.Path
