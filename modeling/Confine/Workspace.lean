import Confine.Error
import Confine.Path
import Confine.Host.FileSystem
import Confine.Text.Blank

/-!
# Working directories inside a jail

A request names a working directory; the workspace turns it into a host path. The
base is the jail root, or the process's working directory when there is no jail. A
blank request names the base itself. Inside a jail a leading `/` names the jail root,
so an absolute request is taken relative to it; without a jail it is used as is.

The joined path is normalised. Inside a jail the result must lie under the root
component by component, and, when both can be resolved on the host, its resolved form
must lie under the root's resolved form, so a link inside the jail cannot lead out.
A refusal carries the path as it was requested.
-/

namespace Confine

open Confine.Host

/-- What the host shows a resolver: its file tree and the process's working
directory, which is `none` when that directory no longer exists. -/
structure HostView where
  files : Node
  cwd : Option (List String)

namespace HostView

/-- The canonical form of a path, if it exists. Without a working directory a
relative path has none. -/
def canonical? (h : HostView) (p : String) : Option String :=
  if !Path.isAbsolute p && h.cwd.isNone then none
  else match canonicalize h.files (h.cwd.getD []) p with
    | .ok c => some c
    | .error _ => none

/-- Whether a path names a directory, following links. -/
def isDir (h : HostView) (p : String) : Bool :=
  if !Path.isAbsolute p && h.cwd.isNone then false
  else isDirectory h.files (h.cwd.getD []) p

end HostView

/-- The base a request is resolved against. -/
def Workspace.base (h : HostView) (root : Option String) : Except Error String :=
  match root with
  | some r => .ok r
  | none => match h.cwd with
    | some names => .ok (Path.ofNames true names)
    | none => .error (.invalidWorkingDirectory ".")

/-- Resolves a requested working directory. -/
def Workspace.resolve (h : HostView) (root : Option String) (requested : Option String) :
    Except Error String := do
  let base ← Workspace.base h root
  match requested with
  | none => pure base
  | some raw =>
    if Text.isBlankText raw then pure base
    else
      let refuse : Except Error String := .error (.invalidWorkingDirectory raw)
      let joined :=
        if Path.isAbsolute raw then
          if root.isSome then Path.join base (Path.stripRoot raw) else raw
        else Path.join base raw
      match Path.normalize joined with
      | none => refuse
      | some normal =>
        match root with
        | none => pure normal
        | some r =>
          if !Path.startsWith normal r then refuse
          else match h.canonical? normal, h.canonical? r with
            | some real, some realRoot =>
              if Path.startsWith real realRoot then pure normal else refuse
            | _, _ => pure normal

/-- A resolved directory that exists on the host, or the refusal naming it. -/
def Workspace.ensureDirectory (h : HostView) (p : String) : Except Error String :=
  if h.isDir p then .ok p else .error (.invalidWorkingDirectory p)

end Confine
