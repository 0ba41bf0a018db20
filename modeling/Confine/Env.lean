/-!
# Child environments

A child does not inherit its parent's environment. It receives the parent's `PATH`
and `HOME`, then each allowlisted name, wherever the parent sets them; the request's
explicit variables then override. The result is ordered by name, each name once.
-/

namespace Confine

/-- Environment variables ordered by name, each name at most once. -/
structure Env where
  toList : List (String × String)
  deriving Repr, Inhabited

/-- Sets a variable in a list ordered by name, replacing an earlier value. -/
def setSorted : List (String × String) → String → String → List (String × String)
  | [], k, v => [(k, v)]
  | (k', v') :: rest, k, v =>
    if k < k' then (k, v) :: (k', v') :: rest
    else if k = k' then (k, v) :: rest
    else (k', v') :: setSorted rest k v

namespace Env

/-- The empty environment. -/
def empty : Env := ⟨[]⟩

/-- Sets a variable, replacing an earlier value and keeping the order by name. -/
def set (e : Env) (k v : String) : Env := ⟨setSorted e.toList k v⟩

/-- The value of a variable. -/
def get? (e : Env) (k : String) : Option String := (e.toList.find? (·.1 == k)).map (·.2)

/-- Removes a variable. -/
def unset (e : Env) (k : String) : Env := ⟨e.toList.filter (·.1 != k)⟩

/-- Sets every pair in order. -/
def setAll (e : Env) (pairs : List (String × String)) : Env :=
  pairs.foldl (fun acc (k, v) => acc.set k v) e

/-- The names every child receives from its parent when set. -/
def baseline : List String := ["PATH", "HOME"]

/-- The environment of a child: the forwarded names the parent sets, then the
explicit variables. -/
def forChild (parent : String → Option String) (allowlist : Option (List String))
    (explicit : List (String × String)) : Env :=
  let forwarded := baseline ++ allowlist.getD []
  let inherited := forwarded.foldl
    (fun (acc : Env) k => match parent k with | some v => acc.set k v | none => acc) empty
  inherited.setAll explicit

end Env

end Confine
