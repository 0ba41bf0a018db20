import Confine.Workspace
import Confine.Proofs.NormalPaths

/-!
# Working directories stay inside their jail

Inside a jail at `root`, a request that is not blank is read relative to the root, a
leading `/` naming the root itself, and normalised. The jail admits the normal form
exactly when it lies under the root component by component and, when both can be resolved
on the host, under the root's resolved form (`Admits`); it refuses every other request with
the request itself (`resolve_within_jail`).

An admitted path is a normal path, so it has no `.` or `..` component; a root with a `..`
component, or one that starts with `.`, therefore admits nothing. Without a jail, a
relative request is read relative to the working directory and an absolute one as it is,
and only a working directory that is gone or a `..` past the top of the tree refuses it.
-/

namespace Confine

namespace Workspace

/-- What a jail at `root` admits for a request `p`: the request read relative to the root,
without its own root, normalised to `q`; `q` under the root component by component; and
`q` under the root's resolved form whenever the host resolves both. -/
structure Admits (h : HostView) (root p q : String) : Prop where
  normal :
    Path.normalize (Path.join root (if Path.isAbsolute p then Path.stripRoot p else p)) = some q
  under : Path.startsWith q root = true
  canonical : ∀ real realRoot, h.canonical? q = some real → h.canonical? root = some realRoot →
    Path.startsWith real realRoot = true

variable {h : HostView} {root p : String}

/-- A jail admits at most one path for a request. -/
theorem Admits.unique {q₁ q₂ : String} (h₁ : Admits h root p q₁) (h₂ : Admits h root p q₂) :
    q₁ = q₂ :=
  Option.some.inj (h₁.normal.symm.trans h₂.normal)

/-- An admitted path is a normal path: it has no `.` and no `..` component. -/
theorem Admits.no_dots {q : String} (hq : Admits h root p q) :
    Path.Component.cur ∉ Path.components q ∧ Path.Component.parent ∉ Path.components q :=
  Path.cur_parent_not_mem_normalize hq.normal

/-- A root with a `..` component, or whose first component is `.`, admits nothing: its
components would have to begin an admitted path. -/
theorem not_admits_of_dots {q : String}
    (hroot : Path.Component.parent ∈ Path.components root ∨
      (Path.components root).head? = some .cur) : ¬ Admits h root p q := by
  intro hq
  obtain ⟨hcur, hparent⟩ := hq.no_dots
  have hbegins : Path.components root <+: Path.components q :=
    List.isPrefixOf_iff_prefix.mp hq.under
  rcases hroot with hroot | hroot
  · exact hparent (hbegins.subset hroot)
  · obtain ⟨rest, hrest⟩ := List.head?_eq_some_iff.mp hroot
    rw [hrest] at hbegins
    exact hcur (hbegins.subset (List.mem_cons_self ..))

/-- Inside a jail, a request that is not blank resolves to the one path the jail admits,
or is refused with the request itself when the jail admits none. -/
theorem resolve_root_cases (hp : Text.isBlankText p = false) :
    (∃ q, resolve h (some root) (some p) = .ok q ∧ Admits h root p q) ∨
      (resolve h (some root) (some p) = .error (.invalidWorkingDirectory p) ∧
        ∀ q, ¬ Admits h root p q) := by
  simp only [resolve, base, hp, bind, Except.bind, pure, Except.pure, Option.isSome_some,
    if_true, Bool.false_eq_true, if_false]
  rw [← apply_ite (Path.join root) (Path.isAbsolute p = true) (Path.stripRoot p) p]
  cases hn : Path.normalize (Path.join root (if Path.isAbsolute p = true then Path.stripRoot p else p)) with
  | none =>
    -- `..` climbs past the top: nothing is admitted
    refine Or.inr ⟨rfl, fun q hq => ?_⟩
    rw [hq.normal] at hn
    cases hn
  | some q =>
    simp only
    by_cases hunder : Path.startsWith q root = true
    · rw [if_neg (by simp [hunder])]
      -- the path lies under the root; the resolved forms decide
      cases hreal : h.canonical? q with
      | none =>
        refine Or.inl ⟨q, rfl, hn, hunder, fun real realRoot hq _ => ?_⟩
        rw [hreal] at hq
        cases hq
      | some real =>
        cases hrealRoot : h.canonical? root with
        | none =>
          refine Or.inl ⟨q, rfl, hn, hunder, fun real' realRoot _ hr => ?_⟩
          rw [hrealRoot] at hr
          cases hr
        | some realRoot =>
          simp only
          by_cases hin : Path.startsWith real realRoot = true
          · refine Or.inl ⟨q, by rw [if_pos hin], hn, hunder, fun real' realRoot' hq hr => ?_⟩
            rw [hreal] at hq
            rw [hrealRoot] at hr
            cases hq
            cases hr
            exact hin
          · refine Or.inr ⟨by rw [if_neg hin], fun q' hq' => ?_⟩
            obtain rfl : q' = q := Option.some.inj (hq'.normal.symm.trans hn)
            exact hin (hq'.canonical real realRoot hreal hrealRoot)
    · refine Or.inr ⟨by rw [if_pos (by simpa using hunder)], fun q' hq' => ?_⟩
      obtain rfl : q' = q := Option.some.inj (hq'.normal.symm.trans hn)
      exact hunder hq'.under

theorem resolve_root_eq_ok_iff (hp : Text.isBlankText p = false) (q : String) :
    resolve h (some root) (some p) = .ok q ↔ Admits h root p q := by
  rcases resolve_root_cases hp with ⟨q', hres, hq'⟩ | ⟨hres, hnone⟩
  · rw [hres]
    constructor
    · intro hok
      cases hok
      exact hq'
    · intro hq
      rw [hq'.unique hq]
  · rw [hres]
    constructor
    · intro hok
      cases hok
    · intro hq
      exact absurd hq (hnone q)

/-- Inside a jail every refusal names the request. -/
theorem resolve_root_eq_error (hp : Text.isBlankText p = false) {e : Error}
    (he : resolve h (some root) (some p) = .error e) : e = .invalidWorkingDirectory p := by
  rcases resolve_root_cases hp with ⟨q, hres, -⟩ | ⟨hres, -⟩ <;> rw [hres] at he <;> cases he
  rfl

/-- Without a jail, a request that is not blank is read relative to the working directory,
or as it is when absolute, and normalised. -/
theorem resolve_unjailed (hp : Text.isBlankText p = false) :
    resolve h none (some p) =
      match h.cwd with
      | none => .error (.invalidWorkingDirectory ".")
      | some cwd =>
        match Path.normalize
            (if Path.isAbsolute p then p else Path.join (Path.ofNames true cwd) p) with
        | none => .error (.invalidWorkingDirectory p)
        | some q => .ok q := by
  cases hcwd : h.cwd with
  | none => simp [resolve, base, hcwd, bind, Except.bind]
  | some cwd =>
    -- the normal form decides, whichever way the request is read
    cases hn : Path.normalize
        (if Path.isAbsolute p then p else Path.join (Path.ofNames true cwd) p) <;>
      simp only [resolve, base, hcwd, hp, hn, bind, Except.bind, pure, Except.pure,
        Option.isSome_none, Bool.false_eq_true, if_false]

/-- Every refusal of a working directory names a path: the request, or `.` for a working
directory that is gone. -/
theorem resolve_error {root req : Option String} {err : Error}
    (he : resolve h root req = .error err) : ∃ path, err = .invalidWorkingDirectory path := by
  -- the base is refused only for a working directory that is gone
  have hbase : ∀ err', base h root = .error err' → err' = .invalidWorkingDirectory "." := by
    intro err' hb
    cases root with
    | some r => cases hb
    | none =>
      cases hcwd : h.cwd with
      | none =>
        simp only [base, hcwd] at hb
        cases hb
        rfl
      | some names =>
        simp only [base, hcwd] at hb
        cases hb
  cases hb : base h root with
  | error err' =>
    simp only [resolve, hb, bind, Except.bind] at he
    cases he
    exact ⟨_, hbase _ hb⟩
  | ok b =>
    cases req with
    | none => simp [resolve, hb, bind, Except.bind, pure, Except.pure] at he
    | some p =>
      cases hp : Text.isBlankText p with
      | true => simp [resolve, hb, hp, bind, Except.bind, pure, Except.pure] at he
      | false =>
        cases root with
        | some r => exact ⟨p, resolve_root_eq_error hp he⟩
        | none =>
          rw [resolve_unjailed hp] at he
          split at he
          · cases he
            exact ⟨_, rfl⟩
          · split at he
            · cases he
              exact ⟨_, rfl⟩
            · cases he

/-- **Working directories stay inside their jail.** Inside a jail at `root`, a request `p`
that is not blank resolves to `q` exactly when the jail admits `q` for it: `p` read relative
to the root, without its own root, normalises to `q`, which lies under the root component by
component and under the root's resolved form whenever the host resolves both. Any other
request is refused with `p` itself. An admitted path has no `.` and no `..` component, so a
root with a `..` component, or one that starts with `.`, refuses every such request.
Without a jail, a relative request is joined to the working directory and an absolute one
is used as it is; the only refusals are a working directory that is gone and a `..` that
climbs past the top. -/
theorem resolve_within_jail (h : HostView) (root p : String) (hp : Text.isBlankText p = false) :
    (∀ q, resolve h (some root) (some p) = .ok q ↔ Admits h root p q) ∧
    (∀ e, resolve h (some root) (some p) = .error e → e = .invalidWorkingDirectory p) ∧
    (∀ q, resolve h (some root) (some p) = .ok q →
      Path.Component.cur ∉ Path.components q ∧ Path.Component.parent ∉ Path.components q) ∧
    (Path.Component.parent ∈ Path.components root ∨ (Path.components root).head? = some .cur →
      resolve h (some root) (some p) = .error (.invalidWorkingDirectory p)) ∧
    resolve h none (some p) =
      match h.cwd with
      | none => .error (.invalidWorkingDirectory ".")
      | some cwd =>
        match Path.normalize
            (if Path.isAbsolute p then p else Path.join (Path.ofNames true cwd) p) with
        | none => .error (.invalidWorkingDirectory p)
        | some q => .ok q := by
  refine ⟨resolve_root_eq_ok_iff hp, fun e he => resolve_root_eq_error hp he,
    fun q hq => ((resolve_root_eq_ok_iff hp q).mp hq).no_dots, fun hroot => ?_,
    resolve_unjailed hp⟩
  -- such a root admits nothing, so the request is refused
  rcases @resolve_root_cases h root p hp with ⟨q, -, hq⟩ | ⟨hres, -⟩
  · exact absurd hq (not_admits_of_dots hroot)
  · exact hres

/-- A jail at `./work` refuses a request for `project`. -/
theorem resolve_dot_root_refuses :
    Text.isBlankText "project" = false ∧ (Path.components "./work").head? = some .cur ∧
      resolve ⟨.dir [], some []⟩ (some "./work") (some "project") =
        .error (.invalidWorkingDirectory "project") :=
  ⟨by decide, by decide,
    (resolve_within_jail ⟨.dir [], some []⟩ "./work" "project" (by decide)).2.2.2.1
      (Or.inr (by decide))⟩

end Workspace

end Confine
