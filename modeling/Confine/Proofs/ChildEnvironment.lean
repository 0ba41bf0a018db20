import Confine.Env
import Mathlib.Data.String.Basic

/-!
# What a child's environment holds

A child's environment has three sources: the parent's `PATH` and `HOME`, the parent's
values of the allowlisted names, and the request's explicit variables, which override.
Whatever the sources, the result holds exactly the forwarded names the parent sets and the
explicit names, each once and in order; an explicit name takes its last explicit value,
any other its parent's value (`child_env_exact`). So a parent variable outside `PATH`,
`HOME` and the allowlist reaches the child only when the request names it, and the
allowlist counts as a set of names: repeating a name, or listing `PATH` or `HOME`, changes
nothing.

Names are ordered by `<` on strings, the order of their code points, which is also the
order of their UTF-8 bytes. An environment whose names strictly increase is determined by
its lookups (`Env.ext_of_sorted`).
-/

namespace Confine

namespace Env

/-- The names an environment sets, in its order. -/
def names (e : Env) : List String := e.toList.map (·.1)

/-- Whether the names of an environment strictly increase. -/
def Sorted (e : Env) : Prop := e.names.Pairwise (· < ·)

/-- The names a child takes from its parent when the parent sets them: `PATH`, `HOME`, then
the allowlist. -/
def forwarded (allowlist : Option (List String)) : List String :=
  baseline ++ allowlist.getD []

/-- A parent value that the child inherits for one forwarded name, when the parent sets it. -/
def inherit (parent : String → Option String) (acc : Env) (k : String) : Env :=
  match parent k with
  | some v => acc.set k v
  | none => acc

/-- A child's environment: the forwarded names inherited one by one, then the explicit
variables set one by one. -/
theorem forChild_eq (parent : String → Option String) (allowlist : Option (List String))
    (explicit : List (String × String)) :
    forChild parent allowlist explicit =
      ((forwarded allowlist).foldl (inherit parent) empty).setAll explicit :=
  rfl

/-! ## Lookups -/

@[simp] theorem get?_nil (x : String) : get? ⟨[]⟩ x = none := rfl

theorem get?_cons (p : String × String) (rest : List (String × String)) (x : String) :
    get? ⟨p :: rest⟩ x = if x = p.1 then some p.2 else get? ⟨rest⟩ x := by
  by_cases h : x = p.1
  · subst h
    simp [get?]
  · simp [get?, h, Ne.symm h]

theorem mem_names_iff (e : Env) (x : String) : x ∈ e.names ↔ (e.get? x).isSome := by
  simp [names, get?]

/-- Setting a name changes its lookup and no other. -/
theorem get?_set (e : Env) (k v x : String) :
    (e.set k v).get? x = if x = k then some v else e.get? x := by
  obtain ⟨l⟩ := e
  simp only [set]
  induction l with
  | nil => rw [setSorted, get?_cons]
  | cons p rest ih =>
    obtain ⟨k', v'⟩ := p
    simp only [setSorted]
    split
    · -- the new name goes first
      rw [get?_cons]
    · split
      · -- the new value replaces the old one
        rename_i hk
        subst hk
        rw [get?_cons, get?_cons]
        by_cases h : x = k <;> simp [h]
      · -- the name goes further on; the first name is another one
        rename_i hk
        rw [get?_cons, ih, get?_cons]
        by_cases h : x = k
        · subst h
          simp [hk]
        · simp [h]

theorem set_toList (e : Env) (k v : String) : (e.set k v).toList = setSorted e.toList k v := rfl

/-- The names after setting one: that name and the names before. -/
theorem mem_names_set (e : Env) (k v x : String) :
    x ∈ (e.set k v).names ↔ x = k ∨ x ∈ e.names := by
  rw [mem_names_iff, get?_set, mem_names_iff]
  by_cases h : x = k <;> simp [h]

/-- Setting a name keeps the names strictly increasing. -/
theorem Sorted.set {e : Env} (h : e.Sorted) (k v : String) : (e.set k v).Sorted := by
  obtain ⟨l⟩ := e
  unfold Sorted names at h ⊢
  simp only [set_toList] at h ⊢
  induction l with
  | nil => simp [setSorted]
  | cons p rest ih =>
    obtain ⟨k', v'⟩ := p
    rw [List.map_cons, List.pairwise_cons] at h
    obtain ⟨hlt, hrest⟩ := h
    have hnames (l : List (String × String)) (x : String) :
        x ∈ (setSorted l k v).map (·.1) ↔ x = k ∨ x ∈ l.map (·.1) :=
      mem_names_set ⟨l⟩ k v x
    simp only [setSorted]
    split
    · -- `k` comes before `k'`, hence before every later name
      rename_i hk
      rw [List.map_cons, List.map_cons, List.pairwise_cons]
      refine ⟨fun y hy => ?_, List.pairwise_cons.mpr ⟨hlt, hrest⟩⟩
      rcases List.mem_cons.mp hy with rfl | hy
      · exact hk
      · exact lt_trans hk (hlt y hy)
    · split
      · rename_i hk
        subst hk
        exact List.pairwise_cons.mpr ⟨hlt, hrest⟩
      · -- `k` lies after `k'`, so `k'` stays first
        rename_i hk₁ hk₂
        have hk : k' < k := lt_of_le_of_ne (not_lt.mp hk₁) (Ne.symm hk₂)
        rw [List.map_cons, List.pairwise_cons]
        refine ⟨fun y hy => ?_, ih hrest⟩
        rcases (hnames rest y).mp hy with rfl | hy
        · exact hk
        · exact hlt y hy

/-! ## The sources in turn -/

theorem sorted_empty : empty.Sorted := List.Pairwise.nil

theorem get?_inherit (parent : String → Option String) (acc : Env) (k x : String) :
    (inherit parent acc k).get? x = if x = k then (parent x).or (acc.get? x) else acc.get? x := by
  unfold inherit
  by_cases h : x = k
  · subst h
    cases hp : parent x <;> simp [get?_set]
  · cases parent k <;> simp [get?_set, h]

theorem Sorted.inherit {acc : Env} (h : acc.Sorted) (parent : String → Option String)
    (k : String) : (Env.inherit parent acc k).Sorted := by
  unfold Env.inherit
  cases parent k
  · exact h
  · exact h.set _ _

/-- Inheriting a list of names: a listed name the parent sets takes the parent's value,
every other name keeps its lookup. -/
theorem get?_foldl_inherit (parent : String → Option String) (ks : List String) (acc : Env)
    (x : String) :
    (ks.foldl (inherit parent) acc).get? x =
      if x ∈ ks then (parent x).or (acc.get? x) else acc.get? x := by
  induction ks generalizing acc with
  | nil => simp
  | cons k ks ih =>
    rw [List.foldl_cons, ih, get?_inherit]
    by_cases hk : x = k
    · -- the parent's value is the same whenever the name comes again
      subst hk
      cases parent x <;> simp
    · by_cases hks : x ∈ ks <;> simp [hk, hks]

theorem Sorted.foldl_inherit {acc : Env} (h : acc.Sorted) (parent : String → Option String)
    (ks : List String) : (ks.foldl (Env.inherit parent) acc).Sorted := by
  induction ks generalizing acc with
  | nil => exact h
  | cons k ks ih => exact ih (h.inherit parent k)

/-- Setting explicit variables: the last value given for a name wins over its lookup
before. -/
theorem get?_setAll (e : Env) (pairs : List (String × String)) (x : String) :
    (e.setAll pairs).get? x = (pairs.reverse.lookup x).or (e.get? x) := by
  induction pairs generalizing e with
  | nil => simp [setAll]
  | cons p ps ih =>
    obtain ⟨k, v⟩ := p
    have hstep : e.setAll ((k, v) :: ps) = (e.set k v).setAll ps := rfl
    rw [hstep, ih, get?_set, List.reverse_cons, List.lookup_append, Option.or_assoc]
    by_cases h : x = k <;> simp [h]

theorem Sorted.setAll {e : Env} (h : e.Sorted) (pairs : List (String × String)) :
    (e.setAll pairs).Sorted := by
  induction pairs generalizing e with
  | nil => exact h
  | cons p ps ih => exact ih (h.set p.1 p.2)

/-! ## An ordered environment is determined by its lookups -/

/-- Two environments whose names strictly increase and whose lookups agree are equal:
the least names agree, hence their values, and the rest by induction. -/
theorem ext_of_sorted : ∀ {e e' : Env}, e.Sorted → e'.Sorted →
    (∀ x, e.get? x = e'.get? x) → e = e'
  | ⟨[]⟩, ⟨[]⟩, _, _, _ => rfl
  | ⟨[]⟩, ⟨(k, v) :: _⟩, _, _, hget => by simpa [get?_cons] using hget k
  | ⟨(k, v) :: _⟩, ⟨[]⟩, _, _, hget => by simpa [get?_cons] using hget k
  | ⟨(k, v) :: rest⟩, ⟨(k', v') :: rest'⟩, h, h', hget => by
    unfold Sorted names at h h'
    rw [List.map_cons, List.pairwise_cons] at h h'
    -- a name in either list is the least name of both or lies above it
    have hmem (x : String) : x = k ∨ x ∈ rest.map (·.1) ↔ x = k' ∨ x ∈ rest'.map (·.1) := by
      have := mem_names_iff ⟨(k, v) :: rest⟩ x
      rw [hget, ← mem_names_iff] at this
      simpa [names, eq_comm] using this
    have hkk : k = k' := by
      rcases (hmem k).mp (Or.inl rfl) with hk | hk
      · exact hk
      rcases (hmem k').mpr (Or.inl rfl) with hk' | hk'
      · exact hk'.symm
      exact absurd (h'.1 k hk) (lt_asymm (h.1 k' hk'))
    subst hkk
    have hvv : v = v' := by simpa [get?_cons] using hget k
    subst hvv
    have hrest : (⟨rest⟩ : Env) = ⟨rest'⟩ := by
      refine ext_of_sorted h.2 h'.2 fun x => ?_
      by_cases hx : x = k
      · -- the least name is in neither rest
        subst hx
        have hnone (l : List (String × String)) (hl : ∀ y ∈ l.map (·.1), x < y) :
            get? ⟨l⟩ x = none := by
          cases hg : get? ⟨l⟩ x with
          | none => rfl
          | some w =>
            have hx : x ∈ (⟨l⟩ : Env).names := (mem_names_iff _ x).mpr (by simp [hg])
            exact absurd (hl x hx) (lt_irrefl x)
        rw [hnone rest h.1, hnone rest' h'.1]
      · simpa [get?_cons, hx] using hget x
    cases hrest
    rfl

/-! ## A child's environment -/

/-- **What a child's environment holds.** With forwarded names `PATH`, `HOME` and the
allowlist, the child's environment has its names strictly increasing; it holds exactly
the forwarded names the parent sets and the explicit names; an explicit name has its last
explicit value and any other its parent's value. The allowlist counts only as a set of
names added to `PATH` and `HOME`: any other allowlist forwarding the same names gives the
same environment. -/
theorem child_env_exact (parent : String → Option String) (allowlist : Option (List String))
    (explicit : List (String × String)) :
    (forChild parent allowlist explicit).names.Pairwise (· < ·) ∧
    (∀ x, x ∈ (forChild parent allowlist explicit).names ↔
      (x ∈ forwarded allowlist ∧ (parent x).isSome) ∨ x ∈ explicit.map (·.1)) ∧
    (∀ x, (forChild parent allowlist explicit).get? x =
      (explicit.reverse.lookup x).or (if x ∈ forwarded allowlist then parent x else none)) ∧
    ∀ allowlist' : Option (List String),
      (∀ x, x ∈ forwarded allowlist' ↔ x ∈ forwarded allowlist) →
      forChild parent allowlist' explicit = forChild parent allowlist explicit := by
  have hsorted (a : Option (List String)) : (forChild parent a explicit).Sorted := by
    rw [forChild_eq]
    exact (sorted_empty.foldl_inherit parent _).setAll explicit
  have hget (a : Option (List String)) (x : String) :
      (forChild parent a explicit).get? x =
        (explicit.reverse.lookup x).or (if x ∈ forwarded a then parent x else none) := by
    rw [forChild_eq, get?_setAll, get?_foldl_inherit]
    by_cases hx : x ∈ forwarded a <;> simp [hx, empty]
  refine ⟨hsorted allowlist, fun x => ?_, hget allowlist, fun allowlist' hsame => ?_⟩
  · rw [mem_names_iff, hget]
    by_cases hx : x ∈ forwarded allowlist <;> simp [hx, or_comm]
  · refine ext_of_sorted (hsorted allowlist') (hsorted allowlist) fun x => ?_
    rw [hget, hget]
    simp only [hsame x]

/-- An allowlist that repeats a name and lists `PATH` forwards what the name alone does. -/
theorem child_env_allowlist_as_set :
    Env.forChild (fun k => if k = "PATH" then some "/usr/bin" else
        if k = "LANG" then some "C" else none) (some ["LANG", "PATH", "LANG"]) [] =
      Env.forChild (fun k => if k = "PATH" then some "/usr/bin" else
        if k = "LANG" then some "C" else none) (some ["LANG"]) [] :=
  (child_env_exact _ (some ["LANG"]) []).2.2.2 (some ["LANG", "PATH", "LANG"])
    (fun x => by simp [forwarded, baseline]; tauto)

end Env

end Confine
