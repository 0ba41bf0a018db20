import Confine.Registry
import Mathlib.Data.List.Sort
import Mathlib.Data.String.Basic

/-!
# Eviction for the cap closes the oldest session

When a new session is about to be registered and the registry is at its cap, the
registry closes sessions in the order `older` sorts them, opening time first and id
second, until there is room. On sessions with distinct ids `older` is a strict total
order, so the first session of that sort is older than every other one
(`head_mergeSort_older`), and a registry that holds at most its cap closes at most that
one session (`evict_cases`).

The sort compares with the strict `older`, whose complement is the total preorder that
the library's sortedness theorem asks for; on a list without repeats the two
comparisons sort alike (`mergeSort_congr`).
-/

namespace Confine

namespace Registry

/-! ## Sorting with two comparisons that agree -/

theorem merge_congr {α : Type} {r s : α → α → Bool} :
    ∀ {xs ys : List α}, (∀ a ∈ xs, ∀ b ∈ ys, r a b = s a b) →
      List.merge xs ys r = List.merge xs ys s
  | [], ys, _ => by simp
  | xs, [], _ => by simp
  | x :: xs, y :: ys, h => by
    rw [List.cons_merge_cons, List.cons_merge_cons, h x (by simp) y (by simp)]
    split
    · rw [merge_congr (fun a ha b hb => h a (List.mem_cons_of_mem x ha) b hb)]
    · rw [merge_congr (fun a ha b hb => h a ha b (List.mem_cons_of_mem y hb))]

/-- Sorting a list without repeats depends on the comparison only at distinct elements. -/
theorem mergeSort_congr {α : Type} {r s : α → α → Bool} :
    ∀ {l : List α}, l.Nodup → (∀ a ∈ l, ∀ b ∈ l, a ≠ b → r a b = s a b) →
      l.mergeSort r = l.mergeSort s
  | [], _, _ => by simp
  | [a], _, _ => by simp
  | a :: b :: l, hnd, h => by
    simp only [List.mergeSort, List.MergeSort.Internal.splitInTwo_fst,
      List.MergeSort.Internal.splitInTwo_snd]
    -- the two halves are disjoint, so the merge compares distinct elements only
    have hdisj : ((a :: b :: l).take ((l.length + 1 + 1 + 1) / 2)).Disjoint
        ((a :: b :: l).drop ((l.length + 1 + 1 + 1) / 2)) :=
      List.disjoint_take_drop hnd (le_refl _)
    rw [mergeSort_congr (hnd.sublist (List.take_sublist _ _))
        (fun x hx y hy => h x (List.mem_of_mem_take hx) y (List.mem_of_mem_take hy)),
      mergeSort_congr (hnd.sublist (List.drop_sublist _ _))
        (fun x hx y hy => h x (List.mem_of_mem_drop hx) y (List.mem_of_mem_drop hy))]
    apply merge_congr
    intro x hx y hy
    rw [List.mem_mergeSort] at hx hy
    exact h x (List.mem_of_mem_take hx) y (List.mem_of_mem_drop hy) (fun e => hdisj hx (e ▸ hy))
  termination_by l => l.length

/-! ## The age order -/

theorem older_iff (a b : Session) :
    older a b = true ↔ a.opened < b.opened ∨ (a.opened = b.opened ∧ a.id < b.id) := by
  simp [older]

theorem not_older_iff (a b : Session) :
    older a b = false ↔ b.opened ≤ a.opened ∧ (a.opened = b.opened → b.id ≤ a.id) := by
  rw [← Bool.not_eq_true, older_iff]
  constructor
  · intro h
    refine ⟨Nat.not_lt.mp fun hlt => h (Or.inl hlt),
      fun heq => not_lt.mp fun hid => h (Or.inr ⟨heq, hid⟩)⟩
  · rintro ⟨hle, hid⟩ (hlt | ⟨heq, hlt⟩)
    · omega
    · exact absurd hlt (not_lt.mpr (hid heq))

/-- No session is older than one it is older than. -/
theorem older_asymm {a b : Session} (h : older a b = true) : older b a = false := by
  rw [older_iff] at h
  rw [not_older_iff]
  rcases h with hlt | ⟨heq, hid⟩
  · exact ⟨Nat.le_of_lt hlt, fun heq => by omega⟩
  · exact ⟨Nat.le_of_eq heq, fun _ => le_of_lt hid⟩

/-- Of two sessions with different ids, exactly one is older. -/
theorem older_eq_not_older {a b : Session} (h : a.id ≠ b.id) : older a b = !older b a := by
  cases hab : older a b
  · -- neither older is impossible: they would share opening time and id
    cases hba : older b a
    · rw [not_older_iff] at hab hba
      have heq : a.opened = b.opened := by omega
      exact absurd (le_antisymm (hba.2 heq.symm) (hab.2 heq)) h
    · rfl
  · rw [older_asymm hab]
    rfl

/-- Not younger than: the total preorder that `older` is the strict part of. -/
def notYounger (a b : Session) : Bool := !older b a

theorem notYounger_total (a b : Session) : (notYounger a b || notYounger b a) = true := by
  simp only [notYounger]
  cases hba : older b a
  · rfl
  · simp [older_asymm hba]

theorem notYounger_trans (a b c : Session) (hab : notYounger a b = true)
    (hbc : notYounger b c = true) : notYounger a c = true := by
  simp only [notYounger, Bool.not_eq_true'] at hab hbc ⊢
  rw [not_older_iff] at hab hbc ⊢
  refine ⟨by omega, fun hca => ?_⟩
  exact le_trans (hab.2 (by omega)) (hbc.2 (by omega))

/-- The first of the sessions sorted by age is older than every other one. -/
theorem head_mergeSort_older {l : List Session} (hnd : (l.map (·.id)).Nodup)
    {v : Session} {rest : List Session} (hsort : l.mergeSort older = v :: rest) :
    v ∈ l ∧ ∀ x ∈ l, x ≠ v → older v x = true := by
  have hdistinct : ∀ a ∈ l, ∀ b ∈ l, a ≠ b → a.id ≠ b.id := fun a ha b hb hab e =>
    hab (List.inj_on_of_nodup_map hnd ha hb e)
  have hsame : l.mergeSort older = l.mergeSort notYounger :=
    mergeSort_congr hnd.of_map fun a ha b hb hab => older_eq_not_older (hdistinct a ha b hb hab)
  have hpairwise := List.pairwise_mergeSort notYounger_trans notYounger_total l
  rw [← hsame, hsort, List.pairwise_cons] at hpairwise
  have hmem : ∀ x, x ∈ l.mergeSort older ↔ x ∈ l := fun _ => List.mem_mergeSort
  have hv : v ∈ l := by
    rw [← hmem, hsort]
    exact List.mem_cons_self
  refine ⟨hv, fun x hx hxv => ?_⟩
  have hxrest : x ∈ rest := by
    rw [← hmem, hsort] at hx
    exact (List.mem_cons.mp hx).resolve_left hxv
  rw [older_eq_not_older (hdistinct v hv x hx (Ne.symm hxv))]
  exact hpairwise.1 x hxrest

/-! ## Eviction -/

/-- With distinct ids and at most the cap registered, eviction either leaves the
registry as it is, when there is room or no cap, or closes exactly the oldest session,
when the registry is at its cap. -/
theorem evict_cases {r : Registry} (hnd : (r.sessions.map (·.id)).Nodup)
    (hcap : 0 < r.engine.config.maxSessions →
      r.sessions.length ≤ r.engine.config.maxSessions) :
    (r.evict = r ∧ (r.engine.config.maxSessions = 0 ∨
        r.sessions.length < r.engine.config.maxSessions)) ∨
      (0 < r.engine.config.maxSessions ∧ r.sessions.length = r.engine.config.maxSessions ∧
        ∃ v ∈ r.sessions, (∀ x ∈ r.sessions, x ≠ v → older v x = true) ∧
          r.evict = { r with sessions := r.sessions.filter (·.id != v.id),
                             retired := r.retired ++ [v.close r.now] }) := by
  by_cases hzero : r.engine.config.maxSessions = 0
  · left
    refine ⟨?_, Or.inl hzero⟩
    simp [evict, hzero, retire]
  · have hpos : 0 < r.engine.config.maxSessions := Nat.pos_of_ne_zero hzero
    have hle := hcap hpos
    rcases Nat.lt_or_ge r.sessions.length r.engine.config.maxSessions with hroom | hfull
    · left
      refine ⟨?_, Or.inr hroom⟩
      have hexcess : r.sessions.length + 1 - min r.engine.config.maxSessions
          (r.sessions.length + 1) = 0 := by omega
      simp [evict, hzero, hexcess, retire]
    · right
      have hexcess : r.sessions.length + 1 - min r.engine.config.maxSessions
          (r.sessions.length + 1) = 1 := by omega
      have hne : r.sessions.mergeSort older ≠ [] := by
        intro h
        have hlen := congrArg List.length h
        simp only [List.length_mergeSort, List.length_nil] at hlen
        omega
      obtain ⟨v, rest, hsort⟩ := List.exists_cons_of_ne_nil hne
      obtain ⟨hv, holdest⟩ := head_mergeSort_older hnd hsort
      refine ⟨hpos, by omega, v, hv, holdest, ?_⟩
      simp [evict, hzero, hexcess, hsort, retire]
      rfl

end Registry

end Confine
