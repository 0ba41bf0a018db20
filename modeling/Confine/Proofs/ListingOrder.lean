import Confine.Proofs.RegistryRuns

/-!
# Listings and evictions do not depend on the order sessions are held in

A registry holds its sessions in some order, and another registry could hold the same
sessions in any other one (`Reorders`). Nothing a caller sees depends on it. Listing
sorts the snapshots newest first, ties broken by id; since no two registered sessions
share an id, that order is strict, so two sorted permutations of the same snapshots are
the same list (`sort_eq_of_perm`). Eviction for the cap sorts the sessions by age,
which is strict on distinct ids too, so it closes the same sessions in the same order
(`Reorders.evict`). Pruning closes the same sessions, in another order at most.

For any list of snapshots, the sort is a permutation of it, ordered by the listing
order, and elements with the same start and id keep their order (`filter_sort_sameKey`).
-/

namespace Confine

open scoped List

namespace Timestamp

theorem lt_iff (a b : Timestamp) :
    a < b ↔ a.seconds < b.seconds ∨ (a.seconds = b.seconds ∧ a.nanos < b.nanos) := by
  show lt a b = true ↔ _
  simp [lt]

theorem lt_irrefl (a : Timestamp) : ¬a < a := by
  rw [lt_iff]
  omega

theorem lt_trans {a b c : Timestamp} (hab : a < b) (hbc : b < c) : a < c := by
  rw [lt_iff] at *
  omega

/-- Of two instants, one comes first or they are the same. -/
theorem lt_trichotomy (a b : Timestamp) : a < b ∨ a = b ∨ b < a := by
  obtain ⟨s, n⟩ := a
  obtain ⟨s', n'⟩ := b
  simp only [lt_iff, mk.injEq]
  omega

end Timestamp

namespace Snapshot

theorem before_iff (a b : Snapshot) :
    before a b = true ↔ b.startedAt < a.startedAt ∨ (a.startedAt = b.startedAt ∧ a.id ≤ b.id) := by
  simp [before]

theorem before_trans (a b c : Snapshot) (hab : before a b = true) (hbc : before b c = true) :
    before a c = true := by
  rw [before_iff] at *
  rcases hab with hab | ⟨hab, hid⟩ <;> rcases hbc with hbc | ⟨hbc, hid'⟩
  · exact Or.inl (Timestamp.lt_trans hbc hab)
  · exact Or.inl (hbc ▸ hab)
  · exact Or.inl (hab ▸ hbc)
  · exact Or.inr ⟨hab.trans hbc, le_trans hid hid'⟩

theorem before_total (a b : Snapshot) : (before a b || before b a) = true := by
  rw [Bool.or_eq_true, before_iff, before_iff]
  rcases Timestamp.lt_trichotomy a.startedAt b.startedAt with hlt | heq | hgt
  · exact Or.inr (Or.inl hlt)
  · rcases le_total a.id b.id with hid | hid
    · exact Or.inl (Or.inr ⟨heq, hid⟩)
    · exact Or.inr (Or.inr ⟨heq.symm, hid⟩)
  · exact Or.inl (Or.inl hgt)

/-- Snapshots that may each stand before the other have the same start and id. -/
theorem before_antisymm {a b : Snapshot} (hab : before a b = true) (hba : before b a = true) :
    a.startedAt = b.startedAt ∧ a.id = b.id := by
  rw [before_iff] at hab hba
  rcases hab with hab | ⟨heq, hid⟩
  · rcases hba with hba | ⟨heq, -⟩
    · exact absurd (Timestamp.lt_trans hab hba) (Timestamp.lt_irrefl _)
    · exact absurd (heq ▸ hab) (Timestamp.lt_irrefl _)
  · rcases hba with hba | ⟨-, hid'⟩
    · exact absurd (heq ▸ hba) (Timestamp.lt_irrefl _)
    · exact ⟨heq, le_antisymm hid hid'⟩

theorem sort_perm (xs : List Snapshot) : sort xs ~ xs := List.mergeSort_perm xs before

theorem pairwise_sort (xs : List Snapshot) : (sort xs).Pairwise (fun a b => before a b) :=
  List.pairwise_mergeSort before_trans before_total xs

/-- Two lists of the same snapshots with distinct ids sort to the same list. -/
theorem sort_eq_of_perm {xs ys : List Snapshot} (hp : xs ~ ys) (hnd : (xs.map (·.id)).Nodup) :
    sort xs = sort ys := by
  refine List.Perm.eq_of_pairwise ?_ (pairwise_sort xs) (pairwise_sort ys)
    ((sort_perm xs).trans (hp.trans (sort_perm ys).symm))
  intro a b ha hb hab hba
  have ha' : a ∈ xs := (sort_perm xs).subset ha
  have hb' : b ∈ xs := hp.symm.subset ((sort_perm ys).subset hb)
  exact List.inj_on_of_nodup_map hnd ha' hb' (before_antisymm hab hba).2

/-- Whether a snapshot has the start and the id of another. -/
def sameKey (a b : Snapshot) : Bool := decide (b.startedAt = a.startedAt ∧ b.id = a.id)

/-- Sorting is stable: the snapshots with one start and one id keep their order. -/
theorem filter_sort_sameKey (xs : List Snapshot) (a : Snapshot) :
    (sort xs).filter (sameKey a) = xs.filter (sameKey a) := by
  -- the snapshots with the key are pairwise in order, so the sort keeps them as a sublist
  have hpair : (xs.filter (sameKey a)).Pairwise (fun x y => before x y) := by
    refine List.pairwise_of_forall_mem_list fun x hx y hy => ?_
    simp only [sameKey, List.mem_filter, decide_eq_true_eq] at hx hy
    rw [before_iff]
    exact Or.inr ⟨hx.2.1.trans hy.2.1.symm, le_of_eq (hx.2.2.trans hy.2.2.symm)⟩
  have hsub : xs.filter (sameKey a) <+ (sort xs).filter (sameKey a) := by
    have h := (List.sublist_mergeSort before_trans before_total hpair
      (List.filter_sublist (p := sameKey a))).filter (sameKey a)
    rwa [List.filter_filter, List.filter_congr (fun x _ => Bool.and_self (sameKey a x))] at h
  exact (hsub.eq_of_length ((sort_perm xs).filter (sameKey a)).length_eq.symm).symm

end Snapshot

namespace Session

@[simp] theorem id_snapshot_snd (s : Session) (now : Nat) (epoch : Int) :
    (s.snapshot now epoch).2.id = s.id := by
  simp [snapshot, poll]

end Session

namespace Registry

/-- Sorting by age gives one list for any order of sessions with distinct ids. -/
theorem mergeSort_older_eq_of_perm {l₁ l₂ : List Session} (hp : l₁ ~ l₂)
    (hnd : (l₁.map (·.id)).Nodup) : l₁.mergeSort older = l₂.mergeSort older := by
  have hnd₂ : (l₂.map (·.id)).Nodup := (hp.map _).nodup_iff.mp hnd
  have hdistinct : ∀ {l : List Session}, (l.map (·.id)).Nodup →
      ∀ a ∈ l, ∀ b ∈ l, a ≠ b → older a b = notYounger a b := fun hl a ha b hb hab =>
    older_eq_not_older fun e => hab (List.inj_on_of_nodup_map hl ha hb e)
  rw [mergeSort_congr hnd.of_map (hdistinct hnd), mergeSort_congr hnd₂.of_map (hdistinct hnd₂)]
  refine List.Perm.eq_of_pairwise ?_ (List.pairwise_mergeSort notYounger_trans notYounger_total l₁)
    (List.pairwise_mergeSort notYounger_trans notYounger_total l₂)
    ((List.mergeSort_perm _ _).trans (hp.trans (List.mergeSort_perm _ _).symm))
  intro a b ha hb hab hba
  rw [List.mem_mergeSort] at ha hb
  by_contra hne
  -- two distinct sessions: one of them is older, so not both are not younger
  have holder := hdistinct hnd a ha b (hp.symm.subset hb) hne
  simp only [notYounger, Bool.not_eq_true'] at hab hba holder
  rw [holder, hab] at hba
  exact absurd hba (by decide)

/-- Two registries that differ only in the order in which they hold their sessions, and
their retired sessions. -/
structure Reorders (r₁ r₂ : Registry) : Prop where
  engine : r₁.engine = r₂.engine
  now : r₁.now = r₂.now
  seq : r₁.seq = r₂.seq
  reaper : r₁.reaper = r₂.reaper
  sessions : r₁.sessions ~ r₂.sessions
  retired : r₁.retired ~ r₂.retired

theorem Reorders.of_perm (r : Registry) {l : List Session} (hl : l ~ r.sessions) :
    Reorders { r with sessions := l } r :=
  ⟨rfl, rfl, rfl, rfl, hl, List.Perm.refl _⟩

theorem Reorders.setNow {r₁ r₂ : Registry} (h : Reorders r₁ r₂) (t : Nat) :
    Reorders { r₁ with now := t } { r₂ with now := t } :=
  ⟨h.engine, rfl, h.seq, h.reaper, h.sessions, h.retired⟩

/-- Setting the clock and the reaper alike keeps two registries reorderings. -/
theorem Reorders.setClock {r₁ r₂ : Registry} (h : Reorders r₁ r₂) (t : Nat) (rp : Option Reaper) :
    Reorders { r₁ with now := t, reaper := rp } { r₂ with now := t, reaper := rp } :=
  ⟨h.engine, rfl, h.seq, rfl, h.sessions, h.retired⟩

theorem Reorders.prune {r₁ r₂ : Registry} (h : Reorders r₁ r₂) : Reorders r₁.prune r₂.prune := by
  refine ⟨h.engine, h.now, h.seq, h.reaper, ?_, ?_⟩
  · simp only [Registry.prune, h.now]
    exact h.sessions.filter _
  · simp only [Registry.prune, retire, h.now]
    exact h.retired.append ((h.sessions.filter _).map _)

theorem Reorders.sweeps (rp : Reaper) : ∀ (ks : List Nat) {r₁ r₂ : Registry}, Reorders r₁ r₂ →
    Reorders (ks.foldl (fun acc k => { acc with now := rp.next + k * rp.step }.prune) r₁)
      (ks.foldl (fun acc k => { acc with now := rp.next + k * rp.step }.prune) r₂)
  | [], _, _, h => h
  | k :: ks, _, _, h => Reorders.sweeps rp ks (h.setNow (rp.next + k * rp.step)).prune

theorem Reorders.advance {r₁ r₂ : Registry} (h : Reorders r₁ r₂) (t : Nat) :
    Reorders (r₁.advance t) (r₂.advance t) := by
  unfold Registry.advance
  rw [h.now]
  cases hrp : r₂.reaper with
  | none =>
    simp only [h.reaper.trans hrp]
    exact h.setClock _ none
  | some rp =>
    simp only [h.reaper.trans hrp]
    exact (Reorders.sweeps rp _ h).setClock _ _

/-- On sessions with distinct ids, eviction closes the same sessions, in the same order,
whatever order the registry holds them in. -/
theorem Reorders.evict {r₁ r₂ : Registry} (h : Reorders r₁ r₂)
    (hnd : (r₂.sessions.map (·.id)).Nodup) :
    Reorders r₁.evict r₂.evict ∧
      ∃ gone, r₁.evict.retired = r₁.retired ++ gone ∧ r₂.evict.retired = r₂.retired ++ gone := by
  have hsort : r₁.sessions.mergeSort older = r₂.sessions.mergeSort older :=
    mergeSort_older_eq_of_perm h.sessions ((h.sessions.map _).nodup_iff.mpr hnd)
  have hlen := h.sessions.length_eq
  refine ⟨⟨h.engine, h.now, h.seq, h.reaper, ?_, ?_⟩, ?_⟩
  · simp only [Registry.evict, hsort, hlen, h.engine]
    exact h.sessions.filter _
  · simp only [Registry.evict, retire, hsort, hlen, h.engine, h.now]
    exact h.retired.append (List.Perm.refl _)
  · refine ⟨_, rfl, ?_⟩
    simp only [Registry.evict, retire, hsort, hlen, h.engine, h.now]

/-- Dropping idle sessions and letting time pass keep the ids distinct. -/
theorem nodup_advance_prune {r : Registry} (hnd : (r.sessions.map (·.id)).Nodup) (t : Nat) :
    ((r.advance t).prune.sessions.map (·.id)).Nodup :=
  hnd.sublist (((pruned_prune _).1.trans (pruned_advance r t).1).map _)

theorem Reorders.list {r₁ r₂ : Registry} (h : Reorders r₁ r₂)
    (hnd : (r₂.sessions.map (·.id)).Nodup) :
    r₁.list.2 = r₂.list.2 ∧ Reorders r₁.list.1 r₂.list.1 := by
  have hp := (h.advance (r₂.now + opCost)).prune
  have hnd' := nodup_advance_prune hnd (r₂.now + opCost)
  simp only [Registry.list, h.now]
  refine ⟨?_, ⟨hp.engine, hp.now, hp.seq, hp.reaper, ?_, hp.retired⟩⟩
  · rw [hp.now]
    refine Snapshot.sort_eq_of_perm ((hp.sessions.map _).map _) ?_
    simpa [List.map_map, Function.comp_def] using (hp.sessions.map _).nodup_iff.mpr hnd'
  · rw [hp.now]
    exact (hp.sessions.map _).map _

@[simp] theorem engine_prune (r : Registry) : r.prune.engine = r.engine := rfl

@[simp] theorem seq_prune (r : Registry) : r.prune.seq = r.seq := rfl

theorem Reorders.register {r₁ r₂ : Registry} (h : Reorders r₁ r₂) (s : Session) :
    Reorders { r₁ with sessions := r₁.sessions ++ [s] } { r₂ with sessions := r₂.sessions ++ [s] } :=
  ⟨h.engine, h.now, h.seq, h.reaper, h.sessions.append (List.Perm.refl _), h.retired⟩

/-- Opening gives the same answer and, up to order, the same registry, whatever order the
registry holds its sessions in; in particular it evicts the same session for the cap. -/
theorem Reorders.openSession {r₁ r₂ : Registry} (h : Reorders r₁ r₂)
    (hnd : (r₂.sessions.map (·.id)).Nodup) (req : OpenRequest) :
    (r₁.openSession req).2 = (r₂.openSession req).2 ∧
      Reorders (r₁.openSession req).1 (r₂.openSession req).1 := by
  have ha := h.advance (r₂.now + opCost)
  have hnd' := nodup_advance_prune hnd (r₂.now + opCost)
  unfold Registry.openSession
  dsimp only
  rw [h.now]
  generalize r₁.advance (r₂.now + opCost) = A₁ at ha ⊢
  generalize r₂.advance (r₂.now + opCost) = A₂ at ha hnd' ⊢
  have hp := ha.prune
  rw [ha.engine]
  cases A₂.engine.prepare req.command req.cwd .pty req.env with
  | error e => exact ⟨rfl, ha⟩
  | ok spec =>
    dsimp only
    generalize A₁.prune = P₁ at hp ⊢
    generalize A₂.prune = P₂ at hp hnd' ⊢
    rw [hp.engine, hp.seq, hp.now, hp.reaper]
    -- the registries once the sequence number is taken: the same but for the order
    have hq : Reorders ⟨P₂.engine, P₁.sessions, P₂.now, P₂.seq + 1, P₂.reaper, P₁.retired⟩
        ⟨P₂.engine, P₂.sessions, P₂.now, P₂.seq + 1, P₂.reaper, P₂.retired⟩ :=
      ⟨rfl, rfl, rfl, rfl, hp.sessions, hp.retired⟩
    have hndq : (((⟨P₂.engine, P₂.sessions, P₂.now, P₂.seq + 1, P₂.reaper, P₂.retired⟩ :
        Registry).advance (P₂.now + spawnCost)).sessions.map (·.id)).Nodup :=
      hnd'.sublist ((pruned_advance _ _).1.map _)
    generalize (⟨P₂.engine, P₁.sessions, P₂.now, P₂.seq + 1, P₂.reaper, P₁.retired⟩ :
      Registry) = Q₁ at hq ⊢
    cases Child.spawn spec P₂.engine.host with
    | error e => exact ⟨rfl, hq⟩
    | ok child =>
      -- the child starts at one time in both, and eviction then closes the same sessions
      have hr := hq.advance (P₂.now + spawnCost)
      dsimp only
      rw [hr.now, hr.engine]
      exact ⟨rfl, (hr.evict hndq).1.register _⟩

/-- With distinct ids, a listing names each session once, newest first and, at one start,
by increasing id. -/
theorem list_strictly_ordered {r : Registry} (hnd : (r.sessions.map (·.id)).Nodup) :
    (r.list.2.map (·.id)).Nodup ∧
      r.list.2.Pairwise (fun a b => b.startedAt < a.startedAt ∨
        (a.startedAt = b.startedAt ∧ a.id < b.id)) := by
  have hnd' := nodup_advance_prune hnd (r.now + opCost)
  simp only [Registry.list]
  set snaps := ((r.advance (r.now + opCost)).prune.sessions.map
    (·.snapshot (r.advance (r.now + opCost)).prune.now epoch)).map (·.2)
  have hids : (snaps.map (·.id)).Nodup := by
    simpa [snaps, List.map_map, Function.comp_def] using hnd'
  have hsorted : ((Snapshot.sort snaps).map (·.id)).Nodup :=
    ((Snapshot.sort_perm snaps).map _).nodup_iff.mpr hids
  refine ⟨hsorted, ((Snapshot.pairwise_sort snaps).and (List.pairwise_map.mp hsorted)).imp ?_⟩
  rintro a b ⟨hab, hne⟩
  rcases (Snapshot.before_iff a b).mp hab with hlt | ⟨heq, hle⟩
  · exact Or.inl hlt
  · exact Or.inr ⟨heq, lt_of_le_of_ne hle hne⟩

/-- **Listing and eviction do not depend on the order sessions are held in.** In every
registry a run reaches, holding the same sessions in any other order gives the same
listing and the same answer to an open, with the registry after it the same up to order;
the listing names each session once, newest first, ties broken by increasing id. For any
two registries with distinct ids that differ only in order, eviction for the cap closes
the same sessions in the same order. For any list of snapshots, sorting gives a
permutation of it in listing order, and snapshots with the same start and id keep their
order. -/
theorem listing_ignores_session_order (engine : Engine) (ops : List Op) :
    let r := (new engine).run ops
    (∀ l, l ~ r.sessions →
      ({ r with sessions := l }.list).2 = r.list.2 ∧
      Reorders { r with sessions := l }.list.1 r.list.1 ∧
      ∀ req, ({ r with sessions := l }.openSession req).2 = (r.openSession req).2 ∧
        Reorders ({ r with sessions := l }.openSession req).1 (r.openSession req).1) ∧
    (r.list.2.map (·.id)).Nodup ∧
    r.list.2.Pairwise (fun a b => b.startedAt < a.startedAt ∨
      (a.startedAt = b.startedAt ∧ a.id < b.id)) ∧
    (∀ r₁ r₂ : Registry, Reorders r₁ r₂ → (r₂.sessions.map (·.id)).Nodup →
      Reorders r₁.evict r₂.evict ∧
        ∃ gone, r₁.evict.retired = r₁.retired ++ gone ∧ r₂.evict.retired = r₂.retired ++ gone) ∧
    ∀ xs : List Snapshot, Snapshot.sort xs ~ xs ∧
      (Snapshot.sort xs).Pairwise (fun a b => Snapshot.before a b) ∧
      ∀ a, (Snapshot.sort xs).filter (Snapshot.sameKey a) = xs.filter (Snapshot.sameKey a) := by
  intro r
  obtain ⟨h, -, -⟩ := (sound_new engine).run ops
  have hnd := h.nodup_sessions
  refine ⟨fun l hl => ?_, (list_strictly_ordered hnd).1, (list_strictly_ordered hnd).2,
    fun r₁ r₂ h₁₂ hnd₂ => h₁₂.evict hnd₂, fun xs => ⟨Snapshot.sort_perm xs,
      Snapshot.pairwise_sort xs, Snapshot.filter_sort_sameKey xs⟩⟩
  have hre := Reorders.of_perm r hl
  exact ⟨(hre.list hnd).1, (hre.list hnd).2, fun req => hre.openSession hnd req⟩

end Registry

end Confine
