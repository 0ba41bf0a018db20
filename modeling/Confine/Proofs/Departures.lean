import Confine.Proofs.Eviction
import Confine.Proofs.SessionLife

/-!
# Sessions leave the registry closed

An operation of the registry that opens nothing changes it in two ways only: sessions
leave, and registered sessions change as the operations on one session change them. A
session that leaves is closed as it leaves and kept among the retired sessions, so the
ids of the registered and the retired sessions together stay the same up to order
(`Leads.ids`), and the retired sessions only grow (`Leads.retired`).

`Registry.Sound` is what every registry a run reaches satisfies: no id was given twice,
each id was issued for a sequence number already passed, the cap holds, the registered
sessions are live with no unreported drop in their backlogs, and the retired ones are
closed as `Session.Retired` says. The operations that open nothing keep it
(`Leads.sound`).

Idle pruning, which every operation does first, keeps the order of the sessions that
stay and drops only sessions idle by then (`Pruned`), and so do the sweeps of the reaper
that run while time passes (`pruned_advance`).
-/

namespace Confine

namespace Registry

open scoped List

/-- The ids the registry gave to sessions that started: the registered ones, then those
that left. -/
def ids (r : Registry) : List String := (r.sessions ++ r.retired).map (·.id)

/-- What every registry that a run reaches satisfies. -/
structure Sound (r : Registry) : Prop where
  /-- No id was given twice. -/
  nodup : r.ids.Nodup
  /-- Every id was issued for a sequence number the registry has passed. -/
  issued : ∀ x ∈ r.ids, ∃ k < r.seq, x = Session.idOf k (Session.nonceOf k)
  /-- A cap of zero is no cap. -/
  cap : 0 < r.engine.config.maxSessions → r.sessions.length ≤ r.engine.config.maxSessions
  live : ∀ s ∈ r.sessions, s.Live
  /-- Between operations no backlog reports a drop: only a look adds to a backlog, and
  it drains the backlog, which clears the report, before the operation ends. -/
  clear : ∀ s ∈ r.sessions, s.backlog.truncated = false
  retired : ∀ s ∈ r.retired, s.Retired

theorem sound_new (engine : Engine) : (new engine).Sound where
  nodup := List.nodup_nil
  issued := by simp [ids, new]
  cap := by simp [new]
  live := by simp [new]
  clear := by simp [new]
  retired := by simp [new]

theorem Sound.nodup_sessions {r : Registry} (h : r.Sound) : (r.sessions.map (·.id)).Nodup := by
  have hnd := h.nodup
  simp only [ids, List.map_append] at hnd
  exact hnd.of_append_left

/-- How a registry changes when no session is opened: sessions leave for the retired
list, closed; the others keep their ids; the sequence number never goes back. -/
structure Leads (r r' : Registry) : Prop where
  engine : r'.engine = r.engine
  seq : r.seq ≤ r'.seq
  ids : r'.ids ~ r.ids
  retired : r.retired <+: r'.retired
  sound : r.Sound → r'.Sound

theorem Leads.refl (r : Registry) : Leads r r :=
  ⟨rfl, le_refl _, List.Perm.refl _, List.prefix_refl _, id⟩

theorem Leads.trans {r₁ r₂ r₃ : Registry} (h₁ : Leads r₁ r₂) (h₂ : Leads r₂ r₃) :
    Leads r₁ r₃ :=
  ⟨h₂.engine.trans h₁.engine, h₁.seq.trans h₂.seq, h₂.ids.trans h₁.ids,
    h₁.retired.trans h₂.retired, h₂.sound ∘ h₁.sound⟩

/-! ## Sessions leaving -/

/-- The departure of `gone`, closed at time `t`, leaving `kept` registered. -/
theorem leads_of_departure {r r' : Registry} (kept gone : List Session) (t : Nat)
    (hperm : kept ++ gone ~ r.sessions) (hsessions : r'.sessions = kept)
    (hretired : r'.retired = r.retired ++ gone.map (·.close t))
    (hengine : r'.engine = r.engine) (hseq : r.seq ≤ r'.seq) : Leads r r' := by
  have hclose : (gone.map (·.close t)).map (·.id) = gone.map (·.id) := by
    simp [Function.comp_def]
  have hids : r'.ids ~ r.ids :=
    calc r'.ids = kept.map (·.id) ++ (r.retired.map (·.id) ++ gone.map (·.id)) := by
          simp only [ids, hsessions, hretired, List.map_append, hclose]
      _ ~ kept.map (·.id) ++ (gone.map (·.id) ++ r.retired.map (·.id)) :=
          List.perm_append_comm.append_left _
      _ = ((kept ++ gone) ++ r.retired).map (·.id) := by simp
      _ ~ r.ids := (hperm.append_right _).map _
  have hkept : ∀ s ∈ kept, s ∈ r.sessions := fun s hs =>
    hperm.subset (List.mem_append_left _ hs)
  refine ⟨hengine, hseq, hids, hretired ▸ List.prefix_append _ _,
    fun h => ⟨?_, ?_, ?_, ?_, ?_, ?_⟩⟩
  · exact hids.nodup_iff.mpr h.nodup
  · intro x hx
    obtain ⟨k, hk, hxk⟩ := h.issued x (hids.mem_iff.mp hx)
    exact ⟨k, Nat.lt_of_lt_of_le hk hseq, hxk⟩
  · intro hpos
    have hlen := hperm.length_eq
    rw [List.length_append] at hlen
    rw [hengine] at hpos ⊢
    rw [hsessions]
    have := h.cap hpos
    omega
  · intro s hs
    exact h.live s (hkept s (hsessions ▸ hs))
  · intro s hs
    exact h.clear s (hkept s (hsessions ▸ hs))
  · intro s hs
    rw [hretired, List.mem_append] at hs
    rcases hs with hold | hnew
    · exact h.retired s hold
    · obtain ⟨g, hg, rfl⟩ := List.mem_map.mp hnew
      exact Session.retired_close t (h.live g (hperm.subset (List.mem_append_right _ hg)))

/-- A change that moves no session keeps everything the invariant reads. -/
theorem leads_of_frame {r r' : Registry} (hsessions : r'.sessions = r.sessions)
    (hretired : r'.retired = r.retired) (hengine : r'.engine = r.engine)
    (hseq : r.seq ≤ r'.seq) : Leads r r' :=
  leads_of_departure r.sessions [] 0 (by simp) hsessions (by simp [hretired]) hengine hseq

/-- Changing each registered session as an operation on one session does: ids kept, live
sessions stay live, and no drop is left unreported. -/
theorem leads_of_map {r r' : Registry} (f : Session → Session)
    (hsessions : r'.sessions = r.sessions.map f) (hretired : r'.retired = r.retired)
    (hengine : r'.engine = r.engine) (hseq : r'.seq = r.seq)
    (hid : ∀ x ∈ r.sessions, (f x).id = x.id)
    (hlive : (∀ x ∈ r.sessions, x.Live) → ∀ x ∈ r.sessions, (f x).Live)
    (hclear : (∀ x ∈ r.sessions, x.backlog.truncated = false) →
      ∀ x ∈ r.sessions, (f x).backlog.truncated = false) : Leads r r' := by
  have hids : r'.ids = r.ids := by
    simp only [ids, hsessions, hretired, List.map_append, List.map_map]
    congr 1
    exact List.map_congr_left fun x hx => hid x hx
  refine ⟨hengine, hseq.ge, hids ▸ List.Perm.refl _, hretired ▸ List.prefix_refl _,
    fun h => ⟨hids ▸ h.nodup, ?_, ?_, ?_, ?_, hretired ▸ h.retired⟩⟩
  · intro x hx
    rw [hids, hseq] at *
    exact h.issued x hx
  · rw [hsessions, hengine, List.length_map]
    exact h.cap
  · intro s hs
    rw [hsessions] at hs
    obtain ⟨x, hx, rfl⟩ := List.mem_map.mp hs
    exact hlive h.live x hx
  · intro s hs
    rw [hsessions] at hs
    obtain ⟨x, hx, rfl⟩ := List.mem_map.mp hs
    exact hclear h.clear x hx

/-- Putting back a registered session changed without changing its mark, and reporting
no drop its backlog did not report before. -/
theorem leads_replace {r : Registry} {s s' : Session} (hs : s ∈ r.sessions)
    (hmark : s'.mark = s.mark)
    (hclear : s.backlog.truncated = false → s'.backlog.truncated = false) :
    Leads r (r.replace s') := by
  refine leads_of_map (fun x => if x.id == s'.id then s' else x) rfl rfl rfl rfl ?_ ?_ ?_
  · intro x _
    split
    · rename_i hx
      exact (beq_iff_eq.mp hx).symm
    · rfl
  · intro hlive x hx
    split
    · exact Session.Live.of_mark hmark (hlive s hs)
    · exact hlive x hx
  · intro hclear' x hx
    split
    · exact hclear (hclear' s hs)
    · exact hclear' x hx

theorem leads_prune (r : Registry) : Leads r r.prune :=
  leads_of_departure _ _ r.now (List.perm_append_comm.trans (List.filter_append_perm _ _))
    rfl rfl rfl (le_refl _)

/-- The sweeps of a reaper, one prune at each sweep time. -/
theorem leads_sweeps (rp : Reaper) : ∀ (ks : List Nat) (r : Registry),
    Leads r (ks.foldl (fun acc k => { acc with now := rp.next + k * rp.step }.prune) r)
  | [], r => Leads.refl r
  | k :: ks, r =>
    ((leads_of_frame rfl rfl rfl (le_refl _) :
        Leads r { r with now := rp.next + k * rp.step }).trans (leads_prune _)).trans
      (leads_sweeps rp ks _)

theorem leads_advance (r : Registry) (t : Nat) : Leads r (r.advance t) := by
  unfold advance
  split
  · exact leads_of_frame rfl rfl rfl (le_refl _)
  · exact (leads_sweeps _ _ r).trans (leads_of_frame rfl rfl rfl (le_refl _))

/-- The sessions without an id, then those with it, are all the sessions. -/
theorem perm_filter_id (l : List Session) (id : String) :
    l.filter (fun s => s.id != id) ++ l.filter (fun s => s.id == id) ~ l :=
  List.perm_append_comm.trans (List.filter_append_perm (fun s : Session => s.id == id) l)

theorem leads_close (r : Registry) (id : String) : Leads r (r.close id) := by
  let r₁ := (r.advance (r.now + opCost)).prune
  have hleave : Leads r₁ (r.close id) :=
    leads_of_departure (r₁.sessions.filter fun s => s.id != id)
      (r₁.sessions.filter fun s => s.id == id) r₁.now (perm_filter_id _ id) rfl rfl rfl
      (le_refl _)
  exact ((leads_advance r _).trans (leads_prune _)).trans hleave

theorem leads_closeAll (r : Registry) : Leads r r.closeAll :=
  (leads_advance r _).trans
    (leads_of_departure [] _ _ (by simp) rfl rfl rfl (le_refl _))

/-! ## Eviction -/

/-- Of sessions with distinct ids, exactly one has the id of a member. -/
theorem filter_id_eq_singleton {l : List Session} (hnd : (l.map (·.id)).Nodup) {v : Session}
    (hv : v ∈ l) : l.filter (·.id == v.id) = [v] := by
  induction l with
  | nil => simp at hv
  | cons x xs ih =>
    rw [List.map_cons, List.nodup_cons] at hnd
    obtain ⟨hx, hxs⟩ := hnd
    rcases List.mem_cons.mp hv with rfl | hmem
    · -- the member heads the list; no later session shares its id
      rw [List.filter_cons_of_pos (by simp), List.filter_eq_nil_iff.mpr]
      intro y hy hyv
      exact hx (List.mem_map.mpr ⟨y, hy, beq_iff_eq.mp hyv⟩)
    · have hne : (x.id == v.id) = false :=
        beq_eq_false_iff_ne.mpr fun e => hx (e ▸ List.mem_map_of_mem hmem)
      rw [List.filter_cons_of_neg (by simp [hne]), ih hxs hmem]

theorem Sound.leads_evict {r : Registry} (h : r.Sound) : Leads r r.evict := by
  rcases evict_cases h.nodup_sessions h.cap with ⟨hsame, -⟩ | ⟨-, -, v, hv, -, hevict⟩
  · rw [hsame]
    exact Leads.refl r
  · refine leads_of_departure (r.sessions.filter fun s => s.id != v.id) [v] r.now ?_
      (by rw [hevict])
      (by rw [hevict]; rfl) (by rw [hevict]) (by rw [hevict])
    rw [← filter_id_eq_singleton h.nodup_sessions hv]
    exact perm_filter_id _ v.id

/-! ## Pruning drops idle sessions only -/

/-- The sessions of `l'` are those of `l`, in their order, less some that are idle at
time `t`. -/
def Pruned (l l' : List Session) (t : Nat) : Prop :=
  l' <+ l ∧ ∀ x ∈ l, x ∉ l' → x.isIdle t = true

theorem isIdle_mono {s : Session} {t t' : Nat} (hle : t ≤ t') (h : s.isIdle t = true) :
    s.isIdle t' = true := by
  simp only [Session.isIdle, decide_eq_true_eq] at h ⊢
  omega

theorem Pruned.refl (l : List Session) (t : Nat) : Pruned l l t :=
  ⟨List.Sublist.refl l, fun _ hx hn => absurd hx hn⟩

/-- Two prunes, the later at a later time, are one prune at the later time: a session
idle at the earlier time is still idle. -/
theorem Pruned.trans {l₁ l₂ l₃ : List Session} {t₁ t₂ : Nat}
    (h₁ : Pruned l₁ l₂ t₁) (h₂ : Pruned l₂ l₃ t₂) (hle : t₁ ≤ t₂) :
    Pruned l₁ l₃ t₂ := by
  refine ⟨h₂.1.trans h₁.1, fun x hx hx₃ => ?_⟩
  by_cases hx₂ : x ∈ l₂
  · exact h₂.2 x hx₂ hx₃
  · exact isIdle_mono hle (h₁.2 x hx hx₂)

theorem pruned_prune (r : Registry) : Pruned r.sessions r.prune.sessions r.now := by
  refine ⟨List.filter_sublist, fun x hx hxn => ?_⟩
  by_contra hidle
  exact hxn (List.mem_filter.mpr ⟨hx, by simpa using hidle⟩)

theorem pruned_sweeps (rp : Reaper) (T : Nat) : ∀ (ks : List Nat) (r : Registry),
    (∀ k ∈ ks, rp.next + k * rp.step ≤ T) →
      Pruned r.sessions
        (ks.foldl (fun acc k => { acc with now := rp.next + k * rp.step }.prune) r).sessions T
  | [], _, _ => Pruned.refl _ _
  | k :: ks, r, hks =>
    (pruned_prune { r with now := rp.next + k * rp.step }).trans
      (pruned_sweeps rp T ks _ fun k' hk' => hks k' (List.mem_cons_of_mem k hk'))
      (hks k List.mem_cons_self)

@[simp] theorem now_advance (r : Registry) (t : Nat) : (r.advance t).now = max r.now t := by
  unfold advance
  split <;> rfl

/-- Time passing drops idle sessions only: each sweep of the reaper falls at or before the
time reached. -/
theorem pruned_advance (r : Registry) (t : Nat) :
    Pruned r.sessions (r.advance t).sessions (r.advance t).now := by
  rw [now_advance]
  unfold advance
  split
  · exact Pruned.refl _ _
  · rename_i rp _
    refine pruned_sweeps rp _ _ r fun k hk => ?_
    rw [List.mem_range] at hk
    split at hk
    · have hdiv : k * rp.step ≤ (max r.now t - rp.next) / rp.step * rp.step :=
        Nat.mul_le_mul_right _ (by omega)
      have := Nat.div_mul_le_self (max r.now t - rp.next) rp.step
      omega
    · omega

end Registry

end Confine
