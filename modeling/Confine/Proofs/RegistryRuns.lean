import Confine.Proofs.Departures
import Confine.Proofs.SessionIds

/-!
# Runs of the registry keep its invariants

A run is any sequence of requests to the registry (opening, writing, reading, closing one
session or all, listing, starting the reaper) with time passing in between, from the
empty registry. Every operation but opening changes the registry as `Leads` allows; so
does a read, whose looks are pruned and polled one after another until it answers
(`leads_readLoop`).

Opening is the one operation that adds a session. It prunes, takes the next sequence
number, starts the child, and only then makes room: at the cap it closes exactly the
oldest registered session, and below the cap none (`Sound.openSession_evicts_oldest`).
The new id is fresh, since ids read back their sequence numbers, and all earlier ones
were issued for smaller numbers.

The main statement, `run_keeps_registry_invariants`, gathers what every registry a run
reaches satisfies: the lookup by id finds exactly the session with that id, the cap
holds, opening evicts as said, every session that leaves is closed once and kept among
the retired sessions, and the id of a retired session is never registered again.
-/

namespace Confine

namespace Registry

open scoped List

/-! ## The operations that open nothing -/

theorem readOnce_fst (r : Registry) (id : String) (m : Nat) :
    (r.readOnce id m).1 =
      match r.prune.find? id with
      | none => r.prune
      | some s => r.prune.replace ((((s.touch r.now).feed r.now).settled r.now).1.drain m).2 := by
  cases hf : r.prune.find? id with
  | none => simp only [readOnce, hf]
  | some s =>
    -- both answers put back the same session; only the reply differs
    simp only [readOnce, hf]
    split <;> rfl

theorem leads_readOnce (r : Registry) (id : String) (m : Nat) : Leads r (r.readOnce id m).1 := by
  rw [readOnce_fst]
  split
  · exact leads_prune r
  · rename_i s hs
    exact (leads_prune r).trans
      (leads_replace (List.mem_of_find?_eq_some hs) (by simp) fun _ => rfl)

/-- However many looks a read takes, each one prunes and puts back the session it looked
at, and time passes between them. -/
theorem leads_readLoop {id : String} {m tick : Nat} {deadline : Option Nat} :
    ∀ r res, readLoop id m tick deadline r = some res → Leads r res.1 := by
  refine readLoop_partial_correctness id m tick deadline (fun r res => Leads r res.1) ?_
  intro loop ih r res hres
  rw [readStep] at hres
  have hlook := leads_readOnce r id m
  split at hres
  · rename_i r' e heq
    cases hres
    rwa [heq] at hlook
  · rename_i r' answer heq
    cases hres
    rwa [heq] at hlook
  · rename_i r' heq
    rw [heq] at hlook
    split at hres
    · cases hres
      exact hlook
    · exact hlook.trans ((leads_advance r' _).trans (ih _ _ hres))

theorem leads_readCall {r : Registry} {id : String} {m : Nat} {timeout : Option Duration}
    {res : Registry × Except Fault ReadResult} (h : r.readCall id m timeout = some res) :
    Leads r res.1 := by
  unfold readCall at h
  dsimp only at h
  split at h
  · cases h
    exact leads_advance r _
  · obtain ⟨⟨r', answer⟩, hloop, rfl⟩ := Option.map_eq_some_iff.mp h
    exact (leads_advance r _).trans (leads_readLoop _ _ hloop)

theorem leads_read (r : Registry) (id : String) (m : Nat) (timeout : Option Duration) :
    Leads r (r.read id m timeout).1 := by
  unfold read
  cases h : r.readCall id m timeout with
  | none => exact Leads.refl r
  | some res => exact leads_readCall h

theorem leads_write (r : Registry) (id : String) (bytes : List UInt8) :
    Leads r (r.write id bytes).1 := by
  have hfirst := (leads_advance r (r.now + opCost)).trans (leads_prune _)
  unfold write
  dsimp only
  split
  · exact hfirst
  · rename_i s hs
    have hmem := List.mem_of_find?_eq_some hs
    split
    · rename_i s' hw
      exact hfirst.trans (leads_replace hmem ((Session.mark_of_write hw).trans (by simp))
        fun hs => by rw [Session.backlog_of_write hw]; simpa using hs)
    · exact hfirst.trans (leads_replace hmem (by simp) fun hs => by simpa using hs)

theorem leads_list (r : Registry) : Leads r r.list.1 := by
  let r₁ := (r.advance (r.now + opCost)).prune
  refine ((leads_advance r (r.now + opCost)).trans (leads_prune _)).trans ?_
  refine leads_of_map (fun s => (s.snapshot r₁.now epoch).1) (by simp [list, r₁]) rfl rfl rfl
    ?_ ?_ ?_
  · intro x _
    exact Session.id_eq_of_mark (Session.mark_snapshot x r₁.now epoch)
  · intro hlive x hx
    exact Session.Live.of_mark (Session.mark_snapshot x r₁.now epoch) (hlive x hx)
  · intro hclear x hx
    simpa using hclear x hx

theorem leads_spawnReaper (r : Registry) (interval : Duration) : Leads r (r.spawnReaper interval) :=
  (leads_advance r _).trans (leads_of_frame rfl rfl rfl (le_refl _))

/-! ## Opening -/

/-- Opening ends in one of three ways: the request is refused before anything else, the
child fails to start after the sequence number is taken, or a live session with the
new id is registered last, after the room for it was made. -/
theorem openSession_cases (r : Registry) (req : OpenRequest) :
    let r₁ := r.advance (r.now + opCost)
    let r₃ := { r₁.prune with seq := r₁.seq + 1 }
    let r₄ := r₃.advance (r₃.now + spawnCost)
    (∃ e, r.openSession req = (r₁, .error e)) ∨
    (∃ e, r.openSession req = (r₃, .error e)) ∨
    (∃ s : Session, s.Live ∧ s.backlog.truncated = false ∧
      s.id = Session.idOf r₁.seq (Session.nonceOf r₁.seq) ∧
      r.openSession req =
        ({ r₄.evict with sessions := r₄.evict.sessions ++ [s] }, .ok s.id)) := by
  intro r₁ r₃ r₄
  unfold openSession
  dsimp only
  split
  · exact Or.inl ⟨_, rfl⟩
  · split
    · exact Or.inr (Or.inl ⟨_, rfl⟩)
    · rename_i child hchild
      exact Or.inr (Or.inr ⟨_, ⟨rfl, Child.signals_of_spawn hchild⟩, rfl, rfl, rfl⟩)

/-- The id for the next sequence number is none the registry gave before. -/
theorem Sound.next_id_fresh {r : Registry} (h : r.Sound) :
    Session.idOf r.seq (Session.nonceOf r.seq) ∉ r.ids := by
  intro hmem
  obtain ⟨k, hk, hid⟩ := h.issued _ hmem
  exact absurd (Session.seq_eq_of_idOf_eq hid) (Nat.ne_of_gt hk)

/-- Eviction leaves room for one more session under a cap. -/
theorem Sound.room_evict {r : Registry} (h : r.Sound) (hpos : 0 < r.engine.config.maxSessions) :
    r.evict.sessions.length < r.engine.config.maxSessions := by
  rcases evict_cases h.nodup_sessions h.cap with
    ⟨hsame, hroom⟩ | ⟨-, hfull, v, hv, -, hevict⟩
  · rw [hsame]
    omega
  · -- the one taken is among the sessions, which fill the cap
    have hperm := perm_filter_id r.sessions v.id
    rw [filter_id_eq_singleton h.nodup_sessions hv] at hperm
    have hlen := hperm.length_eq
    rw [hevict]
    dsimp only
    simp only [List.length_append, List.length_singleton] at hlen
    omega

theorem ids_register (r : Registry) (s : Session) :
    { r with sessions := r.sessions ++ [s] }.ids ~ r.ids ++ [s.id] := by
  simp only [ids, List.map_append, List.append_assoc, List.map_cons, List.map_nil]
  exact List.perm_append_comm.append_left _

/-- Registering a live session with a fresh id issued below the sequence number, when there
is room for it, keeps the invariant. -/
theorem Sound.register {r : Registry} (h : r.Sound) {s : Session} (hs : s.Live)
    (hclear : s.backlog.truncated = false) (hfresh : s.id ∉ r.ids)
    (hissued : ∃ k < r.seq, s.id = Session.idOf k (Session.nonceOf k))
    (hroom : 0 < r.engine.config.maxSessions →
      r.sessions.length < r.engine.config.maxSessions) :
    { r with sessions := r.sessions ++ [s] }.Sound := by
  have hperm := ids_register r s
  refine ⟨?_, ?_, ?_, ?_, ?_, h.retired⟩
  · refine hperm.nodup_iff.mpr (List.nodup_append.mpr ⟨h.nodup, List.nodup_singleton _, ?_⟩)
    intro x hx y hy hxy
    rw [List.mem_singleton] at hy
    rw [hxy, hy] at hx
    exact hfresh hx
  · intro x hx
    rcases List.mem_append.mp (hperm.mem_iff.mp hx) with hold | hnew
    · exact h.issued x hold
    · rw [List.mem_singleton.mp hnew]
      exact hissued
  · intro hpos
    have := hroom hpos
    simp only [List.length_append, List.length_singleton]
    omega
  · exact List.forall_mem_append.mpr ⟨h.live, List.forall_mem_singleton.mpr hs⟩
  · exact List.forall_mem_append.mpr ⟨h.clear, List.forall_mem_singleton.mpr hclear⟩

/-- The ids a registry gives out in one open: the new session's, when it starts. -/
def openedBy (res : Except Error String) : List String := res.toOption.toList

@[simp] theorem openedBy_error (e : Error) : openedBy (.error e) = [] := rfl

@[simp] theorem openedBy_ok (id : String) : openedBy (.ok id) = [id] := rfl

/-- Up to the start of the child, opening changes the registry as the operations that
open nothing do: a tick, a prune, and the sequence number taken. -/
theorem leads_before_spawn (r : Registry) :
    Leads r { (r.advance (r.now + opCost)).prune with
      seq := (r.advance (r.now + opCost)).seq + 1 } :=
  (leads_advance r _).trans ((leads_prune _).trans (leads_of_frame rfl rfl rfl (Nat.le_succ _)))

/-- Opening keeps the invariant, adds the new id to those given out, and only adds to
the retired sessions. -/
theorem Sound.openSession {r : Registry} (h : r.Sound) (req : OpenRequest) :
    (r.openSession req).1.Sound ∧
      (r.openSession req).1.ids ~ r.ids ++ openedBy (r.openSession req).2 ∧
      r.retired <+: (r.openSession req).1.retired ∧
      (r.openSession req).1.engine = r.engine := by
  set r₁ := r.advance (r.now + opCost)
  set r₃ : Registry := { r₁.prune with seq := r₁.seq + 1 }
  set r₄ := r₃.advance (r₃.now + spawnCost)
  have l₁ : Leads r r₁ := leads_advance r _
  have l₃ : Leads r r₃ := leads_before_spawn r
  have l₄ : Leads r₃ r₄ := leads_advance _ _
  rcases openSession_cases r req with ⟨e, hres⟩ | ⟨e, hres⟩ | ⟨s, hs, hclear, hid, hres⟩
  · rw [hres, openedBy_error, List.append_nil]
    exact ⟨l₁.sound h, l₁.ids, l₁.retired, l₁.engine⟩
  · rw [hres, openedBy_error, List.append_nil]
    exact ⟨l₃.sound h, l₃.ids, l₃.retired, l₃.engine⟩
  · rw [hres, openedBy_ok]
    have h₄ := l₄.sound (l₃.sound h)
    have l₅ := l₄.trans h₄.leads_evict
    -- the ids up to eviction are those of the pruned registry, all issued below `r₁.seq`
    have hfresh : s.id ∉ r₃.ids := by
      rw [hid]
      exact ((leads_prune r₁).sound (l₁.sound h)).next_id_fresh
    refine ⟨(l₅.sound (l₃.sound h)).register hs hclear
      (fun hmem => hfresh (l₅.ids.mem_iff.mp hmem))
      ⟨r₁.seq, Nat.lt_of_succ_le l₅.seq, hid⟩ h₄.room_evict, ?_, (l₃.trans l₅).retired,
      (l₃.trans l₅).engine⟩
    exact (ids_register _ s).trans ((l₃.trans l₅).ids.append_right _)

/-- What opening does to the registered sessions. It drops idle sessions and keeps the
others in order (`pre`); a failed open stops there. One that starts its child then
closes, for the cap, the oldest session of `pre` when `pre` fills the cap and none
otherwise, and registers the new live session last, under the id it returns. -/
def OpenEvictsOldest (r : Registry) (req : OpenRequest) : Prop :=
  let cap := r.engine.config.maxSessions
  let r' := (r.openSession req).1
  ∃ pre, Pruned r.sessions pre r'.now ∧
    (∀ e, (r.openSession req).2 = .error e → r'.sessions = pre) ∧
    (∀ id, (r.openSession req).2 = .ok id → ∃ s, s.id = id ∧ s.Live ∧
      (((cap = 0 ∨ pre.length < cap) ∧ r'.sessions = pre ++ [s]) ∨
        (0 < cap ∧ pre.length = cap ∧
          ∃ v ∈ pre, (∀ x ∈ pre, x ≠ v → older v x = true) ∧
          r'.sessions = pre.filter (fun x => x.id != v.id) ++ [s] ∧
          v.close r'.now ∈ r'.retired)))

theorem Sound.openSession_evicts_oldest {r : Registry} (h : r.Sound) (req : OpenRequest) :
    r.OpenEvictsOldest req := by
  set r₁ := r.advance (r.now + opCost)
  set r₃ : Registry := { r₁.prune with seq := r₁.seq + 1 }
  set r₄ := r₃.advance (r₃.now + spawnCost)
  have l₄ : Leads r r₄ := (leads_before_spawn r).trans (leads_advance r₃ _)
  -- idle sessions go at the first tick, at the prune, and in sweeps while the child starts
  have p₁ : Pruned r.sessions r₁.sessions r₁.now := pruned_advance r _
  have p₃ : Pruned r.sessions r₃.sessions r₃.now := p₁.trans (pruned_prune r₁) (le_refl _)
  have p₄ : Pruned r.sessions r₄.sessions r₄.now :=
    p₃.trans (pruned_advance r₃ _) (by rw [now_advance]; exact le_max_left _ _)
  unfold OpenEvictsOldest
  rcases openSession_cases r req with ⟨e, hres⟩ | ⟨e, hres⟩ | ⟨s, hs, -, hid, hres⟩
  · rw [hres]
    exact ⟨r₁.sessions, p₁, fun _ _ => rfl, fun _ hok => by cases hok⟩
  · rw [hres]
    exact ⟨r₃.sessions, p₃, fun _ _ => rfl, fun _ hok => by cases hok⟩
  · rw [hres]
    refine ⟨r₄.sessions, p₄, fun _ herr => by simp at herr,
      fun id hok => ⟨s, ?_, hs, ?_⟩⟩
    · cases hok
      rfl
    have h₄ := l₄.sound h
    rw [← l₄.engine]
    rcases evict_cases h₄.nodup_sessions h₄.cap with ⟨hsame, hroom⟩ |
      ⟨hpos, hfull, v, hv, holdest, hevict⟩
    · exact Or.inl ⟨hroom, by rw [hsame]⟩
    · refine Or.inr ⟨hpos, hfull, v, hv, holdest, by rw [hevict], ?_⟩
      rw [hevict]
      exact List.mem_append_right _ (List.mem_singleton_self _)

/-! ## Runs -/

/-- A request to the registry, or time passing between requests. -/
inductive Op where
  | openSession (req : OpenRequest)
  | write (id : String) (bytes : List UInt8)
  | read (id : String) (maxBytes : Nat) (timeout : Option Duration)
  | close (id : String)
  | list
  | closeAll
  | spawnReaper (interval : Duration)
  | sleep (d : Nat)

/-- The registry after one operation. -/
def apply (r : Registry) : Op → Registry
  | .openSession req => (r.openSession req).1
  | .write id bytes => (r.write id bytes).1
  | .read id maxBytes timeout => (r.read id maxBytes timeout).1
  | .close id => r.close id
  | .list => r.list.1
  | .closeAll => r.closeAll
  | .spawnReaper interval => r.spawnReaper interval
  | .sleep d => r.sleep d

/-- The ids an operation gave out: the new session's, when it opened one. -/
def opened (r : Registry) : Op → List String
  | .openSession req => openedBy (r.openSession req).2
  | _ => []

/-- The registry after operations in order. -/
def run (r : Registry) (ops : List Op) : Registry := ops.foldl apply r

/-- One operation from a sound registry: it stays sound, the ids given out grow by the
opened one only, the retired sessions only grow, and the engine stays. -/
theorem Sound.apply {r : Registry} (h : r.Sound) (op : Op) :
    (r.apply op).Sound ∧ (r.apply op).ids ~ r.ids ++ r.opened op ∧
      r.retired <+: (r.apply op).retired ∧ (r.apply op).engine = r.engine := by
  have ofLeads : ∀ {r'}, Leads r r' →
      r'.Sound ∧ r'.ids ~ r.ids ++ [] ∧ r.retired <+: r'.retired ∧ r'.engine = r.engine :=
    fun l => ⟨l.sound h, by simpa using l.ids, l.retired, l.engine⟩
  cases op with
  | openSession req => exact h.openSession req
  | write id bytes => exact ofLeads (leads_write r id bytes)
  | read id m timeout => exact ofLeads (leads_read r id m timeout)
  | close id => exact ofLeads (leads_close r id)
  | list => exact ofLeads (leads_list r)
  | closeAll => exact ofLeads (leads_closeAll r)
  | spawnReaper interval => exact ofLeads (leads_spawnReaper r interval)
  | sleep d => exact ofLeads (leads_advance r _)

/-- A run from a sound registry keeps it sound and only adds to the retired sessions. -/
theorem Sound.run {r : Registry} (h : r.Sound) (ops : List Op) :
    (r.run ops).Sound ∧ r.retired <+: (r.run ops).retired ∧ (r.run ops).engine = r.engine := by
  induction ops generalizing r with
  | nil => exact ⟨h, List.prefix_refl _, rfl⟩
  | cons op ops ih =>
    obtain ⟨h₁, -, hret₁, heng₁⟩ := h.apply op
    obtain ⟨h₂, hret₂, heng₂⟩ := ih h₁
    exact ⟨h₂, hret₁.trans hret₂, heng₂.trans heng₁⟩

/-- With distinct ids, looking up an id finds exactly the registered session with it. -/
theorem find?_eq_some_iff {r : Registry} (hnd : (r.sessions.map (·.id)).Nodup) {id : String}
    {s : Session} : r.find? id = some s ↔ s ∈ r.sessions ∧ s.id = id := by
  unfold find?
  constructor
  · intro hf
    have hid := List.find?_some hf
    exact ⟨List.mem_of_find?_eq_some hf, beq_iff_eq.mp hid⟩
  · rintro ⟨hs, rfl⟩
    -- the first session with the id is found, and with distinct ids it is this one
    obtain ⟨t, ht⟩ : ∃ t, r.sessions.find? (·.id == s.id) = some t :=
      Option.isSome_iff_exists.mp (List.find?_isSome.mpr ⟨s, hs, beq_self_eq_true _⟩)
    have htid := List.find?_some ht
    replace htid : t.id = s.id := beq_iff_eq.mp htid
    rw [ht, List.inj_on_of_nodup_map hnd (List.mem_of_find?_eq_some ht) hs htid]

/-- **Every run keeps the registry sound.** After any operations from the empty registry:
looking up an id finds exactly the registered session with that id; under a cap, at
most the cap is registered; opening drops idle sessions and, only once the child has
started, closes the oldest session when the rest fill the cap; every session that left
was closed as it left, once, and closing it again does nothing; and no id of a session
that left is registered again, whatever follows. -/
theorem run_keeps_registry_invariants (engine : Engine) (ops : List Op) :
    let r := (new engine).run ops
    (∀ id s, r.find? id = some s ↔ s ∈ r.sessions ∧ s.id = id) ∧
    (0 < engine.config.maxSessions → r.sessions.length ≤ engine.config.maxSessions) ∧
    (∀ req, r.OpenEvictsOldest req) ∧
    r.ids.Nodup ∧
    (∀ op, (r.apply op).ids ~ r.ids ++ r.opened op ∧ r.retired <+: (r.apply op).retired) ∧
    (∀ s ∈ r.retired, s.Retired ∧ ∀ t, s.close t = s) ∧
    (∀ ops', ∀ s ∈ r.retired, s.id ∉ (r.run ops').sessions.map (·.id)) := by
  intro r
  obtain ⟨h, -, heng⟩ := (sound_new engine).run ops
  refine ⟨fun id s => find?_eq_some_iff h.nodup_sessions, ?_,
    fun req => h.openSession_evicts_oldest req, h.nodup, fun op => ?_,
    fun s hs => ⟨h.retired s hs, fun t => Session.close_of_closed t (h.retired s hs).1⟩,
    fun ops' s hs hmem => ?_⟩
  · have hcap := h.cap
    rwa [heng] at hcap
  · obtain ⟨-, hids, hret, -⟩ := h.apply op
    exact ⟨hids, hret⟩
  · -- the session is still retired later, and no id is both registered and retired
    obtain ⟨h', hret, -⟩ := h.run ops'
    have hnd := h'.nodup
    simp only [ids, List.map_append] at hnd
    exact List.disjoint_of_nodup_append hnd hmem (List.mem_map_of_mem (hret.subset hs))

end Registry

end Confine
