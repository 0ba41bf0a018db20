import Confine.Proofs.ReadLooks
import Mathlib.Logic.Relation

/-!
# What the registry's operations do to the sessions they keep

An operation of the registry touches a registered session in one of three ways only: a
look of a read (`Session.look`: the session is marked used, the pump feeds its backlog,
the child is looked at, and the backlog is drained), a write (`Session.writeTo`: the
session is marked used, the child looked at and written to), or the look of a listing
(`Session.snapshot`). Everything else an operation does to the registered sessions is to
let some of them go.

`Registry.Carries` says that each session registered after an operation is a new one or
one registered before it, related to it by a given relation; `Sound.carries` gives, for
every operation, the relation `Op.carries`: a write or a read changes only the session
it names, the one by writing and the other by looks, which leave it marked used at the
time the operation ends; a listing takes a snapshot of every session; and every other
operation leaves the sessions it keeps as they were.
-/

namespace Confine

open scoped List

namespace Session

/-- A write to a registered session: it marks the session used and looks at the child
before writing to it; a failed write keeps what the look found. -/
def writeTo (s : Session) (now : Nat) (bytes : List UInt8) : Session :=
  let s₁ := ((s.touch now).poll now).1
  match s₁.write now bytes with
  | .ok s₂ => s₂
  | .error _ => s₁

/-- Sessions related by looks of reads of at most `m` bytes, at any times. -/
def Looked (m : Nat) : Session → Session → Prop :=
  Relation.ReflTransGen fun a b => ∃ now, b = (a.look now m).2

theorem look_snd (s : Session) (now m : Nat) :
    (s.look now m).2 = ((((s.touch now).feed now).settled now).1.drain m).2 := rfl

@[simp] theorem id_look (s : Session) (now m : Nat) : (s.look now m).2.id = s.id :=
  id_eq_of_mark (by rw [look_snd]; simp)

@[simp] theorem lastActivity_look (s : Session) (now m : Nat) :
    (s.look now m).2.lastActivity = now := by
  rw [look_snd, drain, settled_fst]
  simp [feed, poll, touch]

@[simp] theorem id_writeTo (s : Session) (now : Nat) (bytes : List UInt8) :
    (s.writeTo now bytes).id = s.id := by
  unfold writeTo
  dsimp only
  split
  · rename_i s₂ hw
    exact (id_eq_of_mark (mark_of_write hw)).trans (by simp [touch, poll])
  · simp [touch, poll]

@[simp] theorem lastActivity_writeTo (s : Session) (now : Nat) (bytes : List UInt8) :
    (s.writeTo now bytes).lastActivity = now := by
  unfold writeTo
  dsimp only
  split
  · rename_i s₂ hw
    obtain ⟨c, -, rfl⟩ := write_eq_ok hw
    simp [touch, poll]
  · simp [touch, poll]

end Session

namespace Registry

/-- What a read's look answers when it finds the session: the session's look at the
registry's time, answered when it drained bytes, saw a drop or saw the end of the
output. -/
theorem readOnce_answer {r : Registry} {id : String} (m : Nat) {s : Session}
    (hf : r.prune.find? id = some s) :
    let g := (s.look r.now m).1
    (r.readOnce id m).2 =
      if (!g.bytes.isEmpty || g.truncated || g.eof) = true then
        .ok (some ⟨Text.Utf8.decodeLossy g.bytes, "", g.eof, g.truncated⟩)
      else .ok none := by
  simp only [readOnce, hf]
  rw [apply_ite Prod.snd]
  rfl

/-- What a write leaves: the pruned registry, with the named session written to if it
was there. -/
theorem write_fst (r : Registry) (id : String) (bytes : List UInt8) :
    (r.write id bytes).1 =
      let p := (r.advance (r.now + opCost)).prune
      match p.find? id with
      | none => p
      | some s => p.replace (s.writeTo p.now bytes) := by
  cases hf : ((r.advance (r.now + opCost)).prune).find? id with
  | none => simp only [write, hf]
  | some s =>
    cases hw : (((s.touch (r.advance (r.now + opCost)).prune.now).poll
        (r.advance (r.now + opCost)).prune.now).1.write (r.advance (r.now + opCost)).prune.now
          bytes) with
    | ok s₂ => simp only [write, hf, Session.writeTo, hw]
    | error e => simp only [write, hf, Session.writeTo, hw]

@[simp] theorem now_replace (r : Registry) (s : Session) : (r.replace s).now = r.now := rfl

theorem find?_spec {r : Registry} {x : String} {s : Session} (h : r.find? x = some s) :
    s ∈ r.sessions ∧ s.id = x := by
  unfold find? at h
  have hid := List.find?_some h
  exact ⟨List.mem_of_find?_eq_some h, beq_iff_eq.mp hid⟩

theorem id_ne_of_find?_none {r : Registry} {x : String} (h : r.find? x = none) :
    ∀ s ∈ r.sessions, s.id ≠ x := by
  unfold find? at h
  intro s hs hsx
  exact absurd (List.find?_eq_none.mp h s hs) (by simp [hsx])

/-- Each session registered after `r'` has an id in `fresh`, or comes from a session
registered in `r` with its id, the two related by `f`. -/
def Carries (r r' : Registry) (fresh : List String) (f : Session → Session → Prop) : Prop :=
  ∀ s' ∈ r'.sessions, s'.id ∈ fresh ∨ ∃ s ∈ r.sessions, s.id = s'.id ∧ f s s'

theorem Carries.mono {r r' : Registry} {fresh : List String} {f g : Session → Session → Prop}
    (h : Carries r r' fresh f) (hfg : ∀ s s', s.id = s'.id → f s s' → g s s') :
    Carries r r' fresh g := by
  intro s' hs'
  rcases h s' hs' with hnew | ⟨s, hs, hid, hf⟩
  · exact Or.inl hnew
  · exact Or.inr ⟨s, hs, hid, hfg s s' hid hf⟩

/-- Two operations in turn carry a session through the two relations in turn. -/
theorem Carries.comp {r₁ r₂ r₃ : Registry} {fresh₁ fresh₂ : List String}
    {f g : Session → Session → Prop} (h₁ : Carries r₁ r₂ fresh₁ f) (h₂ : Carries r₂ r₃ fresh₂ g) :
    Carries r₁ r₃ (fresh₁ ++ fresh₂) (Relation.Comp f g) := by
  intro s'' hs''
  rcases h₂ s'' hs'' with hnew | ⟨s', hs', hid', hg⟩
  · exact Or.inl (List.mem_append_right _ hnew)
  · rcases h₁ s' hs' with hnew | ⟨s, hs, hid, hf⟩
    · exact Or.inl (List.mem_append_left _ (hid' ▸ hnew))
    · exact Or.inr ⟨s, hs, hid.trans hid', s', hf, hg⟩

/-- Letting sessions go carries the others unchanged. -/
theorem carries_of_sublist {r r' : Registry} (h : r'.sessions <+ r.sessions) :
    Carries r r' [] fun s s' => s' = s :=
  fun s' hs' => Or.inr ⟨s', h.subset hs', rfl, rfl⟩

theorem sublist_advance (r : Registry) (t : Nat) : (r.advance t).sessions <+ r.sessions :=
  (pruned_advance r t).1

theorem sublist_prune (r : Registry) : r.prune.sessions <+ r.sessions := (pruned_prune r).1

/-- Putting back a registered session changed into `s₁` carries it to `s₁` and the others
unchanged, when ids are distinct. -/
theorem carries_replace {r : Registry} (hnd : (r.sessions.map (·.id)).Nodup) {s₀ s₁ : Session}
    (hs₀ : s₀ ∈ r.sessions) (hid : s₁.id = s₀.id) :
    Carries r (r.replace s₁) [] fun s s' => if s.id = s₀.id then s = s₀ ∧ s' = s₁ else s' = s := by
  intro s' hs'
  obtain ⟨s, hs, rfl⟩ := List.mem_map.mp hs'
  refine Or.inr ⟨s, hs, ?_, ?_⟩
  · split
    · exact beq_iff_eq.mp ‹_›
    · rfl
  · by_cases hs₀id : s.id = s₀.id
    · have hsame : s = s₀ := List.inj_on_of_nodup_map hnd hs hs₀ hs₀id
      simp [hsame, hid]
    · have hne : (s.id == s₁.id) = false := by simpa [hid] using hs₀id
      simp [hs₀id, hne]

/-! ## Reads -/

/-- What the looks of a read of `x` do to a session they keep: the session named is
looked at, last at time `t`, and the others stay as they were. -/
def Looks (x : String) (m t : Nat) (s s' : Session) : Prop :=
  if s.id = x then Session.Looked m s s' ∧ s'.lastActivity = t else s' = s

theorem Looked.id_eq {m : Nat} {s s' : Session} (h : Session.Looked m s s') : s'.id = s.id := by
  induction h with
  | refl => rfl
  | tail _ hstep ih =>
    obtain ⟨now, rfl⟩ := hstep
    rw [Session.id_look, ih]

theorem now_readOnce (r : Registry) (x : String) (m : Nat) : (r.readOnce x m).1.now = r.now := by
  rw [readOnce_fst]
  split <;> rfl

theorem carries_readOnce {r : Registry} (h : r.Sound) (x : String) (m : Nat) :
    Carries r (r.readOnce x m).1 [] (Looks x m r.now) := by
  have hnd : (r.prune.sessions.map (·.id)).Nodup := ((leads_prune r).sound h).nodup_sessions
  rw [readOnce_fst]
  split
  · -- the session is gone, so the look changes nothing
    rename_i hf
    intro s' hs'
    have hne : s'.id ≠ x := id_ne_of_find?_none hf s' hs'
    exact Or.inr ⟨s', (sublist_prune r).subset hs', rfl, by simp [Looks, hne]⟩
  · rename_i s₀ hf
    obtain ⟨hs₀, hx⟩ := find?_spec hf
    rw [← Session.look_snd]
    refine ((carries_of_sublist (sublist_prune r)).comp
      (carries_replace hnd hs₀ (Session.id_look s₀ r.now m))).mono ?_
    rintro s s'' - ⟨s', rfl, hrep⟩
    unfold Looks
    split
    · rename_i hsx
      rw [if_pos (hsx.trans hx.symm)] at hrep
      obtain ⟨rfl, rfl⟩ := hrep
      exact ⟨Relation.ReflTransGen.single ⟨r.now, rfl⟩, Session.lastActivity_look _ _ _⟩
    · rename_i hsx
      rwa [if_neg (fun h => hsx (h.trans hx))] at hrep

/-- However many looks a read takes, they look at the session it names and at no other. -/
theorem carries_readLoop {x : String} {m tick : Nat} {deadline : Option Nat} :
    ∀ r res, readLoop x m tick deadline r = some res → r.Sound →
      Carries r res.1 [] (Looks x m res.1.now) := by
  refine readLoop_partial_correctness x m tick deadline
    (fun r res => r.Sound → Carries r res.1 [] (Looks x m res.1.now)) ?_
  intro loop ih r res hres hs
  rw [readStep] at hres
  have hlook := carries_readOnce hs x m
  have hnow := now_readOnce r x m
  split at hres
  · rename_i r' e heq
    cases hres
    rw [heq] at hlook hnow
    rwa [hnow]
  · rename_i r' answer heq
    cases hres
    rw [heq] at hlook hnow
    rwa [hnow]
  · rename_i r' heq
    have hs' : r'.Sound := by
      have := (leads_readOnce r x m).sound hs
      rwa [heq] at this
    rw [heq] at hlook hnow
    split at hres
    · cases hres
      rwa [hnow]
    · -- the look waits: what follows is the loop from a poll interval later
      have hrest := ih _ _ hres ((leads_advance r' _).sound hs')
      refine ((hlook.comp (carries_of_sublist (sublist_advance r' _))).comp hrest).mono ?_
      rintro s s'' - ⟨s₂, ⟨s₁, h₁, rfl⟩, h₂⟩
      by_cases hsx : s.id = x
      · simp only [Looks, hsx, if_true] at h₁ ⊢
        obtain ⟨hlooked, -⟩ := h₁
        simp only [Looks, (Looked.id_eq hlooked).trans hsx, if_true] at h₂
        exact ⟨hlooked.trans h₂.1, h₂.2⟩
      · simp only [Looks, hsx, if_false] at h₁ ⊢
        subst h₁
        simpa [Looks, hsx] using h₂

/-! ## Every operation -/

/-- What an operation that ends at time `t` does to a registered session it keeps. -/
def Op.carries : Op → Nat → Session → Session → Prop
  | .write x bytes, t, s, s' => if s.id = x then s' = s.writeTo t bytes else s' = s
  | .read x m _, t, s, s' => s' = s ∨ Looks x (max m 1) t s s'
  | .list, t, s, s' => s' = (s.snapshot t epoch).1
  | _, _, s, s' => s' = s

theorem sublist_evict (r : Registry) : r.evict.sessions <+ r.sessions := List.filter_sublist

theorem carries_of_sublist_op {r r' : Registry} (op : Op) (t : Nat)
    (h : r'.sessions <+ r.sessions)
    (hop : ∀ s, op.carries t s s) : Carries r r' (r.opened op) (op.carries t) :=
  fun s' hs' => Or.inr ⟨s', h.subset hs', rfl, hop s'⟩

/-- **What an operation does to the sessions it keeps.** Every session registered after
an operation is a new one, or one registered before it with the same id, changed as
`Op.carries` says. -/
theorem Sound.carries {r : Registry} (h : r.Sound) (op : Op) :
    Carries r (r.apply op) (r.opened op) (op.carries (r.apply op).now) := by
  cases op with
  | openSession req =>
    set r₁ := r.advance (r.now + opCost)
    set r₃ : Registry := { r₁.prune with seq := r₁.seq + 1 }
    set r₄ := r₃.advance (r₃.now + spawnCost)
    have h₁ : r₁.sessions <+ r.sessions := sublist_advance r _
    have h₃ : r₃.sessions <+ r.sessions := (sublist_prune r₁).trans h₁
    have h₄ : r₄.evict.sessions <+ r.sessions :=
      ((sublist_evict r₄).trans (sublist_advance r₃ _)).trans h₃
    rcases openSession_cases r req with ⟨e, hres⟩ | ⟨e, hres⟩ | ⟨s, -, -, -, hres⟩
    · refine carries_of_sublist_op _ _ ?_ fun _ => rfl
      simpa only [Registry.apply, hres] using h₁
    · refine carries_of_sublist_op _ _ ?_ fun _ => rfl
      simpa only [Registry.apply, hres] using h₃
    · -- the new session has the new id; the others are those eviction kept
      intro s' hs'
      simp only [Registry.apply, hres, List.mem_append, List.mem_singleton] at hs'
      rcases hs' with hold | rfl
      · exact Or.inr ⟨s', h₄.subset hold, rfl, rfl⟩
      · exact Or.inl (by simp [Registry.opened, hres])
  | write x bytes =>
    have hP := (sublist_prune _).trans (sublist_advance r (r.now + opCost))
    have hnd : ((r.advance (r.now + opCost)).prune.sessions.map (·.id)).Nodup :=
      (((leads_advance r _).trans (leads_prune _)).sound h).nodup_sessions
    simp only [Registry.apply, Registry.opened]
    rw [write_fst]
    dsimp only
    split
    · rename_i hf
      intro s' hs'
      have hne : s'.id ≠ x := id_ne_of_find?_none hf s' hs'
      exact Or.inr ⟨s', hP.subset hs', rfl, by simp [Op.carries, hne]⟩
    · rename_i s₀ hf
      obtain ⟨hs₀, hx⟩ := find?_spec hf
      refine ((carries_of_sublist hP).comp (carries_replace hnd hs₀
        (Session.id_writeTo s₀ _ bytes))).mono ?_
      rintro s s'' - ⟨s', rfl, hrep⟩
      simp only [Op.carries, ← hx]
      split at hrep
      · rename_i hsx
        obtain ⟨rfl, rfl⟩ := hrep
        simp
      · rename_i hsx
        simpa [hsx] using hrep
  | read x m timeout =>
    simp only [Registry.apply, Registry.opened, Registry.read]
    cases hcall : r.readCall x m timeout with
    | none =>
      exact carries_of_sublist_op (.read x m timeout) _ (List.Sublist.refl _) fun _ => Or.inl rfl
    | some res =>
      simp only [Option.getD_some]
      unfold readCall at hcall
      dsimp only at hcall
      split at hcall
      · cases hcall
        exact carries_of_sublist_op (.read x m timeout) _ (sublist_advance _ _) fun _ => Or.inl rfl
      · obtain ⟨⟨r'', answer⟩, hloop, rfl⟩ := Option.map_eq_some_iff.mp hcall
        refine ((carries_of_sublist (sublist_advance r _)).comp
          (carries_readLoop _ _ hloop ((leads_advance r _).sound h))).mono ?_
        rintro s s'' - ⟨s', rfl, hlooks⟩
        exact Or.inr hlooks
  | close x =>
    refine carries_of_sublist_op _ _ ?_ fun _ => rfl
    exact (List.filter_sublist).trans ((sublist_prune _).trans (sublist_advance _ _))
  | list =>
    intro s' hs'
    simp only [Registry.apply, Registry.list, List.map_map, List.mem_map] at hs'
    obtain ⟨s, hs, rfl⟩ := hs'
    refine Or.inr ⟨s, ((sublist_prune _).trans (sublist_advance _ _)).subset hs,
      (Session.id_eq_of_mark (Session.mark_snapshot _ _ _)).symm, rfl⟩
  | closeAll => exact carries_of_sublist_op _ _ (List.nil_sublist _) fun _ => rfl
  | spawnReaper interval =>
    exact carries_of_sublist_op _ _ (sublist_advance _ _) fun _ => rfl
  | sleep d => exact carries_of_sublist_op _ _ (sublist_advance _ _) fun _ => rfl

end Registry

end Confine
