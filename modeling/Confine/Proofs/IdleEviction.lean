import Confine.Proofs.EndOfOutput
import Confine.Proofs.ListingOrder

/-!
# Idle sessions are evicted, and only they

Every operation of the registry but closing all starts with a prune at its own time, and
the reaper prunes at each of its sweeps. A prune at time `t` drops exactly the sessions
whose last use lies at least their idle window `D` before `t`, closing each
(`mem_prune_iff`): the boundary `t - last = D` evicts. So an operation whose prune finds
a session idle cannot reach it: a write or a read of it reports that it is not found, a
listing omits it, and no operation that prunes brings it back (`Sound.idle_gone`).

A session's last use changes only when a read or a write of it finds it registered,
which sets it to the time of the operation (`Op.carries_lastActivity`); opening,
listing and closing other sessions leave it. It therefore never lies ahead of the
registry's clock (`Timely`), and a session used within its window of an operation's
last instant survives every prune of that operation (`Sound.keeps_apply`). A read
touches the session it reads at each look, so that session survives the read as long
as the poll interval is shorter than its window (`readLoop_keeps_target`). A window of
zero evicts at the first prune.
-/

namespace Confine

namespace Session

theorem isIdle_iff {s : Session} {t : Nat} :
    s.isIdle t = true ↔ s.idleTimeout ≤ t - s.lastActivity := by
  simp [isIdle]

theorem isIdle_eq_false_iff {s : Session} {t : Nat} :
    s.isIdle t = false ↔ t - s.lastActivity < s.idleTimeout := by
  simp [isIdle]

@[simp] theorem idleTimeout_look (s : Session) (now m : Nat) :
    (s.look now m).2.idleTimeout = s.idleTimeout := by
  rw [look_snd, drain, settled_fst]
  simp [feed, poll, touch]

@[simp] theorem idleTimeout_writeTo (s : Session) (now : Nat) (bytes : List UInt8) :
    (s.writeTo now bytes).idleTimeout = s.idleTimeout := by
  rcases writeTo_cases s now bytes with hw | ⟨c, -, hw⟩ <;> simp [hw, touch, poll]

@[simp] theorem lastActivity_snapshot (s : Session) (now : Nat) (epoch : Int) :
    (s.snapshot now epoch).1.lastActivity = s.lastActivity := by
  simp [snapshot, poll]

@[simp] theorem idleTimeout_snapshot (s : Session) (now : Nat) (epoch : Int) :
    (s.snapshot now epoch).1.idleTimeout = s.idleTimeout := by
  simp [snapshot, poll]

@[simp] theorem id_snapshot_fst (s : Session) (now : Nat) (epoch : Int) :
    (s.snapshot now epoch).1.id = s.id := by
  simp [snapshot, poll]

end Session

namespace Registry

open scoped List

/-! ## A prune drops exactly the idle sessions -/

/-- A prune keeps a session exactly when its last use lies less than its idle window
before the prune's time. -/
theorem mem_prune_iff {r : Registry} {s : Session} (hs : s ∈ r.sessions) :
    s ∈ r.prune.sessions ↔ r.now - s.lastActivity < s.idleTimeout := by
  simp [prune, hs, Session.isIdle]

theorem isIdle_of_not_mem_prune {r : Registry} {s : Session} (hs : s ∈ r.sessions)
    (hgone : s ∉ r.prune.sessions) : s.isIdle r.now = true := by
  simpa [prune, hs] using hgone

/-- A session a prune drops is retired closed at the prune's time. -/
theorem close_mem_prune_retired {r : Registry} {s : Session} (hs : s ∈ r.sessions)
    (hgone : s ∉ r.prune.sessions) : s.close r.now ∈ r.prune.retired := by
  simp only [prune, retire, List.mem_append, List.mem_map, List.mem_filter]
  exact Or.inr ⟨s, ⟨hs, isIdle_of_not_mem_prune hs hgone⟩, rfl⟩

theorem find?_eq_none_iff {r : Registry} {x : String} :
    r.find? x = none ↔ x ∉ r.sessions.map (·.id) := by
  simp [find?, List.find?_eq_none]

theorem not_mem_of_sublist {r r' : Registry} (h : r'.sessions <+ r.sessions) {x : String}
    (hx : x ∉ r.sessions.map (·.id)) : x ∉ r'.sessions.map (·.id) :=
  fun hmem => hx ((h.map _).subset hmem)

/-- No operation brings back an id that was not registered, unless it gives it out. -/
theorem Carries.not_mem {r r' : Registry} {fresh : List String} {f : Session → Session → Prop}
    (h : Carries r r' fresh f) {x : String} (hx : x ∉ r.sessions.map (·.id))
    (hfresh : x ∉ fresh) : x ∉ r'.sessions.map (·.id) := by
  intro hmem
  obtain ⟨s', hs', rfl⟩ := List.mem_map.mp hmem
  rcases h s' hs' with hnew | ⟨s, hs, hid, -⟩
  · exact hfresh hnew
  · exact hx (List.mem_map.mpr ⟨s, hs, hid⟩)

theorem not_mem_replace {r : Registry} {s₀ s₁ : Session} (hs₀ : s₀ ∈ r.sessions)
    (hid : s₁.id = s₀.id) {x : String} (hx : x ∉ r.sessions.map (·.id)) :
    x ∉ (r.replace s₁).sessions.map (·.id) := by
  intro hmem
  obtain ⟨s', hs', hx'⟩ := List.mem_map.mp hmem
  obtain ⟨s, hs, rfl⟩ := List.mem_map.mp hs'
  apply hx
  by_cases hc : (s.id == s₁.id) = true
  · rw [if_pos hc] at hx'
    exact List.mem_map.mpr ⟨s₀, hs₀, hid.symm.trans hx'⟩
  · rw [if_neg hc] at hx'
    exact List.mem_map.mpr ⟨s, hs, hx'⟩

/-! ## An operation whose prune finds a session idle cannot reach it -/

/-- With distinct ids, a prune that finds a session idle leaves nothing under its id,
also when it prunes what is left of the sessions after the reaper's sweeps. -/
theorem not_mem_prune {r q : Registry} (hnd : (r.sessions.map (·.id)).Nodup)
    (hq : q.sessions <+ r.sessions) {s : Session} (hs : s ∈ r.sessions)
    (hidle : s.isIdle q.now = true) : s.id ∉ q.prune.sessions.map (·.id) := by
  intro hmem
  obtain ⟨s', hs', hid⟩ := List.mem_map.mp hmem
  have hs'q : s' ∈ q.sessions := (sublist_prune q).subset hs'
  obtain rfl := List.inj_on_of_nodup_map hnd (hq.subset hs'q) hs hid
  have hkept := (mem_prune_iff hs'q).mp hs'
  rw [Session.isIdle_iff] at hidle
  omega

theorem write_of_not_mem {r : Registry} {x : String}
    (hx : x ∉ (r.advance (r.now + opCost)).prune.sessions.map (·.id)) (bytes : List UInt8) :
    r.write x bytes = ((r.advance (r.now + opCost)).prune, .error (.sessionNotFound x)) := by
  unfold write
  simp only [find?_eq_none_iff.mpr hx]

theorem readCall_of_not_mem {r : Registry} {x : String}
    (hx : x ∉ (r.advance (r.now + opCost)).prune.sessions.map (·.id)) (m : Nat)
    (timeout : Option Duration) :
    ∃ q res, r.readCall x m timeout = some (q, res) ∧
      (res = .error (.error (.sessionNotFound x)) ∨ res = .error (.overflow Clock.overflowMessage)) := by
  unfold readCall
  dsimp only
  split
  · exact ⟨_, _, rfl, Or.inr rfl⟩
  · rw [readLoop, readStep, readOnce_of_find?_none _ (find?_eq_none_iff.mpr hx)]
    exact ⟨_, _, rfl, Or.inl rfl⟩

theorem not_mem_list {r : Registry} {x : String}
    (hx : x ∉ (r.advance (r.now + opCost)).prune.sessions.map (·.id)) :
    x ∉ r.list.2.map (·.id) ∧ x ∉ r.list.1.sessions.map (·.id) := by
  simp only [list, ((Snapshot.sort_perm _).map _).mem_iff, List.map_map]
  constructor <;> simpa [Function.comp_def] using hx

theorem engine_advance (r : Registry) (t : Nat) : (r.advance t).engine = r.engine :=
  (leads_advance r t).engine

/-- Where a read leaves the registry: as it was when the read never returns, after the
sweeps up to its start when it refuses its deadline, or where its looks end. -/
theorem read_fst_cases (r : Registry) (x : String) (m : Nat) (timeout : Option Duration) :
    (r.read x m timeout).1 = r ∨ (r.read x m timeout).1 = r.advance (r.now + opCost) ∨
      ∃ deadline res, readLoop x (max m 1) (r.engine.config.pollInterval.nanos + Clock.timerSlack)
        deadline (r.advance (r.now + opCost)) = some ((r.read x m timeout).1, res) := by
  unfold read
  cases hcall : r.readCall x m timeout with
  | none => exact Or.inl rfl
  | some p =>
    obtain ⟨q, res⟩ := p
    rcases readCall_eq_some hcall with ⟨rfl, -⟩ | ⟨deadline, res', hloop, -⟩
    · exact Or.inr (Or.inl rfl)
    · exact Or.inr (Or.inr ⟨deadline, res', hloop⟩)

/-- An open whose command the engine accepts prunes before anything else: it registers
nothing, or one session under the id it returns, beside what it keeps of the pruned
sessions. -/
theorem openSession_of_prepare {r : Registry} {req : OpenRequest} {spec : LaunchSpec}
    (hprep : r.engine.prepare req.command req.cwd .pty req.env = .ok spec) :
    ∃ pre, pre <+ (r.advance (r.now + opCost)).prune.sessions ∧
      ((r.openSession req).1.sessions = pre ∨
        ∃ s, (r.openSession req).2 = .ok s.id ∧ (r.openSession req).1.sessions = pre ++ [s]) := by
  unfold openSession
  simp only [engine_advance, hprep]
  split
  · exact ⟨(r.advance (r.now + opCost)).prune.sessions, List.Sublist.refl _, Or.inl rfl⟩
  · refine ⟨_, ?_, Or.inr ⟨_, rfl, rfl⟩⟩
    exact (sublist_evict _).trans (sublist_advance _ _)

/-- The looks of a read never bring back an id its first prune dropped. -/
theorem readLoop_not_mem {x y : String} {m tick : Nat} {deadline : Option Nat} {q : Registry}
    (hq : q.Sound) (hy : y ∉ q.prune.sessions.map (·.id)) {res : Registry × Except Error ReadResult}
    (h : readLoop x m tick deadline q = some res) : y ∉ res.1.sessions.map (·.id) := by
  have hfirst : y ∉ (q.readOnce x m).1.sessions.map (·.id) := by
    rw [readOnce_fst]
    split
    · exact hy
    · rename_i s₀ hf
      exact not_mem_replace (find?_spec hf).1 (by rw [← Session.look_snd]; simp) hy
  have hsound : (q.readOnce x m).1.Sound := (leads_readOnce q x m).sound hq
  rw [readLoop, readStep] at h
  split at h
  · rename_i q' e heq
    cases h
    rwa [heq] at hfirst
  · rename_i q' answer heq
    cases h
    rwa [heq] at hfirst
  · rename_i q' heq
    rw [heq] at hfirst hsound
    split at h
    · cases h
      exact hfirst
    · -- the rest of the read only looks again at what the first look left
      have h := (Option.ite_none_right_eq_some.mp h).2
      exact (carries_readLoop _ _ h ((leads_advance q' _).sound hsound)).not_mem
        (not_mem_of_sublist (sublist_advance q' _) hfirst) List.not_mem_nil

/-- Whether an operation leaves no session that is idle at its own time: opening a
session whose command the engine accepts, writing, a read that returns with its deadline
in the clock's range, closing one session and listing all prune first, and closing all
leaves no session at all. Starting the reaper and time passing prune only at the
reaper's sweeps. -/
def Op.dropsIdle (r : Registry) : Op → Prop
  | .openSession req => ∃ spec, r.engine.prepare req.command req.cwd .pty req.env = .ok spec
  | .read x m timeout => ∃ q res, r.readCall x m timeout = some (q, res) ∧
      res ≠ .error (.overflow Clock.overflowMessage)
  | .write _ _ | .close _ | .list | .closeAll => True
  | .spawnReaper _ | .sleep _ => False

/-- **An operation that prunes leaves nothing its prune dropped.** An id that was given
out and is not registered after the prune of an operation is not registered after the
operation either. -/
theorem Sound.idle_gone {r : Registry} (h : r.Sound) {op : Op} (hop : op.dropsIdle r)
    {x : String} (hxr : x ∈ r.ids)
    (hx : x ∉ (r.advance (r.now + opCost)).prune.sessions.map (·.id)) :
    x ∉ (r.apply op).sessions.map (·.id) := by
  cases op with
  | openSession req =>
    obtain ⟨spec, hprep⟩ := hop
    obtain ⟨pre, hpre, hcases⟩ := openSession_of_prepare hprep
    have hxpre : x ∉ pre.map (·.id) := fun hmem => hx ((hpre.map _).subset hmem)
    rcases hcases with hsame | ⟨s, hok, hreg⟩
    · simpa only [Registry.apply, hsame] using hxpre
    · -- the new session's id is fresh, and `x` was given out before
      have hne : x ≠ s.id := fun heq =>
        h.opened_fresh (.openSession req) hxr (by simp [Registry.opened, hok, heq])
      simp only [Registry.apply, hreg, List.map_append, List.mem_append, List.map_cons,
        List.map_nil, List.mem_singleton, not_or]
      exact ⟨hxpre, hne⟩
  | write y bytes =>
    simp only [Registry.apply]
    rw [write_fst]
    dsimp only
    split
    · exact hx
    · rename_i s₀ hf
      exact not_mem_replace (find?_spec hf).1 (Session.id_writeTo _ _ _) hx
  | read y m timeout =>
    obtain ⟨q, res, hcall, hres⟩ := hop
    simp only [Registry.apply, read, hcall, Option.getD_some]
    rcases readCall_eq_some hcall with ⟨-, rfl⟩ | ⟨deadline, res', hloop, -⟩
    · exact absurd rfl hres
    · exact readLoop_not_mem ((leads_advance r _).sound h) hx hloop
  | close y =>
    exact not_mem_of_sublist (r := (r.advance (r.now + opCost)).prune) List.filter_sublist hx
  | list => exact (not_mem_list hx).2
  | closeAll => simp [Registry.apply, closeAll]
  | spawnReaper interval => exact hop.elim
  | sleep d => exact hop.elim

/-! ## Only reads and writes of a session use it -/

/-- Whether an operation reads or writes the session with an id. -/
def Op.touches : Op → String → Prop
  | .write x _, y => x = y
  | .read x _ _, y => x = y
  | _, _ => False

theorem Looked.idleTimeout_eq {m : Nat} {s s' : Session} (h : Session.Looked m s s') :
    s'.idleTimeout = s.idleTimeout := by
  induction h with
  | refl => rfl
  | tail _ hstep ih =>
    obtain ⟨now, rfl⟩ := hstep
    rw [Session.idleTimeout_look, ih]

/-- What an operation ending at `t` does to the use of a session it keeps: its window
stays, and its last use stays unless the operation reads or writes it, which sets it
to `t`. -/
theorem Op.carries_lastActivity {op : Op} {t : Nat} {s s' : Session} (h : op.carries t s s') :
    s'.idleTimeout = s.idleTimeout ∧
      (s'.lastActivity = s.lastActivity ∨ op.touches s.id ∧ s'.lastActivity = t) := by
  cases op
  case write x bytes =>
    simp only [Op.carries] at h
    split at h
    · rename_i hx
      subst h
      exact ⟨Session.idleTimeout_writeTo _ _ _, Or.inr ⟨hx.symm, Session.lastActivity_writeTo _ _ _⟩⟩
    · subst h
      exact ⟨rfl, Or.inl rfl⟩
  case read x m timeout =>
    rcases h with rfl | hl
    · exact ⟨rfl, Or.inl rfl⟩
    · unfold Looks at hl
      split at hl
      · rename_i hx
        exact ⟨Looked.idleTimeout_eq hl.1, Or.inr ⟨hx.symm, hl.2⟩⟩
      · subst hl
        exact ⟨rfl, Or.inl rfl⟩
  case list =>
    rw [show s' = _ from h]
    exact ⟨Session.idleTimeout_snapshot _ _ _, Or.inl (Session.lastActivity_snapshot _ _ _)⟩
  all_goals
    rw [show s' = s from h]
    exact ⟨rfl, Or.inl rfl⟩

/-- An open that returns an id registers one session under it, last, used at the time the
open ends and with the request's idle window, or the engine's when the request has
none. -/
theorem openSession_new {r : Registry} {req : OpenRequest} {x : String}
    (h : (r.openSession req).2 = .ok x) :
    ∃ pre s, (r.openSession req).1.sessions = pre ++ [s] ∧ pre <+ r.sessions ∧ s.id = x ∧
      s.lastActivity = (r.openSession req).1.now ∧
      s.idleTimeout = (req.idleTimeout.getD r.engine.config.sessionIdleTimeout).nanos := by
  have hsub : ∀ (q : Registry), q.sessions <+ (r.advance (r.now + opCost)).prune.sessions →
      ((q.advance (q.now + spawnCost)).evict).sessions <+ r.sessions := fun q hq =>
    (((sublist_evict _).trans (sublist_advance _ _)).trans hq).trans
      ((sublist_prune _).trans (sublist_advance _ _))
  unfold openSession at h ⊢
  dsimp only at h ⊢
  split at h
  · cases h
  · rename_i spec hprep
    split at h
    · cases h
    · rename_i child hchild
      cases h
      exact ⟨_, _, rfl, hsub _ (List.Sublist.refl _), rfl, rfl,
        by simp [Session.start, engine_advance]⟩

/-- **Only a read or a write of a session uses it.** After an operation, every session is
the one it opened, used at its end with the request's window, or one registered before
with its window, and last used as before unless the operation read or wrote it, which
sets its last use to the operation's end. -/
theorem Sound.lastActivity_apply {r : Registry} (h : r.Sound) (op : Op) :
    ∀ s' ∈ (r.apply op).sessions,
      (s'.id ∈ r.opened op ∧ s'.lastActivity = (r.apply op).now ∧
        ∀ req, op = .openSession req →
          s'.idleTimeout = (req.idleTimeout.getD r.engine.config.sessionIdleTimeout).nanos) ∨
      ∃ s ∈ r.sessions, s.id = s'.id ∧ s'.idleTimeout = s.idleTimeout ∧
        (s'.lastActivity = s.lastActivity ∨ op.touches s.id ∧ s'.lastActivity = (r.apply op).now) := by
  intro s' hs'
  rcases h.carries op s' hs' with hnew | ⟨s, hs, hid, hc⟩
  · left
    cases op
    case openSession req =>
      cases hres : (r.openSession req).2 with
      | error e => simp [Registry.opened, hres] at hnew
      | ok x =>
        simp only [Registry.opened, hres, openedBy_ok, List.mem_singleton] at hnew
        obtain ⟨pre, s, hreg, hpre, rfl, hlast, hidle⟩ := openSession_new hres
        simp only [Registry.apply, hreg, List.mem_append, List.mem_singleton] at hs'
        rcases hs' with hold | rfl
        · -- an id already registered is not the fresh one
          have hxr : s'.id ∈ r.ids := List.mem_map.mpr ⟨s', List.mem_append_left _ (hpre.subset hold), rfl⟩
          exact absurd (by simp [Registry.opened, hres, hnew]) (h.opened_fresh (.openSession req) hxr)
        · exact ⟨by simp [Registry.opened, hres], hlast, fun req' hreq => by cases hreq; exact hidle⟩
    all_goals simp [Registry.opened] at hnew
  · exact Or.inr ⟨s, hs, hid, Op.carries_lastActivity hc⟩

/-! ## A session used within its window survives -/

/-- No registered session was last used after the registry's time. -/
def Timely (r : Registry) : Prop := ∀ s ∈ r.sessions, s.lastActivity ≤ r.now

/-- `s'` carries `s` on: the same id and idle window, and a last use no earlier. -/
structure Fresher (s s' : Session) : Prop where
  id : s'.id = s.id
  idleTimeout : s'.idleTimeout = s.idleTimeout
  lastActivity : s.lastActivity ≤ s'.lastActivity

theorem Fresher.refl (s : Session) : Fresher s s := ⟨rfl, rfl, le_refl _⟩

theorem Fresher.trans {s₁ s₂ s₃ : Session} (h₁ : Fresher s₁ s₂) (h₂ : Fresher s₂ s₃) :
    Fresher s₁ s₃ :=
  ⟨h₂.id.trans h₁.id, h₂.idleTimeout.trans h₁.idleTimeout, h₁.lastActivity.trans h₂.lastActivity⟩

/-- A session carried on is idle no sooner. -/
theorem Fresher.isIdle {s s' : Session} (h : Fresher s s') {t : Nat} (hs : s.isIdle t = false) :
    s'.isIdle t = false := by
  have hlast := h.lastActivity
  rw [Session.isIdle_eq_false_iff] at hs ⊢
  rw [h.idleTimeout]
  omega

/-- Every session of `r` not idle at `t` is carried on in `r'`. -/
def Keeps (r r' : Registry) (t : Nat) : Prop :=
  ∀ s ∈ r.sessions, s.isIdle t = false → ∃ s' ∈ r'.sessions, Fresher s s'

theorem Keeps.refl (r : Registry) (t : Nat) : Keeps r r t :=
  fun s hs _ => ⟨s, hs, Fresher.refl s⟩

/-- Two steps, the later at a later time, keep what is not idle at the later time: such a
session was not idle at the earlier time either, and what carries it on is idle no
sooner. -/
theorem Keeps.trans {r₁ r₂ r₃ : Registry} {t₁ t₂ : Nat} (h₁ : Keeps r₁ r₂ t₁)
    (h₂ : Keeps r₂ r₃ t₂) (hle : t₁ ≤ t₂) : Keeps r₁ r₃ t₂ := by
  intro s hs hidle
  have hidle₁ : s.isIdle t₁ = false := by
    cases hearly : s.isIdle t₁
    · rfl
    · rw [isIdle_mono hle hearly] at hidle
      cases hidle
  obtain ⟨s₂, hs₂, hf₂⟩ := h₁ s hs hidle₁
  obtain ⟨s₃, hs₃, hf₃⟩ := h₂ s₂ hs₂ (hf₂.isIdle hidle)
  exact ⟨s₃, hs₃, hf₂.trans hf₃⟩

/-- What the reaper's sweeps or a prune at `t` drop was idle at `t`. -/
theorem Pruned.mem {l l' : List Session} {t : Nat} (h : Pruned l l' t) {s : Session}
    (hs : s ∈ l) (hidle : s.isIdle t = false) : s ∈ l' := by
  by_contra hgone
  rw [h.2 s hs hgone] at hidle
  cases hidle

theorem keeps_of_pruned {r r' : Registry} {t : Nat} (h : Pruned r.sessions r'.sessions t) :
    Keeps r r' t :=
  fun s hs hidle => ⟨s, h.mem hs hidle, Fresher.refl s⟩

theorem keeps_prune (r : Registry) : Keeps r r.prune r.now := keeps_of_pruned (pruned_prune r)

theorem keeps_advance (r : Registry) (t : Nat) : Keeps r (r.advance t) (r.advance t).now :=
  keeps_of_pruned (pruned_advance r t)

/-- The sweeps of the reaper up to an operation's time, then the operation's prune. -/
theorem keeps_advance_prune (r : Registry) (t : Nat) :
    Keeps r (r.advance t).prune (r.advance t).now :=
  (keeps_advance r t).trans (keeps_prune _) (le_refl _)

theorem keeps_replace {r : Registry} (hnd : (r.sessions.map (·.id)).Nodup) {s₀ s₁ : Session}
    (hs₀ : s₀ ∈ r.sessions) (hf : Fresher s₀ s₁) (t : Nat) : Keeps r (r.replace s₁) t := by
  intro s hs _
  by_cases hc : (s.id == s₁.id) = true
  · obtain rfl : s = s₀ := List.inj_on_of_nodup_map hnd hs hs₀ ((beq_iff_eq.mp hc).trans hf.id)
    exact ⟨s₁, List.mem_map.mpr ⟨s, hs, if_pos hc⟩, hf⟩
  · exact ⟨s, List.mem_map.mpr ⟨s, hs, if_neg hc⟩, Fresher.refl s⟩

theorem timely_advance {r : Registry} (ht : r.Timely) (t : Nat) : (r.advance t).Timely := by
  intro s hs
  refine (ht s ((sublist_advance r t).subset hs)).trans ?_
  rw [now_advance]
  exact le_max_left _ _

/-- A look puts back the session it looked at, used at the look's time. -/
theorem readOnce_replaced {r : Registry} {x : String} {m : Nat} {s₀ : Session}
    (hf : r.prune.find? x = some s₀) :
    (r.readOnce x m).1 = r.prune.replace (s₀.look r.now m).2 := by
  rw [readOnce_fst, hf, Session.look_snd]

theorem timely_readOnce {r : Registry} (ht : r.Timely) (x : String) (m : Nat) :
    (r.readOnce x m).1.Timely := by
  have hpruned : r.prune.Timely := fun s hs => ht s ((sublist_prune r).subset hs)
  cases hf : r.prune.find? x with
  | none =>
    rw [readOnce_fst, hf]
    exact hpruned
  | some s₀ =>
    rw [readOnce_replaced hf]
    intro s hs
    obtain ⟨s₂, hs₂, rfl⟩ := List.mem_map.mp hs
    split
    · simp
    · exact hpruned s₂ hs₂

theorem keeps_readOnce {r : Registry} (h : r.Sound) (ht : r.Timely) (x : String) (m : Nat) :
    Keeps r (r.readOnce x m).1 r.now := by
  cases hf : r.prune.find? x with
  | none =>
    rw [readOnce_fst, hf]
    exact keeps_prune r
  | some s₀ =>
    rw [readOnce_replaced hf]
    obtain ⟨hs₀, -⟩ := find?_spec hf
    refine (keeps_prune r).trans (keeps_replace ((leads_prune r).sound h).nodup_sessions hs₀
      ⟨Session.id_look _ _ _, Session.idleTimeout_look _ _ _, ?_⟩ r.now) (le_refl _)
    rw [Session.lastActivity_look]
    exact ht s₀ ((sublist_prune r).subset hs₀)

/-- However many looks a read takes, they only move the clock forward, and a session not
idle when they end survives them. -/
theorem readLoop_keeps {x : String} {m tick : Nat} {deadline : Option Nat} :
    ∀ q res, readLoop x m tick deadline q = some res →
      q.now ≤ res.1.now ∧ (q.Sound → q.Timely → Keeps q res.1 res.1.now) := by
  refine readLoop_partial_correctness x m tick deadline
    (fun q res => q.now ≤ res.1.now ∧ (q.Sound → q.Timely → Keeps q res.1 res.1.now)) ?_
  intro loop ih q res hres
  rw [readStep] at hres
  -- what the first look keeps, whether the read ends with it or not
  have hfirst : q.now ≤ (q.readOnce x m).1.now ∧
      (q.Sound → q.Timely → Keeps q (q.readOnce x m).1 (q.readOnce x m).1.now) := by
    rw [now_readOnce]
    exact ⟨le_refl _, fun hq ht => keeps_readOnce hq ht x m⟩
  have hsound := (leads_readOnce q x m).sound
  have htimely := timely_readOnce (r := q) (x := x) (m := m)
  split at hres
  · rename_i q' e heq
    cases hres
    rw [heq] at hfirst
    exact hfirst
  · rename_i q' answer heq
    cases hres
    rw [heq] at hfirst
    exact hfirst
  · rename_i q' heq
    rw [heq] at hfirst hsound htimely
    split at hres
    · cases hres
      exact hfirst
    · -- the look, the sweeps of the poll interval, then the rest of the read
      obtain ⟨hlater, hrest⟩ := ih _ _ hres
      have hstep : q'.now ≤ (q'.advance (q'.now + tick)).now := by
        rw [now_advance]
        exact le_max_left _ _
      refine ⟨(hfirst.1.trans hstep).trans hlater, fun hq ht => ?_⟩
      exact ((hfirst.2 hq ht).trans (keeps_advance q' _) hstep).trans
        (hrest ((leads_advance q' _).sound (hsound hq)) (timely_advance (htimely ht) _)) hlater

theorem now_le_apply (r : Registry) (op : Op) : r.now ≤ (r.apply op).now := by
  have h₁ : r.now ≤ (r.advance (r.now + opCost)).now := by simp
  cases op with
  | openSession req =>
    set r₁ := r.advance (r.now + opCost)
    set r₃ : Registry := { r₁.prune with seq := r₁.seq + 1 }
    set r₄ := r₃.advance (r₃.now + spawnCost)
    have h₄ : r.now ≤ r₄.now := h₁.trans (by simp [r₄, r₃])
    rcases openSession_cases r req with ⟨e, hres⟩ | ⟨e, hres⟩ | ⟨s, -, -, -, hres⟩
    · simp only [Registry.apply, hres]
      exact h₁
    · simp only [Registry.apply, hres]
      exact h₁
    · simp only [Registry.apply, hres]
      exact h₄
  | write x bytes =>
    simp only [Registry.apply]
    rw [write_fst]
    dsimp only
    split <;> exact h₁
  | read x m timeout =>
    simp only [Registry.apply]
    rcases read_fst_cases r x m timeout with hq | hq | ⟨deadline, res, hloop⟩
    · rw [hq]
    · rw [hq]
      exact h₁
    · exact h₁.trans (readLoop_keeps _ _ hloop).1
  | close x => exact h₁
  | list => exact h₁
  | closeAll => exact h₁
  | spawnReaper interval => simp [Registry.apply, spawnReaper]
  | sleep d => simp [Registry.apply, sleep]

theorem Sound.timely_apply {r : Registry} (h : r.Sound) (ht : r.Timely) (op : Op) :
    (r.apply op).Timely := by
  intro s' hs'
  rcases h.lastActivity_apply op s' hs' with ⟨-, hnow, -⟩ | ⟨s, hs, -, -, hlast | ⟨-, hnow⟩⟩
  · exact hnow.le
  · rw [hlast]
    exact (ht s hs).trans (now_le_apply r op)
  · exact hnow.le

theorem Sound.timely_run {r : Registry} (h : r.Sound) (ht : r.Timely) (ops : List Op) :
    (r.run ops).Timely := by
  induction ops generalizing r with
  | nil => exact ht
  | cons op ops ih => exact ih (h.apply op).1 (h.timely_apply ht op)

theorem timely_new (engine : Engine) : (new engine).Timely := by
  simp [Timely, new]

theorem nodup_advance_prune_of_sound {r : Registry} (h : r.Sound) (t : Nat) :
    ((r.advance t).prune.sessions.map (·.id)).Nodup :=
  (((leads_advance r t).trans (leads_prune _)).sound h).nodup_sessions

theorem keeps_write {r : Registry} (h : r.Sound) (ht : r.Timely) (x : String)
    (bytes : List UInt8) : Keeps r (r.write x bytes).1 (r.write x bytes).1.now := by
  rw [write_fst]
  dsimp only
  split
  · exact keeps_advance_prune r _
  · rename_i s₀ hf
    obtain ⟨hs₀, -⟩ := find?_spec hf
    have hsub := (sublist_prune _).trans (sublist_advance r (r.now + opCost))
    refine (keeps_advance_prune r _).trans (keeps_replace (nodup_advance_prune_of_sound h _) hs₀
      ⟨Session.id_writeTo _ _ _, Session.idleTimeout_writeTo _ _ _, ?_⟩ _) (le_refl _)
    rw [Session.lastActivity_writeTo]
    exact (ht s₀ (hsub.subset hs₀)).trans (by simp)

theorem keeps_read {r : Registry} (h : r.Sound) (ht : r.Timely) (x : String) (m : Nat)
    (timeout : Option Duration) :
    Keeps r (r.read x m timeout).1 (r.read x m timeout).1.now := by
  rcases read_fst_cases r x m timeout with hq | hq | ⟨deadline, res, hloop⟩
  · rw [hq]
    exact Keeps.refl r _
  · rw [hq]
    exact keeps_advance r _
  · obtain ⟨hlater, hrest⟩ := readLoop_keeps _ _ hloop
    exact (keeps_advance r _).trans
      (hrest ((leads_advance r _).sound h) (timely_advance ht _)) hlater

theorem keeps_list (r : Registry) : Keeps r r.list.1 r.list.1.now := by
  refine (keeps_advance_prune r _).trans ?_ (le_refl _)
  intro s hs _
  refine ⟨(s.snapshot (r.advance (r.now + opCost)).now epoch).1, ?_,
    ⟨Session.id_snapshot_fst _ _ _, Session.idleTimeout_snapshot _ _ _,
      (Session.lastActivity_snapshot _ _ _).ge⟩⟩
  simp only [list, List.map_map]
  exact List.mem_map.mpr ⟨s, hs, rfl⟩

/-- **A session used within its window of an operation's end survives it.** Writing,
reading, listing, closing another session, starting the reaper and letting time pass
remove a session only by pruning, and each of their prunes falls at or before their
end: a session not idle at the end is carried on, with its window, its id and a last use
no earlier. -/
theorem Sound.keeps_apply {r : Registry} (h : r.Sound) (ht : r.Timely) (op : Op)
    (hopen : ∀ req, op ≠ .openSession req) (hall : op ≠ .closeAll) :
    ∀ s ∈ r.sessions, op ≠ .close s.id → s.isIdle (r.apply op).now = false →
      ∃ s' ∈ (r.apply op).sessions, Fresher s s' := by
  intro s hs hclose hidle
  cases op with
  | openSession req => exact absurd rfl (hopen req)
  | closeAll => exact absurd rfl hall
  | write x bytes => exact keeps_write h ht x bytes s hs hidle
  | read x m timeout => exact keeps_read h ht x m timeout s hs hidle
  | list => exact keeps_list r s hs hidle
  | close x =>
    -- the prune keeps it, and closing another id leaves it
    obtain ⟨s₂, hs₂, hf⟩ := keeps_advance_prune r (r.now + opCost) s hs hidle
    have hne : s.id ≠ x := fun heq => hclose (by rw [heq])
    refine ⟨s₂, List.mem_filter.mpr ⟨hs₂, ?_⟩, hf⟩
    simpa [hf.id] using hne
  | spawnReaper interval => exact keeps_advance r _ s hs hidle
  | sleep d => exact keeps_advance r _ s hs hidle

/-- A read touches the session it reads at every look, so when the poll interval is
shorter than the session's window the session survives the whole read, once its first
look finds it. -/
theorem readLoop_keeps_target {x : String} {m tick : Nat} {deadline : Option Nat} :
    ∀ q res, readLoop x m tick deadline q = some res → q.Sound →
      ∀ s ∈ q.sessions, s.id = x → s.isIdle q.now = false → tick < s.idleTimeout →
        ∃ s' ∈ res.1.sessions, s'.id = x := by
  refine readLoop_partial_correctness x m tick deadline (fun q res => q.Sound →
    ∀ s ∈ q.sessions, s.id = x → s.isIdle q.now = false → tick < s.idleTimeout →
      ∃ s' ∈ res.1.sessions, s'.id = x) ?_
  intro loop ih q res hres hq s hs hsx hidle htick
  rw [readStep] at hres
  have hs₁ : s ∈ q.prune.sessions := (mem_prune_iff hs).mpr (Session.isIdle_eq_false_iff.mp hidle)
  have hf : q.prune.find? x = some s :=
    (find?_eq_some_iff ((leads_prune q).sound hq).nodup_sessions).mpr ⟨hs₁, hsx⟩
  have hfst := readOnce_replaced (m := m) hf
  have hmem : (s.look q.now m).2 ∈ (q.prune.replace (s.look q.now m).2).sessions :=
    mem_replace hs₁ (Session.id_look _ _ _)
  have hid : (s.look q.now m).2.id = x := by rw [Session.id_look, hsx]
  split at hres
  · -- a look that finds the session answers
    rename_i q' e heq
    have hans := readOnce_answer m hf
    rw [heq] at hans
    dsimp only at hans
    split at hans <;> cases hans
  · rename_i q' answer heq
    cases hres
    rw [heq] at hfst
    exact ⟨_, hfst ▸ hmem, hid⟩
  · rename_i q' heq
    rw [heq] at hfst
    dsimp only at hfst
    subst hfst
    split at hres
    · cases hres
      exact ⟨_, hmem, hid⟩
    · -- one poll interval later it was used at the look, less than its window ago
      have hlater : (s.look q.now m).2.isIdle ((q.prune.replace (s.look q.now m).2).advance
          (q.now + tick)).now = false := by
        simp only [Session.isIdle, now_advance, now_replace, now_prune, Session.lastActivity_look,
          Session.idleTimeout_look, decide_eq_false_iff_not, not_le]
        omega
      have hsound : (q.prune.replace (s.look q.now m).2).Sound := by
        have := (leads_readOnce q x m).sound hq
        rwa [heq] at this
      obtain ⟨s₂, hs₂, hf₂⟩ :=
        keeps_advance (q.prune.replace (s.look q.now m).2) (q.now + tick) _ hmem hlater
      refine ih _ _ hres ((leads_advance _ _).sound hsound) s₂ hs₂ (hf₂.id.trans hid)
        (hf₂.isIdle hlater) ?_
      rw [hf₂.idleTimeout, Session.idleTimeout_look]
      exact htick

theorem Sound.read_keeps_target {r : Registry} (h : r.Sound) {s : Session} (hs : s ∈ r.sessions)
    (hidle : s.isIdle (r.advance (r.now + opCost)).now = false)
    (htick : r.engine.config.pollInterval.nanos + Clock.timerSlack < s.idleTimeout) (m : Nat)
    (timeout : Option Duration) : s.id ∈ (r.read s.id m timeout).1.sessions.map (·.id) := by
  have hs₁ : s ∈ (r.advance (r.now + opCost)).sessions := (pruned_advance r _).mem hs hidle
  rcases read_fst_cases r s.id m timeout with hq | hq | ⟨deadline, res, hloop⟩
  · rw [hq]
    exact List.mem_map_of_mem hs
  · rw [hq]
    exact List.mem_map_of_mem hs₁
  · obtain ⟨s', hs', hid⟩ :=
      readLoop_keeps_target _ _ hloop ((leads_advance r _).sound h) s hs₁ rfl hidle htick
    exact List.mem_map.mpr ⟨s', hs', hid⟩

/-- **Idle sessions are evicted, and only they.** After any run, with `t` the time at
which the next operation prunes:

* a prune at any time keeps exactly the sessions last used less than their window
  before it, retires the others closed at that time, and a look of a read then reports
  those as not found;
* a session idle at `t` is one that a write or a read of it reports as not found, that a
  listing omits, and that no operation which prunes leaves registered;
* no session was last used after the clock, and an operation changes a session's last
  use only by reading or writing it, setting it to the operation's end, while a session
  it opens is used at its end with the request's window or the engine's;
* a session used less than its window before `t` survives the prune every operation
  starts with; one used less than its window before the end of an operation that opens
  nothing and does not close it survives the operation; and a read of a session whose
  window is longer than the poll interval keeps it, however long it waits, once its
  first look finds it;
* a session with a window of zero is gone after any operation that prunes. -/
theorem idle_sessions_evicted (engine : Engine) (ops : List Op) :
    let r := (new engine).run ops
    let t := (r.advance (r.now + opCost)).now
    (∀ q : Registry, ∀ s ∈ q.sessions,
      (s ∈ q.prune.sessions ↔ q.now - s.lastActivity < s.idleTimeout) ∧
      (s ∉ q.prune.sessions → s.close q.now ∈ q.prune.retired) ∧
      ((q.sessions.map (·.id)).Nodup → s.idleTimeout ≤ q.now - s.lastActivity → ∀ m,
        q.readOnce s.id m = (q.prune, .error (.sessionNotFound s.id)))) ∧
    (∀ s ∈ r.sessions, s.idleTimeout ≤ t - s.lastActivity →
      (∀ bytes, (r.write s.id bytes).2 = .error (.sessionNotFound s.id)) ∧
      (∀ m timeout, ∃ q res, r.readCall s.id m timeout = some (q, res) ∧
        (res = .error (.error (.sessionNotFound s.id)) ∨
          res = .error (.overflow Clock.overflowMessage))) ∧
      s.id ∉ r.list.2.map (·.id) ∧
      ∀ op, op.dropsIdle r → s.id ∉ (r.apply op).sessions.map (·.id)) ∧
    (∀ s ∈ r.sessions, s.lastActivity ≤ r.now) ∧
    (∀ op, ∀ s' ∈ (r.apply op).sessions,
      (s'.id ∈ r.opened op ∧ s'.lastActivity = (r.apply op).now ∧
        ∀ req, op = .openSession req →
          s'.idleTimeout = (req.idleTimeout.getD engine.config.sessionIdleTimeout).nanos) ∨
      ∃ s ∈ r.sessions, s.id = s'.id ∧ s'.idleTimeout = s.idleTimeout ∧
        (s'.lastActivity = s.lastActivity ∨
          op.touches s.id ∧ s'.lastActivity = (r.apply op).now)) ∧
    (∀ s ∈ r.sessions, t - s.lastActivity < s.idleTimeout →
      s ∈ (r.advance (r.now + opCost)).prune.sessions) ∧
    (∀ op, (∀ req, op ≠ .openSession req) → op ≠ .closeAll →
      ∀ s ∈ r.sessions, op ≠ .close s.id → (r.apply op).now - s.lastActivity < s.idleTimeout →
        s.id ∈ (r.apply op).sessions.map (·.id)) ∧
    (∀ s ∈ r.sessions, t - s.lastActivity < s.idleTimeout →
      engine.config.pollInterval.nanos + Clock.timerSlack < s.idleTimeout →
      ∀ m timeout, s.id ∈ (r.read s.id m timeout).1.sessions.map (·.id)) ∧
    (∀ s ∈ r.sessions, s.idleTimeout = 0 → ∀ op, op.dropsIdle r →
      s.id ∉ (r.apply op).sessions.map (·.id)) := by
  intro r t
  obtain ⟨h, -, heng⟩ := (sound_new engine).run ops
  have heng' : r.engine = engine := heng
  have ht : r.Timely := (sound_new engine).timely_run (timely_new engine) ops
  have hnd := h.nodup_sessions
  have hgiven : ∀ s ∈ r.sessions, s.id ∈ r.ids :=
    fun s hs => List.mem_map.mpr ⟨s, List.mem_append_left _ hs, rfl⟩
  refine ⟨fun q s hs => ⟨mem_prune_iff hs, close_mem_prune_retired hs, fun hndq hidle m => ?_⟩,
    fun s hs hidle => ?_, ht, fun op => heng' ▸ h.lastActivity_apply op, fun s hs hkeep => ?_,
    fun op hopen hall s hs hclose hkeep => ?_, fun s hs hkeep htick m timeout => ?_,
    fun s hs hzero op hop => ?_⟩
  · have hgone := not_mem_prune hndq (List.Sublist.refl _) hs (Session.isIdle_iff.mpr hidle)
    exact readOnce_of_find?_none m (find?_eq_none_iff.mpr hgone)
  · have hgone := not_mem_prune (q := r.advance (r.now + opCost)) hnd (sublist_advance r _) hs
      (Session.isIdle_iff.mpr hidle)
    exact ⟨fun bytes => by rw [write_of_not_mem hgone], fun m timeout =>
      readCall_of_not_mem hgone m timeout, (not_mem_list hgone).1,
      fun op hop => h.idle_gone hop (hgiven s hs) hgone⟩
  · -- the sweeps before the prune fall no later than it
    have hs₁ : s ∈ (r.advance (r.now + opCost)).sessions :=
      (pruned_advance r _).mem hs (Session.isIdle_eq_false_iff.mpr hkeep)
    exact (mem_prune_iff hs₁).mpr hkeep
  · obtain ⟨s', hs', hf⟩ := h.keeps_apply ht op hopen hall s hs hclose
      (Session.isIdle_eq_false_iff.mpr hkeep)
    exact List.mem_map.mpr ⟨s', hs', hf.id⟩
  · exact h.read_keeps_target hs (Session.isIdle_eq_false_iff.mpr hkeep)
      (by rw [heng']; exact htick) m timeout
  · -- a window of zero is idle at every time
    have hgone := not_mem_prune (q := r.advance (r.now + opCost)) hnd (sublist_advance r _) hs
      (by simp [Session.isIdle, hzero])
    exact h.idle_gone hop (hgiven s hs) hgone

end Registry

end Confine
