import Confine.Proofs.SessionFrame

/-!
# An end of output comes after every byte kept

A look reports the end of a session's output only when it finds the child gone, the output
settled and the backlog empty, whatever the pump appended between its steps
(`Session.eof_look`). Once the pump has stopped, the looks up to the end have drained every
byte the backlog kept, in order, and every later read returns the end with nothing
(`Session.Quiet`, `Registry.quiet_run`).
-/

namespace Confine

open scoped List

namespace Backlog

/-- The bytes a backlog keeps when chunks are appended in order. -/
def keepAll (b : Backlog) : List (List UInt8) → List UInt8
  | [] => []
  | c :: cs => c.take (b.append c).1 ++ (b.append c).2.keepAll cs

/-- Appending chunks puts what they keep behind what waited. -/
theorem pending_foldl_append (b : Backlog) (cs : List (List UInt8)) :
    (cs.foldl (fun b c => (b.append c).2) b).pending = b.pending ++ b.keepAll cs := by
  induction cs generalizing b with
  | nil => simp [keepAll]
  | cons c cs ih =>
    rw [List.foldl_cons, ih, keepAll, pending_append, append_fst, ← List.append_assoc]
    congr 2
    exact List.take_eq_take_iff.mpr (by omega)

end Backlog

namespace Session

/-- The bytes the backlog keeps when the pump appends at time `now`. -/
def keptAt (s : Session) (now : Nat) : List UInt8 := s.backlog.keepAll (s.fresh now)

/-- The bytes the backlog keeps when the pump appends at a time, if it appends at all. -/
def keptOn (s : Session) : Option Nat → List UInt8
  | some t => s.keptAt t
  | none => []

/-- The bytes the backlog keeps over a look: what the pump appends as the look begins,
and where the pace says, before the drain and before the check. -/
def keptIn (s : Session) (now m : Nat) (p : Pace) : List UInt8 :=
  let s₂ := (((s.touch now).feed now).settled now).1
  s.keptAt now ++ s₂.keptOn p.beforeDrain ++
    (((s₂.feedAt p.beforeDrain).drain m).2).keptOn p.beforeCheck

/-- An append puts what it keeps behind what waited. -/
theorem pending_feed (s : Session) (t : Nat) :
    (s.feed t).backlog.pending = s.backlog.pending ++ s.keptAt t :=
  Backlog.pending_foldl_append _ _

theorem pending_feedAt (s : Session) (o : Option Nat) :
    (s.feedAt o).backlog.pending = s.backlog.pending ++ s.keptOn o := by
  cases o with
  | none => simp [feedAt, keptOn]
  | some t => exact pending_feed s t

@[simp] theorem status_feedAt (s : Session) (o : Option Nat) :
    (s.feedAt o).child.status = s.child.status := by
  cases o <;> simp [feedAt, feed]

/-- A stopped pump appends nothing. -/
theorem keptAt_of_pumpDone {s : Session} (h : s.pumpDone = true) (t : Nat) : s.keptAt t = [] := by
  simp [keptAt, fresh, h, Backlog.keepAll]

theorem keptOn_of_pumpDone {s : Session} (h : s.pumpDone = true) (o : Option Nat) :
    s.keptOn o = [] := by
  cases o <;> simp [keptOn, keptAt_of_pumpDone h]

theorem feedAt_of_pumpDone {s : Session} (h : s.pumpDone = true) (o : Option Nat) :
    (s.feedAt o).backlog = s.backlog ∧ (s.feedAt o).pumpDone = true := by
  cases o <;> simp [feedAt, feed, h]

/-- A look drains the front of the backlog, and every append of the pump during the look,
before or after the drain, lands behind what waited. -/
theorem look_bytes_append (s : Session) (now m : Nat) (p : Pace) :
    (s.look now m p).1.bytes ++ (s.look now m p).2.backlog.pending =
      s.backlog.pending ++ s.keptIn now m p := by
  have h₂ : (((s.touch now).feed now).settled now).1.backlog.pending =
      s.backlog.pending ++ s.keptAt now := by
    rw [backlog_settled]
    exact pending_feed (s.touch now) now
  simp only [look, keptIn, pending_feedAt, drain, Backlog.drain, h₂, ← List.append_assoc,
    List.take_append_drop]

/-- An output is settled only once a look at the child finds it ended. -/
theorem poll_alive_of_settled {s : Session} {now : Nat} (h : (s.settled now).2 = true) :
    (s.poll now).2 = false := by
  unfold settled at h
  revert h
  generalize s.poll now = p
  obtain ⟨s', alive⟩ := p
  cases alive <;> simp

/-- A look that reports the end of the output found the child exited, and left the
backlog empty after every append of the pump during the look. -/
theorem eof_look {s : Session} {now m : Nat} {p : Pace} (h : (s.look now m p).1.eof = true) :
    (s.look now m p).2.child.status.isSome ∧ (s.look now m p).2.backlog.pending = [] := by
  simp only [look, Bool.and_eq_true] at h
  obtain ⟨hsettled, hempty⟩ := h
  -- a settled output means the look at the child found it ended
  have halive := poll_alive_of_settled hsettled
  have hstatus := Child.status_poll ((s.touch now).feed now).child
    (((s.touch now).feed now).childTime now)
  simp only [poll] at halive
  rw [halive] at hstatus
  refine ⟨?_, List.isEmpty_iff.mp hempty⟩
  simp only [look, drain, settled_fst, poll, status_feedAt]
  simpa [Option.isSome_iff_ne_none] using hstatus

/-- An eager look ends with the drain, which clears the report of drops. -/
theorem truncated_look (s : Session) (now m : Nat) :
    (s.look now m).2.backlog.truncated = false := rfl

/-! ## Once the pump has stopped and the backlog is empty -/

/-- A session whose pump has stopped, whose child was seen exited, and whose backlog is
empty with no drop to report: everything it will ever deliver has been delivered. -/
structure Quiet (s : Session) : Prop where
  pumpDone : s.pumpDone = true
  exited : s.child.status.isSome
  empty : s.backlog.pending = []
  clear : s.backlog.truncated = false

/-- What a look sees of a quiet session: the end, and nothing else. -/
def Glance.atEnd : Glance := ⟨[], false, true, true⟩

theorem poll_of_exited {s : Session} (now : Nat) (h : s.child.status.isSome) :
    (s.poll now).2 = false ∧ (s.poll now).1.child = s.child := by
  simp [poll, Child.poll, h]

@[simp] theorem pumpDone_poll (s : Session) (now : Nat) : (s.poll now).1.pumpDone = s.pumpDone :=
  rfl

theorem Quiet.feed {s : Session} (h : s.Quiet) (now : Nat) : (s.feed now).Quiet := by
  obtain ⟨hdone, hexit, hempty, hclear⟩ := h
  refine ⟨by simp [Session.feed, hdone], ?_, ?_, ?_⟩
  · simpa [Session.feed] using hexit
  · simpa [Session.feed, hdone] using hempty
  · simpa [Session.feed, hdone] using hclear

theorem Quiet.touch {s : Session} (h : s.Quiet) (now : Nat) : (s.touch now).Quiet :=
  ⟨h.pumpDone, h.exited, h.empty, h.clear⟩

theorem Quiet.poll {s : Session} (h : s.Quiet) (now : Nat) : (s.poll now).1.Quiet := by
  obtain ⟨-, hchild⟩ := poll_of_exited now h.exited
  exact ⟨h.pumpDone, hchild ▸ h.exited, h.empty, h.clear⟩

theorem Quiet.feedAt {s : Session} (h : s.Quiet) : ∀ o, (s.feedAt o).Quiet
  | some t => h.feed t
  | none => h

theorem Quiet.drain {s : Session} (h : s.Quiet) (m : Nat) : (s.drain m).2.Quiet :=
  ⟨h.pumpDone, h.exited, by simp [Session.drain, Backlog.drain, h.empty], rfl⟩

/-- What a look sees: the front of the backlog as the pump left it before the drain, with
its report of drops, the end when the output was settled and the backlog empty at the
check, and whether the pump had stopped when the look looked at the child. -/
theorem look_fst (s : Session) (now m : Nat) (p : Pace) :
    (s.look now m p).1 =
      ⟨((((s.touch now).feed now).settled now).1.feedAt p.beforeDrain).backlog.pending.take m,
        ((((s.touch now).feed now).settled now).1.feedAt p.beforeDrain).backlog.truncated,
        (((s.touch now).feed now).settled now).2 && (s.look now m p).2.backlog.isEmpty,
        ((s.touch now).feed now).pumpDone⟩ := rfl

/-- What a look leaves: the drained session, after the pump's last append. -/
theorem look_snd_paced (s : Session) (now m : Nat) (p : Pace) :
    (s.look now m p).2 =
      (((((s.touch now).feed now).settled now).1.feedAt p.beforeDrain).drain m).2.feedAt
        p.beforeCheck := rfl

/-- A look at a quiet session sees the end with nothing, and leaves it quiet, wherever
the pump's appends fall. -/
theorem Quiet.look {s : Session} (h : s.Quiet) (now m : Nat) (p : Pace) :
    (s.look now m p).1 = Glance.atEnd ∧ (s.look now m p).2.Quiet := by
  have h₁ := (h.touch now).feed now
  obtain ⟨halive, -⟩ := poll_of_exited now h₁.exited
  have hsettled : (((s.touch now).feed now).settled now).2 = true := by
    simp [settled, halive, h₁.pumpDone]
  have h₂ := h₁.poll now
  rw [← settled_fst] at h₂
  -- the pump has stopped, so its appends during the look leave everything as it was
  have h₃ := h₂.feedAt p.beforeDrain
  have h₄ : (s.look now m p).2.Quiet := (h₃.drain m).feedAt p.beforeCheck
  refine ⟨?_, h₄⟩
  simp only [look_fst, h₃.empty, h₃.clear, hsettled, h₄.empty, h₁.pumpDone, Backlog.isEmpty,
    List.take_nil, List.isEmpty_nil, Bool.and_self, Glance.atEnd]

/-- Once the pump has stopped by the time a look looks at the child, the look keeps only
what the pump appended as it began. -/
theorem keptIn_of_finished {s : Session} {now m : Nat} {p : Pace}
    (h : (s.look now m p).1.finished = true) : s.keptIn now m p = s.keptAt now := by
  have h₂ : (((s.touch now).feed now).settled now).1.pumpDone = true := by
    rw [settled_fst]
    exact h
  have h₃ : (((((s.touch now).feed now).settled now).1.feedAt p.beforeDrain).drain m).2.pumpDone =
      true :=
    (feedAt_of_pumpDone h₂ p.beforeDrain).2
  simp only [keptIn, keptOn_of_pumpDone h₂, keptOn_of_pumpDone h₃, List.append_nil]

/-- A write leaves the session as its look at the child left it, or that with the child
the child's own write returns. -/
theorem writeTo_cases (s : Session) (now : Nat) (bytes : List UInt8) :
    s.writeTo now bytes = ((s.touch now).poll now).1 ∨
      ∃ c, ((s.touch now).poll now).1.child.write
          (((s.touch now).poll now).1.childTime now) bytes = .ok c ∧
        s.writeTo now bytes = { ((s.touch now).poll now).1 with child := c } := by
  unfold Session.writeTo
  dsimp only
  split
  · rename_i s₂ hw
    exact Or.inr (write_eq_ok hw)
  · exact Or.inl rfl

theorem Quiet.writeTo {s : Session} (h : s.Quiet) (now : Nat) (bytes : List UInt8) :
    (s.writeTo now bytes).Quiet := by
  have h₁ := (h.touch now).poll now
  rcases writeTo_cases s now bytes with hw | ⟨c, hc, hw⟩
  · exact hw ▸ h₁
  · -- writing changes only the child, whose status a write keeps
    rw [hw]
    refine ⟨h₁.pumpDone, ?_, h₁.empty, h₁.clear⟩
    unfold Child.write at hc
    split at hc
    · cases hc
    · cases hc
      simpa using h₁.exited

theorem Quiet.snapshot {s : Session} (h : s.Quiet) (now : Nat) (epoch : Int) :
    (s.snapshot now epoch).1.Quiet := by
  simpa [Session.snapshot] using h.poll now

theorem backlog_writeTo (s : Session) (now : Nat) (bytes : List UInt8) :
    (s.writeTo now bytes).backlog = s.backlog := by
  rcases writeTo_cases s now bytes with hw | ⟨c, -, hw⟩ <;> rw [hw] <;> rfl

/-! ## Interleavings of looks, writes and listings -/

/-- What the registry does to a registered session, one step at a time: a look of a
read, with the pump's appends falling into it as its pace says, a write, or the look of a
listing. -/
inductive Act where
  | look (now m : Nat) (p : Pace := .eager)
  | write (now : Nat) (bytes : List UInt8)
  | snapshot (now : Nat)

/-- One act: what a look sees, and the session after it. -/
def act (s : Session) : Act → Option Glance × Session
  | .look now m p => (some (s.look now m p).1, (s.look now m p).2)
  | .write now bytes => (none, s.writeTo now bytes)
  | .snapshot now => (none, (s.snapshot now Registry.epoch).1)

/-- The bytes the backlog keeps during an act: only a look lets the pump feed it. -/
def keptBy (s : Session) : Act → List UInt8
  | .look now m p => s.keptIn now m p
  | _ => []

/-- Acts in order: for each, what a look saw and the bytes the backlog kept, then the
session after them all. -/
def perform (s : Session) : List Act → List (Option Glance × List UInt8) × Session
  | [] => ([], s)
  | a :: as => (((s.act a).1, s.keptBy a) :: ((s.act a).2.perform as).1,
      ((s.act a).2.perform as).2)

/-- The bytes the looks of a history drained, in order. -/
def delivered (h : List (Option Glance × List UInt8)) : List UInt8 :=
  h.flatMap fun e => (e.1.map (·.bytes)).getD []

/-- The bytes the backlog kept over a history, in order. -/
def kept (h : List (Option Glance × List UInt8)) : List UInt8 := h.flatMap (·.2)

@[simp] theorem delivered_nil : delivered [] = [] := rfl

@[simp] theorem kept_nil : kept [] = [] := rfl

@[simp] theorem delivered_cons (e : Option Glance × List UInt8) (h) :
    delivered (e :: h) = (e.1.map (·.bytes)).getD [] ++ delivered h := rfl

@[simp] theorem kept_cons (e : Option Glance × List UInt8) (h) : kept (e :: h) = e.2 ++ kept h :=
  rfl

/-- One act drains from the front of the backlog what it drains, after what it keeps. -/
theorem act_bytes_append (s : Session) (a : Act) :
    ((s.act a).1.map (·.bytes)).getD [] ++ (s.act a).2.backlog.pending =
      s.backlog.pending ++ s.keptBy a := by
  cases a with
  | look now m p => exact look_bytes_append s now m p
  | write now bytes => simp [act, keptBy, backlog_writeTo]
  | snapshot now => simp [act, keptBy]

/-- **The backlog is a queue under any interleaving.** What the looks drained, followed
by what still waits, is what waited before followed by every byte kept since. -/
theorem perform_bytes_append (s : Session) (as : List Act) :
    delivered (s.perform as).1 ++ (s.perform as).2.backlog.pending =
      s.backlog.pending ++ kept (s.perform as).1 := by
  induction as generalizing s with
  | nil => simp [perform]
  | cons a as ih =>
    simp only [perform, delivered_cons, kept_cons, List.append_assoc, ih]
    rw [← List.append_assoc, act_bytes_append, List.append_assoc]

theorem Quiet.act {s : Session} (h : s.Quiet) (a : Act) :
    ((s.act a).1 = none ∨ (s.act a).1 = some Glance.atEnd) ∧ s.keptBy a = [] ∧
      (s.act a).2.Quiet := by
  cases a with
  | look now m p =>
    obtain ⟨hg, hq⟩ := h.look now m p
    have hkept : s.keptIn now m p = [] :=
      (keptIn_of_finished (by rw [hg]; rfl)).trans (keptAt_of_pumpDone h.pumpDone now)
    exact ⟨Or.inr (by simp [Session.act, hg]), hkept, hq⟩
  | write now bytes => exact ⟨Or.inl rfl, rfl, h.writeTo now bytes⟩
  | snapshot now => exact ⟨Or.inl rfl, rfl, h.snapshot now Registry.epoch⟩

/-- A quiet session keeps nothing more, and every look sees the end with nothing. -/
theorem Quiet.perform {s : Session} (h : s.Quiet) (as : List Act) :
    (∀ e ∈ (s.perform as).1, e.2 = [] ∧ ∀ g ∈ e.1, g = Glance.atEnd) ∧ (s.perform as).2.Quiet := by
  induction as generalizing s with
  | nil => exact ⟨by simp [Session.perform], h⟩
  | cons a as ih =>
    obtain ⟨hg, hk, hq⟩ := h.act a
    obtain ⟨hrest, hend⟩ := ih hq
    refine ⟨?_, hend⟩
    simp only [Session.perform, List.mem_cons, forall_eq_or_imp]
    refine ⟨⟨hk, fun g hgm => ?_⟩, hrest⟩
    rcases hg with hnone | hsome
    · simp [hnone] at hgm
    · simpa [hsome] using hgm.symm

/-- A look that reports the end after the pump stopped leaves the session quiet: the
stopped pump appends nothing after the drain, which cleared the report of drops. -/
theorem quiet_of_eof_look {s : Session} {now m : Nat} {p : Pace}
    (heof : (s.look now m p).1.eof = true) (hdone : (s.look now m p).1.finished = true) :
    (s.look now m p).2.Quiet := by
  obtain ⟨hexit, hempty⟩ := eof_look heof
  have h₂ : (((s.touch now).feed now).settled now).1.pumpDone = true := by
    rw [settled_fst]
    exact hdone
  have h₃ : (((((s.touch now).feed now).settled now).1.feedAt p.beforeDrain).drain m).2.pumpDone =
      true :=
    (feedAt_of_pumpDone h₂ p.beforeDrain).2
  have h₄ := feedAt_of_pumpDone h₃ p.beforeCheck
  have hclear : (s.look now m p).2.backlog.truncated = false := by
    rw [look_snd_paced, h₄.1]
    rfl
  exact ⟨h₄.2, hexit, hempty, hclear⟩

/-- Every look of a read keeps a quiet session quiet. -/
theorem Quiet.looked {m : Nat} {s s' : Session} (h : s.Quiet) (hl : Looked m s s') : s'.Quiet := by
  induction hl with
  | refl => exact h
  | tail _ hstep ih =>
    obtain ⟨now, rfl⟩ := hstep
    exact (ih.look now m .eager).2

end Session

/-- What a read of a quiet session answers: the end, with no bytes and no drop. -/
def ReadResult.atEnd : ReadResult := ⟨"", "", true, false⟩

namespace Registry

/-- The sessions registered under an id, if any, are quiet. -/
def QuietAt (r : Registry) (x : String) : Prop := ∀ s ∈ r.sessions, s.id = x → s.Quiet

theorem mem_replace {r : Registry} {s₀ s₁ : Session} (hs₀ : s₀ ∈ r.sessions)
    (hid : s₁.id = s₀.id) : s₁ ∈ (r.replace s₁).sessions :=
  List.mem_map.mpr ⟨s₀, hs₀, by simp [hid]⟩

/-- A look that answers found the session, put it back as it left it, and reports the
end as the look saw it. -/
theorem readOnce_eq_ok_some {r r' : Registry} {id : String} {m : Nat} {y : ReadResult}
    (h : r.readOnce id m = (r', .ok (some y))) :
    ∃ s, r.prune.find? id = some s ∧ r' = r.prune.replace (s.look r.now m).2 ∧
      y.eof = (s.look r.now m).1.eof := by
  cases hf : r.prune.find? id with
  | none => simp [readOnce, hf] at h
  | some s =>
    have hfst := readOnce_fst r id m
    have hsnd := readOnce_answer m hf
    rw [h, hf] at hfst
    rw [h] at hsnd
    refine ⟨s, rfl, hfst, ?_⟩
    dsimp only at hsnd
    split at hsnd
    · cases hsnd
      rfl
    · cases hsnd

/-- The session a read reports the end of stays registered, its child seen exited and
its backlog empty with no drop to report. -/
theorem readLoop_eof {x : String} {m tick : Nat} {deadline : Option Nat} :
    ∀ r res, readLoop x m tick deadline r = some res → ∀ y, res.2 = .ok y → y.eof = true →
      ∃ s ∈ res.1.sessions, s.id = x ∧ s.child.status.isSome ∧ s.backlog.pending = [] ∧
        s.backlog.truncated = false := by
  refine readLoop_partial_correctness x m tick deadline (fun r res => ∀ y, res.2 = .ok y →
    y.eof = true → ∃ s ∈ res.1.sessions, s.id = x ∧ s.child.status.isSome ∧
      s.backlog.pending = [] ∧ s.backlog.truncated = false) ?_
  intro loop ih r res hres y hy heof
  rw [readStep] at hres
  split at hres
  · cases hres
    cases hy
  · rename_i r' answer heq
    cases hres
    cases hy
    obtain ⟨s, hf, rfl, hend⟩ := readOnce_eq_ok_some heq
    obtain ⟨hs, hsx⟩ := find?_spec hf
    obtain ⟨hexit, hempty⟩ := Session.eof_look (hend ▸ heof)
    exact ⟨_, mem_replace hs (Session.id_look s r.now m), by simp [hsx], hexit, hempty,
      Session.truncated_look s r.now m⟩
  · split at hres
    · cases hres
      cases hy
      simp [ReadResult.nothing] at heof
    · exact ih _ _ hres y hy heof

/-- A read that returns either refused its deadline right after the sweeps up to its
start, or is the run of its looks from there, one poll interval apart. -/
theorem readCall_eq_some {r q : Registry} {x : String} {m : Nat} {timeout : Option Duration}
    {res : Except Fault ReadResult} (h : r.readCall x m timeout = some (q, res)) :
    (q = r.advance (r.now + opCost) ∧ res = .error (.overflow Clock.overflowMessage)) ∨
      ∃ deadline res', readLoop x (max m 1) (r.engine.config.pollInterval.nanos + Clock.timerSlack)
          deadline (r.advance (r.now + opCost)) = some (q, res') ∧
        res = res'.mapError Fault.error := by
  unfold readCall at h
  dsimp only at h
  split at h
  · cases h
    exact Or.inl ⟨rfl, rfl⟩
  · obtain ⟨⟨q', res'⟩, hloop, hmap⟩ := Option.map_eq_some_iff.mp h
    cases hmap
    rw [(leads_advance r _).engine] at hloop
    exact Or.inr ⟨_, res', hloop, rfl⟩

theorem readCall_eof {r r' : Registry} {x : String} {m : Nat} {timeout : Option Duration}
    {y : ReadResult} (h : r.readCall x m timeout = some (r', .ok y)) (heof : y.eof = true) :
    ∃ s ∈ r'.sessions, s.id = x ∧ s.child.status.isSome ∧ s.backlog.pending = [] ∧
      s.backlog.truncated = false := by
  rcases readCall_eq_some h with ⟨-, hres⟩ | ⟨deadline, res, hloop, hres⟩
  · cases hres
  · cases res with
    | error e => cases hres
    | ok z =>
      cases hres
      exact readLoop_eof _ _ hloop _ rfl heof

theorem quiet_carries {op : Op} {t : Nat} {s s' : Session} (h : s.Quiet)
    (hc : op.carries t s s') : s'.Quiet := by
  cases op
  case write x bytes =>
    simp only [Op.carries] at hc
    split at hc
    · exact hc ▸ h.writeTo t bytes
    · exact hc ▸ h
  case read x m timeout =>
    rcases hc with rfl | hl
    · exact h
    · unfold Looks at hl
      split at hl
      · exact h.looked hl.1
      · exact hl ▸ h
  case list => exact (show s' = _ from hc) ▸ h.snapshot t epoch
  all_goals exact (show s' = s from hc) ▸ h

/-- The id of a registered or retired session is never given out again. -/
theorem Sound.opened_fresh {r : Registry} (h : r.Sound) (op : Op) {x : String}
    (hx : x ∈ r.ids) : x ∉ r.opened op := by
  intro hop
  obtain ⟨h', hids, -, -⟩ := h.apply op
  exact List.disjoint_of_nodup_append (hids.nodup_iff.mp h'.nodup) hx hop

theorem Sound.quietAt_apply {r : Registry} (h : r.Sound) {x : String} (hx : x ∈ r.ids)
    (hq : r.QuietAt x) (op : Op) : (r.apply op).QuietAt x := by
  intro s' hs' hid
  rcases h.carries op s' hs' with hnew | ⟨s, hs, hsid, hc⟩
  · exact absurd (hid ▸ hnew) (h.opened_fresh op hx)
  · exact quiet_carries (hq s hs (hsid.trans hid)) hc

/-- **A quiet session stays quiet.** Whatever operations follow, a session registered
under an id given out before is quiet if the sessions under it were. -/
theorem Sound.quiet_run {r : Registry} (h : r.Sound) {x : String} (hx : x ∈ r.ids)
    (hq : r.QuietAt x) (ops : List Op) : (r.run ops).QuietAt x := by
  induction ops generalizing r with
  | nil => exact hq
  | cons op ops ih =>
    obtain ⟨h', hids, -, -⟩ := h.apply op
    exact ih h' (hids.mem_iff.mpr (List.mem_append_left _ hx)) (h.quietAt_apply hx hq op)

/-- A look at a quiet id finds nothing, or answers the end. -/
theorem readOnce_quiet {r : Registry} {x : String} (hq : r.QuietAt x) (m : Nat) :
    (r.readOnce x m).2 = .error (.sessionNotFound x) ∨
      (r.readOnce x m).2 = .ok (some ReadResult.atEnd) := by
  cases hf : r.prune.find? x with
  | none =>
    left
    simp [readOnce, hf]
  | some s =>
    right
    obtain ⟨hs, hsx⟩ := find?_spec hf
    obtain ⟨hg, -⟩ := (hq s ((sublist_prune r).subset hs) hsx).look r.now m .eager
    rw [readOnce_answer m hf]
    simp [hg, Session.Glance.atEnd, ReadResult.atEnd, Text.Utf8.decodeLossy_eq_empty_iff]

/-- A read of a quiet id returns at once: the end with nothing, or that the session is
gone, or that its deadline is out of the clock's range. -/
theorem readCall_quiet {r : Registry} {x : String} (hq : r.QuietAt x) (m : Nat)
    (timeout : Option Duration) :
    ∃ r' res, r.readCall x m timeout = some (r', res) ∧
      (res = .ok ReadResult.atEnd ∨ res = .error (.error (.sessionNotFound x)) ∨
        res = .error (.overflow Clock.overflowMessage)) := by
  unfold readCall
  dsimp only
  split
  · exact ⟨_, _, rfl, Or.inr (Or.inr rfl)⟩
  · have hq₁ : (r.advance (r.now + opCost)).QuietAt x :=
      fun s hs => hq s ((sublist_advance r _).subset hs)
    rw [readLoop, readStep]
    have hro := readOnce_quiet hq₁ (max m 1)
    generalize (r.advance (r.now + opCost)).readOnce x (max m 1) = p at hro ⊢
    obtain ⟨r₂, a⟩ := p
    dsimp only at hro
    rcases hro with rfl | rfl
    · exact ⟨_, _, rfl, Or.inr (Or.inl rfl)⟩
    · exact ⟨_, _, rfl, Or.inl rfl⟩

/-- **An end of output comes after every byte kept.** For a session started with an empty
backlog, any interleaving of looks, writes and listings before one of its looks, and any
pace at which the pump appends between that look's steps: when the look reports the end, it saw the child exited and left the backlog empty; and
when the pump had stopped by then, the looks up to it drained exactly the bytes the
backlog kept, in order, while every later act keeps nothing and every later look sees
the end with nothing.

In the registry: after any run, a read that reports the end leaves the session
registered, its child seen exited and its backlog empty; and if its pump had stopped,
every later read of it, after any further run, returns at once with the end and no
bytes or drop, unless the session is gone or the deadline is out of range. -/
theorem end_of_output_follows_output :
    (∀ (id : String) (spec : LaunchSpec) (child : Child) (opened idle budget : Nat)
        (pre : List Session.Act) (now m : Nat) (p : Session.Pace) (post : List Session.Act),
      let h := (Session.start id spec child opened idle budget).perform pre
      let g := (h.2.look now m p).1
      let s := (h.2.look now m p).2
      g.eof = true →
        s.child.status.isSome ∧ s.backlog.pending = [] ∧
        (g.finished = true →
          Session.delivered h.1 ++ g.bytes = Session.kept h.1 ++ h.2.keptAt now ∧
          ∀ e ∈ (s.perform post).1, e.2 = [] ∧ ∀ g' ∈ e.1, g' = Session.Glance.atEnd)) ∧
    (∀ (engine : Engine) (ops : List Op) (x : String) (m : Nat) (timeout : Option Duration)
        (r' : Registry) (y : ReadResult),
      ((new engine).run ops).readCall x m timeout = some (r', .ok y) → y.eof = true →
      ∃ s ∈ r'.sessions, s.id = x ∧ s.child.status.isSome ∧ s.backlog.pending = [] ∧
        (s.pumpDone = true → ∀ (ops' : List Op) (m' : Nat) (timeout' : Option Duration),
          ∃ r'' res, (r'.run ops').readCall x m' timeout' = some (r'', res) ∧
            (res = .ok ReadResult.atEnd ∨ res = .error (.error (.sessionNotFound x)) ∨
              res = .error (.overflow Clock.overflowMessage)))) := by
  refine ⟨fun id spec child opened idle budget pre now m p post => ?_,
    fun engine ops x m timeout r' y hcall heof => ?_⟩
  · intro h g s heof
    obtain ⟨hexit, hempty⟩ := Session.eof_look heof
    refine ⟨hexit, hempty, fun hdone => ⟨?_, ((Session.quiet_of_eof_look heof hdone).perform post).1⟩⟩
    -- the queue law up to the look, from a backlog that starts empty
    have hqueue := Session.perform_bytes_append (Session.start id spec child opened idle budget) pre
    have hlook := Session.look_bytes_append h.2 now m p
    rw [hempty, List.append_nil, Session.keptIn_of_finished hdone] at hlook
    calc Session.delivered h.1 ++ g.bytes
        = Session.delivered h.1 ++ h.2.backlog.pending ++ h.2.keptAt now := by
          rw [hlook, List.append_assoc]
      _ = Session.kept h.1 ++ h.2.keptAt now := by
          rw [hqueue]
          rfl
  · -- the registry after the read is the one the run with the read reaches
    have hr' : (new engine).run (ops ++ [.read x m timeout]) = r' := by
      rw [run, List.foldl_append]
      show ((new engine).run ops).apply (.read x m timeout) = r'
      simp only [Registry.apply, read, hcall, Option.getD_some]
    obtain ⟨hsound, -, -⟩ := (sound_new engine).run (ops ++ [.read x m timeout])
    rw [hr'] at hsound
    obtain ⟨s, hs, hsx, hexit, hempty, hclear⟩ := readCall_eof hcall heof
    refine ⟨s, hs, hsx, hexit, hempty, fun hdone ops' m' timeout' => ?_⟩
    have hx : x ∈ r'.ids := hsx ▸ List.mem_map_of_mem (List.mem_append_left _ hs)
    -- with distinct ids, the session found is the only one under its id
    have hq : r'.QuietAt x := fun s' hs' hs'x =>
      (List.inj_on_of_nodup_map hsound.nodup_sessions hs' hs (hs'x.trans hsx.symm)) ▸
        ⟨hdone, hexit, hempty, hclear⟩
    exact readCall_quiet (hsound.quiet_run hx hq ops') m' timeout'

end Registry

end Confine
