import Mathlib
import Confine.Proofs.WaitOutcome
import Confine.Proofs.SessionLife

/-!
# Escalating a child that did not end

An escalation sends SIGTERM to the child's group, looks once a tick until the grace period
is over, and kills the group when no look found the leader reaped and the group gone.
`Clock.StopsAt` says where such a polling loop leaves, `EscalationEnds` how an escalation
ends look by look, and `escalation_kills_lingering_group` reads off the signals, with those
of the guard a call holds until it has settled its child.
-/

namespace Confine

open Confine.Host

namespace Child

/-- A signal is recorded, with the time it arrives, exactly when the group is there. -/
theorem signals_signal (c : Child) (t sig : Nat) :
    (c.signal t sig).1.signals = c.signals ++ if c.groupAlive t then [(max t 1, sig)] else [] := by
  unfold signal
  split <;> simp_all

/-- The answer of a signal says whether the group was there to receive it. -/
@[simp] theorem signal_snd (c : Child) (t sig : Nat) : (c.signal t sig).2 = c.groupAlive t := by
  unfold signal
  split <;> simp_all

@[simp] theorem status_signal (c : Child) (t sig : Nat) :
    (c.signal t sig).1.status = c.status := by
  unfold signal
  split <;> simp

@[simp] theorem status_terminate (c : Child) (t : Nat) : (c.terminate t).status = c.status :=
  status_signal c t Signal.term

theorem signals_terminate (c : Child) (t : Nat) :
    (c.terminate t).signals = c.signals ++ if c.groupAlive t then [(max t 1, Signal.term)] else [] :=
  signals_signal c t Signal.term

/-- The handle as a look at a time leaves it. -/
def looked (c : Child) (t : Nat) : Child := (c.poll t).1

@[simp] theorem signals_looked (c : Child) (t : Nat) : (c.looked t).signals = c.signals :=
  signals_poll c t

theorem upTo_of_le {c : Child} {t : Nat} (h : t ≤ c.horizon) : c.upTo t = c := by
  simp [upTo, h]

/-- Asking about a time extends the trace at least to it. -/
theorem le_horizon_upTo (c : Child) (t : Nat) : t ≤ (c.upTo t).horizon := by
  unfold upTo
  split
  · assumption
  · exact Nat.le_add_right t window

/-- What a look of an escalation finds at a time, as far as the trace reaches: the leader
ended, so that the look reaps it, and no process of its group left. -/
def goneBy (c : Child) (t : Nat) : Bool :=
  c.endedBy t && c.trace.groupEnd.any (· ≤ t)

/-- For a leader not yet reaped, at a time the trace reaches, `goneBy` is what the look
sees: it reaps an ended leader, then finds no process of the group left. -/
theorem goneBy_eq_look {c : Child} {t : Nat} (hs : c.status = none) (ht : t ≤ c.horizon) :
    c.goneBy t = (!(c.poll t).2 && !(c.poll t).1.groupAlive t) := by
  unfold goneBy endedBy leaderEnd poll
  simp only [hs, Option.isSome_none, Bool.false_eq_true, if_false, upTo_of_le ht]
  rcases hl : c.trace.leader with _ | ⟨x, st⟩
  · simp
  · by_cases hx : x ≤ t
    · cases hg : c.trace.groupEnd with
      | none => simp [hx, hg, groupAlive, upTo, ht]
      | some g =>
        rcases Nat.lt_or_ge t g with hgt | hgt
        · simp [hx, hg, groupAlive, upTo, ht, hgt, Nat.not_le.mpr hgt]
        · simp [hx, hg, groupAlive, upTo, ht, hgt, Nat.not_lt.mpr hgt]
    · simp [hx]

end Child

namespace Clock

/-- A polling loop that looks once a tick from its start, and leaves at the first look that
finds what it waits for or finds `limit` passed since its start, leaves at look `j`. -/
def StopsAt (done : Nat → Bool) (tick limit j : Nat) : Prop :=
  (done j = true ∨ limit ≤ j * tick) ∧ ∀ i < j, done i = false ∧ i * tick < limit

variable {done : Nat → Bool} {tick limit j : Nat}

/-- Every look before the first one past a limit comes before it. -/
theorem mul_lt_of_lt_ticksTo (htick : 0 < tick) {i : Nat} (hi : i < ticksTo limit tick) :
    i * tick < limit := by
  by_contra hge
  have := (ticksTo_le_iff htick).mpr (Nat.le_of_not_lt hge)
  omega

/-- A loop leaves no later than the first look past its limit. -/
theorem StopsAt.le_ticksTo (h : StopsAt done tick limit j) (htick : 0 < tick) :
    j ≤ ticksTo limit tick := by
  by_contra hlt
  have hbefore := (h.2 _ (Nat.lt_of_not_le hlt)).2
  have hpast := ticksTo_spec limit tick htick
  omega

/-- A loop that leaves without finding what it waits for leaves at the first look past its
limit. -/
theorem StopsAt.eq_ticksTo (h : StopsAt done tick limit j) (htick : 0 < tick)
    (hj : done j = false) : j = ticksTo limit tick := by
  have hpast : limit ≤ j * tick := by
    rcases h.1 with hd | hle
    · rw [hj] at hd
      cases hd
    · exact hle
  exact Nat.le_antisymm (h.le_ticksTo htick) ((ticksTo_le_iff htick).mpr hpast)

/-- Where a loop leaves when what it waits for holds from look `e` on, if ever: at `e`, or at
the first look past its limit when that comes first. -/
theorem stopsAt_first (htick : 0 < tick) (E : Option Nat) (hdone : ∀ i, done i = E.any (· ≤ i)) :
    StopsAt done tick limit ((E.map (min (ticksTo limit tick))).getD (ticksTo limit tick)) := by
  cases E with
  | none =>
    refine ⟨Or.inr (ticksTo_spec limit tick htick), fun i hi => ⟨?_, ?_⟩⟩
    · simp [hdone]
    · exact mul_lt_of_lt_ticksTo htick hi
  | some e =>
    simp only [Option.map_some, Option.getD_some]
    refine ⟨?_, fun i hi => ⟨?_, mul_lt_of_lt_ticksTo htick (by omega)⟩⟩
    · rcases le_total e (ticksTo limit tick) with h | h
      · left
        simp [hdone, min_eq_right h]
      · right
        rw [min_eq_left h]
        exact ticksTo_spec limit tick htick
    · simp only [hdone, Option.any_some, decide_eq_false_iff_not, Nat.not_le]
      omega

end Clock

namespace Engine

/-- Every look of the grace loop falls within the trace the escalation computed, so for a
leader not yet reaped, `goneBy` is what the look itself finds. -/
theorem goneBy_eq_look_of_le (c : Child) {tick : Nat} (htick : 0 < tick) (start grace : Nat)
    (hs : c.status = none) {i : Nat} (hi : i ≤ Clock.ticksTo grace tick) :
    let seen := (c.terminate start).upTo (start + grace + tick)
    let t := start + i * tick
    seen.goneBy t = (!(seen.poll t).2 && !(seen.poll t).1.groupAlive t) := by
  dsimp only
  have hlast : i * tick < grace + tick :=
    Nat.lt_of_le_of_lt (Nat.mul_le_mul_right tick hi) (Clock.ticksTo_mul_lt htick)
  have ht : start + i * tick ≤ ((c.terminate start).upTo (start + grace + tick)).horizon :=
    Nat.le_trans (by omega) (Child.le_horizon_upTo _ _)
  exact Child.goneBy_eq_look (by simp [hs]) ht

/-- The looks of an escalation from `start` see the group gone from look `goneLook` on. -/
theorem goneBy_eq_any (c : Child) {tick : Nat} (htick : 0 < tick) (start i : Nat) :
    c.goneBy (start + i * tick) = (goneLook c start tick).any (· ≤ i) := by
  unfold Child.goneBy Child.endedBy goneLook
  cases hl : c.leaderEnd with
  | none => simp
  | some x =>
    cases hg : c.trace.groupEnd with
    | none => simp
    | some g =>
      simp only [Option.any_some, Clock.ticksTo_le_iff htick, ← Bool.decide_and,
        decide_eq_decide]
      omega

/-- Looks one tick apart from `start` see the leader ended from look `ticksTo (x - start)` on,
for a leader that ended at `x`. -/
theorem endedBy_eq_any_after (c : Child) {tick : Nat} (htick : 0 < tick) (start i : Nat) :
    c.endedBy (start + i * tick) =
      (c.leaderEnd.map fun x => Clock.ticksTo (x - min start x) tick).any (· ≤ i) := by
  unfold Child.endedBy
  cases c.leaderEnd with
  | none => rfl
  | some x =>
    simp only [Option.map_some, Option.any_some, decide_eq_decide, Clock.ticksTo_le_iff htick]
    omega

/-- The handle once a kill is sent at `killAt`: after the look that reaps an ended leader,
the kill, with the trace computed over the wait for the leader. -/
def afterKill (c : Child) (killAt tick : Nat) : Child :=
  ((c.poll killAt).1.signal killAt Signal.kill).1.upTo (killAt + Clock.confirmLimit + tick)

/-- The killed handle has been sent what the child had, and the kill when the group was
there after the look at the kill's time. -/
theorem signals_afterKill (c : Child) (killAt tick : Nat) :
    (afterKill c killAt tick).signals = c.signals ++
      if (c.poll killAt).1.groupAlive killAt then [(max killAt 1, Signal.kill)] else [] :=
  calc (afterKill c killAt tick).signals
      = ((c.poll killAt).1.signal killAt Signal.kill).1.signals :=
        Child.signals_upTo _ (killAt + Clock.confirmLimit + tick)
    _ = (c.poll killAt).1.signals ++
          if (c.poll killAt).1.groupAlive killAt then [(max killAt 1, Signal.kill)] else [] :=
        Child.signals_signal _ killAt Signal.kill
    _ = _ := congrArg (· ++ _) (Child.signals_poll c killAt)

/-- The kill and the wait for the leader: the kill's answer is whether the group was there
after the look at the kill's time, and the wait leaves at the first look that sees the
leader ended, or at the first look past the confirmation limit. -/
theorem killAndConfirm_stops (c : Child) (killAt : Nat) {tick : Nat} (htick : 0 < tick) :
    ∃ m, Clock.StopsAt (fun i => (afterKill c killAt tick).endedBy (killAt + i * tick)) tick
        Clock.confirmLimit m ∧
      killAndConfirm c killAt tick =
        ((afterKill c killAt tick).looked (killAt + m * tick), killAt + m * tick,
          (c.poll killAt).1.groupAlive killAt) := by
  refine ⟨_, Clock.stopsAt_first htick _
    (endedBy_eq_any_after (afterKill c killAt tick) htick killAt), ?_⟩
  rw [← Child.signal_snd _ killAt Signal.kill, killAndConfirm, afterKill]
  generalize (c.poll killAt).1 = c₁
  dsimp -iota -proj only
  generalize c₁.signal killAt Signal.kill = p
  obtain ⟨k, killed⟩ := p
  dsimp -proj only
  dsimp -iota only
  generalize k.upTo (killAt + Clock.confirmLimit + tick) = k
  split
  · rename_i x hx
    simp only [hx, Option.map_some, Option.getD_some]
    rw [Child.looked]
  · rename_i hx
    simp only [hx, Option.map_none, Option.getD_none]
    rw [Child.looked]

/-- How an escalation from `start` ends on the child `seen` as its SIGTERM left it, with its
looks one tick apart: the loop over the grace period leaves at look `j`, and when a kill was
sent the wait for the leader leaves at look `m` after it. -/
inductive EscalationEnds (seen : Child) (start tick grace : Nat) :
    Nat → Option Nat → Child × Nat × Bool → Prop
  /-- Look `j` finds the leader reaped and the group gone, and nothing more is sent. -/
  | gone (j : Nat) :
      Clock.StopsAt (fun i => seen.goneBy (start + i * tick)) tick grace j →
      seen.goneBy (start + j * tick) = true →
      EscalationEnds seen start tick grace j none
        ((seen.poll (start + j * tick)).1, start + j * tick, false)
  /-- Look `j`, the first past the grace period, still finds the group: SIGKILL is sent, and
  the answer says whether the group was there to receive it. -/
  | killed (j m : Nat) :
      Clock.StopsAt (fun i => seen.goneBy (start + i * tick)) tick grace j →
      seen.goneBy (start + j * tick) = false →
      Clock.StopsAt (fun i => (afterKill seen (start + j * tick) tick).endedBy
        (start + j * tick + i * tick)) tick Clock.confirmLimit m →
      EscalationEnds seen start tick grace j (some m)
        ((afterKill seen (start + j * tick) tick).looked (start + j * tick + m * tick),
          start + j * tick + m * tick,
          (seen.poll (start + j * tick)).1.groupAlive (start + j * tick))

/-- The closed form is an escalation, look by look. -/
theorem escalate_ends (c : Child) {tick : Nat} (htick : 0 < tick) (start grace : Nat) :
    ∃ j m, EscalationEnds ((c.terminate start).upTo (start + grace + tick)) start tick grace j m
      (escalate c start tick grace) := by
  unfold escalate
  generalize c.terminate start = c₀
  dsimp -iota -proj only
  generalize c₀.upTo (start + grace + tick) = seen
  have hdone := goneBy_eq_any seen htick start
  have hstop := @Clock.stopsAt_first _ _ grace htick _ hdone
  -- a kill is sent at the first look past the grace period, which found the group there
  have hkill : seen.goneBy (start + Clock.ticksTo grace tick * tick) = false →
      Clock.StopsAt (fun i => seen.goneBy (start + i * tick)) tick grace
        (Clock.ticksTo grace tick) →
      ∃ j m, EscalationEnds seen start tick grace j m
        (killAndConfirm seen (start + Clock.ticksTo grace tick * tick) tick) := by
    intro hlast hstop'
    obtain ⟨m, hm, heq⟩ := killAndConfirm_stops seen (start + Clock.ticksTo grace tick * tick) htick
    rw [heq]
    exact ⟨_, _, .killed _ m hstop' hlast hm⟩
  split
  · rename_i k hk
    rw [hk] at hdone hstop
    simp only [Option.map_some, Option.getD_some] at hstop
    split
    · rename_i hle
      rw [min_eq_right hle] at hstop
      exact ⟨_, _, .gone k hstop (by simp [hdone])⟩
    · rename_i hgt
      rw [min_eq_left (Nat.le_of_not_le hgt)] at hstop
      exact hkill (by simpa [hdone] using hgt) hstop
  · rename_i hk
    rw [hk] at hdone hstop
    exact hkill (by simp [hdone]) hstop

namespace EscalationEnds

variable {seen : Child} {start tick grace j : Nat} {m : Option Nat} {esc : Child × Nat × Bool}

/-- The loop over the grace period leaves no later than the first look past it. -/
theorem le_ticksTo (h : EscalationEnds seen start tick grace j m esc) (htick : 0 < tick) :
    j ≤ Clock.ticksTo grace tick := by
  cases h with
  | gone hstop _ => exact hstop.le_ticksTo htick
  | killed _ hstop _ _ => exact hstop.le_ticksTo htick

/-- A kill is sent exactly when every look up to the first one past the grace period found
the group still there. -/
theorem isSome_iff (h : EscalationEnds seen start tick grace j m esc) (htick : 0 < tick) :
    m.isSome ↔ ∀ i ≤ Clock.ticksTo grace tick, seen.goneBy (start + i * tick) = false := by
  cases h with
  | gone hstop hgone =>
    simp only [Option.isSome_none, Bool.false_eq_true, false_iff, not_forall]
    exact ⟨j, hstop.le_ticksTo htick, by simp [hgone]⟩
  | killed m hstop hlast _ =>
    have hj := hstop.eq_ticksTo htick hlast
    simp only [Option.isSome_some, true_iff]
    intro i hi
    rcases Nat.lt_or_eq_of_le hi with hi | rfl
    · exact (hstop.2 i (hj ▸ hi)).1
    · exact hj ▸ hlast

/-- The answer is whether a kill was sent, at the first look past the grace period, and
found the group there. -/
theorem killed_iff (h : EscalationEnds seen start tick grace j m esc) (htick : 0 < tick) :
    esc.2.2 = true ↔ m.isSome ∧
      (seen.poll (start + Clock.ticksTo grace tick * tick)).1.groupAlive
        (start + Clock.ticksTo grace tick * tick) = true := by
  cases h with
  | gone => simp
  | killed m hstop hlast _ =>
    rw [← hstop.eq_ticksTo htick hlast]
    simp

/-- An escalation sends the group nothing beyond the signals `seen` has, but the kill, at
the first look past the grace period, when it reached the group. -/
theorem signals_eq (h : EscalationEnds seen start tick grace j m esc) (htick : 0 < tick) :
    esc.1.signals = seen.signals ++
      if esc.2.2 then [(max (start + Clock.ticksTo grace tick * tick) 1, Signal.kill)] else [] := by
  cases h with
  | gone => simp
  | killed m hstop hlast _ =>
    rw [← hstop.eq_ticksTo htick hlast]
    rw [Child.signals_looked, signals_afterKill]

/-- An escalation ends no earlier than it starts. -/
theorem start_le (h : EscalationEnds seen start tick grace j m esc) : start ≤ esc.2.1 := by
  cases h <;> dsimp only <;> omega

end EscalationEnds

/-- Looks are at least a nanosecond apart, whatever the configured poll interval. -/
theorem tick_pos (e : Engine) : 0 < e.tick :=
  Nat.lt_of_lt_of_le e.config.pollInterval_pos (Nat.le_add_right _ _)

/-- A call settles its child no earlier than its wait ended. -/
theorem le_settle (e : Engine) (c : Child) (ending : Ending) (endedAt : Nat) :
    endedAt ≤ (e.settle c ending endedAt).2.1 := by
  unfold settle
  split
  · exact Nat.le_refl endedAt
  · obtain ⟨j, m, hends⟩ := escalate_ends c e.tick_pos endedAt e.config.killGrace.nanos
    exact hends.start_le

namespace Guard

/-- Dropping an armed guard sends SIGTERM at once and SIGKILL a grace period later, each
when the group is there to receive it; dropping a disarmed one sends nothing. -/
theorem signals_drop (g : Guard) (c : Child) (t : Nat) :
    (g.drop c t).signals = c.signals ++
      if g.armed then
        (if c.groupAlive t then [(max t 1, Signal.term)] else []) ++
          (if (c.terminate t).groupAlive (t + g.grace) then
            [(max (t + g.grace) 1, Signal.kill)] else [])
      else [] := by
  unfold drop
  split
  · rw [Child.forceKill, Child.signals_signal, Child.signals_terminate, List.append_assoc]
  · rw [List.append_nil]

end Guard

/-- A call given up before it has settled its child drops an armed guard on the handle it
held then: the launched child during the wait, the escalation's handle after it. A call
given up later drops a disarmed guard and leaves the settled child as it was. -/
theorem signals_abandon (e : Engine) (c : Child) (deadline cancel : Option Nat) (a : Nat) :
    let w := waitFor c e.tick deadline cancel waitHorizon
    let settled := e.settle w.1 w.2.1 w.2.2
    let held := if a < w.2.2 then c else escalationAt w.1 w.2.2 e.tick e.config.killGrace.nanos a
    (e.abandon c deadline cancel a).signals =
      if a < settled.2.1 then
        held.signals ++ (if held.groupAlive a then [(max a 1, Signal.term)] else []) ++
          (if (held.terminate a).groupAlive (a + e.config.killGrace.nanos) then
            [(max (a + e.config.killGrace.nanos) 1, Signal.kill)] else [])
      else settled.1.signals := by
  dsimp -proj only
  unfold abandon
  dsimp -proj only
  generalize waitFor c e.tick deadline cancel waitHorizon = w
  generalize e.settle w.1 w.2.1 w.2.2 = settled
  split
  · rw [Guard.signals_drop, List.append_assoc]
    rfl
  · rfl

/-- An escalation asks the group to end, and sends SIGKILL exactly when no look up to the
first one past the grace period found the leader reaped and the group gone: a leader that
ended alone does not end the escalation, and a group gone within the grace period is not
killed. The kill comes once the grace period is over, and the answer says whether it
reached the group. The guard a call keeps is armed from the launch until the call has
settled the child, over the wait and the escalation: dropped while armed, it sends SIGTERM
and, a grace period later, SIGKILL; once disarmed, it sends nothing. -/
theorem escalation_kills_lingering_group (e : Engine) (c : Child) (start : Nat) :
    let grace := e.config.killGrace.nanos
    let seen := (c.terminate start).upTo (start + grace + e.tick)
    let killAt := start + Clock.ticksTo grace e.tick * e.tick
    let esc := escalate c start e.tick grace
    (∃ j m, EscalationEnds seen start e.tick grace j m esc ∧
        (m.isSome ↔ ∀ i ≤ Clock.ticksTo grace e.tick, seen.goneBy (start + i * e.tick) = false)) ∧
      (c.status = none → ∀ i ≤ Clock.ticksTo grace e.tick,
        seen.goneBy (start + i * e.tick) =
          (!(seen.poll (start + i * e.tick)).2 &&
            !(seen.poll (start + i * e.tick)).1.groupAlive (start + i * e.tick))) ∧
      esc.1.signals = c.signals ++ (if c.groupAlive start then [(max start 1, Signal.term)] else []) ++
        (if esc.2.2 then [(max killAt 1, Signal.kill)] else []) ∧
      (esc.2.2 = true ↔
        (∀ i ≤ Clock.ticksTo grace e.tick, seen.goneBy (start + i * e.tick) = false) ∧
          (seen.poll killAt).1.groupAlive killAt = true) ∧
      start + grace ≤ killAt ∧
      (∀ (deadline cancel : Option Nat) (a : Nat),
        let w := waitFor c e.tick deadline cancel waitHorizon
        let settled := e.settle w.1 w.2.1 w.2.2
        let held := if a < w.2.2 then c else escalationAt w.1 w.2.2 e.tick grace a
        w.2.2 ≤ settled.2.1 ∧
          (e.abandon c deadline cancel a).signals =
            if a < settled.2.1 then
              held.signals ++ (if held.groupAlive a then [(max a 1, Signal.term)] else []) ++
                (if (held.terminate a).groupAlive (a + grace) then
                  [(max (a + grace) 1, Signal.kill)] else [])
            else settled.1.signals) ∧
      ∀ (held : Child) (a : Nat),
        ((Guard.new grace).drop held a).signals = held.signals ++
            (if held.groupAlive a then [(max a 1, Signal.term)] else []) ++
            (if (held.terminate a).groupAlive (a + grace) then
              [(max (a + grace) 1, Signal.kill)] else []) ∧
          (Guard.new grace).disarm.drop held a = held := by
  dsimp only
  have htick := e.tick_pos
  obtain ⟨j, m, hends⟩ := escalate_ends c htick start e.config.killGrace.nanos
  refine ⟨⟨j, m, hends, hends.isSome_iff htick⟩,
    fun hs i hi => goneBy_eq_look_of_le c htick start _ hs hi, ?_,
    (hends.killed_iff htick).trans (and_congr_left' (hends.isSome_iff htick)),
    Nat.add_le_add_left (Clock.ticksTo_spec _ _ htick) start,
    fun deadline cancel a => ⟨e.le_settle _ _ _, signals_abandon e c deadline cancel a⟩,
    fun held a => ⟨by rw [Guard.signals_drop, List.append_assoc]; rfl, rfl⟩⟩
  -- the kill comes after what the SIGTERM left, and the SIGTERM after what the child had
  calc (escalate c start e.tick e.config.killGrace.nanos).1.signals
      = ((c.terminate start).upTo (start + e.config.killGrace.nanos + e.tick)).signals ++ _ :=
        hends.signals_eq htick
    _ = (c.terminate start).signals ++ _ := congrArg (· ++ _) (Child.signals_upTo _ _)
    _ = _ := by rw [Child.signals_terminate, List.append_assoc]


end Engine

end Confine
