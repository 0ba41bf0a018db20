import Confine.Proofs.Escalation
import Confine.Proofs.IdleEviction

/-!
# Every polling loop ends

The engine and the registry wait by looking once a poll interval, and each sleep moves the
clock on by at least that interval, never less than a millisecond. An escalation's two loops
leave within a number of looks fixed by the grace period and the confirmation limit, a call's
wait at its first deciding look, and a read at its first look that fails, answers, or sees
the deadline pass; once the registry has seen a session's child exited, such a look comes
by the end of the settle window. `polling_loops_end` gathers the bounds.
-/

namespace Confine

namespace Session

/-- The registry has seen the session's child exited, first at `x`: the leader is reaped. -/
def ExitedAt (s : Session) (x : Nat) : Prop := s.child.status.isSome = true ∧ s.exitedAt = some x

namespace ExitedAt

variable {s : Session} {x : Nat}

theorem touch (h : s.ExitedAt x) (now : Nat) : (s.touch now).ExitedAt x := h

theorem feed (h : s.ExitedAt x) (now : Nat) : (s.feed now).ExitedAt x := by
  refine ⟨?_, h.2⟩
  simpa [Session.feed] using h.1

theorem poll (h : s.ExitedAt x) (now : Nat) : (s.poll now).1.ExitedAt x := by
  obtain ⟨hstatus, hat⟩ := h
  simp [ExitedAt, Session.poll, Child.poll, hstatus, hat]

theorem look (h : s.ExitedAt x) (now m : Nat) : (s.look now m).2.ExitedAt x := by
  rw [look_snd, settled_fst]
  exact ((h.touch now).feed now).poll now

/-- The output of a session whose child exited is settled once the settle window after the
exit has passed. -/
theorem settled (h : s.ExitedAt x) {now : Nat} (hnow : x + settleDelay ≤ now) :
    (s.settled now).2 = true := by
  obtain ⟨hstatus, hat⟩ := h
  simp [Session.settled, Session.poll, Child.poll, hstatus, hat, hnow]

end ExitedAt

end Session

namespace Registry

variable {L : Registry} {id : String} {M : Nat}

/-- A look at a session whose child exited answers once the settle window has passed: with
the bytes waiting, or with the end of the output. -/
theorem look_answers_of_exitedAt (hM : 0 < M) {s : Session} {x : Nat}
    (hf : L.prune.find? id = some s) (h : s.ExitedAt x) (hnow : x + Session.settleDelay ≤ L.now) :
    (L.readOnce id M).2 ≠ .ok none := by
  have hsettled := ((h.touch L.now).feed L.now).settled hnow
  rw [readOnce_of_find?_some M hf, hsettled, Bool.true_and]
  rcases hb : (s.backlogAt L.now).pending with _ | ⟨b, bs⟩
  · simp
  · obtain ⟨k, rfl⟩ := Nat.exists_eq_add_of_lt hM
    simp

/-- After a look, the session the read names, if still registered at the next one, is the one
the look left; so the registry still has its child seen exited at the same time. -/
theorem exitedAt_readNext {s : Session} {x : Nat} (tick : Nat)
    (hf : L.prune.find? id = some s) (h : s.ExitedAt x) {s' : Session}
    (hf' : (readNext id M tick L).prune.find? id = some s') : s'.ExitedAt x := by
  have hl : L.prune.sessions.find? (·.id == id) = some s := hf
  have hl' : (readNext id M tick L).prune.sessions.find? (·.id == id) = some s' := hf'
  have hmem : s' ∈ (L.readOnce id M).1.sessions :=
    (sublist_advance _ _).subset ((sublist_prune _).subset (List.mem_of_find?_eq_some hl'))
  have hid' : s'.id = id := by simpa using List.find?_some hl'
  have hid : s.id = id := by simpa using List.find?_some hl
  rw [readOnce_fst, hf] at hmem
  obtain ⟨y, -, hy⟩ := List.mem_map.mp hmem
  split at hy
  · rw [← hy]
    exact h.look L.now M
  · rename_i hne
    rw [← Session.look_snd, Session.id_look, hy, hid', hid] at hne
    simp at hne

theorem now_readNext (id : String) (m tick : Nat) (r : Registry) :
    (readNext id m tick r).now = r.now + tick := by
  rw [readNext, now_advance, now_readOnce]
  exact Nat.max_eq_right (Nat.le_add_right _ _)

/-- The looks of a read are one poll interval apart. -/
theorem now_iterate_readNext (id : String) (m tick : Nat) :
    ∀ (i : Nat) (r : Registry), ((readNext id m tick)^[i] r).now = r.now + i * tick
  | 0, r => by simp
  | i + 1, r => by
    rw [Function.iterate_succ_apply, now_iterate_readNext id m tick i, now_readNext, Nat.succ_mul]
    omega

/-- Whether a read's look at `r` ends the read: it fails, answers, or finds the deadline
passed. -/
def LookEnds (id : String) (m : Nat) (deadline : Option Nat) (r : Registry) : Prop :=
  (r.readOnce id m).2 ≠ .ok none ∨ deadline.any (· ≤ r.now) = true

section Loop

variable {id : String} {m tick : Nat} {deadline : Option Nat}

theorem readLoop_isSome_of_lookEnds {r : Registry} (h : LookEnds id m deadline r) :
    (readLoop id m tick deadline r).isSome := by
  unfold LookEnds at h
  rw [readLoop, readStep]
  have hnow := now_readOnce r id m
  generalize r.readOnce id m = o at h hnow
  obtain ⟨r', ans⟩ := o
  rcases ans with e | _ | x
  · rfl
  · have hd : deadline.any (· ≤ r'.now) = true := by
      rw [hnow]
      simpa using h
    simp [hd]
  · rfl

/-- A look that waits before the deadline hands the read on to the next look, a poll
interval later, while the clock can read it. -/
theorem readLoop_of_waits (htick : 0 < tick) {r : Registry} (hwait : (r.readOnce id m).2 = .ok none)
    (hd : deadline.any (· ≤ r.now) = false) (hend : (readNext id m tick r).now < clockEnd) :
    readLoop id m tick deadline r = readLoop id m tick deadline (readNext id m tick r) := by
  have hnext := now_readNext id m tick r
  rw [readLoop, readStep]
  have hnow := now_readOnce r id m
  unfold readNext at hend hnext ⊢
  generalize r.readOnce id m = o at hwait hnow hend hnext ⊢
  obtain ⟨r', ans⟩ := o
  dsimp only at hwait hnow hend hnext ⊢
  subst hwait
  rw [hnow] at hend hnext
  simp only [hnow, hd, Bool.false_eq_true, if_false]
  rw [if_pos ⟨by omega, hend⟩]

/-- A read's loop returns once one of its looks ends it, as long as the clock can read that
look. -/
theorem readLoop_isSome (htick : 0 < tick) :
    ∀ (n : Nat) (r : Registry), LookEnds id m deadline ((readNext id m tick)^[n] r) →
      ((readNext id m tick)^[n] r).now < clockEnd → (readLoop id m tick deadline r).isSome
  | 0, _, h, _ => readLoop_isSome_of_lookEnds h
  | n + 1, r, h, hend => by
    by_cases h₀ : LookEnds id m deadline r
    · exact readLoop_isSome_of_lookEnds h₀
    · -- the first look waits, and the read goes on from the next one
      simp only [LookEnds, not_or, ne_eq, not_not, Bool.not_eq_true] at h₀
      rw [Function.iterate_succ_apply] at h hend
      have hnext : (readNext id m tick r).now < clockEnd := by
        rw [now_iterate_readNext] at hend
        omega
      rw [readLoop_of_waits htick h₀.1 h₀.2 hnext]
      exact readLoop_isSome htick n _ h hend

end Loop

section Exited

variable {id : String} {m tick : Nat} {deadline : Option Nat}

/-- Once the registry has seen the named session's child exited at `x`, one of the looks of a
read ends it by the first look past the settle window: the session is gone, or the look
answers with what waits or with the end of the output. -/
theorem lookEnds_of_exitedAt (hm : 0 < m) {x : Nat} :
    ∀ (k : Nat) (L : Registry) (s : Session), L.prune.find? id = some s → s.ExitedAt x →
      x + Session.settleDelay ≤ L.now + k * tick →
      ∃ n ≤ k, LookEnds id m deadline ((readNext id m tick)^[n] L)
  | 0, L, s, hf, hx, hk => ⟨0, le_rfl, Or.inl (look_answers_of_exitedAt hm hf hx (by simpa using hk))⟩
  | k + 1, L, s, hf, hx, hk => by
    by_cases h₀ : LookEnds id m deadline L
    · exact ⟨0, Nat.zero_le _, h₀⟩
    · -- the look waits; the next one finds the session gone, or still seen exited at `x`
      have hnext := now_readNext id m tick L
      cases hf' : (readNext id m tick L).prune.find? id with
      | none =>
        refine ⟨1, by omega, Or.inl ?_⟩
        rw [Function.iterate_one, readOnce_of_find?_none m hf']
        simp
      | some s' =>
        obtain ⟨n, hn, hends⟩ := lookEnds_of_exitedAt hm k _ s' hf' (exitedAt_readNext tick hf hx hf')
          (by rw [hnext]; rw [Nat.succ_mul] at hk; omega)
        exact ⟨n + 1, by omega, by rwa [Function.iterate_succ_apply]⟩

end Exited

/-- The looks of a read from `r` follow one another a poll interval apart. -/
theorem readLook_add (r : Registry) (id : String) (m n i : Nat) :
    r.readLook id m (n + i) = (readNext id (max m 1) r.engine.tick)^[n] (r.readLook id m i) := by
  rw [readLook, readLook, engine_advance, Function.iterate_add_apply]
  rfl

theorem now_readLook (r : Registry) (id : String) (m i : Nat) :
    (r.readLook id m i).now = r.now + opCost + i * r.engine.tick := by
  have h := readLook_add r id m i 0
  rw [Nat.add_zero] at h
  rw [h, now_iterate_readNext, readLook, Function.iterate_zero_apply, now_advance,
    Nat.max_eq_right (Nat.le_add_right _ _)]

/-- A read returns once one of its looks ends it, as long as the clock can read that look;
a read that refuses its timeout returns at once. -/
theorem readCall_isSome_of_look {r : Registry} {id : String} {m : Nat}
    {timeout : Option Duration} (n : Nat)
    (h : LookEnds id (max m 1) (r.readDeadline timeout) (r.readLook id m n))
    (hend : (r.readLook id m n).now < clockEnd) : (r.readCall id m timeout).isSome := by
  unfold readCall
  dsimp only
  split
  · rfl
  · rw [Option.isSome_map]
    exact readLoop_isSome (Nat.lt_of_lt_of_le (ExecConfig.pollInterval_pos _) (Nat.le_add_right _ _))
      n _ h hend

/-- A read with a timeout returns, as long as the clock can read the first look past its
deadline. -/
theorem readCall_isSome_of_timeout (r : Registry) (id : String) (m : Nat) (t : Duration)
    (hend : r.now + opCost + t.nanos + r.engine.tick ≤ clockEnd) :
    (r.readCall id m (some t)).isSome := by
  have htick := r.engine.tick_pos
  have hpast := Clock.ticksTo_spec t.nanos r.engine.tick htick
  have hlast : Clock.ticksTo t.nanos r.engine.tick * r.engine.tick < t.nanos + r.engine.tick :=
    Clock.ticksTo_mul_lt htick
  refine readCall_isSome_of_look (Clock.ticksTo t.nanos r.engine.tick) (Or.inr ?_) ?_
  · simp only [readDeadline, Option.map_some, Option.any_some, decide_eq_true_eq, now_advance,
      now_readLook, Nat.max_eq_right (Nat.le_add_right r.now opCost)]
    omega
  · rw [now_readLook]
    omega

/-- A read returns at the first look that finds its session gone. -/
theorem readCall_isSome_of_gone {r : Registry} {id : String} {m : Nat}
    {timeout : Option Duration} (n : Nat) (h : (r.readLook id m n).prune.find? id = none)
    (hend : (r.readLook id m n).now < clockEnd) : (r.readCall id m timeout).isSome :=
  readCall_isSome_of_look n (Or.inl (by rw [readOnce_of_find?_none _ h]; simp)) hend

/-- A read returns once a look has found its session's child seen exited, by the first look
past the settle window after the exit, as long as the clock can read that look. -/
theorem readCall_isSome_of_exitedAt {r : Registry} {id : String} {m : Nat}
    {timeout : Option Duration} {i x : Nat} {s : Session}
    (hf : (r.readLook id m i).prune.find? id = some s) (hx : s.ExitedAt x)
    (hend : max (r.readLook id m i).now (x + Session.settleDelay) + r.engine.tick ≤ clockEnd) :
    (r.readCall id m timeout).isSome := by
  have htick := r.engine.tick_pos
  -- the looks wait at most until the first one past the settle window
  generalize hw : x + Session.settleDelay - (r.readLook id m i).now = wait
  have hpast := Clock.ticksTo_spec wait r.engine.tick htick
  have hlast : Clock.ticksTo wait r.engine.tick * r.engine.tick < wait + r.engine.tick :=
    Clock.ticksTo_mul_lt htick
  obtain ⟨n, hn, hends⟩ : ∃ n ≤ Clock.ticksTo wait r.engine.tick, LookEnds id (max m 1)
      (r.readDeadline timeout) ((readNext id (max m 1) r.engine.tick)^[n] (r.readLook id m i)) :=
    lookEnds_of_exitedAt (Nat.lt_of_lt_of_le Nat.one_pos (Nat.le_max_right m 1)) _ _ s hf hx
      (by omega)
  have hn' := Nat.mul_le_mul_right r.engine.tick hn
  refine readCall_isSome_of_look (n + i) (by rwa [readLook_add]) ?_
  rw [readLook_add, now_iterate_readNext]
  omega

end Registry

namespace Clock

/-- A longer step needs no more looks to pass a time. -/
theorem ticksTo_le_of_le {time step step' : Nat} (h : 0 < step) (hle : step ≤ step') :
    ticksTo time step' ≤ ticksTo time step :=
  (ticksTo_le_iff (Nat.lt_of_lt_of_le h hle)).mpr
    ((ticksTo_spec time step h).trans (Nat.mul_le_mul_left _ hle))

end Clock

/-- The poll interval is at least a millisecond, whatever the configured value, zero
included. -/
theorem ExecConfig.milli_le_pollInterval (c : ExecConfig) : Clock.milli ≤ c.pollInterval.nanos := by
  have h := Nat.le_max_right c.pollIntervalMs 1
  show 1000000 ≤ max c.pollIntervalMs 1 * 1000000
  omega

namespace Engine

/-- The wait for the leader after a kill leaves no later than the first look past the
confirmation limit. -/
theorem EscalationEnds.confirm_le {seen : Child} {start tick grace j : Nat} {m : Option Nat}
    {esc : Child × Nat × Bool} (h : EscalationEnds seen start tick grace j m esc) (htick : 0 < tick) :
    ∀ k, m = some k → k ≤ Clock.ticksTo Clock.confirmLimit tick := by
  intro k hk
  cases h with
  | gone => cases hk
  | killed _ _ _ hconfirm =>
    cases hk
    exact hconfirm.le_ticksTo htick

/-- A wait with a deadline, a cancellation, or a leader that ends has a look that decides
it; with a deadline, no later than the first look past it. -/
theorem lookVerdict_decides (seen : Child) {tick : Nat} (htick : 0 < tick)
    {deadline cancel : Option Nat} (h : deadline.isSome ∨ cancel.isSome ∨ seen.leaderEnd.isSome) :
    ∃ j, lookVerdict seen tick deadline cancel j ≠ none ∧
      ∀ d, deadline = some d → j ≤ Clock.ticksTo d tick := by
  rcases deadline with _ | d
  · rcases cancel with _ | k
    · -- only the leader's end decides the wait
      obtain ⟨x, hx⟩ := Option.isSome_iff_exists.mp (by simpa using h)
      refine ⟨Clock.ticksTo x tick, ?_, fun _ hd => by cases hd⟩
      have hend : seen.endedBy (Clock.ticksTo x tick * tick) = true := by
        simpa [Child.endedBy, hx] using Clock.ticksTo_spec x tick htick
      simp [lookVerdict, hend]
    · -- the cancellation is noticed in the sleep before the look past it
      refine ⟨Clock.ticksTo k tick, ?_, fun _ hd => by cases hd⟩
      have hfired : (some k).any (· ≤ (Clock.ticksTo k tick + 1) * tick) = true := by
        have := Clock.ticksTo_spec k tick htick
        rw [Nat.succ_mul]
        simpa using Nat.le_add_right_of_le this
      unfold lookVerdict
      rw [hfired]
      split <;> simp
  · refine ⟨Clock.ticksTo d tick, ?_, fun d' hd => by cases hd; exact le_rfl⟩
    have hpast : (some d).any (· ≤ Clock.ticksTo d tick * tick) = true := by
      simpa using Clock.ticksTo_spec d tick htick
    unfold lookVerdict
    rw [hpast]
    split <;> simp

end Engine

open Registry Engine in
/-- **Every polling loop ends.** Each sleep moves the clock on by at least the poll interval,
which is at least a millisecond whatever is configured, zero included. An escalation's grace
loop leaves after at most `ticksTo grace poll + 1` looks, and the wait for the leader after
a kill after at most `ticksTo confirmLimit poll + 1`. A call's wait is decided by a look
whenever it has a deadline, no later than the first look past it, and otherwise once the
child's leader ends or the cancellation fires. A read returns whenever it has a timeout, once
a look finds its session gone, and once a look has found its child seen exited, by the first
look past the settle window: each as long as the host's clock can read the look. Making room
for a new session closes at most one. -/
theorem polling_loops_end (e : Engine) :
    Clock.milli ≤ e.config.pollInterval.nanos ∧
    (∀ (c : Child) (start : Nat), ∃ j m,
      EscalationEnds ((c.terminate start).upTo (start + e.config.killGrace.nanos + e.tick)) start
        e.tick e.config.killGrace.nanos j m (escalate c start e.tick e.config.killGrace.nanos) ∧
      j + 1 ≤ Clock.ticksTo e.config.killGrace.nanos e.config.pollInterval.nanos + 1 ∧
      ∀ k, m = some k → k + 1 ≤ Clock.ticksTo Clock.confirmLimit e.config.pollInterval.nanos + 1) ∧
    (∀ (c : Child) (timeout : Option Duration) (cancel : Option Nat),
      let deadline := (e.config.effectiveTimeout timeout).map Duration.nanos
      let seen := c.upTo (waitBound e.tick deadline cancel waitHorizon)
      WaitEnds seen e.tick deadline cancel waitHorizon
          (waitFor c e.tick deadline cancel waitHorizon) ∧
        (deadline.isSome ∨ cancel.isSome ∨ seen.leaderEnd.isSome →
          ∃ j, lookVerdict seen e.tick deadline cancel j ≠ none ∧
            ∀ d, deadline = some d → j ≤ Clock.ticksTo d e.tick)) ∧
    (∀ (r : Registry) (id : String) (m : Nat) (timeout : Option Duration),
      ((∃ t, timeout = some t ∧ r.now + opCost + t.nanos + r.engine.tick ≤ clockEnd) ∨
        (∃ n, (r.readLook id m n).prune.find? id = none ∧ (r.readLook id m n).now < clockEnd) ∨
        (∃ i x s, (r.readLook id m i).prune.find? id = some s ∧ s.ExitedAt x ∧
          max (r.readLook id m i).now (x + Session.settleDelay) + r.engine.tick ≤ clockEnd)) →
      (r.readCall id m timeout).isSome) ∧
    (∀ r : Registry, r.Sound →
      r.evict = r ∨ ∃ v ∈ r.sessions, r.evict = { r with
        sessions := r.sessions.filter (·.id != v.id), retired := r.retired ++ [v.close r.now] }) := by
  have htick := e.tick_pos
  have hpoll := e.config.pollInterval_pos
  have hle : e.config.pollInterval.nanos ≤ e.tick := Nat.le_add_right _ _
  refine ⟨e.config.milli_le_pollInterval, fun c start => ?_, fun c timeout cancel => ?_,
    fun r id m timeout h => ?_, fun r h => ?_⟩
  · -- the two loops of an escalation, with looks a poll interval and the timer's slack apart
    obtain ⟨j, m, hends⟩ := escalate_ends c htick start e.config.killGrace.nanos
    have hgrace : Clock.ticksTo e.config.killGrace.nanos e.tick ≤
        Clock.ticksTo e.config.killGrace.nanos e.config.pollInterval.nanos :=
      Clock.ticksTo_le_of_le hpoll hle
    have hconfirm : Clock.ticksTo Clock.confirmLimit e.tick ≤
        Clock.ticksTo Clock.confirmLimit e.config.pollInterval.nanos :=
      Clock.ticksTo_le_of_le hpoll hle
    refine ⟨j, m, hends, Nat.add_le_add_right ((hends.le_ticksTo htick).trans hgrace) 1,
      fun k hk => Nat.add_le_add_right ((hends.confirm_le htick k hk).trans hconfirm) 1⟩
  · exact ⟨waitFor_ends c htick _ cancel waitHorizon, lookVerdict_decides _ htick⟩
  · rcases h with ⟨t, rfl, hend⟩ | ⟨n, hgone, hend⟩ | ⟨i, x, s, hf, hx, hend⟩
    · exact readCall_isSome_of_timeout r id m t hend
    · exact readCall_isSome_of_gone n hgone hend
    · exact readCall_isSome_of_exitedAt hf hx hend
  · rcases evict_cases h.nodup_sessions h.cap with ⟨hsame, -⟩ | ⟨-, -, v, hv, -, hevict⟩
    · exact Or.inl hsame
    · exact Or.inr ⟨v, hv, hevict⟩

end Confine
