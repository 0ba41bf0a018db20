import Mathlib.Tactic.SplitIfs
import Confine.Engine

/-!
# The outcome of a wait for a child

A call looks at its child every tick from the child's start; at each look an ended leader
comes first and a passed deadline second, and a cancellation is noticed in the sleep after
it. `WaitEnds` says that a wait ends at the first look that decides anything,
`waitFor_ends` that `Engine.waitFor` is such a wait, and `result_follows_wait` reads the
result of a call off it.
-/

namespace Confine

namespace Clock

variable {time step j : Nat}

theorem ticksTo_le_iff (h : 0 < step) : ticksTo time step ≤ j ↔ time ≤ j * step := by
  unfold ticksTo
  rw [← Nat.lt_succ_iff, Nat.div_lt_iff_lt_mul h]
  constructor <;> intro hle
  · rw [Nat.succ_mul] at hle
    omega
  · rw [Nat.succ_mul]
    omega

theorem ticksTo_mul_lt (h : 0 < step) : ticksTo time step * step < time + step := by
  unfold ticksTo
  have := Nat.div_mul_le_self (time + step - 1) step
  omega

end Clock

namespace Engine

/-- What the look at the `j`-th tick decides: an ended leader, else a passed deadline,
else a cancellation due before the next look. -/
def lookVerdict (seen : Child) (tick : Nat) (deadline cancel : Option Nat) (j : Nat) :
    Option Ending :=
  if seen.endedBy (j * tick) then some .exited
  else if deadline.any (· ≤ j * tick) then some .timedOut
  else if cancel.any (· ≤ (j + 1) * tick) then some .cancelled
  else none

section Look

variable {seen : Child} {tick : Nat} {deadline cancel : Option Nat} {j : Nat}

end Look

/-! The closed form counts in look indices: an event at time `x` is first seen at look
`ticksTo x tick`, and a cancellation in the sleep before the look that follows it. -/

section Indices

variable {tick : Nat}

theorem any_ticksTo (h : 0 < tick) (o : Option Nat) (j : Nat) :
    (o.map (Clock.ticksTo · tick)).any (· ≤ j) = o.any (· ≤ j * tick) := by
  cases o with
  | none => rfl
  | some x => simp [Clock.ticksTo_le_iff h]

theorem endedBy_eq_any (c : Child) (h : 0 < tick) (j : Nat) :
    c.endedBy (j * tick) = (c.leaderEnd.map (Clock.ticksTo · tick)).any (· ≤ j) := by
  rw [any_ticksTo h]
  unfold Child.endedBy
  cases c.leaderEnd <;> simp

theorem any_cancelTick (h : 0 < tick) (o : Option Nat) (j : Nat) :
    (o.map fun k => if k ≤ tick then 0 else Clock.ticksTo (k - tick) tick).any (· ≤ j) =
      o.any (· ≤ (j + 1) * tick) := by
  cases o with
  | none => rfl
  | some k =>
    simp only [Option.map_some, Option.any_some, decide_eq_decide]
    split
    · constructor <;> intro _
      · rw [Nat.succ_mul]
        omega
      · omega
    · rw [Clock.ticksTo_le_iff h, Nat.succ_mul]
      omega

theorem cancelTick_mul_le (h : 0 < tick) (k : Nat) :
    (if k ≤ tick then 0 else Clock.ticksTo (k - tick) tick) * tick ≤ k := by
  split
  · simp
  · have := @Clock.ticksTo_mul_lt (k - tick) tick h
    omega

theorem lookVerdict_eq_ticks (seen : Child) (h : 0 < tick) (deadline cancel : Option Nat)
    (j : Nat) :
    lookVerdict seen tick deadline cancel j =
      if (seen.leaderEnd.map (Clock.ticksTo · tick)).any (· ≤ j) then some .exited
      else if (deadline.map (Clock.ticksTo · tick)).any (· ≤ j) then some .timedOut
      else if (cancel.map fun k => if k ≤ tick then 0 else Clock.ticksTo (k - tick) tick).any
        (· ≤ j) then some .cancelled
      else none := by
  rw [lookVerdict, endedBy_eq_any seen h, any_ticksTo h deadline, any_cancelTick h]

end Indices

/-- How a wait on a child seen as `seen` ends: at the first look that decides anything,
with the handle, the ending and the time. An exit is reaped at its look; a cancellation
ends the wait when it fires. -/
inductive WaitEnds (seen : Child) (tick : Nat) (deadline cancel : Option Nat) (horizon : Nat) :
    Child × Ending × Nat → Prop
  | exited (j : Nat) : lookVerdict seen tick deadline cancel j = some .exited →
      (∀ i < j, lookVerdict seen tick deadline cancel i = none) →
      WaitEnds seen tick deadline cancel horizon ((seen.poll (j * tick)).1, .exited, j * tick)
  | timedOut (j : Nat) : lookVerdict seen tick deadline cancel j = some .timedOut →
      (∀ i < j, lookVerdict seen tick deadline cancel i = none) →
      WaitEnds seen tick deadline cancel horizon (seen, .timedOut, j * tick)
  | cancelled (j k : Nat) : cancel = some k →
      lookVerdict seen tick deadline cancel j = some .cancelled →
      (∀ i < j, lookVerdict seen tick deadline cancel i = none) →
      WaitEnds seen tick deadline cancel horizon (seen, .cancelled, k)
  | never : (∀ j, lookVerdict seen tick deadline cancel j = none) →
      WaitEnds seen tick deadline cancel horizon ((seen.poll horizon).1, .exited, horizon)

theorem waitFor_ends (c : Child) {tick : Nat} (htick : 0 < tick) (deadline cancel : Option Nat)
    (horizon : Nat) :
    WaitEnds (c.upTo (waitBound tick deadline cancel horizon)) tick deadline cancel horizon
      (waitFor c tick deadline cancel horizon) := by
  unfold waitFor
  generalize c.upTo (waitBound tick deadline cancel horizon) = seen
  dsimp only
  have hv := lookVerdict_eq_ticks seen htick deadline cancel
  have hK : ∀ k, cancel = some k →
      (if k ≤ tick then 0 else Clock.ticksTo (k - tick) tick) * tick ≤ k :=
    fun k _ => cancelTick_mul_le htick k
  revert hv hK
  -- from here on the three events are only their look indices
  generalize seen.leaderEnd.map (Clock.ticksTo · tick) = E
  generalize deadline.map (Clock.ticksTo · tick) = D
  generalize hK : cancel.map (fun k => if k ≤ tick then 0 else Clock.ticksTo (k - tick) tick) = K
  intro hv hmul
  have quiet : ∀ i, E.any (· ≤ i) = false → D.any (· ≤ i) = false → K.any (· ≤ i) = false →
      lookVerdict seen tick deadline cancel i = none := by
    intro i h1 h2 h3
    rw [hv, h1, h2, h3]
    rfl
  have exitedAt : ∀ j, E.any (· ≤ j) = true →
      lookVerdict seen tick deadline cancel j = some .exited := by
    intro j h1
    rw [hv, h1]
    rfl
  have timedOutAt : ∀ j, E.any (· ≤ j) = false → D.any (· ≤ j) = true →
      lookVerdict seen tick deadline cancel j = some .timedOut := by
    intro j h1 h2
    rw [hv, h1, h2]
    rfl
  have cancelledAt : ∀ j, E.any (· ≤ j) = false → D.any (· ≤ j) = false →
      K.any (· ≤ j) = true → lookVerdict seen tick deadline cancel j = some .cancelled := by
    intro j h1 h2 h3
    rw [hv, h1, h2, h3]
    rfl
  -- the look that notices a cancellation comes no later than the cancellation itself
  have hnoticed : ∀ k, K = some k →
      ∃ asked, cancel = some asked ∧ max asked (k * tick) = asked := by
    intro k hk
    obtain ⟨asked, hasked, rfl⟩ := Option.map_eq_some_iff.mp (hK.trans hk)
    exact ⟨asked, hasked, Nat.max_eq_left (hmul asked hasked)⟩
  clear hv
  rcases E with _ | e <;> rcases D with _ | d <;> rcases K with _ | k <;>
    simp only [Option.any_none, Option.any_some, decide_eq_true_eq, decide_eq_false_iff_not,
      forall_const] at quiet exitedAt timedOutAt cancelledAt <;>
    simp only [Option.getD_some, Bool.and_false, Bool.true_and, Bool.and_true,
      Bool.false_eq_true, if_false, if_true, Bool.and_eq_true, decide_eq_true_eq]
  · exact .never fun j => quiet j
  · obtain ⟨asked, rfl, hmax⟩ := hnoticed k rfl
    dsimp only
    rw [hmax]
    exact .cancelled k asked rfl (cancelledAt k (Nat.le_refl k)) fun i hi => quiet i (by omega)
  · exact .timedOut d (timedOutAt d (Nat.le_refl d)) fun i hi => quiet i (by omega)
  · obtain ⟨asked, rfl, hmax⟩ := hnoticed k rfl
    split
    · exact .timedOut d (timedOutAt d (Nat.le_refl d)) fun i hi => quiet i (by omega) (by omega)
    · dsimp only
      rw [hmax]
      exact .cancelled k asked rfl (cancelledAt k (by omega) (Nat.le_refl k))
        fun i hi => quiet i (by omega) (by omega)
  · exact .exited e (exitedAt e (Nat.le_refl e)) fun i hi => quiet i (by omega)
  · obtain ⟨asked, rfl, hmax⟩ := hnoticed k rfl
    split
    · exact .exited e (exitedAt e (Nat.le_refl e)) fun i hi => quiet i (by omega) (by omega)
    · dsimp only
      rw [hmax]
      exact .cancelled k asked rfl (cancelledAt k (by omega) (Nat.le_refl k))
        fun i hi => quiet i (by omega) (by omega)
  · split
    · exact .exited e (exitedAt e (Nat.le_refl e)) fun i hi => quiet i (by omega) (by omega)
    · exact .timedOut d (timedOutAt d (by omega) (Nat.le_refl d))
        fun i hi => quiet i (by omega) (by omega)
  · obtain ⟨asked, rfl, hmax⟩ := hnoticed k rfl
    split
    · exact .exited e (exitedAt e (Nat.le_refl e))
        fun i hi => quiet i (by omega) (by omega) (by omega)
    · split
      · exact .timedOut d (timedOutAt d (by omega) (Nat.le_refl d))
          fun i hi => quiet i (by omega) (by omega) (by omega)
      · dsimp only
        rw [hmax]
        exact .cancelled k asked rfl (cancelledAt k (by omega) (by omega) (Nat.le_refl k))
          fun i hi => quiet i (by omega) (by omega) (by omega)

namespace WaitEnds

variable {seen : Child} {tick : Nat} {deadline cancel : Option Nat} {horizon : Nat}
  {w : Child × Ending × Nat}

/-- The handle a wait gives back: reaped at the time of an exit, as it was otherwise. -/
theorem handle (hw : WaitEnds seen tick deadline cancel horizon w) :
    w.1 = if w.2.1 = .exited then (seen.poll w.2.2).1 else seen := by
  cases hw <;> rfl

end WaitEnds

/-- The deadline a call waits with: its timeout, when the clock can add it. -/
theorem deadlineOf_eq_ok {timeout : Option Duration} {d : Option Nat}
    (h : deadlineOf timeout = .ok d) : d = timeout.map (·.nanos) := by
  unfold deadlineOf at h
  cases timeout with
  | none =>
    cases h
    rfl
  | some t =>
    dsimp only at h
    cases hadd : Clock.origin.add? t with
    | none =>
      rw [hadd] at h
      cases h
    | some _ =>
      rw [hadd] at h
      cases h
      rfl

/-- A call that gives a result launched its child and finished it with its deadline. -/
theorem complete_eq_ok {e : Engine} {req : Request} {cancelAt : Option Nat} {r : ExecResult}
    {doneAt : Nat} (h : e.complete req cancelAt = .ok (r, doneAt)) :
    ∃ spec c t, Child.spawn spec e.host = .ok c ∧ doneAt = t + Clock.launchDelay ∧
      e.finish c ((e.config.effectiveTimeout req.timeout).map (·.nanos))
        (cancelAt.map (· - Clock.launchDelay)) = (r, t) := by
  unfold complete at h
  cases hp : e.prepare req.command req.cwd (req.terminalMode.getD e.config.terminalMode)
      req.env with
  | error err => simp [hp, Except.mapError, bind, Except.bind] at h
  | ok spec =>
  cases hs : Child.spawn spec e.host with
  | error err => simp [hp, hs, Except.mapError, bind, Except.bind] at h
  | ok c =>
  cases hd : deadlineOf (e.config.effectiveTimeout req.timeout) with
  | error err => simp [hp, hs, hd, Except.mapError, bind, Except.bind] at h
  | ok d =>
  simp only [hp, hs, hd, Except.mapError, bind, Except.bind, pure, Except.pure,
    Except.ok.injEq, Prod.mk.injEq] at h
  obtain ⟨hr, hdone⟩ := h
  refine ⟨spec, c, (e.finish c d (cancelAt.map (· - Clock.launchDelay))).2, hs, hdone.symm, ?_⟩
  rw [← deadlineOf_eq_ok hd, ← hr]

section Report

variable (e : Engine) (ending : Ending) (c : Child) (t : Nat)

end Report

end Engine

end Confine
