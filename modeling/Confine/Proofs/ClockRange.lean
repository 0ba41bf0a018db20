import Confine.Proofs.FailedRequests
import Confine.Proofs.ReadText

/-!
# Deadlines the host's clock can hold

The engine and the registry compute deadlines by adding a duration to a reading of the
host's monotonic clock. The clock holds whole seconds below 2^63 (`Instant.add?`), and an
addition past that stops the caller with the clock's overflow. A call adds its effective
timeout, which the configuration caps. With a cap below 2^62 seconds the deadline always
fits (`deadlineOf_effectiveTimeout`), so a call never stops with the overflow
(`complete_ne_overflow`). A read adds the timeout its caller gives, and nothing caps it.
It stops with the overflow exactly when that sum leaves the clock's range
(`readCall_overflow_iff`), which every timeout of 2^63 seconds or more does at any clock
reading. The escalation's grace period and confirmation limit are counted on the child's
own clock and never pass through an instant.
-/

namespace Confine

namespace Instant

theorem add?_eq_none_iff (t : Instant) (d : Duration) :
    t.add? d = none ↔ maxSecs < (t.nanos + d.nanos) / Duration.nanosPerSec := by
  unfold add?
  split <;> simp_all

/-- Below 2^62 seconds, a reading and a duration add up within the clock's range. -/
theorem add?_isSome_of_lt {t : Instant} {d : Duration}
    (ht : t.nanos < 2 ^ 62 * Duration.nanosPerSec) (hd : d.nanos < 2 ^ 62 * Duration.nanosPerSec) :
    (t.add? d).isSome = true := by
  cases h : t.add? d with
  | some _ => rfl
  | none =>
    rw [add?_eq_none_iff] at h
    simp only [maxSecs, Duration.nanosPerSec, Nat.pow_eq, Nat.reducePow] at h ht hd
    omega

/-- A duration of 2^63 seconds or more passes the clock's range from any reading. -/
theorem add?_eq_none_of_le (t : Instant) {d : Duration}
    (hd : 2 ^ 63 * Duration.nanosPerSec ≤ d.nanos) : t.add? d = none := by
  rw [add?_eq_none_iff]
  simp only [maxSecs, Duration.nanosPerSec, Nat.pow_eq, Nat.reducePow] at hd ⊢
  omega

end Instant

namespace Engine

/-- A capped timeout is a deadline the clock holds, whatever the request asks for. -/
theorem deadlineOf_effectiveTimeout (c : ExecConfig) (hcap : c.maxTimeoutSecs < 2 ^ 62)
    (timeout : Option Duration) :
    deadlineOf (c.effectiveTimeout timeout) = .ok ((c.effectiveTimeout timeout).map (·.nanos)) := by
  cases h : c.effectiveTimeout timeout with
  | none => rfl
  | some t =>
    have hle := c.effectiveTimeout_le timeout t h
    have hfit : (Clock.origin.add? t).isSome = true := by
      refine Instant.add?_isSome_of_lt ?_ ?_
      · simp [Clock.origin, Duration.nanosPerSec]
      · simp only [Duration.ofSecs, Duration.nanosPerSec] at hle ⊢
        omega
    obtain ⟨i, hi⟩ := Option.isSome_iff_exists.mp hfit
    simp only [deadlineOf, hi, Option.map_some]
    rfl

/-- A call whose configuration caps timeouts below 2^62 seconds never stops with the
clock's overflow: it fails only where the launch does. -/
theorem complete_ne_overflow (e : Engine) (hcap : e.config.maxTimeoutSecs < 2 ^ 62)
    (req : Request) (cancelAt : Option Nat) (msg : String) :
    e.complete req cancelAt ≠ .error (.overflow msg) := by
  unfold complete
  cases hp : e.prepare req.command req.cwd (req.terminalMode.getD e.config.terminalMode)
      req.env with
  | error err => simp [hp, Except.mapError, bind, Except.bind]
  | ok spec =>
    cases hs : Child.spawn spec e.host with
    | error err => simp [hp, hs, Except.mapError, bind, Except.bind]
    | ok c => simp [hp, hs, Except.mapError, bind, Except.bind, deadlineOf_effectiveTimeout _ hcap,
        pure, Except.pure]

end Engine

namespace Registry

/-- A read whose timeout the clock holds stops with nothing from the clock: its failures
are the registry's own. -/
theorem readCall_ne_overflow {r : Registry} {x : String} (m : Nat) {timeout : Option Duration}
    (hfit : ∀ t ∈ timeout,
      ((Clock.origin.after ⟨(r.advance (r.now + opCost)).now⟩).add? t).isSome = true)
    (r' : Registry) (msg : String) :
    r.readCall x m timeout ≠ some (r', .error (.overflow msg)) := by
  unfold readCall
  dsimp only
  split
  · rename_i hmatch
    cases timeout with
    | none => cases hmatch
    | some t =>
      simp only [Option.map_some, Option.some.injEq] at hmatch
      rw [hfit t rfl] at hmatch
      cases hmatch
  · intro h
    obtain ⟨⟨r'', res⟩, -, heq⟩ := Option.map_eq_some_iff.mp h
    cases res <;> simp [Except.mapError] at heq

/-- **A read stops with the overflow exactly when its timeout leaves the clock's range.** -/
theorem readCall_overflow_iff (r : Registry) (x : String) (m : Nat) (timeout : Option Duration) :
    (∃ t ∈ timeout, (Clock.origin.after ⟨(r.advance (r.now + opCost)).now⟩).add? t = none) ↔
      ∃ r' msg, r.readCall x m timeout = some (r', .error (.overflow msg)) := by
  constructor
  · rintro ⟨t, rfl, hover⟩
    exact ⟨_, _, readCall_of_overflow m hover⟩
  · rintro ⟨r', msg, hcall⟩
    by_contra hnone
    refine readCall_ne_overflow m (fun t ht => ?_) r' msg hcall
    cases hadd : (Clock.origin.after ⟨(r.advance (r.now + opCost)).now⟩).add? t with
    | none => exact absurd ⟨t, ht, hadd⟩ hnone
    | some _ => rfl

/-- **Only a read's timeout can leave the clock's range.** Take any registry and any read
of it. When the engine caps timeouts below 2^62 seconds, no call stops with the clock's
overflow. The read stops with it exactly when the clock's reading plus its timeout passes
the clock's range. So a timeout below 2^62 seconds is safe while the clock reads below 2^62
seconds, and a timeout of 2^63 seconds or more stops the read whatever the clock reads and
whether or not the session is there. -/
theorem read_timeout_alone_overflows (r : Registry) (x : String) (m : Nat)
    (timeout : Option Duration) :
    let here := Clock.origin.after ⟨(r.advance (r.now + opCost)).now⟩
    (r.engine.config.maxTimeoutSecs < 2 ^ 62 →
      ∀ req cancelAt msg, r.engine.complete req cancelAt ≠ .error (.overflow msg)) ∧
    ((∃ t ∈ timeout, here.add? t = none) ↔
      ∃ r' msg, r.readCall x m timeout = some (r', .error (.overflow msg))) ∧
    (here.nanos < 2 ^ 62 * Duration.nanosPerSec →
      (∀ t ∈ timeout, t.nanos < 2 ^ 62 * Duration.nanosPerSec) →
      ∀ r' msg, r.readCall x m timeout ≠ some (r', .error (.overflow msg))) ∧
    (∀ t ∈ timeout, 2 ^ 63 * Duration.nanosPerSec ≤ t.nanos →
      r.readCall x m timeout =
        some (r.advance (r.now + opCost), .error (.overflow Clock.overflowMessage))) := by
  dsimp only
  refine ⟨fun hcap => r.engine.complete_ne_overflow hcap, readCall_overflow_iff r x m timeout,
    fun hclock hsmall => readCall_ne_overflow m fun t ht =>
      Instant.add?_isSome_of_lt hclock (hsmall t ht), ?_⟩
  rintro t rfl hlarge
  exact readCall_of_overflow m (Instant.add?_eq_none_of_le _ hlarge)

/-- A registry whose one session has printed `é` at its start and waits to be read. -/
def acuteRegistry : Registry :=
  { Registry.new ⟨{}, ⟨.dir [], some []⟩, []⟩ with
    sessions := [Session.acuteSession]
    seq := 2 }

/-- **A read with the largest timeout a caller can give stops with the overflow.** The
engine caps timeouts at its default of 1800 seconds and the clock reads about 1000
seconds, both far below 2^62 seconds. The session is registered with output waiting. Yet
a read with a timeout of 2^64 - 1 seconds stops with the clock's overflow. -/
theorem huge_read_timeout_overflows :
    let r := acuteRegistry
    let d : Duration := Duration.ofSecs (Nat.pow 2 64 - 1)
    r.engine.config.maxTimeoutSecs < 2 ^ 62 ∧
      (Clock.origin.after ⟨(r.advance (r.now + opCost)).now⟩).nanos <
        2 ^ 62 * Duration.nanosPerSec ∧
      "sh-000001-000000000000" ∈ (r.advance (r.now + opCost)).prune.sessions.map (·.id) ∧
      (r.read "sh-000001-000000000000" 4096 (some d)).2 = .error (.overflow Clock.overflowMessage) := by
  dsimp only
  have hover : (Clock.origin.after ⟨(acuteRegistry.advance (acuteRegistry.now + opCost)).now⟩).add?
      (Duration.ofSecs (Nat.pow 2 64 - 1)) = none := by
    decide
  refine ⟨by decide, by decide, by decide, ?_⟩
  simp only [read, readCall_of_overflow 4096 hover, Option.getD_some]

end Registry

end Confine
