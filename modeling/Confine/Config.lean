import Confine.Duration

/-!
# Engine settings

The settings of the execution engine and of the session registry, with their
defaults, and the durations derived from them. A requested deadline is capped by
the configured maximum; the reaper interval and the poll interval are never zero.
-/

namespace Confine

/-- How a child is wired: separate pipes, or one pseudo-terminal. -/
inductive TerminalMode where
  | pipes
  | pty
  deriving DecidableEq, Repr, Inhabited

/-- The lowercase name of a terminal mode. -/
def TerminalMode.name : TerminalMode → String
  | .pipes => "pipes"
  | .pty => "pty"

/-- Engine settings. Counts and durations are unsigned 64-bit values. -/
structure ExecConfig where
  defaultTimeoutSecs : Option Nat := some 120
  maxTimeoutSecs : Nat := 1800
  maxOutputBytes : Nat := 102400
  envAllowlist : Option (List String) := none
  terminalMode : TerminalMode := .pipes
  shell : String := "/bin/sh"
  workspaceRoot : Option String := none
  sessionIdleTimeoutSecs : Nat := 1800
  sessionReaperIntervalSecs : Nat := 60
  maxSessions : Nat := 4
  killGraceMs : Nat := 200
  pollIntervalMs : Nat := 10
  deriving Repr, Inhabited

namespace ExecConfig

/-- The deadline for one command: the request's, else the default, capped by the maximum. -/
def effectiveTimeout (c : ExecConfig) (requested : Option Duration) : Option Duration :=
  let cap := Duration.ofSecs c.maxTimeoutSecs
  match requested with
  | some t => some (min t cap)
  | none => c.defaultTimeoutSecs.map fun s => min (Duration.ofSecs s) cap

/-- How long a session may stay idle unless its request says otherwise. -/
def sessionIdleTimeout (c : ExecConfig) : Duration := Duration.ofSecs c.sessionIdleTimeoutSecs

/-- How often the reaper sweeps; at least one second. -/
def sessionReaperInterval (c : ExecConfig) : Duration :=
  Duration.ofSecs (max c.sessionReaperIntervalSecs 1)

/-- How long a terminated child may take before it is killed. -/
def killGrace (c : ExecConfig) : Duration := Duration.ofMillis c.killGraceMs

/-- How often liveness is polled; at least one millisecond. -/
def pollInterval (c : ExecConfig) : Duration := Duration.ofMillis (max c.pollIntervalMs 1)

theorem pollInterval_pos (c : ExecConfig) : 0 < c.pollInterval.nanos := by
  have h := Nat.le_max_right c.pollIntervalMs 1
  show 0 < max c.pollIntervalMs 1 * 1000000
  omega

theorem effectiveTimeout_le (c : ExecConfig) (r : Option Duration) (t : Duration)
    (h : c.effectiveTimeout r = some t) : t.nanos ≤ (Duration.ofSecs c.maxTimeoutSecs).nanos := by
  unfold effectiveTimeout at h
  cases r with
  | some r =>
    simp only [Option.some.injEq] at h; subst h
    rw [Duration.nanos_min]; omega
  | none =>
    cases hd : c.defaultTimeoutSecs with
    | none => simp [hd] at h
    | some s =>
      simp only [hd, Option.map_some, Option.some.injEq] at h; subst h
      rw [Duration.nanos_min]; omega

end ExecConfig

end Confine
