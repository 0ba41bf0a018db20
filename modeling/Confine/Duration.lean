/-!
# Durations and instants

A duration is a whole number of nanoseconds. Settings give durations in seconds or
milliseconds; answers give them as whole seconds and the nanoseconds left over.

An instant is a reading of the monotonic clock, in nanoseconds since the clock's
origin. Adding a duration to an instant fails when the seconds of the sum would not
fit a signed 64-bit count, which is how far a monotonic clock reading reaches.
-/

namespace Confine

/-- A span of time in nanoseconds. -/
structure Duration where
  nanos : Nat
  deriving DecidableEq, Repr, Inhabited

namespace Duration

/-- Nanoseconds in a second. -/
def nanosPerSec : Nat := 1000000000

def zero : Duration := ⟨0⟩
def ofSecs (s : Nat) : Duration := ⟨s * nanosPerSec⟩
def ofMillis (ms : Nat) : Duration := ⟨ms * 1000000⟩
def ofSecsNanos (s n : Nat) : Duration := ⟨s * nanosPerSec + n⟩

/-- Whole seconds. -/
def secs (d : Duration) : Nat := d.nanos / nanosPerSec

/-- Nanoseconds beyond the whole seconds. -/
def subsecNanos (d : Duration) : Nat := d.nanos % nanosPerSec

instance : LE Duration := ⟨fun a b => a.nanos ≤ b.nanos⟩
instance : LT Duration := ⟨fun a b => a.nanos < b.nanos⟩
instance (a b : Duration) : Decidable (a ≤ b) := inferInstanceAs (Decidable (a.nanos ≤ b.nanos))
instance (a b : Duration) : Decidable (a < b) := inferInstanceAs (Decidable (a.nanos < b.nanos))
instance : Min Duration := ⟨fun a b => if a.nanos ≤ b.nanos then a else b⟩
instance : Max Duration := ⟨fun a b => if a.nanos ≤ b.nanos then b else a⟩
instance : Add Duration := ⟨fun a b => ⟨a.nanos + b.nanos⟩⟩

theorem nanos_min (a b : Duration) : (min a b).nanos = min a.nanos b.nanos := by
  show (if a.nanos ≤ b.nanos then a else b).nanos = _
  split <;> omega

theorem secs_ofSecs (s : Nat) : (ofSecs s).secs = s := by
  simp [secs, ofSecs, nanosPerSec]

theorem subsecNanos_ofSecs (s : Nat) : (ofSecs s).subsecNanos = 0 := by
  simp [subsecNanos, ofSecs, nanosPerSec]

end Duration

/-- A reading of the monotonic clock, in nanoseconds since its origin. -/
structure Instant where
  nanos : Nat
  deriving DecidableEq, Repr, Inhabited

namespace Instant

/-- The largest whole-second count a clock reading can hold. -/
def maxSecs : Nat := Nat.pow 2 63 - 1

instance : LE Instant := ⟨fun a b => a.nanos ≤ b.nanos⟩
instance : LT Instant := ⟨fun a b => a.nanos < b.nanos⟩
instance (a b : Instant) : Decidable (a ≤ b) := inferInstanceAs (Decidable (a.nanos ≤ b.nanos))
instance (a b : Instant) : Decidable (a < b) := inferInstanceAs (Decidable (a.nanos < b.nanos))

/-- The instant a duration later, or `none` when its seconds would pass `maxSecs`. -/
def add? (t : Instant) (d : Duration) : Option Instant :=
  if (t.nanos + d.nanos) / Duration.nanosPerSec ≤ maxSecs then some ⟨t.nanos + d.nanos⟩ else none

/-- The instant a duration later, without the range check. -/
def after (t : Instant) (d : Duration) : Instant := ⟨t.nanos + d.nanos⟩

/-- The time from `earlier` to `t`, zero if `earlier` is later. -/
def since (t earlier : Instant) : Duration := ⟨t.nanos - earlier.nanos⟩

end Instant

end Confine
