import Confine.Output.Stream

/-!
# The session output backlog

A session's terminal output waits in a backlog until a reader drains it. The budget
bounds the backlog that is not yet drained, so room freed by a drain can be used
again. A chunk keeps as many bytes as there is room for; a drain takes bytes from
the front, reports whether anything was dropped since the last drain, and clears
that report.
-/

namespace Confine

/-- Undrained bytes, their bound, and whether a byte was dropped since the last drain. -/
structure Backlog where
  budget : Nat
  pending : List UInt8
  truncated : Bool
  deriving Repr

namespace Backlog

/-- An empty backlog. -/
def empty (budget : Nat) : Backlog := ⟨budget, [], false⟩

/-- How many bytes wait. -/
def len (b : Backlog) : Nat := b.pending.length

/-- Whether nothing waits. -/
def isEmpty (b : Backlog) : Bool := b.pending.isEmpty

/-- Appends a chunk, keeping its first `min (length) (budget - len)` bytes, and
returns that count. Dropping any byte sets the flag. -/
def append (b : Backlog) (chunk : List UInt8) : Nat × Backlog :=
  if chunk.isEmpty then (0, b)
  else
    let keep := min chunk.length (b.budget - b.len)
    (keep, { b with pending := b.pending ++ chunk.take keep,
                    truncated := b.truncated || decide (keep < chunk.length) })

/-- Takes at most `max` bytes from the front together with the flag, which it clears. -/
def drain (b : Backlog) (max : Nat) : (List UInt8 × Bool) × Backlog :=
  ((b.pending.take max, b.truncated), { b with pending := b.pending.drop max, truncated := false })

/-- Drained bytes followed by what is left are the backlog before the drain. -/
theorem drain_append (b : Backlog) (max : Nat) :
    (b.drain max).1.1 ++ (b.drain max).2.pending = b.pending := by
  simp [drain]

/-- A chunk keeps as many bytes as there is room for, an empty one none. -/
theorem append_fst (b : Backlog) (chunk : List UInt8) :
    (b.append chunk).1 = min chunk.length (b.budget - b.len) := by
  by_cases h : chunk = [] <;> simp [append, h]

@[simp] theorem budget_append (b : Backlog) (chunk : List UInt8) :
    (b.append chunk).2.budget = b.budget := by
  by_cases h : chunk = [] <;> simp [append, h]

@[simp] theorem pending_append (b : Backlog) (chunk : List UInt8) :
    (b.append chunk).2.pending = b.pending ++ chunk.take (b.budget - b.len) := by
  by_cases h : chunk = []
  · simp [append, h]
  · simp only [append, List.isEmpty_iff, h, if_false]
    congr 1
    exact List.take_eq_take_iff.mpr (by omega)

@[simp] theorem truncated_append (b : Backlog) (chunk : List UInt8) :
    (b.append chunk).2.truncated = (b.truncated || decide (b.budget - b.len < chunk.length)) := by
  by_cases h : chunk = []
  · simp [append, h]
  · simp only [append, List.isEmpty_iff, h, if_false]
    congr 2
    exact propext (by omega)

theorem len_append (b : Backlog) (chunk : List UInt8) :
    (b.append chunk).2.len = b.len + (b.append chunk).1 := by
  simp [len, append_fst, List.length_take]
  omega

@[simp] theorem drain_fst (b : Backlog) (max : Nat) :
    (b.drain max).1 = (b.pending.take max, b.truncated) := rfl

@[simp] theorem budget_drain (b : Backlog) (max : Nat) : (b.drain max).2.budget = b.budget := rfl

@[simp] theorem pending_drain (b : Backlog) (max : Nat) :
    (b.drain max).2.pending = b.pending.drop max := rfl

@[simp] theorem truncated_drain (b : Backlog) (max : Nat) : (b.drain max).2.truncated = false := rfl

end Backlog

end Confine
