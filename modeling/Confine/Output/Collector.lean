import Confine.Output.Stream

/-!
# The one-shot output collector

A collector gathers both streams of one command under a single byte budget. Each
chunk keeps as many of its bytes as the budget still has room for, and the collector
remembers for good that something was dropped. An empty chunk changes nothing.

The budget is measured against a counter of accepted bytes, kept beside the two
streams; a chunk that keeps nothing touches neither.
-/

namespace Confine

/-- The kept bytes of both streams, the budget they share, the count of accepted bytes,
and whether any byte was dropped. -/
structure Collector where
  budget : Nat
  stdout : List UInt8
  stderr : List UInt8
  truncated : Bool
  accepted : Nat
  deriving Repr

namespace Collector

/-- A collector with nothing kept yet. -/
def empty (budget : Nat) : Collector := ⟨budget, [], [], false, 0⟩

/-- How many bytes are kept, over both streams. -/
def len (c : Collector) : Nat := c.accepted

/-- Whether nothing is kept. -/
def isEmpty (c : Collector) : Bool := c.len == 0

/-- How many more bytes fit under the budget. -/
def room (c : Collector) : Nat := c.budget - c.accepted

/-- Adds kept bytes to one stream. -/
def keepOn (c : Collector) (s : Stream) (bytes : List UInt8) : Collector :=
  match s with
  | .stdout => { c with stdout := c.stdout ++ bytes }
  | .stderr => { c with stderr := c.stderr ++ bytes }

/-- Appends a chunk to one stream: keeps its first `min (length) room` bytes and
returns that count. Dropping any byte sets `truncated`, which never clears. -/
def append (c : Collector) (chunk : List UInt8) (s : Stream) : Nat × Collector :=
  if chunk.isEmpty then (0, c)
  else
    let keep := min chunk.length c.room
    let c := { c with truncated := c.truncated || decide (keep < chunk.length) }
    if 0 < keep then (keep, { c.keepOn s (chunk.take keep) with accepted := c.accepted + keep })
    else (keep, c)

/-- A collector fed a list of tagged chunks in order. -/
def feed (c : Collector) (chunks : List (Stream × List UInt8)) : Collector :=
  chunks.foldl (fun acc (s, bytes) => (acc.append bytes s).2) c

@[simp] theorem budget_keepOn (c : Collector) (s : Stream) (bytes : List UInt8) :
    (c.keepOn s bytes).budget = c.budget := by
  cases s <;> rfl

@[simp] theorem accepted_keepOn (c : Collector) (s : Stream) (bytes : List UInt8) :
    (c.keepOn s bytes).accepted = c.accepted := by
  cases s <;> rfl

@[simp] theorem truncated_keepOn (c : Collector) (s : Stream) (bytes : List UInt8) :
    (c.keepOn s bytes).truncated = c.truncated := by
  cases s <;> rfl

@[simp] theorem keepOn_nil (c : Collector) (s : Stream) : c.keepOn s [] = c := by
  cases s <;> simp [keepOn]

/-- A chunk keeps as many bytes as there is room for, an empty one none. -/
theorem append_fst (c : Collector) (chunk : List UInt8) (s : Stream) :
    (c.append chunk s).1 = min chunk.length c.room := by
  unfold append
  by_cases h : chunk = []
  · simp [h]
  · simp only [List.isEmpty_iff, h, if_false]
    split <;> rfl

/-- The collector after a chunk: the kept prefix goes to its stream, the counter grows
by its length, and the flag records whether anything was cut off. -/
theorem append_snd (c : Collector) (chunk : List UInt8) (s : Stream) :
    (c.append chunk s).2 =
      { c.keepOn s (chunk.take c.room) with
        truncated := c.truncated || decide (c.room < chunk.length)
        accepted := c.accepted + min chunk.length c.room } := by
  unfold append
  by_cases h : chunk = []
  · cases s <;> simp [h, keepOn]
  · have hlt : min chunk.length c.room < chunk.length ↔ c.room < chunk.length := by omega
    simp only [List.isEmpty_iff, h, if_false, hlt]
    split
    · cases s <;> simp [keepOn, Nat.min_comm]
    · have hroom : c.room = 0 := by
        have := List.length_pos_iff.mpr h
        omega
      cases s <;> simp [keepOn, hroom]

@[simp] theorem budget_append (c : Collector) (chunk : List UInt8) (s : Stream) :
    (c.append chunk s).2.budget = c.budget := by
  simp [append_snd]

@[simp] theorem accepted_append (c : Collector) (chunk : List UInt8) (s : Stream) :
    (c.append chunk s).2.accepted = c.accepted + min chunk.length c.room := by
  simp [append_snd]

@[simp] theorem truncated_append (c : Collector) (chunk : List UInt8) (s : Stream) :
    (c.append chunk s).2.truncated = (c.truncated || decide (c.room < chunk.length)) := by
  simp [append_snd]

theorem len_append (c : Collector) (chunk : List UInt8) (s : Stream) :
    (c.append chunk s).2.len = c.len + (c.append chunk s).1 := by
  simp [len, append_fst]

/-- Appending never takes the kept count past the budget. -/
theorem len_le_budget (c : Collector) (chunk : List UInt8) (s : Stream) (h : c.len ≤ c.budget) :
    (c.append chunk s).2.len ≤ (c.append chunk s).2.budget := by
  simp only [len] at *
  simp only [accepted_append, budget_append, room]
  omega

end Collector

end Confine
