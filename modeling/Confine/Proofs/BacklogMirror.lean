import Confine.Proofs.SharedBudget
import Confine.Proofs.BacklogOrder

/-!
# Until it is drained, a backlog keeps what a collector keeps

A session's backlog and a command's collector bound their bytes by one budget each, with
counters of their own: the backlog measures what waits in it, the collector what it has
accepted. Until the first drain nothing leaves the backlog, so the two measures move
together. Fed the same chunks, whatever their streams, the two keep the same count at every
call, hold the same number of bytes after it, and set their flags of dropped bytes together;
the backlog holds the collector's two streams merged in the order the chunks arrived
(`backlog_agrees_with_collector`).

`Mirrors` relates a backlog and a collector that were fed the same chunks. One append keeps
it (`Mirrors.append`), and so does a run of appends (`Mirrors.exec`).
-/

namespace Confine

namespace Backlog

open Collector (bytesOf streamOf clip)

/-- The calls on a backlog that append tagged chunks in order; the backlog does not look at
the stream. -/
def appendsOf (chunks : List (Stream × List UInt8)) : List Call :=
  chunks.map fun x => .append x.2

@[simp] theorem appendsOf_nil : appendsOf [] = [] := rfl

@[simp] theorem appendsOf_cons (s : Stream) (bytes : List UInt8)
    (rest : List (Stream × List UInt8)) :
    appendsOf ((s, bytes) :: rest) = .append bytes :: appendsOf rest := rfl

theorem appendsOf_take (chunks : List (Stream × List UInt8)) (i : Nat) :
    appendsOf (chunks.take i) = (appendsOf chunks).take i :=
  List.map_take ..

/-- A backlog and a collector fed the same chunks, with no drain between: the same budget,
as many bytes waiting as accepted, and the same flag. -/
structure Mirrors (b : Backlog) (c : Collector) : Prop where
  budget : b.budget = c.budget
  len : b.len = c.len
  truncated : b.truncated = c.truncated

theorem mirrors_empty (B : Nat) : Mirrors (empty B) (Collector.empty B) := ⟨rfl, rfl, rfl⟩

variable {b : Backlog} {c : Collector}

/-- Mirrored, the backlog has the collector's room left. -/
theorem Mirrors.room (h : Mirrors b c) : b.budget - b.len = c.room := by
  rw [h.budget, h.len]
  rfl

/-- One chunk appended to both: the same count kept, still mirrored, and the backlog grows
by what the collector keeps of the chunk. -/
theorem Mirrors.append (h : Mirrors b c) (bytes : List UInt8) (s : Stream) :
    (b.append bytes).1 = (c.append bytes s).1 ∧
      Mirrors (b.append bytes).2 (c.append bytes s).2 ∧
      (b.append bytes).2.pending = b.pending ++ bytes.take c.room := by
  have hkept : (b.append bytes).1 = (c.append bytes s).1 := by
    rw [append_fst, Collector.append_fst, h.room]
  refine ⟨hkept, ⟨?_, ?_, ?_⟩, by rw [pending_append, h.room]⟩
  · rw [budget_append, Collector.budget_append, h.budget]
  · rw [len_append, Collector.len_append, h.len, hkept]
  · rw [truncated_append, Collector.truncated_append, h.truncated, h.room]

/-- Chunks appended to both, by induction on the chunks: the backlog replies with the
counts the collector returns, stays mirrored, and grows by what the collector's budget
keeps of the chunks. -/
theorem Mirrors.exec (h : Mirrors b c) (chunks : List (Stream × List UInt8)) :
    (b.exec (appendsOf chunks)).1 = (c.run chunks).1.map .kept ∧
      Mirrors (b.exec (appendsOf chunks)).2 (c.run chunks).2 ∧
      (b.exec (appendsOf chunks)).2.pending = b.pending ++ bytesOf (clip c.room chunks) := by
  induction chunks generalizing b c with
  | nil => exact ⟨rfl, h, by simp⟩
  | cons x rest ih =>
    obtain ⟨s, bytes⟩ := x
    obtain ⟨hkept, hnext, hpending⟩ := h.append bytes s
    obtain ⟨hreplies, hrest, hrestPending⟩ := ih hnext
    rw [appendsOf_cons, exec_cons, Collector.run_cons]
    refine ⟨?_, hrest, ?_⟩
    · simp only [step, List.map_cons, hkept, hreplies]
    · rw [step, hrestPending, hpending, Collector.room_append, Collector.clip_cons,
        Collector.bytesOf_cons, List.append_assoc]

/-- **Until it is drained, a backlog keeps what a collector keeps.** Fed the same chunks
of either stream from empty, with budget `B` and no drain between, a backlog and a
collector return the same count at every call and hold the same number of bytes after
every call. The backlog holds the collector's kept prefixes in arrival order, whose stdout
and stderr parts are the collector's two streams, and a drain then reports the
collector's flag of dropped bytes. -/
theorem backlog_agrees_with_collector (B : Nat) (chunks : List (Stream × List UInt8)) :
    let calls := appendsOf chunks
    let ks := ((Collector.empty B).run chunks).1
    let c := ((Collector.empty B).run chunks).2
    let b := ((empty B).exec calls).2
    let kept := List.zipWith (fun (x : Stream × List UInt8) k => (x.1, x.2.take k)) chunks ks
    ((empty B).exec calls).1 = ks.map .kept ∧
    (∀ i, ((empty B).exec (calls.take i)).2.len =
      ((Collector.empty B).run (chunks.take i)).2.len) ∧
    b.pending = bytesOf kept ∧
    c.stdout = streamOf .stdout kept ∧ c.stderr = streamOf .stderr kept ∧
    ∀ m, ((empty B).exec (calls ++ [.drain m])).1 =
      ((empty B).exec calls).1 ++ [.drained (b.pending.take m) c.truncated] := by
  intro calls ks c b kept
  obtain ⟨hreplies, hmirror, hpending⟩ := (mirrors_empty B).exec chunks
  -- the collector's kept prefixes are what its budget keeps of the chunks
  have hkept : kept = clip B chunks := by
    simp only [kept, ks, Collector.run_empty_fst]
    exact Collector.zipWith_take_clip B chunks
  have hstream (t : Stream) : c.kept t = streamOf t kept := by
    rw [hkept]
    simpa using Collector.kept_run (Collector.empty B) chunks t
  refine ⟨hreplies, fun i => ?_, ?_, hstream .stdout, hstream .stderr, fun m => ?_⟩
  · rw [← appendsOf_take]
    exact ((mirrors_empty B).exec (chunks.take i)).2.1.len
  · rw [hkept, show b.pending = _ from hpending]
    simp [empty]
  · have htruncated : b.truncated = c.truncated := hmirror.truncated
    rw [← htruncated, exec_concat]
    rfl

/-- A backlog of four keeps three bytes of the first chunk and one of the second, and then
none, as a collector of four does. -/
example :
    ((empty 4).exec (appendsOf [(.stdout, [1, 2, 3]), (.stderr, [4, 5]), (.stdout, [6])])).1 =
      [.kept 3, .kept 1, .kept 0] := by
  decide

end Backlog

end Confine
