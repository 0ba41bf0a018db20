import Confine.Output.Backlog
import Mathlib.Data.List.Induction

/-!
# The session backlog is a bounded queue

A backlog receives appends from the reader of a terminal and drains from readers, in
any order. Whatever the order, it behaves as a queue bounded by its budget: every drain
returns the front of the backlog, and the bytes drained so far followed by those still
waiting are exactly the kept prefixes of the appends, so no kept byte is lost,
repeated or moved. The bound is on what waits, not on what was ever kept, so room
freed by a drain is used again. A drain reports whether an append since the previous
drain kept less than it was given, and clears that report.

The calls and their replies form a history; `keptOf`, `drainedOf` and
`droppedSinceDrain` read it without looking at the backlog.
-/

namespace Confine

namespace Backlog

/-- A call on a backlog: an append from the reader of the terminal, or a drain. -/
inductive Call where
  | append (bytes : List UInt8)
  | drain (max : Nat)
  deriving Repr, DecidableEq

/-- What a call returns: the count an append kept, or the bytes and the flag a drain
took. -/
inductive Reply where
  | kept (count : Nat)
  | drained (bytes : List UInt8) (truncated : Bool)
  deriving Repr, DecidableEq

/-- One call. -/
def step (b : Backlog) : Call → Reply × Backlog
  | .append bytes => (.kept (b.append bytes).1, (b.append bytes).2)
  | .drain max => (.drained (b.drain max).1.1 (b.drain max).1.2, (b.drain max).2)

/-- Calls in order: their replies, and the backlog after them. -/
def exec (b : Backlog) : List Call → List Reply × Backlog
  | [] => ([], b)
  | c :: cs => ((b.step c).1 :: ((b.step c).2.exec cs).1, ((b.step c).2.exec cs).2)

/-! ## Reading a history -/

/-- The bytes a call added to the backlog: the kept prefix of an append. -/
def keptBy : Call × Reply → List UInt8
  | (.append bytes, .kept k) => bytes.take k
  | _ => []

/-- The bytes a call took from the backlog. -/
def drainedBy : Call × Reply → List UInt8
  | (.drain _, .drained bytes _) => bytes
  | _ => []

/-- Whether a call was an append that kept less than it was given. -/
def clippedBy : Call × Reply → Bool
  | (.append bytes, .kept k) => decide (k < bytes.length)
  | _ => false

/-- Whether a call was a drain. -/
def isDrain : Call × Reply → Bool
  | (.drain _, _) => true
  | _ => false

/-- The kept prefixes of the appends of a history, in order. -/
def keptOf (h : List (Call × Reply)) : List UInt8 := h.flatMap keptBy

/-- The bytes the drains of a history returned, in order. -/
def drainedOf (h : List (Call × Reply)) : List UInt8 := h.flatMap drainedBy

/-- Whether an append after the last drain of a history, or in all of it when there was
no drain, kept less than it was given. -/
def droppedSinceDrain (h : List (Call × Reply)) : Bool :=
  (h.reverse.takeWhile (!isDrain ·)).any clippedBy

@[simp] theorem keptOf_nil : keptOf [] = [] := rfl

@[simp] theorem drainedOf_nil : drainedOf [] = [] := rfl

@[simp] theorem droppedSinceDrain_nil : droppedSinceDrain [] = false := rfl

@[simp] theorem keptOf_concat (h : List (Call × Reply)) (e : Call × Reply) :
    keptOf (h ++ [e]) = keptOf h ++ keptBy e := by
  simp [keptOf]

@[simp] theorem drainedOf_concat (h : List (Call × Reply)) (e : Call × Reply) :
    drainedOf (h ++ [e]) = drainedOf h ++ drainedBy e := by
  simp [drainedOf]

/-- A drain clears the report; an append adds to it whether it was cut. -/
theorem droppedSinceDrain_concat (h : List (Call × Reply)) (e : Call × Reply) :
    droppedSinceDrain (h ++ [e]) = (!isDrain e && (clippedBy e || droppedSinceDrain h)) := by
  by_cases hd : isDrain e <;> simp [droppedSinceDrain, hd]

/-! ## Running calls -/

@[simp] theorem exec_nil (b : Backlog) : b.exec [] = ([], b) := rfl

theorem exec_cons (b : Backlog) (c : Call) (cs : List Call) :
    b.exec (c :: cs) = ((b.step c).1 :: ((b.step c).2.exec cs).1, ((b.step c).2.exec cs).2) :=
  rfl

theorem length_exec (b : Backlog) (calls : List Call) : (b.exec calls).1.length = calls.length := by
  induction calls generalizing b with
  | nil => rfl
  | cons c cs ih => simp [exec, ih]

/-- The next call after a run is one step from where the run left the backlog. -/
theorem exec_concat (b : Backlog) (calls : List Call) (c : Call) :
    b.exec (calls ++ [c]) =
      ((b.exec calls).1 ++ [((b.exec calls).2.step c).1], ((b.exec calls).2.step c).2) := by
  induction calls generalizing b with
  | nil => rfl
  | cons c' cs ih => simp [exec, ih]

theorem history_concat (b : Backlog) (calls : List Call) (c : Call) :
    (calls ++ [c]).zip (b.exec (calls ++ [c])).1 =
      calls.zip (b.exec calls).1 ++ [(c, ((b.exec calls).2.step c).1)] := by
  rw [exec_concat, List.zip_append (length_exec b calls).symm]
  rfl

@[simp] theorem budget_step (b : Backlog) (c : Call) : (b.step c).2.budget = b.budget := by
  cases c <;> simp [step]

/-- One call keeps the backlog within its budget. -/
theorem len_step_le (b : Backlog) (c : Call) (h : b.len ≤ b.budget) :
    (b.step c).2.len ≤ b.budget := by
  cases c with
  | append bytes =>
    simp only [step]
    rw [len_append, append_fst]
    omega
  | drain max =>
    simp only [step, len, pending_drain, List.length_drop]
    simp only [len] at h
    omega

/-- One call moves the boundary between drained and waiting bytes and nothing else:
what it drains leaves the front, what it keeps joins the back. -/
theorem drained_step (b : Backlog) (c : Call) :
    drainedBy (c, (b.step c).1) ++ (b.step c).2.pending =
      b.pending ++ keptBy (c, (b.step c).1) := by
  cases c with
  | append bytes =>
    simp only [step, drainedBy, keptBy, pending_append, append_fst, List.nil_append]
    congr 1
    exact List.take_eq_take_iff.mpr (by omega)
  | drain max => simp [step, drainedBy, keptBy]

/-- One call leaves the flag set exactly when it was an append that got cut, or the
flag was set and the call was no drain. -/
theorem truncated_step (b : Backlog) (c : Call) :
    (b.step c).2.truncated =
      (!isDrain (c, (b.step c).1) && (clippedBy (c, (b.step c).1) || b.truncated)) := by
  cases c with
  | append bytes =>
    simp only [step, truncated_append, isDrain, clippedBy, append_fst, Bool.not_false,
      Bool.true_and]
    rw [Bool.or_comm]
    congr 2
    exact propext (by omega)
  | drain max => simp [step, isDrain]

/-- Every call of a run from an empty backlog, as read from its history. -/
theorem exec_empty_spec (B : Nat) (calls : List Call) :
    let run := (empty B).exec calls
    run.2.budget = B ∧ run.2.len ≤ B ∧
      drainedOf (calls.zip run.1) ++ run.2.pending = keptOf (calls.zip run.1) ∧
      run.2.truncated = droppedSinceDrain (calls.zip run.1) := by
  induction calls using List.reverseRecOn with
  | nil => simp [empty, len]
  | append_singleton calls c ih =>
    obtain ⟨hbudget, hlen, hfifo, hflag⟩ := ih
    simp only at hbudget hlen hfifo hflag ⊢
    rw [history_concat, exec_concat]
    refine ⟨by simp [hbudget], ?_, ?_, ?_⟩
    · have hstep := len_step_le ((empty B).exec calls).2 c (by rw [hbudget]; exact hlen)
      rwa [hbudget] at hstep
    · rw [keptOf_concat, drainedOf_concat, List.append_assoc, drained_step, ← List.append_assoc,
        hfifo]
    · rw [droppedSinceDrain_concat, truncated_step, hflag]

/-- **The backlog is a bounded queue.** After any calls on a backlog of budget `B`,
the backlog holds at most `B` bytes, and the bytes drained so far followed by the
backlog are the kept prefixes of the appends. An append keeps what is left of the
budget now, capped by its chunk, so room freed by drains is used again; a drain returns
the first `min len m` bytes of the backlog together with whether an append since the
previous drain was cut, and clears that flag, even when it takes nothing. -/
theorem exec_backlog_fifo (B : Nat) (calls : List Call) :
    let run := (empty B).exec calls
    let b := run.2
    let history := calls.zip run.1
    b.len ≤ B ∧
    drainedOf history ++ b.pending = keptOf history ∧
    b.truncated = droppedSinceDrain history ∧
    (∀ bytes, ((empty B).exec (calls ++ [.append bytes])).1 =
      run.1 ++ [.kept (min bytes.length (B - b.len))]) ∧
    (∀ m, ((empty B).exec (calls ++ [.drain m])).1 =
        run.1 ++ [.drained (b.pending.take m) (droppedSinceDrain history)] ∧
      (b.pending.take m).length = min b.len m ∧
      ((empty B).exec (calls ++ [.drain m])).2.truncated = false) := by
  intro run b history
  obtain ⟨hbudget, hlen, hfifo, hflag⟩ := exec_empty_spec B calls
  refine ⟨hlen, hfifo, hflag, ?_, ?_⟩
  · intro bytes
    rw [exec_concat]
    simp only [step, append_fst]
    rw [hbudget]
  · intro m
    refine ⟨?_, ?_, ?_⟩
    · rw [exec_concat]
      simp only [step, drain_fst]
      rw [← hflag]
    · simp [len, Nat.min_comm]
    · rw [exec_concat]
      simp [step]

/-- Room freed by a drain is used again: a full backlog of two drained by one takes a
new byte. -/
example :
    ((empty 2).exec [.append [1, 2, 3], .drain 1, .append [4, 5]]).1 =
      [.kept 2, .drained [1] true, .kept 1] := by
  decide

end Backlog

end Confine
