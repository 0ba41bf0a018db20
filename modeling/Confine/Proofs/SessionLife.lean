import Confine.Session

/-!
# What the registry's operations leave of a session

A registered session is written to, read from, listed and looked at; none of that
closes it or signals its child. Each such operation keeps the session's `mark`: its id,
whether it is closed, and the signals sent to its child's group.

Closing is the one operation that changes the mark, and it takes effect once. It marks
the session closed and lets go of the terminal, and it asks the child's group to end
only when the look it takes first finds the child running; closing a closed session
does nothing. `Session.Live` is what a registered session satisfies, `Session.Retired`
what a closed one does (`retired_close`).
-/

namespace Confine

open Confine.Host

namespace Child

@[simp] theorem signals_traceTo (c : Child) (horizon : Nat) :
    (c.traceTo horizon).signals = c.signals := rfl

@[simp] theorem status_traceTo (c : Child) (horizon : Nat) :
    (c.traceTo horizon).status = c.status := rfl

@[simp] theorem signals_upTo (c : Child) (t : Nat) : (c.upTo t).signals = c.signals := by
  unfold upTo
  split <;> rfl

@[simp] theorem status_upTo (c : Child) (t : Nat) : (c.upTo t).status = c.status := by
  unfold upTo
  split <;> rfl

/-- A look at the child sends it nothing. -/
@[simp] theorem signals_poll (c : Child) (t : Nat) : (c.poll t).1.signals = c.signals := by
  unfold poll
  dsimp only
  split
  · rfl
  · split
    · split <;> simp
    · simp

/-- After a look, the child's status is known exactly when the look found it ended. -/
theorem status_poll (c : Child) (t : Nat) :
    ((c.poll t).1.status = none) = ((c.poll t).2 = true) := by
  unfold poll
  split
  · rename_i h
    simp only [Bool.false_eq_true, eq_iff_iff, iff_false]
    exact Option.isSome_iff_ne_none.mp h
  · rename_i h
    have hnone : c.status = none := by simpa using h
    dsimp only
    split
    · split <;> simp [hnone]
    · simp [hnone]

/-- Writing to the child's input sends it no signal. -/
theorem signals_of_write {c c' : Child} {t : Nat} {bytes : List UInt8}
    (h : c.write t bytes = .ok c') : c'.signals = c.signals := by
  unfold write at h
  split at h
  · cases h
  · cases h
    rfl

/-- A child just started has been sent nothing. -/
theorem signals_of_spawn {spec : LaunchSpec} {host : HostView} {c : Child}
    (h : spawn spec host = .ok c) : c.signals = [] := by
  unfold spawn at h
  cases hs : spec.start host with
  | error e => simp [hs, bind, Except.bind] at h
  | ok l =>
    simp only [hs, bind, Except.bind, pure, Except.pure, Except.ok.injEq] at h
    subst h
    rfl

/-- A signal sent while the group is there is recorded, with the time it arrives. -/
theorem signal_of_groupAlive {c : Child} {t : Nat} (sig : Nat) (h : c.groupAlive t = true) :
    (c.signal t sig).1.signals = c.signals ++ [(max t 1, sig)] ∧
      (c.signal t sig).1.status = c.status := by
  simp [signal, h]

/-- An unreaped leader keeps the group there. -/
theorem groupAlive_of_status {c : Child} (t : Nat) (h : c.status = none) :
    c.groupAlive t = true := by
  simp [groupAlive, h]

@[simp] theorem signals_closeInput (c : Child) : c.closeInput.signals = c.signals := rfl

@[simp] theorem status_closeInput (c : Child) : c.closeInput.status = c.status := rfl

@[simp] theorem inputOpen_closeInput (c : Child) : c.closeInput.inputOpen = false := rfl

end Child

namespace Session

/-- What the operations on a registered session keep: its id, whether it is closed, and
the signals its child was sent. -/
def mark (s : Session) : String × Bool × List (Nat × Nat) := (s.id, s.closed, s.child.signals)

@[simp] theorem mark_touch (s : Session) (now : Nat) : (s.touch now).mark = s.mark := rfl

@[simp] theorem mark_poll (s : Session) (now : Nat) : (s.poll now).1.mark = s.mark := by
  simp [poll, mark]

@[simp] theorem mark_feed (s : Session) (now : Nat) : (s.feed now).mark = s.mark := by
  simp [feed, mark]

theorem settled_fst (s : Session) (now : Nat) : (s.settled now).1 = (s.poll now).1 := by
  unfold settled
  generalize s.poll now = p
  obtain ⟨s', alive⟩ := p
  cases alive <;> rfl

@[simp] theorem mark_settled (s : Session) (now : Nat) : (s.settled now).1.mark = s.mark := by
  rw [settled_fst, mark_poll]

@[simp] theorem mark_drain (s : Session) (max : Nat) : (s.drain max).2.mark = s.mark := rfl

@[simp] theorem mark_snapshot (s : Session) (now : Nat) (epoch : Int) :
    (s.snapshot now epoch).1.mark = s.mark := by
  simp [snapshot]

/-- A write that succeeds changes only the child, as the child's own write does. -/
theorem write_eq_ok {s s' : Session} {now : Nat} {bytes : List UInt8}
    (h : s.write now bytes = .ok s') :
    ∃ c, s.child.write (s.childTime now) bytes = .ok c ∧ s' = { s with child := c } := by
  unfold write at h
  cases hw : s.child.write (s.childTime now) bytes with
  | error e => simp [hw, bind, Except.bind] at h
  | ok c =>
    simp only [hw, bind, Except.bind, pure, Except.pure, Except.ok.injEq] at h
    exact ⟨c, rfl, h.symm⟩

theorem mark_of_write {s s' : Session} {now : Nat} {bytes : List UInt8}
    (h : s.write now bytes = .ok s') : s'.mark = s.mark := by
  obtain ⟨c, hw, rfl⟩ := write_eq_ok h
  simp [mark, Child.signals_of_write hw]

theorem id_eq_of_mark {s s' : Session} (h : s'.mark = s.mark) : s'.id = s.id :=
  congrArg Prod.fst h

/-! Looking at the child and writing to it leave the backlog alone; a drain clears its flag. -/

@[simp] theorem backlog_touch (s : Session) (now : Nat) : (s.touch now).backlog = s.backlog := rfl

@[simp] theorem backlog_poll (s : Session) (now : Nat) : (s.poll now).1.backlog = s.backlog := rfl

@[simp] theorem backlog_snapshot (s : Session) (now : Nat) (epoch : Int) :
    (s.snapshot now epoch).1.backlog = s.backlog := rfl

@[simp] theorem backlog_drain (s : Session) (max : Nat) :
    (s.drain max).2.backlog = (s.backlog.drain max).2 := rfl

theorem backlog_of_write {s s' : Session} {now : Nat} {bytes : List UInt8}
    (h : s.write now bytes = .ok s') : s'.backlog = s.backlog := by
  obtain ⟨c, -, rfl⟩ := write_eq_ok h
  rfl

/-- A session as the registry holds it: not closed, and its child sent no signal. -/
def Live (s : Session) : Prop := s.closed = false ∧ s.child.signals = []

theorem Live.of_mark {s s' : Session} (h : s'.mark = s.mark) (hs : s.Live) : s'.Live := by
  simp only [mark, Prod.mk.injEq] at h
  exact ⟨h.2.1.trans hs.1, h.2.2.trans hs.2⟩

/-- A session as closing leaves it: closed, its terminal let go, and either its child
was seen ended and sent nothing, or it was seen running and sent one request to end. -/
def Retired (s : Session) : Prop :=
  s.closed = true ∧ s.child.inputOpen = false ∧
    ((s.child.signals = [] ∧ s.child.status.isSome) ∨
      ∃ t, s.child.signals = [(t, Signal.term)] ∧ s.child.status = none)

/-- Closing a closed session does nothing. -/
theorem close_of_closed {s : Session} (now : Nat) (h : s.closed = true) : s.close now = s := by
  simp [close, h]

@[simp] theorem id_close (s : Session) (now : Nat) : (s.close now).id = s.id := by
  unfold close
  split
  · rfl
  · simp [poll]

/-- Closing a registered session takes effect: it is closed, its terminal let go, and its
child asked to end exactly when the look that closing takes finds it running. -/
theorem retired_close {s : Session} (now : Nat) (h : s.Live) : (s.close now).Retired := by
  obtain ⟨hopen, hquiet⟩ := h
  have hsig : (s.poll now).1.child.signals = [] := by simp [poll, hquiet]
  have hstatus := Child.status_poll s.child (s.childTime now)
  simp only [close, hopen, Bool.false_eq_true, if_false]
  refine ⟨rfl, rfl, ?_⟩
  cases halive : (s.poll now).2
  · have hseen : (s.poll now).1.child.status.isSome := by
      simp only [poll] at halive ⊢
      rw [halive] at hstatus
      simpa [Option.isSome_iff_ne_none] using hstatus
    left
    simpa [hsig] using hseen
  · -- seen running: one request to end, delivered since the leader is unreaped
    have hnone : (s.poll now).1.child.status = none := by
      simp only [poll] at halive ⊢
      rw [halive] at hstatus
      simpa using hstatus
    obtain ⟨hsignals, hkept⟩ :=
      Child.signal_of_groupAlive Signal.term
        (Child.groupAlive_of_status ((s.poll now).1.childTime now) hnone)
    right
    refine ⟨max ((s.poll now).1.childTime now) 1, ?_, ?_⟩
    · simp [Child.terminate, hsignals, hsig]
    · simp [Child.terminate, hkept, hnone]

end Session

end Confine
