import Confine.Proofs.RegistryRuns

/-!
# A read drains the backlog it finds and reports each drop once

A read looks at its session one poll interval after another. Each look drops the idle
sessions, moves the chunks the child wrote since the previous look into the backlog
(`Session.backlogAt`), and drains up to `max m 1` bytes. The read ends at the first look
that does not find the session, that has something to return (bytes, a drop, or the end
of the output), or that comes at or after the deadline (`readLoop_looks`).

So a read fails for a missing session exactly when one of its looks finds none; it
returns the first `max m 1` bytes of the backlog its last look drained, at least one when
there was one, so a read of zero bytes cannot wait on a full backlog; and it returns
nothing only when it saw the deadline pass, after draining at least once. Between
operations no backlog reports a drop (`Sound.clear`), so the flag a look drains says
whether the chunks that look moved in lost bytes (`Session.dropsAt`); a look that drains
such a flag ends its read, and the read reports it (`read_drains_backlog`).
-/

namespace Confine

namespace Text.Utf8

/-- Only no bytes decode to the empty text. -/
theorem decodeLossy_eq_empty_iff (bs : List UInt8) : decodeLossy bs = "" ↔ bs = [] := by
  cases bs with
  | nil => simp [decodeLossy]
  | cons b rest => simp [decodeLossy, decode_cons]

end Text.Utf8

namespace Backlog

/-- Whether appending chunks in order keeps, at some append, fewer bytes than the chunk
has. -/
def drops (b : Backlog) : List (List UInt8) → Bool
  | [] => false
  | c :: cs => decide ((b.append c).1 < c.length) || (b.append c).2.drops cs

/-- After appending chunks the flag is set when it was set before or a chunk lost bytes. -/
theorem truncated_foldl_append (b : Backlog) (cs : List (List UInt8)) :
    (cs.foldl (fun b c => (b.append c).2) b).truncated = (b.truncated || b.drops cs) := by
  induction cs generalizing b with
  | nil => simp [drops]
  | cons c cs ih =>
    rw [List.foldl_cons, ih, truncated_append, drops, append_fst, Bool.or_assoc]
    -- a chunk keeps `min length room` bytes, so it loses some exactly when room is short
    have hshort : decide (b.budget - b.len < c.length) =
        decide (min c.length (b.budget - b.len) < c.length) := by
      simp only [decide_eq_decide]
      omega
    rw [hshort]

end Backlog

namespace Session

/-- The chunks a look at time `now` moves into the backlog: those that reached the parent
since the previous look, none once the pump has stopped. -/
def fresh (s : Session) (now : Nat) : List (List UInt8) :=
  if s.pumpDone then [] else
    ((s.child.upTo (s.childTime now)).arrivedBefore (s.childTime now)).drop s.fed

/-- The backlog a look at time `now` drains: the chunks it moves in, appended in order. -/
def backlogAt (s : Session) (now : Nat) : Backlog :=
  (s.fresh now).foldl (fun b c => (b.append c).2) s.backlog

/-- Whether the chunks a look at time `now` moves into the backlog lose bytes. -/
def dropsAt (s : Session) (now : Nat) : Bool := s.backlog.drops (s.fresh now)

theorem backlog_feed (s : Session) (now : Nat) :
    ((s.touch now).feed now).backlog = s.backlogAt now := rfl

theorem truncated_backlogAt (s : Session) (now : Nat) :
    (s.backlogAt now).truncated = (s.backlog.truncated || s.dropsAt now) :=
  Backlog.truncated_foldl_append _ _

theorem backlog_settled (s : Session) (now : Nat) : (s.settled now).1.backlog = s.backlog := by
  rw [settled_fst]
  rfl

/-- An eager look drains the backlog the pump filled as the look began. -/
theorem look_eager (s : Session) (now m : Nat) :
    (s.look now m).1 = ⟨(s.backlogAt now).pending.take m, (s.backlogAt now).truncated,
      (((s.touch now).feed now).settled now).2 && ((s.backlogAt now).pending.drop m).isEmpty,
      ((s.touch now).feed now).pumpDone⟩ := by
  have hb : (((s.touch now).feed now).settled now).1.backlog = s.backlogAt now := by
    rw [backlog_settled, backlog_feed]
  simp only [look, feedAt, Pace.eager, drain, Backlog.drain, Backlog.isEmpty, hb]

end Session

namespace Registry

@[simp] theorem now_prune (r : Registry) : r.prune.now = r.now := rfl

/-! ## One look -/

theorem readOnce_of_find?_none {r : Registry} {id : String} (m : Nat)
    (h : r.prune.find? id = none) : r.readOnce id m = (r.prune, .error (.sessionNotFound id)) := by
  simp only [readOnce, h]

/-- A look that finds the session drains the first `m` bytes of the backlog with its flag,
and answers when it took bytes, found a drop, or sees the end of the output. -/
theorem readOnce_of_find?_some {r : Registry} {id : String} (m : Nat) {s : Session}
    (h : r.prune.find? id = some s) :
    let b := s.backlogAt r.now
    let eof := (((s.touch r.now).feed r.now).settled r.now).2 && (b.pending.drop m).isEmpty
    (r.readOnce id m).2 =
      if (!(b.pending.take m).isEmpty || b.truncated || eof) = true then
        .ok (some ⟨Text.Utf8.decodeLossy (b.pending.take m), "", eof, b.truncated⟩)
      else .ok none := by
  intro b eof
  simp only [readOnce, h, now_prune, Session.look_eager, apply_ite Prod.snd]
  rfl

section Look

variable {L : Registry} {id : String} {M : Nat}

/-- A look fails only for a missing session. -/
theorem look_error {e : Error} (he : (L.readOnce id M).2 = .error e) :
    e = .sessionNotFound id ∧ L.prune.find? id = none := by
  cases hf : L.prune.find? id with
  | none =>
    rw [readOnce_of_find?_none M hf] at he
    cases he
    exact ⟨rfl, rfl⟩
  | some s =>
    rw [readOnce_of_find?_some M hf] at he
    split at he <;> cases he

/-- A look that answers nothing found the session with an empty backlog and no drop. -/
theorem look_waits (hM : 0 < M) (hnone : (L.readOnce id M).2 = .ok none) :
    ∃ s, L.prune.find? id = some s ∧ (s.backlogAt L.now).pending = [] ∧
      s.dropsAt L.now = false := by
  cases hf : L.prune.find? id with
  | none =>
    rw [readOnce_of_find?_none M hf] at hnone
    cases hnone
  | some s =>
    rw [readOnce_of_find?_some M hf] at hnone
    split at hnone
    · cases hnone
    · rename_i hquiet
      simp only [Bool.or_eq_true, Bool.not_eq_true', not_or, Bool.not_eq_true,
        List.isEmpty_eq_false_iff, ne_eq, Decidable.not_not] at hquiet
      obtain ⟨⟨htake, htrunc⟩, -⟩ := hquiet
      rw [Session.truncated_backlogAt, Bool.or_eq_false_iff] at htrunc
      refine ⟨s, rfl, ?_, htrunc.2⟩
      rcases List.take_eq_nil_iff.mp htake with hzero | hnil
      · omega
      · exact hnil

/-- A look that answers found the session, returns the first `M` bytes of its backlog,
at least one when there was one, reports exactly whether the chunks it moved in lost
bytes, and never answers with nothing at all. -/
theorem look_answers (hL : L.Sound) (hM : 0 < M) {x : ReadResult}
    (hx : (L.readOnce id M).2 = .ok (some x)) :
    ∃ s, L.prune.find? id = some s ∧
      x.stdout = Text.Utf8.decodeLossy ((s.backlogAt L.now).pending.take M) ∧
      ((s.backlogAt L.now).pending ≠ [] → x.stdout ≠ "") ∧
      x.truncated = s.dropsAt L.now ∧ x ≠ .nothing := by
  cases hf : L.prune.find? id with
  | none =>
    rw [readOnce_of_find?_none M hf] at hx
    cases hx
  | some s =>
    rw [readOnce_of_find?_some M hf] at hx
    split at hx
    · rename_i hsay
      cases hx
      -- the session was registered after the prune, so its flag was clear before the look
      have hclear := ((leads_prune L).sound hL).clear s (List.mem_of_find?_eq_some hf)
      have hbytes : ∀ {bs : List UInt8}, bs ≠ [] →
          Text.Utf8.decodeLossy (bs.take M) ≠ "" := fun hbs hempty => by
        rw [Text.Utf8.decodeLossy_eq_empty_iff, List.take_eq_nil_iff] at hempty
        rcases hempty with hzero | hnil
        · omega
        · exact hbs hnil
      refine ⟨s, rfl, rfl, hbytes,
        by rw [Session.truncated_backlogAt, hclear, Bool.false_or], ?_⟩
      intro hnothing
      simp only [ReadResult.nothing, ReadResult.mk.injEq, Text.Utf8.decodeLossy_eq_empty_iff,
        true_and] at hnothing
      obtain ⟨htake, heof, htrunc⟩ := hnothing
      simp [htake, heof, htrunc] at hsay
    · cases hx

end Look

/-! ## The looks of a read -/

/-- One wait of a read: a look, then a poll interval. -/
def readNext (id : String) (m tick : Nat) (r : Registry) : Registry :=
  (r.readOnce id m).1.advance ((r.readOnce id m).1.now + tick)

theorem leads_readNext (id : String) (m tick : Nat) :
    ∀ (i : Nat) (r : Registry), Leads r ((readNext id m tick)^[i] r)
  | 0, r => Leads.refl r
  | i + 1, r => by
    rw [Function.iterate_succ_apply]
    exact ((leads_readOnce r id m).trans (leads_advance _ _)).trans (leads_readNext id m tick i _)

/-- The read loop, look by look: every look before the last answers nothing before the
deadline, and the last one fails, answers, or sees the deadline pass. -/
theorem readLoop_looks {id : String} {m tick : Nat} {deadline : Option Nat} :
    ∀ r res, readLoop id m tick deadline r = some res →
      ∃ n, (∀ i < n, (((readNext id m tick)^[i] r).readOnce id m).2 = .ok none ∧
          deadline.any (· ≤ (((readNext id m tick)^[i] r).readOnce id m).1.now) = false) ∧
        let o := ((readNext id m tick)^[n] r).readOnce id m
        (∃ e, o.2 = .error e ∧ res = (o.1, .error e)) ∨
        (∃ x, o.2 = .ok (some x) ∧ res = (o.1, .ok x)) ∨
        (o.2 = .ok none ∧ deadline.any (· ≤ o.1.now) = true ∧
          res = (o.1, .ok .nothing)) := by
  refine readLoop_partial_correctness id m tick deadline _ ?_
  intro loop ih r res hres
  rw [readStep] at hres
  have hnone : ∀ i, ¬i < 0 := Nat.not_lt_zero
  split at hres
  · rename_i r' e heq
    cases hres
    exact ⟨0, fun i hi => absurd hi (hnone i), Or.inl ⟨e, by simp [heq], by simp [heq]⟩⟩
  · rename_i r' x heq
    cases hres
    exact ⟨0, fun i hi => absurd hi (hnone i),
      Or.inr (Or.inl ⟨x, by simp [heq], by simp [heq]⟩)⟩
  · rename_i r' heq
    split at hres
    · rename_i hpassed
      cases hres
      exact ⟨0, fun i hi => absurd hi (hnone i),
        Or.inr (Or.inr ⟨by simp [heq], by simpa [heq] using hpassed, by simp [heq]⟩)⟩
    · -- the look waits: the rest of the read is the loop from the next look
      rename_i hwaiting
      obtain ⟨n, hwait, hlast⟩ := ih _ _ hres
      have hnext : readNext id m tick r = r'.advance (r'.now + tick) := by simp [readNext, heq]
      refine ⟨n + 1, fun i hi => ?_, ?_⟩
      · cases i with
        | zero => exact ⟨by simp [heq], by simpa [heq] using hwaiting⟩
        | succ j =>
          rw [Function.iterate_succ_apply, hnext]
          exact hwait j (by omega)
      · rw [Function.iterate_succ_apply, hnext]
        exact hlast

/-- The registry at each look of a read of `m` bytes from `r`: the first just after the
call's first tick, each next one a poll interval after the one before. -/
def readLook (r : Registry) (id : String) (m : Nat) (i : Nat) : Registry :=
  let r₀ := r.advance (r.now + opCost)
  (readNext id (max m 1) (r₀.engine.config.pollInterval.nanos + Clock.timerSlack))^[i] r₀

/-- The deadline of a read with a timeout: the timeout after the call's first tick. -/
def readDeadline (r : Registry) (timeout : Option Duration) : Option Nat :=
  timeout.map ((r.advance (r.now + opCost)).now + ·.nanos)

theorem Sound.readLook {r : Registry} (h : r.Sound) (id : String) (m i : Nat) :
    (r.readLook id m i).Sound :=
  ((leads_advance r _).trans (leads_readNext _ _ _ i _)).sound h

/-- A read call, look by look: it refuses a timeout the clock cannot hold, or it looks
until a look fails, answers, or sees the deadline pass. -/
theorem readCall_looks {r r' : Registry} {id : String} {m : Nat} {timeout : Option Duration}
    {res : Except Fault ReadResult} (h : r.readCall id m timeout = some (r', res)) :
    res = .error (.overflow Clock.overflowMessage) ∨
    ∃ n, (∀ i < n, ((r.readLook id m i).readOnce id (max m 1)).2 = .ok none ∧
        (r.readDeadline timeout).any
          (· ≤ ((r.readLook id m i).readOnce id (max m 1)).1.now) = false) ∧
      let o := (r.readLook id m n).readOnce id (max m 1)
      (∃ e, o.2 = .error e ∧ res = .error (.error e)) ∨
      (∃ x, o.2 = .ok (some x) ∧ res = .ok x) ∨
      (o.2 = .ok none ∧ (r.readDeadline timeout).any (· ≤ o.1.now) = true ∧
        res = .ok .nothing) := by
  unfold readCall at h
  dsimp only at h
  split at h
  · cases h
    exact Or.inl rfl
  · obtain ⟨⟨r'', answer⟩, hloop, hmap⟩ := Option.map_eq_some_iff.mp h
    simp only [Prod.mk.injEq] at hmap
    obtain ⟨-, rfl⟩ := hmap
    obtain ⟨n, hwait, hlast⟩ := readLoop_looks _ _ hloop
    refine Or.inr ⟨n, hwait, ?_⟩
    rcases hlast with ⟨e, he, hans⟩ | ⟨x, hx, hans⟩ | ⟨hnone, hpassed, hans⟩ <;>
      simp only [Prod.mk.injEq] at hans <;> obtain ⟨-, rfl⟩ := hans
    · exact Or.inl ⟨e, he, rfl⟩
    · exact Or.inr (Or.inl ⟨x, hx, rfl⟩)
    · exact Or.inr (Or.inr ⟨hnone, hpassed, rfl⟩)

/-- What a read returns is what its last look decides: a failure exactly for a missing
session, otherwise the look's answer, or nothing at all once the deadline passed. -/
theorem last_look {L : Registry} {id : String} {M : Nat} {passed : Bool}
    {res : Except Fault ReadResult} (hL : L.Sound) (hM : 0 < M)
    (hlast : (∃ e, (L.readOnce id M).2 = .error e ∧ res = .error (.error e)) ∨
      (∃ x, (L.readOnce id M).2 = .ok (some x) ∧ res = .ok x) ∨
      ((L.readOnce id M).2 = .ok none ∧ passed = true ∧ res = .ok .nothing)) :
    (res = .error (.error (.sessionNotFound id)) ↔ L.prune.find? id = none) ∧
    ∀ x, res = .ok x → ∃ s, L.prune.find? id = some s ∧
      x.stdout = Text.Utf8.decodeLossy ((s.backlogAt L.now).pending.take M) ∧
      ((s.backlogAt L.now).pending ≠ [] → x.stdout ≠ "") ∧
      x.truncated = s.dropsAt L.now ∧ (x = .nothing → passed = true) := by
  rcases hlast with ⟨e, he, rfl⟩ | ⟨y, hy, rfl⟩ | ⟨hnone, hpassed, rfl⟩
  · obtain ⟨rfl, hmissing⟩ := look_error he
    exact ⟨iff_of_true rfl hmissing, fun x hx => by cases hx⟩
  · obtain ⟨s, hs, hstdout, hbytes, htrunc, hsome⟩ := look_answers hL hM hy
    refine ⟨iff_of_false (fun h => by cases h) (by simp [hs]), fun x hx => ?_⟩
    cases hx
    exact ⟨s, hs, hstdout, hbytes, htrunc, fun hnothing => absurd hnothing hsome⟩
  · obtain ⟨s, hs, hempty, hdrop⟩ := look_waits hM hnone
    refine ⟨iff_of_false (fun h => by cases h) (by simp [hs]), fun x hx => ?_⟩
    cases hx
    refine ⟨s, hs, ?_, fun hne => absurd hempty hne, ?_, fun _ => hpassed⟩
    · simp [hempty, ReadResult.nothing, Text.Utf8.decodeLossy]
    · simp [ReadResult.nothing, hdrop]

/-- **A read drains the backlog it finds and reports each drop once.** From any registry a
run reaches, where no backlog holds an unreported drop, a read that returns either
refused its timeout or ended at some look `n`, every look before which found the session
with an empty backlog, no drop and the deadline not reached. It fails for a missing
session exactly when a look found none. Otherwise it returns the first `max m 1` bytes
of the backlog its last look drained, at least one when there was one, reports exactly
whether the chunks that look moved in lost bytes, and returns nothing at all only when
that look saw the deadline pass. -/
theorem read_drains_backlog (engine : Engine) (ops : List Op) (id : String) (m : Nat)
    (timeout : Option Duration) :
    let r := (new engine).run ops
    let look := r.readLook id m
    let seen := fun i => (look i).prune.find? id
    let passed := fun i =>
      (r.readDeadline timeout).any (· ≤ ((look i).readOnce id (max m 1)).1.now)
    (∀ s ∈ r.sessions, s.backlog.truncated = false) ∧
    ∀ r' res, r.readCall id m timeout = some (r', res) →
      res = .error (.overflow Clock.overflowMessage) ∨
      ∃ n,
        (∀ i < n, ∃ s, seen i = some s ∧ (s.backlogAt (look i).now).pending = [] ∧
          s.dropsAt (look i).now = false ∧ passed i = false) ∧
        (res = .error (.error (.sessionNotFound id)) ↔ ∃ i ≤ n, seen i = none) ∧
        ∀ x, res = .ok x → ∃ s, seen n = some s ∧
          x.stdout = Text.Utf8.decodeLossy
            ((s.backlogAt (look n).now).pending.take (max m 1)) ∧
          ((s.backlogAt (look n).now).pending ≠ [] → x.stdout ≠ "") ∧
          x.truncated = s.dropsAt (look n).now ∧
          (x = .nothing → passed n = true) := by
  intro r look seen passed
  simp only [look, seen, passed]
  obtain ⟨h, -, -⟩ := (sound_new engine).run ops
  refine ⟨h.clear, fun r' res hcall => ?_⟩
  rcases readCall_looks hcall with hover | ⟨n, hwait, hlast⟩
  · exact Or.inl hover
  have hM : 0 < max m 1 := Nat.lt_of_lt_of_le Nat.zero_lt_one (Nat.le_max_right m 1)
  obtain ⟨hlastMissing, hlastAnswer⟩ := last_look (h.readLook id m n) hM hlast
  refine Or.inr ⟨n, fun i hi => ?_, ?_, hlastAnswer⟩
  · obtain ⟨hnone, hwaiting⟩ := hwait i hi
    obtain ⟨s, hs, hempty, hdrop⟩ := look_waits hM hnone
    exact ⟨s, hs, hempty, hdrop, hwaiting⟩
  · -- the looks before the last found the session, so only the last can miss it
    rw [hlastMissing]
    refine ⟨fun hmissing => ⟨n, le_refl n, hmissing⟩, fun ⟨i, hi, hmissing⟩ => ?_⟩
    rcases Nat.lt_or_eq_of_le hi with hlt | rfl
    · obtain ⟨s, hs, -⟩ := look_waits hM (hwait i hlt).1
      cases hs.symm.trans hmissing
    · exact hmissing

end Registry

end Confine
