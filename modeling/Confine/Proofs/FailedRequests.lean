import Confine.Proofs.JailedPaths
import Confine.Proofs.IdleEviction

/-!
# Failed requests leave the registry as it was

A request that fails changes the registry no more than its failure point allows. Opening
resolves the working directory and checks it before it looks at the registry, so a refused
directory leaves the registry as it was: only the clock moves, with the reaper's sweeps
that fall due meanwhile. A child that fails to start comes after the prune and the taking
of a sequence number but before any eviction, so even a full registry loses no session to
it. Writing, reading and closing an id that the prune does not find report it missing, or
do nothing for a close, and leave the pruned registry with no session touched
(`failed_requests_leave_registry`).

The one refusal of a read that comes before its prune is a timeout the host's clock
cannot add to the current time: the read then stops with the clock's overflow, having only
let the clock move.
-/

namespace Confine

/-! ## Where refusals come from -/

/-- A refused launch is a launch failure, whatever the host refuses. -/
theorem LaunchSpec.start_error {s : LaunchSpec} {host : HostView} {e : Error}
    (he : s.start host = .error e) : ∃ context, e = .launchFailed context := by
  unfold start at he
  simp only [bind, Except.bind, pure, Except.pure] at he
  split at he
  · cases he
    exact ⟨_, rfl⟩
  · -- the working directory, then the program, each refused as a launch failure
    split at he
    · split at he
      · split at he
        · cases he
        · cases he
          exact ⟨_, rfl⟩
      · cases he
        exact ⟨_, rfl⟩
    · cases he
      exact ⟨_, rfl⟩

theorem Child.spawn_error {spec : LaunchSpec} {host : HostView} {e : Error}
    (he : Child.spawn spec host = .error e) : ∃ context, e = .launchFailed context := by
  unfold Child.spawn at he
  cases hs : spec.start host with
  | error e' =>
    simp only [hs, bind, Except.bind] at he
    cases he
    exact LaunchSpec.start_error hs
  | ok l => simp [hs, bind, Except.bind, pure, Except.pure] at he

/-- A refused request is refused for its working directory: the jail or the host's file
tree has no such directory. -/
theorem Engine.prepare_error {eng : Engine} {command : String} {cwd : Option String}
    {mode : TerminalMode} {env : List (String × String)} {e : Error}
    (he : eng.prepare command cwd mode env = .error e) :
    ∃ path, e = .invalidWorkingDirectory path := by
  unfold Engine.prepare at he
  cases hr : Workspace.resolve eng.host eng.config.workspaceRoot cwd with
  | error e' =>
    simp only [hr, bind, Except.bind] at he
    cases he
    exact Workspace.resolve_error hr
  | ok resolved =>
    -- the resolved directory must exist on the host
    simp only [hr, bind, Except.bind, Workspace.ensureDirectory] at he
    by_cases hd : eng.host.isDir resolved = true
    · simp [hd, pure, Except.pure] at he
    · simp only [hd, Bool.false_eq_true, if_false] at he
      cases he
      exact ⟨_, rfl⟩

namespace Registry

variable {r : Registry}

/-! ## Opening -/

/-- An open whose request the engine refuses only lets the clock move. -/
theorem openSession_of_prepare_error {req : OpenRequest} {e : Error}
    (hprep : r.engine.prepare req.command req.cwd .pty req.env = .error e) :
    r.openSession req = (r.advance (r.now + opCost), .error e) := by
  unfold openSession
  simp only [engine_advance, hprep]

/-- An open whose child fails to start leaves the pruned registry, with the sequence number
taken and nothing evicted. -/
theorem openSession_of_spawn_error {req : OpenRequest} {spec : LaunchSpec} {e : Error}
    (hprep : r.engine.prepare req.command req.cwd .pty req.env = .ok spec)
    (hspawn : Child.spawn spec r.engine.host = .error e) :
    r.openSession req =
      ({ (r.advance (r.now + opCost)).prune with seq := (r.advance (r.now + opCost)).seq + 1 },
        .error e) := by
  unfold openSession
  simp only [engine_advance, hprep, engine_prune, seq_prune, hspawn]

/-- Without a reaper, time passing moves only the clock. -/
theorem advance_of_no_reaper (hr : r.reaper = none) (t : Nat) :
    r.advance t = { r with now := max r.now t } := by
  unfold advance
  simp only [hr]

/-! ## An id the prune does not find -/

/-- A read whose timeout the clock can hold, of an id its prune does not find, reports the
id missing at its first look and leaves the pruned registry. -/
theorem readCall_of_missing {x : String} (m : Nat) {timeout : Option Duration}
    (hx : x ∉ (r.advance (r.now + opCost)).prune.sessions.map (·.id))
    (hfit : ∀ t ∈ timeout,
      ((Clock.origin.after ⟨(r.advance (r.now + opCost)).now⟩).add? t).isSome = true) :
    r.readCall x m timeout =
      some ((r.advance (r.now + opCost)).prune, .error (.error (.sessionNotFound x))) := by
  unfold readCall
  dsimp only
  have hfits : (timeout.map fun t =>
      ((Clock.origin.after ⟨(r.advance (r.now + opCost)).now⟩).add? t).isSome) ≠ some false := by
    cases timeout with
    | none => simp
    | some t =>
      intro hmatch
      have hsome := hfit t rfl
      simp only [Option.map_some, Option.some.injEq] at hmatch
      rw [hmatch] at hsome
      exact Bool.false_ne_true hsome
  split
  · rename_i hmatch
    exact absurd hmatch hfits
  · rw [readLoop, readStep, readOnce_of_find?_none _ (find?_eq_none_iff.mpr hx)]
    rfl

/-- A read whose timeout the clock cannot add to the current time stops with the clock's
overflow before its first look. -/
theorem readCall_of_overflow {x : String} (m : Nat) {t : Duration}
    (hover : (Clock.origin.after ⟨(r.advance (r.now + opCost)).now⟩).add? t = none) :
    r.readCall x m (some t) =
      some (r.advance (r.now + opCost), .error (.overflow Clock.overflowMessage)) := by
  unfold readCall
  dsimp only
  rw [Option.map_some, hover]
  rfl

/-- Closing an id the prune does not find closes nothing and keeps the pruned registry. -/
theorem close_of_missing {x : String}
    (hx : x ∉ (r.advance (r.now + opCost)).prune.sessions.map (·.id)) :
    r.close x = (r.advance (r.now + opCost)).prune := by
  have hnone : (r.advance (r.now + opCost)).prune.sessions.filter (·.id == x) = [] := by
    refine List.filter_eq_nil_iff.mpr fun s hs hid => hx ?_
    exact List.mem_map.mpr ⟨s, hs, by simpa using hid⟩
  have hall : (r.advance (r.now + opCost)).prune.sessions.filter (·.id != x) =
      (r.advance (r.now + opCost)).prune.sessions := by
    refine List.filter_eq_self.mpr fun s hs => ?_
    have hne : s.id ≠ x := fun hid => hx (List.mem_map.mpr ⟨s, hs, hid⟩)
    simpa using hne
  unfold close
  simp only [retire, hnone, hall, List.map_nil, List.append_nil]

/-- **Failed requests leave the registry as it was.** Let `r₁` be the registry once the
clock has moved by the operation's cost. An open whose working directory is refused
returns that refusal and leaves `r₁`, which without a reaper is the registry with only its
clock moved. An open whose child fails to start returns a launch failure and leaves `r₁`
pruned, with the sequence number taken and no session evicted or added. An id that the
prune of `r₁` does not find is reported missing by a write and by a read whose timeout
the clock can hold, both leaving the pruned registry with no session touched; a read
whose timeout the clock cannot hold stops with the overflow and leaves `r₁`; and closing
the id only prunes. -/
theorem failed_requests_leave_registry (r : Registry) (req : OpenRequest) (x : String)
    (bytes : List UInt8) (m : Nat) (timeout : Option Duration) :
    let r₁ := r.advance (r.now + opCost)
    (∀ e, r.engine.prepare req.command req.cwd .pty req.env = .error e →
      r.openSession req = (r₁, .error e) ∧ (∃ path, e = .invalidWorkingDirectory path) ∧
      (r.reaper = none → r₁ = { r with now := r.now + opCost })) ∧
    (∀ spec e, r.engine.prepare req.command req.cwd .pty req.env = .ok spec →
      Child.spawn spec r.engine.host = .error e →
      r.openSession req = ({ r₁.prune with seq := r₁.seq + 1 }, .error e) ∧
      ∃ context, e = .launchFailed context) ∧
    (x ∉ r₁.prune.sessions.map (·.id) →
      r.write x bytes = (r₁.prune, .error (.sessionNotFound x)) ∧
      ((∀ t ∈ timeout, ((Clock.origin.after ⟨r₁.now⟩).add? t).isSome = true) →
        r.read x m timeout = (r₁.prune, .error (.error (.sessionNotFound x)))) ∧
      r.close x = r₁.prune) ∧
    (∀ t, timeout = some t → (Clock.origin.after ⟨r₁.now⟩).add? t = none →
      r.read x m timeout = (r₁, .error (.overflow Clock.overflowMessage))) := by
  intro r₁
  refine ⟨fun e hprep => ⟨openSession_of_prepare_error hprep, Engine.prepare_error hprep,
      fun hr => ?_⟩,
    fun spec e hprep hspawn => ⟨openSession_of_spawn_error hprep hspawn, Child.spawn_error hspawn⟩,
    fun hx => ⟨write_of_not_mem hx bytes, fun hfit => ?_, close_of_missing hx⟩,
    fun t ht hover => ?_⟩
  · show r.advance (r.now + opCost) = _
    rw [advance_of_no_reaper hr, Nat.max_eq_right (Nat.le_add_right _ _)]
  · show (r.readCall x m timeout).getD (r, .ok .nothing) = ((r.advance (r.now + opCost)).prune, _)
    rw [readCall_of_missing m hx hfit, Option.getD_some]
  · subst ht
    show (r.readCall x m (some t)).getD (r, .ok .nothing) = (r.advance (r.now + opCost), _)
    rw [readCall_of_overflow m hover, Option.getD_some]

/-- A new registry reports an id it never gave out missing. -/
theorem new_registry_unknown_id :
    let r := Registry.new ⟨{}, ⟨.dir [], some []⟩, []⟩
    "sh-x" ∉ (r.advance (r.now + opCost)).prune.sessions.map (·.id) ∧
      r.write "sh-x" [] = ((r.advance (r.now + opCost)).prune, .error (.sessionNotFound "sh-x")) := by
  intro r
  have hx : "sh-x" ∉ (r.advance (r.now + opCost)).prune.sessions.map (·.id) := by
    simp [r, Registry.new, advance, prune, retire]
  exact ⟨hx, ((failed_requests_leave_registry r { command := "true" } "sh-x" [] 0 none).2.2.1 hx).1⟩

/-- A read of an id no one opened, whose timeout the host's clock cannot hold, stops with
the clock's overflow and does not report the id missing. -/
theorem read_overflow_before_lookup :
    let r := Registry.new ⟨{}, ⟨.dir [], some []⟩, []⟩
    let d : Duration := Duration.ofSecs (Nat.pow 2 64 - 1)
    (r.read "x" 4096 (some d)).2 = .error (.overflow Clock.overflowMessage) ∧
      (r.read "x" 4096 (some d)).2 ≠ .error (.error (.sessionNotFound "x")) := by
  intro r d
  have hover : (Clock.origin.after ⟨(r.advance (r.now + opCost)).now⟩).add? d = none := by
    simp [r, d, Registry.new, advance, Instant.add?, Instant.after, Clock.origin,
      Duration.ofSecs, Duration.nanosPerSec, Instant.maxSecs, opCost]
  have hread : (r.read "x" 4096 (some d)).2 = .error (.overflow Clock.overflowMessage) := by
    simp only [read, readCall_of_overflow 4096 hover, Option.getD_some]
  exact ⟨hread, by rw [hread]; simp⟩

end Registry

end Confine
