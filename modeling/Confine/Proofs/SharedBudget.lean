import Confine.Output.Collector
import Mathlib

/-!
# The shared budget of a collector is exact

A collector fed chunks from both streams keeps exactly the first `budget` bytes of
everything it was given, in arrival order. Each call keeps what is left of the budget,
capped by its chunk; the bytes kept from the stdout chunks and from the stderr chunks
are the two halves of that prefix, so each is a prefix of its own stream. The flag of
dropped bytes is set by the first call that keeps less than it was given, and is set
at the end exactly when the chunks hold more than the budget.

`clip room chunks` is the rule: each chunk keeps the first bytes of what is left of
`room` when it arrives. The run of a collector follows it call by call (`run_spec`).
-/

namespace Confine

namespace Collector

/-- The chunks as a budget of `room` bytes keeps them: each keeps as much of itself as
the room left when it arrives. -/
def clip : Nat → List (Stream × List UInt8) → List (Stream × List UInt8)
  | _, [] => []
  | room, (s, bytes) :: rest => (s, bytes.take room) :: clip (room - bytes.length) rest

/-- The bytes of tagged chunks, in order. -/
def bytesOf (chunks : List (Stream × List UInt8)) : List UInt8 := chunks.flatMap (·.2)

/-- The bytes of the chunks of one stream, in order. -/
def streamOf (s : Stream) (chunks : List (Stream × List UInt8)) : List UInt8 :=
  bytesOf (chunks.filter (·.1 == s))

/-- Appends tagged chunks in order: what each call returned, and the collector after. -/
def run (c : Collector) : List (Stream × List UInt8) → List Nat × Collector
  | [] => ([], c)
  | (s, bytes) :: rest =>
    let (k, c') := c.append bytes s
    let (ks, c'') := c'.run rest
    (k :: ks, c'')

@[simp] theorem bytesOf_nil : bytesOf [] = [] := rfl

@[simp] theorem bytesOf_cons (s : Stream) (bytes : List UInt8) (rest : List (Stream × List UInt8)) :
    bytesOf ((s, bytes) :: rest) = bytes ++ bytesOf rest := by
  simp [bytesOf]

@[simp] theorem streamOf_nil (s : Stream) : streamOf s [] = [] := rfl

theorem streamOf_cons (s t : Stream) (bytes : List UInt8) (rest : List (Stream × List UInt8)) :
    streamOf s ((t, bytes) :: rest) = (if t = s then bytes else []) ++ streamOf s rest := by
  by_cases h : t = s <;> simp [streamOf, h]

@[simp] theorem clip_nil (room : Nat) : clip room [] = [] := rfl

@[simp] theorem clip_cons (room : Nat) (s : Stream) (bytes : List UInt8)
    (rest : List (Stream × List UInt8)) :
    clip room ((s, bytes) :: rest) = (s, bytes.take room) :: clip (room - bytes.length) rest :=
  rfl

@[simp] theorem run_nil (c : Collector) : c.run [] = ([], c) := rfl

theorem run_cons (c : Collector) (s : Stream) (bytes : List UInt8)
    (rest : List (Stream × List UInt8)) :
    c.run ((s, bytes) :: rest) =
      ((c.append bytes s).1 :: ((c.append bytes s).2.run rest).1,
        ((c.append bytes s).2.run rest).2) := rfl

/-! ## What a budget keeps -/

/-- What a budget keeps is the first `room` bytes of the chunks. -/
theorem bytesOf_clip (room : Nat) (chunks : List (Stream × List UInt8)) :
    bytesOf (clip room chunks) = (bytesOf chunks).take room := by
  induction chunks generalizing room with
  | nil => simp
  | cons x rest ih =>
    obtain ⟨s, bytes⟩ := x
    rw [clip_cons, bytesOf_cons, bytesOf_cons, ih, List.take_append]

/-- No room keeps nothing of any stream. -/
theorem streamOf_clip_zero (s : Stream) (chunks : List (Stream × List UInt8)) :
    streamOf s (clip 0 chunks) = [] := by
  induction chunks with
  | nil => simp
  | cons x rest ih =>
    obtain ⟨t, bytes⟩ := x
    simp [streamOf_cons, ih]

/-- What a budget keeps of one stream is a prefix of that stream. -/
theorem streamOf_clip_prefix (s : Stream) (room : Nat) (chunks : List (Stream × List UInt8)) :
    streamOf s (clip room chunks) <+: streamOf s chunks := by
  induction chunks generalizing room with
  | nil => simp
  | cons x rest ih =>
    obtain ⟨t, bytes⟩ := x
    rw [clip_cons, streamOf_cons, streamOf_cons]
    by_cases hfit : bytes.length ≤ room
    · -- the whole chunk fits: the same head, and the rest by induction
      rw [List.take_of_length_le hfit]
      exact (List.prefix_append_right_inj _).mpr (ih _)
    · -- the chunk crosses the budget: nothing after it is kept
      have hzero : room - bytes.length = 0 := by omega
      rw [hzero, streamOf_clip_zero, List.append_nil]
      split
      · exact (List.take_prefix room bytes).trans (List.prefix_append _ _)
      · exact List.nil_prefix

/-- The lengths of the kept prefixes: each is what is left of the room, capped by its
chunk. -/
theorem getElem?_clip_lengths (room : Nat) (chunks : List (Stream × List UInt8)) (i : Nat) :
    ((clip room chunks).map (·.2.length))[i]? =
      chunks[i]?.map fun x => min x.2.length (room - (((clip room chunks).map (·.2.length)).take i).sum) := by
  induction chunks generalizing room i with
  | nil => simp
  | cons x rest ih =>
    obtain ⟨s, bytes⟩ := x
    cases i with
    | zero => simp [Nat.min_comm]
    | succ i =>
      simp only [clip_cons, List.map_cons, List.getElem?_cons_succ, List.take_succ_cons,
        List.sum_cons, List.length_take]
      rw [ih (room - bytes.length) i]
      congr 1
      funext x
      congr 1
      omega

theorem clip_take (room i : Nat) (chunks : List (Stream × List UInt8)) :
    clip room (chunks.take i) = (clip room chunks).take i := by
  induction chunks generalizing room i with
  | nil => simp
  | cons x rest ih =>
    obtain ⟨s, bytes⟩ := x
    cases i with
    | zero => simp
    | succ i => simp [ih]

theorem length_bytesOf (chunks : List (Stream × List UInt8)) :
    (bytesOf chunks).length = (chunks.map (·.2.length)).sum := by
  induction chunks with
  | nil => simp
  | cons x rest ih =>
    obtain ⟨s, bytes⟩ := x
    simp [ih]

/-- The two streams split the bytes of the chunks between them. -/
theorem length_streamOf_add (chunks : List (Stream × List UInt8)) :
    (streamOf .stdout chunks).length + (streamOf .stderr chunks).length =
      (bytesOf chunks).length := by
  induction chunks with
  | nil => simp
  | cons x rest ih =>
    obtain ⟨s, bytes⟩ := x
    cases s <;> simp [streamOf_cons] <;> omega

/-- The kept prefixes are the chunks cut at the counts they were kept by. -/
theorem zipWith_take_clip (room : Nat) (chunks : List (Stream × List UInt8)) :
    List.zipWith (fun (x : Stream × List UInt8) k => (x.1, x.2.take k)) chunks
      ((clip room chunks).map (·.2.length)) = clip room chunks := by
  induction chunks generalizing room with
  | nil => simp
  | cons x rest ih =>
    obtain ⟨s, bytes⟩ := x
    simp only [clip_cons, List.map_cons, List.zipWith_cons_cons, ih, List.length_take]
    rw [← List.take_eq_take_min]

/-! ## One call -/

/-- The bytes a collector holds for one stream. -/
def kept (c : Collector) : Stream → List UInt8
  | .stdout => c.stdout
  | .stderr => c.stderr

@[simp] theorem kept_empty (budget : Nat) (s : Stream) : (empty budget).kept s = [] := by
  cases s <;> rfl

theorem kept_append (c : Collector) (bytes : List UInt8) (s t : Stream) :
    (c.append bytes s).2.kept t = c.kept t ++ (if s = t then bytes.take c.room else []) := by
  rw [append_snd]
  cases s <;> cases t <;> simp [keepOn, kept]

/-- A call uses up the room by the length of its chunk, down to nothing. -/
theorem room_append (c : Collector) (bytes : List UInt8) (s : Stream) :
    (c.append bytes s).2.room = c.room - bytes.length := by
  simp only [room, accepted_append, budget_append]
  omega

/-- A call sets the flag exactly when it keeps less than it was given, and never clears it. -/
theorem truncated_append_iff (c : Collector) (bytes : List UInt8) (s : Stream) :
    (c.append bytes s).2.truncated = (c.truncated || decide ((c.append bytes s).1 < bytes.length)) := by
  rw [truncated_append, append_fst]
  congr 2
  exact propext (by omega)

/-- An empty chunk changes nothing. -/
theorem append_nil (c : Collector) (s : Stream) : c.append [] s = (0, c) := by
  simp [append]

/-! ## A run of calls -/

theorem run_fst (c : Collector) (chunks : List (Stream × List UInt8)) :
    (c.run chunks).1 = (clip c.room chunks).map (·.2.length) := by
  induction chunks generalizing c with
  | nil => simp
  | cons x rest ih =>
    obtain ⟨s, bytes⟩ := x
    rw [run_cons, ih, room_append, append_fst]
    simp [Nat.min_comm]

theorem accepted_run (c : Collector) (chunks : List (Stream × List UInt8)) :
    (c.run chunks).2.accepted = c.accepted + min c.room (bytesOf chunks).length := by
  induction chunks generalizing c with
  | nil => simp
  | cons x rest ih =>
    obtain ⟨s, bytes⟩ := x
    rw [run_cons, ih, room_append, accepted_append, bytesOf_cons, List.length_append]
    omega

theorem kept_run (c : Collector) (chunks : List (Stream × List UInt8)) (t : Stream) :
    (c.run chunks).2.kept t = c.kept t ++ streamOf t (clip c.room chunks) := by
  induction chunks generalizing c with
  | nil => simp
  | cons x rest ih =>
    obtain ⟨s, bytes⟩ := x
    rw [run_cons, ih, room_append, kept_append, clip_cons, streamOf_cons, List.append_assoc]

theorem truncated_run (c : Collector) (chunks : List (Stream × List UInt8)) :
    (c.run chunks).2.truncated = (c.truncated || decide (c.room < (bytesOf chunks).length)) := by
  induction chunks generalizing c with
  | nil => simp
  | cons x rest ih =>
    obtain ⟨s, bytes⟩ := x
    rw [run_cons, ih, room_append, truncated_append, bytesOf_cons, List.length_append,
      Bool.or_assoc]
    congr 1
    by_cases h : c.room < bytes.length <;> simp [h] <;> omega

/-! ## From an empty collector -/

@[simp] theorem room_empty (budget : Nat) : (empty budget).room = budget := rfl

@[simp] theorem accepted_empty (budget : Nat) : (empty budget).accepted = 0 := rfl

@[simp] theorem truncated_empty (budget : Nat) : (empty budget).truncated = false := rfl

/-- The counts returned from an empty collector are the lengths of what the budget keeps. -/
theorem run_empty_fst (budget : Nat) (chunks : List (Stream × List UInt8)) :
    ((empty budget).run chunks).1 = (clip budget chunks).map (·.2.length) := by
  rw [run_fst, room_empty]

/-- After the first `i` calls the collector holds the sum of what they returned. -/
theorem len_run_take (budget i : Nat) (chunks : List (Stream × List UInt8)) :
    ((empty budget).run (chunks.take i)).2.len = (((empty budget).run chunks).1.take i).sum := by
  rw [run_empty_fst, ← List.map_take, ← clip_take, ← length_bytesOf, bytesOf_clip,
    List.length_take, len, accepted_run, room_empty, accepted_empty, Nat.zero_add]

/-- **The shared budget is exact.** Fed any chunks of either stream, a collector of
budget `B` keeps the first `B` bytes of them in arrival order: each call keeps what is
left of the budget, capped by its chunk, and adds that to the count; each stream holds
the kept prefixes of its own chunks; and the flag of dropped bytes, set by the first
call that keeps less than it was given and never cleared, ends up set exactly when the
chunks hold more than `B` bytes. An empty chunk changes nothing. -/
theorem run_keeps_budget_prefix (B : Nat) (chunks : List (Stream × List UInt8)) :
    let ks := ((empty B).run chunks).1
    let c := ((empty B).run chunks).2
    let prefixes := List.zipWith (fun (x : Stream × List UInt8) k => (x.1, x.2.take k)) chunks ks
    (∀ i, ks[i]? = chunks[i]?.map fun x => min x.2.length (B - (ks.take i).sum)) ∧
    (∀ i, ((empty B).run (chunks.take i)).2.len = (ks.take i).sum) ∧
    ks.sum ≤ B ∧
    bytesOf prefixes = (bytesOf chunks).take B ∧
    c.stdout = streamOf .stdout prefixes ∧ c.stderr = streamOf .stderr prefixes ∧
    c.stdout <+: streamOf .stdout chunks ∧ c.stderr <+: streamOf .stderr chunks ∧
    c.len = c.stdout.length + c.stderr.length ∧ c.len = min B (bytesOf chunks).length ∧
    (c.truncated = true ↔ B < (bytesOf chunks).length) ∧
    (∀ (d : Collector) bytes s,
      (d.append bytes s).2.truncated = (d.truncated || decide ((d.append bytes s).1 < bytes.length))) ∧
    (∀ (d : Collector) s, d.append [] s = (0, d)) := by
  intro ks c prefixes
  have hks : ks = (clip B chunks).map (·.2.length) := run_empty_fst B chunks
  have hprefixes : prefixes = clip B chunks := by
    simp only [prefixes, hks]
    exact zipWith_take_clip B chunks
  have hsum : ks.sum = min B (bytesOf chunks).length := by
    rw [hks, ← length_bytesOf, bytesOf_clip, List.length_take]
  have hstream (t : Stream) : c.kept t = streamOf t (clip B chunks) := by
    simpa [room_empty] using kept_run (empty B) chunks t
  have hlen : c.len = min B (bytesOf chunks).length := by
    simp [c, len, accepted_run]
  have hsplit : c.stdout.length + c.stderr.length = min B (bytesOf chunks).length := by
    rw [show c.stdout = c.kept .stdout from rfl, show c.stderr = c.kept .stderr from rfl,
      hstream, hstream, length_streamOf_add, bytesOf_clip, List.length_take]
  refine ⟨?_, fun i => len_run_take B i chunks, ?_, ?_, ?_, ?_, ?_, ?_, ?_, hlen, ?_,
    truncated_append_iff, append_nil⟩
  · intro i
    rw [hks]
    exact getElem?_clip_lengths B chunks i
  · rw [hsum]
    exact Nat.min_le_left _ _
  · rw [hprefixes, bytesOf_clip]
  · rw [hprefixes]
    exact hstream .stdout
  · rw [hprefixes]
    exact hstream .stderr
  · rw [show c.stdout = c.kept .stdout from rfl, hstream]
    exact streamOf_clip_prefix _ _ _
  · rw [show c.stderr = c.kept .stderr from rfl, hstream]
    exact streamOf_clip_prefix _ _ _
  · rw [hlen, hsplit]
  · simp only [c, truncated_run, truncated_empty, room_empty, Bool.false_or]
    exact decide_eq_true_iff

/-- A chunk that crosses a budget of ten is cut inside, and a later one keeps nothing. -/
example :
    ((empty 10).run [(.stdout, [1, 2, 3, 4, 5, 6]), (.stderr, [7, 8, 9, 10, 11, 12]),
      (.stdout, [13, 14, 15])]).1 = [6, 4, 0] := by
  decide

end Collector

end Confine
