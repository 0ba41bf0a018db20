/-!
# Timed input

What a process reads arrives over time. A feed is a queue of chunks, each with the
time from which it can be read, followed by what happens once the queue is empty:
end of input from some time on, nothing ever again, or an endless supply of a
repeated pattern (a device of zeros). An empty chunk is an end-of-input mark that
more input may follow, as a terminal gives for the end-of-file key.

A read takes at most the requested number of bytes from the first chunk, never
joining two chunks, which is how a terminal in line mode hands out one line per read.
-/

namespace Confine.Host

/-- What a feed gives once its queued chunks are used up. -/
inductive FeedEnd where
  /-- End of input from the given time on. -/
  | eof (time : Nat)
  /-- No more input, and no end of input either: a reader waits forever. -/
  | never
  /-- The pattern, repeated without end, at once. -/
  | endless (pattern : List UInt8)
  deriving Repr, Inhabited

/-- Input that arrives over time. -/
structure Feed where
  chunks : List (Nat × List UInt8)
  finish : FeedEnd
  /-- The size of the regular file the feed reads, if it reads one. -/
  fileSize : Option Nat := none
  deriving Repr, Inhabited

/-- The result of one read. -/
inductive Read where
  /-- Bytes, available at the given time. -/
  | bytes (time : Nat) (data : List UInt8)
  /-- End of input, seen at the given time. -/
  | eof (time : Nat)
  /-- The reader waits forever. -/
  | blocked
  deriving Repr

namespace Feed

/-- A feed that ends at once. -/
def empty (time : Nat) : Feed := { chunks := [], finish := .eof time }

/-- A feed holding `data` from `time` on, then ending. -/
def ofBytes (time : Nat) (data : List UInt8) : Feed :=
  if data.isEmpty then empty time else { chunks := [(time, data)], finish := .eof time }

/-- A feed reading a regular file that holds `data`. -/
def ofFile (time : Nat) (data : List UInt8) : Feed :=
  { ofBytes time data with fileSize := some data.length }

/-- An endless feed of zero bytes. -/
def zeros : Feed := { chunks := [], finish := .endless [0] }

/-- `n` bytes of the pattern repeated, `n` at most `fuel` repetitions long. -/
def cycle (pattern : List UInt8) (n : Nat) : List UInt8 :=
  match pattern with
  | [] => []
  | _ => ((List.replicate (n / pattern.length + 1) pattern).flatten).take n

/-- Read at most `max` bytes at time `now`: the read and the feed left after it. A read
of an empty chunk is end of input and uses the chunk up. -/
def read (f : Feed) (now max : Nat) : Read × Feed :=
  match f.chunks with
  | (t, data) :: rest =>
    let ready := Nat.max now t
    if data.isEmpty then (.eof ready, { f with chunks := rest })
    else
      let taken := data.take max
      let left := data.drop max
      (.bytes ready taken, { f with chunks := if left.isEmpty then rest else (t, left) :: rest })
  | [] =>
    match f.finish with
    | .eof t => (.eof (Nat.max now t), f)
    | .never => (.blocked, f)
    | .endless p => (.bytes now (cycle p max), f)

/-- Put bytes back at the front, as if they had not been read. -/
def unread (f : Feed) (time : Nat) (data : List UInt8) : Feed :=
  if data.isEmpty then f else { f with chunks := (time, data) :: f.chunks }

/-- Append a chunk written at `time`. -/
def push (f : Feed) (time : Nat) (data : List UInt8) : Feed :=
  { f with chunks := f.chunks ++ [(time, data)] }

/-- The total of the queued bytes. -/
def queued (f : Feed) : Nat := f.chunks.foldl (fun acc c => acc + c.2.length) 0

theorem cycle_length (p : List UInt8) (n : Nat) (h : p ≠ []) : (cycle p n).length = n := by
  cases p with
  | nil => exact absurd rfl h
  | cons b bs =>
    simp only [cycle, List.length_take]
    apply Nat.min_eq_left
    simp
    have := @Nat.lt_div_mul_add n (bs.length + 1) (by omega)
    rw [Nat.add_mul, Nat.one_mul]
    omega

end Feed

end Confine.Host
