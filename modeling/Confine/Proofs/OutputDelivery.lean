import Confine.Output.Pump

/-!
# The sink accepts every stream whole, in order

Whatever order the readers, the pump and the owner of the handle move in, the sink's
chunks of one stream are a prefix of what that stream's reader read, each chunk once
and in read order, so the sink holds a merge of the streams. A reader's chunk is always
in exactly one place: accepted by the sink, waiting in the channel, or held by the
reader; only a reader stopped by closing, or whose send found the pump gone, loses the
one chunk it held (`Delivery.Tracks`).

While the handle holds the pump, the pump finishes only once every sender is gone and
the channel is empty. The readers hold the only senders, and while the handle holds the
pump a reader ends only at the end of its descriptor, having read all of it. So a
finished output is every stream whole (`sink_merges_streams`).

`Delivery.Sound` gathers the invariant, and `Sound.step` says that every move keeps it.
-/

namespace Confine

namespace Pump

open scoped List

namespace Delivery

/-- The chunks of a stream the sink accepted, oldest first. -/
def sinkOf (d : Delivery) (k : Stream) : List (List UInt8) := (d.sink.filter (·.1 == k)).map (·.2)

/-- The chunks of a stream waiting in the channel, oldest first. -/
def channelOf (d : Delivery) (k : Stream) : List (List UInt8) :=
  (d.channel.filter (·.1 == k)).map (·.2)

@[simp] theorem readers_setReader (d : Delivery) (k j : Stream) (r : Reader) :
    (d.setReader k r).readers j = if j = k then some r else d.readers j := rfl

@[simp] theorem pumpRunning_setReader (d : Delivery) (k : Stream) (r : Reader) :
    (d.setReader k r).pumpRunning = d.pumpRunning := rfl

theorem readers_setReader_eq_some {d : Delivery} {k j : Stream} {r r' : Reader} :
    (d.setReader k r).readers j = some r' ↔ j = k ∧ r' = r ∨ j ≠ k ∧ d.readers j = some r' := by
  rw [readers_setReader]
  by_cases hjk : j = k
  · simp [hjk, eq_comm]
  · simp [hjk]

/-- A stream that has a reader keeps one when a reader is replaced. -/
theorem isSome_setReader {d : Delivery} {k j : Stream} (r : Reader)
    (h : (d.readers j).isSome = true) : ((d.setReader k r).readers j).isSome = true := by
  rw [readers_setReader]
  split
  · rfl
  · exact h

theorem allEnded_iff (d : Delivery) :
    d.allEnded = true ↔ ∀ k r, d.readers k = some r → r.ended = true := by
  simp only [allEnded, List.all_cons, List.all_nil, Bool.and_true, Bool.and_eq_true]
  constructor
  · intro h k r hr
    cases k
    · simpa [hr] using h.1
    · simpa [hr] using h.2
  · intro h
    constructor <;>
      (cases hr : d.readers _ with
        | none => rfl
        | some r => simpa using h _ r hr)

/-! ## What each move can do -/

theorem step_read {d d' : Delivery} {k : Stream} (h : d.step (.read k) = some d') :
    ∃ r, d.readers k = some r ∧ r.ended = false ∧ r.held = none ∧
      ((∃ c, r.source[r.read]? = some c ∧
          d' = d.setReader k { r with read := r.read + 1, held := some c }) ∨
        (r.source[r.read]? = none ∧ d' = d.setReader k { r with ended := true })) := by
  cases hr : d.readers k with
  | none => simp [step, hr] at h
  | some r =>
    simp only [step, hr, Option.bind_eq_bind, Option.bind_some] at h
    split at h
    · cases h
    · rename_i hfree
      simp only [Bool.or_eq_true, not_or, Bool.not_eq_true, Option.isSome_eq_false_iff,
        Option.isNone_iff_eq_none] at hfree
      refine ⟨r, rfl, hfree.1, hfree.2, ?_⟩
      split at h
      · rename_i c hc
        exact Or.inl ⟨c, hc, (Option.some.inj h).symm⟩
      · rename_i hc
        exact Or.inr ⟨hc, (Option.some.inj h).symm⟩

theorem step_send {d d' : Delivery} {k : Stream} (h : d.step (.send k) = some d') :
    ∃ r c, d.readers k = some r ∧ r.held = some c ∧ r.ended = false ∧
      ((d.pumpRunning = true ∧ d.channel.length < capacity ∧
          d' = { d.setReader k { r with held := none } with channel := d.channel ++ [(k, c)] }) ∨
        (d.pumpRunning = false ∧ d' = d.setReader k { r with held := none, ended := true })) := by
  cases hr : d.readers k with
  | none => simp [step, hr] at h
  | some r =>
    cases hc : r.held with
    | none => simp [step, hr, hc] at h
    | some c =>
      simp only [step, hr, hc, Option.bind_eq_bind, Option.bind_some] at h
      refine ⟨r, c, rfl, hc, ?_⟩
      split at h
      · cases h
      · rename_i hended
        refine ⟨by simpa using hended, ?_⟩
        split at h
        · rename_i hrun
          split at h
          · rename_i hroom
            exact Or.inl ⟨hrun, hroom, (Option.some.inj h).symm⟩
          · cases h
        · rename_i hrun
          exact Or.inr ⟨by simpa using hrun, (Option.some.inj h).symm⟩

theorem step_deliver {d d' : Delivery} (h : d.step .deliver = some d') :
    ∃ e rest, d.pumpRunning = true ∧ d.channel = e :: rest ∧
      d' = { d with channel := rest, sink := d.sink ++ [e] } := by
  simp only [step] at h
  split at h
  · rename_i hrun
    split at h
    · rename_i e rest hch
      exact ⟨e, rest, hrun, hch, (Option.some.inj h).symm⟩
    · cases h
  · cases h

theorem step_finish {d d' : Delivery} (h : d.step .finish = some d') :
    d.pumpRunning = true ∧ d.channel = [] ∧ d.allEnded = true ∧
      d' = { d with pumpRunning := false } := by
  simp only [step] at h
  split at h
  · rename_i hcond
    simp only [Bool.and_eq_true, List.isEmpty_iff] at hcond
    exact ⟨hcond.1.1, hcond.1.2, hcond.2, (Option.some.inj h).symm⟩
  · cases h

theorem step_take {d d' : Delivery} (h : d.step .take = some d') :
    d.pumpHeld = true ∧ d' = { d with pumpHeld := false } := by
  simp only [step] at h
  split at h
  · exact ⟨‹_›, (Option.some.inj h).symm⟩
  · cases h

theorem step_abort {d d' : Delivery} (h : d.step .abort = some d') :
    d.pumpHeld = false ∧ d.pumpRunning = true ∧ d' = { d with pumpRunning := false } := by
  simp only [step] at h
  split at h
  · rename_i hcond
    simp only [Bool.and_eq_true, Bool.not_eq_true'] at hcond
    exact ⟨hcond.1, hcond.2, (Option.some.inj h).symm⟩
  · cases h

theorem step_close {d d' : Delivery} (h : d.step .close = some d') :
    d' = { d with
      readers := fun k => (d.readers k).map fun r => { r with held := none, ended := true }
      pumpRunning := d.pumpRunning && !d.pumpHeld
      pumpHeld := false } :=
  (Option.some.inj h).symm

/-! ## Where every chunk a reader read is -/

/-- Where the chunks a reader of stream `k` read are: the sink's chunks of `k`, then
those waiting in the channel, then the one it holds, make up a prefix of what it read,
and all of it while the reader runs or the handle holds the pump. -/
structure Tracks (d : Delivery) (k : Stream) (r : Reader) : Prop where
  quiet : r.ended = true → r.held = none
  bounded : r.read ≤ r.source.length
  within : d.sinkOf k ++ d.channelOf k ++ r.held.toList <+: r.source.take r.read
  whole : r.ended = false ∨ d.pumpHeld = true →
    d.sinkOf k ++ d.channelOf k ++ r.held.toList = r.source.take r.read
  complete : d.pumpHeld = true → r.ended = true → r.read = r.source.length

/-- A reader's chunks stay where they are when the sink and the channel only move chunks
from one to the other, and the handle does not take the pump back. -/
theorem Tracks.of_views {d d' : Delivery} {k : Stream} {r : Reader} (h : d.Tracks k r)
    (hv : d'.sinkOf k ++ d'.channelOf k = d.sinkOf k ++ d.channelOf k)
    (hheld : d'.pumpHeld = true → d.pumpHeld = true) : d'.Tracks k r where
  quiet := h.quiet
  bounded := h.bounded
  within := by
    rw [hv]
    exact h.within
  whole := fun hc => by
    rw [hv]
    exact h.whole (hc.imp id hheld)
  complete := fun hh => h.complete (hheld hh)

/-- A reader that stops and lets go of the chunk it holds keeps what it sent, once the
handle no longer holds the pump. -/
theorem Tracks.stop {d d' : Delivery} {k : Stream} {r : Reader} (h : d.Tracks k r)
    (hv : d'.sinkOf k ++ d'.channelOf k = d.sinkOf k ++ d.channelOf k)
    (hheld : d'.pumpHeld = false) : d'.Tracks k { r with held := none, ended := true } where
  quiet := fun _ => rfl
  bounded := h.bounded
  within := by
    refine List.IsPrefix.trans ?_ h.within
    simp [hv]
  whole := fun hc => by simp [hheld] at hc
  complete := fun hh => by simp [hheld] at hh

/-- Replacing a reader moves no chunk. -/
theorem Tracks.setReader {d : Delivery} {j k : Stream} {r r' : Reader} (h : d.Tracks j r) :
    (d.setReader k r').Tracks j r :=
  ⟨h.quiet, h.bounded, h.within, h.whole, h.complete⟩

theorem take_succ_of_getElem? {l : List (List UInt8)} {n : Nat} {c : List UInt8}
    (h : l[n]? = some c) : l.take (n + 1) = l.take n ++ [c] := by
  rw [List.take_add_one, h]
  rfl

/-- What holds after every run from a launch of a mode with the given descriptors: the
readers are those of the mode's streams, with their descriptors' chunks; every chunk
accepted or waiting is tagged with a reader's stream; the channel holds no more than its
capacity; every reader's chunks are where `Tracks` says; and a pump that finished while
the handle held it left the channel empty and no reader running. -/
structure Sound (mode : TerminalMode) (sources : Stream → List (List UInt8))
    (d : Delivery) : Prop where
  launched : ∀ k, (d.readers k).isSome = true ↔ k ∈ streams mode
  source : ∀ k r, d.readers k = some r → r.source = sources k
  tagged : ∀ e ∈ d.sink ++ d.channel, (d.readers e.1).isSome = true
  room : d.channel.length ≤ capacity
  tracks : ∀ k r, d.readers k = some r → d.Tracks k r
  stopped : d.pumpHeld = true → d.pumpRunning = false → d.channel = [] ∧ d.allEnded = true

section

variable {mode : TerminalMode} {sources : Stream → List (List UInt8)}

theorem sound_launch (mode : TerminalMode) (sources : Stream → List (List UInt8)) :
    (launch mode sources).Sound mode sources where
  launched := fun k => by
    simp only [launch]
    split <;> simpa
  source := fun k r hr => by
    simp only [launch] at hr
    split at hr
    · cases hr
      rfl
    · cases hr
  tagged := by simp [launch]
  room := by simp [launch]
  tracks := fun k r hr => by
    simp only [launch] at hr
    split at hr
    · cases hr
      exact ⟨by simp [Reader.start], Nat.zero_le _, by simp [Reader.start, sinkOf, channelOf, launch],
        fun _ => by simp [Reader.start, sinkOf, channelOf, launch], by simp [Reader.start]⟩
    · cases hr
  stopped := by simp [launch]

/-- Replacing a reader by one on the same descriptor keeps the readers those of the
launch. -/
theorem Sound.readers_setReader {d : Delivery} (h : d.Sound mode sources) {k : Stream}
    {r r' : Reader} (hr : d.readers k = some r) (hsource : r'.source = r.source) :
    (∀ j, ((d.setReader k r').readers j).isSome = true ↔ j ∈ streams mode) ∧
      ∀ j r'', (d.setReader k r').readers j = some r'' → r''.source = sources j := by
  refine ⟨fun j => ?_, fun j r'' hj => ?_⟩
  · rw [← h.launched j, Delivery.readers_setReader]
    split
    · rename_i hjk
      subst hjk
      simp [hr]
    · rfl
  · obtain ⟨rfl, rfl⟩ | ⟨-, hj⟩ := readers_setReader_eq_some.mp hj
    · rw [hsource]
      exact h.source j r hr
    · exact h.source j r'' hj

/-- A move of one reader that was running, after which its chunks are where `Tracks`
says, keeps the invariant. -/
theorem Sound.setReader {d : Delivery} (h : d.Sound mode sources) {k : Stream} {r r' : Reader}
    (hr : d.readers k = some r) (hrun : r.ended = false) (hsource : r'.source = r.source)
    (ht : d.Tracks k r') : (d.setReader k r').Sound mode sources where
  launched := (h.readers_setReader hr hsource).1
  source := (h.readers_setReader hr hsource).2
  tagged := fun e he => isSome_setReader r' (h.tagged e he)
  room := h.room
  tracks := fun j r'' hj => by
    obtain ⟨rfl, rfl⟩ | ⟨-, hj⟩ := readers_setReader_eq_some.mp hj
    · exact ht.setReader
    · exact (h.tracks j r'' hj).setReader
  stopped := fun hheld hstop =>
    absurd ((allEnded_iff d).mp (h.stopped hheld hstop).2 k r hr) (by simp [hrun])

/-! ## Every move keeps the invariant -/

theorem Sound.read {d d' : Delivery} (h : d.Sound mode sources) {k : Stream}
    (hs : d.step (.read k) = some d') : d'.Sound mode sources := by
  obtain ⟨r, hr, hrun, hheld, ⟨c, hc, rfl⟩ | ⟨hc, rfl⟩⟩ := step_read hs
  · -- the chunk read is now held, after everything read before
    have ht := h.tracks k r hr
    have hlt : r.read < r.source.length := (List.getElem?_eq_some_iff.mp hc).1
    have hlists : d.sinkOf k ++ d.channelOf k ++ [c] = r.source.take (r.read + 1) := by
      rw [take_succ_of_getElem? hc, ← ht.whole (Or.inl hrun), hheld]
      simp
    refine h.setReader hr hrun rfl ⟨fun hend => by simp [hrun] at hend, hlt, ?_, fun _ => hlists,
      fun _ hend => by simp [hrun] at hend⟩
    exact hlists ▸ List.prefix_refl _
  · -- the end of the descriptor: the reader has read all of it
    have ht := h.tracks k r hr
    have hlen : r.read = r.source.length :=
      Nat.le_antisymm ht.bounded (List.getElem?_eq_none_iff.mp hc)
    exact h.setReader hr hrun rfl
      ⟨fun _ => hheld, ht.bounded, ht.within, fun _ => ht.whole (Or.inl hrun), fun _ _ => hlen⟩

/-- A chunk sent joins the end of its stream's chunks in the channel. -/
theorem channelOf_send (d : Delivery) (k j : Stream) (r : Reader) (c : List UInt8) :
    ({ d.setReader k r with channel := d.channel ++ [(k, c)] }).channelOf j =
      d.channelOf j ++ if j = k then [c] else [] := by
  by_cases hjk : j = k
  · subst hjk
    simp [channelOf]
  · simp [channelOf, Ne.symm hjk, hjk]

/-- A chunk sent moves from its reader to the end of the channel. -/
theorem Sound.push {d : Delivery} (h : d.Sound mode sources) {k : Stream} {r : Reader}
    {c : List UInt8} (hr : d.readers k = some r) (hc : r.held = some c) (hrun : r.ended = false)
    (hpump : d.pumpRunning = true) (hroom : d.channel.length < capacity) :
    { d.setReader k { r with held := none } with channel := d.channel ++ [(k, c)] }.Sound
      mode sources := by
  have ht := h.tracks k r hr
  have hreaders :=
    h.readers_setReader hr (show ({ r with held := none } : Reader).source = r.source from rfl)
  refine ⟨hreaders.1, hreaders.2, fun e he => ?_, ?_,
    fun j r' hj => ?_, fun _ hstop => by simp [hpump] at hstop⟩
  · change ((d.setReader k _).readers e.1).isSome = true
    simp only [List.mem_append, List.mem_singleton] at he
    rcases he with hsink | hch | rfl
    · exact isSome_setReader _ (h.tagged e (List.mem_append_left _ hsink))
    · exact isSome_setReader _ (h.tagged e (List.mem_append_right _ hch))
    · simp
  · change (d.channel ++ [(k, c)]).length ≤ capacity
    simp only [List.length_append, List.length_singleton]
    omega
  · change (d.setReader k _).readers j = some r' at hj
    obtain ⟨rfl, rfl⟩ | ⟨hjk, hj⟩ := readers_setReader_eq_some.mp hj
    · -- the chunk left the reader for the channel: the same chunks, in the same order
      have hsame : d.sinkOf j ++ (d.channelOf j ++ [c]) ++ [] = r.source.take r.read := by
        rw [← ht.whole (Or.inl hrun), hc]
        simp
      refine ⟨fun hend => by simp [hrun] at hend, ht.bounded, ?_, fun _ => ?_,
        fun _ hend => by simp [hrun] at hend⟩
      · rw [channelOf_send, if_pos rfl]
        exact hsame ▸ List.prefix_refl _
      · rw [channelOf_send, if_pos rfl]
        exact hsame
    · exact (h.tracks j r' hj).of_views
        (by rw [channelOf_send, if_neg hjk, List.append_nil]; rfl) id

theorem Sound.send {d d' : Delivery} (h : d.Sound mode sources) {k : Stream}
    (hs : d.step (.send k) = some d') : d'.Sound mode sources := by
  obtain ⟨r, c, hr, hc, hrun, ⟨hpump, hroom, rfl⟩ | ⟨hpump, rfl⟩⟩ := step_send hs
  · exact h.push hr hc hrun hpump hroom
  · -- nobody receives: the reader stops and drops its chunk, which only happens once the
    -- handle let go of the pump
    have hheld : d.pumpHeld = false := by
      cases hp : d.pumpHeld
      · rfl
      · exact absurd ((allEnded_iff d).mp (h.stopped hp hpump).2 k r hr) (by simp [hrun])
    exact h.setReader hr hrun rfl ((h.tracks k r hr).stop rfl hheld)

/-- Taking a chunk off the channel into the sink moves it from one to the other. -/
theorem views_deliver {d : Delivery} {e : Stream × List UInt8} {rest : List (Stream × List UInt8)}
    (hch : d.channel = e :: rest) (j : Stream) :
    ({ d with channel := rest, sink := d.sink ++ [e] }).sinkOf j ++
        ({ d with channel := rest, sink := d.sink ++ [e] }).channelOf j =
      d.sinkOf j ++ d.channelOf j := by
  simp only [sinkOf, channelOf, hch, List.filter_append, List.filter_cons, List.map_append,
    List.append_assoc]
  split <;> simp

theorem Sound.deliver {d d' : Delivery} (h : d.Sound mode sources)
    (hs : d.step .deliver = some d') : d'.Sound mode sources := by
  obtain ⟨e, rest, hpump, hch, rfl⟩ := step_deliver hs
  refine ⟨h.launched, h.source, fun e' he' => h.tagged e' ?_, ?_,
    fun j r hr => (h.tracks j r hr).of_views (views_deliver hch j) id,
    fun _ hstop => by simp [hpump] at hstop⟩
  · rw [hch]
    simp only [List.mem_append, List.mem_cons, List.not_mem_nil, or_false] at he' ⊢
    rcases he' with (hsink | rfl) | hrest
    · exact Or.inl hsink
    · exact Or.inr (Or.inl rfl)
    · exact Or.inr (Or.inr hrest)
  · have hroom := h.room
    rw [hch, List.length_cons] at hroom
    exact Nat.le_of_succ_le hroom

theorem Sound.finish {d d' : Delivery} (h : d.Sound mode sources)
    (hs : d.step .finish = some d') : d'.Sound mode sources := by
  obtain ⟨-, hch, hall, rfl⟩ := step_finish hs
  exact ⟨h.launched, h.source, h.tagged, h.room,
    fun j r hr => (h.tracks j r hr).of_views rfl id, fun _ _ => ⟨hch, hall⟩⟩

theorem Sound.take {d d' : Delivery} (h : d.Sound mode sources)
    (hs : d.step .take = some d') : d'.Sound mode sources := by
  obtain ⟨-, rfl⟩ := step_take hs
  exact ⟨h.launched, h.source, h.tagged, h.room,
    fun j r hr => (h.tracks j r hr).of_views rfl (fun hh => by simp at hh),
    fun hh => by simp at hh⟩

theorem Sound.abort {d d' : Delivery} (h : d.Sound mode sources)
    (hs : d.step .abort = some d') : d'.Sound mode sources := by
  obtain ⟨hheld, -, rfl⟩ := step_abort hs
  exact ⟨h.launched, h.source, h.tagged, h.room,
    fun j r hr => (h.tracks j r hr).of_views rfl id, fun hh => by simp [hheld] at hh⟩

theorem Sound.close {d d' : Delivery} (h : d.Sound mode sources)
    (hs : d.step .close = some d') : d'.Sound mode sources := by
  obtain rfl := step_close hs
  refine ⟨fun j => ?_, fun j r' hj => ?_, fun e he => ?_, h.room, fun j r' hj => ?_,
    fun hh => by simp at hh⟩
  · simpa using h.launched j
  · obtain ⟨r, hr, rfl⟩ := Option.map_eq_some_iff.mp hj
    exact h.source j r hr
  · simpa using h.tagged e he
  · -- every reader stops, dropping what it holds
    obtain ⟨r, hr, rfl⟩ := Option.map_eq_some_iff.mp hj
    exact (h.tracks j r hr).stop rfl rfl

/-- **Every move keeps the invariant.** -/
theorem Sound.step {d d' : Delivery} (h : d.Sound mode sources) {m : Move}
    (hs : d.step m = some d') : d'.Sound mode sources := by
  cases m with
  | read k => exact h.read hs
  | send k => exact h.send hs
  | deliver => exact h.deliver hs
  | finish => exact h.finish hs
  | take => exact h.take hs
  | abort => exact h.abort hs
  | close => exact h.close hs

theorem Sound.run {d d' : Delivery} (h : d.Sound mode sources) {ms : List Move}
    (hs : d.run ms = some d') : d'.Sound mode sources := by
  induction ms generalizing d with
  | nil =>
    cases hs
    exact h
  | cons m ms ih =>
    obtain ⟨d₁, h₁, hrest⟩ := Option.bind_eq_some_iff.mp hs
    exact ih (h.step h₁) hrest

end

end Delivery

open Delivery

/-- **The sink accepts every stream whole, in order.** After any run from a launch: the
sink holds only chunks tagged with a stream of the launch, and the channel no more than
its capacity; of each stream, the sink's chunks are a prefix of what its reader read,
and with those waiting in the channel and the one the reader holds they are all of it
while the reader runs or the handle holds the pump. While the handle holds the pump,
the output counts as finished only once the channel is empty and every reader has ended,
each stream accepted whole. -/
theorem sink_merges_streams (mode : TerminalMode) (sources : Stream → List (List UInt8))
    (moves : List Move) (d : Delivery) (h : (launch mode sources).run moves = some d) :
    (∀ e ∈ d.sink, e.1 ∈ streams mode) ∧
    d.channel.length ≤ capacity ∧
    (∀ k r, d.readers k = some r →
      d.sinkOf k <+: (sources k).take r.read ∧
      (r.ended = false ∨ d.pumpHeld = true →
        d.sinkOf k ++ d.channelOf k ++ r.held.toList = (sources k).take r.read)) ∧
    (d.pumpHeld = true → d.outputFinished = true →
      d.channel = [] ∧
      ∀ k ∈ streams mode, ∃ r, d.readers k = some r ∧ r.ended = true ∧ d.sinkOf k = sources k) := by
  have hs := (sound_launch mode sources).run h
  refine ⟨fun e he => (hs.launched e.1).mp (hs.tagged e (List.mem_append_left _ he)), hs.room,
    fun k r hr => ?_, fun hheld hfin => ?_⟩
  · have ht := hs.tracks k r hr
    rw [← hs.source k r hr]
    exact ⟨((List.prefix_append _ _).trans (List.prefix_append _ _)).trans ht.within, ht.whole⟩
  · -- the pump finished while the handle held it: nothing waits and no reader runs
    have hstop : d.pumpRunning = false := by simpa [outputFinished, hheld] using hfin
    obtain ⟨hch, hall⟩ := hs.stopped hheld hstop
    refine ⟨hch, fun k hk => ?_⟩
    obtain ⟨r, hr⟩ := Option.isSome_iff_exists.mp ((hs.launched k).mpr hk)
    have ht := hs.tracks k r hr
    have hend := (allEnded_iff d).mp hall k r hr
    -- an ended reader read its whole descriptor while the handle held the pump
    have hwhole := ht.whole (Or.inr hheld)
    rw [ht.quiet hend, ht.complete hheld hend, List.take_length, hs.source k r hr] at hwhole
    exact ⟨r, hr, hend, by simpa [channelOf, hch] using hwhole⟩

/-- Both streams through pipes, sent in another order than read, delivered whole. -/
theorem pipes_deliver_both_streams :
    ∃ d, (launch .pipes fun k => if k = .stdout then [[1], [2]] else [[9]]).run
        [.read .stdout, .read .stderr, .send .stderr, .send .stdout, .deliver, .deliver,
          .read .stdout, .send .stdout, .deliver, .read .stdout, .read .stderr, .finish] =
        some d ∧ d.pumpHeld = true ∧ d.outputFinished = true ∧
      d.sink = [(.stderr, [9]), (.stdout, [1]), (.stdout, [2])] ∧
      ((∀ e ∈ d.sink, e.1 ∈ streams .pipes) ∧
        d.channel.length ≤ capacity ∧
        (∀ k r, d.readers k = some r →
          d.sinkOf k <+: ((fun k => if k = .stdout then [[1], [2]] else [[9]]) k).take r.read ∧
          (r.ended = false ∨ d.pumpHeld = true →
            d.sinkOf k ++ d.channelOf k ++ r.held.toList =
              ((fun k => if k = .stdout then [[1], [2]] else [[9]]) k).take r.read)) ∧
        (d.pumpHeld = true → d.outputFinished = true →
          d.channel = [] ∧ ∀ k ∈ streams .pipes, ∃ r, d.readers k = some r ∧ r.ended = true ∧
            d.sinkOf k = (fun k => if k = .stdout then [[1], [2]] else [[9]]) k)) := by
  refine ⟨_, rfl, rfl, rfl, rfl, ?_⟩
  exact sink_merges_streams .pipes _
    [.read .stdout, .read .stderr, .send .stderr, .send .stdout, .deliver, .deliver,
      .read .stdout, .send .stdout, .deliver, .read .stdout, .read .stderr, .finish] _ rfl

end Pump

end Confine
