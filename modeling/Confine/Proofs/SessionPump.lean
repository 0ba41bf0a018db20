import Confine.Proofs.OutputDelivery
import Confine.Proofs.ReadLooks

/-!
# A session's pump is one schedule of the delivery

A session's child writes to a terminal, read by one reader task whose chunks the pump
appends to the backlog. `Session.feed` moves in at once every chunk that reached the parent
since the last feed: that is the schedule of the delivery's tasks where each chunk is read,
sent and handed on before the next is read, and where the reader finds the end and the pump
finishes once the output has ended. `feeds_follow_delivery` shows that feeds from a session's
start are such a run from the launch, the backlog fed exactly the chunks the sink accepted.
-/

namespace Confine

namespace Pump

namespace Delivery

/-- One chunk carried from the reader of a stream to the sink: read, sent, handed on. -/
def carry (k : Stream) : List Move := [.read k, .send k, .deliver]

/-- `n` chunks carried one after another. -/
def carryAll (k : Stream) (n : Nat) : List Move := (List.replicate n (carry k)).flatten

theorem run_append (d : Delivery) (ms ms' : List Move) :
    d.run (ms ++ ms') = (d.run ms).bind (·.run ms') := by
  induction ms generalizing d with
  | nil => rfl
  | cons m ms ih =>
    simp only [List.cons_append, run]
    cases d.step m with
    | none => rfl
    | some d' => exact ih d'

/-- Where a delivery on a terminal stands once a session's pump has fed `n` chunks of what
the terminal yields, `src`: the reader has read them and handed each on, the channel is
empty, the handle holds the pump, and once the session's pump has stopped the reader has
ended and the pump has finished. -/
structure FedTo (d : Delivery) (src : List (List UInt8)) (n : Nat) (done : Bool) : Prop where
  reader : d.readers .stdout = some ⟨src, n, none, done⟩
  alone : d.readers .stderr = none
  channel : d.channel = []
  running : d.pumpRunning = !done
  held : d.pumpHeld = true

theorem fedTo_launch (src : List (List UInt8)) : (launch .pty fun _ => src).FedTo src 0 false where
  reader := rfl
  alone := rfl
  channel := rfl
  running := rfl
  held := rfl

namespace FedTo

variable {d : Delivery} {src : List (List UInt8)} {n : Nat}

/-- The next chunk of the terminal is read, sent and handed on. -/
theorem carry (h : d.FedTo src n false) {c : List UInt8} (hc : src[n]? = some c) :
    ∃ d', d.run (Delivery.carry .stdout) = some d' ∧ d'.FedTo src (n + 1) false ∧
      d'.sink = d.sink ++ [(.stdout, c)] := by
  simp [Delivery.carry, run, step, h.reader, hc, h.running, h.channel, h.held, setReader,
    capacity]
  exact ⟨by simp, by simp [h.alone], rfl, rfl, rfl⟩

/-- The next `j` chunks of the terminal are carried, one after another. -/
theorem carryAll (h : d.FedTo src n false) {j : Nat} (hj : j ≤ src.length - n) :
    ∃ d', d.run (Delivery.carryAll .stdout j) = some d' ∧ d'.FedTo src (n + j) false ∧
      d'.sink = d.sink ++ ((src.drop n).take j).map (Stream.stdout, ·) := by
  induction j generalizing d n with
  | zero => exact ⟨d, rfl, h, by simp⟩
  | succ j ih =>
    have hn : n < src.length := by omega
    obtain ⟨d₁, h₁, hfed₁, hsink₁⟩ := h.carry (List.getElem?_eq_getElem hn)
    obtain ⟨d', h', hfed', hsink'⟩ := ih hfed₁ (by omega)
    refine ⟨d', ?_, by rwa [Nat.add_right_comm] at hfed', ?_⟩
    · rw [Delivery.carryAll, List.replicate_succ, List.flatten_cons, run_append, h₁]
      exact h'
    · rw [hsink', hsink₁, List.drop_eq_getElem_cons hn]
      simp only [List.take_succ_cons, List.map_cons, List.append_assoc, List.singleton_append]

/-- Past the last chunk the reader finds the end of the terminal, and the pump, with nothing
left to hand on and no reader running, finishes. -/
theorem stop (h : d.FedTo src n false) (hn : src.length ≤ n) :
    ∃ d', d.run [.read .stdout, .finish] = some d' ∧ d'.FedTo src n true ∧ d'.sink = d.sink := by
  have hend : src[n]? = none := List.getElem?_eq_none hn
  simp [run, step, h.reader, hend, h.running, h.channel, h.alone, h.held, allEnded, setReader]
  exact ⟨by simp, by simp [h.alone], rfl, rfl, rfl⟩

end FedTo

end Delivery

end Pump

namespace Session

open Pump Delivery

/-- When the pump feeds at `now`, the chunks that reached the parent before then are the
first of `src`, what the terminal yields, and all of it once the output has ended. -/
def Reads (s : Session) (now : Nat) (src : List (List UInt8)) : Prop :=
  (s.child.upTo (s.childTime now)).arrivedBefore (s.childTime now) <+: src ∧
    ((s.child.upTo (s.childTime now)).outputEnd.any (· < s.childTime now) = true →
      (s.child.upTo (s.childTime now)).arrivedBefore (s.childTime now) = src)

theorem fed_feed (s : Session) (now : Nat) : (s.feed now).fed = s.fed + (s.fresh now).length :=
  rfl

theorem backlog_feed_eq (s : Session) (now : Nat) :
    (s.feed now).backlog = (s.fresh now).foldl (fun b c => (b.append c).2) s.backlog :=
  rfl

theorem pumpDone_feed (s : Session) (now : Nat) :
    (s.feed now).pumpDone =
      (s.pumpDone || (s.child.upTo (s.childTime now)).outputEnd.any (· < s.childTime now)) := by
  unfold feed
  dsimp only
  cases (s.child.upTo (s.childTime now)).outputEnd <;> rfl

/-- Before the pump stops, a feed moves in the chunks of `src` past those fed already, up to
the last that reached the parent. -/
theorem fresh_eq_take {s : Session} {now : Nat} {src : List (List UInt8)}
    (hdone : s.pumpDone = false)
    (h : (s.child.upTo (s.childTime now)).arrivedBefore (s.childTime now) <+: src) :
    s.fresh now = (src.drop s.fed).take
      (((s.child.upTo (s.childTime now)).arrivedBefore (s.childTime now)).length - s.fed) := by
  unfold fresh
  rw [hdone, if_neg Bool.false_ne_true]
  generalize (s.child.upTo (s.childTime now)).arrivedBefore (s.childTime now) = arrived at h ⊢
  obtain ⟨rest, rfl⟩ := h
  rw [List.drop_append, List.take_append, List.take_of_length_le (by simp)]
  simp

/-- One feed is a run of the delivery: the chunks it moves into the backlog are those the
sink accepts, and the pump stops with the delivery finished. -/
theorem feed_run {s : Session} {now : Nat} {d : Delivery} {src : List (List UInt8)}
    (h : d.FedTo src s.fed s.pumpDone) (hr : s.Reads now src) :
    ∃ ms d', d.run ms = some d' ∧ d'.FedTo src (s.feed now).fed (s.feed now).pumpDone ∧
      d'.sink = d.sink ++ (s.fresh now).map (Stream.stdout, ·) := by
  rw [fed_feed, pumpDone_feed]
  cases hdone : s.pumpDone with
  | true =>
    have hfresh : s.fresh now = [] := by simp [fresh, hdone]
    rw [hdone] at h
    exact ⟨[], d, rfl, by simpa [hfresh] using h, by simp [hfresh]⟩
  | false =>
    rw [hdone] at h
    obtain ⟨hpre, hall⟩ := hr
    have hlen := hpre.length_le
    have hfresh := fresh_eq_take hdone hpre
    have hcount : (s.fresh now).length =
        ((s.child.upTo (s.childTime now)).arrivedBefore (s.childTime now)).length - s.fed := by
      rw [hfresh, List.length_take, List.length_drop]
      omega
    obtain ⟨d₁, h₁, hfed₁, hsink₁⟩ := h.carryAll (j := (s.fresh now).length) (by omega)
    have htake : (src.drop s.fed).take (s.fresh now).length = s.fresh now := by
      rw [hcount, ← hfresh]
    rw [htake] at hsink₁
    cases hend : (s.child.upTo (s.childTime now)).outputEnd.any (· < s.childTime now) with
    | false => exact ⟨_, d₁, h₁, hfed₁, hsink₁⟩
    | true =>
      have hwhole := hall hend
      obtain ⟨d', h', hfed', hsink'⟩ := hfed₁.stop (by rw [← hwhole]; omega)
      refine ⟨carryAll .stdout (s.fresh now).length ++ [.read .stdout, .finish], d', ?_, hfed',
        by rw [hsink', hsink₁]⟩
      rw [run_append, h₁]
      exact h'

/-- The session after feeds at the given times, in order. -/
def feeds (s : Session) (ts : List Nat) : Session := ts.foldl feed s

/-- Every feed of a sequence reads `src`. -/
def ReadsAll (src : List (List UInt8)) : Session → List Nat → Prop
  | _, [] => True
  | s, now :: ts => s.Reads now src ∧ ReadsAll src (s.feed now) ts

/-- Feeds in sequence are a run of the delivery, whose sink accepts the chunks the feeds
moved into the backlog. -/
theorem feeds_run {src : List (List UInt8)} :
    ∀ {s : Session} {ts : List Nat} {d : Delivery}, d.FedTo src s.fed s.pumpDone →
      ReadsAll src s ts →
      ∃ (ms : List Move) (d' : Delivery) (chunks : List (List UInt8)), d.run ms = some d' ∧
        d'.FedTo src (s.feeds ts).fed (s.feeds ts).pumpDone ∧
        d'.sink = d.sink ++ chunks.map (Stream.stdout, ·) ∧
        (s.feeds ts).backlog = chunks.foldl (fun b c => (b.append c).2) s.backlog
  | s, [], d, h, _ => ⟨[], d, [], rfl, h, by simp, rfl⟩
  | s, now :: ts, d, h, ⟨hr, hrs⟩ => by
    obtain ⟨ms₁, d₁, h₁, hfed₁, hsink₁⟩ := feed_run h hr
    obtain ⟨ms, d', chunks, h', hfed', hsink', hback'⟩ := feeds_run hfed₁ hrs
    refine ⟨ms₁ ++ ms, d', s.fresh now ++ chunks, ?_, hfed', ?_, ?_⟩
    · rw [run_append, h₁]
      exact h'
    · rw [hsink', hsink₁, List.map_append, List.append_assoc]
    · rw [List.foldl_append, ← backlog_feed_eq]
      exact hback'

end Session

open Pump Delivery

/-- **A session's pump is one schedule of the delivery.** Whatever times a session's pump
feeds at, as long as what reached the parent by each of them is the start of what the
terminal yields, `src`, there is a run of the delivery's tasks from the launch on a terminal
that reaches the same place: its reader has read what the session fed, its sink accepted
exactly the chunks moved into the backlog, in order, and the pump has finished once the
session's pump stopped. With the delivery's invariant, a stopped pump has fed all of `src`. -/
theorem feeds_follow_delivery (s : Session) (hs : s.fed = 0) (hdone : s.pumpDone = false)
    (ts : List Nat) (src : List (List UInt8)) (hr : Session.ReadsAll src s ts) :
    ∃ ms d, (launch .pty fun _ => src).run ms = some d ∧
      d.FedTo src (s.feeds ts).fed (s.feeds ts).pumpDone ∧
      (s.feeds ts).backlog = (d.sinkOf .stdout).foldl (fun b c => (b.append c).2) s.backlog ∧
      ((s.feeds ts).pumpDone = true → d.sinkOf .stdout = src) := by
  have hstart : (launch .pty fun _ => src).FedTo src s.fed s.pumpDone := by
    rw [hs, hdone]
    exact fedTo_launch src
  obtain ⟨ms, d, chunks, hrun, hfed, hsink, hback⟩ := Session.feeds_run hstart hr
  have hchunks : d.sinkOf .stdout = chunks := by
    simp [sinkOf, hsink, launch, List.filter_map, Function.comp_def]
  refine ⟨ms, d, hrun, hfed, by rw [hchunks]; exact hback, fun hstop => ?_⟩
  -- a finished delivery has handed on every chunk its reader read, and it read them all
  have hsound := (sound_launch .pty fun _ => src).run hrun
  rw [hstop] at hfed
  have ht := hsound.tracks .stdout _ hfed.reader
  have hwhole := ht.whole (Or.inr hfed.held)
  rw [ht.complete hfed.held rfl, List.take_length] at hwhole
  simpa [channelOf, hfed.channel] using hwhole

end Confine
