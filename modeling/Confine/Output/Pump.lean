import Confine.Output.Stream
import Confine.Config

/-!
# Delivering a child's output to its sink

One reader task per output descriptor reads chunks and sends them, tagged with their
stream, into a channel of at most 64 chunks; one pump task hands them on to the sink in the
order sent, and finishes once the channel is empty and every reader has ended. The handle
keeps the pump until draining or closing takes it. `Delivery.step` is one move of one task,
and a run is any sequence of moves, in any order the scheduler picks.
-/

namespace Confine

namespace Pump

/-- How many chunks the channel between the readers and the pump holds. -/
def capacity : Nat := 64

/-- A reader task on one descriptor. -/
structure Reader where
  /-- The chunks its reads return, in order, before the descriptor ends. -/
  source : List (List UInt8)
  /-- How many of them it has read. -/
  read : Nat
  /-- A chunk read and not yet sent. -/
  held : Option (List UInt8)
  /-- Whether the task has ended; it then holds no sender. -/
  ended : Bool
  deriving DecidableEq, Repr

/-- A reader that has read nothing yet. -/
def Reader.start (source : List (List UInt8)) : Reader := ⟨source, 0, none, false⟩

/-- The readers, one per stream that has a descriptor, the channel, the pump, and the
chunks the sink accepted, oldest first. -/
structure Delivery where
  readers : Stream → Option Reader
  channel : List (Stream × List UInt8)
  /-- Whether the pump task still runs; while it runs it holds the receiver. -/
  pumpRunning : Bool
  /-- Whether the handle still holds the pump. -/
  pumpHeld : Bool
  sink : List (Stream × List UInt8)

/-- The streams a launch reads: through pipes both, on a terminal standard output. -/
def streams : TerminalMode → List Stream
  | .pipes => [.stdout, .stderr]
  | .pty => [.stdout]

/-- Right after a launch: a reader on each stream of the mode, with the chunks its
descriptor will yield, an empty channel, and a running pump that the handle holds. -/
def launch (mode : TerminalMode) (sources : Stream → List (List UInt8)) : Delivery :=
  { readers := fun k => if k ∈ streams mode then some (Reader.start (sources k)) else none
    channel := [], pumpRunning := true, pumpHeld := true, sink := [] }

/-- One move of one task: a reader's read or send, the pump taking a chunk or finishing,
or the handle's owner draining, giving up on the drain, or closing. -/
inductive Move where
  | read (k : Stream)
  | send (k : Stream)
  | deliver
  | finish
  | take
  | abort
  | close
  deriving DecidableEq, Repr

namespace Delivery

/-- Whether the handle counts the output as finished: the pump was taken, or it has
finished. -/
def outputFinished (d : Delivery) : Bool := !d.pumpHeld || !d.pumpRunning

/-- Whether every reader has ended, so that no sender is left. -/
def allEnded (d : Delivery) : Bool :=
  [Stream.stdout, Stream.stderr].all fun k => (d.readers k).all (·.ended)

/-- The delivery with the reader of a stream replaced. -/
def setReader (d : Delivery) (k : Stream) (r : Reader) : Delivery :=
  { d with readers := fun j => if j = k then some r else d.readers j }

/-- The delivery after a move, or `none` when the task cannot make it now. -/
def step (d : Delivery) : Move → Option Delivery
  | .read k => do
    let r ← d.readers k
    if r.ended || r.held.isSome then none
    else
      match r.source[r.read]? with
      | some c => some (d.setReader k { r with read := r.read + 1, held := some c })
      | none => some (d.setReader k { r with ended := true })
  | .send k => do
    let r ← d.readers k
    let c ← r.held
    if r.ended then none
    else if d.pumpRunning then
      -- a full channel makes the sender wait
      if d.channel.length < capacity then
        some { d.setReader k { r with held := none } with channel := d.channel ++ [(k, c)] }
      else none
    else some (d.setReader k { r with held := none, ended := true })
  | .deliver =>
    if d.pumpRunning then
      match d.channel with
      | e :: rest => some { d with channel := rest, sink := d.sink ++ [e] }
      | [] => none
    else none
  | .finish =>
    if d.pumpRunning && d.channel.isEmpty && d.allEnded then some { d with pumpRunning := false }
    else none
  | .take => if d.pumpHeld then some { d with pumpHeld := false } else none
  | .abort => if !d.pumpHeld && d.pumpRunning then some { d with pumpRunning := false } else none
  | .close =>
    some { d with
      readers := fun k => (d.readers k).map fun r => { r with held := none, ended := true }
      pumpRunning := d.pumpRunning && !d.pumpHeld
      pumpHeld := false }

/-- The delivery after moves in order, or `none` when one of them cannot be made. -/
def run (d : Delivery) : List Move → Option Delivery
  | [] => some d
  | m :: ms => (d.step m).bind fun d' => d'.run ms

end Delivery

end Pump

end Confine
