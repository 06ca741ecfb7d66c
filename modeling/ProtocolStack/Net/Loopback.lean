import Mathlib
import ProtocolStack.Net.Core

/-!
# The loopback driver

{lit}`loopback_transmit` copies a frame into the driver's queue under its
mutex, or returns -1 where {lit}`LOOPBACK_QUEUE_LIMIT` frames are queued;
{lit}`loopback_isr` pops every queued frame, holding the mutex throughout,
and hands each to {lit}`net_input_handler` as received by the loopback
device.  {lit}`memory_alloc` is taken to succeed.

The events of the system are the critical section of a transmit, from any
thread; a whole run of the interrupt routine; and one handler call of
{lit}`net_softirq_handler`, so that every other thread, and a handler that
transmits, may come between two calls.
-/

namespace ProtocolStack

def LOOPBACK_QUEUE_LIMIT : Nat := 16

structure LoopbackQueueEntry where
  type : UInt16
  len : Nat
  data : List UInt8
  deriving DecidableEq, Repr

def loopbackTransmit (queue : QueueHead LoopbackQueueEntry) (type : UInt16) (data : List UInt8)
    (len : Nat) : QueueHead LoopbackQueueEntry × Int :=
  if queue.num ≥ LOOPBACK_QUEUE_LIMIT then (queue, -1)
  else (queuePush queue { type := type, len := len, data := data.take len }, 0)

variable {H : Type}

def loopbackIsrLoop (dev : NetDevice) :
    Nat → QueueHead LoopbackQueueEntry → List (NetProtocol H) →
      QueueHead LoopbackQueueEntry × List (NetProtocol H)
  | 0, queue, protocols => (queue, protocols)
  | fuel + 1, queue, protocols =>
      match queuePop queue with
      | (queue, none) => (queue, protocols)
      | (queue, some entry) =>
          loopbackIsrLoop dev fuel queue (netInputHandler protocols entry.type entry.data entry.len dev)

/-- {lit}`loopback_isr`: its loop pops until the queue is empty, as a queue of {lit}`num` entries is after {lit}`num` pops. -/
def loopbackIsr (dev : NetDevice) (queue : QueueHead LoopbackQueueEntry)
    (protocols : List (NetProtocol H)) : QueueHead LoopbackQueueEntry × List (NetProtocol H) :=
  loopbackIsrLoop dev (queue.num + 1) queue protocols

structure LoopbackSystem (H : Type) where
  queue : QueueHead LoopbackQueueEntry
  protocols : List (NetProtocol H)

inductive LoopbackEvent
  | transmit (type : UInt16) (data : List UInt8) (len : Nat)
  | isr
  | softirq
  deriving DecidableEq, Repr

/-- What a thread sees of an event: the frame it offered and what {lit}`loopback_transmit` returned, or the handler called and the frame it got. -/
inductive LoopbackObs (H : Type)
  | transmitted (entry : LoopbackQueueEntry) (ret : Int)
  | drained
  | handled (type : UInt16) (handler : H) (entry : NetProtocolQueueEntry)
  | idle
  deriving DecidableEq, Repr

def loopbackStep (dev : NetDevice) :
    LoopbackEvent → LoopbackSystem H → LoopbackSystem H × LoopbackObs H
  | .transmit type data len, s =>
      match loopbackTransmit s.queue type data len with
      | (queue, ret) =>
          ({ s with queue := queue }, .transmitted { type := type, len := len, data := data.take len } ret)
  | .isr, s =>
      match loopbackIsr dev s.queue s.protocols with
      | (queue, protocols) => ({ queue := queue, protocols := protocols }, .drained)
  | .softirq, s =>
      match netSoftirqStep s.protocols with
      | (protocols, some (proto, entry)) =>
          ({ s with protocols := protocols }, .handled proto.type proto.handler entry)
      | (protocols, none) => ({ s with protocols := protocols }, .idle)

/-- With at most {lit}`LOOPBACK_QUEUE_LIMIT` frames queued, a transmit fails, and changes nothing, exactly when the queue is full. -/
theorem loopbackStep_transmit_rejected (dev : NetDevice) {s : LoopbackSystem H}
    {frames : List LoopbackQueueEntry} (hq : s.queue.Holds frames)
    (hbound : frames.length ≤ LOOPBACK_QUEUE_LIMIT) (type : UInt16) (data : List UInt8) (len : Nat) :
    ((loopbackStep dev (.transmit type data len) s).2 =
        .transmitted { type := type, len := len, data := data.take len } (-1) ∧
      (loopbackStep dev (.transmit type data len) s).1 = s) ↔
      frames.length = LOOPBACK_QUEUE_LIMIT := by
  have hnum := hq.num_eq
  simp only [loopbackStep, loopbackTransmit, ge_iff_le, hnum]
  split_ifs with hfull
  · -- the queue is left as it is
    exact ⟨fun _ => by omega, fun _ => ⟨rfl, rfl⟩⟩
  · constructor
    · rintro ⟨hret, -⟩
      simp at hret
    · intro hfull'
      omega

end ProtocolStack
