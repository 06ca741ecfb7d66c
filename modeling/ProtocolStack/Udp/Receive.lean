import Mathlib
import ProtocolStack.Udp.Bindings

/-!
# The receive side of a UDP pcb

On an OPEN pcb, {lit}`udp_input` pushes an entry onto the queue and each
pass of {lit}`udp_recvfrom` pops it; a pass that finds the queue empty
sleeps, or returns -1 when its sleep is interrupted, and leaves the queue as
it is.  A queue of datagrams is what this is for: {lit}`udpFifoStep` states
it over a list, and the linked list of {lit}`util.c` under the pcb refines
it over every interleaving.  No pcb is ever CLOSING, so the branch of
{lit}`udp_recvfrom` that releases a pcb never runs.
-/

namespace ProtocolStack

/-- What reaches one pcb: an entry {lit}`udp_input` queues, or a pass of {lit}`udp_recvfrom`. -/
inductive UdpRecvEvent
  | input (entry : UdpQueueEntry)
  | recvfrom (size : Nat)

def udpRecvStep : UdpRecvEvent → UdpPcb → UdpPcb × Option (IpEndpoint × List UInt8)
  | .input entry, pcb => (pcb.enqueue entry, none)
  | .recvfrom size, pcb =>
      match pcb.recvfromPass with
      | (pcb', entry) => (pcb', entry.map (udpRecvfromCopy · size))

/-- A socket's receive side as a queue of datagrams. -/
def udpFifoStep :
    UdpRecvEvent → List UdpQueueEntry → List UdpQueueEntry × Option (IpEndpoint × List UInt8)
  | .input entry, q => (q ++ [entry], none)
  | .recvfrom _, [] => ([], none)
  | .recvfrom size, entry :: q => (q, some (entry.foreign, entry.data.take (min size entry.len.toNat)))

/-- The entries a queue of datagrams hands out, in order. -/
def udpFifoTaken : List UdpQueueEntry → List UdpRecvEvent → List UdpQueueEntry
  | _, [] => []
  | q, .input entry :: evs => udpFifoTaken (q ++ [entry]) evs
  | [], .recvfrom _ :: evs => udpFifoTaken [] evs
  | entry :: q, .recvfrom _ :: evs => entry :: udpFifoTaken q evs

def udpEnqueued : List UdpRecvEvent → List UdpQueueEntry
  | [] => []
  | .input entry :: evs => entry :: udpEnqueued evs
  | .recvfrom _ :: evs => udpEnqueued evs

/-- Nothing is lost or made up: what was handed out, then what is left, is what was there and came in. -/
theorem udpFifoTaken_append (q : List UdpQueueEntry) (evs : List UdpRecvEvent) :
    udpFifoTaken q evs ++ (Run.run udpFifoStep q evs).1 = q ++ udpEnqueued evs := by
  induction evs generalizing q with
  | nil => simp [udpFifoTaken, udpEnqueued]
  | cons ev evs ih =>
      cases ev with
      | input entry =>
          simp only [udpFifoTaken, udpEnqueued, Run.run_cons, udpFifoStep, ih]
          simp
      | recvfrom size =>
          cases q with
          | nil => simp only [udpFifoTaken, udpEnqueued, Run.run_cons, udpFifoStep, ih]
          | cons entry q =>
              simp only [udpFifoTaken, udpEnqueued, Run.run_cons, udpFifoStep, List.cons_append, ih]

/-! ## The linked list refines the queue of datagrams -/

theorem udpRecvStep_refines {pcb : UdpPcb} {xs : List UdpQueueEntry} (h : pcb.queue.Holds xs)
    (ev : UdpRecvEvent) :
    (udpRecvStep ev pcb).2 = (udpFifoStep ev xs).2 ∧
      (udpRecvStep ev pcb).1.queue.Holds (udpFifoStep ev xs).1 := by
  cases ev with
  | input entry => exact ⟨rfl, h.push entry⟩
  | recvfrom size =>
      obtain ⟨hpop, hrest⟩ := h.pop
      -- the pass returns the first datagram and leaves the others
      have hpass : (udpRecvStep (.recvfrom size) pcb) =
          ({ pcb with queue := (queuePop pcb.queue).1 },
            (queuePop pcb.queue).2.map (udpRecvfromCopy · size)) := by
        simp only [udpRecvStep, UdpPcb.recvfromPass]
      rw [hpass]
      cases xs with
      | nil => exact ⟨by rw [hpop]; rfl, hrest⟩
      | cons entry xs => exact ⟨by rw [hpop]; rfl, hrest⟩

theorem udp_recvfrom_fifo (pcb : UdpPcb) (xs : List UdpQueueEntry) (hq : pcb.queue.Holds xs)
    (evs : List UdpRecvEvent) :
    (Run.run udpRecvStep pcb evs).2 = (Run.run udpFifoStep xs evs).2 ∧
      (Run.run udpRecvStep pcb evs).1.queue.Holds (Run.run udpFifoStep xs evs).1 ∧
      udpFifoTaken xs evs ++ (Run.run udpFifoStep xs evs).1 = xs ++ udpEnqueued evs := by
  obtain ⟨hobs, hholds⟩ := Run.run_simulation udpRecvStep udpFifoStep
    (fun pcb xs => pcb.queue.Holds xs) (fun _ _ ev h => udpRecvStep_refines h ev) pcb xs evs hq
  exact ⟨hobs, hholds, udpFifoTaken_append xs evs⟩

/-- Two datagrams reach a pcb, then three passes of {lit}`udp_recvfrom` run, the last on an empty queue. -/
def udpRecvTwoDatagrams : List UdpRecvEvent :=
  [.input ⟨⟨0x0a000002, 7⟩, 3, [1, 2, 3]⟩, .input ⟨⟨0x0a000003, 9⟩, 1, [4]⟩,
    .recvfrom 2, .recvfrom 100, .recvfrom 100]

theorem udp_recvfrom_fifo_two :
    (QueueHead.zero : QueueHead UdpQueueEntry).Holds [] ∧
      (Run.run udpRecvStep { UdpPcb.zero with state := .open } udpRecvTwoDatagrams).2 =
        (Run.run udpFifoStep [] udpRecvTwoDatagrams).2 ∧
      (Run.run udpRecvStep { UdpPcb.zero with state := .open } udpRecvTwoDatagrams).1.queue.Holds
        (Run.run udpFifoStep [] udpRecvTwoDatagrams).1 ∧
      udpFifoTaken [] udpRecvTwoDatagrams ++ (Run.run udpFifoStep [] udpRecvTwoDatagrams).1 =
        [] ++ udpEnqueued udpRecvTwoDatagrams :=
  ⟨QueueHead.holds_zero, udp_recvfrom_fifo _ [] QueueHead.holds_zero _⟩

example :
    (Run.run udpFifoStep [] udpRecvTwoDatagrams).2 =
      [none, none, some (⟨0x0a000002, 7⟩, [1, 2]), some (⟨0x0a000003, 9⟩, [4]), none] := by
  decide

/-! ## The table acts on a pcb by these events -/

theorem udpInput_selected {e : ByteOrder.Endian} {pcbs : List UdpPcb} {data : List UInt8}
    {len : Nat} {src dst : IpAddr} {port : UInt16} {entry : UdpQueueEntry} {i : Nat}
    (hentry : udpInputEntry e data len src dst = some (port, entry))
    (hsel : udpPcbSelect pcbs dst port = some i) :
    udpInput e pcbs data len src dst =
      pcbs.modify i fun pcb => (udpRecvStep (.input entry) pcb).1 := by
  rw [udpInput, hentry]
  simp only [hsel, udpRecvStep]

theorem udpRecvfrom_of_get {pcbs : List UdpPcb} {id : Int} {pcb : UdpPcb} (size : Nat)
    (hget : udpPcbGet pcbs id = some pcb) :
    udpRecvfrom pcbs id size =
      (pcbs.set id.toNat (udpRecvStep (.recvfrom size) pcb).1,
        (udpRecvStep (.recvfrom size) pcb).2) := by
  simp only [udpRecvfrom, hget, udpRecvStep]

def UdpNoClosing (pcbs : List UdpPcb) : Prop :=
  ∀ (j : Nat) (p : UdpPcb), pcbs[j]? = some p → p.state ≠ .closing

theorem UdpNoClosing.update {pcbs pcbs' : List UdpPcb} {i : Nat} (h : UdpNoClosing pcbs)
    (hother : ∀ j, j ≠ i → pcbs'[j]? = pcbs[j]?)
    (hnew : ∀ p' : UdpPcb, pcbs'[i]? = some p' → p'.state ≠ .closing) : UdpNoClosing pcbs' := by
  intro j p hp
  by_cases hj : j = i
  · subst hj
    exact hnew p hp
  · rw [hother j hj] at hp
    exact h j p hp

theorem UdpNoClosing.step {pcbs : List UdpPcb} (h : UdpNoClosing pcbs) (e : ByteOrder.Endian)
    (routes : List IpRoute) (ev : UdpEvent) : UdpNoClosing (udpStep e routes ev pcbs).1 := by
  obtain ⟨i, hother, hnew⟩ := udpStep_changes e routes ev pcbs
  refine h.update hother fun p' hp' => ?_
  cases hnew p' hp' with
  | keep p hp hst _ =>
      rw [hst]
      exact h i p hp
  | release hst _ | alloc _ _ _ hst _ | bind _ hst _ _ =>
      rw [hst]
      exact nofun

end ProtocolStack
