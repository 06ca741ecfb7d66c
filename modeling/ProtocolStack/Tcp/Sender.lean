import Mathlib
import ProtocolStack.Tcp.ReceiveStream

/-!
# The send side: retransmission and the peer's window

The bytes, SYN and FIN the pcb has sent and the peer has not acknowledged
are [snd.una, snd.nxt) in sequence space.  {lit}`tcp_output` queues an entry
for each segment that holds any of them, and the 5th check pops the entries
at the head of the queue whose first sequence number lies below the new
snd.una.  {lit}`tcp_send` sends at most {lit}`cap` bytes, the window less the
bytes in flight, computed in 32 bits.
-/

namespace ProtocolStack

/-- {lit}`x` lies in [lo, lo + n) in sequence space. -/
def seqWithin (lo : UInt32) (n : Nat) (x : UInt32) : Prop :=
  (x - lo).toNat < n

/-- The sequence numbers an entry of the retransmission queue holds: its payload, one for SYN and one for FIN. -/
def TcpQueueEntry.seqLen (e : TcpQueueEntry) : Nat :=
  e.data.length + (if tcpFlgIsset e.flg TCP_FLG_SYN then 1 else 0) +
    (if tcpFlgIsset e.flg TCP_FLG_FIN then 1 else 0)

/-- Every sequence number in [snd.una, snd.nxt) lies in an entry of the retransmission queue. -/
def TcpPcb.RetransmitCovered (pcb : TcpPcb) : Prop :=
  ∀ x, seqWithin pcb.sndUna (pcb.sndNxt - pcb.sndUna).toNat x →
    ∃ e ∈ pcb.queue, seqWithin e.seq e.seqLen x

/-- An empty queue covers only an empty flight: snd.una itself needs an entry otherwise. -/
theorem TcpPcb.RetransmitCovered.sndUna_eq {pcb : TcpPcb} (h : pcb.RetransmitCovered)
    (hq : pcb.queue = []) : pcb.sndUna = pcb.sndNxt := by
  by_contra hne
  have hflight : (pcb.sndNxt - pcb.sndUna).toNat ≠ 0 := by
    intro h0
    apply hne
    have hsub : pcb.sndNxt - pcb.sndUna = 0 := UInt32.toNat_inj.mp (by simpa using h0)
    grind
  have hin : seqWithin pcb.sndUna (pcb.sndNxt - pcb.sndUna).toNat pcb.sndUna := by
    show (pcb.sndUna - pcb.sndUna).toNat < (pcb.sndNxt - pcb.sndUna).toNat
    rw [UInt32.sub_self, UInt32.toNat_zero]
    exact Nat.pos_of_ne_zero hflight
  obtain ⟨e, he, -⟩ := h _ hin
  rw [hq] at he
  exact List.not_mem_nil he

/-- After the handshake the user sends ten bytes, and the peer acknowledges the first five. -/
def tcpRunPartialAck : List (TcpEnv × TcpEvent) :=
  tcpRunHandshake ++
    [(tcpEnvFixed, .send (some 1500) (List.replicate 10 0x61)),
     (tcpEnvFixed, .arrive (peerSegment 1001 106 TCP_FLG_ACK []))]

/--
The ten bytes are one entry [101, 111); the acknowledgment of 106 pops it, as
its first sequence number lies below the new snd.una, and leaves
[106, 111) unacknowledged with no entry to retransmit it from.
-/
theorem tcp_retransmit_partial_ack :
    (tcpRun (tcpRunPartialAck.take 4)).1.queue.map (fun e => (e.seq, e.seqLen)) = [(101, 10)] ∧
      (tcpRun tcpRunPartialAck).1.state = .established ∧
      (tcpRun tcpRunPartialAck).1.sndUna = 106 ∧ (tcpRun tcpRunPartialAck).1.sndNxt = 111 ∧
      (tcpRun tcpRunPartialAck).1.queue = [] ∧ ¬(tcpRun tcpRunPartialAck).1.RetransmitCovered := by
  have hrun : (tcpRun (tcpRunPartialAck.take 4)).1.queue.map (fun e => (e.seq, e.seqLen)) =
        [(101, 10)] ∧
      (tcpRun tcpRunPartialAck).1.state = .established ∧
      (tcpRun tcpRunPartialAck).1.sndUna = 106 ∧ (tcpRun tcpRunPartialAck).1.sndNxt = 111 ∧
      (tcpRun tcpRunPartialAck).1.queue = [] := by
    decide
  obtain ⟨hbefore, hst, huna, hnxt, hq⟩ := hrun
  refine ⟨hbefore, hst, huna, hnxt, hq, fun hcov => ?_⟩
  have heq := hcov.sndUna_eq hq
  rw [huna, hnxt] at heq
  exact absurd heq (by decide)

/-!
## The peer's window
-/

/-- A segment lies in the peer's window [snd.una, snd.una + snd.wnd). -/
def TcpPcb.WithinSendWindow (pcb : TcpPcb) (s : TcpSegmentOut) : Prop :=
  (s.seq - pcb.sndUna).toNat + s.data.length ≤ pcb.sndWnd.toNat

instance (pcb : TcpPcb) (s : TcpSegmentOut) : Decidable (pcb.WithinSendWindow s) :=
  inferInstanceAs (Decidable (_ ≤ _))

/-- An acknowledgment from the peer that advertises the window {lit}`wnd`. -/
def peerAck (seq ack : UInt32) (wnd : UInt16) : TcpArrival :=
  { peerSegment seq ack TCP_FLG_ACK [] with
    seg := { (peerSegment seq ack TCP_FLG_ACK []).seg with wnd := wnd } }

/--
After the handshake the user sends a thousand bytes; the peer acknowledges
one of them and shrinks its window to ten bytes.
-/
def tcpRunShrink : List (TcpEnv × TcpEvent) :=
  tcpRunHandshake ++
    [(tcpEnvFixed, .send (some 1500) (List.replicate 1000 0x61)),
     (tcpEnvFixed, .arrive (peerAck 1001 102 10))]

/--
With 999 bytes in flight and a window of ten, {lit}`cap` wraps to
2^32 - 989, and the next {lit}`tcp_send` sends a hundred bytes past the
window.
-/
theorem tcp_send_window_overrun :
    (tcpRun tcpRunShrink).1.state = .established ∧ (tcpRun tcpRunShrink).1.sndWnd = 10 ∧
      (tcpRun tcpRunShrink).1.sndNxt - (tcpRun tcpRunShrink).1.sndUna = 999 ∧
      tcpSendCap (tcpRun tcpRunShrink).1 = 4294966307 ∧
      ∃ s ∈ (tcpStep (tcpEnvFixed, .send (some 1500) (List.replicate 100 0x62))
          (tcpRun tcpRunShrink).1).2.out,
        s.data.length = 100 ∧ ¬(tcpRun tcpRunShrink).1.WithinSendWindow s := by
  decide +kernel

end ProtocolStack
