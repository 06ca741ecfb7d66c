import Mathlib
import ProtocolStack.Tcp.ReceiveStream

/-!
# The close handshake

RFC 793 moves a connection that has sent its FIN on when an acceptable
segment acknowledges it: FIN-WAIT-1 to FIN-WAIT-2, or on to TIME-WAIT when
the segment also carries the peer's FIN; CLOSING to TIME-WAIT; LAST-ACK to
CLOSED.  {lit}`tcp_segment_arrives` does the first and the last.  CLOSING is
in none of the switches of its 1st and 5th checks, so the 1st check finds no
segment acceptable there: every segment is answered with a bare ACK, or
dropped when it carries RST, and the pcb stays as it is.  A simultaneous
close reaches CLOSING and never leaves it.

The acceptability test of RFC 793 compares sequence numbers modulo 2^32;
the unsigned comparisons of the 1st check agree with it while
rcv.nxt + rcv.wnd does not wrap.
-/

namespace ProtocolStack

/-- {lit}`RCV.NXT =< x < RCV.NXT+RCV.WND` of RFC 793, in sequence-number arithmetic modulo 2^32. -/
def TcpPcb.inRecvWindow (pcb : TcpPcb) (x : UInt32) : Bool :=
  x - pcb.rcvNxt < pcb.rcvWnd.toUInt32

/-- The acceptability test of RFC 793 section 3.3, the same in every synchronized state. -/
def tcpRfc793Acceptable (pcb : TcpPcb) (seg : TcpSegmentInfo) : Bool :=
  if seg.len = 0 then
    if pcb.rcvWnd = 0 then seg.seq == pcb.rcvNxt else pcb.inRecvWindow seg.seq
  else if pcb.rcvWnd = 0 then false
  else pcb.inRecvWindow seg.seq || pcb.inRecvWindow (seg.seq + seg.len.toUInt32 - 1)

/-! ## The 1st check against the RFC test -/

theorem TcpPcb.inRecvWindow_eq (pcb : TcpPcb) (hwrap : pcb.rcvNxt.toNat + pcb.rcvWnd.toNat < 2 ^ 32)
    (x : UInt32) :
    pcb.inRecvWindow x = (pcb.rcvNxt <= x && x < pcb.rcvNxt + pcb.rcvWnd.toUInt32) := by
  have hnxt := pcb.rcvNxt.toNat_lt
  have hx := x.toNat_lt
  unfold TcpPcb.inRecvWindow
  rw [Bool.eq_iff_iff]
  simp only [decide_eq_true_eq, Bool.and_eq_true, UInt32.lt_iff_toNat_lt, UInt32.le_iff_toNat_le,
    UInt32.toNat_sub, UInt32.toNat_add, UInt16.toNat_toUInt32]
  omega

/-- In the states its switch lists, the 1st check is the RFC test while the window does not wrap. -/
theorem tcpSegmentAcceptable_eq_rfc793 {pcb : TcpPcb}
    (hst : pcb.state ∈ [.synReceived, .established, .finWait1, .finWait2, .closeWait, .lastAck])
    (hwrap : pcb.rcvNxt.toNat + pcb.rcvWnd.toNat < 2 ^ 32) (seg : TcpSegmentInfo) :
    tcpSegmentAcceptable pcb seg = tcpRfc793Acceptable pcb seg := by
  unfold tcpSegmentAcceptable tcpRfc793Acceptable
  simp only [List.mem_cons, List.not_mem_nil, or_false] at hst
  rcases hst with h | h | h | h | h | h <;> simp only [h, pcb.inRecvWindow_eq hwrap]

theorem tcpSegmentAcceptable_closing {pcb : TcpPcb} (hst : pcb.state = .closing) (seg : TcpSegmentInfo) :
    tcpSegmentAcceptable pcb seg = false := by
  unfold tcpSegmentAcceptable
  rw [hst]

/-! ## The phases in the states that have sent a FIN -/

theorem tcpSegmentArrivesText_state (env : TcpEnv) (pcb : TcpPcb) (a : TcpArrival) :
    (tcpSegmentArrivesText env pcb a).1.state = pcb.state := by
  rw [tcpSegmentArrivesText_fst]
  split <;> rfl

theorem tcpSegmentArrivesAckState_finWait1 {q : TcpPcb} (hst : q.state = .finWait1)
    {seg : TcpSegmentInfo} (hnxt : seg.ack = q.sndNxt) :
    (tcpSegmentArrivesAckState q seg).state = .finWait2 := by
  unfold tcpSegmentArrivesAckState
  rw [hst]
  simp [hnxt]

theorem tcpSegmentArrivesFinState_finWait2 {q : TcpPcb} (hst : q.state = .finWait2) (seg : TcpSegmentInfo) :
    (tcpSegmentArrivesFinState q seg).state = .timeWait := by
  unfold tcpSegmentArrivesFinState
  rw [hst]

/-- FIN-WAIT-1 sees its FIN acknowledged in the 5th check: FIN-WAIT-2, and processing goes on. -/
theorem tcpSegmentArrivesAck_finWait1 (env : TcpEnv) {pcb : TcpPcb} (hst : pcb.state = .finWait1)
    {a : TcpArrival} (hnxt : a.seg.ack = pcb.sndNxt) :
    (tcpSegmentArrivesAck env pcb a).1.state = .finWait2 ∧ (tcpSegmentArrivesAck env pcb a).2.2 = true := by
  have hack : tcpSegmentArrivesAck env pcb a = tcpSegmentArrivesAckEstablished env pcb a.seg := by
    unfold tcpSegmentArrivesAck
    rw [hst]
  rw [hack]
  unfold tcpSegmentArrivesAckEstablished
  split
  · -- snd.una advances; the cleanup and the window update keep the state and snd.nxt
    refine ⟨tcpSegmentArrivesAckState_finWait1 ?_ ?_, rfl⟩
    · unfold tcpSegmentArrivesWindowUpdate tcpRetransmitQueueCleanup
      split <;> exact hst
    · unfold tcpSegmentArrivesWindowUpdate tcpRetransmitQueueCleanup
      split <;> exact hnxt
  · split
    · exact ⟨tcpSegmentArrivesAckState_finWait1 hst hnxt, rfl⟩
    · split
      · rename_i hgt
        rw [hnxt] at hgt
        exact absurd hgt (UInt32.lt_irrefl _)
      · exact ⟨tcpSegmentArrivesAckState_finWait1 hst hnxt, rfl⟩

theorem tcpSegmentArrivesAck_lastAck (env : TcpEnv) {pcb : TcpPcb} (hst : pcb.state = .lastAck)
    {a : TcpArrival} (hnxt : a.seg.ack = pcb.sndNxt) :
    tcpSegmentArrivesAck env pcb a = (TcpPcb.zero, [], false) := by
  unfold tcpSegmentArrivesAck
  rw [hst]
  simp [hnxt, tcpPcbRelease]

/-! ## Acknowledging our FIN -/

section FinAcked

variable (env : TcpEnv) {pcb : TcpPcb} {a : TcpArrival}

theorem tcpSegmentArrivesPcb_sentFin (hst : pcb.state = .finWait1 ∨ pcb.state = .closing ∨ pcb.state = .lastAck) :
    tcpSegmentArrivesPcb env pcb a = tcpSegmentArrivesOtherwise env pcb a := by
  unfold tcpSegmentArrivesPcb
  rcases hst with h | h | h <;> rw [h]

/-- In CLOSING no segment is acceptable: it is answered with a bare ACK, or dropped when it carries RST, and the pcb stays. -/
theorem tcpSegmentArrivesPcb_closing (hst : pcb.state = .closing) :
    tcpSegmentArrivesPcb env pcb a =
      (pcb, if tcpFlgIsset a.flags TCP_FLG_RST then [] else [(tcpOutput env pcb TCP_FLG_ACK []).2.1]) := by
  rw [tcpSegmentArrivesPcb_sentFin env (.inr (.inl hst))]
  unfold tcpSegmentArrivesOtherwise
  rw [tcpSegmentAcceptable_closing hst]
  rcases hout : tcpOutput env pcb TCP_FLG_ACK [] with ⟨pcb1, s, ok⟩
  -- the bare ACK leaves the pcb as it is
  have hpcb1 : pcb1 = pcb := by
    have h := tcpOutput_ack_fst env pcb
    rw [hout] at h
    exact h
  by_cases hrst : tcpFlgIsset a.flags TCP_FLG_RST = true
  · simp [hrst]
  · simp [hrst, hpcb1]

theorem tcpSegmentArrivesPcb_finWait1_acked (hst : pcb.state = .finWait1)
    (hacc : tcpSegmentAcceptable pcb a.seg = true) (hack : tcpFlgIsset a.flags TCP_FLG_ACK = true)
    (hnxt : a.seg.ack = pcb.sndNxt) :
    (tcpSegmentArrivesPcb env pcb a).1.state =
      if tcpFlgIsset a.flags TCP_FLG_FIN then .timeWait else .finWait2 := by
  obtain ⟨hst5, hcont⟩ := tcpSegmentArrivesAck_finWait1 env hst hnxt
  have hst7 := (tcpSegmentArrivesText_state env (tcpSegmentArrivesAck env pcb a).1 a).trans hst5
  rw [tcpSegmentArrivesPcb_sentFin env (.inl hst), tcpSegmentArrivesOtherwise_fst, if_pos ⟨hacc, hack⟩,
    if_pos hcont, tcpSegmentArrivesFin_fst]
  by_cases hfin : tcpFlgIsset a.flags TCP_FLG_FIN = true
  · -- the 8th step finds FIN-WAIT-2 and moves on to TIME-WAIT
    rw [if_pos ⟨hfin, by rw [hst7]; decide, by rw [hst7]; decide⟩, if_pos hfin]
    apply tcpSegmentArrivesFinState_finWait2
    exact hst7
  · rw [if_neg (fun h => hfin h.1), if_neg hfin, hst7]

theorem tcpSegmentArrivesPcb_lastAck_acked (hst : pcb.state = .lastAck)
    (hacc : tcpSegmentAcceptable pcb a.seg = true) (hack : tcpFlgIsset a.flags TCP_FLG_ACK = true)
    (hnxt : a.seg.ack = pcb.sndNxt) :
    tcpSegmentArrivesPcb env pcb a = (TcpPcb.zero, []) := by
  rw [tcpSegmentArrivesPcb_sentFin env (.inr (.inr hst))]
  unfold tcpSegmentArrivesOtherwise
  rw [tcpSegmentArrivesAck_lastAck env hst hnxt]
  simp [hacc, hack]

/--
A segment that passes the RFC test and acknowledges our FIN, in the states
that have sent one: FIN-WAIT-1 and LAST-ACK move on as RFC 793 says, and
CLOSING stays where it is.
-/
theorem tcp_fin_acked (hacc : tcpRfc793Acceptable pcb a.seg = true)
    (hwrap : pcb.rcvNxt.toNat + pcb.rcvWnd.toNat < 2 ^ 32) (hack : tcpFlgIsset a.flags TCP_FLG_ACK = true)
    (hnxt : a.seg.ack = pcb.sndNxt) :
    (pcb.state = .finWait1 → (tcpSegmentArrivesPcb env pcb a).1.state =
        if tcpFlgIsset a.flags TCP_FLG_FIN then .timeWait else .finWait2) ∧
      (pcb.state = .lastAck → tcpSegmentArrivesPcb env pcb a = (TcpPcb.zero, [])) ∧
      (pcb.state = .closing → (tcpSegmentArrivesPcb env pcb a).1 = pcb) := by
  refine ⟨fun hst => ?_, fun hst => ?_, fun hst => ?_⟩
  · have hcode := tcpSegmentAcceptable_eq_rfc793 (by rw [hst]; decide) hwrap a.seg
    exact tcpSegmentArrivesPcb_finWait1_acked env hst (hcode.trans hacc) hack hnxt
  · have hcode := tcpSegmentAcceptable_eq_rfc793 (by rw [hst]; decide) hwrap a.seg
    exact tcpSegmentArrivesPcb_lastAck_acked env hst (hcode.trans hacc) hack hnxt
  · rw [tcpSegmentArrivesPcb_closing env hst]

end FinAcked

/-- The handshake and the user's close: FIN-WAIT-1 with our FIN at 101. -/
def tcpRunActiveClose : List (TcpEnv × TcpEvent) :=
  tcpRunHandshake ++ [(tcpEnvFixed, TcpEvent.close)]

/-- The peer's ACK of our FIN moves FIN-WAIT-1 to FIN-WAIT-2. -/
theorem tcp_fin_acked_fin_wait1 :
    tcpRfc793Acceptable (tcpRun tcpRunActiveClose).1 (peerSegment 1001 102 TCP_FLG_ACK []).seg = true ∧
      (tcpRun tcpRunActiveClose).1.state = TcpState.finWait1 ∧
      (tcpSegmentArrivesPcb tcpEnvFixed (tcpRun tcpRunActiveClose).1
        (peerSegment 1001 102 TCP_FLG_ACK [])).1.state = TcpState.finWait2 := by
  have hacc : tcpRfc793Acceptable (tcpRun tcpRunActiveClose).1
      (peerSegment 1001 102 TCP_FLG_ACK []).seg = true := by
    decide
  have hst : (tcpRun tcpRunActiveClose).1.state = TcpState.finWait1 := by decide
  refine ⟨hacc, hst, ?_⟩
  rw [(tcp_fin_acked tcpEnvFixed hacc (by decide) (by decide) (by decide)).1 hst]
  decide

/-- The handshake, the user's close, and the peer's FIN crossing ours: FIN|ACK at 1001, acknowledging 101 and not our FIN. -/
def tcpRunSimultaneousClose : List (TcpEnv × TcpEvent) :=
  tcpRunHandshake ++
    [(tcpEnvFixed, TcpEvent.close),
     (tcpEnvFixed, TcpEvent.arrive (peerSegment 1001 101 (TCP_FLG_FIN ||| TCP_FLG_ACK) []))]

/-- The peer's ACK of our FIN, after its own FIN at 1001. -/
def tcpFinAckAfterCrossing : TcpArrival :=
  peerSegment 1002 102 TCP_FLG_ACK []

/--
A simultaneous close reaches CLOSING with snd.nxt 102.  The peer's ACK of our
FIN passes the RFC test, but the 1st check rejects it: it is answered with a
bare ACK and the pcb stays in CLOSING.
-/
theorem tcp_closing_fin_ack_unacceptable :
    (tcpRun tcpRunSimultaneousClose).1.state = .closing ∧
      tcpFinAckAfterCrossing.seg.ack = (tcpRun tcpRunSimultaneousClose).1.sndNxt ∧
      tcpFlgIsset tcpFinAckAfterCrossing.flags TCP_FLG_ACK = true ∧
      tcpRfc793Acceptable (tcpRun tcpRunSimultaneousClose).1 tcpFinAckAfterCrossing.seg = true ∧
      tcpSegmentAcceptable (tcpRun tcpRunSimultaneousClose).1 tcpFinAckAfterCrossing.seg = false ∧
      (tcpSegmentArrivesPcb tcpEnvFixed (tcpRun tcpRunSimultaneousClose).1 tcpFinAckAfterCrossing).1.state =
        .closing ∧
      (tcpSegmentArrivesPcb tcpEnvFixed (tcpRun tcpRunSimultaneousClose).1
        tcpFinAckAfterCrossing).2.map (·.flg) = [TCP_FLG_ACK] := by
  have hst : (tcpRun tcpRunSimultaneousClose).1.state = .closing := by
    decide
  have hnxt : tcpFinAckAfterCrossing.seg.ack = (tcpRun tcpRunSimultaneousClose).1.sndNxt := by
    decide
  have hrfc : tcpRfc793Acceptable (tcpRun tcpRunSimultaneousClose).1 tcpFinAckAfterCrossing.seg = true := by
    decide
  rw [tcpSegmentArrivesPcb_closing tcpEnvFixed hst]
  exact ⟨hst, hnxt, by decide, hrfc, tcpSegmentAcceptable_closing hst _, hst, by decide⟩

end ProtocolStack
