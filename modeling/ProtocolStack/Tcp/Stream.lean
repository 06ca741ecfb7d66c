import Mathlib
import ProtocolStack.Tcp.Link

/-!
# A byte stream over an opened connection

After the handshake of {lit}`ProtocolStack.Tcp.Link`, the application at A hands
{lit}`tcp_send` a list of chunks, one call each, and the application at B calls
{lit}`tcp_receive` once at the end.  A round of the stream is the call at A, the
delivery of its segment at B and the delivery of B's acknowledgment back at A.

A chunk that fits one segment leaves A in one segment, B appends it to the bytes
its receive buffer holds and acknowledges it with a window that much smaller, and
A takes the acknowledgment with that window as its send window.  The invariant
{lit}`TcpStreaming` holds of the two pcbs between rounds; its index is the room
B's buffer still has to keep for the chunks to come.  The main result is that the
bytes B's application reads are the chunks in the order A sent them.

Loss is left out: the rounds deliver every segment once, in order.
-/

namespace ProtocolStack

/-! ## Sequence numbers that do not wrap -/

section Seq

theorem seq_toNat_add_ofNat {x : UInt32} {n : Nat} (h : x.toNat + n < 2 ^ 32) :
    (x + UInt32.ofNat n).toNat = x.toNat + n := by
  simp only [UInt32.toNat_add, UInt32.toNat_ofNat']
  omega

theorem seq_toNat_add_one {x : UInt32} (h : x.toNat + 1 < 2 ^ 32) : (x + 1).toNat = x.toNat + 1 := by
  simp only [UInt32.toNat_add, UInt32.toNat_one]
  omega

theorem seq_lt_add_ofNat {x : UInt32} {n : Nat} (hn : 0 < n) (h : x.toNat + n < 2 ^ 32) :
    x < x + UInt32.ofNat n := by
  rw [UInt32.lt_iff_toNat_lt, seq_toNat_add_ofNat h]
  omega

theorem wnd_toNat_sub_ofNat {w : UInt16} {n : Nat} (h : n ≤ w.toNat) :
    (w - UInt16.ofNat n).toNat = w.toNat - n := by
  have hw : w.toNat < 2 ^ 16 := w.toNat_lt
  rw [UInt16.toNat_sub_of_le]
  · rw [UInt16.toNat_ofNat', Nat.mod_eq_of_lt (by omega)]
  · rw [UInt16.le_iff_toNat_le, UInt16.toNat_ofNat', Nat.mod_eq_of_lt (by omega)]
    exact h

theorem toUInt32_ofNat_of_lt {n : Nat} (h : n < 2 ^ 16) :
    (UInt16.ofNat n).toUInt32 = UInt32.ofNat n := by
  apply UInt32.toNat_inj.mp
  simp
  omega

theorem wnd_toNat_max : (65535 : UInt16).toNat = 65535 := rfl

end Seq

/-! ## One segment each way -/

/-- A once {lit}`tcp_send` has sent a chunk and queued it for retransmission. -/
def TcpPcb.sentChunk (a : TcpPcb) (env : TcpEnv) (chunk : List UInt8) : TcpPcb :=
  { a with
    queue := a.queue ++
      [⟨env.now, env.now, TCP_DEFAULT_RTO, a.sndNxt, TCP_FLG_ACK ||| TCP_FLG_PSH, chunk⟩],
    sndNxt := a.sndNxt + UInt32.ofNat chunk.length }

/-- The segment that carries a chunk from A. -/
def TcpPcb.chunkSegment (a : TcpPcb) (chunk : List UInt8) : TcpSegmentOut :=
  ⟨a.sndNxt, a.rcvNxt, TCP_FLG_ACK ||| TCP_FLG_PSH, a.rcvWnd, chunk, a.localEp, a.foreign⟩

/-- B once it has appended a chunk to its buffer. -/
def TcpPcb.tookChunk (b : TcpPcb) (chunk : List UInt8) : TcpPcb :=
  { b with
    buf := memcpyAt b.buf (TCP_BUF_SIZE - b.rcvWnd.toNat) chunk,
    rcvNxt := b.rcvNxt + UInt32.ofNat chunk.length,
    rcvWnd := b.rcvWnd - UInt16.ofNat chunk.length }

/-- The acknowledgment B sends of all it has taken, with its window. -/
def TcpPcb.ackSegment (b : TcpPcb) : TcpSegmentOut :=
  ⟨b.sndNxt, b.rcvNxt, TCP_FLG_ACK, b.rcvWnd, [], b.localEp, b.foreign⟩

/-- A once the acknowledgment of B covers all A sent: nothing is queued and B's window is taken. -/
def TcpPcb.ackedBy (a b : TcpPcb) : TcpPcb :=
  { a with
    sndUna := b.rcvNxt, queue := [], sndWnd := b.rcvWnd, sndWl1 := b.sndNxt, sndWl2 := b.rcvNxt }

theorem tcpSendCap_of_acked {pcb : TcpPcb} (huna : pcb.sndUna = pcb.sndNxt) :
    tcpSendCap pcb = pcb.sndWnd.toNat := by
  simp [tcpSendCap, huna]

/-- With everything sent acknowledged, a pass of {lit}`tcp_send` sends a chunk that fits one
segment and the peer's window whole, in one segment, and queues it for retransmission. -/
theorem tcpSendPass_chunk (env : TcpEnv) {pcb : TcpPcb} (hst : pcb.state = .established)
    (huna : pcb.sndUna = pcb.sndNxt) {mtu : UInt16} {chunk : List UInt8} (hlen : 0 < chunk.length)
    (hmss : chunk.length ≤ tcpSendMss mtu) (hwnd : chunk.length ≤ pcb.sndWnd.toNat)
    (hok : env.ipOutput (pcb.chunkSegment chunk) = true) :
    tcpSendPass env pcb (some mtu) chunk =
      (pcb.sentChunk env chunk, [pcb.chunkSegment chunk], .sent chunk.length) := by
  have hcap := tcpSendCap_of_acked huna
  have hcap0 : tcpSendCap pcb ≠ 0 := by omega
  have hslen : min (min (tcpSendMss mtu) chunk.length) (tcpSendCap pcb) = chunk.length := by
    omega
  have hsyn : tcpFlgIsset (TCP_FLG_ACK ||| TCP_FLG_PSH) TCP_FLG_SYN = false := by decide
  have hq : tcpOutputQueues (TCP_FLG_ACK ||| TCP_FLG_PSH) chunk = true := by
    simp only [tcpOutputQueues, Bool.or_eq_true, bne_iff_ne, ne_eq]
    exact .inr (by omega)
  unfold TcpPcb.chunkSegment at hok
  unfold tcpSendPass
  simp only [hst, hcap0, if_false, hslen, List.take_length, tcpOutput, tcpOutputSeq, hsyn, hq,
    if_true, Bool.false_eq_true, tcpRetransmitQueueAdd, hok, Bool.not_true, TcpPcb.sentChunk,
    TcpPcb.chunkSegment]

theorem tcpSegmentArrivesAckState_of_ne {pcb : TcpPcb} (hst : pcb.state ≠ .finWait1)
    (seg : TcpSegmentInfo) : tcpSegmentArrivesAckState pcb seg = pcb := by
  unfold tcpSegmentArrivesAckState
  split
  · contradiction
  · rfl

/-- An ACK of all that was sent changes nothing outside FIN-WAIT-1 (the window update aside). -/
theorem tcpSegmentArrivesAckEstablished_acked (env : TcpEnv) {pcb : TcpPcb}
    (hst : pcb.state ≠ .finWait1) (huna : pcb.sndUna = pcb.sndNxt) {seg : TcpSegmentInfo}
    (hack : seg.ack = pcb.sndNxt) :
    tcpSegmentArrivesAckEstablished env pcb seg = (pcb, [], true) := by
  have hnlt : ¬pcb.sndNxt < pcb.sndNxt := UInt32.lt_irrefl _
  simp [tcpSegmentArrivesAckEstablished, huna, hack, hnlt, tcpSegmentArrivesAckState_of_ne hst]

/-- The segment of {lit}`tcpSendPass_chunk` arriving at the peer, at its rcv.nxt and within its
window: the peer appends the payload to its buffer and acknowledges it with the window left. -/
theorem tcpSegmentArrivesPcb_text (env : TcpEnv) {pcb : TcpPcb} (hst : pcb.state = .established)
    (huna : pcb.sndUna = pcb.sndNxt) {chunk : List UInt8} (hlen : 0 < chunk.length)
    (hwnd : chunk.length ≤ pcb.rcvWnd.toNat) (hwin : pcb.rcvNxt.toNat + pcb.rcvWnd.toNat < 2 ^ 32)
    {seq ack : UInt32} (hseq : seq = pcb.rcvNxt) (hack : ack = pcb.sndNxt) (wnd : UInt16)
    (localEp foreign : IpEndpoint) :
    tcpSegmentArrivesPcb env pcb
        (TcpSegmentOut.arrival ⟨seq, ack, TCP_FLG_ACK ||| TCP_FLG_PSH, wnd, chunk, foreign, localEp⟩) =
      (pcb.tookChunk chunk, [(pcb.tookChunk chunk).ackSegment]) := by
  generalize ha : TcpSegmentOut.arrival ⟨seq, ack, TCP_FLG_ACK ||| TCP_FLG_PSH, wnd, chunk, foreign,
    localEp⟩ = a
  have hsynF : tcpFlgIsset (TCP_FLG_ACK ||| TCP_FLG_PSH) TCP_FLG_SYN = false := by decide
  have hfinF : tcpFlgIsset (TCP_FLG_ACK ||| TCP_FLG_PSH) TCP_FLG_FIN = false := by decide
  have hackF : tcpFlgIsset (TCP_FLG_ACK ||| TCP_FLG_PSH) TCP_FLG_ACK = true := by decide
  have hflags : a.flags = TCP_FLG_ACK ||| TCP_FLG_PSH := by rw [← ha]; rfl
  have hdata : a.data = chunk := by rw [← ha]; rfl
  have hseg : a.seg.seq = pcb.rcvNxt ∧ a.seg.ack = pcb.sndNxt := by rw [← ha, hseq, hack]; exact ⟨rfl, rfl⟩
  have hsegLen : a.seg.len.toUInt32 = UInt32.ofNat chunk.length := by
    rw [← ha]
    simp only [TcpSegmentOut.arrival, hsynF, hfinF, Bool.false_eq_true, if_false, add_zero]
    exact toUInt32_ofNat_of_lt (by have := pcb.rcvWnd.toNat_lt; omega)
  have hwnd0 : pcb.rcvWnd ≠ 0 := by
    have hpos : pcb.rcvWnd.toNat ≠ 0 := by omega
    exact fun h => hpos (by rw [h]; rfl)
  have hacc := tcpSegmentAcceptable_rcvNxt (by simp [hst]) hseg.1 hwnd0 hwin
  have hsync : pcb.state ≠ .closed ∧ pcb.state ≠ .listen ∧ pcb.state ≠ .synSent := by
    rw [hst]
    decide
  have htext : pcb.state.processesText = true ∧ a.data ≠ [] := by
    rw [hst, hdata]
    exact ⟨rfl, List.ne_nil_of_length_pos hlen⟩
  rw [tcpSegmentArrivesPcb_otherwise env pcb a hsync.1 hsync.2.1 hsync.2.2]
  unfold tcpSegmentArrivesOtherwise tcpSegmentArrivesAck
  simp only [hacc, hflags, hackF, Bool.not_true, Bool.false_eq_true, if_false, hst,
    tcpSegmentArrivesAckEstablished_acked env (by rw [hst]; decide) huna hseg.2]
  rw [tcpSegmentArrivesText_eq, if_pos htext, tcpSegmentArrivesFin_of_not_fin env _ a (hflags ▸ hfinF),
    tcpOutput_ack_fst, tcpOutput_segment]
  have hackSyn : tcpFlgIsset TCP_FLG_ACK TCP_FLG_SYN = false := by decide
  simp [TcpPcb.withText, TcpPcb.tookChunk, TcpPcb.ackSegment, hdata, hseg.1, hsegLen, tcpOutputSeq,
    hackSyn, hst]

/-- An acknowledgment at rcv.nxt of new data, in ESTABLISHED or FIN-WAIT-1: snd.una moves to it,
the queue drops what it covers, and its window becomes the send window; the state moves as the
end of the 5th check says. -/
theorem tcpSegmentArrivesPcb_ack (env : TcpEnv) {pcb : TcpPcb}
    (hst : pcb.state = .established ∨ pcb.state = .finWait1)
    (hwnd : pcb.rcvWnd ≠ 0) (hwin : pcb.rcvNxt.toNat + pcb.rcvWnd.toNat < 2 ^ 32)
    {seq ack : UInt32} (hseq : seq = pcb.rcvNxt) (hlt : pcb.sndUna < ack) (hle : ack ≤ pcb.sndNxt)
    (hwl : pcb.sndWl1 < seq ∨ (pcb.sndWl1 = seq ∧ pcb.sndWl2 ≤ ack)) (wnd : UInt16)
    (localEp foreign : IpEndpoint) :
    tcpSegmentArrivesPcb env pcb
        (TcpSegmentOut.arrival ⟨seq, ack, TCP_FLG_ACK, wnd, [], foreign, localEp⟩) =
      (tcpSegmentArrivesAckState
        { pcb with
          sndUna := ack, queue := tcpRetransmitQueueCleanupLoop ack pcb.queue,
          sndWnd := wnd, sndWl1 := seq, sndWl2 := ack }
        (TcpSegmentOut.arrival ⟨seq, ack, TCP_FLG_ACK, wnd, [], foreign, localEp⟩).seg, []) := by
  generalize ha : TcpSegmentOut.arrival ⟨seq, ack, TCP_FLG_ACK, wnd, [], foreign, localEp⟩ = a
  have hflags : a.flags = TCP_FLG_ACK := by rw [← ha]; rfl
  have hdata : a.data = [] := by rw [← ha]; rfl
  have hseg : a.seg.seq = seq ∧ a.seg.ack = ack ∧ a.seg.wnd = wnd := by
    rw [← ha]
    exact ⟨rfl, rfl, rfl⟩
  have hacc := tcpSegmentAcceptable_rcvNxt (by rcases hst with h | h <;> simp [h]) (hseg.1.trans hseq)
    hwnd hwin
  have hsync : pcb.state ≠ .closed ∧ pcb.state ≠ .listen ∧ pcb.state ≠ .synSent := by
    rcases hst with h | h <;> rw [h] <;> decide
  -- both states take the ACK in the common branch of the 5th check
  have hack : tcpSegmentArrivesAck env pcb a = tcpSegmentArrivesAckEstablished env pcb a.seg := by
    unfold tcpSegmentArrivesAck
    rcases hst with h | h <;> rw [h]
  have hackF : tcpFlgIsset TCP_FLG_ACK TCP_FLG_ACK = true := by decide
  have hfinF : tcpFlgIsset TCP_FLG_ACK TCP_FLG_FIN = false := by decide
  rw [tcpSegmentArrivesPcb_otherwise env pcb a hsync.1 hsync.2.1 hsync.2.2]
  unfold tcpSegmentArrivesOtherwise
  rw [hack]
  unfold tcpSegmentArrivesAckEstablished
  simp only [hacc, hflags, hackF, Bool.not_true, Bool.false_eq_true, if_false, hseg, hlt, hle,
    decide_true, Bool.and_self, if_true, tcpRetransmitQueueCleanup]
  rw [tcpSegmentArrivesText_eq, if_neg (fun h => h.2 hdata),
    tcpSegmentArrivesFin_of_not_fin env _ a (hflags ▸ hfinF)]
  simp [tcpSegmentArrivesWindowUpdate, hseg, hwl]

/-- The acknowledgment of {lit}`tcpSegmentArrivesPcb_text` arriving back in ESTABLISHED. -/
theorem tcpSegmentArrivesPcb_ackOfText (env : TcpEnv) {pcb : TcpPcb} (hst : pcb.state = .established)
    (hwnd : pcb.rcvWnd ≠ 0) (hwin : pcb.rcvNxt.toNat + pcb.rcvWnd.toNat < 2 ^ 32)
    {seq ack : UInt32} (hseq : seq = pcb.rcvNxt) (hlt : pcb.sndUna < ack) (hle : ack ≤ pcb.sndNxt)
    (hwl : pcb.sndWl1 < seq ∨ (pcb.sndWl1 = seq ∧ pcb.sndWl2 ≤ ack)) (wnd : UInt16)
    (localEp foreign : IpEndpoint) :
    tcpSegmentArrivesPcb env pcb
        (TcpSegmentOut.arrival ⟨seq, ack, TCP_FLG_ACK, wnd, [], foreign, localEp⟩) =
      ({ pcb with
          sndUna := ack, queue := tcpRetransmitQueueCleanupLoop ack pcb.queue,
          sndWnd := wnd, sndWl1 := seq, sndWl2 := ack }, []) := by
  rw [tcpSegmentArrivesPcb_ack env (.inl hst) hwnd hwin hseq hlt hle hwl,
    tcpSegmentArrivesAckState_of_ne (by show pcb.state ≠ _; rw [hst]; decide)]

/-! ## The two applications -/

theorem tcpPcbGet_head {pcb : TcpPcb} (hfree : pcb.state ≠ .free) (rest : List TcpPcb) :
    tcpPcbGet (pcb :: rest) 0 = some pcb := by
  simp [tcpPcbGet, hfree, TCP_PCB_SIZE]

theorem tcpLinkStep_atA_send_head (env : TcpEnv) {l : TcpLink} {pcb : TcpPcb} {rest : List TcpPcb}
    (hA : l.hostA = pcb :: rest) (hfree : pcb.state ≠ .free) (mtu : Option UInt16)
    (chunk : List UInt8) {r : TcpPcb × List TcpSegmentOut × TcpSendPass}
    (hsend : tcpSendPass env pcb mtu chunk = r) (hok : ∀ x ∈ r.2.1, env.ipOutput x = true) :
    (tcpLinkStep (.atA env (.send 0 mtu chunk)) l).1 =
      { l with hostA := r.1 :: rest, toB := l.toB ++ r.2.1 } := by
  rw [tcpLinkStep_atA, hA]
  simp only [tcpStackStep, tcpStepGet, tcpPcbGet_head hfree, tcpStepAt, Int.toNat_zero,
    List.getElem?_cons_zero, tcpStep_send, hsend, List.set_cons_zero, TcpObs.sent_out,
    List.filter_eq_self.mpr hok]

theorem tcpLinkStep_atB_receive_head (env : TcpEnv) {l : TcpLink} {pcb : TcpPcb} {rest : List TcpPcb}
    (hB : l.hostB = pcb :: rest) (hfree : pcb.state ≠ .free) (size : Nat) :
    tcpLinkStep (.atB env (.receive 0 size)) l =
      ({ l with hostB := (tcpReceive pcb size).1 :: rest },
        { out := [], received := (tcpReceive pcb size).2.bytes }) := by
  simp only [tcpLinkStep, tcpHostStep, hB, tcpStackStep, tcpStepGet, tcpPcbGet_head hfree, tcpStepAt,
    Int.toNat_zero, List.getElem?_cons_zero, tcpStep_receive, List.set_cons_zero, List.filter_nil,
    List.append_nil]

theorem tcpReceiveCopy_bytes (pcb : TcpPcb) (size : Nat) :
    (tcpReceiveCopy pcb size (TCP_BUF_SIZE - pcb.rcvWnd.toNat)).2.bytes = pcb.held.take size := by
  have hlen : pcb.held.length = TCP_BUF_SIZE - pcb.rcvWnd.toNat := length_bufPrefix _ _
  simp only [tcpReceiveCopy, TcpReceiveResult.bytes]
  rw [bufPrefix_take _ (min_le_right _ _), ← TcpPcb.held, ← hlen, ← List.take_eq_take_min]

/-- {lit}`tcp_receive` in ESTABLISHED or CLOSE-WAIT hands out the front of the bytes held.  With
none held it sleeps in ESTABLISHED and returns 0 in CLOSE-WAIT; the caller gets no bytes. -/
theorem tcpReceive_bytes_established {pcb : TcpPcb}
    (hst : pcb.state = .established ∨ pcb.state = .closeWait) (size : Nat) :
    (tcpReceive pcb size).2.bytes = pcb.held.take size := by
  have hlen : pcb.held.length = TCP_BUF_SIZE - pcb.rcvWnd.toNat := length_bufPrefix _ _
  have hnone : TCP_BUF_SIZE - pcb.rcvWnd.toNat = 0 → pcb.held.take size = [] := fun h0 => by
    rw [List.eq_nil_of_length_eq_zero (hlen.trans h0), List.take_nil]
  unfold tcpReceive
  rcases hst with hst | hst <;> simp only [hst]
  · split
    · rw [hnone ‹_›]
      rfl
    · exact tcpReceiveCopy_bytes pcb size
  · split
    · exact tcpReceiveCopy_bytes pcb size
    · rw [hnone (not_not.mp ‹_›)]
      rfl

/-! ## Rounds -/

/-- A sends one chunk on its first pcb, B takes the segment and A takes B's acknowledgment. -/
def tcpStreamRound (env : TcpEnv) (mtu : UInt16) (chunk : List UInt8) : List TcpLinkEvent :=
  [.atA env (.send 0 (some mtu) chunk), .deliverB env, .deliverA env]

/-- A round for each chunk, in order. -/
def tcpStream (env : TcpEnv) (mtu : UInt16) (chunks : List (List UInt8)) : List TcpLinkEvent :=
  chunks.flatMap (tcpStreamRound env mtu)

/-- Between rounds: the pcbs are synchronized, A takes B's next window update, B's buffer has
room for {lit}`n` more bytes, and no sequence number or window end of either side wraps. -/
structure TcpStreaming (a b : TcpPcb) (n : Nat) : Prop where
  sync : TcpSynchronized a b
  wl : a.sndWl1 < b.sndNxt ∨ (a.sndWl1 = b.sndNxt ∧ a.sndWl2 ≤ a.sndNxt)
  room : n ≤ b.rcvWnd.toNat
  seq : a.sndNxt.toNat + n < 2 ^ 32
  rcvB : b.rcvNxt.toNat + b.rcvWnd.toNat < 2 ^ 32
  rcvWndA : a.rcvWnd ≠ 0
  rcvA : a.rcvNxt.toNat + a.rcvWnd.toNat < 2 ^ 32

/-- B has taken {lit}`data` in order: its buffer holds it after what it held, and rcv.nxt has
moved past it. -/
structure TcpPcb.Appended (b b' : TcpPcb) (data : List UInt8) : Prop where
  held : b'.held = b.held ++ data
  rcvNxt : b'.rcvNxt = b.rcvNxt + UInt32.ofNat data.length

theorem TcpPcb.Appended.refl (b : TcpPcb) : b.Appended b [] :=
  ⟨by simp, by simp⟩

theorem TcpPcb.Appended.trans {b b1 b2 : TcpPcb} {d1 d2 : List UInt8} (h1 : b.Appended b1 d1)
    (h2 : b1.Appended b2 d2) : b.Appended b2 (d1 ++ d2) where
  held := by rw [h2.held, h1.held, List.append_assoc]
  rcvNxt := by rw [h2.rcvNxt, h1.rcvNxt, List.length_append, UInt32.ofNat_add, UInt32.add_assoc]

theorem TcpPcb.appended_tookChunk (b : TcpPcb) {chunk : List UInt8}
    (h : chunk.length ≤ b.rcvWnd.toNat) : b.Appended (b.tookChunk chunk) chunk :=
  ⟨held_copy b _ chunk h, rfl⟩

section Round

variable (env : TcpEnv) (mtu : UInt16) {a b : TcpPcb} (restA restB : List TcpPcb)
  {chunk : List UInt8} {n : Nat}

/-- A sends the chunk in one segment. -/
theorem TcpStreaming.send_step (h : TcpStreaming a b (chunk.length + n)) (hlen : 0 < chunk.length)
    (hmss : chunk.length ≤ tcpSendMss mtu) (hok : ∀ s, env.ipOutput s = true) (toA : List TcpSegmentOut) :
    (tcpLinkStep (.atA env (.send 0 (some mtu) chunk)) ⟨a :: restA, b :: restB, toA, []⟩).1 =
      ⟨a.sentChunk env chunk :: restA, b :: restB, toA, [a.chunkSegment chunk]⟩ :=
  tcpLinkStep_atA_send_head env rfl (by rw [h.sync.established.1]; decide) _ chunk
    (tcpSendPass_chunk env h.sync.established.1 h.sync.acked.1 hlen hmss
      (by rw [h.sync.window.1]; have := h.room; omega) (hok _))
    fun x _ => hok x

/-- B takes the chunk's segment and acknowledges it, whatever A's host holds. -/
theorem TcpStreaming.deliver_chunk (h : TcpStreaming a b (chunk.length + n)) (hlen : 0 < chunk.length)
    (hok : ∀ s, env.ipOutput s = true) (hostA : List TcpPcb) :
    (tcpLinkStep (.deliverB env) ⟨hostA, b :: restB, [], [a.chunkSegment chunk]⟩).1 =
      ⟨hostA, b.tookChunk chunk :: restB, [(b.tookChunk chunk).ackSegment], []⟩ :=
  tcpLinkStep_deliverB_head env rfl rfl
    (tcpPcbSelect_cons_exact h.sync.endpoints.2.symm h.sync.endpoints.1.symm restB)
    (tcpSegmentArrivesPcb_text env h.sync.established.2 h.sync.acked.2 hlen
      (by have := h.room; omega) h.rcvB h.sync.next.1 h.sync.next.2.symm a.rcvWnd a.foreign a.localEp)
    fun x _ => hok x

/-- A takes B's acknowledgment: whatever A queued for the chunk is dropped, and B's window taken.
A is {lit}`sentChunk` up to its queue, so that a resent entry is covered too. -/
theorem TcpStreaming.deliver_ack (h : TcpStreaming a b (chunk.length + n)) (hlen : 0 < chunk.length)
    (env' : TcpEnv) {p : TcpPcb} (hp : p = { a.sentChunk env chunk with queue := p.queue })
    (hq : ∀ e ∈ p.queue, e.seq = a.sndNxt) (hostB : List TcpPcb) :
    (tcpLinkStep (.deliverA env') ⟨p :: restA, hostB, [(b.tookChunk chunk).ackSegment], []⟩).1 =
      ⟨(a.sentChunk env chunk).ackedBy (b.tookChunk chunk) :: restA, hostB, [], []⟩ := by
  obtain ⟨hsync, hwl, -, hseq, -, hwndA0, hrcvA⟩ := h
  have hnxt : b.rcvNxt < b.rcvNxt + UInt32.ofNat chunk.length :=
    seq_lt_add_ofNat hlen (by rw [← hsync.next.1]; omega)
  -- p is A after the send: established, on A's endpoints, with snd.nxt past the chunk
  have hst : p.state = .established := by rw [hp]; exact hsync.established.1
  have hrcv : p.rcvNxt = a.rcvNxt ∧ p.rcvWnd = a.rcvWnd := by rw [hp]; exact ⟨rfl, rfl⟩
  have hsnd : p.sndUna = b.rcvNxt ∧ p.sndNxt = b.rcvNxt + UInt32.ofNat chunk.length := by
    rw [hp]
    refine ⟨hsync.acked.1.trans hsync.next.1, ?_⟩
    show a.sndNxt + _ = _
    rw [hsync.next.1]
  have hwlp : p.sndWl1 < b.sndNxt ∨
      (p.sndWl1 = b.sndNxt ∧ p.sndWl2 ≤ b.rcvNxt + UInt32.ofNat chunk.length) := by
    rw [hp]
    rcases hwl with hlt | ⟨heq, hle⟩
    · exact .inl hlt
    · refine .inr ⟨heq, UInt32.le_trans hle ?_⟩
      rw [hsync.next.1]
      exact UInt32.le_of_lt hnxt
  have hclean : tcpRetransmitQueueCleanupLoop (b.rcvNxt + UInt32.ofNat chunk.length) p.queue = [] :=
    tcpRetransmitQueueCleanupLoop_eq_nil fun e he => by
      rw [hq e he, hsync.next.1]
      exact hnxt
  refine (tcpLinkStep_deliverA_head env' rfl rfl
    (tcpPcbSelect_cons_exact (by rw [hp]; exact hsync.endpoints.1) (by rw [hp]; exact hsync.endpoints.2)
      restA)
    (tcpSegmentArrivesPcb_ackOfText env' hst (hrcv.2 ▸ hwndA0) (by rw [hrcv.1, hrcv.2]; exact hrcvA)
      (hsync.next.2.trans hrcv.1.symm) (by rw [hsnd.1]; exact hnxt) (by rw [hsnd.2]; exact UInt32.le_refl _)
      hwlp (b.rcvWnd - UInt16.ofNat chunk.length) b.foreign b.localEp)
    fun x hx => absurd hx List.not_mem_nil).trans ?_
  rw [hclean, hp]
  rfl

/-- A round from a streaming state, pcb by pcb; the link is empty again after it. -/
theorem tcpStreamRound_run (h : TcpStreaming a b (chunk.length + n)) (hlen : 0 < chunk.length)
    (hmss : chunk.length ≤ tcpSendMss mtu) (hok : ∀ s, env.ipOutput s = true) :
    (Run.run tcpLinkStep ⟨a :: restA, b :: restB, [], []⟩ (tcpStreamRound env mtu chunk)).1 =
      ⟨(a.sentChunk env chunk).ackedBy (b.tookChunk chunk) :: restA, b.tookChunk chunk :: restB, [], []⟩ := by
  have hq : ∀ e ∈ (a.sentChunk env chunk).queue, e.seq = a.sndNxt := by
    intro e he
    rw [TcpPcb.sentChunk, h.sync.drained.1, List.nil_append, List.mem_singleton] at he
    rw [he]
  rw [tcpStreamRound, Run.run_cons, h.send_step env mtu restA restB hlen hmss hok [], Run.run_cons,
    h.deliver_chunk env restB hlen hok, Run.run_cons, h.deliver_ack env restA hlen env (p := a.sentChunk env chunk) rfl hq,
    Run.run_nil]

/-- The pcbs a round ends with stream on with room for one chunk less, and B holds the chunk
after what it held. -/
theorem TcpStreaming.round (h : TcpStreaming a b (chunk.length + n)) :
    TcpStreaming ((a.sentChunk env chunk).ackedBy (b.tookChunk chunk)) (b.tookChunk chunk) n ∧
      b.Appended (b.tookChunk chunk) chunk := by
  refine ⟨?_, b.appended_tookChunk (by have := h.room; omega)⟩
  obtain ⟨hsync, -, hroom, hseq, hrcvB, hwndA0, hrcvA⟩ := h
  have hnxt := hsync.next.1
  have hseqB : b.rcvNxt.toNat + chunk.length < 2 ^ 32 := by rw [← hnxt]; omega
  have hwnd := wnd_toNat_sub_ofNat (show chunk.length ≤ b.rcvWnd.toNat by omega)
  refine ⟨⟨hsync.established, hsync.endpoints, hsync.iss, ⟨?_, hsync.acked.2⟩, ⟨?_, hsync.next.2⟩,
    ⟨rfl, hsync.window.2⟩, ⟨rfl, hsync.drained.2⟩⟩, .inr ⟨rfl, ?_⟩, ?_, ?_, ?_, hwndA0, hrcvA⟩
  · show b.rcvNxt + _ = a.sndNxt + _
    rw [hnxt]
  · show a.sndNxt + _ = b.rcvNxt + _
    rw [hnxt]
  · show b.rcvNxt + _ ≤ a.sndNxt + _
    rw [hnxt]
    exact UInt32.le_refl _
  · show n ≤ (b.rcvWnd - _).toNat
    rw [hwnd]
    omega
  · show (a.sndNxt + _).toNat + n < _
    rw [seq_toNat_add_ofNat (by omega)]
    omega
  · show (b.rcvNxt + _).toNat + (b.rcvWnd - _).toNat < _
    rw [seq_toNat_add_ofNat hseqB, hwnd]
    omega

/-- A round keeps the invariant with room for one chunk less, and B holds the chunk after what
it held. -/
theorem TcpStreaming.round_run (h : TcpStreaming a b (chunk.length + n)) (hlen : 0 < chunk.length)
    (hmss : chunk.length ≤ tcpSendMss mtu) (hok : ∀ s, env.ipOutput s = true) :
    ∃ a' b', (Run.run tcpLinkStep ⟨a :: restA, b :: restB, [], []⟩ (tcpStreamRound env mtu chunk)).1 =
        ⟨a' :: restA, b' :: restB, [], []⟩ ∧ TcpStreaming a' b' n ∧ b.Appended b' chunk :=
  ⟨_, _, tcpStreamRound_run env mtu restA restB h hlen hmss hok, h.round env⟩

end Round

/-- The run lemma for rounds of any kind: when a round of each kind takes a streaming state to
one with room for its chunk less, B holding the chunk after what it held, the rounds of a list do
so one after the other. -/
theorem TcpStreaming.rounds_run {α : Type} (round : α → List TcpLinkEvent) (chunkOf : α → List UInt8)
    (P : α → Prop) (restA restB : List TcpPcb)
    (hround : ∀ x, P x → ∀ {a b : TcpPcb} {n : Nat}, TcpStreaming a b ((chunkOf x).length + n) →
      ∃ a' b', (Run.run tcpLinkStep ⟨a :: restA, b :: restB, [], []⟩ (round x)).1 =
          ⟨a' :: restA, b' :: restB, [], []⟩ ∧ TcpStreaming a' b' n ∧ b.Appended b' (chunkOf x))
    (xs : List α) {a b : TcpPcb} {n : Nat}
    (h : TcpStreaming a b ((xs.map fun x => (chunkOf x).length).sum + n)) (hxs : ∀ x ∈ xs, P x) :
    ∃ a' b', (Run.run tcpLinkStep ⟨a :: restA, b :: restB, [], []⟩ (xs.flatMap round)).1 =
        ⟨a' :: restA, b' :: restB, [], []⟩ ∧ TcpStreaming a' b' n ∧
      b.Appended b' (xs.map chunkOf).flatten := by
  induction xs generalizing a b with
  | nil => exact ⟨a, b, rfl, by simpa using h, .refl b⟩
  | cons x xs ih =>
    rw [List.map_cons, List.sum_cons, Nat.add_assoc] at h
    obtain ⟨a1, b1, h1, hs1, happ1⟩ := hround x (hxs x List.mem_cons_self) h
    obtain ⟨a2, b2, h2, hs2, happ2⟩ := ih hs1 fun x' hx' => hxs x' (List.mem_cons_of_mem x hx')
    refine ⟨a2, b2, ?_, hs2, ?_⟩
    · rw [List.flatMap_cons, Run.run_append, h1, h2]
    · rw [List.map_cons, List.flatten_cons]
      exact happ1.trans happ2

/-- The rounds of a stream keep the invariant and append the chunks to B's buffer. -/
theorem TcpStreaming.stream_run (env : TcpEnv) (mtu : UInt16) (hok : ∀ s, env.ipOutput s = true)
    (restA restB : List TcpPcb) (chunks : List (List UInt8)) {a b : TcpPcb} {n : Nat}
    (h : TcpStreaming a b ((chunks.map List.length).sum + n))
    (hchunks : ∀ c ∈ chunks, 0 < c.length ∧ c.length ≤ tcpSendMss mtu) :
    ∃ a' b', (Run.run tcpLinkStep ⟨a :: restA, b :: restB, [], []⟩ (tcpStream env mtu chunks)).1 =
        ⟨a' :: restA, b' :: restB, [], []⟩ ∧ TcpStreaming a' b' n ∧ b.Appended b' chunks.flatten := by
  have hrun := TcpStreaming.rounds_run (tcpStreamRound env mtu) id
    (fun c => 0 < c.length ∧ c.length ≤ tcpSendMss mtu) restA restB
    (fun _ hc _ _ _ h => h.round_run env mtu restA restB hc.1 hc.2 hok) chunks
    (by simpa using h) hchunks
  rwa [List.map_id] at hrun

/-! ## From the handshake -/

/-- The pcbs the handshake opens stream up to a full buffer, when neither side's iss is near the
end of the sequence space. -/
theorem TcpStreaming.of_opened {a b : TcpPcb} {localA localB : IpEndpoint} {issA issB : UInt32}
    (ha : TcpOpenedWith a localA localB issA issB 65535)
    (hb : TcpOpenedWith b localB localA issB issA 65535)
    (hissA : issA.toNat + 65536 < 2 ^ 32) (hissB : issB.toNat + 65536 < 2 ^ 32) {n : Nat}
    (hn : n ≤ 65535) : TcpStreaming a b n where
  sync := .of_opened ha hb
  wl := by
    rw [hb.nxt, ha.nxt]
    exact ha.wl
  room := by
    rw [hb.rcvWnd_eq, wnd_toNat_max]
    exact hn
  seq := by
    rw [ha.nxt, seq_toNat_add_one (by omega)]
    omega
  rcvB := by
    rw [hb.rcvNxt_eq, hb.rcvWnd_eq, seq_toNat_add_one (by omega), wnd_toNat_max, Nat.add_assoc]
    exact hissA
  rcvWndA := by
    rw [ha.rcvWnd_eq]
    decide
  rcvA := by
    rw [ha.rcvNxt_eq, ha.rcvWnd_eq, seq_toNat_add_one (by omega), wnd_toNat_max, Nat.add_assoc]
    exact hissB

/-- The handshake leaves a streaming pair in the first slot of both tables, B holding nothing. -/
theorem tcpLinkRun_handshake_streaming (envA1 envA2 envB1 envB2 envB3 : TcpEnv)
    (localA localB : IpEndpoint) (hport : localB.port ≠ 0)
    (hissA : envA1.random.toNat + 65536 < 2 ^ 32) (hissB : envB2.random.toNat + 65536 < 2 ^ 32)
    (hokA1 : ∀ s, envA1.ipOutput s = true) (hokB2 : ∀ s, envB2.ipOutput s = true)
    (hokA2 : ∀ s, envA2.ipOutput s = true) {n : Nat} (hn : n ≤ 65535) :
    ∃ a b, (tcpLinkRun (tcpHandshake envA1 envA2 envB1 envB2 envB3 localA localB)).1 =
        ⟨a :: List.replicate 15 TcpPcb.zero, b :: List.replicate 15 TcpPcb.zero, [], []⟩ ∧
      TcpStreaming a b n ∧ b.held = [] := by
  obtain ⟨a, b, hrun, ha, hb⟩ :=
    tcpLinkRun_handshake envA1 envA2 envB1 envB2 envB3 localA localB hport hissA (by omega) hokA1
      hokB2 hokA2
  exact ⟨a, b, hrun, .of_opened ha hb hissA hissB hn, TcpPcb.held_of_rcvWnd hb.rcvWnd_eq⟩

/-- B's application reads the front of the bytes B holds, whatever is in flight. -/
theorem TcpStreaming.receive_obs (env : TcpEnv) {a b : TcpPcb} {n : Nat} (h : TcpStreaming a b n)
    (hostA restB : List TcpPcb) (toA toB : List TcpSegmentOut) (size : Nat) :
    (tcpLinkStep (.atB env (.receive 0 size)) ⟨hostA, b :: restB, toA, toB⟩).2 =
      { out := [], received := b.held.take size } := by
  have hstep := tcpLinkStep_atB_receive_head env (l := ⟨hostA, b :: restB, toA, toB⟩) rfl
    (by rw [h.sync.established.2]; decide) size
  rw [hstep, tcpReceive_bytes_established (.inl h.sync.established.2)]

/-- After the handshake, B's application reads the bytes of the chunks A's application sent, in
the order they were sent. -/
theorem tcp_stream_in_order (envA1 envA2 envB1 envB2 envB3 env : TcpEnv) (localA localB : IpEndpoint)
    (mtu : UInt16) (chunks : List (List UInt8)) (size : Nat) (hport : localB.port ≠ 0)
    (hissA : envA1.random.toNat + 65536 < 2 ^ 32) (hissB : envB2.random.toNat + 65536 < 2 ^ 32)
    (hokA1 : ∀ s, envA1.ipOutput s = true) (hokB2 : ∀ s, envB2.ipOutput s = true)
    (hokA2 : ∀ s, envA2.ipOutput s = true) (hok : ∀ s, env.ipOutput s = true)
    (htotal : (chunks.map List.length).sum ≤ 65535)
    (hchunks : ∀ c ∈ chunks, 0 < c.length ∧ c.length ≤ tcpSendMss mtu) :
    (tcpLinkRun (tcpHandshake envA1 envA2 envB1 envB2 envB3 localA localB ++ tcpStream env mtu chunks ++
        [.atB env (.receive 0 size)])).2.getLast? =
      some { out := [], received := chunks.flatten.take size } := by
  obtain ⟨a, b, hrun, hs, hb⟩ :=
    tcpLinkRun_handshake_streaming envA1 envA2 envB1 envB2 envB3 localA localB hport hissA hissB
      hokA1 hokB2 hokA2 (n := (chunks.map List.length).sum + 0) htotal
  obtain ⟨a', b', hstream, hs', happ⟩ := TcpStreaming.stream_run env mtu hok _ _ chunks hs hchunks
  rw [tcpLinkRun, Run.getLast?_run_append_singleton, Run.run_append, ← tcpLinkRun, hrun, hstream,
    hs'.receive_obs, happ.held, hb, List.nil_append]

theorem tcp_stream_in_order_echo :
    (tcpLinkRun (tcpHandshakeEcho ++ tcpStream tcpEnvFixed 1500 [[1, 2, 3], [4, 5]] ++
        [.atB tcpEnvFixed (.receive 0 4)])).2.getLast? =
      some { out := [], received := [1, 2, 3, 4] } :=
  tcp_stream_in_order tcpEnvFixed tcpEnvFixed tcpEnvFixed { tcpEnvFixed with random := 5000 }
    tcpEnvFixed tcpEnvFixed _ _ 1500 [[1, 2, 3], [4, 5]] 4 (by decide) (by decide) (by decide)
    (fun _ => rfl) (fun _ => rfl) (fun _ => rfl) (fun _ => rfl) (by decide) (by decide)

end ProtocolStack
