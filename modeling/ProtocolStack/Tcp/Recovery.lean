import Mathlib
import ProtocolStack.Tcp.Stream

/-!
# Loss recovery on the stream

The link of {lit}`ProtocolStack.Tcp.Link` may lose the segment at the head of
either direction.  This module lets each round of the stream of
{lit}`ProtocolStack.Tcp.Stream` lose the chunk's segment or B's acknowledgment
of it.  A's retransmission timer ({lit}`tcp_timer`, which runs
{lit}`tcp_retransmit_queue_emit` on every pcb) then resends the chunk from its
queue, once the RTO has passed and before the retransmission deadline.

A lost segment is resent and taken as in a round without loss.  After a lost
acknowledgment, B gets the chunk a second time.  The segment ends at
rcv.nxt, so the sequence check of {lit}`tcp_segment_arrives` rejects it.  B
answers with the same acknowledgment and takes none of the bytes again.  Either
way the round ends in the link state of the round without loss
({lit}`tcpStreamRoundLossy_run`).  So B's application reads each chunk once, in
order, whatever each round loses.
-/

namespace ProtocolStack

/-! ## The timer and the sequence check -/

/-- {lit}`tcp_retransmit_queue_emit` on an entry whose RTO has passed, before the deadline: the entry
is resent from the pcb's current rcv.nxt and window, and its RTO doubled. -/
theorem tcpRetransmitQueueEmit_resend (env : TcpEnv) (pcb : TcpPcb) {entry : TcpQueueEntry}
    (hdeadline : (env.now - entry.first) / 1000000 < TCP_RETRANSMIT_DEADLINE)
    (hdue : entry.last + entry.rto.toNat < env.now) :
    tcpRetransmitQueueEmit env pcb entry =
      (pcb, { entry with last := env.now, rto := entry.rto * 2 },
        [⟨entry.seq, pcb.rcvNxt, entry.flg, pcb.rcvWnd, entry.data, pcb.localEp, pcb.foreign⟩]) := by
  rw [tcpRetransmitQueueEmit, if_neg (Nat.not_le.mpr hdeadline), if_pos hdue]

theorem tcpTimerPcb_resend (env : TcpEnv) {pcb : TcpPcb} (hfree : pcb.state ≠ .free)
    (entry : TcpQueueEntry) (hq : pcb.queue = [entry])
    (hdeadline : (env.now - entry.first) / 1000000 < TCP_RETRANSMIT_DEADLINE)
    (hdue : entry.last + entry.rto.toNat < env.now) :
    tcpTimerPcb env pcb =
      ({ pcb with queue := [{ entry with last := env.now, rto := entry.rto * 2 }] },
        [⟨entry.seq, pcb.rcvNxt, entry.flg, pcb.rcvWnd, entry.data, pcb.localEp, pcb.foreign⟩]) := by
  simp only [tcpTimerPcb, hfree, if_false, hq, tcpRetransmitQueueEmitAll,
    tcpRetransmitQueueEmit_resend env pcb hdeadline hdue, List.append_nil]

theorem tcpTimerPcb_of_free (env : TcpEnv) {pcb : TcpPcb} (h : pcb.state = .free) :
    tcpTimerPcb env pcb = (pcb, []) := by
  simp [tcpTimerPcb, h]

/-- The timer at A when only the first pcb is in use. -/
theorem tcpLinkStep_atA_timer_head (env : TcpEnv) {l : TcpLink} {pcb : TcpPcb} {rest : List TcpPcb}
    (hA : l.hostA = pcb :: rest) (hrest : ∀ p ∈ rest, p.state = .free)
    {r : TcpPcb × List TcpSegmentOut} (htimer : tcpTimerPcb env pcb = r)
    (hok : ∀ x ∈ r.2, env.ipOutput x = true) :
    (tcpLinkStep (.atA env .timer) l).1 = { l with hostA := r.1 :: rest, toB := l.toB ++ r.2 } := by
  have hmap : rest.map (tcpTimerPcb env) = rest.map fun p => (p, []) :=
    List.map_congr_left fun p hp => tcpTimerPcb_of_free env (hrest p hp)
  rw [tcpLinkStep_atA, hA]
  simp [tcpStackStep, htimer, hmap, Function.comp_def, TcpObs.sent_out, List.filter_eq_self.mpr hok]

/-- A segment with payload that ends at rcv.nxt, one the pcb has taken already, fails the sequence
check in every synchronized state. -/
theorem tcpSegmentAcceptable_of_end {pcb : TcpPcb} {seg : TcpSegmentInfo} (hlen : seg.len ≠ 0)
    (hend : seg.seq + seg.len.toUInt32 = pcb.rcvNxt) (hwrap : seg.seq.toNat + seg.len.toNat < 2 ^ 32) :
    tcpSegmentAcceptable pcb seg = false := by
  have hlen0 : 0 < seg.len.toNat :=
    Nat.pos_of_ne_zero fun h => hlen (UInt16.toNat_inj.mp (by rw [h]; rfl))
  have hnxt : pcb.rcvNxt.toNat = seg.seq.toNat + seg.len.toNat := by
    rw [← hend, UInt32.toNat_add, UInt16.toNat_toUInt32]
    omega
  have hfirst : ¬pcb.rcvNxt ≤ seg.seq := by
    rw [UInt32.le_iff_toNat_le]
    omega
  have hone : (1 : UInt32) ≤ pcb.rcvNxt := by
    rw [UInt32.le_iff_toNat_le, UInt32.toNat_one]
    omega
  have hlast : ¬pcb.rcvNxt ≤ seg.seq + seg.len.toUInt32 - 1 := by
    rw [hend, UInt32.le_iff_toNat_le, UInt32.toNat_sub_of_le _ _ hone, UInt32.toNat_one]
    omega
  unfold tcpSegmentAcceptable
  split <;> simp [hlen, hfirst, hlast]

/-- The chunk's segment arriving a second time: B keeps its pcb and acknowledges what it has. -/
theorem tcpSegmentArrivesPcb_duplicate (env : TcpEnv) {pcb : TcpPcb} (hst : pcb.state = .established)
    {chunk : List UInt8} (hlen : 0 < chunk.length) (hlen16 : chunk.length < 2 ^ 16) {seq : UInt32}
    (hend : seq + UInt32.ofNat chunk.length = pcb.rcvNxt) (hwrap : seq.toNat + chunk.length < 2 ^ 32)
    (ack : UInt32) (wnd : UInt16) (localEp foreign : IpEndpoint) :
    tcpSegmentArrivesPcb env pcb
        (TcpSegmentOut.arrival ⟨seq, ack, TCP_FLG_ACK ||| TCP_FLG_PSH, wnd, chunk, foreign, localEp⟩) =
      (pcb, [pcb.ackSegment]) := by
  generalize ha : TcpSegmentOut.arrival
    ⟨seq, ack, TCP_FLG_ACK ||| TCP_FLG_PSH, wnd, chunk, foreign, localEp⟩ = a
  have hsynF : tcpFlgIsset (TCP_FLG_ACK ||| TCP_FLG_PSH) TCP_FLG_SYN = false := by decide
  have hfinF : tcpFlgIsset (TCP_FLG_ACK ||| TCP_FLG_PSH) TCP_FLG_FIN = false := by decide
  have hrstF : tcpFlgIsset (TCP_FLG_ACK ||| TCP_FLG_PSH) TCP_FLG_RST = false := by decide
  have hflags : a.flags = TCP_FLG_ACK ||| TCP_FLG_PSH := by rw [← ha]; rfl
  have hseq : a.seg.seq = seq := by rw [← ha]; rfl
  have hsegLen : a.seg.len.toNat = chunk.length := by
    rw [← ha]
    simp only [TcpSegmentOut.arrival, hsynF, hfinF, Bool.false_eq_true, if_false, add_zero,
      UInt16.toNat_ofNat']
    exact Nat.mod_eq_of_lt hlen16
  have hlen32 : a.seg.len.toUInt32 = UInt32.ofNat chunk.length := by
    apply UInt32.toNat_inj.mp
    rw [UInt16.toNat_toUInt32, hsegLen, UInt32.toNat_ofNat', Nat.mod_eq_of_lt (by omega)]
  have hacc : tcpSegmentAcceptable pcb a.seg = false := by
    refine tcpSegmentAcceptable_of_end (fun h => ?_) (by rw [hseq, hlen32, hend])
      (by rw [hseq, hsegLen]; exact hwrap)
    rw [h] at hsegLen
    exact absurd hsegLen (by simp; omega)
  have hsync : pcb.state ≠ .closed ∧ pcb.state ≠ .listen ∧ pcb.state ≠ .synSent := by
    rw [hst]
    decide
  rw [tcpSegmentArrivesPcb_otherwise env pcb a hsync.1 hsync.2.1 hsync.2.2]
  unfold tcpSegmentArrivesOtherwise
  simp only [hacc, Bool.not_false, if_true, hflags, hrstF, Bool.false_eq_true, if_false]
  have hackSyn : tcpFlgIsset TCP_FLG_ACK TCP_FLG_SYN = false := by decide
  rw [tcpOutput_ack_fst, tcpOutput_segment]
  simp [TcpPcb.ackSegment, tcpOutputSeq, hackSyn]

/-! ## Rounds that lose a segment -/

theorem tcpLinkStep_loseA_cons (hostA hostB : List TcpPcb) (s : TcpSegmentOut)
    (toA toB : List TcpSegmentOut) :
    (tcpLinkStep .loseA ⟨hostA, hostB, s :: toA, toB⟩).1 = ⟨hostA, hostB, toA, toB⟩ :=
  rfl

theorem tcpLinkStep_loseB_cons (hostA hostB : List TcpPcb) (s : TcpSegmentOut)
    (toA toB : List TcpSegmentOut) :
    (tcpLinkStep .loseB ⟨hostA, hostB, toA, s :: toB⟩).1 = ⟨hostA, hostB, toA, toB⟩ :=
  rfl

/-- Which segment of a round the link loses. -/
inductive TcpRoundLoss
  | none
  | data
  | ack
  deriving DecidableEq, Repr

/-- A round of the stream: its chunk, what the link loses, the clock and {lit}`ip_output` at the
call of {lit}`tcp_send`, and those at A's timer and the deliveries after it. -/
structure TcpRound where
  chunk : List UInt8
  loss : TcpRoundLoss
  env : TcpEnv
  envT : TcpEnv

/-- The events of a round.  Where a segment is lost, A's timer fires, B takes the resent chunk and
A takes B's acknowledgment. -/
def tcpStreamRoundLossy (mtu : UInt16) : TcpRound → List TcpLinkEvent
  | ⟨chunk, .none, env, _⟩ => tcpStreamRound env mtu chunk
  | ⟨chunk, .data, env, envT⟩ =>
      [.atA env (.send 0 (some mtu) chunk), .loseB, .atA envT .timer, .deliverB envT, .deliverA envT]
  | ⟨chunk, .ack, env, envT⟩ =>
      [.atA env (.send 0 (some mtu) chunk), .deliverB env, .loseA, .atA envT .timer, .deliverB envT,
        .deliverA envT]

/-- A round for each chunk, in order. -/
def tcpStreamLossy (mtu : UInt16) (rounds : List TcpRound) : List TcpLinkEvent :=
  rounds.flatMap (tcpStreamRoundLossy mtu)

/-- What a round needs: its chunk fits one segment, {lit}`ip_output` accepts, and where a segment
is lost, A's timer fires after the RTO has passed and before the retransmission deadline. -/
structure TcpRound.Fits (mtu : UInt16) (r : TcpRound) : Prop where
  pos : 0 < r.chunk.length
  mss : r.chunk.length ≤ tcpSendMss mtu
  ok : ∀ s, r.env.ipOutput s = true
  okT : ∀ s, r.envT.ipOutput s = true
  due : r.loss ≠ .none → r.env.now + TCP_DEFAULT_RTO.toNat < r.envT.now
  deadline : r.loss ≠ .none → (r.envT.now - r.env.now) / 1000000 < TCP_RETRANSMIT_DEADLINE

section Round

variable (env : TcpEnv) (mtu : UInt16) {a b : TcpPcb} (restA restB : List TcpPcb)
  {chunk : List UInt8} {n : Nat}

/-- A's timer after the chunk's segment went out: the chunk is resent and its entry's RTO doubled. -/
theorem TcpStreaming.timer_step (h : TcpStreaming a b (chunk.length + n))
    (hfree : ∀ p ∈ restA, p.state = .free) (envT : TcpEnv) (hokT : ∀ s, envT.ipOutput s = true)
    (hdue : env.now + TCP_DEFAULT_RTO.toNat < envT.now)
    (hdeadline : (envT.now - env.now) / 1000000 < TCP_RETRANSMIT_DEADLINE) (hostB : List TcpPcb)
    (toA toB : List TcpSegmentOut) :
    (tcpLinkStep (.atA envT .timer) ⟨a.sentChunk env chunk :: restA, hostB, toA, toB⟩).1 =
      ⟨{ a.sentChunk env chunk with
          queue := [⟨env.now, envT.now, TCP_DEFAULT_RTO * 2, a.sndNxt, TCP_FLG_ACK ||| TCP_FLG_PSH,
            chunk⟩] } :: restA, hostB, toA, toB ++ [a.chunkSegment chunk]⟩ := by
  have hq : (a.sentChunk env chunk).queue =
      [⟨env.now, env.now, TCP_DEFAULT_RTO, a.sndNxt, TCP_FLG_ACK ||| TCP_FLG_PSH, chunk⟩] := by
    show a.queue ++ _ = _
    rw [h.sync.drained.1, List.nil_append]
  exact tcpLinkStep_atA_timer_head envT rfl hfree
    (tcpTimerPcb_resend envT (by show a.state ≠ .free; rw [h.sync.established.1]; decide) _ hq
      hdeadline hdue)
    fun x _ => hokT x

/-- B, which has the chunk already, gets its segment again. -/
theorem TcpStreaming.deliver_duplicate (h : TcpStreaming a b (chunk.length + n))
    (hlen : 0 < chunk.length) (env' : TcpEnv) (hok : ∀ s, env'.ipOutput s = true)
    (hostA : List TcpPcb) :
    (tcpLinkStep (.deliverB env') ⟨hostA, b.tookChunk chunk :: restB, [], [a.chunkSegment chunk]⟩).1 =
      ⟨hostA, b.tookChunk chunk :: restB, [(b.tookChunk chunk).ackSegment], []⟩ := by
  have hlen16 : chunk.length < 2 ^ 16 := by
    have := h.room
    have := b.rcvWnd.toNat_lt
    omega
  exact tcpLinkStep_deliverB_head env' rfl rfl
    (tcpPcbSelect_cons_exact h.sync.endpoints.2.symm h.sync.endpoints.1.symm restB)
    (tcpSegmentArrivesPcb_duplicate env'
      (show (b.tookChunk chunk).state = .established from h.sync.established.2) hlen hlen16
      (show a.sndNxt + UInt32.ofNat chunk.length = (b.tookChunk chunk).rcvNxt by
        rw [h.sync.next.1]; rfl)
      (by have := h.seq; omega) a.rcvNxt a.rcvWnd a.foreign a.localEp)
    fun x _ => hok x

end Round

/-- A round that loses a segment ends in the link state of the round without loss. -/
theorem tcpStreamRoundLossy_run (mtu : UInt16) (restA restB : List TcpPcb)
    (hfree : ∀ p ∈ restA, p.state = .free) {r : TcpRound} (hr : r.Fits mtu) {a b : TcpPcb} {n : Nat}
    (h : TcpStreaming a b (r.chunk.length + n)) :
    (Run.run tcpLinkStep ⟨a :: restA, b :: restB, [], []⟩ (tcpStreamRoundLossy mtu r)).1 =
      (Run.run tcpLinkStep ⟨a :: restA, b :: restB, [], []⟩ (tcpStreamRound r.env mtu r.chunk)).1 := by
  obtain ⟨chunk, loss, env, envT⟩ := r
  obtain ⟨hlen, hmss, hok, hokT, hdue, hdeadline⟩ := hr
  simp only at hlen hmss hok hokT hdue hdeadline h
  rw [tcpStreamRound_run env mtu restA restB h hlen hmss hok]
  -- the entry the timer leaves covers the chunk, so B's acknowledgment drops it
  have hq : ∀ e ∈ [(⟨env.now, envT.now, TCP_DEFAULT_RTO * 2, a.sndNxt, TCP_FLG_ACK ||| TCP_FLG_PSH,
      chunk⟩ : TcpQueueEntry)], e.seq = a.sndNxt := by
    simp
  cases loss with
  | none => exact tcpStreamRound_run env mtu restA restB h hlen hmss hok
  | data =>
    -- the data segment is lost; the timer resends it and the round goes on as a clean one
    rw [tcpStreamRoundLossy, Run.run_cons, h.send_step env mtu restA restB hlen hmss hok [],
      Run.run_cons, tcpLinkStep_loseB_cons, Run.run_cons,
      h.timer_step env restA hfree envT hokT (hdue nofun) (hdeadline nofun), List.nil_append,
      Run.run_cons, h.deliver_chunk envT restB hlen hokT, Run.run_cons,
      h.deliver_ack env restA hlen envT rfl hq, Run.run_nil]
  | ack =>
    -- the acknowledgment is lost; B takes the resent segment as a duplicate and acknowledges again
    rw [tcpStreamRoundLossy, Run.run_cons, h.send_step env mtu restA restB hlen hmss hok [],
      Run.run_cons, h.deliver_chunk env restB hlen hok, Run.run_cons, tcpLinkStep_loseA_cons,
      Run.run_cons, h.timer_step env restA hfree envT hokT (hdue nofun) (hdeadline nofun),
      List.nil_append, Run.run_cons, h.deliver_duplicate restB hlen envT hokT, Run.run_cons,
      h.deliver_ack env restA hlen envT rfl hq, Run.run_nil]

/-- The run lemma of the lossy stream. -/
theorem TcpStreaming.lossy_run (mtu : UInt16) (restA restB : List TcpPcb)
    (hfree : ∀ p ∈ restA, p.state = .free) (rounds : List TcpRound) {a b : TcpPcb} {n : Nat}
    (h : TcpStreaming a b ((rounds.map fun r => r.chunk.length).sum + n))
    (hrounds : ∀ r ∈ rounds, r.Fits mtu) :
    ∃ a' b', (Run.run tcpLinkStep ⟨a :: restA, b :: restB, [], []⟩ (tcpStreamLossy mtu rounds)).1 =
        ⟨a' :: restA, b' :: restB, [], []⟩ ∧ TcpStreaming a' b' n ∧
      b.Appended b' (rounds.map TcpRound.chunk).flatten :=
  TcpStreaming.rounds_run (tcpStreamRoundLossy mtu) TcpRound.chunk (TcpRound.Fits mtu) restA restB
    (fun r hr _ _ _ h => by
      rw [tcpStreamRoundLossy_run mtu restA restB hfree hr h]
      exact h.round_run r.env mtu restA restB hr.pos hr.mss hr.ok)
    rounds h hrounds

/-! ## End to end -/

/-- After the handshake, over a link that loses in each round the chunk's segment, its
acknowledgment or nothing, B's application reads the bytes of the chunks once each, in the order
A's application sent them. -/
theorem tcp_stream_in_order_lossy (envA1 envA2 envB1 envB2 envB3 envR : TcpEnv)
    (localA localB : IpEndpoint) (mtu : UInt16) (rounds : List TcpRound) (size : Nat)
    (hport : localB.port ≠ 0) (hissA : envA1.random.toNat + 65536 < 2 ^ 32)
    (hissB : envB2.random.toNat + 65536 < 2 ^ 32) (hokA1 : ∀ s, envA1.ipOutput s = true)
    (hokB2 : ∀ s, envB2.ipOutput s = true) (hokA2 : ∀ s, envA2.ipOutput s = true)
    (htotal : (rounds.map fun r => r.chunk.length).sum ≤ 65535) (hrounds : ∀ r ∈ rounds, r.Fits mtu) :
    (tcpLinkRun (tcpHandshake envA1 envA2 envB1 envB2 envB3 localA localB ++ tcpStreamLossy mtu rounds ++
        [.atB envR (.receive 0 size)])).2.getLast? =
      some { out := [], received := (rounds.map TcpRound.chunk).flatten.take size } := by
  obtain ⟨a, b, hrun, hs, hb⟩ :=
    tcpLinkRun_handshake_streaming envA1 envA2 envB1 envB2 envB3 localA localB hport hissA hissB
      hokA1 hokB2 hokA2 (n := (rounds.map fun r => r.chunk.length).sum + 0) htotal
  have hfree : ∀ p ∈ List.replicate 15 TcpPcb.zero, p.state = .free := fun p hp => by
    rw [List.eq_of_mem_replicate hp]
    rfl
  obtain ⟨a', b', hstream, hs', happ⟩ := TcpStreaming.lossy_run mtu _ _ hfree rounds hs hrounds
  rw [tcpLinkRun, Run.getLast?_run_append_singleton, Run.run_append, ← tcpLinkRun, hrun, hstream,
    hs'.receive_obs, happ.held, hb, List.nil_append]

/-- A round without loss, one that loses the chunk, and one that loses the acknowledgment. -/
def tcpRoundsEcho : List TcpRound :=
  [⟨[1, 2, 3], .none, tcpEnvFixed, { tcpEnvFixed with now := 300000 }⟩,
    ⟨[4, 5], .data, tcpEnvFixed, { tcpEnvFixed with now := 300000 }⟩,
    ⟨[6], .ack, { tcpEnvFixed with now := 400000 }, { tcpEnvFixed with now := 700000 }⟩]

theorem tcp_stream_in_order_lossy_echo :
    (tcpLinkRun (tcpHandshakeEcho ++ tcpStreamLossy 1500 tcpRoundsEcho ++
        [.atB tcpEnvFixed (.receive 0 16)])).2.getLast? =
      some { out := [], received := [1, 2, 3, 4, 5, 6] } :=
  tcp_stream_in_order_lossy tcpEnvFixed tcpEnvFixed tcpEnvFixed { tcpEnvFixed with random := 5000 }
    tcpEnvFixed tcpEnvFixed _ _ 1500 tcpRoundsEcho 16 (by decide) (by decide) (by decide)
    (fun _ => rfl) (fun _ => rfl) (fun _ => rfl) (by decide) fun r hr => by
      simp only [tcpRoundsEcho, List.mem_cons, List.not_mem_nil, or_false] at hr
      rcases hr with rfl | rfl | rfl <;>
        exact ⟨by decide, by decide, fun _ => rfl, fun _ => rfl, fun _ => by decide, fun _ => by decide⟩

end ProtocolStack
