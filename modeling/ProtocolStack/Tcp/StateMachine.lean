import Mathlib
import ProtocolStack.Tcp.Acknowledge
import ProtocolStack.Tcp.Sender

/-!
# The state machine and the sequence space

{lit}`tcp_segment_arrives` compares sequence numbers with the unsigned
operators of C.  RFC 793 asks for comparisons modulo 2^32, which do not
change when a constant is added to every number of one side's sequence
space; the unsigned ones change when a sum wraps past 2^32.
-/

namespace ProtocolStack

/-!
## The state diagram
-/

/-- The edges of the state diagram of RFC 793, with FREE to CLOSED for {lit}`tcp_pcb_alloc`. -/
inductive TcpState.Edge : TcpState → TcpState → Prop
  | alloc : Edge .free .closed
  | passiveOpen : Edge .closed .listen
  | activeOpen : Edge .closed .synSent
  | listenSyn : Edge .listen .synReceived
  | synSentSyn : Edge .synSent .synReceived
  | synSentSynAck : Edge .synSent .established
  | synReceivedAck : Edge .synReceived .established
  | establishedClose : Edge .established .finWait1
  | establishedFin : Edge .established .closeWait
  | finWait1Ack : Edge .finWait1 .finWait2
  | finWait1Fin : Edge .finWait1 .closing
  | finWait1FinAck : Edge .finWait1 .timeWait
  | finWait2Fin : Edge .finWait2 .timeWait
  | closeWaitClose : Edge .closeWait .lastAck
  | closingAck : Edge .closing .timeWait
  | lastAckAck : Edge .lastAck .closed

/-- A change of state within one event: a chain of edges, or an abort to CLOSED or FREE. -/
def TcpState.Moves (st st' : TcpState) : Prop :=
  Relation.ReflTransGen TcpState.Edge st st' ∨ st' = .closed ∨ st' = .free

theorem TcpState.Moves.of_reaches {st st' : TcpState}
    (h : Relation.ReflTransGen TcpState.Edge st st') : st.Moves st' :=
  .inl h

theorem TcpState.Moves.refl (st : TcpState) : st.Moves st :=
  .inl .refl

theorem TcpState.AckStep.reaches {st st' : TcpState} (h : st.AckStep st') :
    Relation.ReflTransGen TcpState.Edge st st' := by
  rcases h with rfl | ⟨rfl, rfl⟩ | ⟨rfl, rfl⟩
  · exact .refl
  · exact .single .synReceivedAck
  · exact .single .finWait1Ack

/-- The 8th step moves along the edges of the peer's FIN; from SYN-RECEIVED through ESTABLISHED. -/
theorem tcpSegmentArrivesFinState_reaches (pcb : TcpPcb) (seg : TcpSegmentInfo) :
    Relation.ReflTransGen TcpState.Edge pcb.state (tcpSegmentArrivesFinState pcb seg).state := by
  unfold tcpSegmentArrivesFinState
  split
  next hst =>
    rw [hst]
    exact .tail (.single .synReceivedAck) .establishedFin
  next hst =>
    rw [hst]
    exact .single .establishedFin
  next hst =>
    rw [hst]
    split
    · exact .single .finWait1FinAck
    · exact .single .finWait1Fin
  next hst =>
    rw [hst]
    exact .single .finWait2Fin
  next => exact .refl

/-- The processing after the 1st check: the 5th check's edges, then the FIN's, or the release in LAST-ACK. -/
theorem tcpSegmentArrivesOtherwise_moves (env : TcpEnv) (pcb : TcpPcb) (a : TcpArrival)
    (hc : pcb.state ≠ .closed) (hl : pcb.state ≠ .listen) (hs : pcb.state ≠ .synSent) :
    pcb.state.Moves (tcpSegmentArrivesOtherwise env pcb a).1.state := by
  rcases tcpSegmentArrivesOtherwise_recv env pcb a hc hl hs with
    ⟨hr, -⟩ | ⟨-, -, hstep⟩ | ⟨-, -, -, pcb1, -, hstep, hr⟩ |
      ⟨-, pcb1, -, hstep, -, -, -, ⟨-, hr⟩ | ⟨-, hr⟩⟩
  · rw [hr]
    exact .inr (.inr rfl)
  · exact .of_reaches hstep.reaches
  · rw [hr]
    exact .of_reaches (hstep.reaches.trans
      (tcpSegmentArrivesFinState_reaches { pcb1 with rcvNxt := a.seg.seq + 1 } a.seg))
  · rw [hr]
    exact .of_reaches hstep.reaches
  · rw [hr]
    exact .of_reaches (hstep.reaches.trans
      (tcpSegmentArrivesFinState_reaches { pcb1.withText a with rcvNxt := a.seg.seq + 1 } a.seg))

theorem tcpSegmentArrivesPcb_moves (env : TcpEnv) (pcb : TcpPcb) (a : TcpArrival) :
    pcb.state.Moves (tcpSegmentArrivesPcb env pcb a).1.state := by
  rcases tcpSegmentArrivesPcb_cases env pcb a with
    ⟨-, h0⟩ | ⟨hl, h0⟩ | ⟨hs, h0⟩ | ⟨hc, hl, hs, h0⟩ <;> rw [h0]
  · exact .refl _
  · rw [tcpSegmentArrivesListen_fst]
    split
    · rw [hl]
      exact .of_reaches (.single .listenSyn)
    · exact .refl _
  · rw [hs]
    rcases tcpSegmentArrivesSynSent_recv env pcb a with h | ⟨-, -, -, -, hst | hst⟩
    · rw [h, hs]
      exact .refl _
    · rw [hst]
      exact .of_reaches (.single .synSentSynAck)
    · rw [hst]
      exact .of_reaches (.single .synSentSyn)
  · exact tcpSegmentArrivesOtherwise_moves env pcb a hc hl hs

/-- Every event changes the state along the diagram, or aborts to CLOSED or FREE. -/
theorem tcpStep_moves (ev : TcpEnv × TcpEvent) (pcb : TcpPcb) :
    pcb.state.Moves (tcpStep ev pcb).1.state := by
  obtain ⟨env, e⟩ := ev
  cases e with
  | openActive localEp foreign =>
      by_cases hfree : pcb.state = .free
      · rw [tcpStep_openActive_of_free env localEp foreign pcb hfree, hfree]
        rcases tcpOpenRfc793Active_recv env pcb.alloc localEp foreign with h | ⟨h, -⟩
        · rw [h]
          exact .inr (.inr rfl)
        · rw [h]
          exact .of_reaches (.tail (.single .alloc) .activeOpen)
      · rw [tcpStep_openActive_of_ne_free env localEp foreign pcb hfree]
        exact .refl _
  | openPassive localEp foreign =>
      by_cases hfree : pcb.state = .free
      · rw [tcpStep_openPassive_of_free env localEp foreign pcb hfree, hfree,
          tcpOpenRfc793Passive_state]
        exact .of_reaches (.tail (.single .alloc) .passiveOpen)
      · rw [tcpStep_openPassive_of_ne_free env localEp foreign pcb hfree]
        exact .refl _
  | openWake recorded =>
      rw [tcpStep_openWake]
      rcases tcpOpenRfc793Wake_fst pcb recorded with h | h <;> rw [h]
      · exact .refl _
      · exact .inr (.inr rfl)
  | openInterrupted => exact .inr (.inr rfl)
  | close =>
      rw [tcpStep_close]
      rcases tcpClose_recv env pcb with h | ⟨-, ⟨hst, hst'⟩ | ⟨hst, hst'⟩⟩
      · rw [h]
        exact .refl _
      · rw [hst, hst']
        exact .of_reaches (.single .establishedClose)
      · rw [hst, hst']
        exact .of_reaches (.single .closeWaitClose)
  | send mtu rest =>
      rw [tcpStep_send]
      rcases tcpSendPass_recv env pcb mtu rest with h | ⟨-, hst⟩
      · rw [h]
        exact .inr (.inr rfl)
      · rw [hst]
        exact .refl _
  | receive size =>
      rw [tcpStep_receive]
      obtain ⟨buf, wnd, hr⟩ := tcpReceive_fst pcb size
      rw [hr]
      exact .refl _
  | arrive a =>
      rw [tcpStep_arrive]
      exact tcpSegmentArrivesPcb_moves env pcb a
  | timer =>
      rw [tcpStep_timer]
      rcases (tcpTimerPcb_recv env pcb).2 with hst | hst
      · rw [hst]
        exact .refl _
      · exact .inr (.inl hst)

/-!
## The send side
-/

theorem seq_lt_add_one {x : UInt32} (h : x.toNat + 1 < 2 ^ 32) : x < x + 1 := by
  simp only [UInt32.lt_iff_toNat_lt, UInt32.toNat_add, UInt32.toNat_one]
  omega

theorem seq_le_add_ofNat {x : UInt32} {n : Nat} (h : x.toNat + n < 2 ^ 32) :
    x ≤ x + UInt32.ofNat n := by
  simp only [UInt32.le_iff_toNat_le, UInt32.toNat_add, UInt32.toNat_ofNat']
  omega

/-- {lit}`q` has the send side of {lit}`p`: iss, snd.una and snd.nxt. -/
structure TcpPcb.SameSend (p q : TcpPcb) : Prop where
  iss : q.iss = p.iss
  sndUna : q.sndUna = p.sndUna
  sndNxt : q.sndNxt = p.sndNxt

theorem TcpPcb.SameSend.refl (p : TcpPcb) : p.SameSend p :=
  ⟨rfl, rfl, rfl⟩

/-- The states that have an initial sequence number of ours: all but FREE, CLOSED and LISTEN. -/
def TcpState.sending : TcpState → Bool
  | .free | .closed | .listen => false
  | _ => true

/--
The send side while snd.nxt does not wrap: iss ≤ snd.una ≤ snd.nxt with our
SYN sent, and our FIN acknowledged in FIN-WAIT-2 and TIME-WAIT.
-/
structure SendSeqInv (pcb : TcpPcb) : Prop where
  ordered : pcb.state.sending = true →
    pcb.iss ≤ pcb.sndUna ∧ pcb.sndUna ≤ pcb.sndNxt ∧ pcb.iss < pcb.sndNxt
  finAcked : pcb.state = .finWait2 ∨ pcb.state = .timeWait → pcb.sndUna = pcb.sndNxt

theorem SendSeqInv.of_sameSend {p q : TcpPcb} (h : SendSeqInv p) (hs : p.SameSend q)
    (hst : q.state = p.state) : SendSeqInv q := by
  constructor
  · intro hq
    rw [hs.iss, hs.sndUna, hs.sndNxt]
    exact h.ordered (hst ▸ hq)
  · intro hq
    rw [hs.sndUna, hs.sndNxt]
    exact h.finAcked (hst ▸ hq)

theorem SendSeqInv.of_not_sending {q : TcpPcb} (hst : q.state.sending = false) :
    SendSeqInv q := by
  constructor
  · intro hq
    rw [hst] at hq
    exact Bool.noConfusion hq
  · rintro (h | h) <;> rw [h] at hst <;> exact Bool.noConfusion hst

/-- A state before our FIN is sent, with iss ≤ snd.una ≤ snd.nxt and our SYN sent. -/
theorem SendSeqInv.of_ordered {q : TcpPcb} (hlo : q.iss ≤ q.sndUna) (hhi : q.sndUna ≤ q.sndNxt)
    (hin : q.iss < q.sndNxt)
    (hst : q.state ≠ .finWait2 ∧ q.state ≠ .timeWait) : SendSeqInv q := by
  constructor
  · intro _
    exact ⟨hlo, hhi, hin⟩
  · rintro (h | h)
    · exact absurd h hst.1
    · exact absurd h hst.2

/-- Sending before our FIN is acknowledged moves snd.nxt forward and keeps iss and snd.una. -/
theorem SendSeqInv.advance {pcb q : TcpPcb} (h : SendSeqInv pcb) (hs : pcb.state.sending = true)
    (hiss : q.iss = pcb.iss) (huna : q.sndUna = pcb.sndUna) (hnxt : pcb.sndNxt ≤ q.sndNxt)
    (hst : q.state ≠ .finWait2 ∧ q.state ≠ .timeWait) : SendSeqInv q := by
  obtain ⟨hiu, hun, hin⟩ := h.ordered hs
  apply SendSeqInv.of_ordered
  · rw [hiss, huna]
    exact hiu
  · rw [huna]
    exact UInt32.le_trans hun hnxt
  · rw [hiss]
    exact UInt32.lt_of_lt_of_le hin hnxt
  · exact hst

/-- An open: snd.una = iss and snd.nxt = iss + 1, which does not wrap. -/
theorem SendSeqInv.of_open {q : TcpPcb} (huna : q.sndUna = q.iss) (hnxt : q.sndNxt = q.iss + 1)
    (hwrap : q.iss.toNat + 1 < 2 ^ 32) (hst : q.state = .synSent ∨ q.state = .synReceived) :
    SendSeqInv q := by
  have hlt := seq_lt_add_one hwrap
  apply SendSeqInv.of_ordered
  · rw [huna]
    exact UInt32.le_refl _
  · rw [huna, hnxt]
    exact UInt32.le_of_lt hlt
  · rw [hnxt]
    exact hlt
  · rcases hst with h | h <;> rw [h] <;> exact ⟨by decide, by decide⟩

/-- The event does not carry snd.nxt past 2^32: the initial sequence number it may draw, or the bytes or FIN it may send. -/
def TcpEvent.NoSendWrap (pcb : TcpPcb) : TcpEnv × TcpEvent → Prop
  | (env, .openActive _ _) => env.random.toNat + 1 < 2 ^ 32
  | (env, .arrive _) => pcb.state = .listen → env.random.toNat + 1 < 2 ^ 32
  | (_, .send _ rest) => pcb.sndNxt.toNat + rest.length < 2 ^ 32
  | (_, .close) => pcb.sndNxt.toNat + 1 < 2 ^ 32
  | _ => True

instance (pcb : TcpPcb) : ∀ ev, Decidable (TcpEvent.NoSendWrap pcb ev)
  | (_, .openActive _ _) => inferInstanceAs (Decidable (_ < _))
  | (_, .openPassive _ _) => isTrue trivial
  | (_, .openWake _) => isTrue trivial
  | (_, .openInterrupted) => isTrue trivial
  | (_, .close) => inferInstanceAs (Decidable (_ < _))
  | (_, .send _ _) => inferInstanceAs (Decidable (_ < _))
  | (_, .receive _) => isTrue trivial
  | (_, .arrive _) => inferInstanceAs (Decidable (_ → _))
  | (_, .timer) => isTrue trivial

/-!
### The phases of an arrival
-/

theorem tcpSegmentArrivesAckState_send (pcb : TcpPcb) (seg : TcpSegmentInfo) :
    pcb.SameSend (tcpSegmentArrivesAckState pcb seg) ∧
      ((tcpSegmentArrivesAckState pcb seg).state = pcb.state ∨
        (seg.ack = pcb.sndNxt ∧ (tcpSegmentArrivesAckState pcb seg).state = .finWait2)) := by
  unfold tcpSegmentArrivesAckState
  split
  · split
    · rename_i hack
      exact ⟨⟨rfl, rfl, rfl⟩, .inr ⟨by simpa using hack, rfl⟩⟩
    · exact ⟨⟨rfl, rfl, rfl⟩, .inl rfl⟩
  · exact ⟨⟨rfl, rfl, rfl⟩, .inl rfl⟩

theorem tcpSegmentArrivesWindowUpdate_send (pcb : TcpPcb) (seg : TcpSegmentInfo) :
    pcb.SameSend (tcpSegmentArrivesWindowUpdate pcb seg) ∧
      (tcpSegmentArrivesWindowUpdate pcb seg).state = pcb.state := by
  unfold tcpSegmentArrivesWindowUpdate
  split
  · exact ⟨⟨rfl, rfl, rfl⟩, rfl⟩
  · exact ⟨⟨rfl, rfl, rfl⟩, rfl⟩

/--
Where the 5th check goes on, it leaves the pcb with its send side moved to
{lit}`q` and FIN-WAIT-1 moved on by an acknowledgment of snd.nxt; the
invariant holds after it when {lit}`q` keeps snd.una in [iss, snd.nxt] and
makes it snd.nxt on that acknowledgment.
-/
theorem SendSeqInv.ackState {pcb q : TcpPcb} (seg : TcpSegmentInfo) (h : SendSeqInv pcb)
    (hsend : pcb.state.sending = true) (hiss : q.iss = pcb.iss) (hnxt : q.sndNxt = pcb.sndNxt)
    (hst : q.state = pcb.state) (hlo : pcb.iss ≤ q.sndUna) (hhi : q.sndUna ≤ pcb.sndNxt)
    (hack : seg.ack = pcb.sndNxt → q.sndUna = pcb.sndNxt)
    (hfin : pcb.state = .finWait2 ∨ pcb.state = .timeWait → q.sndUna = pcb.sndNxt) :
    SendSeqInv (tcpSegmentArrivesAckState q seg) ∧
      (seg.ack = (tcpSegmentArrivesAckState q seg).sndNxt →
        (tcpSegmentArrivesAckState q seg).sndUna = (tcpSegmentArrivesAckState q seg).sndNxt) := by
  obtain ⟨hsame, hmove⟩ := tcpSegmentArrivesAckState_send q seg
  have hin := (h.ordered hsend).2.2
  refine ⟨⟨fun _ => ?_, fun hfw => ?_⟩, fun hack' => ?_⟩
  · rw [hsame.iss, hsame.sndUna, hsame.sndNxt, hiss, hnxt]
    exact ⟨hlo, hhi, hin⟩
  · rw [hsame.sndUna, hsame.sndNxt, hnxt]
    rcases hmove with hst' | ⟨hack', -⟩
    · rw [hst', hst] at hfw
      exact hfin hfw
    · exact hack (hack'.trans hnxt)
  · rw [hsame.sndUna, hsame.sndNxt, hnxt]
    rw [hsame.sndNxt, hnxt] at hack'
    exact hack hack'

/--
The 5th check in the synchronized states moves snd.una forward within
[snd.una, snd.nxt], and when it goes on, an acknowledgment of snd.nxt has
made snd.una = snd.nxt.
-/
theorem tcpSegmentArrivesAckEstablished_send (env : TcpEnv) (pcb : TcpPcb) (seg : TcpSegmentInfo)
    (h : SendSeqInv pcb) (hsend : pcb.state.sending = true) :
    SendSeqInv (tcpSegmentArrivesAckEstablished env pcb seg).1 ∧
      ((tcpSegmentArrivesAckEstablished env pcb seg).2.2 = true →
        seg.ack = (tcpSegmentArrivesAckEstablished env pcb seg).1.sndNxt →
        (tcpSegmentArrivesAckEstablished env pcb seg).1.sndUna =
          (tcpSegmentArrivesAckEstablished env pcb seg).1.sndNxt) := by
  obtain ⟨hiu, hun, -⟩ := h.ordered hsend
  unfold tcpSegmentArrivesAckEstablished
  dsimp only
  split
  · -- snd.una < seg.ack ≤ snd.nxt: snd.una moves to seg.ack
    rename_i hadv
    simp only [Bool.and_eq_true, decide_eq_true_eq] at hadv
    obtain ⟨hw, hwst⟩ := tcpSegmentArrivesWindowUpdate_send
      (tcpRetransmitQueueCleanup { pcb with sndUna := seg.ack }) seg
    have hq := SendSeqInv.ackState seg h hsend hw.iss hw.sndNxt hwst
      (by rw [hw.sndUna]; exact UInt32.le_of_lt (UInt32.lt_of_le_of_lt hiu hadv.1))
      (by rw [hw.sndUna]; exact hadv.2) (fun hack => by rw [hw.sndUna]; exact hack)
      (fun hfw => absurd (h.finAcked hfw) (UInt32.ne_of_lt (UInt32.lt_of_lt_of_le hadv.1 hadv.2)))
    exact ⟨hq.1, fun _ => hq.2⟩
  · split
    · -- seg.ack < snd.una: nothing moves
      rename_i hold
      have hq := SendSeqInv.ackState seg h hsend rfl rfl rfl hiu hun
        (fun hack => absurd (UInt32.lt_of_lt_of_le hold (hack ▸ hun)) (UInt32.lt_irrefl _))
        h.finAcked
      exact ⟨hq.1, fun _ => hq.2⟩
    · split
      · -- seg.ack > snd.nxt: an ACK, and the processing stops
        rw [tcpOutput_ack_fst]
        exact ⟨h, fun hc => Bool.noConfusion hc⟩
      · -- seg.ack = snd.una: a duplicate acknowledgment
        rename_i hnadv hnold hnfut
        simp only [Bool.and_eq_true, decide_eq_true_eq, not_and] at hnadv
        have hq := SendSeqInv.ackState seg h hsend rfl rfl rfl hiu hun
          (fun hack => by
            have hle : pcb.sndUna ≤ seg.ack := UInt32.not_lt.mp hnold
            rcases UInt32.lt_or_eq_of_le hle with hlt | heq
            · exact absurd (hack ▸ UInt32.le_refl _) (hnadv hlt)
            · exact heq.trans hack)
          h.finAcked
        exact ⟨hq.1, fun _ => hq.2⟩

/-- The 5th check for an acceptable segment: SYN-RECEIVED enters ESTABLISHED with its send side, LAST-ACK releases the pcb. -/
theorem tcpSegmentArrivesAck_send (env : TcpEnv) (pcb : TcpPcb) (a : TcpArrival)
    (h : SendSeqInv pcb) (hacc : tcpSegmentAcceptable pcb a.seg = true) :
    SendSeqInv (tcpSegmentArrivesAck env pcb a).1 ∧
      ((tcpSegmentArrivesAck env pcb a).2.2 = true →
        a.seg.ack = (tcpSegmentArrivesAck env pcb a).1.sndNxt →
        (tcpSegmentArrivesAck env pcb a).1.sndUna = (tcpSegmentArrivesAck env pcb a).1.sndNxt) := by
  unfold tcpSegmentArrivesAck
  split
  · rename_i hst
    split
    · obtain ⟨hiu, hun, hin⟩ := h.ordered (by rw [hst]; rfl)
      have hest : SendSeqInv { pcb with state := .established } :=
        SendSeqInv.of_ordered hiu hun hin ⟨by simp, by simp⟩
      exact tcpSegmentArrivesAckEstablished_send env _ a.seg hest rfl
    · exact ⟨h, fun hc => Bool.noConfusion hc⟩
  · rename_i hst
    exact tcpSegmentArrivesAckEstablished_send env pcb a.seg h (by rw [hst]; rfl)
  · rename_i hst
    exact tcpSegmentArrivesAckEstablished_send env pcb a.seg h (by rw [hst]; rfl)
  · rename_i hst
    exact tcpSegmentArrivesAckEstablished_send env pcb a.seg h (by rw [hst]; rfl)
  · rename_i hst
    exact tcpSegmentArrivesAckEstablished_send env pcb a.seg h (by rw [hst]; rfl)
  · split
    · exact ⟨.of_not_sending rfl, fun hc => Bool.noConfusion hc⟩
    · exact ⟨h, fun hc => Bool.noConfusion hc⟩
  · -- FREE, CLOSED, LISTEN, SYN-SENT, CLOSING and TIME-WAIT fail the receive-window test
    exfalso
    unfold tcpSegmentAcceptable at hacc
    split at hacc <;> simp_all

theorem tcpSegmentArrivesText_send (env : TcpEnv) (pcb : TcpPcb) (a : TcpArrival) :
    pcb.SameSend (tcpSegmentArrivesText env pcb a).1 ∧
      (tcpSegmentArrivesText env pcb a).1.state = pcb.state := by
  rw [tcpSegmentArrivesText_fst]
  split
  · exact ⟨⟨rfl, rfl, rfl⟩, rfl⟩
  · exact ⟨TcpPcb.SameSend.refl pcb, rfl⟩

/--
The state change of the 8th step keeps the send side, leaves the states
without an initial sequence number alone, and reaches TIME-WAIT from
FIN-WAIT-1 only on an acknowledgment of snd.nxt.
-/
theorem tcpSegmentArrivesFinState_send (pcb : TcpPcb) (seg : TcpSegmentInfo) :
    pcb.SameSend (tcpSegmentArrivesFinState pcb seg) ∧
      ((tcpSegmentArrivesFinState pcb seg).state.sending = true → pcb.state.sending = true) ∧
      ((tcpSegmentArrivesFinState pcb seg).state = .finWait2 ∨
          (tcpSegmentArrivesFinState pcb seg).state = .timeWait →
        pcb.state = .finWait2 ∨ pcb.state = .timeWait ∨ seg.ack = pcb.sndNxt) := by
  unfold tcpSegmentArrivesFinState
  split
  · rename_i hst
    refine ⟨⟨rfl, rfl, rfl⟩, fun _ => by rw [hst]; rfl, ?_⟩
    rintro (hfw | hfw) <;> cases hfw
  · rename_i hst
    refine ⟨⟨rfl, rfl, rfl⟩, fun _ => by rw [hst]; rfl, ?_⟩
    rintro (hfw | hfw) <;> cases hfw
  · rename_i hst
    split
    · rename_i hack
      exact ⟨⟨rfl, rfl, rfl⟩, fun _ => by rw [hst]; rfl,
        fun _ => .inr (.inr (by simpa using hack))⟩
    · refine ⟨⟨rfl, rfl, rfl⟩, fun _ => by rw [hst]; rfl, ?_⟩
      rintro (hfw | hfw) <;> cases hfw
  · rename_i hst
    exact ⟨⟨rfl, rfl, rfl⟩, fun _ => by rw [hst]; rfl, fun _ => .inl hst⟩
  · refine ⟨TcpPcb.SameSend.refl pcb, id, ?_⟩
    rintro (hfw | hfw)
    · exact .inl hfw
    · exact .inr (.inl hfw)

/-- The 8th step keeps the invariant when an acknowledgment of snd.nxt has acknowledged everything. -/
theorem tcpSegmentArrivesFin_send (env : TcpEnv) (pcb : TcpPcb) (a : TcpArrival)
    (h : SendSeqInv pcb) (hack : a.seg.ack = pcb.sndNxt → pcb.sndUna = pcb.sndNxt) :
    SendSeqInv (tcpSegmentArrivesFin env pcb a).1 := by
  rw [tcpSegmentArrivesFin_fst]
  split
  · obtain ⟨hsame, hsend, hfin⟩ :=
      tcpSegmentArrivesFinState_send { pcb with rcvNxt := a.seg.seq + 1 } a.seg
    constructor
    · intro hs
      rw [hsame.iss, hsame.sndUna, hsame.sndNxt]
      exact h.ordered (hsend hs)
    · intro hfw
      rw [hsame.sndUna, hsame.sndNxt]
      rcases hfin hfw with hst | hst | hack'
      · exact h.finAcked (.inl hst)
      · exact h.finAcked (.inr hst)
      · exact hack hack'
  · exact h

theorem tcpSegmentArrivesOtherwise_send (env : TcpEnv) (pcb : TcpPcb) (a : TcpArrival)
    (h : SendSeqInv pcb) : SendSeqInv (tcpSegmentArrivesOtherwise env pcb a).1 := by
  rw [tcpSegmentArrivesOtherwise_fst]
  split
  · rename_i hgo
    obtain ⟨hinv, hcont⟩ := tcpSegmentArrivesAck_send env pcb a h hgo.1
    split
    · rename_i hc
      -- the 7th step keeps the send side, so the 8th sees what the 5th left
      obtain ⟨htext, hst⟩ := tcpSegmentArrivesText_send env (tcpSegmentArrivesAck env pcb a).1 a
      apply tcpSegmentArrivesFin_send env _ a (hinv.of_sameSend htext hst)
      rw [htext.sndUna, htext.sndNxt]
      exact hcont hc
    · exact hinv
  · exact h

/--
In SYN-SENT a SYN leaves SYN-RECEIVED or ESTABLISHED with iss and snd.nxt as
they were, and moves snd.una at most to an acknowledgment in (iss, snd.nxt].
-/
theorem tcpSegmentArrivesSynSent_sendSide (env : TcpEnv) (pcb : TcpPcb) (a : TcpArrival) :
    (tcpSegmentArrivesSynSent env pcb a).1 = pcb ∨
      ((tcpSegmentArrivesSynSent env pcb a).1.iss = pcb.iss ∧
        (tcpSegmentArrivesSynSent env pcb a).1.sndNxt = pcb.sndNxt ∧
        ((tcpSegmentArrivesSynSent env pcb a).1.state = .established ∨
          (tcpSegmentArrivesSynSent env pcb a).1.state = .synReceived) ∧
        ((tcpSegmentArrivesSynSent env pcb a).1.sndUna = pcb.sndUna ∨
          (pcb.iss < a.seg.ack ∧ a.seg.ack ≤ pcb.sndNxt ∧
            (tcpSegmentArrivesSynSent env pcb a).1.sndUna = a.seg.ack))) := by
  unfold tcpSegmentArrivesSynSent
  split
  · exact .inl rfl
  · rename_i hnrst
    -- past the RST test an ACK lies above iss
    have hack : tcpFlgIsset a.flags TCP_FLG_ACK = true → pcb.iss < a.seg.ack := by
      intro hackSet
      simp only [hackSet, Bool.true_and, Bool.or_eq_true, decide_eq_true_eq, not_or] at hnrst
      exact UInt32.not_le.mp hnrst.1
    dsimp only
    split
    · refine .inr ?_
      split_ifs with hacc hgt hgt <;> rw [tcpOutput_fst]
      · simp only [Bool.and_eq_true, decide_eq_true_eq] at hacc
        exact ⟨rfl, rfl, .inl rfl, .inr ⟨hack hacc.1, hacc.2.2, rfl⟩⟩
      · simp only [Bool.and_eq_true, decide_eq_true_eq] at hacc
        exact ⟨rfl, rfl, .inr rfl, .inr ⟨hack hacc.1, hacc.2.2, rfl⟩⟩
      · exact ⟨rfl, rfl, .inl rfl, .inl rfl⟩
      · exact ⟨rfl, rfl, .inr rfl, .inl rfl⟩
    · exact .inl rfl

theorem tcpSegmentArrivesSynSent_send (env : TcpEnv) (pcb : TcpPcb) (a : TcpArrival)
    (h : SendSeqInv pcb) (hs : pcb.state = .synSent) :
    SendSeqInv (tcpSegmentArrivesSynSent env pcb a).1 := by
  obtain ⟨hiu, hun, hin⟩ := h.ordered (by rw [hs]; rfl)
  rcases tcpSegmentArrivesSynSent_sendSide env pcb a with h0 | ⟨hiss, hnxt, hst, huna⟩
  · rw [h0]
    exact h
  · apply SendSeqInv.of_ordered
    · rw [hiss]
      rcases huna with huna | ⟨hlt, -, huna⟩ <;> rw [huna]
      · exact hiu
      · exact UInt32.le_of_lt hlt
    · rw [hnxt]
      rcases huna with huna | ⟨-, hle, huna⟩ <;> rw [huna]
      · exact hun
      · exact hle
    · rw [hiss, hnxt]
      exact hin
    · rcases hst with hst | hst <;> rw [hst] <;> exact ⟨by decide, by decide⟩

theorem tcpSegmentArrivesListen_send (env : TcpEnv) (pcb : TcpPcb) (a : TcpArrival)
    (h : SendSeqInv pcb) (hwrap : env.random.toNat + 1 < 2 ^ 32) :
    SendSeqInv (tcpSegmentArrivesListen env pcb a).1 := by
  rw [tcpSegmentArrivesListen_fst]
  split
  · exact SendSeqInv.of_open rfl rfl hwrap (.inr rfl)
  · exact h

theorem tcpSegmentArrivesPcb_send (env : TcpEnv) (pcb : TcpPcb) (a : TcpArrival)
    (h : SendSeqInv pcb) (hwrap : pcb.state = .listen → env.random.toNat + 1 < 2 ^ 32) :
    SendSeqInv (tcpSegmentArrivesPcb env pcb a).1 := by
  rcases tcpSegmentArrivesPcb_cases env pcb a with
    ⟨-, h0⟩ | ⟨hl, h0⟩ | ⟨hs, h0⟩ | ⟨-, -, -, h0⟩ <;> rw [h0]
  · exact h
  · exact tcpSegmentArrivesListen_send env pcb a h (hwrap hl)
  · exact tcpSegmentArrivesSynSent_send env pcb a h hs
  · exact tcpSegmentArrivesOtherwise_send env pcb a h

/-!
### Every event
-/

/-- Every event keeps the send side ordered, given that it does not carry snd.nxt past 2^32. -/
theorem SendSeqInv.step (ev : TcpEnv × TcpEvent) {pcb : TcpPcb} (h : SendSeqInv pcb)
    (hwrap : TcpEvent.NoSendWrap pcb ev) : SendSeqInv (tcpStep ev pcb).1 := by
  obtain ⟨env, e⟩ := ev
  cases e with
  | openActive localEp foreign =>
      by_cases hfree : pcb.state = .free
      · rw [tcpStep_openActive_of_free env localEp foreign pcb hfree]
        rcases tcpOpenRfc793Active_fst env pcb.alloc localEp foreign with h0 | ⟨q, h0⟩ <;>
          rw [h0]
        · exact .of_not_sending rfl
        · exact .of_open rfl rfl hwrap (.inl rfl)
      · rw [tcpStep_openActive_of_ne_free env localEp foreign pcb hfree]
        exact h
  | openPassive localEp foreign =>
      by_cases hfree : pcb.state = .free
      · rw [tcpStep_openPassive_of_free env localEp foreign pcb hfree]
        exact .of_not_sending (by rw [tcpOpenRfc793Passive_state]; rfl)
      · rw [tcpStep_openPassive_of_ne_free env localEp foreign pcb hfree]
        exact h
  | openWake recorded =>
      rw [tcpStep_openWake]
      rcases tcpOpenRfc793Wake_fst pcb recorded with h0 | h0 <;> rw [h0]
      · exact h
      · exact .of_not_sending rfl
  | openInterrupted => exact .of_not_sending rfl
  | close =>
      rw [tcpStep_close]
      rcases tcpClose_fst env pcb with h0 | ⟨q, next, hnext, h0⟩ <;> rw [h0]
      · exact h
      · -- our FIN takes snd.nxt one further, from ESTABLISHED or CLOSE-WAIT
        have hs : pcb.state.sending = true := by
          rcases hnext with ⟨hst, -⟩ | ⟨hst, -⟩ <;> rw [hst] <;> rfl
        have hlt := seq_lt_add_one (show pcb.sndNxt.toNat + 1 < 2 ^ 32 from hwrap)
        refine h.advance hs rfl rfl (UInt32.le_of_lt hlt) ?_
        rcases hnext with ⟨-, rfl⟩ | ⟨-, rfl⟩ <;> exact ⟨by simp, by simp⟩
  | send mtu rest =>
      rw [tcpStep_send]
      rcases tcpSendPass_fst env pcb mtu rest with h0 | h0 | ⟨q, slen, hslen, hst, h0⟩ <;>
        rw [h0]
      · exact .of_not_sending rfl
      · exact h
      · -- the segment takes snd.nxt over its bytes, in ESTABLISHED or CLOSE-WAIT
        have hs : pcb.state.sending = true := by
          rcases hst with hst | hst <;> rw [hst] <;> rfl
        have hw : pcb.sndNxt.toNat + rest.length < 2 ^ 32 := hwrap
        have hle := seq_le_add_ofNat (show pcb.sndNxt.toNat + slen < 2 ^ 32 by omega)
        refine h.advance hs rfl rfl hle ?_
        rcases hst with hst | hst <;> simp [hst]
  | receive size =>
      rw [tcpStep_receive]
      obtain ⟨buf, wnd, h0⟩ := tcpReceive_fst pcb size
      rw [h0]
      exact h.of_sameSend ⟨rfl, rfl, rfl⟩ rfl
  | arrive a =>
      rw [tcpStep_arrive]
      exact tcpSegmentArrivesPcb_send env pcb a h hwrap
  | timer =>
      rw [tcpStep_timer]
      obtain ⟨st, q, hst, h0⟩ := tcpTimerPcb_fst env pcb
      rw [h0]
      rcases hst with rfl | rfl
      · exact h.of_sameSend ⟨rfl, rfl, rfl⟩ rfl
      · exact .of_not_sending rfl

/-- The send side stays ordered over a connection run that does not wrap snd.nxt. -/
theorem SendSeqInv.run (evs : List (TcpEnv × TcpEvent))
    (hrun : TcpConnectionRun TcpEvent.NoSendWrap evs) : SendSeqInv (tcpRun evs).1 :=
  TcpConnectionRun.invariant (fun pcb _ _ => SendSeqInv pcb) (.of_not_sending rfl)
    (fun ev hP => SendSeqInv.step ev (.of_not_sending rfl) hP)
    (fun _ ev _ _ hI _ hP => SendSeqInv.step ev hI hP) evs hrun

/-!
### Runs of a connection
-/

/--
Over a connection run that never carries snd.nxt past 2^32, the last event
moves the state along the diagram or aborts it; from SYN-SENT on, snd.una
lies in [iss, snd.nxt] with our SYN counted in snd.nxt; and FIN-WAIT-2 and
TIME-WAIT have everything acknowledged.
-/
theorem tcp_state_sequence_consistency (evs : List (TcpEnv × TcpEvent)) (ev : TcpEnv × TcpEvent)
    (hrun : TcpConnectionRun TcpEvent.NoSendWrap (evs ++ [ev])) :
    (tcpRun evs).1.state.Moves (tcpRun (evs ++ [ev])).1.state ∧
      ((tcpRun (evs ++ [ev])).1.state.sending = true →
        (tcpRun (evs ++ [ev])).1.iss ≤ (tcpRun (evs ++ [ev])).1.sndUna ∧
        (tcpRun (evs ++ [ev])).1.sndUna ≤ (tcpRun (evs ++ [ev])).1.sndNxt ∧
        (tcpRun (evs ++ [ev])).1.iss < (tcpRun (evs ++ [ev])).1.sndNxt) ∧
      ((tcpRun (evs ++ [ev])).1.state = .finWait2 ∨ (tcpRun (evs ++ [ev])).1.state = .timeWait →
        (tcpRun (evs ++ [ev])).1.sndUna = (tcpRun (evs ++ [ev])).1.sndNxt) := by
  have hinv := SendSeqInv.run (evs ++ [ev]) hrun
  refine ⟨?_, hinv.ordered, hinv.finAcked⟩
  rw [tcpRun_append_singleton]
  exact tcpStep_moves ev (tcpRun evs).1

/-- After the handshake the user closes, and the peer acknowledges our FIN: FIN-WAIT-2 with nothing outstanding. -/
theorem tcp_state_sequence_consistency_close :
    TcpConnectionRun TcpEvent.NoSendWrap
        ((tcpRunHandshake ++ [(tcpEnvFixed, .close)]) ++
          [(tcpEnvFixed, .arrive (peerSegment 1001 102 TCP_FLG_ACK []))]) ∧
      (tcpRun (tcpRunHandshake ++ [(tcpEnvFixed, .close)])).1.state = .finWait1 ∧
      (tcpRun ((tcpRunHandshake ++ [(tcpEnvFixed, .close)]) ++
          [(tcpEnvFixed, .arrive (peerSegment 1001 102 TCP_FLG_ACK []))])).1.state = .finWait2 ∧
      (tcpRun ((tcpRunHandshake ++ [(tcpEnvFixed, .close)]) ++
          [(tcpEnvFixed, .arrive (peerSegment 1001 102 TCP_FLG_ACK []))])).1.sndUna =
        (tcpRun ((tcpRunHandshake ++ [(tcpEnvFixed, .close)]) ++
          [(tcpEnvFixed, .arrive (peerSegment 1001 102 TCP_FLG_ACK []))])).1.sndNxt := by
  have hrun : TcpConnectionRun TcpEvent.NoSendWrap
      ((tcpRunHandshake ++ [(tcpEnvFixed, TcpEvent.close)]) ++
        [(tcpEnvFixed, TcpEvent.arrive (peerSegment 1001 102 TCP_FLG_ACK []))]) := by
    decide
  have hst : (tcpRun ((tcpRunHandshake ++ [(tcpEnvFixed, TcpEvent.close)]) ++
      [(tcpEnvFixed, TcpEvent.arrive (peerSegment 1001 102 TCP_FLG_ACK []))])).1.state = .finWait2 := by
    decide
  exact ⟨hrun, by decide, hst, (tcp_state_sequence_consistency _ _ hrun).2.2 (.inl hst)⟩

/-- A passive open, the peer's SYN at 1000, and an ACK of our iss 100 that acknowledges nothing. -/
def tcpRunAckOfIss : List (TcpEnv × TcpEvent) :=
  [(tcpEnvFixed, .openPassive ⟨0x0a000001, 7⟩ none),
   (tcpEnvFixed, .arrive (peerSegment 1000 0 TCP_FLG_SYN [])),
   (tcpEnvFixed, .arrive (peerSegment 1001 100 TCP_FLG_ACK []))]

/--
SYN-RECEIVED takes snd.una ≤ seg.ack ≤ snd.nxt as RFC 793 writes it, so
the ACK of snd.una = iss completes the handshake with our SYN unacknowledged.
-/
theorem tcp_state_sequence_unacked_syn :
    TcpConnectionRun TcpEvent.NoSendWrap tcpRunAckOfIss ∧
      (tcpRun tcpRunAckOfIss).1.state = .established ∧
      (tcpRun tcpRunAckOfIss).1.sndUna = (tcpRun tcpRunAckOfIss).1.iss := by
  decide

/-- A passive open drawing iss 2^32 - 2, the handshake, the user's close and the peer's ACK of its FIN. -/
def tcpRunFinWrap : List (TcpEnv × TcpEvent) :=
  [(tcpEnvFixed, .openPassive ⟨0x0a000001, 7⟩ none),
   ({ tcpEnvFixed with random := 4294967294 }, .arrive (peerSegment 1000 0 TCP_FLG_SYN [])),
   (tcpEnvFixed, .arrive (peerSegment 1001 4294967295 TCP_FLG_ACK [])),
   (tcpEnvFixed, .close),
   (tcpEnvFixed, .arrive (peerSegment 1001 0 TCP_FLG_ACK []))]

/--
The FIN carries snd.nxt from 2^32 - 1 to 0.  Its ACK lies below snd.una as
an unsigned integer, so snd.una stays; FIN-WAIT-1 compares seg.ack with
snd.nxt alone and moves to FIN-WAIT-2 with the FIN unacknowledged.
-/
theorem tcp_state_sequence_fin_wrap :
    TcpConnectionRun (fun _ _ => True) tcpRunFinWrap ∧
      ¬TcpConnectionRun TcpEvent.NoSendWrap tcpRunFinWrap ∧
      (tcpRun tcpRunFinWrap).1.state = .finWait2 ∧
      (tcpRun tcpRunFinWrap).1.sndUna = 4294967295 ∧ (tcpRun tcpRunFinWrap).1.sndNxt = 0 := by
  decide

/-!
## Moving the sequence spaces
-/

/-- The pcb with our sequence space moved by {lit}`c1` and the peer's by {lit}`c2`. -/
def TcpPcb.shiftSeq (c1 c2 : UInt32) (pcb : TcpPcb) : TcpPcb :=
  { pcb with
    iss := pcb.iss + c1, sndUna := pcb.sndUna + c1, sndNxt := pcb.sndNxt + c1,
    sndWl2 := pcb.sndWl2 + c1, queue := pcb.queue.map fun e => { e with seq := e.seq + c1 },
    irs := pcb.irs + c2, rcvNxt := pcb.rcvNxt + c2, sndWl1 := pcb.sndWl1 + c2 }

/-- The segment with its acknowledgment moved by {lit}`c1` and its sequence number by {lit}`c2`. -/
def TcpArrival.shiftSeq (c1 c2 : UInt32) (a : TcpArrival) : TcpArrival :=
  { a with seg := { a.seg with seq := a.seg.seq + c2, ack := a.seg.ack + c1 } }

/-- A passive open and the peer's handshake from its initial sequence number {lit}`isn`. -/
def tcpRunHandshakeFrom (isn : UInt32) : List (TcpEnv × TcpEvent) :=
  [(tcpEnvFixed, .openPassive ⟨0x0a000001, 7⟩ none),
   (tcpEnvFixed, .arrive (peerSegment isn 0 TCP_FLG_SYN [])),
   (tcpEnvFixed, .arrive (peerSegment (isn + 1) 101 TCP_FLG_ACK []))]

/--
In SYN-RECEIVED after the peer's SYN at 1000 the ACK at 1001 is acceptable
and completes the handshake.  Moved by 2^32 - 1296 in the peer's space,
rcv.nxt + rcv.wnd wraps, the same ACK is not acceptable, and a peer whose
initial sequence number is 4294967000 never gets the connection past
SYN-RECEIVED.
-/
theorem tcp_seq_shift_acceptance :
    tcpSegmentAcceptable (tcpRun ((tcpRunHandshakeFrom 1000).take 2)).1
        (peerSegment 1001 101 TCP_FLG_ACK []).seg = true ∧
      tcpSegmentAcceptable ((tcpRun ((tcpRunHandshakeFrom 1000).take 2)).1.shiftSeq 0 4294966000)
        ((peerSegment 1001 101 TCP_FLG_ACK []).shiftSeq 0 4294966000).seg = false ∧
      (tcpSegmentArrivesPcb tcpEnvFixed (tcpRun ((tcpRunHandshakeFrom 1000).take 2)).1
        (peerSegment 1001 101 TCP_FLG_ACK [])).1.state = .established ∧
      (tcpSegmentArrivesPcb tcpEnvFixed
        ((tcpRun ((tcpRunHandshakeFrom 1000).take 2)).1.shiftSeq 0 4294966000)
        ((peerSegment 1001 101 TCP_FLG_ACK []).shiftSeq 0 4294966000)).1.state = .synReceived ∧
      (tcpRun (tcpRunHandshakeFrom 4294967000)).1.state = .synReceived := by
  decide

end ProtocolStack
