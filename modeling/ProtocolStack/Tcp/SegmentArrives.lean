import Mathlib
import ProtocolStack.Tcp.Output

/-!
# Segment arrival

{lit}`tcp_segment_arrives`, the event processing of RFC 793 section 3.9 as
{lit}`tcp.c` implements it.  The function is cut along the source's own
comments: the reply when no usable pcb is selected, the LISTEN and SYN-SENT
cases, and for the other states the acceptability test (1st check), the ACK
field (5th check), the segment text (7th) and the FIN bit (8th).  Each phase
is a definition of its own; {lit}`tcpSegmentArrivesPcb` composes them for the
selected pcb and {lit}`tcpSegmentArrives` runs the selection over the table.
-/

namespace ProtocolStack

/-- The arguments {lit}`tcp_input` passes to {lit}`tcp_segment_arrives`. -/
structure TcpArrival where
  seg : TcpSegmentInfo
  flags : UInt8
  data : List UInt8
  localEp : IpEndpoint
  foreign : IpEndpoint
  deriving DecidableEq, Repr

/-- A segment without payload, as the RST replies of {lit}`tcp_segment_arrives` send it. -/
def tcpControlSegment (seq ack : UInt32) (flg : UInt8) (localEp foreign : IpEndpoint) :
    TcpSegmentOut :=
  { seq := seq, ack := ack, flg := flg, wnd := 0, data := [], localEp := localEp,
    foreign := foreign }

/-- {lit}`memcpy(buf + off, data, len)`. -/
def memcpyAt (buf : Nat → UInt8) (off : Nat) (data : List UInt8) : Nat → UInt8 :=
  fun i => if off ≤ i ∧ i < off + data.length then data.getD (i - off) 0 else buf i

/-- The reply when no pcb, or a CLOSED one, is selected. -/
def tcpSegmentArrivesClosed (a : TcpArrival) : List TcpSegmentOut :=
  if tcpFlgIsset a.flags TCP_FLG_RST then []
  else if !tcpFlgIsset a.flags TCP_FLG_ACK then
    [tcpControlSegment 0 (a.seg.seq + a.seg.len.toUInt32) (TCP_FLG_RST ||| TCP_FLG_ACK)
      a.localEp a.foreign]
  else [tcpControlSegment a.seg.ack 0 TCP_FLG_RST a.localEp a.foreign]

def tcpSegmentArrivesListen (env : TcpEnv) (pcb : TcpPcb) (a : TcpArrival) :
    TcpPcb × List TcpSegmentOut :=
  if tcpFlgIsset a.flags TCP_FLG_RST then (pcb, [])
  else if tcpFlgIsset a.flags TCP_FLG_ACK then
    (pcb, [tcpControlSegment a.seg.ack 0 TCP_FLG_RST a.localEp a.foreign])
  else if tcpFlgIsset a.flags TCP_FLG_SYN then
    let pcb1 :=
      { pcb with
        localEp := a.localEp, foreign := a.foreign, rcvWnd := 65535,
        rcvNxt := a.seg.seq + 1, irs := a.seg.seq, iss := env.random }
    match tcpOutput env pcb1 (TCP_FLG_SYN ||| TCP_FLG_ACK) [] with
    | (pcb2, s, _) =>
        ({ pcb2 with sndNxt := pcb2.iss + 1, sndUna := pcb2.iss, state := .synReceived },
          [s])
  else (pcb, [])

def tcpSegmentArrivesSynSent (env : TcpEnv) (pcb : TcpPcb) (a : TcpArrival) :
    TcpPcb × List TcpSegmentOut :=
  if tcpFlgIsset a.flags TCP_FLG_ACK &&
      (a.seg.ack <= pcb.iss || a.seg.ack > pcb.sndNxt) then
    (pcb, [tcpControlSegment a.seg.ack 0 TCP_FLG_RST a.localEp a.foreign])
  else
    let acceptable :=
      tcpFlgIsset a.flags TCP_FLG_ACK && (pcb.sndUna <= a.seg.ack && a.seg.ack <= pcb.sndNxt)
    if tcpFlgIsset a.flags TCP_FLG_SYN then
      let pcb1 := { pcb with rcvNxt := a.seg.seq + 1, irs := a.seg.seq }
      let pcb2 :=
        if acceptable then tcpRetransmitQueueCleanup { pcb1 with sndUna := a.seg.ack }
        else pcb1
      if pcb2.sndUna > pcb2.iss then
        match tcpOutput env { pcb2 with state := .established } TCP_FLG_ACK [] with
        | (pcb3, s, _) =>
            ({ pcb3 with sndWnd := a.seg.wnd, sndWl1 := a.seg.seq, sndWl2 := a.seg.ack }, [s])
      else
        match tcpOutput env { pcb2 with state := .synReceived } (TCP_FLG_SYN ||| TCP_FLG_ACK) [] with
        | (pcb3, s, _) => (pcb3, [s])
    else (pcb, [])

/-- The receive-window test of the 1st check, for the states that apply it. -/
def tcpSegmentAcceptable (pcb : TcpPcb) (seg : TcpSegmentInfo) : Bool :=
  match pcb.state with
  | .synReceived | .established | .finWait1 | .finWait2 | .closeWait | .lastAck =>
      if seg.len = 0 then
        if pcb.rcvWnd = 0 then seg.seq == pcb.rcvNxt
        else pcb.rcvNxt <= seg.seq && seg.seq < pcb.rcvNxt + pcb.rcvWnd.toUInt32
      else if pcb.rcvWnd = 0 then false
      else
        (pcb.rcvNxt <= seg.seq && seg.seq < pcb.rcvNxt + pcb.rcvWnd.toUInt32) ||
          (pcb.rcvNxt <= seg.seq + seg.len.toUInt32 - 1 &&
            seg.seq + seg.len.toUInt32 - 1 < pcb.rcvNxt + pcb.rcvWnd.toUInt32)
  | _ => false

/-- The state change at the end of the 5th check: FIN-WAIT-1 sees its FIN acknowledged. -/
def tcpSegmentArrivesAckState (pcb : TcpPcb) (seg : TcpSegmentInfo) : TcpPcb :=
  match pcb.state with
  | .finWait1 => if seg.ack == pcb.sndNxt then { pcb with state := .finWait2 } else pcb
  | _ => pcb

/-- The window update of the 5th check. -/
def tcpSegmentArrivesWindowUpdate (pcb : TcpPcb) (seg : TcpSegmentInfo) : TcpPcb :=
  if pcb.sndWl1 < seg.seq || (pcb.sndWl1 == seg.seq && pcb.sndWl2 <= seg.ack) then
    { pcb with sndWnd := seg.wnd, sndWl1 := seg.seq, sndWl2 := seg.ack }
  else pcb

/--
The 5th check in ESTABLISHED, FIN-WAIT-1, FIN-WAIT-2 and CLOSE-WAIT: the pcb,
the segments sent, and whether processing goes on.
-/
def tcpSegmentArrivesAckEstablished (env : TcpEnv) (pcb : TcpPcb) (seg : TcpSegmentInfo) :
    TcpPcb × List TcpSegmentOut × Bool :=
  if pcb.sndUna < seg.ack && seg.ack <= pcb.sndNxt then
    let pcb1 := tcpRetransmitQueueCleanup { pcb with sndUna := seg.ack }
    (tcpSegmentArrivesAckState (tcpSegmentArrivesWindowUpdate pcb1 seg) seg, [], true)
  else if seg.ack < pcb.sndUna then (tcpSegmentArrivesAckState pcb seg, [], true)
  else if seg.ack > pcb.sndNxt then
    match tcpOutput env pcb TCP_FLG_ACK [] with
    | (pcb1, s, _) => (pcb1, [s], false)
  else (tcpSegmentArrivesAckState pcb seg, [], true)

/-- The 5th check, for an acceptable segment carrying ACK. -/
def tcpSegmentArrivesAck (env : TcpEnv) (pcb : TcpPcb) (a : TcpArrival) :
    TcpPcb × List TcpSegmentOut × Bool :=
  match pcb.state with
  | .synReceived =>
      if pcb.sndUna <= a.seg.ack && a.seg.ack <= pcb.sndNxt then
        tcpSegmentArrivesAckEstablished env { pcb with state := .established } a.seg
      else (pcb, [tcpControlSegment a.seg.ack 0 TCP_FLG_RST a.localEp a.foreign], false)
  | .established | .finWait1 | .finWait2 | .closeWait =>
      tcpSegmentArrivesAckEstablished env pcb a.seg
  | .lastAck =>
      if a.seg.ack == pcb.sndNxt then (tcpPcbRelease { pcb with state := .closed }, [], false)
      else (pcb, [], false)
  | _ => (pcb, [], true)

/-- The 7th step: append the payload to the receive buffer. -/
def tcpSegmentArrivesText (env : TcpEnv) (pcb : TcpPcb) (a : TcpArrival) :
    TcpPcb × List TcpSegmentOut :=
  match pcb.state with
  | .established | .finWait1 | .finWait2 =>
      if a.data.length != 0 then
        let pcb1 :=
          { pcb with
            buf := memcpyAt pcb.buf (TCP_BUF_SIZE - pcb.rcvWnd.toNat) a.data,
            rcvNxt := a.seg.seq + a.seg.len.toUInt32,
            rcvWnd := pcb.rcvWnd - UInt16.ofNat a.data.length }
        match tcpOutput env pcb1 TCP_FLG_ACK [] with
        | (pcb2, s, _) => (pcb2, [s])
      else (pcb, [])
  | _ => (pcb, [])

/-- The state change of the 8th step. -/
def tcpSegmentArrivesFinState (pcb : TcpPcb) (seg : TcpSegmentInfo) : TcpPcb :=
  match pcb.state with
  | .synReceived | .established => { pcb with state := .closeWait }
  | .finWait1 =>
      if seg.ack == pcb.sndNxt then { pcb with state := .timeWait }
      else { pcb with state := .closing }
  | .finWait2 => { pcb with state := .timeWait }
  | _ => pcb

/-- The 8th step: the FIN bit. -/
def tcpSegmentArrivesFin (env : TcpEnv) (pcb : TcpPcb) (a : TcpArrival) :
    TcpPcb × List TcpSegmentOut :=
  if tcpFlgIsset a.flags TCP_FLG_FIN then
    match pcb.state with
    | .closed | .listen => (pcb, [])
    | _ =>
        match tcpOutput env { pcb with rcvNxt := a.seg.seq + 1 } TCP_FLG_ACK [] with
        | (pcb1, s, _) => (tcpSegmentArrivesFinState pcb1 a.seg, [s])
  else (pcb, [])

/-- The processing of the states other than CLOSED, LISTEN and SYN-SENT. -/
def tcpSegmentArrivesOtherwise (env : TcpEnv) (pcb : TcpPcb) (a : TcpArrival) :
    TcpPcb × List TcpSegmentOut :=
  if !tcpSegmentAcceptable pcb a.seg then
    if tcpFlgIsset a.flags TCP_FLG_RST then (pcb, [])
    else
      match tcpOutput env pcb TCP_FLG_ACK [] with
      | (pcb1, s, _) => (pcb1, [s])
  else if !tcpFlgIsset a.flags TCP_FLG_ACK then (pcb, [])
  else
    match tcpSegmentArrivesAck env pcb a with
    | (pcb1, out1, false) => (pcb1, out1)
    | (pcb1, out1, true) =>
        match tcpSegmentArrivesText env pcb1 a with
        | (pcb2, out2) =>
            match tcpSegmentArrivesFin env pcb2 a with
            | (pcb3, out3) => (pcb3, out1 ++ out2 ++ out3)

/-!
## What each phase does

One lemma per phase, so that the invariants of the claims never unfold the
phases again.  {lit}`TcpPcb.SameRecv` collects the fields of the receive
side; the 5th check changes none of them and moves only SYN-RECEIVED to
ESTABLISHED and FIN-WAIT-1 to FIN-WAIT-2.
-/

/-- {lit}`q` has the receive side of {lit}`p`: rcv.nxt, rcv.wnd, irs and the buffer. -/
structure TcpPcb.SameRecv (p q : TcpPcb) : Prop where
  rcvNxt : q.rcvNxt = p.rcvNxt
  rcvWnd : q.rcvWnd = p.rcvWnd
  irs : q.irs = p.irs
  buf : q.buf = p.buf

theorem TcpPcb.SameRecv.refl (p : TcpPcb) : p.SameRecv p :=
  ⟨rfl, rfl, rfl, rfl⟩

theorem TcpPcb.SameRecv.trans {p q r : TcpPcb} (h : p.SameRecv q) (h' : q.SameRecv r) :
    p.SameRecv r :=
  ⟨h'.rcvNxt.trans h.rcvNxt, h'.rcvWnd.trans h.rcvWnd, h'.irs.trans h.irs, h'.buf.trans h.buf⟩

theorem tcpOutput_sameRecv (env : TcpEnv) (pcb : TcpPcb) (flg : UInt8) (data : List UInt8) :
    pcb.SameRecv (tcpOutput env pcb flg data).1 := by
  rw [tcpOutput_fst]
  exact ⟨rfl, rfl, rfl, rfl⟩

/-- The state changes of the 5th check. -/
def TcpState.AckStep (st st' : TcpState) : Prop :=
  st' = st ∨ (st = .synReceived ∧ st' = .established) ∨ (st = .finWait1 ∧ st' = .finWait2)

theorem tcpSegmentArrivesAckState_eq (pcb : TcpPcb) (seg : TcpSegmentInfo) :
    tcpSegmentArrivesAckState pcb seg = pcb ∨
      (pcb.state = .finWait1 ∧
        tcpSegmentArrivesAckState pcb seg = { pcb with state := .finWait2 }) := by
  unfold tcpSegmentArrivesAckState
  split
  · rename_i hst
    split
    · exact .inr ⟨hst, rfl⟩
    · exact .inl rfl
  · exact .inl rfl

theorem tcpSegmentArrivesAckEstablished_recv (env : TcpEnv) (pcb : TcpPcb)
    (seg : TcpSegmentInfo) :
    pcb.SameRecv (tcpSegmentArrivesAckEstablished env pcb seg).1 ∧
      pcb.state.AckStep (tcpSegmentArrivesAckEstablished env pcb seg).1.state := by
  have hackState : ∀ q : TcpPcb, pcb.SameRecv q → q.state = pcb.state →
      pcb.SameRecv (tcpSegmentArrivesAckState q seg) ∧
        pcb.state.AckStep (tcpSegmentArrivesAckState q seg).state := by
    intro q hq hst
    rcases tcpSegmentArrivesAckState_eq q seg with h | ⟨hfw, h⟩
    · rw [h, hst]
      exact ⟨hq, .inl rfl⟩
    · rw [h]
      exact ⟨⟨hq.1, hq.2, hq.3, hq.4⟩, .inr (.inr ⟨hst ▸ hfw, rfl⟩)⟩
  unfold tcpSegmentArrivesAckEstablished
  split
  · apply hackState
    · unfold tcpSegmentArrivesWindowUpdate tcpRetransmitQueueCleanup
      split <;> exact ⟨rfl, rfl, rfl, rfl⟩
    · unfold tcpSegmentArrivesWindowUpdate tcpRetransmitQueueCleanup
      split <;> rfl
  · split
    · exact hackState pcb (TcpPcb.SameRecv.refl pcb) rfl
    · split
      · refine ⟨tcpOutput_sameRecv env pcb TCP_FLG_ACK [], .inl ?_⟩
        show (tcpOutput env pcb TCP_FLG_ACK []).1.state = pcb.state
        rw [tcpOutput_ack_fst]
      · exact hackState pcb (TcpPcb.SameRecv.refl pcb) rfl

/--
The 5th check keeps the receive side and changes the state along an
{lit}`AckStep`, unless LAST-ACK sees its FIN acknowledged and releases the pcb.
-/
theorem tcpSegmentArrivesAck_recv (env : TcpEnv) (pcb : TcpPcb) (a : TcpArrival) :
    ((tcpSegmentArrivesAck env pcb a).2.2 = false ∧
        (tcpSegmentArrivesAck env pcb a).1 = TcpPcb.zero) ∨
      (pcb.SameRecv (tcpSegmentArrivesAck env pcb a).1 ∧
        pcb.state.AckStep (tcpSegmentArrivesAck env pcb a).1.state) := by
  unfold tcpSegmentArrivesAck
  split
  · rename_i hst
    split
    · obtain ⟨hrecv, hstep⟩ :=
        tcpSegmentArrivesAckEstablished_recv env { pcb with state := .established } a.seg
      refine .inr ⟨⟨hrecv.1, hrecv.2, hrecv.3, hrecv.4⟩, ?_⟩
      rcases hstep with h | ⟨h, -⟩ | ⟨h, -⟩
      · exact .inr (.inl ⟨hst, h⟩)
      · cases h
      · cases h
    · exact .inr ⟨TcpPcb.SameRecv.refl pcb, .inl rfl⟩
  · exact .inr (tcpSegmentArrivesAckEstablished_recv env pcb a.seg)
  · exact .inr (tcpSegmentArrivesAckEstablished_recv env pcb a.seg)
  · exact .inr (tcpSegmentArrivesAckEstablished_recv env pcb a.seg)
  · exact .inr (tcpSegmentArrivesAckEstablished_recv env pcb a.seg)
  · split
    · exact .inl ⟨rfl, rfl⟩
    · exact .inr ⟨TcpPcb.SameRecv.refl pcb, .inl rfl⟩
  · exact .inr ⟨TcpPcb.SameRecv.refl pcb, .inl rfl⟩

/-- The states in which the 7th step copies the segment text. -/
def TcpState.processesText : TcpState → Bool
  | .established | .finWait1 | .finWait2 => true
  | _ => false

theorem tcpSegmentArrivesText_fst (env : TcpEnv) (pcb : TcpPcb) (a : TcpArrival) :
    (tcpSegmentArrivesText env pcb a).1 =
      if pcb.state.processesText ∧ a.data ≠ [] then
        { pcb with
          buf := memcpyAt pcb.buf (TCP_BUF_SIZE - pcb.rcvWnd.toNat) a.data,
          rcvNxt := a.seg.seq + a.seg.len.toUInt32,
          rcvWnd := pcb.rcvWnd - UInt16.ofNat a.data.length }
      else pcb := by
  unfold tcpSegmentArrivesText
  split <;> rename_i hst <;> simp [hst, TcpState.processesText] <;> split <;> simp_all

theorem tcpSegmentArrivesFin_fst (env : TcpEnv) (pcb : TcpPcb) (a : TcpArrival) :
    (tcpSegmentArrivesFin env pcb a).1 =
      if tcpFlgIsset a.flags TCP_FLG_FIN ∧ pcb.state ≠ .closed ∧ pcb.state ≠ .listen then
        tcpSegmentArrivesFinState { pcb with rcvNxt := a.seg.seq + 1 } a.seg
      else pcb := by
  unfold tcpSegmentArrivesFin
  by_cases hfin : tcpFlgIsset a.flags TCP_FLG_FIN = true
  · cases hst : pcb.state <;> simp [hfin]
  · simp [hfin]

/-- The 8th step changes the state only. -/
theorem tcpSegmentArrivesFinState_eq (pcb : TcpPcb) (seg : TcpSegmentInfo) :
    tcpSegmentArrivesFinState pcb seg =
      { pcb with state := (tcpSegmentArrivesFinState pcb seg).state } := by
  unfold tcpSegmentArrivesFinState
  split
  · rfl
  · rfl
  · split <;> rfl
  · rfl
  · rfl

theorem tcpSegmentArrivesFinState_state (pcb : TcpPcb) (seg : TcpSegmentInfo) :
    (tcpSegmentArrivesFinState pcb seg).state = pcb.state ∨
      (tcpSegmentArrivesFinState pcb seg).state = .closeWait ∨
      (tcpSegmentArrivesFinState pcb seg).state = .timeWait ∨
      (tcpSegmentArrivesFinState pcb seg).state = .closing := by
  unfold tcpSegmentArrivesFinState
  split
  · exact .inr (.inl rfl)
  · exact .inr (.inl rfl)
  · split
    · exact .inr (.inr (.inl rfl))
    · exact .inr (.inr (.inr rfl))
  · exact .inr (.inr (.inl rfl))
  · exact .inl rfl

theorem tcpSegmentArrivesOtherwise_fst (env : TcpEnv) (pcb : TcpPcb) (a : TcpArrival) :
    (tcpSegmentArrivesOtherwise env pcb a).1 =
      if tcpSegmentAcceptable pcb a.seg ∧ tcpFlgIsset a.flags TCP_FLG_ACK then
        if (tcpSegmentArrivesAck env pcb a).2.2 then
          (tcpSegmentArrivesFin env
            (tcpSegmentArrivesText env (tcpSegmentArrivesAck env pcb a).1 a).1 a).1
        else (tcpSegmentArrivesAck env pcb a).1
      else pcb := by
  unfold tcpSegmentArrivesOtherwise
  by_cases hacc : tcpSegmentAcceptable pcb a.seg = true
  · by_cases hack : tcpFlgIsset a.flags TCP_FLG_ACK = true
    · obtain ⟨pcb1, out1, cont⟩ := tcpSegmentArrivesAck env pcb a
      cases cont <;> simp [hacc, hack]
    · simp [hacc, hack]
  · have hrej : tcpSegmentAcceptable pcb a.seg = false := by simpa using hacc
    by_cases hrst : tcpFlgIsset a.flags TCP_FLG_RST = true <;> simp [hrej, hrst]

theorem tcpSegmentArrivesListen_fst (env : TcpEnv) (pcb : TcpPcb) (a : TcpArrival) :
    (tcpSegmentArrivesListen env pcb a).1 =
      if tcpFlgIsset a.flags TCP_FLG_RST = false ∧ tcpFlgIsset a.flags TCP_FLG_ACK = false ∧
          tcpFlgIsset a.flags TCP_FLG_SYN = true then
        { pcb with
          localEp := a.localEp, foreign := a.foreign, rcvWnd := 65535,
          rcvNxt := a.seg.seq + 1, irs := a.seg.seq, iss := env.random,
          sndNxt := env.random + 1, sndUna := env.random, state := .synReceived,
          queue := pcb.queue ++
            [{ first := env.now, last := env.now, rto := TCP_DEFAULT_RTO, seq := env.random,
               flg := TCP_FLG_SYN ||| TCP_FLG_ACK, data := [] }] }
      else pcb := by
  have hq : tcpOutputQueues (TCP_FLG_SYN ||| TCP_FLG_ACK) [] = true := by decide
  have hsynAck : tcpFlgIsset (TCP_FLG_SYN ||| TCP_FLG_ACK) TCP_FLG_SYN = true := by decide
  unfold tcpSegmentArrivesListen
  by_cases hrst : tcpFlgIsset a.flags TCP_FLG_RST = true
  · simp [hrst]
  · by_cases hack : tcpFlgIsset a.flags TCP_FLG_ACK = true
    · simp [hrst, hack]
    · by_cases hsyn : tcpFlgIsset a.flags TCP_FLG_SYN = true
      · simp [hrst, hack, hsyn, tcpOutput_fst, hq, tcpOutputSeq, hsynAck]
      · simp [hrst, hack, hsyn]

/-- In SYN-SENT only a SYN changes the receive side: it sets rcv.nxt and irs. -/
theorem tcpSegmentArrivesSynSent_recv (env : TcpEnv) (pcb : TcpPcb) (a : TcpArrival) :
    (tcpSegmentArrivesSynSent env pcb a).1 = pcb ∨
      ((tcpSegmentArrivesSynSent env pcb a).1.rcvNxt = a.seg.seq + 1 ∧
        (tcpSegmentArrivesSynSent env pcb a).1.irs = a.seg.seq ∧
        (tcpSegmentArrivesSynSent env pcb a).1.rcvWnd = pcb.rcvWnd ∧
        (tcpSegmentArrivesSynSent env pcb a).1.buf = pcb.buf ∧
        ((tcpSegmentArrivesSynSent env pcb a).1.state = .established ∨
          (tcpSegmentArrivesSynSent env pcb a).1.state = .synReceived)) := by
  unfold tcpSegmentArrivesSynSent
  split
  · exact .inl rfl
  · dsimp only
    split
    · refine .inr ?_
      split_ifs <;> simp [tcpRetransmitQueueCleanup, tcpOutput_fst]
    · exact .inl rfl

/-- {lit}`tcp_segment_arrives` once {lit}`tcp_pcb_select` has chosen {lit}`pcb`. -/
def tcpSegmentArrivesPcb (env : TcpEnv) (pcb : TcpPcb) (a : TcpArrival) :
    TcpPcb × List TcpSegmentOut :=
  match pcb.state with
  | .closed => (pcb, tcpSegmentArrivesClosed a)
  | .listen => tcpSegmentArrivesListen env pcb a
  | .synSent => tcpSegmentArrivesSynSent env pcb a
  | _ => tcpSegmentArrivesOtherwise env pcb a

theorem tcpSegmentArrivesPcb_closed (env : TcpEnv) (pcb : TcpPcb) (a : TcpArrival)
    (h : pcb.state = .closed) : (tcpSegmentArrivesPcb env pcb a).1 = pcb := by
  simp [tcpSegmentArrivesPcb, h]

theorem tcpSegmentArrivesPcb_listen (env : TcpEnv) (pcb : TcpPcb) (a : TcpArrival)
    (h : pcb.state = .listen) :
    tcpSegmentArrivesPcb env pcb a = tcpSegmentArrivesListen env pcb a := by
  simp [tcpSegmentArrivesPcb, h]

theorem tcpSegmentArrivesPcb_synSent (env : TcpEnv) (pcb : TcpPcb) (a : TcpArrival)
    (h : pcb.state = .synSent) :
    tcpSegmentArrivesPcb env pcb a = tcpSegmentArrivesSynSent env pcb a := by
  simp [tcpSegmentArrivesPcb, h]

theorem tcpSegmentArrivesPcb_otherwise (env : TcpEnv) (pcb : TcpPcb) (a : TcpArrival)
    (hc : pcb.state ≠ .closed) (hl : pcb.state ≠ .listen) (hs : pcb.state ≠ .synSent) :
    tcpSegmentArrivesPcb env pcb a = tcpSegmentArrivesOtherwise env pcb a := by
  unfold tcpSegmentArrivesPcb
  split <;> simp_all

/-- The phase that runs on the selected pcb, by its state. -/
theorem tcpSegmentArrivesPcb_cases (env : TcpEnv) (pcb : TcpPcb) (a : TcpArrival) :
    (pcb.state = .closed ∧ (tcpSegmentArrivesPcb env pcb a).1 = pcb) ∨
      (pcb.state = .listen ∧ tcpSegmentArrivesPcb env pcb a = tcpSegmentArrivesListen env pcb a) ∨
      (pcb.state = .synSent ∧
        tcpSegmentArrivesPcb env pcb a = tcpSegmentArrivesSynSent env pcb a) ∨
      (pcb.state ≠ .closed ∧ pcb.state ≠ .listen ∧ pcb.state ≠ .synSent ∧
        tcpSegmentArrivesPcb env pcb a = tcpSegmentArrivesOtherwise env pcb a) := by
  by_cases hc : pcb.state = .closed
  · exact .inl ⟨hc, tcpSegmentArrivesPcb_closed env pcb a hc⟩
  by_cases hl : pcb.state = .listen
  · exact .inr (.inl ⟨hl, tcpSegmentArrivesPcb_listen env pcb a hl⟩)
  by_cases hs : pcb.state = .synSent
  · exact .inr (.inr (.inl ⟨hs, tcpSegmentArrivesPcb_synSent env pcb a hs⟩))
  exact .inr (.inr (.inr ⟨hc, hl, hs, tcpSegmentArrivesPcb_otherwise env pcb a hc hl hs⟩))

/-- {lit}`tcp_segment_arrives` on the pcb table. -/
def tcpSegmentArrives (env : TcpEnv) (pcbs : List TcpPcb) (a : TcpArrival) :
    List TcpPcb × List TcpSegmentOut :=
  match tcpPcbSelect pcbs a.localEp (some a.foreign) with
  | none => (pcbs, tcpSegmentArrivesClosed a)
  | some i =>
      match pcbs[i]? with
      | none => (pcbs, tcpSegmentArrivesClosed a)
      | some pcb =>
          match tcpSegmentArrivesPcb env pcb a with
          | (pcb', out) => (pcbs.set i pcb', out)

end ProtocolStack
