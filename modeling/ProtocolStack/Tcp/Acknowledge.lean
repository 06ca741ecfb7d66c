import Mathlib
import ProtocolStack.Tcp.ReceiveStream

/-!
# What the connection acknowledges

rcv.nxt is written in four places: the SYN of LISTEN and of SYN-SENT set it
to seg.seq + 1, the copy of the 7th step to seg.seq + seg.len, and the FIN
of the 8th step to seg.seq + 1 again.  Against a peer that sends its stream
in order, within the window and with one bare FIN, rcv.nxt counts irs, the
peer's SYN, every byte copied into the buffer and the peer's FIN, and every
segment that {lit}`tcp_output` or a retransmission sends acknowledges it.

The two halves are the invariant {lit}`RecvFinInv` beside
{lit}`RecvSeqInv` of the stream, and {lit}`tcpStep_acks`: each phase
acknowledges the rcv.nxt it leaves, one lemma a phase.
-/

namespace ProtocolStack

/-- The states after the peer's FIN is in: CLOSE-WAIT, LAST-ACK, CLOSING and TIME-WAIT. -/
def TcpState.afterFin : TcpState → Bool
  | .closeWait | .lastAck | .closing | .timeWait => true
  | _ => false

/-- The states after the peer's SYN is in. -/
def TcpState.synchronized (st : TcpState) : Bool :=
  st.beforeFin || st.afterFin

theorem TcpState.afterFin_of_beforeFin {st : TcpState} (h : st.beforeFin = true) :
    st.afterFin = false := by
  cases st <;> simp_all [TcpState.beforeFin, TcpState.afterFin]

theorem TcpState.afterFin_of_processesText {st : TcpState} (h : st.processesText = true) :
    st.afterFin = false := by
  cases st <;> simp_all [TcpState.processesText, TcpState.afterFin]

theorem TcpState.AckStep.afterFin {st st' : TcpState} (h : st.AckStep st')
    (hb : st'.afterFin = true) : st.afterFin = true := by
  rcases h with rfl | ⟨-, rfl⟩ | ⟨-, rfl⟩
  · exact hb
  all_goals simp [TcpState.afterFin] at hb

theorem TcpState.CommandStep.afterFin {st st' : TcpState} (h : st.CommandStep st')
    (hb : st'.afterFin = true) : st.afterFin = true := by
  rcases h with rfl | rfl | ⟨rfl, rfl⟩ | ⟨rfl, rfl⟩
  · exact hb
  all_goals simp [TcpState.afterFin] at hb ⊢

/-- Only the states from SYN-RECEIVED to LAST-ACK apply the receive-window test. -/
theorem tcpSegmentAcceptable_state {pcb : TcpPcb} {seg : TcpSegmentInfo}
    (h : tcpSegmentAcceptable pcb seg = true) :
    pcb.state.beforeFin = true ∨ pcb.state.afterFin = true := by
  unfold tcpSegmentAcceptable at h
  cases hst : pcb.state <;> rw [hst] at h
  -- the six states that test the window lie on either side of the peer's FIN; the rest reject
  all_goals first
    | exact .inl rfl
    | exact .inr rfl
    | exact absurd h Bool.false_ne_true

@[simp] theorem tcpSegmentArrivesFinState_rcvNxt (pcb : TcpPcb) (seg : TcpSegmentInfo) :
    (tcpSegmentArrivesFinState pcb seg).rcvNxt = pcb.rcvNxt := by
  rw [tcpSegmentArrivesFinState_eq]

@[simp] theorem tcpSegmentArrivesFinState_irs (pcb : TcpPcb) (seg : TcpSegmentInfo) :
    (tcpSegmentArrivesFinState pcb seg).irs = pcb.irs := by
  rw [tcpSegmentArrivesFinState_eq]

/-!
## The peer
-/

/-- An acceptable FIN comes bare and once: it carries no payload and does not follow the peer's FIN. -/
def TcpArrival.FinAlone (pcb : TcpPcb) (a : TcpArrival) : Prop :=
  tcpSegmentAcceptable pcb a.seg = true → tcpFlgIsset a.flags TCP_FLG_FIN = true →
    a.data = [] ∧ pcb.state.afterFin = false

instance (pcb : TcpPcb) (a : TcpArrival) : Decidable (a.FinAlone pcb) :=
  inferInstanceAs (Decidable (_ → _ → _))

/-- A segment from the peer of the acknowledgment claim: well formed, idealized, with a bare FIN. -/
def TcpArrival.IdealWithFin (pcb : TcpPcb) (a : TcpArrival) : Prop :=
  a.LenConsistent ∧ a.Idealized pcb ∧ a.FinAlone pcb

instance (pcb : TcpPcb) (a : TcpArrival) : Decidable (a.IdealWithFin pcb) :=
  inferInstanceAs (Decidable (_ ∧ _ ∧ _))

/-!
## rcv.nxt after the peer's FIN
-/

/-- rcv.nxt counts the peer's FIN once it is in. -/
def RecvFinInv (pcb : TcpPcb) (copied : List UInt8) : Prop :=
  pcb.state.afterFin = true → pcb.rcvNxt = pcb.irs + 1 + UInt32.ofNat copied.length + 1

theorem RecvFinInv.of_not_afterFin {q : TcpPcb} {c : List UInt8}
    (h : q.state.afterFin = false) : RecvFinInv q c := by
  intro hb
  rw [h] at hb
  exact Bool.noConfusion hb

theorem RecvFinInv.command {pcb : TcpPcb} {c : List UInt8} (ev : TcpEnv × TcpEvent)
    (h : RecvFinInv pcb c) (hfree : pcb.state ≠ .free) (hev : ev.2.arrival? = none) :
    RecvFinInv (tcpStep ev pcb).1 c := by
  rcases tcpStep_seq_of_arrival_none ev pcb hfree hev with hr | ⟨hnxt, hirs, hst⟩
  · exact RecvFinInv.of_not_afterFin (by rw [hr]; rfl)
  · intro hb
    rw [hnxt, hirs]
    exact h (hst.afterFin hb)

/--
The processing after the 1st check takes in the peer's FIN at most once, and
only from a state before it, where rcv.nxt counts the bytes copied: the FIN
begins at rcv.nxt, and moves it over the FIN alone.
-/
theorem RecvFinInv.otherwise {pcb : TcpPcb} {c : List UInt8} (env : TcpEnv) (a : TcpArrival)
    (hseq : RecvSeqInv pcb c) (h : RecvFinInv pcb c) (hc : pcb.state ≠ .closed)
    (hl : pcb.state ≠ .listen) (hs : pcb.state ≠ .synSent) (hid : a.Idealized pcb)
    (hfin : a.FinAlone pcb) :
    RecvFinInv (tcpSegmentArrivesOtherwise env pcb a).1 (c ++ tcpSegmentArrivesCopied env pcb a) := by
  rcases tcpSegmentArrivesOtherwise_recv env pcb a hc hl hs with
    ⟨hr, -⟩ | ⟨hcp, hrecv, hstep⟩ | ⟨hacc, hisfin, hcp, pcb1, hrecv, -, hr⟩ |
      ⟨hacc, pcb1, -, hstep, hpt, hdata, -, ⟨-, hr⟩ | ⟨hisfin, -⟩⟩
  · rw [hr]
    exact RecvFinInv.of_not_afterFin rfl
  · rw [hcp, List.append_nil]
    intro hb
    rw [hrecv.rcvNxt, hrecv.irs]
    exact h (hstep.afterFin hb)
  · -- the FIN: the state before it counts the bytes copied
    obtain ⟨-, hnot⟩ := hfin hacc hisfin
    have hbefore : pcb.state.beforeFin = true := by
      rcases tcpSegmentAcceptable_state hacc with hb | hb
      · exact hb
      · rw [hnot] at hb
        exact Bool.noConfusion hb
    rw [hr, hcp, List.append_nil]
    intro _
    rw [tcpSegmentArrivesFinState_rcvNxt, tcpSegmentArrivesFinState_irs]
    show a.seg.seq + 1 = pcb1.irs + 1 + UInt32.ofNat c.length + 1
    rw [(hid hacc).1, hseq hbefore, hrecv.irs]
  · rw [hr]
    apply RecvFinInv.of_not_afterFin
    show pcb1.state.afterFin = false
    exact TcpState.afterFin_of_processesText hpt
  · -- a FIN after a payload is ruled out
    exact absurd (hfin hacc hisfin).1 hdata

theorem RecvFinInv.arrive {pcb : TcpPcb} {c : List UInt8} (env : TcpEnv) (a : TcpArrival)
    (hseq : RecvSeqInv pcb c) (h : RecvFinInv pcb c)
    (hid : a.Idealized pcb) (hfin : a.FinAlone pcb) :
    RecvFinInv (tcpSegmentArrivesPcb env pcb a).1 (c ++ tcpSegmentArrivesCopied env pcb a) := by
  rcases tcpSegmentArrivesPcb_cases env pcb a with
    ⟨hc, h0⟩ | ⟨hl, h0⟩ | ⟨hs, h0⟩ | ⟨hc, hl, hs, h0⟩ <;> rw [h0]
  · rw [tcpSegmentArrivesCopied_of_opening env pcb a (.inl hc), List.append_nil]
    exact h
  · rw [tcpSegmentArrivesCopied_of_opening env pcb a (.inr (.inl hl)), List.append_nil,
      tcpSegmentArrivesListen_fst]
    split
    · exact RecvFinInv.of_not_afterFin rfl
    · exact h
  · rw [tcpSegmentArrivesCopied_of_opening env pcb a (.inr (.inr hs)), List.append_nil]
    rcases tcpSegmentArrivesSynSent_recv env pcb a with h' | ⟨-, -, -, -, hst | hst⟩
    · rw [h']
      exact h
    · exact RecvFinInv.of_not_afterFin (by rw [hst]; rfl)
    · exact RecvFinInv.of_not_afterFin (by rw [hst]; rfl)
  · exact h.otherwise env a hseq hc hl hs hid hfin

/-- rcv.nxt over a connection: the stream's part, the FIN's part, and the buffer they rest on. -/
structure RecvAckInv (pcb : TcpPcb) (delivered copied : List UInt8) : Prop where
  buffer : RecvBufferInv pcb delivered copied
  seq : RecvSeqInv pcb copied
  fin : RecvFinInv pcb copied

theorem RecvAckInv.step {pcb : TcpPcb} {d c : List UInt8} (ev : TcpEnv × TcpEvent)
    (h : RecvAckInv pcb d c) (hfree : pcb.state ≠ .free)
    (hP : OnArrival TcpArrival.IdealWithFin pcb ev) :
    RecvAckInv (tcpStep ev pcb).1 (d ++ (tcpStep ev pcb).2.received)
      (c ++ tcpStepCopied ev pcb) := by
  refine ⟨h.buffer.step ev hfree (fun a ha hacc => ((hP a ha).2.1 hacc).2.1),
    h.seq.step ev h.buffer hfree (fun a ha => ⟨(hP a ha).1, (hP a ha).2.1⟩), ?_⟩
  obtain ⟨env, e⟩ := ev
  cases e with
  | arrive a =>
      obtain ⟨-, hid, hfin⟩ := hP a rfl
      rw [tcpStep_arrive]
      exact h.fin.arrive env a h.seq hid hfin
  | _ =>
      rw [tcpStepCopied_of_arrival_none _ pcb rfl, List.append_nil]
      exact h.fin.command _ hfree rfl

theorem RecvAckInv.first (ev : TcpEnv × TcpEvent) :
    RecvAckInv (tcpStep ev TcpPcb.zero).1 (tcpStep ev TcpPcb.zero).2.received
      (tcpStepCopied ev TcpPcb.zero) := by
  refine ⟨RecvBufferInv.first ev, ?_, ?_⟩
  · apply RecvSeqInv.of_not_beforeFin
    rcases tcpStep_zero_state ev with h | h | h <;> rw [h] <;> rfl
  · apply RecvFinInv.of_not_afterFin
    rcases tcpStep_zero_state ev with h | h | h <;> rw [h] <;> rfl

theorem recvAckInv_run (evs : List (TcpEnv × TcpEvent))
    (hrun : TcpConnectionRun (OnArrival TcpArrival.IdealWithFin) evs) :
    RecvAckInv (tcpRun evs).1 (TcpObs.delivered (tcpRun evs).2) (tcpCopied evs) :=
  TcpConnectionRun.invariant (fun pcb d c => RecvAckInv pcb d c)
    ⟨RecvBufferInv.of_free rfl, RecvSeqInv.of_not_beforeFin rfl,
      RecvFinInv.of_not_afterFin rfl⟩
    (fun ev _ => RecvAckInv.first ev) (fun _ ev _ _ h hfree hP => h.step ev hfree hP) evs hrun

/-- In a synchronized state rcv.nxt is irs + 1, plus the bytes copied, plus one for the peer's FIN. -/
theorem RecvAckInv.rcvNxt_eq {pcb : TcpPcb} {d c : List UInt8} (h : RecvAckInv pcb d c)
    (hsync : pcb.state.synchronized = true) :
    pcb.rcvNxt = pcb.irs + 1 + UInt32.ofNat c.length + (if pcb.state.afterFin then 1 else 0) := by
  rcases Bool.or_eq_true_iff.mp hsync with hb | hb
  · rw [TcpState.afterFin_of_beforeFin hb, h.seq hb]
    simp
  · rw [hb, h.fin hb]
    simp

/-!
## The segments sent
-/

/-- Every segment of {lit}`out` but a reset acknowledges {lit}`n`: the segments of {lit}`tcp_output` and of the retransmissions. -/
def AcksUpTo (n : UInt32) (out : List TcpSegmentOut) : Prop :=
  ∀ s ∈ out, tcpFlgIsset s.flg TCP_FLG_RST = false → s.ack = n

instance (n : UInt32) (out : List TcpSegmentOut) : Decidable (AcksUpTo n out) :=
  inferInstanceAs (Decidable (∀ s ∈ out, _))

@[simp] theorem acksUpTo_nil (n : UInt32) : AcksUpTo n [] := by
  simp [AcksUpTo]

@[simp] theorem acksUpTo_append (n : UInt32) (l1 l2 : List TcpSegmentOut) :
    AcksUpTo n (l1 ++ l2) ↔ AcksUpTo n l1 ∧ AcksUpTo n l2 := by
  simp only [AcksUpTo, List.mem_append, or_imp, forall_and]

theorem acksUpTo_singleton {n : UInt32} {s : TcpSegmentOut} :
    AcksUpTo n [s] ↔ (tcpFlgIsset s.flg TCP_FLG_RST = false → s.ack = n) := by
  simp [AcksUpTo]

/-- A segment of {lit}`tcp_output` acknowledges rcv.nxt, which {lit}`tcp_output` keeps. -/
theorem acksUpTo_tcpOutput (env : TcpEnv) (pcb : TcpPcb) (flg : UInt8) (data : List UInt8) :
    AcksUpTo (tcpOutput env pcb flg data).1.rcvNxt [(tcpOutput env pcb flg data).2.1] := by
  rw [acksUpTo_singleton, tcpOutput_segment, (tcpOutput_sameRecv env pcb flg data).rcvNxt]
  intro _
  rfl

theorem acksUpTo_control (n seq ack : UInt32) {flg : UInt8} (localEp foreign : IpEndpoint)
    (h : tcpFlgIsset flg TCP_FLG_RST = true) :
    AcksUpTo n [tcpControlSegment seq ack flg localEp foreign] := by
  rw [acksUpTo_singleton]
  intro h'
  rw [show (tcpControlSegment seq ack flg localEp foreign).flg = flg from rfl, h] at h'
  exact Bool.noConfusion h'

theorem tcpSegmentArrivesClosed_acks (n : UInt32) (a : TcpArrival) :
    AcksUpTo n (tcpSegmentArrivesClosed a) := by
  unfold tcpSegmentArrivesClosed
  split
  · exact acksUpTo_nil n
  · split
    · exact acksUpTo_control _ _ _ _ _ (by decide)
    · exact acksUpTo_control _ _ _ _ _ (by decide)

theorem tcpSegmentArrivesListen_acks (env : TcpEnv) (pcb : TcpPcb) (a : TcpArrival) :
    AcksUpTo (tcpSegmentArrivesListen env pcb a).1.rcvNxt (tcpSegmentArrivesListen env pcb a).2 := by
  unfold tcpSegmentArrivesListen
  split
  · exact acksUpTo_nil _
  · split
    · exact acksUpTo_control _ _ _ _ _ (by decide)
    · split
      · exact acksUpTo_tcpOutput env _ _ []
      · exact acksUpTo_nil _

theorem tcpSegmentArrivesSynSent_acks (env : TcpEnv) (pcb : TcpPcb) (a : TcpArrival) :
    AcksUpTo (tcpSegmentArrivesSynSent env pcb a).1.rcvNxt
      (tcpSegmentArrivesSynSent env pcb a).2 := by
  unfold tcpSegmentArrivesSynSent
  dsimp only
  -- the bad ACK, then the SYN with or without an acceptable ACK, going to ESTABLISHED or SYN-RECEIVED
  split_ifs
  · exact acksUpTo_control _ _ _ _ _ (by decide)
  · exact acksUpTo_tcpOutput env _ _ []
  · exact acksUpTo_tcpOutput env _ _ []
  · exact acksUpTo_tcpOutput env _ _ []
  · exact acksUpTo_tcpOutput env _ _ []
  · exact acksUpTo_nil _

/-- The 5th check in the synchronized states sends an ACK only when it stops the processing. -/
theorem tcpSegmentArrivesAckEstablished_acks (env : TcpEnv) (pcb : TcpPcb)
    (seg : TcpSegmentInfo) :
    AcksUpTo (tcpSegmentArrivesAckEstablished env pcb seg).1.rcvNxt
        (tcpSegmentArrivesAckEstablished env pcb seg).2.1 ∧
      ((tcpSegmentArrivesAckEstablished env pcb seg).2.2 = true →
        (tcpSegmentArrivesAckEstablished env pcb seg).2.1 = []) := by
  unfold tcpSegmentArrivesAckEstablished
  dsimp only
  split
  · exact ⟨acksUpTo_nil _, fun _ => rfl⟩
  · split
    · exact ⟨acksUpTo_nil _, fun _ => rfl⟩
    · split
      · exact ⟨acksUpTo_tcpOutput env pcb _ [], fun h => Bool.noConfusion h⟩
      · exact ⟨acksUpTo_nil _, fun _ => rfl⟩

theorem tcpSegmentArrivesAck_acks (env : TcpEnv) (pcb : TcpPcb) (a : TcpArrival) :
    AcksUpTo (tcpSegmentArrivesAck env pcb a).1.rcvNxt (tcpSegmentArrivesAck env pcb a).2.1 ∧
      ((tcpSegmentArrivesAck env pcb a).2.2 = true → (tcpSegmentArrivesAck env pcb a).2.1 = []) := by
  unfold tcpSegmentArrivesAck
  split
  · split
    · exact tcpSegmentArrivesAckEstablished_acks env _ a.seg
    · exact ⟨acksUpTo_control _ _ _ _ _ (by decide), fun h => Bool.noConfusion h⟩
  · exact tcpSegmentArrivesAckEstablished_acks env pcb a.seg
  · exact tcpSegmentArrivesAckEstablished_acks env pcb a.seg
  · exact tcpSegmentArrivesAckEstablished_acks env pcb a.seg
  · exact tcpSegmentArrivesAckEstablished_acks env pcb a.seg
  · split <;> exact ⟨acksUpTo_nil _, fun _ => rfl⟩
  · exact ⟨acksUpTo_nil _, fun _ => rfl⟩

/-- The 7th step copies and acknowledges a payload in ESTABLISHED, FIN-WAIT-1 and FIN-WAIT-2. -/
theorem tcpSegmentArrivesText_eq (env : TcpEnv) (pcb : TcpPcb) (a : TcpArrival) :
    tcpSegmentArrivesText env pcb a =
      if pcb.state.processesText = true ∧ a.data ≠ [] then
        ((tcpOutput env (pcb.withText a) TCP_FLG_ACK []).1,
          [(tcpOutput env (pcb.withText a) TCP_FLG_ACK []).2.1])
      else (pcb, []) := by
  unfold tcpSegmentArrivesText
  by_cases hdata : a.data = []
  · cases pcb.state <;> simp [hdata]
  · cases hst : pcb.state <;> simp [hdata, hst, TcpState.processesText, TcpPcb.withText]

/-- The 7th step acknowledges the payload it copies, and sends nothing for an empty one. -/
theorem tcpSegmentArrivesText_acks (env : TcpEnv) (pcb : TcpPcb) (a : TcpArrival) :
    AcksUpTo (tcpSegmentArrivesText env pcb a).1.rcvNxt (tcpSegmentArrivesText env pcb a).2 ∧
      ((tcpSegmentArrivesText env pcb a).2 ≠ [] → a.data ≠ []) := by
  rw [tcpSegmentArrivesText_eq]
  split
  · rename_i hcopy
    exact ⟨acksUpTo_tcpOutput env _ _ [], fun _ => hcopy.2⟩
  · exact ⟨acksUpTo_nil _, fun h => absurd rfl h⟩

theorem tcpSegmentArrivesFin_acks (env : TcpEnv) (pcb : TcpPcb) (a : TcpArrival) :
    AcksUpTo (tcpSegmentArrivesFin env pcb a).1.rcvNxt (tcpSegmentArrivesFin env pcb a).2 := by
  unfold tcpSegmentArrivesFin
  split
  · split
    · exact acksUpTo_nil _
    · exact acksUpTo_nil _
    · rw [tcpSegmentArrivesFinState_rcvNxt]
      exact acksUpTo_tcpOutput env _ _ []
  · exact acksUpTo_nil _

theorem tcpSegmentArrivesFin_of_not_fin (env : TcpEnv) (pcb : TcpPcb) (a : TcpArrival)
    (h : tcpFlgIsset a.flags TCP_FLG_FIN = false) : tcpSegmentArrivesFin env pcb a = (pcb, []) := by
  simp [tcpSegmentArrivesFin, h]

/--
The segments of the processing after the 1st check acknowledge the rcv.nxt
it leaves.  The 7th and 8th steps both send an ACK, so a FIN must not come
with a payload.
-/
theorem tcpSegmentArrivesOtherwise_acks (env : TcpEnv) (pcb : TcpPcb) (a : TcpArrival)
    (hfin : tcpSegmentAcceptable pcb a.seg = true → tcpFlgIsset a.flags TCP_FLG_FIN = true →
      a.data = []) :
    AcksUpTo (tcpSegmentArrivesOtherwise env pcb a).1.rcvNxt
      (tcpSegmentArrivesOtherwise env pcb a).2 := by
  unfold tcpSegmentArrivesOtherwise
  by_cases hacc : tcpSegmentAcceptable pcb a.seg = true
  · by_cases hack : tcpFlgIsset a.flags TCP_FLG_ACK = true
    · obtain ⟨hacks1, hnil1⟩ := tcpSegmentArrivesAck_acks env pcb a
      rcases hA : tcpSegmentArrivesAck env pcb a with ⟨pcb1, out1, _ | _⟩
      · rw [hA] at hacks1
        simpa [hacc, hack] using hacks1
      · rw [hA] at hnil1
        have hout1 : out1 = [] := hnil1 rfl
        obtain ⟨hacks2, hdata⟩ := tcpSegmentArrivesText_acks env pcb1 a
        have hacks3 := tcpSegmentArrivesFin_acks env (tcpSegmentArrivesText env pcb1 a).1 a
        simp only [hacc, hack, Bool.not_true, Bool.false_eq_true, if_false]
        rw [hout1, List.nil_append, acksUpTo_append]
        by_cases hout2 : (tcpSegmentArrivesText env pcb1 a).2 = []
        · rw [hout2]
          exact ⟨acksUpTo_nil _, hacks3⟩
        · -- a payload was copied, so no FIN follows it
          have hnofin : tcpFlgIsset a.flags TCP_FLG_FIN = false := by
            cases hf : tcpFlgIsset a.flags TCP_FLG_FIN with
            | false => rfl
            | true => exact absurd (hfin hacc hf) (hdata hout2)
          rw [tcpSegmentArrivesFin_of_not_fin env _ a hnofin]
          exact ⟨hacks2, acksUpTo_nil _⟩
    · simp [hacc, hack]
  · -- an unacceptable segment is answered with an ACK of rcv.nxt, a reset with nothing
    simp only [hacc, Bool.not_false, if_true]
    split
    · exact acksUpTo_nil _
    · exact acksUpTo_tcpOutput env pcb _ []

theorem tcpSegmentArrivesPcb_acks (env : TcpEnv) (pcb : TcpPcb) (a : TcpArrival)
    (hfin : tcpSegmentAcceptable pcb a.seg = true → tcpFlgIsset a.flags TCP_FLG_FIN = true →
      a.data = []) :
    AcksUpTo (tcpSegmentArrivesPcb env pcb a).1.rcvNxt (tcpSegmentArrivesPcb env pcb a).2 := by
  unfold tcpSegmentArrivesPcb
  split
  · exact tcpSegmentArrivesClosed_acks _ a
  · exact tcpSegmentArrivesListen_acks env pcb a
  · exact tcpSegmentArrivesSynSent_acks env pcb a
  · exact tcpSegmentArrivesOtherwise_acks env pcb a hfin

theorem tcpOpenRfc793Active_acks (env : TcpEnv) (pcb : TcpPcb) (localEp foreign : IpEndpoint)
    (hr : (tcpOpenRfc793Active env pcb localEp foreign).1.state ≠ .free) :
    AcksUpTo (tcpOpenRfc793Active env pcb localEp foreign).1.rcvNxt
      (tcpOpenRfc793Active env pcb localEp foreign).2 := by
  unfold tcpOpenRfc793Active at hr ⊢
  dsimp only at hr ⊢
  split
  · -- a refused SYN releases the pcb
    rename_i hrefused
    rw [if_pos hrefused] at hr
    exact absurd rfl hr
  · exact acksUpTo_tcpOutput env _ _ []

theorem tcpClose_acks (env : TcpEnv) (pcb : TcpPcb) :
    AcksUpTo pcb.rcvNxt (tcpClose env pcb).2.1 := by
  unfold tcpClose
  dsimp only
  split
  · rw [← (tcpOutput_sameRecv env pcb _ []).rcvNxt]
    exact acksUpTo_tcpOutput env pcb _ []
  · rw [← (tcpOutput_sameRecv env pcb _ []).rcvNxt]
    exact acksUpTo_tcpOutput env pcb _ []
  · exact acksUpTo_nil _

theorem tcpSendPass_acks (env : TcpEnv) (pcb : TcpPcb) (mtu : Option UInt16)
    (rest : List UInt8) : AcksUpTo pcb.rcvNxt (tcpSendPass env pcb mtu rest).2.1 := by
  unfold tcpSendPass
  dsimp only
  split
  · split
    · exact acksUpTo_nil _
    · rw [← (tcpOutput_sameRecv env pcb _ _).rcvNxt]
      split <;> exact acksUpTo_tcpOutput env pcb _ _
  · split
    · exact acksUpTo_nil _
    · rw [← (tcpOutput_sameRecv env pcb _ _).rcvNxt]
      split <;> exact acksUpTo_tcpOutput env pcb _ _
  · exact acksUpTo_nil _

/-- A retransmission acknowledges the rcv.nxt of the moment, which the timer keeps. -/
theorem tcpRetransmitQueueEmitAll_acks (env : TcpEnv) :
    ∀ (pcb : TcpPcb) (queue : List TcpQueueEntry),
      AcksUpTo pcb.rcvNxt (tcpRetransmitQueueEmitAll env pcb queue).2.2
  | pcb, [] => acksUpTo_nil _
  | pcb, entry :: rest => by
      have hfirst : AcksUpTo pcb.rcvNxt (tcpRetransmitQueueEmit env pcb entry).2.2 := by
        unfold tcpRetransmitQueueEmit
        split_ifs
        · exact acksUpTo_nil _
        · exact acksUpTo_singleton.mpr fun _ => rfl
        · exact acksUpTo_nil _
      have hrest := tcpRetransmitQueueEmitAll_acks env (tcpRetransmitQueueEmit env pcb entry).1 rest
      rw [(tcpRetransmitQueueEmit_recv env pcb entry).1.rcvNxt] at hrest
      show AcksUpTo pcb.rcvNxt ((tcpRetransmitQueueEmit env pcb entry).2.2 ++
        (tcpRetransmitQueueEmitAll env (tcpRetransmitQueueEmit env pcb entry).1 rest).2.2)
      exact (acksUpTo_append _ _ _).mpr ⟨hfirst, hrest⟩

theorem tcpTimerPcb_acks (env : TcpEnv) (pcb : TcpPcb) :
    AcksUpTo pcb.rcvNxt (tcpTimerPcb env pcb).2 := by
  unfold tcpTimerPcb
  split
  · exact acksUpTo_nil _
  · exact tcpRetransmitQueueEmitAll_acks env pcb pcb.queue

/--
Every step that leaves the pcb in use sends only segments that acknowledge
the rcv.nxt it leaves, while an acceptable FIN carries no payload.
-/
theorem tcpStep_acks (ev : TcpEnv × TcpEvent) (pcb : TcpPcb)
    (hfin : ∀ a ∈ ev.2.arrival?, tcpSegmentAcceptable pcb a.seg = true →
      tcpFlgIsset a.flags TCP_FLG_FIN = true → a.data = [])
    (hr : (tcpStep ev pcb).1.state ≠ .free) :
    AcksUpTo (tcpStep ev pcb).1.rcvNxt (tcpStep ev pcb).2.out := by
  obtain ⟨env, e⟩ := ev
  cases e with
  | openActive localEp foreign =>
      by_cases hfree : pcb.state = .free
      · rw [tcpStep_openActive_of_free env localEp foreign pcb hfree] at hr ⊢
        exact tcpOpenRfc793Active_acks env _ localEp foreign hr
      · rw [tcpStep_openActive_of_ne_free env localEp foreign pcb hfree]
        exact acksUpTo_nil _
  | openPassive localEp foreign =>
      by_cases hfree : pcb.state = .free
      · rw [tcpStep_openPassive_of_free env localEp foreign pcb hfree]
        exact acksUpTo_nil _
      · rw [tcpStep_openPassive_of_ne_free env localEp foreign pcb hfree]
        exact acksUpTo_nil _
  | openWake recorded => exact acksUpTo_nil _
  | openInterrupted => exact acksUpTo_nil _
  | close =>
      rw [tcpStep_close]
      rcases tcpClose_recv env pcb with h | ⟨hrecv, -⟩
      · rw [h]
        exact tcpClose_acks env pcb
      · rw [hrecv.rcvNxt]
        exact tcpClose_acks env pcb
  | send mtu rest =>
      rw [tcpStep_send] at hr ⊢
      rcases tcpSendPass_recv env pcb mtu rest with h | ⟨hrecv, -⟩
      · rw [h] at hr
        exact absurd rfl hr
      · rw [hrecv.rcvNxt]
        exact tcpSendPass_acks env pcb mtu rest
  | receive size =>
      rw [tcpStep_receive]
      exact acksUpTo_nil _
  | arrive a =>
      rw [tcpStep_arrive]
      exact tcpSegmentArrivesPcb_acks env pcb a (hfin a rfl)
  | timer =>
      rw [tcpStep_timer, (tcpTimerPcb_recv env pcb).1.rcvNxt]
      exact tcpTimerPcb_acks env pcb

/-!
## The claim
-/

/--
Against a peer that sends its stream in order, within the window and with
one bare FIN, every step that leaves the connection synchronized leaves
rcv.nxt = irs + 1 + A + F, with A the bytes copied into the buffer so far and
F one once the peer's FIN is in, and sends only segments that acknowledge it.
-/
theorem tcp_ack_consistency (evs : List (TcpEnv × TcpEvent)) (ev : TcpEnv × TcpEvent)
    (hrun : TcpConnectionRun (OnArrival TcpArrival.IdealWithFin) (evs ++ [ev]))
    (hsync : (tcpStep ev (tcpRun evs).1).1.state.synchronized = true) :
    (tcpStep ev (tcpRun evs).1).1.rcvNxt =
        (tcpStep ev (tcpRun evs).1).1.irs + 1 + UInt32.ofNat (tcpCopied (evs ++ [ev])).length +
          (if (tcpStep ev (tcpRun evs).1).1.state.afterFin then 1 else 0) ∧
      AcksUpTo (tcpStep ev (tcpRun evs).1).1.rcvNxt (tcpStep ev (tcpRun evs).1).2.out := by
  have hlast : tcpRun (evs ++ [ev]) = ((tcpStep ev (tcpRun evs).1).1,
      (tcpRun evs).2 ++ [(tcpStep ev (tcpRun evs).1).2]) := tcpRun_append_singleton evs ev
  have hinv := recvAckInv_run _ hrun
  rw [hlast] at hinv
  have hne : (tcpStep ev (tcpRun evs).1).1.state ≠ .free := by
    intro h
    rw [h] at hsync
    exact Bool.noConfusion hsync
  refine ⟨hinv.rcvNxt_eq hsync, tcpStep_acks ev _ ?_ hne⟩
  intro a ha hacc hisfin
  exact ((hrun.last a ha).2.2 hacc hisfin).1

/-- After its two bytes the peer closes with a bare FIN. -/
def peerFin : TcpEnv × TcpEvent :=
  (tcpEnvFixed, .arrive (peerSegment 1003 101 (TCP_FLG_ACK ||| TCP_FLG_FIN) []))

theorem tcp_ack_consistency_peer_close :
    TcpConnectionRun (OnArrival TcpArrival.IdealWithFin) (tcpRunEcho ++ [peerFin]) ∧
      (tcpStep peerFin (tcpRun tcpRunEcho).1).1.state.synchronized = true ∧
      (tcpStep peerFin (tcpRun tcpRunEcho).1).1.rcvNxt =
          (tcpStep peerFin (tcpRun tcpRunEcho).1).1.irs + 1 +
              UInt32.ofNat (tcpCopied (tcpRunEcho ++ [peerFin])).length +
            (if (tcpStep peerFin (tcpRun tcpRunEcho).1).1.state.afterFin then 1 else 0) ∧
        AcksUpTo (tcpStep peerFin (tcpRun tcpRunEcho).1).1.rcvNxt
          (tcpStep peerFin (tcpRun tcpRunEcho).1).2.out := by
  have hrun : TcpConnectionRun (OnArrival TcpArrival.IdealWithFin) (tcpRunEcho ++ [peerFin]) := by
    decide
  have hsync : (tcpStep peerFin (tcpRun tcpRunEcho).1).1.state.synchronized = true := by decide
  exact ⟨hrun, hsync, tcp_ack_consistency tcpRunEcho peerFin hrun hsync⟩

/--
A segment past a missing byte is accepted and copied: rcv.nxt moves past the
missing byte, and the ACK sent acknowledges it.
-/
theorem tcp_ack_consistency_out_of_order :
    TcpConnectionRun (OnArrival fun _ a => a.LenConsistent) tcpRunOutOfOrder ∧
      (tcpRun tcpRunOutOfOrder).1.state = .established ∧
      (tcpRun tcpRunOutOfOrder).1.rcvNxt ≠
        (tcpRun tcpRunOutOfOrder).1.irs + 1 + UInt32.ofNat (tcpCopied tcpRunOutOfOrder).length ∧
      (tcpRun tcpRunOutOfOrder).2.getLast?.map (fun o => o.out.map TcpSegmentOut.ack) =
        some [1003] := by
  decide

/-- Two bytes and the peer's FIN in one segment at rcv.nxt, after the handshake. -/
def tcpRunDataFin : List (TcpEnv × TcpEvent) :=
  tcpRunHandshake ++
    [(tcpEnvFixed, .arrive (peerSegment 1001 101 (TCP_FLG_ACK ||| TCP_FLG_FIN) [0x41, 0x42]))]

/--
Step 8 sets rcv.nxt = seg.seq + 1 after step 7 has moved it over the
payload: the segment is well formed and idealized, its two bytes are copied
and the FIN is in, but rcv.nxt ends at 1002, short of the 1004 they reach,
and the second ACK sent takes back the first.
-/
theorem tcp_ack_data_fin_short :
    TcpConnectionRun (OnArrival fun pcb a => a.LenConsistent ∧ a.Idealized pcb) tcpRunDataFin ∧
      (tcpRun tcpRunDataFin).1.state = .closeWait ∧
      tcpCopied tcpRunDataFin = [0x41, 0x42] ∧
      (tcpRun tcpRunDataFin).1.rcvNxt = 1002 ∧
      (tcpRun tcpRunDataFin).1.irs + 1 + UInt32.ofNat (tcpCopied tcpRunDataFin).length + 1 = 1004 ∧
      (tcpRun tcpRunDataFin).2.getLast?.map (fun o => o.out.map TcpSegmentOut.ack) =
        some [1004, 1002] := by
  decide

end ProtocolStack
