import Mathlib
import ProtocolStack.Tcp.Demux
import ProtocolStack.Tcp.Input
import ProtocolStack.Tcp.StateMachine

/-!
# Two TCP stacks on one link

Two hosts, A and B, each with the pcb table of {lit}`tcp.c`, joined by a
link that carries the segments {lit}`ip_output` accepted, in the order they
were sent, and may lose any of them.  A segment arrives as its
{lit}`TcpSegmentOut.arrival`, which {lit}`TcpSegmentOut.tcpInput_bytes`
shows to be what {lit}`tcp_input` reads back from the bytes
{lit}`tcp_output_segment` laid out for it: the same fields, the length
counting SYN and FIN, and the endpoints seen from the receiver.

The three-way handshake between fresh stacks leaves both ends ESTABLISHED,
each with all it sent acknowledged and expecting what the other sends next.
Sequence numbers are compared with the unsigned comparisons of the source,
so this holds where the initial sequence numbers leave room below the wrap:
A's for B's receive window, B's for its own SYN.
-/

namespace ProtocolStack

structure TcpLink where
  hostA : List TcpPcb
  hostB : List TcpPcb
  toA : List TcpSegmentOut
  toB : List TcpSegmentOut

inductive TcpLinkEvent
  | atA (env : TcpEnv) (ev : TcpStackEvent)
  | atB (env : TcpEnv) (ev : TcpStackEvent)
  | deliverA (env : TcpEnv)
  | deliverB (env : TcpEnv)
  | loseA
  | loseB

/-- A step of one host's stack: its table, what the step shows, and the segments {lit}`ip_output` accepted. -/
def tcpHostStep (env : TcpEnv) (ev : TcpStackEvent) (pcbs : List TcpPcb) :
    List TcpPcb × TcpObs × List TcpSegmentOut :=
  match tcpStackStep (env, ev) pcbs with
  | (pcbs', obs) => (pcbs', obs, obs.out.filter env.ipOutput)

def tcpLinkStep : TcpLinkEvent → TcpLink → TcpLink × TcpObs
  | .atA env ev, l =>
      match tcpHostStep env ev l.hostA with
      | (pcbs, obs, sent) => ({ l with hostA := pcbs, toB := l.toB ++ sent }, obs)
  | .atB env ev, l =>
      match tcpHostStep env ev l.hostB with
      | (pcbs, obs, sent) => ({ l with hostB := pcbs, toA := l.toA ++ sent }, obs)
  | .deliverA env, l =>
      match l.toA with
      | [] => (l, TcpObs.sent [])
      | s :: rest =>
          match tcpHostStep env (.arrive s.arrival) l.hostA with
          | (pcbs, obs, sent) => ({ l with hostA := pcbs, toA := rest, toB := l.toB ++ sent }, obs)
  | .deliverB env, l =>
      match l.toB with
      | [] => (l, TcpObs.sent [])
      | s :: rest =>
          match tcpHostStep env (.arrive s.arrival) l.hostB with
          | (pcbs, obs, sent) => ({ l with hostB := pcbs, toB := rest, toA := l.toA ++ sent }, obs)
  | .loseA, l => ({ l with toA := l.toA.tail }, TcpObs.sent [])
  | .loseB, l => ({ l with toB := l.toB.tail }, TcpObs.sent [])

def tcpLinkInit : TcpLink := ⟨tcpPcbsInit, tcpPcbsInit, [], []⟩

def tcpLinkRun (evs : List TcpLinkEvent) : TcpLink × List TcpObs :=
  Run.run tcpLinkStep tcpLinkInit evs

theorem tcpLinkStep_atA (env : TcpEnv) (ev : TcpStackEvent) (l : TcpLink) :
    (tcpLinkStep (.atA env ev) l).1 =
      { l with
        hostA := (tcpStackStep (env, ev) l.hostA).1,
        toB := l.toB ++ (tcpStackStep (env, ev) l.hostA).2.out.filter env.ipOutput } :=
  rfl

theorem tcpLinkStep_atB (env : TcpEnv) (ev : TcpStackEvent) (l : TcpLink) :
    (tcpLinkStep (.atB env ev) l).1 =
      { l with
        hostB := (tcpStackStep (env, ev) l.hostB).1,
        toA := l.toA ++ (tcpStackStep (env, ev) l.hostB).2.out.filter env.ipOutput } :=
  rfl

theorem tcpLinkStep_deliverA (env : TcpEnv) {l : TcpLink} {s : TcpSegmentOut}
    {rest : List TcpSegmentOut} (h : l.toA = s :: rest) :
    (tcpLinkStep (.deliverA env) l).1 =
      { l with
        hostA := (tcpStackStep (env, .arrive s.arrival) l.hostA).1, toA := rest,
        toB := l.toB ++ (tcpStackStep (env, .arrive s.arrival) l.hostA).2.out.filter env.ipOutput } := by
  simp only [tcpLinkStep, h]
  rfl

theorem tcpLinkStep_deliverB (env : TcpEnv) {l : TcpLink} {s : TcpSegmentOut}
    {rest : List TcpSegmentOut} (h : l.toB = s :: rest) :
    (tcpLinkStep (.deliverB env) l).1 =
      { l with
        hostB := (tcpStackStep (env, .arrive s.arrival) l.hostB).1, toB := rest,
        toA := l.toA ++ (tcpStackStep (env, .arrive s.arrival) l.hostB).2.out.filter env.ipOutput } := by
  simp only [tcpLinkStep, h]
  rfl

/-! ## The table steps of a handshake -/

section Table

variable {pcbs : List TcpPcb} {i : Nat} {pcb : TcpPcb}

theorem tcpStackStep_arrive_of_select {a : TcpArrival}
    (hsel : tcpPcbSelect pcbs a.localEp (some a.foreign) = some i) (hp : pcbs[i]? = some pcb)
    (env : TcpEnv) :
    tcpStackStep (env, .arrive a) pcbs =
      (pcbs.set i (tcpSegmentArrivesPcb env pcb a).1,
        TcpObs.sent (tcpSegmentArrivesPcb env pcb a).2) := by
  simp only [tcpStackStep, tcpSegmentArrives, hsel, hp]

theorem tcpPcbSelectFrom_replicate_zero {localEp : IpEndpoint} (hport : localEp.port ≠ 0)
    (foreign : Option IpEndpoint) (listenPcb : Option Nat) :
    ∀ (n i : Nat), tcpPcbSelectFrom localEp foreign i listenPcb (List.replicate n TcpPcb.zero) =
      listenPcb
  | 0, _ => rfl
  | n + 1, i => by
      -- a zero-filled pcb is bound to port 0, so it never matches
      have hmiss : TcpPcb.zero.localMatches localEp = false := by
        simp [TcpPcb.localMatches, TcpPcb.zero, Ne.symm hport]
      rw [List.replicate_succ]
      simp only [tcpPcbSelectFrom, hmiss, Bool.false_eq_true, if_false]
      exact tcpPcbSelectFrom_replicate_zero hport foreign listenPcb n (i + 1)

/-- The first pcb of a fresh table, bound to {lit}`localEp` with {lit}`foreign` as its foreign endpoint, is selected for a segment between them. -/
theorem tcpPcbSelect_cons_exact {pcb : TcpPcb} {localEp foreign : IpEndpoint}
    (hlocal : pcb.localEp = localEp) (hforeign : pcb.foreign = foreign) (rest : List TcpPcb) :
    tcpPcbSelect (pcb :: rest) localEp (some foreign) = some 0 := by
  simp [tcpPcbSelect, tcpPcbSelectFrom, TcpPcb.localMatches, hlocal, hforeign]

/-- A wildcard LISTEN pcb on the port, at the head of an otherwise fresh table, is selected for any segment to that port. -/
theorem tcpPcbSelect_cons_listen {pcb : TcpPcb} {localEp : IpEndpoint}
    (hmatch : pcb.localMatches localEp = true) (hlisten : pcb.isWildcardListen = true)
    (hport : localEp.port ≠ 0) (foreign : IpEndpoint) (n : Nat) :
    tcpPcbSelect (pcb :: List.replicate n TcpPcb.zero) localEp (some foreign) = some 0 := by
  simp only [tcpPcbSelect, tcpPcbSelectFrom, hmatch, hlisten, if_true]
  split
  · rfl
  · exact tcpPcbSelectFrom_replicate_zero hport _ _ _ _

end Table

theorem tcpLinkStep_deliverA_head (env : TcpEnv) {l : TcpLink} {s : TcpSegmentOut}
    {more : List TcpSegmentOut} {pcb : TcpPcb} {rest : List TcpPcb} {r : TcpPcb × List TcpSegmentOut}
    (htoA : l.toA = s :: more) (hA : l.hostA = pcb :: rest)
    (hsel : tcpPcbSelect (pcb :: rest) s.arrival.localEp (some s.arrival.foreign) = some 0)
    (harr : tcpSegmentArrivesPcb env pcb s.arrival = r) (hok : ∀ x ∈ r.2, env.ipOutput x = true) :
    (tcpLinkStep (.deliverA env) l).1 =
      { l with hostA := r.1 :: rest, toA := more, toB := l.toB ++ r.2 } := by
  rw [tcpLinkStep_deliverA env htoA, hA, tcpStackStep_arrive_of_select hsel rfl, harr,
    TcpObs.sent_out, List.filter_eq_self.mpr hok]
  rfl

theorem tcpLinkStep_deliverB_head (env : TcpEnv) {l : TcpLink} {s : TcpSegmentOut}
    {more : List TcpSegmentOut} {pcb : TcpPcb} {rest : List TcpPcb} {r : TcpPcb × List TcpSegmentOut}
    (htoB : l.toB = s :: more) (hB : l.hostB = pcb :: rest)
    (hsel : tcpPcbSelect (pcb :: rest) s.arrival.localEp (some s.arrival.foreign) = some 0)
    (harr : tcpSegmentArrivesPcb env pcb s.arrival = r) (hok : ∀ x ∈ r.2, env.ipOutput x = true) :
    (tcpLinkStep (.deliverB env) l).1 =
      { l with hostB := r.1 :: rest, toB := more, toA := l.toA ++ r.2 } := by
  rw [tcpLinkStep_deliverB env htoB, hB, tcpStackStep_arrive_of_select hsel rfl, harr,
    TcpObs.sent_out, List.filter_eq_self.mpr hok]
  rfl

/-! ## The phases a handshake meets -/

theorem tcpRetransmitQueueCleanupLoop_eq_nil {una : UInt32} :
    ∀ {q : List TcpQueueEntry}, (∀ entry ∈ q, entry.seq < una) →
      tcpRetransmitQueueCleanupLoop una q = []
  | [], _ => rfl
  | entry :: rest, h => by
      have hlt := h entry List.mem_cons_self
      rw [tcpRetransmitQueueCleanupLoop, if_neg (show ¬entry.seq ≥ una from UInt32.not_le.mpr hlt)]
      exact tcpRetransmitQueueCleanupLoop_eq_nil fun e he => h e (List.mem_cons_of_mem _ he)

/-- The SYN of an active open that {lit}`ip_output` accepts leaves the pcb in SYN-SENT with the SYN queued. -/
theorem tcpOpenRfc793Active_accepted (env : TcpEnv) (pcb : TcpPcb) (localEp foreign : IpEndpoint)
    (hok : env.ipOutput ⟨env.random, pcb.rcvNxt, TCP_FLG_SYN, 65535, [], localEp, foreign⟩ = true) :
    tcpOpenRfc793Active env pcb localEp foreign =
      ({ pcb with
          localEp := localEp, foreign := foreign, rcvWnd := 65535, iss := env.random,
          queue := pcb.queue ++ [⟨env.now, env.now, TCP_DEFAULT_RTO, env.random, TCP_FLG_SYN, []⟩],
          sndUna := env.random, sndNxt := env.random + 1, state := .synSent },
        [⟨env.random, pcb.rcvNxt, TCP_FLG_SYN, 65535, [], localEp, foreign⟩]) := by
  have hq : tcpOutputQueues TCP_FLG_SYN [] = true := by decide
  have hsyn : tcpFlgIsset TCP_FLG_SYN TCP_FLG_SYN = true := by decide
  simp [tcpOpenRfc793Active, tcpOutput, tcpOutputSeq, hq, hsyn, tcpRetransmitQueueAdd, hok]

/-- A LISTEN pcb answers a bare SYN with its SYN-ACK and moves to SYN-RECEIVED. -/
theorem tcpSegmentArrivesListen_syn (env : TcpEnv) (pcb : TcpPcb) (a : TcpArrival)
    (hflags : a.flags = TCP_FLG_SYN) :
    tcpSegmentArrivesListen env pcb a =
      ({ pcb with
          localEp := a.localEp, foreign := a.foreign, rcvWnd := 65535,
          rcvNxt := a.seg.seq + 1, irs := a.seg.seq, iss := env.random,
          queue := pcb.queue ++
            [⟨env.now, env.now, TCP_DEFAULT_RTO, env.random, TCP_FLG_SYN ||| TCP_FLG_ACK, []⟩],
          sndNxt := env.random + 1, sndUna := env.random, state := .synReceived },
        [⟨env.random, a.seg.seq + 1, TCP_FLG_SYN ||| TCP_FLG_ACK, 65535, [], a.localEp,
          a.foreign⟩]) := by
  have hq : tcpOutputQueues (TCP_FLG_SYN ||| TCP_FLG_ACK) [] = true := by decide
  have hrst : tcpFlgIsset TCP_FLG_SYN TCP_FLG_RST = false := by decide
  have hack : tcpFlgIsset TCP_FLG_SYN TCP_FLG_ACK = false := by decide
  have hsyn : tcpFlgIsset TCP_FLG_SYN TCP_FLG_SYN = true := by decide
  have hseq : tcpFlgIsset (TCP_FLG_SYN ||| TCP_FLG_ACK) TCP_FLG_SYN = true := by decide
  simp [tcpSegmentArrivesListen, hflags, hrst, hack, hsyn, tcpOutput, tcpOutputSeq, hq, hseq,
    tcpRetransmitQueueAdd]

/-- A pcb whose one segment sent is its SYN from {lit}`iss` between {lit}`localEp` and {lit}`foreign`: unacknowledged, and alone on the retransmission queue. -/
structure TcpSynSentFrom (pcb : TcpPcb) (localEp foreign : IpEndpoint) (iss : UInt32) : Prop where
  localEp_eq : pcb.localEp = localEp
  foreign_eq : pcb.foreign = foreign
  iss_eq : pcb.iss = iss
  una : pcb.sndUna = iss
  nxt : pcb.sndNxt = iss + 1
  rcvWnd_eq : pcb.rcvWnd = 65535
  queue_seq : ∀ entry ∈ pcb.queue, entry.seq = iss

namespace TcpSynSentFrom

variable {pcb : TcpPcb} {localEp foreign : IpEndpoint} {iss : UInt32}

theorem sndUna_eq (h : TcpSynSentFrom pcb localEp foreign iss) : pcb.sndUna = pcb.iss :=
  h.una.trans h.iss_eq.symm

theorem sndNxt_eq (h : TcpSynSentFrom pcb localEp foreign iss) : pcb.sndNxt = pcb.iss + 1 := by
  rw [h.nxt, h.iss_eq]

/-- The ACK of the SYN empties the retransmission queue. -/
theorem cleanup_eq_nil (h : TcpSynSentFrom pcb localEp foreign iss) (hwrap : iss.toNat + 1 < 2 ^ 32) :
    tcpRetransmitQueueCleanupLoop (pcb.iss + 1) pcb.queue = [] := by
  rw [h.iss_eq]
  refine tcpRetransmitQueueCleanupLoop_eq_nil fun entry he => ?_
  rw [h.queue_seq entry he]
  exact seq_lt_add_one hwrap

end TcpSynSentFrom

theorem tcpOpenRfc793Active_synSentFrom (env : TcpEnv) (pcb : TcpPcb) (localEp foreign : IpEndpoint)
    (hq : pcb.queue = [])
    (hok : env.ipOutput ⟨env.random, pcb.rcvNxt, TCP_FLG_SYN, 65535, [], localEp, foreign⟩ = true) :
    (tcpOpenRfc793Active env pcb localEp foreign).1.state = .synSent ∧
      TcpSynSentFrom (tcpOpenRfc793Active env pcb localEp foreign).1 localEp foreign env.random := by
  rw [tcpOpenRfc793Active_accepted env pcb localEp foreign hok]
  exact ⟨rfl, rfl, rfl, rfl, rfl, rfl, rfl, by simp [hq]⟩

/-- LISTEN answers a bare SYN with its SYN-ACK and has then sent only that SYN. -/
theorem tcpSegmentArrivesPcb_listen_syn (env : TcpEnv) (pcb : TcpPcb) (hst : pcb.state = .listen)
    (hq : pcb.queue = []) (seq ack : UInt32) (wnd : UInt16) (localEp foreign : IpEndpoint) :
    ∃ pcb', tcpSegmentArrivesPcb env pcb
        (TcpSegmentOut.arrival ⟨seq, ack, TCP_FLG_SYN, wnd, [], foreign, localEp⟩) =
        (pcb', [⟨env.random, seq + 1, TCP_FLG_SYN ||| TCP_FLG_ACK, 65535, [], localEp, foreign⟩]) ∧
      pcb'.state = .synReceived ∧ pcb'.irs = seq ∧ pcb'.rcvNxt = seq + 1 ∧
      pcb'.sndWl1 = pcb.sndWl1 ∧ TcpSynSentFrom pcb' localEp foreign env.random := by
  rw [tcpSegmentArrivesPcb_listen env pcb _ hst, tcpSegmentArrivesListen_syn env pcb _ rfl]
  exact ⟨_, rfl, rfl, rfl, rfl, rfl, rfl, rfl, rfl, rfl, rfl, rfl, by simp [hq]⟩

section SynSent

variable (env : TcpEnv) {pcb : TcpPcb} {a : TcpArrival}
  (huna : pcb.sndUna = pcb.iss) (hnxt : pcb.sndNxt = pcb.iss + 1)
  (hack : a.seg.ack = pcb.iss + 1) (hwrap : pcb.iss.toNat + 1 < 2 ^ 32)
include huna hnxt hack hwrap

/-- SYN-SENT takes the SYN-ACK of its SYN: the SYN is acknowledged, and the ACK goes out from ESTABLISHED. -/
theorem tcpSegmentArrivesSynSent_synAck (hflags : a.flags = TCP_FLG_SYN ||| TCP_FLG_ACK) :
    tcpSegmentArrivesSynSent env pcb a =
      ({ pcb with
          rcvNxt := a.seg.seq + 1, irs := a.seg.seq, sndUna := pcb.iss + 1,
          queue := tcpRetransmitQueueCleanupLoop (pcb.iss + 1) pcb.queue, state := .established,
          sndWnd := a.seg.wnd, sndWl1 := a.seg.seq, sndWl2 := a.seg.ack },
        [⟨pcb.iss + 1, a.seg.seq + 1, TCP_FLG_ACK, pcb.rcvWnd, [], pcb.localEp, pcb.foreign⟩]) := by
  have hlt : pcb.iss < pcb.iss + 1 := seq_lt_add_one hwrap
  have hack' : tcpFlgIsset (TCP_FLG_SYN ||| TCP_FLG_ACK) TCP_FLG_ACK = true := by decide
  have hsyn : tcpFlgIsset (TCP_FLG_SYN ||| TCP_FLG_ACK) TCP_FLG_SYN = true := by decide
  have hackSeq : tcpFlgIsset TCP_FLG_ACK TCP_FLG_SYN = false := by decide
  have hq : tcpOutputQueues TCP_FLG_ACK [] = false := by decide
  -- the ACK field is above iss and not above snd.nxt, so the segment is acceptable
  have hle : pcb.iss ≤ pcb.iss + 1 := UInt32.le_of_lt hlt
  have hnle : ¬pcb.iss + 1 ≤ pcb.iss := UInt32.not_le.mpr hlt
  have hnlt : ¬pcb.iss + 1 < pcb.iss + 1 := UInt32.lt_irrefl _
  simp [tcpSegmentArrivesSynSent, hflags, hack, huna, hnxt, hack', hsyn, hle, hnle, hnlt, hlt,
    tcpRetransmitQueueCleanup, tcpOutput, tcpOutputSeq, hackSeq, hq]

end SynSent

/-- A segment at rcv.nxt is acceptable in an open window that does not wrap, with or without text. -/
theorem tcpSegmentAcceptable_rcvNxt {pcb : TcpPcb} {seg : TcpSegmentInfo}
    (hst : pcb.state ∈ [.synReceived, .established, .finWait1, .finWait2, .closeWait, .lastAck])
    (hseq : seg.seq = pcb.rcvNxt) (hwnd : pcb.rcvWnd ≠ 0)
    (hwin : pcb.rcvNxt.toNat + pcb.rcvWnd.toNat < 2 ^ 32) :
    tcpSegmentAcceptable pcb seg = true := by
  -- the window does not wrap, so it holds rcv.nxt itself
  have hin : pcb.rcvNxt < pcb.rcvNxt + pcb.rcvWnd.toUInt32 := by
    have hpos : 0 < pcb.rcvWnd.toNat := Nat.pos_of_ne_zero fun h => hwnd (UInt16.toNat_inj.mp h)
    rw [UInt32.lt_iff_toNat_lt, UInt32.toNat_add, UInt16.toNat_toUInt32]
    omega
  simp only [List.mem_cons, List.not_mem_nil, or_false] at hst
  unfold tcpSegmentAcceptable
  rcases hst with hst | hst | hst | hst | hst | hst <;> simp [hst, hwnd, hseq, hin]

@[simp] theorem tcpSegmentArrivesWindowUpdate_state (pcb : TcpPcb) (seg : TcpSegmentInfo) :
    (tcpSegmentArrivesWindowUpdate pcb seg).state = pcb.state := by
  unfold tcpSegmentArrivesWindowUpdate
  split <;> rfl

section SynReceived

variable (env : TcpEnv) {pcb : TcpPcb} {a : TcpArrival}
  (huna : pcb.sndUna = pcb.iss) (hnxt : pcb.sndNxt = pcb.iss + 1)
  (hack : a.seg.ack = pcb.iss + 1) (hwrap : pcb.iss.toNat + 1 < 2 ^ 32)
include huna hnxt hack hwrap

/-- The 5th check in SYN-RECEIVED, for the ACK of the SYN: ESTABLISHED, the SYN acknowledged and the window taken. -/
theorem tcpSegmentArrivesAck_synReceived (hst : pcb.state = .synReceived) :
    tcpSegmentArrivesAck env pcb a =
      (tcpSegmentArrivesWindowUpdate
        { pcb with
          state := .established, sndUna := pcb.iss + 1,
          queue := tcpRetransmitQueueCleanupLoop (pcb.iss + 1) pcb.queue } a.seg, [], true) := by
  have hlt : pcb.iss < pcb.iss + 1 := seq_lt_add_one hwrap
  have hle : pcb.iss ≤ pcb.iss + 1 := UInt32.le_of_lt hlt
  unfold tcpSegmentArrivesAck
  rw [hst]
  simp only [huna, hnxt, hack, hle, UInt32.le_refl, decide_true, Bool.and_self, if_true,
    tcpSegmentArrivesAckEstablished, hlt, tcpRetransmitQueueCleanup, tcpSegmentArrivesAckState,
    tcpSegmentArrivesWindowUpdate_state]

/-- SYN-RECEIVED takes the bare ACK of its SYN at rcv.nxt: it is ESTABLISHED and sends nothing. -/
theorem tcpSegmentArrivesOtherwise_synReceived_ack (hst : pcb.state = .synReceived)
    (hflags : a.flags = TCP_FLG_ACK) (hdata : a.data = [])
    (hseq : a.seg.seq = pcb.rcvNxt) (hwnd : pcb.rcvWnd ≠ 0)
    (hwin : pcb.rcvNxt.toNat + pcb.rcvWnd.toNat < 2 ^ 32) :
    tcpSegmentArrivesOtherwise env pcb a =
      (tcpSegmentArrivesWindowUpdate
        { pcb with
          state := .established, sndUna := pcb.iss + 1,
          queue := tcpRetransmitQueueCleanupLoop (pcb.iss + 1) pcb.queue } a.seg, []) := by
  have hacc := tcpSegmentAcceptable_rcvNxt (by simp [hst]) hseq hwnd hwin
  have hackFlag : tcpFlgIsset TCP_FLG_ACK TCP_FLG_ACK = true := by decide
  have hfin : tcpFlgIsset a.flags TCP_FLG_FIN = false := by
    rw [hflags]
    decide
  unfold tcpSegmentArrivesOtherwise
  simp only [hacc, hflags, hackFlag, Bool.not_true, Bool.false_eq_true, if_false,
    tcpSegmentArrivesAck_synReceived env huna hnxt hack hwrap hst]
  rw [tcpSegmentArrivesText_eq, if_neg (fun h => h.2 hdata), tcpSegmentArrivesFin_of_not_fin env _ a hfin]
  rfl

end SynReceived

theorem tcpSegmentArrivesWindowUpdate_of_lt {pcb : TcpPcb} {seg : TcpSegmentInfo}
    (h : pcb.sndWl1 < seg.seq) :
    tcpSegmentArrivesWindowUpdate pcb seg =
      { pcb with sndWnd := seg.wnd, sndWl1 := seg.seq, sndWl2 := seg.ack } := by
  simp [tcpSegmentArrivesWindowUpdate, h]

/-- A pcb ESTABLISHED between {lit}`localEp` and {lit}`foreign` right after the handshake: its SYN from {lit}`iss` and the peer's from {lit}`irs` both acknowledged, the peer's window {lit}`wnd` taken from a segment at or below the peer's next sequence number, nothing left to retransmit. -/
structure TcpOpenedWith (pcb : TcpPcb) (localEp foreign : IpEndpoint) (iss irs : UInt32)
    (wnd : UInt16) : Prop where
  state_eq : pcb.state = .established
  localEp_eq : pcb.localEp = localEp
  foreign_eq : pcb.foreign = foreign
  iss_eq : pcb.iss = iss
  irs_eq : pcb.irs = irs
  una : pcb.sndUna = iss + 1
  nxt : pcb.sndNxt = iss + 1
  rcvNxt_eq : pcb.rcvNxt = irs + 1
  sndWnd_eq : pcb.sndWnd = wnd
  rcvWnd_eq : pcb.rcvWnd = 65535
  queue_eq : pcb.queue = []
  wl : pcb.sndWl1 < irs + 1 ∨ (pcb.sndWl1 = irs + 1 ∧ pcb.sndWl2 ≤ iss + 1)

namespace TcpSynSentFrom

variable (env : TcpEnv) {pcb : TcpPcb} {localEp foreign : IpEndpoint} {iss : UInt32}

/-- SYN-SENT takes the SYN-ACK of its SYN from the wire and answers with the ACK. -/
theorem synSent_synAck (h : TcpSynSentFrom pcb localEp foreign iss) (hst : pcb.state = .synSent)
    (hwrap : iss.toNat + 1 < 2 ^ 32) {seq : UInt32} (hseq : seq.toNat + 1 < 2 ^ 32) (wnd : UInt16) :
    ∃ pcb', tcpSegmentArrivesPcb env pcb
        (TcpSegmentOut.arrival ⟨seq, iss + 1, TCP_FLG_SYN ||| TCP_FLG_ACK, wnd, [], foreign, localEp⟩) =
        (pcb', [⟨iss + 1, seq + 1, TCP_FLG_ACK, 65535, [], localEp, foreign⟩]) ∧
      TcpOpenedWith pcb' localEp foreign iss seq wnd := by
  rw [tcpSegmentArrivesPcb_synSent env pcb _ hst,
    tcpSegmentArrivesSynSent_synAck env h.sndUna_eq h.sndNxt_eq (by rw [h.iss_eq]; rfl)
      (by rw [h.iss_eq]; exact hwrap) rfl,
    h.cleanup_eq_nil hwrap]
  refine ⟨_, Prod.ext rfl ?_, rfl, h.localEp_eq, h.foreign_eq, h.iss_eq, rfl, congrArg (· + 1) h.iss_eq,
    h.nxt, rfl, rfl, h.rcvWnd_eq, rfl, .inl (seq_lt_add_one hseq)⟩
  rw [h.iss_eq, h.rcvWnd_eq, h.localEp_eq, h.foreign_eq]
  rfl

/-- SYN-RECEIVED takes the ACK of its SYN at rcv.nxt from the wire, the first segment it takes a send window from. -/
theorem synReceived_ack (h : TcpSynSentFrom pcb localEp foreign iss) (hst : pcb.state = .synReceived)
    (hwrap : iss.toNat + 1 < 2 ^ 32) {irs : UInt32} (hirs : pcb.irs = irs) (hrcv : pcb.rcvNxt = irs + 1)
    (hwin : (irs + 1).toNat + 65535 < 2 ^ 32) (hwl : pcb.sndWl1 < irs + 1) (wnd : UInt16) :
    ∃ pcb', tcpSegmentArrivesPcb env pcb
        (TcpSegmentOut.arrival ⟨irs + 1, iss + 1, TCP_FLG_ACK, wnd, [], foreign, localEp⟩) = (pcb', []) ∧
      TcpOpenedWith pcb' localEp foreign iss irs wnd := by
  have hsync : pcb.state ≠ .closed ∧ pcb.state ≠ .listen ∧ pcb.state ≠ .synSent := by
    rw [hst]
    decide
  rw [tcpSegmentArrivesPcb_otherwise env pcb _ hsync.1 hsync.2.1 hsync.2.2,
    tcpSegmentArrivesOtherwise_synReceived_ack env h.sndUna_eq h.sndNxt_eq (by rw [h.iss_eq]; rfl)
      (by rw [h.iss_eq]; exact hwrap) hst rfl rfl hrcv.symm (by rw [h.rcvWnd_eq]; decide)
      (by rw [hrcv, h.rcvWnd_eq]; exact hwin),
    tcpSegmentArrivesWindowUpdate_of_lt, h.cleanup_eq_nil hwrap]
  · exact ⟨_, rfl, rfl, h.localEp_eq, h.foreign_eq, h.iss_eq, hirs, congrArg (· + 1) h.iss_eq, h.nxt,
      hrcv, rfl, h.rcvWnd_eq, rfl, .inr ⟨rfl, UInt32.le_refl _⟩⟩
  · exact hwl

end TcpSynSentFrom

/-! ## The handshake -/

/-- Two ends of one connection, synchronized: both ESTABLISHED on each other's endpoints, each side's initial sequence number the other's irs, all sent acknowledged and expected, each window the other's, no retransmission pending. -/
structure TcpSynchronized (a b : TcpPcb) : Prop where
  established : a.state = .established ∧ b.state = .established
  endpoints : a.localEp = b.foreign ∧ a.foreign = b.localEp
  iss : a.iss = b.irs ∧ b.iss = a.irs
  acked : a.sndUna = a.sndNxt ∧ b.sndUna = b.sndNxt
  next : a.sndNxt = b.rcvNxt ∧ b.sndNxt = a.rcvNxt
  window : a.sndWnd = b.rcvWnd ∧ b.sndWnd = a.rcvWnd
  drained : a.queue = [] ∧ b.queue = []

/-- Two pcbs opened with each other's endpoints, initial sequence numbers and receive windows are synchronized. -/
theorem TcpSynchronized.of_opened {a b : TcpPcb} {localA localB : IpEndpoint} {issA issB : UInt32}
    (ha : TcpOpenedWith a localA localB issA issB 65535)
    (hb : TcpOpenedWith b localB localA issB issA 65535) : TcpSynchronized a b where
  established := ⟨ha.state_eq, hb.state_eq⟩
  endpoints := ⟨ha.localEp_eq.trans hb.foreign_eq.symm, ha.foreign_eq.trans hb.localEp_eq.symm⟩
  iss := ⟨ha.iss_eq.trans hb.irs_eq.symm, hb.iss_eq.trans ha.irs_eq.symm⟩
  acked := ⟨ha.una.trans ha.nxt.symm, hb.una.trans hb.nxt.symm⟩
  next := ⟨ha.nxt.trans hb.rcvNxt_eq.symm, hb.nxt.trans ha.rcvNxt_eq.symm⟩
  window := ⟨ha.sndWnd_eq.trans hb.rcvWnd_eq.symm, hb.sndWnd_eq.trans ha.rcvWnd_eq.symm⟩
  drained := ⟨ha.queue_eq, hb.queue_eq⟩

/-- B listens on its endpoint, A opens to it, and the SYN, the SYN-ACK and the ACK are delivered in turn. -/
def tcpHandshake (envA1 envA2 envB1 envB2 envB3 : TcpEnv) (localA localB : IpEndpoint) :
    List TcpLinkEvent :=
  [.atB envB1 (.openCall localB none false), .atA envA1 (.openCall localA (some localB) true),
    .deliverB envB2, .deliverA envA2, .deliverB envB3]

/-- The handshake leaves each host with its connection in slot 0, opened with the other's endpoints and initial sequence numbers, and nothing in flight. -/
theorem tcpLinkRun_handshake (envA1 envA2 envB1 envB2 envB3 : TcpEnv)
    (localA localB : IpEndpoint) (hport : localB.port ≠ 0)
    (hissA : envA1.random.toNat + 65536 < 2 ^ 32) (hissB : envB2.random.toNat + 1 < 2 ^ 32)
    (hokA1 : ∀ s, envA1.ipOutput s = true) (hokB2 : ∀ s, envB2.ipOutput s = true)
    (hokA2 : ∀ s, envA2.ipOutput s = true) :
    ∃ pcbA pcbB,
      (tcpLinkRun (tcpHandshake envA1 envA2 envB1 envB2 envB3 localA localB)).1 =
        ⟨pcbA :: List.replicate 15 TcpPcb.zero, pcbB :: List.replicate 15 TcpPcb.zero, [], []⟩ ∧
      TcpOpenedWith pcbA localA localB envA1.random envB2.random 65535 ∧
      TcpOpenedWith pcbB localB localA envB2.random envA1.random 65535 := by
  have hwrapA : envA1.random.toNat + 1 < 2 ^ 32 := by omega
  -- B listens on localB
  obtain ⟨pcbB1, hB1⟩ : ∃ p, p = tcpOpenRfc793Passive TcpPcb.zero.alloc localB none := ⟨_, rfl⟩
  have h1 : (tcpLinkStep (.atB envB1 (.openCall localB none false)) tcpLinkInit).1 =
      ⟨tcpPcbsInit, pcbB1 :: List.replicate 15 TcpPcb.zero, [], []⟩ := by
    rw [tcpLinkStep_atB, tcpStackStep_openPassive (i := 0) rfl rfl, hB1]
    rfl
  -- A sends its SYN from SYN-SENT
  obtain ⟨pcbA1, hA1eq⟩ : ∃ p, p = (tcpOpenRfc793Active envA1 TcpPcb.zero.alloc localA localB).1 :=
    ⟨_, rfl⟩
  obtain ⟨hA1st, hA1⟩ : pcbA1.state = .synSent ∧ TcpSynSentFrom pcbA1 localA localB envA1.random := by
    rw [hA1eq]
    exact tcpOpenRfc793Active_synSentFrom envA1 _ localA localB rfl (hokA1 _)
  have h2 : (tcpLinkStep (.atA envA1 (.openCall localA (some localB) true))
      ⟨tcpPcbsInit, pcbB1 :: List.replicate 15 TcpPcb.zero, [], []⟩).1 =
      ⟨pcbA1 :: List.replicate 15 TcpPcb.zero, pcbB1 :: List.replicate 15 TcpPcb.zero, [],
        [⟨envA1.random, 0, TCP_FLG_SYN, 65535, [], localA, localB⟩]⟩ := by
    rw [tcpLinkStep_atA]
    dsimp only
    rw [tcpStackStep_openActive (i := 0) rfl rfl, ← hA1eq,
      tcpOpenRfc793Active_accepted envA1 _ localA localB (hokA1 _)]
    simp only [TcpObs.sent_out, List.filter_cons, hokA1, if_true, List.filter_nil, List.nil_append]
    rfl
  -- B's LISTEN pcb answers the SYN with its SYN-ACK from SYN-RECEIVED
  have hselB : tcpPcbSelect (pcbB1 :: List.replicate 15 TcpPcb.zero) localB (some localA) = some 0 := by
    refine tcpPcbSelect_cons_listen ?_ ?_ hport _ _
    · simp [hB1, tcpOpenRfc793Passive, TcpPcb.localMatches]
    · simp [hB1, tcpOpenRfc793Passive, TcpPcb.isWildcardListen, TcpPcb.alloc, TcpPcb.zero,
        IP_ADDR_ANY]
  obtain ⟨pcbB2, harrB2, hB2st, hB2irs, hB2rcv, hB2wl1, hB2⟩ :=
    tcpSegmentArrivesPcb_listen_syn envB2 pcbB1 (by rw [hB1]; rfl) (by rw [hB1]; rfl) envA1.random 0
      65535 localB localA
  have h3 : (tcpLinkStep (.deliverB envB2)
      ⟨pcbA1 :: List.replicate 15 TcpPcb.zero, pcbB1 :: List.replicate 15 TcpPcb.zero, [],
        [⟨envA1.random, 0, TCP_FLG_SYN, 65535, [], localA, localB⟩]⟩).1 =
      ⟨pcbA1 :: List.replicate 15 TcpPcb.zero, pcbB2 :: List.replicate 15 TcpPcb.zero,
        [⟨envB2.random, envA1.random + 1, TCP_FLG_SYN ||| TCP_FLG_ACK, 65535, [], localB, localA⟩], []⟩ :=
    tcpLinkStep_deliverB_head envB2 rfl rfl hselB harrB2 fun x _ => hokB2 x
  -- A's SYN-SENT pcb takes the SYN-ACK and acknowledges it from ESTABLISHED
  obtain ⟨pcbA2, harrA2, hA2⟩ := hA1.synSent_synAck envA2 hA1st hwrapA hissB 65535
  have h4 : (tcpLinkStep (.deliverA envA2)
      ⟨pcbA1 :: List.replicate 15 TcpPcb.zero, pcbB2 :: List.replicate 15 TcpPcb.zero,
        [⟨envB2.random, envA1.random + 1, TCP_FLG_SYN ||| TCP_FLG_ACK, 65535, [], localB, localA⟩], []⟩).1 =
      ⟨pcbA2 :: List.replicate 15 TcpPcb.zero, pcbB2 :: List.replicate 15 TcpPcb.zero, [],
        [⟨envA1.random + 1, envB2.random + 1, TCP_FLG_ACK, 65535, [], localA, localB⟩]⟩ :=
    tcpLinkStep_deliverA_head envA2 rfl rfl (tcpPcbSelect_cons_exact hA1.localEp_eq hA1.foreign_eq _)
      harrA2 fun x _ => hokA2 x
  -- B's SYN-RECEIVED pcb takes the ACK at rcv.nxt: ESTABLISHED, and nothing is sent
  have hwl : pcbB2.sndWl1 < envA1.random + 1 := by
    rw [hB2wl1, hB1]
    show (0 : UInt32) < envA1.random + 1
    simp only [UInt32.lt_iff_toNat_lt, UInt32.toNat_add, UInt32.toNat_one, UInt32.toNat_zero]
    omega
  have hwin : (envA1.random + 1).toNat + 65535 < 2 ^ 32 := by
    rw [UInt32.toNat_add, UInt32.toNat_one]
    omega
  obtain ⟨pcbB3, harrB3, hB3⟩ := hB2.synReceived_ack envB3 hB2st hissB hB2irs hB2rcv hwin hwl 65535
  have h5 : (tcpLinkStep (.deliverB envB3)
      ⟨pcbA2 :: List.replicate 15 TcpPcb.zero, pcbB2 :: List.replicate 15 TcpPcb.zero, [],
        [⟨envA1.random + 1, envB2.random + 1, TCP_FLG_ACK, 65535, [], localA, localB⟩]⟩).1 =
      ⟨pcbA2 :: List.replicate 15 TcpPcb.zero, pcbB3 :: List.replicate 15 TcpPcb.zero, [], []⟩ :=
    tcpLinkStep_deliverB_head envB3 rfl rfl (tcpPcbSelect_cons_exact hB2.localEp_eq hB2.foreign_eq _)
      harrB3 fun x hx => absurd hx List.not_mem_nil
  refine ⟨pcbA2, pcbB3, ?_, hA2, hB3⟩
  rw [tcpLinkRun, tcpHandshake, Run.run_cons, h1, Run.run_cons, h2, Run.run_cons, h3, Run.run_cons, h4,
    Run.run_cons, h5, Run.run_nil]

theorem tcp_handshake_synchronizes (envA1 envA2 envB1 envB2 envB3 : TcpEnv)
    (localA localB : IpEndpoint) (hport : localB.port ≠ 0)
    (hissA : envA1.random.toNat + 65536 < 2 ^ 32) (hissB : envB2.random.toNat + 1 < 2 ^ 32)
    (hokA1 : ∀ s, envA1.ipOutput s = true) (hokB2 : ∀ s, envB2.ipOutput s = true)
    (hokA2 : ∀ s, envA2.ipOutput s = true) :
    ∃ pcbA pcbB,
      (tcpLinkRun (tcpHandshake envA1 envA2 envB1 envB2 envB3 localA localB)).1 =
        ⟨pcbA :: List.replicate 15 TcpPcb.zero, pcbB :: List.replicate 15 TcpPcb.zero, [], []⟩ ∧
      TcpSynchronized pcbA pcbB ∧ pcbA.localEp = localA ∧ pcbA.foreign = localB ∧
      pcbA.iss = envA1.random ∧ pcbB.iss = envB2.random := by
  obtain ⟨pcbA, pcbB, hrun, hA, hB⟩ :=
    tcpLinkRun_handshake envA1 envA2 envB1 envB2 envB3 localA localB hport hissA hissB hokA1 hokB2 hokA2
  exact ⟨pcbA, pcbB, hrun, TcpSynchronized.of_opened hA hB, hA.localEp_eq, hA.foreign_eq, hA.iss_eq,
    hB.iss_eq⟩

/-- B, 10.0.0.1, listens on port 7 and A, 10.0.0.2, connects from port 9; {lit}`random` returns 100 at A and 5000 at B. -/
def tcpHandshakeEcho : List TcpLinkEvent :=
  tcpHandshake tcpEnvFixed tcpEnvFixed tcpEnvFixed { tcpEnvFixed with random := 5000 } tcpEnvFixed
    ⟨0x0a000002, 9⟩ ⟨0x0a000001, 7⟩

theorem tcp_handshake_synchronizes_echo :
    ∃ pcbA pcbB,
      (tcpLinkRun tcpHandshakeEcho).1 =
        ⟨pcbA :: List.replicate 15 TcpPcb.zero, pcbB :: List.replicate 15 TcpPcb.zero, [], []⟩ ∧
      TcpSynchronized pcbA pcbB ∧ pcbA.localEp = ⟨0x0a000002, 9⟩ ∧ pcbA.foreign = ⟨0x0a000001, 7⟩ ∧
      pcbA.iss = 100 ∧ pcbB.iss = 5000 :=
  tcp_handshake_synchronizes tcpEnvFixed tcpEnvFixed tcpEnvFixed { tcpEnvFixed with random := 5000 }
    tcpEnvFixed _ _ (by decide) (by decide) (by decide) (fun _ => rfl) (fun _ => rfl) (fun _ => rfl)

end ProtocolStack
