import Mathlib
import ProtocolStack.Tcp.System

/-!
# The receive stream of a connection

What the receive side of {lit}`tcp.c` does with the peer's bytes over a whole
run of one connection.  The 7th step of {lit}`tcp_segment_arrives` copies a
segment's payload behind the bytes the buffer holds, and {lit}`tcp_receive`
hands bytes from the front of the buffer to the user.  The ghost
{lit}`tcpStepCopied` records what each step copied, and three invariants of a
connection run relate it to the pcb:

* the bytes returned so far followed by the bytes held are the bytes copied,
  as long as every copy fits the window ({lit}`RecvBufferInv`);
* rcv.nxt is irs + 1 plus the number of bytes copied, plus one once the
  peer's FIN is in ({lit}`RecvSeqInv`), as long as the segments accepted are
  the idealized segments the source assumes;
* the bytes copied are a prefix of the peer's stream.

The source states its assumption in a comment after the 1st check: a segment
is taken to begin at RCV.NXT and not to exceed the window, and it is not
trimmed to fit.  Segments that break it give the counterexamples.
-/

namespace ProtocolStack

/-- The bytes returned to the user over a run. -/
def TcpObs.delivered (os : List TcpObs) : List UInt8 :=
  (os.map TcpObs.received).flatten

@[simp] theorem TcpObs.delivered_nil : TcpObs.delivered [] = [] :=
  rfl

@[simp] theorem TcpObs.delivered_append (os os' : List TcpObs) :
    TcpObs.delivered (os ++ os') = TcpObs.delivered os ++ TcpObs.delivered os' := by
  simp [TcpObs.delivered]

@[simp] theorem TcpObs.delivered_cons (o : TcpObs) (os : List TcpObs) :
    TcpObs.delivered (o :: os) = o.received ++ TcpObs.delivered os := by
  simp [TcpObs.delivered]

@[simp] theorem TcpObs.delivered_singleton (o : TcpObs) : TcpObs.delivered [o] = o.received := by
  simp [TcpObs.delivered]

/-- The payload the 7th step copies into the buffer when {lit}`a` arrives (ghost). -/
def tcpSegmentArrivesCopied (env : TcpEnv) (pcb : TcpPcb) (a : TcpArrival) : List UInt8 :=
  match pcb.state with
  | .closed | .listen | .synSent => []
  | _ =>
      if tcpSegmentAcceptable pcb a.seg = true ∧ tcpFlgIsset a.flags TCP_FLG_ACK = true ∧
          (tcpSegmentArrivesAck env pcb a).2.2 = true ∧
          (tcpSegmentArrivesAck env pcb a).1.state.processesText = true then a.data
      else []

/-- What a step of a connection copies into the receive buffer (ghost). -/
def tcpStepCopied : TcpEnv × TcpEvent → TcpPcb → List UInt8
  | (env, .arrive a), pcb => tcpSegmentArrivesCopied env pcb a
  | _, _ => []

/-- The payloads copied over a run from the zero-filled pcb. -/
def tcpCopied (evs : List (TcpEnv × TcpEvent)) : List UInt8 :=
  (Run.ghost tcpStep tcpStepCopied TcpPcb.zero evs).flatten

/-!
## Connection runs and assumptions about the peer
-/

/--
The events of one connection under the assumption {lit}`P`: the first finds
the pcb zero-filled, no later one finds it FREE (it is not released and
allocated to another connection), and each satisfies {lit}`P` in the state it
is applied to.
-/
def TcpConnectionRun (P : TcpPcb → TcpEnv × TcpEvent → Prop) :
    List (TcpEnv × TcpEvent) → Prop
  | [] => True
  | ev :: evs =>
      P TcpPcb.zero ev ∧
        Run.Admissible tcpStep (fun pcb ev => pcb.state ≠ .free ∧ P pcb ev)
          (tcpStep ev TcpPcb.zero).1 evs

instance (P : TcpPcb → TcpEnv × TcpEvent → Prop) [∀ pcb ev, Decidable (P pcb ev)] :
    ∀ evs, Decidable (TcpConnectionRun P evs)
  | [] => isTrue trivial
  | _ :: _ => inferInstanceAs (Decidable (_ ∧ _))

/-- The segment an event delivers, if it is an arrival. -/
def TcpEvent.arrival? : TcpEvent → Option TcpArrival
  | .arrive a => some a
  | _ => none

/-- An assumption about the segments that arrive, as one about the events. -/
def OnArrival (Q : TcpPcb → TcpArrival → Prop) (pcb : TcpPcb) (ev : TcpEnv × TcpEvent) :
    Prop :=
  ∀ a ∈ ev.2.arrival?, Q pcb a

instance (Q : TcpPcb → TcpArrival → Prop) [∀ pcb a, Decidable (Q pcb a)] (pcb : TcpPcb)
    (ev : TcpEnv × TcpEvent) : Decidable (OnArrival Q pcb ev) :=
  inferInstanceAs (Decidable (∀ a ∈ ev.2.arrival?, Q pcb a))

/-- The payload of an acceptable segment fits the receive window. -/
def TcpArrival.FitsWindow (pcb : TcpPcb) (a : TcpArrival) : Prop :=
  tcpSegmentAcceptable pcb a.seg = true → a.data.length ≤ pcb.rcvWnd.toNat

instance (pcb : TcpPcb) (a : TcpArrival) : Decidable (a.FitsWindow pcb) :=
  inferInstanceAs (Decidable (_ → _))

/-- What {lit}`tcp_input` makes of {lit}`seg.len`: the payload, plus one for SYN and one for FIN. -/
def TcpArrival.LenConsistent (a : TcpArrival) : Prop :=
  a.seg.len = UInt16.ofNat a.data.length + (if tcpFlgIsset a.flags TCP_FLG_SYN then 1 else 0) +
    (if tcpFlgIsset a.flags TCP_FLG_FIN then 1 else 0)

instance (a : TcpArrival) : Decidable a.LenConsistent :=
  inferInstanceAs (Decidable (_ = _))

/-- An invariant of a connection and its ghost histories, set up by the first event and kept by every later one, holds after every connection run. -/
theorem TcpConnectionRun.invariant {P : TcpPcb → TcpEnv × TcpEvent → Prop}
    (I : TcpPcb → List UInt8 → List UInt8 → Prop) (hzero : I TcpPcb.zero [] [])
    (hfirst : ∀ ev, P TcpPcb.zero ev →
      I (tcpStep ev TcpPcb.zero).1 (tcpStep ev TcpPcb.zero).2.received
        (tcpStepCopied ev TcpPcb.zero))
    (hstep : ∀ pcb ev d c, I pcb d c → pcb.state ≠ .free → P pcb ev →
      I (tcpStep ev pcb).1 (d ++ (tcpStep ev pcb).2.received) (c ++ tcpStepCopied ev pcb)) :
    ∀ evs, TcpConnectionRun P evs →
      I (tcpRun evs).1 (TcpObs.delivered (tcpRun evs).2) (tcpCopied evs)
  | [], _ => hzero
  | ev :: evs, ⟨hP, hadm⟩ => by
      have h := Run.invariant_of_admissible_step_ghost tcpStep _ tcpStepCopied
        (fun pcb os gs => I pcb (TcpObs.delivered os) gs.flatten)
        (fun pcb ev os gs hI hQ => by simpa using hstep pcb ev _ _ hI hQ.1 hQ.2)
        (tcpStep ev TcpPcb.zero).1 [(tcpStep ev TcpPcb.zero).2] [tcpStepCopied ev TcpPcb.zero] evs
        (by simpa using hfirst ev hP) hadm
      simpa [tcpRun, tcpCopied] using h

/-- The last event of a connection run satisfies the assumption in the state the run before it reached. -/
theorem TcpConnectionRun.last {P : TcpPcb → TcpEnv × TcpEvent → Prop}
    {evs : List (TcpEnv × TcpEvent)} {ev : TcpEnv × TcpEvent}
    (h : TcpConnectionRun P (evs ++ [ev])) : P (tcpRun evs).1 ev := by
  cases evs with
  | nil => exact h.1
  | cons e es =>
      obtain ⟨-, hadm⟩ := h
      exact ((Run.admissible_append tcpStep _ _ es [ev]).mp hadm).2.1.2

/-!
## The bytes held
-/

theorem TcpPcb.SameRecv.held_eq {p q : TcpPcb} (h : p.SameRecv q) : q.held = p.held := by
  simp [TcpPcb.held, h.rcvWnd, h.buf]

theorem TcpPcb.held_of_rcvWnd {pcb : TcpPcb} (h : pcb.rcvWnd = 65535) : pcb.held = [] := by
  simp [TcpPcb.held, h, TCP_BUF_SIZE, bufPrefix]

/-- A copy that fits the window appends the payload to the bytes held. -/
theorem held_copy (pcb : TcpPcb) (seq : UInt32) (data : List UInt8)
    (h : data.length ≤ pcb.rcvWnd.toNat) :
    ({ pcb with
        buf := memcpyAt pcb.buf (TCP_BUF_SIZE - pcb.rcvWnd.toNat) data, rcvNxt := seq,
        rcvWnd := pcb.rcvWnd - UInt16.ofNat data.length } : TcpPcb).held = pcb.held ++ data := by
  have hwnd : pcb.rcvWnd.toNat < 2 ^ 16 := pcb.rcvWnd.toNat_lt
  have hsub : (pcb.rcvWnd - UInt16.ofNat data.length).toNat = pcb.rcvWnd.toNat - data.length := by
    rw [UInt16.toNat_sub_of_le]
    · simp only [UInt16.toNat_ofNat']
      rw [Nat.mod_eq_of_lt (by omega)]
    · rw [UInt16.le_iff_toNat_le, UInt16.toNat_ofNat', Nat.mod_eq_of_lt (by omega)]
      exact h
  have hoff : TCP_BUF_SIZE - (pcb.rcvWnd - UInt16.ofNat data.length).toNat =
      (TCP_BUF_SIZE - pcb.rcvWnd.toNat) + data.length := by
    rw [hsub]
    simp only [TCP_BUF_SIZE] at hwnd ⊢
    omega
  simp only [TcpPcb.held, hoff]
  exact bufPrefix_memcpyAt pcb.buf _ data

theorem tcpSegmentArrivesCopied_of_opening (env : TcpEnv) (pcb : TcpPcb) (a : TcpArrival)
    (h : pcb.state = .closed ∨ pcb.state = .listen ∨ pcb.state = .synSent) :
    tcpSegmentArrivesCopied env pcb a = [] := by
  rcases h with h | h | h <;> simp [tcpSegmentArrivesCopied, h]

theorem tcpSegmentArrivesCopied_eq (env : TcpEnv) (pcb : TcpPcb) (a : TcpArrival)
    (hc : pcb.state ≠ .closed) (hl : pcb.state ≠ .listen) (hs : pcb.state ≠ .synSent) :
    tcpSegmentArrivesCopied env pcb a =
      if tcpSegmentAcceptable pcb a.seg = true ∧ tcpFlgIsset a.flags TCP_FLG_ACK = true ∧
          (tcpSegmentArrivesAck env pcb a).2.2 = true ∧
          (tcpSegmentArrivesAck env pcb a).1.state.processesText = true then a.data
      else [] := by
  unfold tcpSegmentArrivesCopied
  split <;> simp_all

/-- The copy of the 7th step, as a pcb. -/
def TcpPcb.withText (pcb : TcpPcb) (a : TcpArrival) : TcpPcb :=
  { pcb with
    buf := memcpyAt pcb.buf (TCP_BUF_SIZE - pcb.rcvWnd.toNat) a.data,
    rcvNxt := a.seg.seq + a.seg.len.toUInt32,
    rcvWnd := pcb.rcvWnd - UInt16.ofNat a.data.length }

/--
What the processing after the 1st check does to the receive side: LAST-ACK
releases the pcb (A); or the 5th check leaves {lit}`pcb1` with the receive
side of {lit}`pcb` and nothing more happens (B), the 8th step takes in a FIN
(C), or the 7th step copies the payload, and the 8th step may take in a FIN
after it (D).
-/
theorem tcpSegmentArrivesOtherwise_recv (env : TcpEnv) (pcb : TcpPcb) (a : TcpArrival)
    (hc : pcb.state ≠ .closed) (hl : pcb.state ≠ .listen) (hs : pcb.state ≠ .synSent) :
    ((tcpSegmentArrivesOtherwise env pcb a).1 = TcpPcb.zero ∧
        tcpSegmentArrivesCopied env pcb a = []) ∨
      (tcpSegmentArrivesCopied env pcb a = [] ∧
        pcb.SameRecv (tcpSegmentArrivesOtherwise env pcb a).1 ∧
        pcb.state.AckStep (tcpSegmentArrivesOtherwise env pcb a).1.state) ∨
      (tcpSegmentAcceptable pcb a.seg = true ∧ tcpFlgIsset a.flags TCP_FLG_FIN = true ∧
        tcpSegmentArrivesCopied env pcb a = [] ∧
        ∃ pcb1, pcb.SameRecv pcb1 ∧ pcb.state.AckStep pcb1.state ∧
          (tcpSegmentArrivesOtherwise env pcb a).1 =
            tcpSegmentArrivesFinState { pcb1 with rcvNxt := a.seg.seq + 1 } a.seg) ∨
      (tcpSegmentAcceptable pcb a.seg = true ∧
        ∃ pcb1, pcb.SameRecv pcb1 ∧ pcb.state.AckStep pcb1.state ∧
          pcb1.state.processesText = true ∧ a.data ≠ [] ∧
          tcpSegmentArrivesCopied env pcb a = a.data ∧
          ((tcpFlgIsset a.flags TCP_FLG_FIN = false ∧
              (tcpSegmentArrivesOtherwise env pcb a).1 = pcb1.withText a) ∨
            (tcpFlgIsset a.flags TCP_FLG_FIN = true ∧
              (tcpSegmentArrivesOtherwise env pcb a).1 =
                tcpSegmentArrivesFinState { pcb1.withText a with rcvNxt := a.seg.seq + 1 }
                  a.seg))) := by
  have hcopied := tcpSegmentArrivesCopied_eq env pcb a hc hl hs
  rw [tcpSegmentArrivesOtherwise_fst]
  by_cases hgo : tcpSegmentAcceptable pcb a.seg = true ∧ tcpFlgIsset a.flags TCP_FLG_ACK = true
  · rw [if_pos hgo]
    rcases tcpSegmentArrivesAck_recv env pcb a with ⟨hstop, hzero⟩ | ⟨hrecv, hstep⟩
    · have hcont : ¬(tcpSegmentArrivesAck env pcb a).2.2 = true := by simp [hstop]
      refine .inl ⟨by rw [if_neg hcont]; exact hzero, by rw [hcopied]; simp [hstop]⟩
    · by_cases hcont : (tcpSegmentArrivesAck env pcb a).2.2 = true
      · have hcp : tcpSegmentArrivesCopied env pcb a =
            if (tcpSegmentArrivesAck env pcb a).1.state.processesText = true then a.data
            else [] := by
          rw [hcopied]; simp [hgo, hcont]
        rw [if_pos hcont, hcp, tcpSegmentArrivesText_fst, tcpSegmentArrivesFin_fst]
        by_cases hcopy : (tcpSegmentArrivesAck env pcb a).1.state.processesText = true ∧
            a.data ≠ []
        · -- (D): the payload is copied
          have hopen : (tcpSegmentArrivesAck env pcb a).1.state ≠ .closed ∧
              (tcpSegmentArrivesAck env pcb a).1.state ≠ .listen := by
            constructor <;> intro h' <;> simp [h', TcpState.processesText] at hcopy
          refine .inr (.inr (.inr ⟨hgo.1, _, hrecv, hstep, hcopy.1, hcopy.2,
            by rw [if_pos hcopy.1], ?_⟩))
          rw [if_pos hcopy]
          by_cases hfin : tcpFlgIsset a.flags TCP_FLG_FIN = true
          · refine .inr ⟨hfin, ?_⟩
            rw [if_pos ⟨hfin, hopen.1, hopen.2⟩]
            rfl
          · refine .inl ⟨by simpa using hfin, ?_⟩
            rw [if_neg (fun h' => hfin h'.1)]
            rfl
        · have hnil : (if (tcpSegmentArrivesAck env pcb a).1.state.processesText = true then
              a.data else []) = [] := by
            by_cases hpt : (tcpSegmentArrivesAck env pcb a).1.state.processesText = true
            · rw [if_pos hpt]
              simpa [hpt] using hcopy
            · rw [if_neg hpt]
          rw [if_neg hcopy, hnil]
          by_cases hfin : tcpFlgIsset a.flags TCP_FLG_FIN = true ∧
              (tcpSegmentArrivesAck env pcb a).1.state ≠ .closed ∧
              (tcpSegmentArrivesAck env pcb a).1.state ≠ .listen
          · -- (C): only the FIN is taken in
            rw [if_pos hfin]
            exact .inr (.inr (.inl ⟨hgo.1, hfin.1, rfl, _, hrecv, hstep, rfl⟩))
          · -- (B): nothing after the 5th check
            rw [if_neg hfin]
            exact .inr (.inl ⟨rfl, hrecv, hstep⟩)
      · rw [if_neg hcont]
        refine .inr (.inl ⟨?_, hrecv, hstep⟩)
        rw [hcopied, if_neg (fun h' => hcont h'.2.2.1)]
  · rw [if_neg hgo, hcopied, if_neg (fun h' => hgo ⟨h'.1, h'.2.1⟩)]
    exact .inr (.inl ⟨rfl, TcpPcb.SameRecv.refl pcb, .inl rfl⟩)

/-!
## The buffer
-/

/-- The receive buffer of a connection holds what was copied and not yet returned. -/
structure RecvBufferInv (pcb : TcpPcb) (delivered copied : List UInt8) : Prop where
  listen : pcb.state = .listen → delivered = [] ∧ copied = [] ∧ pcb.queue = []
  synSent : pcb.state = .synSent → copied = [] ∧ pcb.rcvWnd = 65535
  buffer : pcb.state ≠ .free → pcb.state ≠ .listen → delivered ++ pcb.held = copied

theorem RecvBufferInv.of_free {pcb : TcpPcb} {d c : List UInt8} (h : pcb.state = .free) :
    RecvBufferInv pcb d c where
  listen hl := absurd (h.symm.trans hl) (by decide)
  synSent hs := absurd (h.symm.trans hs) (by decide)
  buffer hf := absurd h hf

/-- A step that keeps the bytes held and leaves LISTEN and SYN-SENT behind keeps the invariant. -/
theorem RecvBufferInv.of_held {p q : TcpPcb} {d c : List UInt8} (h : RecvBufferInv p d c)
    (hp : p.state ≠ .free) (hpl : p.state ≠ .listen) (hheld : q.held = p.held)
    (hql : q.state ≠ .listen) (hqs : q.state ≠ .synSent) : RecvBufferInv q d c where
  listen hl := absurd hl hql
  synSent hs := absurd hs hqs
  buffer _ _ := by
    rw [hheld]
    exact h.buffer hp hpl

theorem RecvBufferInv.of_sameRecv {p q : TcpPcb} {d c : List UInt8} (h : RecvBufferInv p d c)
    (hp : p.state ≠ .free) (hpl : p.state ≠ .listen) (hq : p.SameRecv q)
    (hql : q.state ≠ .listen) (hqs : q.state = .synSent → p.state = .synSent) :
    RecvBufferInv q d c where
  listen hl := absurd hl hql
  synSent hs := by
    obtain ⟨hc, hw⟩ := h.synSent (hqs hs)
    exact ⟨hc, hq.rcvWnd.trans hw⟩
  buffer _ _ := by
    rw [hq.held_eq]
    exact h.buffer hp hpl

theorem RecvBufferInv.fin {pcb : TcpPcb} {d c : List UInt8} (env : TcpEnv) (a : TcpArrival)
    (h : RecvBufferInv pcb d c) (hp : pcb.state ≠ .free) (hpl : pcb.state ≠ .listen)
    (hps : pcb.state ≠ .synSent) : RecvBufferInv (tcpSegmentArrivesFin env pcb a).1 d c := by
  rw [tcpSegmentArrivesFin_fst]
  split
  · apply h.of_held hp hpl
    · rw [tcpSegmentArrivesFinState_eq]
      simp [TcpPcb.held]
    · rcases tcpSegmentArrivesFinState_state { pcb with rcvNxt := a.seg.seq + 1 } a.seg with
        h' | h' | h' | h' <;> rw [h'] <;> simp [hpl]
    · rcases tcpSegmentArrivesFinState_state { pcb with rcvNxt := a.seg.seq + 1 } a.seg with
        h' | h' | h' | h' <;> rw [h'] <;> simp [hps]
  · exact h

theorem RecvBufferInv.text {pcb : TcpPcb} {d c : List UInt8} (env : TcpEnv) (a : TcpArrival)
    (h : RecvBufferInv pcb d c) (hp : pcb.state ≠ .free) (hpl : pcb.state ≠ .listen)
    (hps : pcb.state ≠ .synSent) (hfit : a.data.length ≤ pcb.rcvWnd.toNat) :
    RecvBufferInv (tcpSegmentArrivesText env pcb a).1 d
      (c ++ if pcb.state.processesText = true then a.data else []) := by
  rw [tcpSegmentArrivesText_fst]
  by_cases htext : pcb.state.processesText = true
  · by_cases hdata : a.data = []
    · simpa [htext, hdata] using h
    · simp only [htext, ne_eq, hdata, not_false_eq_true, and_self, if_true]
      refine ⟨fun h' => absurd h' hpl, fun h' => absurd h' hps, fun _ _ => ?_⟩
      rw [held_copy pcb _ a.data hfit, ← List.append_assoc, h.buffer hp hpl]
  · simpa [htext] using h

/-- The phases after the 1st check keep the buffer invariant when the copy fits the window. -/
theorem RecvBufferInv.otherwise {pcb : TcpPcb} {d c : List UInt8} (env : TcpEnv)
    (a : TcpArrival) (h : RecvBufferInv pcb d c) (hfree : pcb.state ≠ .free)
    (hc : pcb.state ≠ .closed) (hl : pcb.state ≠ .listen) (hs : pcb.state ≠ .synSent)
    (hfit : a.FitsWindow pcb) :
    RecvBufferInv (tcpSegmentArrivesOtherwise env pcb a).1 d
      (c ++ tcpSegmentArrivesCopied env pcb a) := by
  rw [tcpSegmentArrivesOtherwise_fst, tcpSegmentArrivesCopied_eq env pcb a hc hl hs]
  by_cases hgo : tcpSegmentAcceptable pcb a.seg = true ∧ tcpFlgIsset a.flags TCP_FLG_ACK = true
  · rcases tcpSegmentArrivesAck_recv env pcb a with ⟨hstop, hzero⟩ | ⟨hrecv, hstep⟩
    · simp only [hgo, hstop, hzero, and_self, if_true, Bool.false_eq_true, if_false,
        false_and, and_false, List.append_nil]
      exact RecvBufferInv.of_free rfl
    · -- the 5th check leaves a state after SYN-RECEIVED
      have hst1 : (tcpSegmentArrivesAck env pcb a).1.state ≠ .listen ∧
          (tcpSegmentArrivesAck env pcb a).1.state ≠ .synSent ∧
          (tcpSegmentArrivesAck env pcb a).1.state ≠ .free := by
        rcases hstep with h' | ⟨_, h'⟩ | ⟨_, h'⟩ <;> rw [h'] <;> simp [hl, hs, hfree]
      have h1 : RecvBufferInv (tcpSegmentArrivesAck env pcb a).1 d c :=
        h.of_sameRecv hfree hl hrecv hst1.1 (fun h' => absurd h' hst1.2.1)
      by_cases hcont : (tcpSegmentArrivesAck env pcb a).2.2 = true
      · simp only [hgo, hcont, true_and, if_true]
        have hfit1 : a.data.length ≤ (tcpSegmentArrivesAck env pcb a).1.rcvWnd.toNat := by
          rw [hrecv.rcvWnd]
          exact hfit hgo.1
        have h2 := h1.text env a hst1.2.2 hst1.1 hst1.2.1 hfit1
        have hst2 : (tcpSegmentArrivesText env (tcpSegmentArrivesAck env pcb a).1 a).1.state =
            (tcpSegmentArrivesAck env pcb a).1.state := by
          rw [tcpSegmentArrivesText_fst]
          split <;> rfl
        have h3 := h2.fin env a (hst2 ▸ hst1.2.2) (hst2 ▸ hst1.1) (hst2 ▸ hst1.2.1)
        by_cases hpt : (tcpSegmentArrivesAck env pcb a).1.state.processesText = true
        · simpa [hpt] using h3
        · simpa [hpt] using h3
      · simpa [hgo, hcont] using h1
  · have hno : ¬(tcpSegmentAcceptable pcb a.seg = true ∧ tcpFlgIsset a.flags TCP_FLG_ACK = true ∧
        (tcpSegmentArrivesAck env pcb a).2.2 = true ∧
        (tcpSegmentArrivesAck env pcb a).1.state.processesText = true) :=
      fun h' => hgo ⟨h'.1, h'.2.1⟩
    rw [if_neg hgo, if_neg hno, List.append_nil]
    exact h

theorem RecvBufferInv.arrive {pcb : TcpPcb} {d c : List UInt8} (env : TcpEnv) (a : TcpArrival)
    (h : RecvBufferInv pcb d c) (hfree : pcb.state ≠ .free) (hfit : a.FitsWindow pcb) :
    RecvBufferInv (tcpSegmentArrivesPcb env pcb a).1 d (c ++ tcpSegmentArrivesCopied env pcb a) := by
  rcases tcpSegmentArrivesPcb_cases env pcb a with
    ⟨hc, h0⟩ | ⟨hl, h0⟩ | ⟨hs, h0⟩ | ⟨hc, hl, hs, h0⟩ <;> rw [h0]
  · rw [tcpSegmentArrivesCopied_of_opening env pcb a (.inl hc), List.append_nil]
    exact h
  · rw [tcpSegmentArrivesCopied_of_opening env pcb a (.inr (.inl hl)), List.append_nil,
      tcpSegmentArrivesListen_fst]
    obtain ⟨hd, hcp, -⟩ := h.listen hl
    split
    · -- SYN-RECEIVED with nothing held
      refine ⟨fun h' => by simp at h', fun h' => by simp at h', fun _ _ => ?_⟩
      rw [hd, hcp, TcpPcb.held_of_rcvWnd rfl]
      rfl
    · exact h
  · rw [tcpSegmentArrivesCopied_of_opening env pcb a (.inr (.inr hs)), List.append_nil]
    rcases tcpSegmentArrivesSynSent_recv env pcb a with h' | ⟨-, -, hwnd, hbuf, hst⟩
    · rw [h']
      exact h
    · apply h.of_held hfree (by rw [hs]; exact nofun)
      · simp [TcpPcb.held, hwnd, hbuf]
      · rcases hst with h' | h' <;> simp [h']
      · rcases hst with h' | h' <;> simp [h']
  · exact h.otherwise env a hfree hc hl hs hfit

/-- One step of a connection keeps the buffer invariant when copies fit the window. -/
theorem RecvBufferInv.step {pcb : TcpPcb} {d c : List UInt8} (ev : TcpEnv × TcpEvent)
    (h : RecvBufferInv pcb d c) (hfree : pcb.state ≠ .free)
    (hfit : OnArrival TcpArrival.FitsWindow pcb ev) :
    RecvBufferInv (tcpStep ev pcb).1 (d ++ (tcpStep ev pcb).2.received)
      (c ++ tcpStepCopied ev pcb) := by
  obtain ⟨env, e⟩ := ev
  cases e with
  | openActive localEp foreign => simpa [hfree, tcpStepCopied] using h
  | openPassive localEp foreign => simpa [hfree, tcpStepCopied] using h
  | openWake recorded =>
      rcases tcpOpenRfc793Wake_fst pcb recorded with h' | h'
      · simpa [h', tcpStepCopied] using h
      · simpa [h', tcpStepCopied] using (RecvBufferInv.of_free rfl : RecvBufferInv TcpPcb.zero d c)
  | openInterrupted =>
      simpa [tcpStepCopied, tcpOpenRfc793Interrupted, tcpPcbRelease] using
        (RecvBufferInv.of_free rfl : RecvBufferInv TcpPcb.zero d c)
  | close =>
      simp only [tcpStep_close, TcpObs.sent_received, tcpStepCopied, List.append_nil]
      rcases tcpClose_recv env pcb with h' | ⟨hrecv, ⟨hst, hst'⟩ | ⟨hst, hst'⟩⟩
      · rw [h']
        exact h
      · exact h.of_sameRecv hfree (by simp [hst]) hrecv (by simp [hst']) (by simp [hst'])
      · exact h.of_sameRecv hfree (by simp [hst]) hrecv (by simp [hst']) (by simp [hst'])
  | send mtu rest =>
      simp only [tcpStep_send, TcpObs.sent_received, tcpStepCopied, List.append_nil]
      by_cases hl : pcb.state = .listen
      · have hsame : (tcpSendPass env pcb mtu rest).1 = pcb := by
          unfold tcpSendPass
          split <;> simp_all
        rw [hsame]
        exact h
      rcases tcpSendPass_recv env pcb mtu rest with h' | ⟨hrecv, hst⟩
      · rw [h']
        exact RecvBufferInv.of_free rfl
      · exact h.of_sameRecv hfree hl hrecv (by rw [hst]; exact hl) (fun h' => hst ▸ h')
  | receive size =>
      simp only [tcpStep_receive, tcpStepCopied, List.append_nil]
      by_cases hopen : pcb.state = .listen ∨ pcb.state = .synSent
      · have hidle : tcpReceive pcb size = (pcb, .error) := by
          rcases hopen with h' | h' <;> simp [tcpReceive, h']
        simpa [hidle, TcpReceiveResult.bytes] using h
      · obtain ⟨buf, wnd, hr⟩ := tcpReceive_fst pcb size
        have hst : (tcpReceive pcb size).1.state = pcb.state := by rw [hr]
        have hl : pcb.state ≠ .listen := fun h' => hopen (.inl h')
        have hs : pcb.state ≠ .synSent := fun h' => hopen (.inr h')
        refine ⟨fun h' => absurd (hst ▸ h') hl, fun h' => absurd (hst ▸ h') hs, fun _ _ => ?_⟩
        rw [← h.buffer hfree hl, ← tcpReceive_bytes_append_held pcb size, List.append_assoc]
  | arrive a =>
      simp only [tcpStep_arrive, TcpObs.sent_received, List.append_nil, tcpStepCopied]
      exact h.arrive env a hfree (hfit a (by simp [TcpEvent.arrival?]))
  | timer =>
      simp only [tcpStep_timer, TcpObs.sent_received, tcpStepCopied, List.append_nil]
      by_cases hl : pcb.state = .listen
      · rw [tcpTimerPcb_of_queue_nil env pcb (h.listen hl).2.2]
        exact h
      · obtain ⟨hrecv, hst⟩ := tcpTimerPcb_recv env pcb
        apply h.of_sameRecv hfree hl hrecv
        · rcases hst with h' | h' <;> rw [h'] <;> simp [hl]
        · rcases hst with h' | h' <;> rw [h'] <;> simp

/-- The first event of a connection opens the zero-filled pcb or leaves it FREE. -/
theorem RecvBufferInv.first (ev : TcpEnv × TcpEvent) :
    RecvBufferInv (tcpStep ev TcpPcb.zero).1 (tcpStep ev TcpPcb.zero).2.received
      (tcpStepCopied ev TcpPcb.zero) := by
  obtain ⟨env, e⟩ := ev
  cases e with
  | openActive localEp foreign =>
      rw [tcpStep_openActive_of_free env localEp foreign TcpPcb.zero rfl]
      rcases tcpOpenRfc793Active_recv env TcpPcb.zero.alloc localEp foreign with h | ⟨hst, hwnd⟩
      · rw [h]
        exact RecvBufferInv.of_free rfl
      · refine ⟨fun h' => by simp [hst] at h', fun _ => ⟨rfl, hwnd⟩, fun _ _ => ?_⟩
        simp [TcpPcb.held_of_rcvWnd hwnd, tcpStepCopied]
  | openPassive localEp foreign =>
      rw [tcpStep_openPassive_of_free env localEp foreign TcpPcb.zero rfl]
      refine ⟨fun _ => ⟨rfl, rfl, ?_⟩, fun h' => by simp at h', fun _ h' => by simp at h'⟩
      simp [TcpPcb.alloc, TcpPcb.zero]
  | openWake recorded =>
      apply RecvBufferInv.of_free
      rcases tcpOpenRfc793Wake_fst TcpPcb.zero recorded with h | h <;> rw [tcpStep_openWake, h] <;> rfl
  | openInterrupted => exact RecvBufferInv.of_free rfl
  | close => exact RecvBufferInv.of_free rfl
  | send mtu rest => exact RecvBufferInv.of_free rfl
  | receive size => exact RecvBufferInv.of_free rfl
  | arrive a =>
      apply RecvBufferInv.of_free
      have hrej : tcpSegmentAcceptable TcpPcb.zero a.seg = false := rfl
      rw [tcpStep_arrive, tcpSegmentArrivesPcb_otherwise env _ a (by decide) (by decide) (by decide),
        tcpSegmentArrivesOtherwise_fst]
      simp [hrej]
      rfl
  | timer => exact RecvBufferInv.of_free rfl

theorem recvBufferInv_run (evs : List (TcpEnv × TcpEvent))
    (hrun : TcpConnectionRun (OnArrival TcpArrival.FitsWindow) evs) :
    RecvBufferInv (tcpRun evs).1 (TcpObs.delivered (tcpRun evs).2) (tcpCopied evs) :=
  TcpConnectionRun.invariant _ (RecvBufferInv.of_free rfl) (fun ev _ => RecvBufferInv.first ev)
    (fun _ ev _ _ h hfree hfit => h.step ev hfree hfit) evs hrun

/--
While every acceptable segment fits the window, the bytes returned by
{lit}`tcp_receive` followed by the bytes held are exactly the payloads copied:
the 65535 - rcv.wnd bytes buffered are those copied and not yet returned.
-/
theorem tcp_receive_buffer_accounting (evs : List (TcpEnv × TcpEvent))
    (hrun : TcpConnectionRun (OnArrival TcpArrival.FitsWindow) evs)
    (hfree : (tcpRun evs).1.state ≠ .free) (hlisten : (tcpRun evs).1.state ≠ .listen) :
    TcpObs.delivered (tcpRun evs).2 ++ (tcpRun evs).1.held = tcpCopied evs ∧
      (TcpObs.delivered (tcpRun evs).2).length + (TCP_BUF_SIZE - (tcpRun evs).1.rcvWnd.toNat) =
        (tcpCopied evs).length := by
  have hbuf := (recvBufferInv_run evs hrun).buffer hfree hlisten
  refine ⟨hbuf, ?_⟩
  rw [← hbuf, List.length_append, TcpPcb.held, length_bufPrefix]

/-- The environment of the concrete runs: the clock at zero, {lit}`random` returning 100 and {lit}`ip_output` accepting every segment. -/
def tcpEnvFixed : TcpEnv where
  now := 0
  random := 100
  ipOutput _ := true

/-- A segment from the peer 10.0.0.2:9 to 10.0.0.1:7, with {lit}`seg.len` as {lit}`tcp_input` computes it. -/
def peerSegment (seq ack : UInt32) (flags : UInt8) (data : List UInt8) : TcpArrival where
  seg :=
    { seq := seq, ack := ack,
      len := UInt16.ofNat data.length + (if tcpFlgIsset flags TCP_FLG_SYN then 1 else 0) +
        (if tcpFlgIsset flags TCP_FLG_FIN then 1 else 0),
      wnd := 65535, up := 0 }
  flags := flags
  data := data
  localEp := ⟨0x0a000001, 7⟩
  foreign := ⟨0x0a000002, 9⟩

/-- A passive open on port 7 and the peer's handshake from sequence number 1000. -/
def tcpRunHandshake : List (TcpEnv × TcpEvent) :=
  [(tcpEnvFixed, .openPassive ⟨0x0a000001, 7⟩ none),
   (tcpEnvFixed, .arrive (peerSegment 1000 0 TCP_FLG_SYN [])),
   (tcpEnvFixed, .arrive (peerSegment 1001 101 TCP_FLG_ACK []))]

/-- Two bytes in order after the handshake, and a receive of one byte. -/
def tcpRunEcho : List (TcpEnv × TcpEvent) :=
  tcpRunHandshake ++
    [(tcpEnvFixed, .arrive (peerSegment 1001 101 TCP_FLG_ACK [0x41])),
     (tcpEnvFixed, .arrive (peerSegment 1002 101 TCP_FLG_ACK [0x42])),
     (tcpEnvFixed, .receive 1)]

theorem tcp_receive_buffer_accounting_echo :
    TcpConnectionRun (OnArrival TcpArrival.FitsWindow) tcpRunEcho ∧
      (tcpRun tcpRunEcho).1.state = .established ∧
      TcpObs.delivered (tcpRun tcpRunEcho).2 ++ (tcpRun tcpRunEcho).1.held = tcpCopied tcpRunEcho := by
  have hrun : TcpConnectionRun (OnArrival TcpArrival.FitsWindow) tcpRunEcho := by decide
  have hst : (tcpRun tcpRunEcho).1.state = .established := by decide
  exact ⟨hrun, hst,
    (tcp_receive_buffer_accounting tcpRunEcho hrun (by rw [hst]; decide) (by rw [hst]; decide)).1⟩

/-- After the handshake, one segment of 65000 bytes leaves a window of 535 bytes. -/
def tcpRunFill : List (TcpEnv × TcpEvent) :=
  tcpRunHandshake ++
    [(tcpEnvFixed, .arrive (peerSegment 1001 101 TCP_FLG_ACK (List.replicate 65000 0x41)))]

/-- The next 1000 bytes of the peer, in order. -/
def overrunSegment : TcpArrival :=
  peerSegment 66001 101 TCP_FLG_ACK (List.replicate 1000 0x42)

/-- An in-order segment longer than the window is copied whole, and rcv.wnd wraps. -/
theorem tcp_receive_window_overrun :
    TcpConnectionRun (OnArrival fun _ a => a.LenConsistent)
        (tcpRunFill ++ [(tcpEnvFixed, .arrive overrunSegment)]) ∧
      (tcpRun tcpRunFill).1.rcvWnd = 535 ∧
      tcpSegmentArrivesCopied tcpEnvFixed (tcpRun tcpRunFill).1 overrunSegment =
        overrunSegment.data ∧
      overrunSegment.data.length = 1000 ∧
      (tcpRun (tcpRunFill ++ [(tcpEnvFixed, .arrive overrunSegment)])).1.rcvWnd = 65071 := by
  decide +kernel

/-!
## The stream
-/

/-- An acceptable segment is the idealized segment of the source's comment: it begins at rcv.nxt, does not exceed the window and carries no SYN. -/
def TcpArrival.Idealized (pcb : TcpPcb) (a : TcpArrival) : Prop :=
  tcpSegmentAcceptable pcb a.seg = true →
    a.seg.seq = pcb.rcvNxt ∧ a.data.length ≤ pcb.rcvWnd.toNat ∧
      tcpFlgIsset a.flags TCP_FLG_SYN = false

instance (pcb : TcpPcb) (a : TcpArrival) : Decidable (a.Idealized pcb) :=
  inferInstanceAs (Decidable (_ → _))

/-- Byte {lit}`i` of the payload is byte (seg.seq - irs - 1 + i) mod 2^32 of the peer's stream {lit}`D`. -/
def TcpArrival.PayloadFrom (D : List UInt8) (pcb : TcpPcb) (a : TcpArrival) : Prop :=
  ∀ i (h : i < a.data.length), D[((a.seg.seq - pcb.irs - 1).toNat + i) % 2 ^ 32]? = some a.data[i]

instance (D : List UInt8) (pcb : TcpPcb) (a : TcpArrival) : Decidable (a.PayloadFrom D pcb) :=
  inferInstanceAs (Decidable (∀ i (_ : i < a.data.length), _))

/-- The states before the peer's FIN is in: SYN-RECEIVED to FIN-WAIT-2. -/
def TcpState.beforeFin : TcpState → Bool
  | .synReceived | .established | .finWait1 | .finWait2 => true
  | _ => false

theorem tcpSegmentArrivesFinState_beforeFin (pcb : TcpPcb) (seg : TcpSegmentInfo) :
    (tcpSegmentArrivesFinState pcb seg).state.beforeFin = false := by
  unfold tcpSegmentArrivesFinState
  split
  · rfl
  · rfl
  · split <;> rfl
  · rfl
  · cases h : pcb.state <;> simp_all [TcpState.beforeFin]

/--
A payload read out of {lit}`D` from the offset {lit}`c.length` extends the
prefix {lit}`c`.  The offsets are taken mod 2^32, but they cannot wrap below
the length of a stream shorter than 2^32.
-/
theorem prefix_append_payload {D c data : List UInt8} (hD : D.length < 2 ^ 32) (hc : c <+: D)
    (hdata : ∀ i (h : i < data.length), D[(c.length + i) % 2 ^ 32]? = some data[i]) :
    c ++ data <+: D := by
  have hnowrap : ∀ i, i < data.length → c.length + i < 2 ^ 32 := by
    intro i hi
    by_contra hwrap
    -- the offset 2^32 - 1 would come before offset i, past the end of D
    have hj : 2 ^ 32 - 1 - c.length < data.length := by omega
    have hget := hdata _ hj
    have hmod : (c.length + (2 ^ 32 - 1 - c.length)) % 2 ^ 32 = 2 ^ 32 - 1 := by
      have : c.length ≤ D.length := hc.length_le
      omega
    rw [hmod, List.getElem?_eq_none (by omega)] at hget
    simp at hget
  rw [List.prefix_iff_getElem?]
  intro i hi
  rw [List.getElem_append]
  split
  · rename_i hic
    exact List.prefix_iff_getElem?.mp hc i hic
  · rename_i hic
    have hi' : i - c.length < data.length := by simp at hi; omega
    have := hdata (i - c.length) hi'
    rwa [Nat.mod_eq_of_lt (hnowrap _ hi'), Nat.add_sub_cancel' (by omega)] at this

/-- rcv.nxt counts irs, the peer's SYN and the bytes copied, until the peer's FIN is in. -/
def RecvSeqInv (pcb : TcpPcb) (copied : List UInt8) : Prop :=
  pcb.state.beforeFin = true → pcb.rcvNxt = pcb.irs + 1 + UInt32.ofNat copied.length

theorem RecvSeqInv.of_sameRecv {p q : TcpPcb} {c : List UInt8} (h : RecvSeqInv p c)
    (hq : p.SameRecv q) (hst : q.state.beforeFin = true → p.state.beforeFin = true) :
    RecvSeqInv q c := by
  intro hb
  rw [hq.rcvNxt, hq.irs]
  exact h (hst hb)

theorem RecvSeqInv.of_not_beforeFin {q : TcpPcb} {c : List UInt8}
    (h : q.state.beforeFin = false) : RecvSeqInv q c := by
  intro hb
  rw [h] at hb
  exact Bool.noConfusion hb

/-- The 5th check keeps the receive side and moves only within the states before the peer's FIN. -/
theorem TcpState.AckStep.beforeFin {st st' : TcpState} (h : st.AckStep st')
    (hb : st'.beforeFin = true) : st.beforeFin = true := by
  rcases h with rfl | ⟨rfl, -⟩ | ⟨rfl, -⟩ <;> first | exact hb | rfl

theorem TcpState.AckStep.beforeFin_of_processesText {st st' : TcpState} (h : st.AckStep st')
    (hp : st'.processesText = true) : st.beforeFin = true := by
  apply h.beforeFin
  cases st' <;> simp_all [TcpState.processesText, TcpState.beforeFin]

/-- The state moves of the events other than an arrival, short of a release: CLOSE and the timer's give-up. -/
def TcpState.CommandStep (st st' : TcpState) : Prop :=
  st' = st ∨ st' = .closed ∨ (st = .established ∧ st' = .finWait1) ∨
    (st = .closeWait ∧ st' = .lastAck)

theorem TcpState.CommandStep.beforeFin {st st' : TcpState} (h : st.CommandStep st')
    (hb : st'.beforeFin = true) : st.beforeFin = true := by
  rcases h with rfl | rfl | ⟨rfl, rfl⟩ | ⟨rfl, rfl⟩
  · exact hb
  all_goals simp [TcpState.beforeFin] at hb ⊢

/-- An event other than an arrival releases the pcb, or keeps rcv.nxt and irs and moves along a {lit}`CommandStep`. -/
theorem tcpStep_seq_of_arrival_none (ev : TcpEnv × TcpEvent) (pcb : TcpPcb)
    (hfree : pcb.state ≠ .free) (hev : ev.2.arrival? = none) :
    (tcpStep ev pcb).1.state = .free ∨
      ((tcpStep ev pcb).1.rcvNxt = pcb.rcvNxt ∧ (tcpStep ev pcb).1.irs = pcb.irs ∧
        pcb.state.CommandStep (tcpStep ev pcb).1.state) := by
  obtain ⟨env, e⟩ := ev
  have hkeep : ∀ q : TcpPcb, q.SameRecv pcb → q.state = pcb.state →
      q.rcvNxt = pcb.rcvNxt ∧ q.irs = pcb.irs ∧ pcb.state.CommandStep q.state :=
    fun q hq hst => ⟨hq.rcvNxt.symm, hq.irs.symm, .inl hst⟩
  cases e with
  | openActive localEp foreign =>
      rw [tcpStep_openActive_of_ne_free env localEp foreign pcb hfree]
      exact .inr (hkeep pcb (TcpPcb.SameRecv.refl pcb) rfl)
  | openPassive localEp foreign =>
      rw [tcpStep_openPassive_of_ne_free env localEp foreign pcb hfree]
      exact .inr (hkeep pcb (TcpPcb.SameRecv.refl pcb) rfl)
  | openWake recorded =>
      rw [tcpStep_openWake]
      rcases tcpOpenRfc793Wake_fst pcb recorded with h | h <;> rw [h]
      · exact .inr (hkeep pcb (TcpPcb.SameRecv.refl pcb) rfl)
      · exact .inl rfl
  | openInterrupted => exact .inl rfl
  | close =>
      rw [tcpStep_close]
      rcases tcpClose_recv env pcb with h | ⟨hrecv, ⟨hst, hst'⟩ | ⟨hst, hst'⟩⟩
      · rw [h]
        exact .inr (hkeep pcb (TcpPcb.SameRecv.refl pcb) rfl)
      · exact .inr ⟨hrecv.rcvNxt, hrecv.irs, .inr (.inr (.inl ⟨hst, hst'⟩))⟩
      · exact .inr ⟨hrecv.rcvNxt, hrecv.irs, .inr (.inr (.inr ⟨hst, hst'⟩))⟩
  | send mtu rest =>
      rw [tcpStep_send]
      rcases tcpSendPass_recv env pcb mtu rest with h | ⟨hrecv, hst⟩
      · rw [h]
        exact .inl rfl
      · exact .inr ⟨hrecv.rcvNxt, hrecv.irs, .inl hst⟩
  | receive size =>
      rw [tcpStep_receive]
      obtain ⟨buf, wnd, hr⟩ := tcpReceive_fst pcb size
      rw [hr]
      exact .inr ⟨rfl, rfl, .inl rfl⟩
  | arrive a => simp [TcpEvent.arrival?] at hev
  | timer =>
      rw [tcpStep_timer]
      obtain ⟨hrecv, hst⟩ := tcpTimerPcb_recv env pcb
      rcases hst with hst | hst
      · exact .inr ⟨hrecv.rcvNxt, hrecv.irs, .inl hst⟩
      · exact .inr ⟨hrecv.rcvNxt, hrecv.irs, .inr (.inl hst)⟩

theorem tcpStepCopied_of_arrival_none (ev : TcpEnv × TcpEvent) (pcb : TcpPcb)
    (hev : ev.2.arrival? = none) : tcpStepCopied ev pcb = [] := by
  obtain ⟨env, e⟩ := ev
  cases e with
  | arrive a => simp [TcpEvent.arrival?] at hev
  | _ => rfl

theorem RecvSeqInv.command {pcb : TcpPcb} {c : List UInt8} (ev : TcpEnv × TcpEvent)
    (h : RecvSeqInv pcb c) (hfree : pcb.state ≠ .free) (hev : ev.2.arrival? = none) :
    RecvSeqInv (tcpStep ev pcb).1 c := by
  rcases tcpStep_seq_of_arrival_none ev pcb hfree hev with hr | ⟨hnxt, hirs, hst⟩
  · exact RecvSeqInv.of_not_beforeFin (by rw [hr]; rfl)
  · intro hb
    rw [hnxt, hirs]
    exact h (hst.beforeFin hb)

/-- A segment from the peer of the stream claim: well formed, idealized, and carrying bytes of {lit}`D`. -/
def TcpArrival.IdealFrom (D : List UInt8) (pcb : TcpPcb) (a : TcpArrival) : Prop :=
  a.LenConsistent ∧ a.Idealized pcb ∧ a.PayloadFrom D pcb

instance (D : List UInt8) (pcb : TcpPcb) (a : TcpArrival) : Decidable (a.IdealFrom D pcb) :=
  inferInstanceAs (Decidable (_ ∧ _ ∧ _))

/-- A segment that begins at rcv.nxt reads {lit}`D` from the number of bytes copied. -/
theorem offset_eq_length {pcb : TcpPcb} {c : List UInt8} {seq : UInt32}
    (hc : c.length < 2 ^ 32) (hseq : seq = pcb.irs + 1 + UInt32.ofNat c.length) :
    (seq - pcb.irs - 1).toNat = c.length := by
  have hsub : seq - pcb.irs - 1 = UInt32.ofNat c.length := by
    rw [hseq]
    grind
  rw [hsub, UInt32.toNat_ofNat', Nat.mod_eq_of_lt hc]

/--
The processing after the 1st check keeps rcv.nxt counting the bytes copied:
an idealized segment begins at rcv.nxt, so the copy of the 7th step moves
rcv.nxt over exactly the payload.
-/
theorem RecvSeqInv.otherwise {pcb : TcpPcb} {c : List UInt8} (env : TcpEnv) (a : TcpArrival)
    (h : RecvSeqInv pcb c) (hc : pcb.state ≠ .closed) (hl : pcb.state ≠ .listen)
    (hs : pcb.state ≠ .synSent) (hlen : a.LenConsistent) (hid : a.Idealized pcb) :
    RecvSeqInv (tcpSegmentArrivesOtherwise env pcb a).1 (c ++ tcpSegmentArrivesCopied env pcb a) := by
  rcases tcpSegmentArrivesOtherwise_recv env pcb a hc hl hs with
    ⟨hr, -⟩ | ⟨hcp, hrecv, hstep⟩ | ⟨-, -, -, pcb1, -, -, hr⟩ |
      ⟨hacc, pcb1, hrecv, hstep, hpt, -, hcp, ⟨hfin, hr⟩ | ⟨-, hr⟩⟩
  · rw [hr]
    exact RecvSeqInv.of_not_beforeFin rfl
  · rw [hcp, List.append_nil]
    exact h.of_sameRecv hrecv hstep.beforeFin
  · rw [hr]
    exact RecvSeqInv.of_not_beforeFin (tcpSegmentArrivesFinState_beforeFin _ _)
  · -- the payload is copied and no FIN follows
    obtain ⟨hseq, hfit, hsyn⟩ := hid hacc
    have hcount := h (hstep.beforeFin_of_processesText hpt)
    have hlen16 : a.data.length < UInt16.size := by
      have := pcb.rcvWnd.toNat_lt
      simp only [UInt16.size]
      omega
    rw [hr, hcp]
    intro _
    show a.seg.seq + a.seg.len.toUInt32 = pcb1.irs + 1 + UInt32.ofNat (c ++ a.data).length
    rw [hlen, hsyn, hfin, hseq, hcount, hrecv.irs]
    simp [UInt16.toUInt32_ofNat' hlen16, UInt32.ofNat_add, add_assoc]
  · rw [hr]
    exact RecvSeqInv.of_not_beforeFin (tcpSegmentArrivesFinState_beforeFin _ _)

/-- The bytes copied stay a prefix of {lit}`D`: what is copied begins at rcv.nxt, which counts the bytes copied before. -/
theorem prefix_otherwise {D : List UInt8} {pcb : TcpPcb} {c : List UInt8} (env : TcpEnv)
    (a : TcpArrival) (hD : D.length < 2 ^ 32) (h : RecvSeqInv pcb c) (hstream : c <+: D)
    (hc : pcb.state ≠ .closed) (hl : pcb.state ≠ .listen) (hs : pcb.state ≠ .synSent)
    (hid : a.Idealized pcb) (hpay : a.PayloadFrom D pcb) :
    c ++ tcpSegmentArrivesCopied env pcb a <+: D := by
  rcases tcpSegmentArrivesOtherwise_recv env pcb a hc hl hs with
    ⟨-, hcp⟩ | ⟨hcp, -⟩ | ⟨-, -, hcp, -⟩ | ⟨hacc, pcb1, -, hstep, hpt, -, hcp, -⟩
  · rwa [hcp, List.append_nil]
  · rwa [hcp, List.append_nil]
  · rwa [hcp, List.append_nil]
  · have hcount := h (hstep.beforeFin_of_processesText hpt)
    have hoff : (a.seg.seq - pcb.irs - 1).toNat = c.length :=
      offset_eq_length (Nat.lt_of_le_of_lt hstream.length_le hD) ((hid hacc).1.trans hcount)
    rw [hcp]
    exact prefix_append_payload hD hstream (fun i hi => hoff ▸ hpay i hi)

theorem RecvSeqInv.arrive {pcb : TcpPcb} {d c : List UInt8} (env : TcpEnv) (a : TcpArrival)
    (hbuf : RecvBufferInv pcb d c) (h : RecvSeqInv pcb c) (hlen : a.LenConsistent)
    (hid : a.Idealized pcb) :
    RecvSeqInv (tcpSegmentArrivesPcb env pcb a).1 (c ++ tcpSegmentArrivesCopied env pcb a) := by
  rcases tcpSegmentArrivesPcb_cases env pcb a with
    ⟨hc, h0⟩ | ⟨hl, h0⟩ | ⟨hs, h0⟩ | ⟨hc, hl, hs, h0⟩ <;> rw [h0]
  · rw [tcpSegmentArrivesCopied_of_opening env pcb a (.inl hc), List.append_nil]
    exact h
  · rw [tcpSegmentArrivesCopied_of_opening env pcb a (.inr (.inl hl)), List.append_nil,
      tcpSegmentArrivesListen_fst]
    obtain ⟨-, hnil, -⟩ := hbuf.listen hl
    split
    · -- the peer's SYN: rcv.nxt = irs + 1 with nothing copied
      intro _
      simp [hnil]
    · exact h
  · rw [tcpSegmentArrivesCopied_of_opening env pcb a (.inr (.inr hs)), List.append_nil]
    obtain ⟨hnil, -⟩ := hbuf.synSent hs
    rcases tcpSegmentArrivesSynSent_recv env pcb a with h' | ⟨hnxt, hirs, -, -, -⟩
    · rw [h']
      exact h
    · intro _
      rw [hnxt, hirs, hnil]
      simp
  · exact h.otherwise env a hc hl hs hlen hid

/-- One step of a connection keeps rcv.nxt counting the bytes copied, while the peer's segments are idealized. -/
theorem RecvSeqInv.step {pcb : TcpPcb} {d c : List UInt8} (ev : TcpEnv × TcpEvent)
    (hbuf : RecvBufferInv pcb d c) (h : RecvSeqInv pcb c) (hfree : pcb.state ≠ .free)
    (hP : ∀ a ∈ ev.2.arrival?, a.LenConsistent ∧ a.Idealized pcb) :
    RecvSeqInv (tcpStep ev pcb).1 (c ++ tcpStepCopied ev pcb) := by
  obtain ⟨env, e⟩ := ev
  cases e with
  | arrive a =>
      obtain ⟨hlen, hid⟩ := hP a rfl
      rw [tcpStep_arrive]
      exact h.arrive env a hbuf hlen hid
  | _ =>
      rw [tcpStepCopied_of_arrival_none _ pcb rfl, List.append_nil]
      exact h.command _ hfree rfl

theorem prefix_step {D : List UInt8} {pcb : TcpPcb} {c : List UInt8} (ev : TcpEnv × TcpEvent)
    (hD : D.length < 2 ^ 32) (h : RecvSeqInv pcb c) (hstream : c <+: D)
    (hP : ∀ a ∈ ev.2.arrival?, a.Idealized pcb ∧ a.PayloadFrom D pcb) :
    c ++ tcpStepCopied ev pcb <+: D := by
  obtain ⟨env, e⟩ := ev
  cases e with
  | arrive a =>
      obtain ⟨hid, hpay⟩ := hP a rfl
      show c ++ tcpSegmentArrivesCopied env pcb a <+: D
      by_cases hopen : pcb.state = .closed ∨ pcb.state = .listen ∨ pcb.state = .synSent
      · rwa [tcpSegmentArrivesCopied_of_opening env pcb a hopen, List.append_nil]
      · simp only [not_or] at hopen
        exact prefix_otherwise env a hD h hstream hopen.1 hopen.2.1 hopen.2.2 hid hpay
  | _ => rwa [tcpStepCopied_of_arrival_none _ pcb rfl, List.append_nil]

/-- The receive stream of a connection against the peer's stream {lit}`D`. -/
structure RecvStreamInv (D : List UInt8) (pcb : TcpPcb) (delivered copied : List UInt8) :
    Prop where
  buffer : RecvBufferInv pcb delivered copied
  seq : RecvSeqInv pcb copied
  stream : copied <+: D

/-- One step of a connection keeps the receive stream a prefix of {lit}`D`. -/
theorem RecvStreamInv.step {D : List UInt8} {pcb : TcpPcb} {d c : List UInt8}
    (ev : TcpEnv × TcpEvent) (hD : D.length < 2 ^ 32) (h : RecvStreamInv D pcb d c)
    (hfree : pcb.state ≠ .free) (hP : OnArrival (TcpArrival.IdealFrom D) pcb ev) :
    RecvStreamInv D (tcpStep ev pcb).1 (d ++ (tcpStep ev pcb).2.received)
      (c ++ tcpStepCopied ev pcb) :=
  ⟨h.buffer.step ev hfree (fun a ha hacc => ((hP a ha).2.1 hacc).2.1),
    h.seq.step ev h.buffer hfree (fun a ha => ⟨(hP a ha).1, (hP a ha).2.1⟩),
    prefix_step ev hD h.seq h.stream (fun a ha => (hP a ha).2)⟩

theorem tcpStepCopied_zero (ev : TcpEnv × TcpEvent) : tcpStepCopied ev TcpPcb.zero = [] := by
  obtain ⟨env, e⟩ := ev
  cases e with
  | arrive a =>
      have hrej : tcpSegmentAcceptable TcpPcb.zero a.seg = false := rfl
      simp only [tcpStepCopied]
      rw [tcpSegmentArrivesCopied_eq env TcpPcb.zero a (by decide) (by decide) (by decide)]
      simp [hrej]
  | _ => rfl

theorem RecvStreamInv.first (D : List UInt8) (ev : TcpEnv × TcpEvent) :
    RecvStreamInv D (tcpStep ev TcpPcb.zero).1 (tcpStep ev TcpPcb.zero).2.received
      (tcpStepCopied ev TcpPcb.zero) := by
  refine ⟨RecvBufferInv.first ev, ?_, ?_⟩
  · apply RecvSeqInv.of_not_beforeFin
    rcases tcpStep_zero_state ev with h | h | h <;> rw [h] <;> rfl
  · rw [tcpStepCopied_zero]
    exact List.nil_prefix

/--
While the peer's segments are well formed, carry the bytes of {lit}`D` at the
offsets their sequence numbers give and, when acceptable, are idealized, the
bytes returned by {lit}`tcp_receive` followed by the bytes held are a prefix
of {lit}`D`.
-/
theorem tcp_receive_stream_prefix (D : List UInt8) (hD : D.length < 2 ^ 32)
    (evs : List (TcpEnv × TcpEvent))
    (hrun : TcpConnectionRun (OnArrival (TcpArrival.IdealFrom D)) evs)
    (hfree : (tcpRun evs).1.state ≠ .free) (hlisten : (tcpRun evs).1.state ≠ .listen) :
    TcpObs.delivered (tcpRun evs).2 ++ (tcpRun evs).1.held <+: D := by
  have h := TcpConnectionRun.invariant (fun pcb d c => RecvStreamInv D pcb d c)
    ⟨RecvBufferInv.of_free rfl, RecvSeqInv.of_not_beforeFin rfl, List.nil_prefix⟩
    (fun ev _ => RecvStreamInv.first D ev) (fun _ ev _ _ h hfree hP => h.step ev hD hfree hP)
    evs hrun
  rw [h.buffer.buffer hfree hlisten]
  exact h.stream

theorem tcp_receive_stream_prefix_echo :
    ([0x41, 0x42] : List UInt8).length < 2 ^ 32 ∧
      TcpConnectionRun (OnArrival (TcpArrival.IdealFrom [0x41, 0x42])) tcpRunEcho ∧
      (tcpRun tcpRunEcho).1.state = .established ∧
      TcpObs.delivered (tcpRun tcpRunEcho).2 ++ (tcpRun tcpRunEcho).1.held <+: [0x41, 0x42] := by
  have hrun : TcpConnectionRun (OnArrival (TcpArrival.IdealFrom [0x41, 0x42])) tcpRunEcho := by
    decide
  have hst : (tcpRun tcpRunEcho).1.state = .established := by decide
  exact ⟨by decide, hrun, hst,
    tcp_receive_stream_prefix [0x41, 0x42] (by decide) tcpRunEcho hrun (by rw [hst]; decide)
      (by rw [hst]; decide)⟩

/-- After the handshake the peer's second byte arrives before its first. -/
def tcpRunOutOfOrder : List (TcpEnv × TcpEvent) :=
  tcpRunHandshake ++ [(tcpEnvFixed, .arrive (peerSegment 1002 101 TCP_FLG_ACK [0x42]))]

/-- The out-of-order byte is accepted and held at the front of the buffer. -/
theorem tcp_receive_stream_out_of_order :
    TcpConnectionRun (OnArrival fun pcb a => a.LenConsistent ∧ a.PayloadFrom [0x41, 0x42] pcb)
        tcpRunOutOfOrder ∧
      (tcpRun tcpRunOutOfOrder).1.state = .established ∧
      (tcpRun tcpRunOutOfOrder).1.held = [0x42] ∧
      ¬(TcpObs.delivered (tcpRun tcpRunOutOfOrder).2 ++ (tcpRun tcpRunOutOfOrder).1.held <+:
        [0x41, 0x42]) := by
  decide

end ProtocolStack
