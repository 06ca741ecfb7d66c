import Mathlib
import ProtocolStack.Tcp.StateMachine

/-!
# The opener of a connection

After its first critical section {lit}`tcp_open_rfc793` records the state of
the pcb and sleeps until the state differs; at each wake-up it returns the id
in ESTABLISHED, records SYN-RECEIVED anew, or releases the pcb and returns -1.
Meanwhile the intr thread runs {lit}`tcp_segment_arrives` and
{lit}`tcp_timer` on the pcb.  The opener sees the state only when it runs,
so a pcb that passed through ESTABLISHED before the wake-up (one segment with
ACK and FIN, or two segments in a row) is released as a failed open.

{lit}`tcpOpen_failed_after_established` says that this is the only way an
open fails on a pcb that was not aborted: along the diagram, every path out
of LISTEN, SYN-SENT and SYN-RECEIVED to another state passes through
ESTABLISHED.
-/

namespace ProtocolStack

/-!
## The opening states of the diagram
-/

/-- The states {lit}`tcp_open_rfc793` waits in. -/
def TcpState.opening : TcpState → Bool
  | .listen | .synSent | .synReceived => true
  | _ => false

/-- Every path from an opening state ends in it, in SYN-RECEIVED, or beyond ESTABLISHED. -/
theorem TcpState.reaches_of_opening {recorded st : TcpState} (hopen : recorded.opening = true)
    (h : Relation.ReflTransGen TcpState.Edge recorded st) :
    st = recorded ∨ st = .synReceived ∨
      (Relation.ReflTransGen TcpState.Edge recorded .established ∧
        Relation.ReflTransGen TcpState.Edge .established st) := by
  induction h with
  | refl => exact .inl rfl
  | @tail mid st hpath edge ih =>
      rcases ih with rfl | rfl | ⟨hest, hmid⟩
      · -- the first edge out of the recorded state
        cases edge <;> simp [TcpState.opening] at hopen
        · exact .inr (.inl rfl)
        · exact .inr (.inl rfl)
        · exact .inr (.inr ⟨.single .synSentSynAck, .refl⟩)
        · exact .inr (.inr ⟨.single .synReceivedAck, .refl⟩)
      · -- SYN-RECEIVED has the one edge to ESTABLISHED
        cases edge
        exact .inr (.inr ⟨hpath.tail .synReceivedAck, .refl⟩)
      · exact .inr (.inr ⟨hest, hmid.tail edge⟩)

/-- A move composed with an event that keeps an aborted pcb aborted. -/
theorem TcpState.Moves.trans_of_keeps_aborted {recorded st st' : TcpState}
    (h : recorded.Moves st) (h' : st.Moves st')
    (hkeep : st = .closed ∨ st = .free → st' = .closed ∨ st' = .free) :
    recorded.Moves st' := by
  rcases h with hpath | habort
  · rcases h' with hpath' | habort'
    · exact .inl (hpath.trans hpath')
    · exact .inr habort'
  · exact .inr (hkeep habort)

/-- A segment leaves a CLOSED or FREE pcb as it is. -/
theorem tcpSegmentArrivesPcb_of_aborted (env : TcpEnv) (pcb : TcpPcb) (a : TcpArrival)
    (h : pcb.state = .closed ∨ pcb.state = .free) : (tcpSegmentArrivesPcb env pcb a).1 = pcb := by
  rcases tcpSegmentArrivesPcb_cases env pcb a with ⟨-, hp⟩ | ⟨hl, -⟩ | ⟨hs, -⟩ | ⟨hc, -, -, hp⟩
  · exact hp
  · rcases h with h | h <;> simp [h] at hl
  · rcases h with h | h <;> simp [h] at hs
  · -- a FREE pcb finds no segment acceptable
    have hfree : pcb.state = .free := h.resolve_left hc
    have hrej : tcpSegmentAcceptable pcb a.seg = false := by
      simp [tcpSegmentAcceptable, hfree]
    rw [hp, tcpSegmentArrivesOtherwise_fst]
    simp [hrej]

/-!
## The opener and the intr thread
-/

/-- The thread in {lit}`tcp_open_rfc793`: asleep with the state it recorded, or returned. -/
inductive TcpOpener
  | waiting (recorded : TcpState)
  | returned (result : Int)
  deriving DecidableEq, Repr

/-- What runs while the opener is in {lit}`tcp_open_rfc793`. -/
inductive TcpOpenEvent
  | arrive (env : TcpEnv) (a : TcpArrival)
  | timer (env : TcpEnv)
  | wake
  | interrupted

/-- A wake-up of the opener: the loop condition, then {lit}`goto AGAIN`, the return of the id, or the release. -/
def tcpOpenRfc793Resume (id : Nat) (pcb : TcpPcb) (recorded : TcpState) :
    (TcpPcb × TcpOpener) × Option Int :=
  match tcpOpenRfc793Wake pcb recorded with
  | (pcb', .sleep) => ((pcb', .waiting recorded), none)
  | (pcb', .again) => ((pcb', .waiting pcb'.state), none)
  | (pcb', .established) => ((pcb', .returned id), some id)
  | (pcb', .failed) => ((pcb', .returned (-1)), some (-1))

/--
One step of the opener and the intr thread on the pcb with id {lit}`id`; the
observation is what {lit}`tcp_open_rfc793` returns, if it returns here.
-/
def tcpOpenStep (id : Nat) : TcpOpenEvent → TcpPcb × TcpOpener → (TcpPcb × TcpOpener) × Option Int
  | .arrive env a, (pcb, o) => (((tcpSegmentArrivesPcb env pcb a).1, o), none)
  | .timer env, (pcb, o) => (((tcpTimerPcb env pcb).1, o), none)
  | .wake, (pcb, .waiting recorded) => tcpOpenRfc793Resume id pcb recorded
  | .interrupted, (pcb, .waiting _) =>
      ((tcpOpenRfc793Interrupted pcb, .returned (-1)), some (-1))
  | .wake, (pcb, .returned r) => ((pcb, .returned r), none)
  | .interrupted, (pcb, .returned r) => ((pcb, .returned r), none)

/-- The opener from {lit}`AGAIN` on, after the first section left {lit}`pcb`. -/
def tcpOpenRun (id : Nat) (pcb : TcpPcb) (evs : List TcpOpenEvent) :
    (TcpPcb × TcpOpener) × List (Option Int) :=
  Run.run (tcpOpenStep id) (pcb, .waiting pcb.state) evs

@[simp] theorem tcpOpenStep_arrive (id : Nat) (env : TcpEnv) (a : TcpArrival) (pcb : TcpPcb)
    (o : TcpOpener) :
    tcpOpenStep id (.arrive env a) (pcb, o) = (((tcpSegmentArrivesPcb env pcb a).1, o), none) :=
  rfl

@[simp] theorem tcpOpenStep_timer (id : Nat) (env : TcpEnv) (pcb : TcpPcb) (o : TcpOpener) :
    tcpOpenStep id (.timer env) (pcb, o) = (((tcpTimerPcb env pcb).1, o), none) :=
  rfl

@[simp] theorem tcpOpenStep_wake_waiting (id : Nat) (pcb : TcpPcb) (recorded : TcpState) :
    tcpOpenStep id .wake (pcb, .waiting recorded) = tcpOpenRfc793Resume id pcb recorded :=
  rfl

@[simp] theorem tcpOpenStep_interrupted_waiting (id : Nat) (pcb : TcpPcb) (recorded : TcpState) :
    tcpOpenStep id .interrupted (pcb, .waiting recorded) =
      ((TcpPcb.zero, .returned (-1)), some (-1)) :=
  rfl

/-- A returned opener neither sleeps nor wakes again. -/
@[simp] theorem tcpOpenStep_wake_returned (id : Nat) (pcb : TcpPcb) (r : Int) :
    tcpOpenStep id .wake (pcb, .returned r) = ((pcb, .returned r), none) :=
  rfl

@[simp] theorem tcpOpenStep_interrupted_returned (id : Nat) (pcb : TcpPcb) (r : Int) :
    tcpOpenStep id .interrupted (pcb, .returned r) = ((pcb, .returned r), none) :=
  rfl

/-- The four outcomes of a wake-up. -/
theorem tcpOpenRfc793Resume_cases (id : Nat) (pcb : TcpPcb) (recorded : TcpState) :
    (pcb.state = recorded ∧
        tcpOpenRfc793Resume id pcb recorded = ((pcb, TcpOpener.waiting recorded), none)) ∨
      (pcb.state ≠ recorded ∧ pcb.state = .established ∧
        tcpOpenRfc793Resume id pcb recorded = ((pcb, TcpOpener.returned id), some (id : Int))) ∨
      (pcb.state ≠ recorded ∧ pcb.state = .synReceived ∧
        tcpOpenRfc793Resume id pcb recorded = ((pcb, TcpOpener.waiting .synReceived), none)) ∨
      (pcb.state ≠ recorded ∧ pcb.state ≠ .established ∧ pcb.state ≠ .synReceived ∧
        tcpOpenRfc793Resume id pcb recorded =
          ((TcpPcb.zero, TcpOpener.returned (-1)), some (-1))) := by
  unfold tcpOpenRfc793Resume tcpOpenRfc793Wake
  by_cases h1 : pcb.state = recorded
  · rw [if_pos h1]
    exact .inl ⟨h1, rfl⟩
  rw [if_neg h1]
  by_cases h2 : pcb.state = .established
  · rw [if_pos h2]
    exact .inr (.inl ⟨h1, h2, rfl⟩)
  rw [if_neg h2]
  by_cases h3 : pcb.state = .synReceived
  · rw [if_pos h3]
    refine .inr (.inr (.inl ⟨h1, h3, ?_⟩))
    simp only [h3]
  rw [if_neg h3]
  exact .inr (.inr (.inr ⟨h1, h2, h3, rfl⟩))

/-- A wake-up returns -1 only on a state that is none of the recorded one, ESTABLISHED and SYN-RECEIVED. -/
theorem tcpOpenRfc793Resume_failed {id : Nat} {pcb : TcpPcb} {recorded : TcpState}
    (h : (tcpOpenRfc793Resume id pcb recorded).2 = some (-1)) :
    pcb.state ≠ recorded ∧ pcb.state ≠ .established ∧ pcb.state ≠ .synReceived := by
  rcases tcpOpenRfc793Resume_cases id pcb recorded with
    ⟨-, hr⟩ | ⟨-, -, hr⟩ | ⟨-, -, hr⟩ | ⟨hne, hnest, hnsr, -⟩
  · simp [hr] at h
  · simp [hr] at h
  · simp [hr] at h
  · exact ⟨hne, hnest, hnsr⟩

/-- The opener returns its id only from an ESTABLISHED pcb, which it keeps. -/
theorem tcpOpenStep_returns_id (id : Nat) (e : TcpOpenEvent) (s : TcpPcb × TcpOpener)
    (h : (tcpOpenStep id e s).2 = some (id : Int)) :
    s.1.state = .established ∧ (tcpOpenStep id e s).1 = (s.1, .returned id) := by
  obtain ⟨pcb, o⟩ := s
  cases e with
  | arrive env a => simp at h
  | timer env => simp at h
  | wake =>
      cases o with
      | waiting recorded =>
          rw [tcpOpenStep_wake_waiting] at h ⊢
          rcases tcpOpenRfc793Resume_cases id pcb recorded with
            ⟨-, hr⟩ | ⟨-, hest, hr⟩ | ⟨-, -, hr⟩ | ⟨-, -, -, hr⟩
          · simp [hr] at h
          · exact ⟨hest, by rw [hr]⟩
          · simp [hr] at h
          · simp [hr] at h
      | returned r => simp at h
  | interrupted => cases o <;> simp at h

/-- The opener returns -1 only having released the pcb. -/
theorem tcpOpenStep_returns_failure (id : Nat) (e : TcpOpenEvent) (s : TcpPcb × TcpOpener)
    (h : (tcpOpenStep id e s).2 = some (-1)) : (tcpOpenStep id e s).1.1 = TcpPcb.zero := by
  obtain ⟨pcb, o⟩ := s
  cases e with
  | arrive env a => simp at h
  | timer env => simp at h
  | wake =>
      cases o with
      | waiting recorded =>
          rw [tcpOpenStep_wake_waiting] at h ⊢
          rcases tcpOpenRfc793Resume_cases id pcb recorded with
            ⟨-, hr⟩ | ⟨-, -, hr⟩ | ⟨-, -, hr⟩ | ⟨-, -, -, hr⟩
          · simp [hr] at h
          · simp [hr] at h
          · simp [hr] at h
          · rw [hr]
      | returned r => simp at h
  | interrupted =>
      cases o with
      | waiting recorded => rfl
      | returned r => simp at h

/-!
## What holds while the opener sleeps
-/

/-- While the opener sleeps, it recorded an opening state, and the pcb moved from it along the diagram or was aborted. -/
def TcpOpenInv (s : TcpPcb × TcpOpener) : Prop :=
  ∀ recorded, s.2 = .waiting recorded → recorded.opening = true ∧ recorded.Moves s.1.state

theorem TcpOpenInv.start {pcb : TcpPcb} (hopen : pcb.state.opening = true) :
    TcpOpenInv (pcb, .waiting pcb.state) := by
  rintro recorded ⟨⟩
  exact ⟨hopen, .refl _⟩

theorem TcpOpenInv.step (id : Nat) (e : TcpOpenEvent) {s : TcpPcb × TcpOpener}
    (h : TcpOpenInv s) : TcpOpenInv (tcpOpenStep id e s).1 := by
  obtain ⟨pcb, o⟩ := s
  cases e with
  | arrive env a =>
      intro recorded hw
      obtain ⟨hopen, hmoves⟩ := h recorded (by simpa using hw)
      simp only [tcpOpenStep_arrive] at hmoves ⊢
      refine ⟨hopen, hmoves.trans_of_keeps_aborted (tcpSegmentArrivesPcb_moves env pcb a) ?_⟩
      intro hab
      rw [tcpSegmentArrivesPcb_of_aborted env pcb a hab]
      exact hab
  | timer env =>
      intro recorded hw
      obtain ⟨hopen, hmoves⟩ := h recorded (by simpa using hw)
      simp only [tcpOpenStep_timer] at hmoves ⊢
      -- the timer keeps the state or closes the pcb
      have htimer := (tcpTimerPcb_recv env pcb).2
      have hmove : pcb.state.Moves (tcpTimerPcb env pcb).1.state := by
        rcases htimer with hst | hst
        · rw [hst]
          exact .refl _
        · exact .inr (.inl hst)
      refine ⟨hopen, hmoves.trans_of_keeps_aborted hmove ?_⟩
      intro hab
      rcases htimer with hst | hst
      · rw [hst]
        exact hab
      · exact .inl hst
  | wake =>
      cases o with
      | waiting recorded =>
          obtain ⟨hopen, hmoves⟩ := h recorded rfl
          rw [tcpOpenStep_wake_waiting]
          rcases tcpOpenRfc793Resume_cases id pcb recorded with
            ⟨-, hr⟩ | ⟨-, -, hr⟩ | ⟨-, hsr, hr⟩ | ⟨-, -, -, hr⟩ <;> rw [hr]
          · intro r hw
            cases hw
            exact ⟨hopen, hmoves⟩
          · rintro r ⟨⟩
          · -- goto AGAIN records SYN-RECEIVED
            intro r hw
            cases hw
            rw [← hsr]
            exact ⟨by rw [hsr]; rfl, .refl _⟩
          · rintro r ⟨⟩
      | returned r => exact h
  | interrupted =>
      cases o with
      | waiting recorded => rintro r ⟨⟩
      | returned r => exact h

theorem tcpOpenRun_inv (id : Nat) {pcb : TcpPcb} (hopen : pcb.state.opening = true)
    (evs : List TcpOpenEvent) : TcpOpenInv (tcpOpenRun id pcb evs).1 :=
  Run.invariant_of_step (tcpOpenStep id) TcpOpenInv (fun _ e hs => hs.step id e) _ evs
    (TcpOpenInv.start hopen)

/-- A sleeping opener that wakes to an ESTABLISHED pcb returns its id. -/
theorem tcpOpenStep_wake_of_established (id : Nat) {s : TcpPcb × TcpOpener} {recorded : TcpState}
    (h : TcpOpenInv s) (hw : s.2 = .waiting recorded) (hest : s.1.state = .established) :
    (tcpOpenStep id .wake s).2 = some (id : Int) := by
  obtain ⟨pcb, o⟩ := s
  cases hw
  have hne : pcb.state ≠ recorded := by
    intro heq
    have hopen := (h recorded rfl).1
    rw [← heq, hest] at hopen
    exact absurd hopen (by decide)
  rw [tcpOpenStep_wake_waiting]
  rcases tcpOpenRfc793Resume_cases id pcb recorded with
    ⟨heq, -⟩ | ⟨-, -, hr⟩ | ⟨-, hsr, -⟩ | ⟨-, hne', -, -⟩
  · exact absurd heq hne
  · rw [hr]
  · exact absurd (hest.symm.trans hsr) (by decide)
  · exact absurd hest hne'

/--
Over every run of the opener from an opening state: while it sleeps, the
state it recorded is an opening one, the pcb moved from it along the diagram
or was aborted, and a wake-up in ESTABLISHED returns the id.  Whatever the
next event, the opener returns the id only from ESTABLISHED, keeping the
pcb, and -1 only having released it.
-/
theorem tcp_open_outcomes (id : Nat) (pcb : TcpPcb) (hopen : pcb.state.opening = true)
    (evs : List TcpOpenEvent) (e : TcpOpenEvent) :
    (∀ recorded, (tcpOpenRun id pcb evs).1.2 = TcpOpener.waiting recorded →
        recorded.opening = true ∧ recorded.Moves (tcpOpenRun id pcb evs).1.1.state ∧
          ((tcpOpenRun id pcb evs).1.1.state = TcpState.established →
            (tcpOpenStep id TcpOpenEvent.wake (tcpOpenRun id pcb evs).1).2 = some (id : Int))) ∧
      ((tcpOpenStep id e (tcpOpenRun id pcb evs).1).2 = some (id : Int) →
        (tcpOpenRun id pcb evs).1.1.state = TcpState.established ∧
          (tcpOpenStep id e (tcpOpenRun id pcb evs).1).1 =
            ((tcpOpenRun id pcb evs).1.1, TcpOpener.returned id)) ∧
      ((tcpOpenStep id e (tcpOpenRun id pcb evs).1).2 = some (-1) →
        (tcpOpenStep id e (tcpOpenRun id pcb evs).1).1.1 = TcpPcb.zero) := by
  have hinv := tcpOpenRun_inv id hopen evs
  refine ⟨fun recorded hw => ?_, tcpOpenStep_returns_id id e _, tcpOpenStep_returns_failure id e _⟩
  obtain ⟨hrec, hmoves⟩ := hinv recorded hw
  exact ⟨hrec, hmoves, tcpOpenStep_wake_of_established id hinv hw⟩

/--
An open that fails at a wake-up on a pcb that is neither CLOSED nor FREE
comes after the handshake: the pcb went from the recorded state through
ESTABLISHED to where it is.
-/
theorem tcpOpen_failed_after_established (id : Nat) (pcb : TcpPcb) (evs : List TcpOpenEvent)
    (recorded : TcpState) (hopen : pcb.state.opening = true)
    (hw : (tcpOpenRun id pcb evs).1.2 = .waiting recorded)
    (hfail : (tcpOpenStep id .wake (tcpOpenRun id pcb evs).1).2 = some (-1))
    (hlive : (tcpOpenRun id pcb evs).1.1.state ≠ .closed ∧
      (tcpOpenRun id pcb evs).1.1.state ≠ .free) :
    Relation.ReflTransGen TcpState.Edge recorded .established ∧
      Relation.ReflTransGen TcpState.Edge .established (tcpOpenRun id pcb evs).1.1.state := by
  have hinv := tcpOpenRun_inv id hopen evs
  generalize (tcpOpenRun id pcb evs).1 = s at hinv hw hfail hlive ⊢
  obtain ⟨q, o⟩ := s
  subst hw
  rw [tcpOpenStep_wake_waiting] at hfail
  obtain ⟨hrec, hmoves⟩ := hinv recorded rfl
  obtain ⟨hne, -, hnsr⟩ := tcpOpenRfc793Resume_failed hfail
  -- not aborted, so the pcb moved along the diagram
  have hpath : Relation.ReflTransGen TcpState.Edge recorded q.state := by
    rcases hmoves with hpath | hab | hab
    · exact hpath
    · exact absurd hab hlive.1
    · exact absurd hab hlive.2
  rcases TcpState.reaches_of_opening hrec hpath with heq | hsr | hest
  · exact absurd heq hne
  · exact absurd hsr hnsr
  · exact hest

/-!
## A handshake ACK that carries FIN
-/

/-- The pcb a passive open on 10.0.0.1:7 leaves when it first sleeps. -/
def tcpOpenListening : TcpPcb :=
  tcpOpenRfc793Passive TcpPcb.zero.alloc ⟨0x0a000001, 7⟩ none

/-- The peer's SYN, a wake-up, and the peer's ACK of our SYN. -/
def tcpOpenHandshake : List TcpOpenEvent :=
  [.arrive tcpEnvFixed (peerSegment 1000 0 TCP_FLG_SYN []), .wake,
   .arrive tcpEnvFixed (peerSegment 1001 101 TCP_FLG_ACK [])]

/-- The handshake completes while the opener sleeps in SYN-RECEIVED, and its next wake-up returns the id. -/
theorem tcp_open_outcomes_handshake :
    tcpOpenListening.state.opening = true ∧
      (tcpOpenRun 0 tcpOpenListening tcpOpenHandshake).1.2 = TcpOpener.waiting TcpState.synReceived ∧
      (tcpOpenStep 0 TcpOpenEvent.wake (tcpOpenRun 0 tcpOpenListening tcpOpenHandshake).1).2 =
        some 0 := by
  have hopen : tcpOpenListening.state.opening = true := by decide
  have hw : (tcpOpenRun 0 tcpOpenListening tcpOpenHandshake).1.2 =
      TcpOpener.waiting TcpState.synReceived := by
    decide
  have hest : (tcpOpenRun 0 tcpOpenListening tcpOpenHandshake).1.1.state = TcpState.established := by
    decide
  exact ⟨hopen, hw,
    ((tcp_open_outcomes 0 tcpOpenListening hopen tcpOpenHandshake TcpOpenEvent.wake).1 _ hw).2.2 hest⟩

/-- The peer's SYN, a wake-up, the peer's ACK of our SYN with FIN set, a wake-up. -/
def tcpOpenAckFin : List TcpOpenEvent :=
  [.arrive tcpEnvFixed (peerSegment 1000 0 TCP_FLG_SYN []), .wake,
   .arrive tcpEnvFixed (peerSegment 1001 101 (TCP_FLG_ACK ||| TCP_FLG_FIN) []), .wake]

example :
    Relation.ReflTransGen TcpState.Edge .synReceived .established ∧
      Relation.ReflTransGen TcpState.Edge .established
        (tcpOpenRun 0 tcpOpenListening (tcpOpenAckFin.take 3)).1.1.state :=
  tcpOpen_failed_after_established 0 tcpOpenListening (tcpOpenAckFin.take 3) .synReceived
    (by decide) (by decide) (by decide) (by decide)

theorem tcp_open_fails_after_ack_fin :
    (tcpOpenRun 0 tcpOpenListening (tcpOpenAckFin.take 2)).1.2 = .waiting .synReceived ∧
      (tcpSegmentArrivesAck tcpEnvFixed (tcpOpenRun 0 tcpOpenListening (tcpOpenAckFin.take 2)).1.1
          (peerSegment 1001 101 (TCP_FLG_ACK ||| TCP_FLG_FIN) [])).1.state = .established ∧
      (tcpOpenRun 0 tcpOpenListening (tcpOpenAckFin.take 3)).1.1.state = .closeWait ∧
      (tcpOpenRun 0 tcpOpenListening tcpOpenAckFin).2 = [none, none, none, some (-1)] ∧
      (tcpOpenRun 0 tcpOpenListening tcpOpenAckFin).1.1.state = .free := by
  decide

end ProtocolStack
