import Mathlib
import ProtocolStack.Tcp.Demux

/-!
# Retransmission backoff

{lit}`tcp_retransmit_queue_emit` resends an entry once more than its rto has
passed since the last send, and doubles the rto; once 12 s have passed since
the entry was first sent it closes the connection instead.  Each resend
waits out the rto before it, so after {lit}`k` resends the entry has waited
at least 0.2 (2^k - 1) s, and the deadline leaves room for five.  The rto is
a 32-bit field: it never grows past 32 times its initial value, and its
doubling never wraps.

Apart from the timer, the queue changes in two ways: {lit}`tcp_output`
appends a fresh entry, and the 5th check of segment arrival pops entries
from the head.  {lit}`QueueFrom` says that of a queue, and every
connection event but the timer keeps it.
-/

namespace ProtocolStack

/-- An entry resent {lit}`k` times: its rto has doubled {lit}`k` times, and it has waited for each. -/
structure TcpQueueEntry.Backoff (entry : TcpQueueEntry) (k : Nat) : Prop where
  rto : entry.rto.toNat = TCP_DEFAULT_RTO.toNat * 2 ^ k
  waited : TCP_DEFAULT_RTO.toNat * (2 ^ k - 1) ≤ entry.last - entry.first
  first_le : entry.first ≤ entry.last
  bound : k ≤ 5

/-- Every entry of the retransmission queue is within its backoff bound. -/
def TcpPcb.BackoffInv (pcb : TcpPcb) : Prop :=
  ∀ entry ∈ pcb.queue, ∃ k, entry.Backoff k

/-- The entry {lit}`tcp_retransmit_queue_add` queues has not been resent. -/
theorem TcpQueueEntry.backoff_fresh {entry : TcpQueueEntry} (hlast : entry.last = entry.first)
    (hrto : entry.rto = TCP_DEFAULT_RTO) : entry.Backoff 0 where
  rto := by rw [hrto]; rfl
  waited := by simp
  first_le := hlast.ge
  bound := Nat.zero_le _

/-!
## One resend
-/

/-- The deadline and the waits before it leave no room for a sixth resend. -/
theorem TcpQueueEntry.Backoff.lt_five {entry : TcpQueueEntry} {k : Nat} (h : entry.Backoff k)
    {now : Nat} (hdead : ¬TCP_RETRANSMIT_DEADLINE ≤ (now - entry.first) / 1000000)
    (hdue : entry.last + entry.rto.toNat < now) : k < 5 := by
  by_contra hk
  have hpow : 2 ^ 5 ≤ 2 ^ k := Nat.pow_le_pow_right (by decide) (by omega)
  have hrto := h.rto
  have hwaited := h.waited
  have hfirst := h.first_le
  simp only [TCP_RETRANSMIT_DEADLINE, TCP_DEFAULT_RTO, UInt32.reduceToNat] at hdead hrto hwaited
  -- with 2^k ≥ 32 the entry has waited 6.2 s, and the rto adds 6.4 s more
  generalize 2 ^ k = p at hpow hrto hwaited
  omega

/-- A resend within the deadline doubles the rto without wrapping, and counts one more wait. -/
theorem TcpQueueEntry.Backoff.resend {entry : TcpQueueEntry} {k : Nat} (h : entry.Backoff k)
    {now : Nat} (hdead : ¬TCP_RETRANSMIT_DEADLINE ≤ (now - entry.first) / 1000000)
    (hdue : entry.last + entry.rto.toNat < now) :
    ({ entry with last := now, rto := entry.rto * 2 } : TcpQueueEntry).Backoff (k + 1) := by
  have hk := h.lt_five hdead hdue
  have hpow : 2 ^ k ≤ 2 ^ 4 := Nat.pow_le_pow_right (by decide) (by omega)
  have hrto := h.rto
  have hwaited := h.waited
  have hfirst := h.first_le
  simp only [TCP_DEFAULT_RTO, UInt32.reduceToNat] at hrto hwaited
  refine ⟨?_, ?_, ?_, by omega⟩
  · -- 200000 * 2^k * 2 stays below 2^32
    simp only [UInt32.toNat_mul, hrto, UInt32.reduceToNat, TCP_DEFAULT_RTO, pow_succ]
    rw [Nat.mod_eq_of_lt (by omega)]
    ring
  · simp only [TCP_DEFAULT_RTO, UInt32.reduceToNat, pow_succ]
    generalize 2 ^ k = p at hpow hrto hwaited ⊢
    omega
  · dsimp only
    omega

theorem tcpRetransmitQueueEmit_backoff (env : TcpEnv) (pcb : TcpPcb) {entry : TcpQueueEntry}
    {k : Nat} (h : entry.Backoff k) : ∃ k', (tcpRetransmitQueueEmit env pcb entry).2.1.Backoff k' := by
  unfold tcpRetransmitQueueEmit
  split_ifs with hdead hdue
  · exact ⟨k, h⟩
  · exact ⟨k + 1, h.resend hdead hdue⟩
  · exact ⟨k, h⟩

/-- {lit}`queue_foreach` of the emit: every entry comes out of one emit. -/
theorem tcpRetransmitQueueEmitAll_backoff (env : TcpEnv) :
    ∀ (pcb : TcpPcb) (queue : List TcpQueueEntry), (∀ entry ∈ queue, ∃ k, entry.Backoff k) →
      ∀ entry ∈ (tcpRetransmitQueueEmitAll env pcb queue).2.1, ∃ k, entry.Backoff k
  | _, [], _ => by simp [tcpRetransmitQueueEmitAll]
  | pcb, entry :: rest, h => by
      obtain ⟨k, hk⟩ := h entry List.mem_cons_self
      have hrest := tcpRetransmitQueueEmitAll_backoff env (tcpRetransmitQueueEmit env pcb entry).1
        rest (fun e he => h e (List.mem_cons_of_mem _ he))
      intro e he
      simp only [tcpRetransmitQueueEmitAll, List.mem_cons] at he
      rcases he with rfl | he
      · exact tcpRetransmitQueueEmit_backoff env pcb hk
      · exact hrest e he

theorem TcpPcb.BackoffInv.timer (env : TcpEnv) {pcb : TcpPcb} (h : pcb.BackoffInv) :
    (tcpTimerPcb env pcb).1.BackoffInv := by
  unfold tcpTimerPcb
  split
  · exact h
  · exact tcpRetransmitQueueEmitAll_backoff env pcb pcb.queue h

/-!
## The queue under the other events
-/

/-- Every entry of {lit}`q'` is one of {lit}`q`, or one {lit}`tcp_output` has just queued. -/
def QueueFrom (q q' : List TcpQueueEntry) : Prop :=
  ∀ entry ∈ q', entry ∈ q ∨ (entry.last = entry.first ∧ entry.rto = TCP_DEFAULT_RTO)

theorem QueueFrom.refl (q : List TcpQueueEntry) : QueueFrom q q :=
  fun _ h => .inl h

theorem QueueFrom.trans {q q' q'' : List TcpQueueEntry} (h : QueueFrom q q')
    (h' : QueueFrom q' q'') : QueueFrom q q'' := by
  intro entry he
  rcases h' entry he with he' | hfresh
  · exact h entry he'
  · exact .inr hfresh

theorem QueueFrom.nil (q : List TcpQueueEntry) : QueueFrom q [] :=
  fun _ h => absurd h List.not_mem_nil

theorem TcpPcb.BackoffInv.of_queueFrom {pcb pcb' : TcpPcb} (h : pcb.BackoffInv)
    (hq : QueueFrom pcb.queue pcb'.queue) : pcb'.BackoffInv := by
  intro entry he
  rcases hq entry he with he | ⟨hlast, hrto⟩
  · exact h entry he
  · exact ⟨0, TcpQueueEntry.backoff_fresh hlast hrto⟩

theorem queueFrom_tcpOutput (env : TcpEnv) (pcb : TcpPcb) (flg : UInt8) (data : List UInt8) :
    QueueFrom pcb.queue (tcpOutput env pcb flg data).1.queue := by
  rw [tcpOutput_fst]
  split
  · intro entry he
    rcases List.mem_append.mp he with he | he
    · exact .inl he
    · rw [List.mem_singleton] at he
      exact .inr ⟨by rw [he], by rw [he]⟩
  · exact QueueFrom.refl _

theorem mem_of_mem_tcpRetransmitQueueCleanupLoop (una : UInt32) :
    ∀ {queue : List TcpQueueEntry} {entry : TcpQueueEntry},
      entry ∈ tcpRetransmitQueueCleanupLoop una queue → entry ∈ queue
  | [], _, h => h
  | head :: rest, entry, h => by
      unfold tcpRetransmitQueueCleanupLoop at h
      split at h
      · exact h
      · exact List.mem_cons_of_mem _ (mem_of_mem_tcpRetransmitQueueCleanupLoop una h)

theorem queueFrom_tcpRetransmitQueueCleanup (pcb : TcpPcb) :
    QueueFrom pcb.queue (tcpRetransmitQueueCleanup pcb).queue :=
  fun _ h => .inl (mem_of_mem_tcpRetransmitQueueCleanupLoop pcb.sndUna h)

theorem QueueFrom.tcpOutput {q : List TcpQueueEntry} {pcb : TcpPcb} (h : QueueFrom q pcb.queue)
    (env : TcpEnv) (flg : UInt8) (data : List UInt8) :
    QueueFrom q (ProtocolStack.tcpOutput env pcb flg data).1.queue :=
  h.trans (queueFrom_tcpOutput env pcb flg data)

/-! ### Segment arrival -/

theorem queueFrom_tcpSegmentArrivesListen (env : TcpEnv) (pcb : TcpPcb) (a : TcpArrival) :
    QueueFrom pcb.queue (tcpSegmentArrivesListen env pcb a).1.queue := by
  unfold tcpSegmentArrivesListen
  split_ifs
  · exact QueueFrom.refl _
  · exact QueueFrom.refl _
  · exact queueFrom_tcpOutput env _ _ _
  · exact QueueFrom.refl _

theorem queueFrom_tcpSegmentArrivesSynSent (env : TcpEnv) (pcb : TcpPcb) (a : TcpArrival) :
    QueueFrom pcb.queue (tcpSegmentArrivesSynSent env pcb a).1.queue := by
  unfold tcpSegmentArrivesSynSent
  dsimp only
  -- a SYN: the queue is cleaned up after an acceptable ACK, then tcp_output queues the reply
  split_ifs
  · exact QueueFrom.refl _
  · refine QueueFrom.tcpOutput ?_ env _ []
    exact queueFrom_tcpRetransmitQueueCleanup _
  · refine QueueFrom.tcpOutput ?_ env _ []
    exact queueFrom_tcpRetransmitQueueCleanup _
  · exact queueFrom_tcpOutput env _ _ []
  · exact queueFrom_tcpOutput env _ _ []
  · exact QueueFrom.refl _

theorem tcpSegmentArrivesAckState_queue (pcb : TcpPcb) (seg : TcpSegmentInfo) :
    (tcpSegmentArrivesAckState pcb seg).queue = pcb.queue := by
  rcases tcpSegmentArrivesAckState_eq pcb seg with h | ⟨-, h⟩ <;> rw [h]

theorem tcpSegmentArrivesWindowUpdate_queue (pcb : TcpPcb) (seg : TcpSegmentInfo) :
    (tcpSegmentArrivesWindowUpdate pcb seg).queue = pcb.queue := by
  unfold tcpSegmentArrivesWindowUpdate
  split <;> rfl

theorem queueFrom_tcpSegmentArrivesAckEstablished (env : TcpEnv) (pcb : TcpPcb)
    (seg : TcpSegmentInfo) :
    QueueFrom pcb.queue (tcpSegmentArrivesAckEstablished env pcb seg).1.queue := by
  unfold tcpSegmentArrivesAckEstablished
  split
  · -- an ACK of new data pops the entries below it
    rw [tcpSegmentArrivesAckState_queue, tcpSegmentArrivesWindowUpdate_queue]
    exact queueFrom_tcpRetransmitQueueCleanup _
  · split
    · rw [tcpSegmentArrivesAckState_queue]
      exact QueueFrom.refl _
    · split
      · exact queueFrom_tcpOutput env pcb TCP_FLG_ACK []
      · rw [tcpSegmentArrivesAckState_queue]
        exact QueueFrom.refl _

theorem queueFrom_tcpSegmentArrivesAck (env : TcpEnv) (pcb : TcpPcb) (a : TcpArrival) :
    QueueFrom pcb.queue (tcpSegmentArrivesAck env pcb a).1.queue := by
  unfold tcpSegmentArrivesAck
  split
  · split
    · exact queueFrom_tcpSegmentArrivesAckEstablished env { pcb with state := .established } a.seg
    · exact QueueFrom.refl _
  · exact queueFrom_tcpSegmentArrivesAckEstablished env pcb a.seg
  · exact queueFrom_tcpSegmentArrivesAckEstablished env pcb a.seg
  · exact queueFrom_tcpSegmentArrivesAckEstablished env pcb a.seg
  · exact queueFrom_tcpSegmentArrivesAckEstablished env pcb a.seg
  · split
    · exact QueueFrom.nil _
    · exact QueueFrom.refl _
  · exact QueueFrom.refl _

theorem tcpSegmentArrivesText_queue (env : TcpEnv) (pcb : TcpPcb) (a : TcpArrival) :
    (tcpSegmentArrivesText env pcb a).1.queue = pcb.queue := by
  rw [tcpSegmentArrivesText_fst]
  split <;> rfl

theorem tcpSegmentArrivesFin_queue (env : TcpEnv) (pcb : TcpPcb) (a : TcpArrival) :
    (tcpSegmentArrivesFin env pcb a).1.queue = pcb.queue := by
  rw [tcpSegmentArrivesFin_fst]
  split
  · rw [tcpSegmentArrivesFinState_eq]
  · rfl

theorem queueFrom_tcpSegmentArrivesOtherwise (env : TcpEnv) (pcb : TcpPcb) (a : TcpArrival) :
    QueueFrom pcb.queue (tcpSegmentArrivesOtherwise env pcb a).1.queue := by
  rw [tcpSegmentArrivesOtherwise_fst]
  split
  · split
    · -- the 7th and 8th steps leave the queue the 5th check made
      rw [tcpSegmentArrivesFin_queue, tcpSegmentArrivesText_queue]
      exact queueFrom_tcpSegmentArrivesAck env pcb a
    · exact queueFrom_tcpSegmentArrivesAck env pcb a
  · exact QueueFrom.refl _

theorem queueFrom_tcpSegmentArrivesPcb (env : TcpEnv) (pcb : TcpPcb) (a : TcpArrival) :
    QueueFrom pcb.queue (tcpSegmentArrivesPcb env pcb a).1.queue := by
  rcases tcpSegmentArrivesPcb_cases env pcb a with ⟨-, h⟩ | ⟨-, h⟩ | ⟨-, h⟩ | ⟨-, -, -, h⟩ <;>
    rw [h]
  · exact QueueFrom.refl _
  · exact queueFrom_tcpSegmentArrivesListen env pcb a
  · exact queueFrom_tcpSegmentArrivesSynSent env pcb a
  · exact queueFrom_tcpSegmentArrivesOtherwise env pcb a

/-! ### User commands -/

theorem queueFrom_tcpOpenRfc793Active (env : TcpEnv) (pcb : TcpPcb) (localEp foreign : IpEndpoint) :
    QueueFrom pcb.queue (tcpOpenRfc793Active env pcb localEp foreign).1.queue := by
  unfold tcpOpenRfc793Active
  dsimp only
  split
  · exact QueueFrom.nil _
  · exact queueFrom_tcpOutput env _ TCP_FLG_SYN []

theorem queueFrom_tcpClose (env : TcpEnv) (pcb : TcpPcb) :
    QueueFrom pcb.queue (tcpClose env pcb).1.queue := by
  rcases tcpClose_fst env pcb with h | ⟨q, next, hnext, h⟩
  · rw [h]
    exact QueueFrom.refl _
  · unfold tcpClose at h ⊢
    rcases hnext with ⟨hst, rfl⟩ | ⟨hst, rfl⟩ <;>
      simp only [hst, reduceCtorEq, if_false] at h ⊢ <;>
      exact queueFrom_tcpOutput env pcb _ []

theorem queueFrom_tcpSendPass (env : TcpEnv) (pcb : TcpPcb) (mtu : Option UInt16)
    (rest : List UInt8) : QueueFrom pcb.queue (tcpSendPass env pcb mtu rest).1.queue := by
  unfold tcpSendPass
  split
  · dsimp only
    split
    · exact QueueFrom.refl _
    · split
      · exact QueueFrom.nil _
      · exact queueFrom_tcpOutput env pcb _ _
  · dsimp only
    split
    · exact QueueFrom.refl _
    · split
      · exact QueueFrom.nil _
      · exact queueFrom_tcpOutput env pcb _ _
  · exact QueueFrom.refl _

theorem queueFrom_tcpReceive (pcb : TcpPcb) (size : Nat) :
    QueueFrom pcb.queue (tcpReceive pcb size).1.queue := by
  obtain ⟨buf, wnd, h⟩ := tcpReceive_fst pcb size
  rw [h]
  exact QueueFrom.refl _

/-! ## Every step, every run -/

/-- Every connection event keeps each queued entry within its backoff bound. -/
theorem TcpPcb.BackoffInv.step (ev : TcpEnv × TcpEvent) {pcb : TcpPcb} (h : pcb.BackoffInv) :
    (tcpStep ev pcb).1.BackoffInv := by
  obtain ⟨env, e⟩ := ev
  cases e with
  | openActive localEp foreign =>
      by_cases hfree : pcb.state = .free
      · rw [tcpStep_openActive_of_free env localEp foreign pcb hfree]
        exact h.of_queueFrom (queueFrom_tcpOpenRfc793Active env pcb.alloc localEp foreign)
      · rw [tcpStep_openActive_of_ne_free env localEp foreign pcb hfree]
        exact h
  | openPassive localEp foreign =>
      by_cases hfree : pcb.state = .free
      · rw [tcpStep_openPassive_of_free env localEp foreign pcb hfree]
        apply h.of_queueFrom
        rw [tcpOpenRfc793Passive_queue]
        exact QueueFrom.refl _
      · rw [tcpStep_openPassive_of_ne_free env localEp foreign pcb hfree]
        exact h
  | openWake recorded =>
      rw [tcpStep_openWake]
      rcases tcpOpenRfc793Wake_fst pcb recorded with h0 | h0 <;> rw [h0]
      · exact h
      · exact h.of_queueFrom (QueueFrom.nil _)
  | openInterrupted =>
      rw [tcpStep_openInterrupted]
      exact h.of_queueFrom (QueueFrom.nil _)
  | close =>
      rw [tcpStep_close]
      exact h.of_queueFrom (queueFrom_tcpClose env pcb)
  | send mtu rest =>
      rw [tcpStep_send]
      exact h.of_queueFrom (queueFrom_tcpSendPass env pcb mtu rest)
  | receive size =>
      rw [tcpStep_receive]
      exact h.of_queueFrom (queueFrom_tcpReceive pcb size)
  | arrive a =>
      rw [tcpStep_arrive]
      exact h.of_queueFrom (queueFrom_tcpSegmentArrivesPcb env pcb a)
  | timer =>
      rw [tcpStep_timer]
      exact h.timer env

/--
Over every run of the TCP layer, each entry of each pcb's retransmission
queue has its rto of 0.2 s doubled k times for some k ≤ 5, and has waited
0.2 (2^k - 1) s since it was first sent.  So the timer resends an entry at
most five times before the 12 s deadline, and the 32-bit rto never passes
6.4 s nor wraps.
-/
theorem tcp_retransmit_backoff_bounded (evs : List (TcpEnv × TcpStackEvent)) :
    ∀ pcb ∈ (tcpStackRun evs).1, ∀ entry ∈ pcb.queue, ∃ k ≤ 5,
      entry.rto.toNat = TCP_DEFAULT_RTO.toNat * 2 ^ k ∧
        TCP_DEFAULT_RTO.toNat * (2 ^ k - 1) ≤ entry.last - entry.first := by
  intro pcb hpcb entry hentry
  have hinv : pcb.BackoffInv :=
    tcpStackRun_forall TcpPcb.BackoffInv (fun ev _ h => h.step ev)
      (fun _ h => absurd h List.not_mem_nil) evs pcb hpcb
  obtain ⟨k, hk⟩ := hinv entry hentry
  exact ⟨k, hk.bound, hk.rto, hk.waited⟩

/-- An active open from 10.0.0.1:7 to 10.0.0.2:9 at time 0, and ticks at 0.3 s and 0.8 s. -/
def tcpStackRunBackoff : List (TcpEnv × TcpStackEvent) :=
  [(tcpEnvFixed, .openCall ⟨0x0a000001, 7⟩ (some ⟨0x0a000002, 9⟩) true),
   ({ tcpEnvFixed with now := 300000 }, .timer),
   ({ tcpEnvFixed with now := 800000 }, .timer)]

/-- Each tick comes after the rto has passed, so the SYN has been resent twice and its rto is 0.8 s. -/
theorem tcp_retransmit_backoff_bounded_syn :
    ∃ pcb ∈ (tcpStackRun tcpStackRunBackoff).1, ∃ entry ∈ pcb.queue, entry.rto = 800000 ∧
      ∃ k ≤ 5, entry.rto.toNat = TCP_DEFAULT_RTO.toNat * 2 ^ k ∧
        TCP_DEFAULT_RTO.toNat * (2 ^ k - 1) ≤ entry.last - entry.first := by
  have hhead : ((tcpStackRun tcpStackRunBackoff).1.map fun p => p.queue.map (·.rto)).head? =
      some [800000] := by
    decide
  rcases hrun : (tcpStackRun tcpStackRunBackoff).1 with _ | ⟨pcb, rest⟩
  · rw [hrun] at hhead
    cases hhead
  · rw [hrun, List.map_cons, List.head?_cons, Option.some.injEq, List.map_eq_singleton_iff] at hhead
    obtain ⟨entry, hq, hrto⟩ := hhead
    have hpcb : pcb ∈ (tcpStackRun tcpStackRunBackoff).1 := by
      rw [hrun]
      exact List.mem_cons_self
    have hentry : entry ∈ pcb.queue := by
      rw [hq]
      exact List.mem_singleton_self _
    exact ⟨pcb, List.mem_cons_self, entry, hentry, hrto,
      tcp_retransmit_backoff_bounded tcpStackRunBackoff pcb hpcb entry hentry⟩

end ProtocolStack
