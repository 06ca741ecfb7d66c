import Mathlib
import ProtocolStack.Tcp.ReceiveStream

/-!
# Demultiplexing: the pcb table and tcp_pcb_select

{lit}`tcp_pcb_select` scans the table once.  It returns the first pcb whose
local endpoint accepts the segment and whose foreign endpoint is the
segment's, in whatever state that pcb is, and otherwise the last LISTEN pcb
with a wildcard foreign endpoint on that local endpoint.  A FREE pcb is
zero-filled by {lit}`tcp_pcb_release`, and no event writes to it before
{lit}`tcp_pcb_alloc` hands it out, so a FREE pcb is selected only for the
zero endpoints.

Only the opens and the SYN a LISTEN pcb takes write the endpoints of a pcb.
{lit}`tcp_open_rfc793` does not look at the table, but a LISTEN pcb takes a
SYN only when no pcb matches it.  So over every run in which the opens name
endpoints that no connected pcb overlaps, no two connected pcbs overlap, and
the pcb that matches a segment is the one {lit}`tcp_pcb_select` returns: a
CLOSED pcb that awaits its release is returned over a matching LISTEN pcb
exactly when it holds the segment's endpoints.
-/

namespace ProtocolStack

/-! # What tcp_pcb_select returns -/

/-- The pcb matches both endpoints of a segment from {lit}`foreign` to {lit}`localEp`. -/
def TcpPcb.matchesExactly (pcb : TcpPcb) (localEp foreign : IpEndpoint) : Bool :=
  pcb.localMatches localEp &&
    (pcb.foreign.addr == foreign.addr && pcb.foreign.port == foreign.port)

/-- The pcb is a wildcard LISTEN pcb on {lit}`localEp`. -/
def TcpPcb.listensOn (pcb : TcpPcb) (localEp : IpEndpoint) : Bool :=
  pcb.localMatches localEp && pcb.isWildcardListen

/--
The scan from index {lit}`i`: the first exact match of the rest, else the
last wildcard LISTEN pcb of the rest, else the candidate remembered so far.
-/
theorem tcpPcbSelectFrom_eq (localEp foreign : IpEndpoint) (i : Nat) (listenPcb : Option Nat)
    (pcbs : List TcpPcb) :
    tcpPcbSelectFrom localEp (some foreign) i listenPcb pcbs =
      ((pcbs.findIdx? (·.matchesExactly localEp foreign)).map (· + i)).or
        ((pcbs.findIdxs (·.listensOn localEp) i).getLast?.or listenPcb) := by
  induction pcbs generalizing i listenPcb with
  | nil => simp [tcpPcbSelectFrom]
  | cons pcb rest ih =>
      -- the exact matches of the rest are found one index further on
      have hshift : ((rest.findIdx? (·.matchesExactly localEp foreign)).map (· + 1)).map (· + i) =
          (rest.findIdx? (·.matchesExactly localEp foreign)).map (· + (i + 1)) := by
        rw [Option.map_map]
        congr 1
        funext k
        simp only [Function.comp_apply]
        omega
      by_cases hlocal : pcb.localMatches localEp = true
      · by_cases hforeign : (pcb.foreign.addr == foreign.addr && pcb.foreign.port == foreign.port) = true
        · -- an exact match ends the scan
          have hexact : pcb.matchesExactly localEp foreign = true := by
            simp [TcpPcb.matchesExactly, hlocal, hforeign]
          simp only [tcpPcbSelectFrom, hlocal, hforeign, if_true, List.findIdx?_cons, hexact,
            Option.map_some, Nat.zero_add, Option.some_or]
        · have hexact : pcb.matchesExactly localEp foreign = false := by
            simp [TcpPcb.matchesExactly, hlocal, hforeign]
          by_cases hlisten : pcb.isWildcardListen = true
          · -- a wildcard LISTEN pcb becomes the candidate
            have hl : pcb.listensOn localEp = true := by simp [TcpPcb.listensOn, hlocal, hlisten]
            simp only [tcpPcbSelectFrom, hlocal, hforeign, hlisten, if_true, ih, Bool.false_eq_true,
              ite_false, List.findIdx?_cons, hexact, hshift, List.findIdxs_cons, hl,
              List.getLast?_cons, Option.some_or]
            cases (rest.findIdxs (·.listensOn localEp) (i + 1)).getLast? <;> rfl
          · have hl : pcb.listensOn localEp = false := by simp [TcpPcb.listensOn, hlocal, hlisten]
            simp only [tcpPcbSelectFrom, hlocal, hforeign, hlisten, if_true, ih, Bool.false_eq_true,
              ite_false, List.findIdx?_cons, hexact, hshift, List.findIdxs_cons, hl]
      · have hexact : pcb.matchesExactly localEp foreign = false := by
          simp [TcpPcb.matchesExactly, hlocal]
        have hl : pcb.listensOn localEp = false := by simp [TcpPcb.listensOn, hlocal]
        simp only [tcpPcbSelectFrom, hlocal, ih, Bool.false_eq_true, ite_false,
          List.findIdx?_cons, hexact, hshift, List.findIdxs_cons, hl]

theorem tcpPcbSelect_eq (pcbs : List TcpPcb) (localEp foreign : IpEndpoint) :
    tcpPcbSelect pcbs localEp (some foreign) =
      (pcbs.findIdx? (·.matchesExactly localEp foreign)).or
        (pcbs.findIdxs (·.listensOn localEp)).getLast? := by
  rw [tcpPcbSelect, tcpPcbSelectFrom_eq, Option.or_none]
  simp

/-- The pcb {lit}`tcp_pcb_select` returns matches both endpoints, or it is a wildcard LISTEN pcb and no pcb matches them. -/
theorem tcpPcbSelect_eq_some {pcbs : List TcpPcb} {localEp foreign : IpEndpoint} {i : Nat}
    {pcb : TcpPcb} (hsel : tcpPcbSelect pcbs localEp (some foreign) = some i)
    (hi : pcbs[i]? = some pcb) :
    pcb.matchesExactly localEp foreign = true ∨
      (pcb.listensOn localEp = true ∧ ∀ q ∈ pcbs, q.matchesExactly localEp foreign = false) := by
  obtain ⟨_, hget⟩ := List.getElem?_eq_some_iff.mp hi
  rw [tcpPcbSelect_eq, Option.or_eq_some_iff] at hsel
  rcases hsel with hexact | ⟨hnone, hlast⟩
  · obtain ⟨_, hmatch, -⟩ := List.findIdx?_eq_some_iff_getElem.mp hexact
    rw [hget] at hmatch
    exact .inl hmatch
  · obtain ⟨_, hlisten⟩ :=
      List.mem_findIdxs_iff_exists_getElem_pos.mp (List.mem_of_getLast? hlast)
    rw [hget] at hlisten
    exact .inr ⟨hlisten, fun q hq => by simpa using List.findIdx?_eq_none_iff.mp hnone q hq⟩

/-- A FREE pcb is the zero pcb. -/
def TcpPcb.FreeZero (pcb : TcpPcb) : Prop :=
  pcb.state = .free → pcb = TcpPcb.zero

theorem TcpState.AckStep.ne_free {st st' : TcpState} (h : st.AckStep st') (hst : st ≠ .free) :
    st' ≠ .free := by
  rcases h with rfl | ⟨-, rfl⟩ | ⟨-, rfl⟩
  · exact hst
  · exact nofun
  · exact nofun

/-- The 8th step never frees a pcb. -/
theorem tcpSegmentArrivesFinState_ne_free (pcb : TcpPcb) (seg : TcpSegmentInfo)
    (hst : pcb.state ≠ .free) : (tcpSegmentArrivesFinState pcb seg).state ≠ .free := by
  rcases tcpSegmentArrivesFinState_state pcb seg with h | h | h | h <;> rw [h]
  · exact hst
  all_goals exact nofun

/-- An arrival frees a pcb only by releasing it. -/
theorem tcpSegmentArrivesPcb_eq_zero_of_free (env : TcpEnv) (pcb : TcpPcb) (a : TcpArrival)
    (hp : pcb.state ≠ .free) (h : (tcpSegmentArrivesPcb env pcb a).1.state = .free) :
    (tcpSegmentArrivesPcb env pcb a).1 = TcpPcb.zero := by
  rcases tcpSegmentArrivesPcb_cases env pcb a with
    ⟨-, hr⟩ | ⟨-, hr⟩ | ⟨-, hr⟩ | ⟨hc, hl, hs, hr⟩ <;> rw [hr] at h
  · exact absurd h hp
  · rw [tcpSegmentArrivesListen_fst] at h
    split at h
    · cases h
    · exact absurd h hp
  · rcases tcpSegmentArrivesSynSent_recv env pcb a with h0 | ⟨-, -, -, -, h0 | h0⟩ <;> rw [h0] at h
    · exact absurd h hp
    · cases h
    · cases h
  -- past the 5th check the pcb is released, or keeps a state the diagram reaches
  rw [hr]
  rcases tcpSegmentArrivesOtherwise_recv env pcb a hc hl hs with
    ⟨h0, -⟩ | ⟨-, -, hstep⟩ | ⟨-, -, -, pcb1, -, hstep, h0⟩ |
      ⟨-, pcb1, -, hstep, -, -, -, ⟨-, h0⟩ | ⟨-, h0⟩⟩
  · exact h0
  · exact absurd h (hstep.ne_free hp)
  · rw [h0] at h
    exact absurd h (tcpSegmentArrivesFinState_ne_free _ a.seg (hstep.ne_free hp))
  · rw [h0] at h
    exact absurd h (hstep.ne_free hp)
  · rw [h0] at h
    exact absurd h (tcpSegmentArrivesFinState_ne_free _ a.seg (hstep.ne_free hp))

/-- An event frees a pcb only by releasing it. -/
theorem tcpStep_eq_zero_of_free (ev : TcpEnv × TcpEvent) (pcb : TcpPcb) (hp : pcb.state ≠ .free)
    (h : (tcpStep ev pcb).1.state = .free) : (tcpStep ev pcb).1 = TcpPcb.zero := by
  obtain ⟨env, e⟩ := ev
  cases e with
  | openActive localEp foreign =>
      rw [tcpStep_openActive_of_ne_free env localEp foreign pcb hp] at h ⊢
      exact absurd h hp
  | openPassive localEp foreign =>
      rw [tcpStep_openPassive_of_ne_free env localEp foreign pcb hp] at h ⊢
      exact absurd h hp
  | openWake recorded =>
      rw [tcpStep_openWake] at h ⊢
      rcases tcpOpenRfc793Wake_fst pcb recorded with h0 | h0 <;> rw [h0] at h ⊢
      exact absurd h hp
  | openInterrupted => rfl
  | close =>
      rw [tcpStep_close] at h ⊢
      rcases tcpClose_fst env pcb with h0 | ⟨q, next, hnext, h0⟩ <;> rw [h0] at h
      · exact absurd h hp
      · rcases hnext with ⟨-, rfl⟩ | ⟨-, rfl⟩ <;> cases h
  | send mtu rest =>
      rw [tcpStep_send] at h ⊢
      rcases tcpSendPass_fst env pcb mtu rest with h0 | h0 | ⟨q, slen, -, -, h0⟩
      · exact h0
      · rw [h0] at h
        exact absurd h hp
      · rw [h0] at h
        exact absurd h hp
  | receive size =>
      rw [tcpStep_receive] at h ⊢
      obtain ⟨buf, wnd, h0⟩ := tcpReceive_fst pcb size
      rw [h0] at h
      exact absurd h hp
  | arrive a =>
      rw [tcpStep_arrive] at h ⊢
      exact tcpSegmentArrivesPcb_eq_zero_of_free env pcb a hp h
  | timer =>
      rw [tcpStep_timer] at h ⊢
      obtain ⟨st, q, hst, h0⟩ := tcpTimerPcb_fst env pcb
      rw [h0] at h
      rcases hst with rfl | rfl
      · exact absurd h hp
      · cases h

/-- Every event leaves the zero pcb zero while it stays FREE. -/
theorem tcpStep_zero_freeZero (ev : TcpEnv × TcpEvent) : (tcpStep ev TcpPcb.zero).1.FreeZero := by
  intro hfree
  obtain ⟨env, e⟩ := ev
  cases e with
  | openActive localEp foreign =>
      rw [tcpStep_openActive_of_free env localEp foreign TcpPcb.zero rfl] at hfree ⊢
      rcases tcpOpenRfc793Active_fst env TcpPcb.zero.alloc localEp foreign with h0 | ⟨q, h0⟩ <;>
        rw [h0] at hfree ⊢
      cases hfree
  | openPassive localEp foreign =>
      rw [tcpStep_openPassive_of_free env localEp foreign TcpPcb.zero rfl,
        tcpOpenRfc793Passive_state] at hfree
      cases hfree
  | openWake recorded =>
      rw [tcpStep_openWake]
      rcases tcpOpenRfc793Wake_fst TcpPcb.zero recorded with h0 | h0 <;> exact h0
  | arrive a =>
      -- the zero pcb fails the receive-window test and is left as it is
      have hrej : tcpSegmentAcceptable TcpPcb.zero a.seg = false := rfl
      rw [tcpStep_arrive,
        tcpSegmentArrivesPcb_otherwise env _ a (by decide) (by decide) (by decide),
        tcpSegmentArrivesOtherwise_fst]
      simp [hrej]
  | openInterrupted | close | send | receive | timer => rfl

theorem TcpPcb.FreeZero.step (ev : TcpEnv × TcpEvent) {pcb : TcpPcb} (h : pcb.FreeZero) :
    (tcpStep ev pcb).1.FreeZero := by
  by_cases hp : pcb.state = .free
  · rw [h hp]
    exact tcpStep_zero_freeZero ev
  · exact tcpStep_eq_zero_of_free ev pcb hp

/-! # Invariants of the table

A property of single pcbs that every event keeps holds of every pcb of the
table after every run of the TCP layer: each step of the layer applies one
event to one pcb, or the timer to each.
-/

section TableInvariant

variable (I : TcpPcb → Prop) (hI : ∀ ev pcb, I pcb → I (tcpStep ev pcb).1)

include hI

theorem forall_mem_set_of_step {pcbs : List TcpPcb} (h : ∀ pcb ∈ pcbs, I pcb) {i : Nat}
    {pcb : TcpPcb} (hi : pcbs[i]? = some pcb) (ev : TcpEnv × TcpEvent) :
    ∀ p ∈ pcbs.set i (tcpStep ev pcb).1, I p := by
  intro p hp
  rcases List.mem_or_eq_of_mem_set hp with hp | rfl
  · exact h p hp
  · exact hI ev pcb (h pcb (List.mem_of_getElem? hi))

theorem tcpStepAt_forall (env : TcpEnv) (ev : TcpEvent) (pcbs : List TcpPcb) (i : Nat)
    (h : ∀ pcb ∈ pcbs, I pcb) : ∀ pcb ∈ (tcpStepAt env ev pcbs i).1, I pcb := by
  unfold tcpStepAt
  split
  · exact h
  · rename_i pcb hi
    exact forall_mem_set_of_step I hI h hi (env, ev)

theorem tcpStepGet_forall (env : TcpEnv) (ev : TcpEvent) (pcbs : List TcpPcb) (id : Int)
    (h : ∀ pcb ∈ pcbs, I pcb) : ∀ pcb ∈ (tcpStepGet env ev pcbs id).1, I pcb := by
  unfold tcpStepGet
  split
  · exact h
  · exact tcpStepAt_forall I hI env ev pcbs id.toNat h

theorem tcpSegmentArrives_forall (env : TcpEnv) (pcbs : List TcpPcb) (a : TcpArrival)
    (h : ∀ pcb ∈ pcbs, I pcb) : ∀ pcb ∈ (tcpSegmentArrives env pcbs a).1, I pcb := by
  unfold tcpSegmentArrives
  split
  · exact h
  · split
    · exact h
    · rename_i i _ pcb hi
      exact forall_mem_set_of_step I hI h hi (env, .arrive a)

theorem tcpStackStep_forall (ev : TcpEnv × TcpStackEvent) (pcbs : List TcpPcb)
    (h : ∀ pcb ∈ pcbs, I pcb) : ∀ pcb ∈ (tcpStackStep ev pcbs).1, I pcb := by
  obtain ⟨env, e⟩ := ev
  cases e with
  | openCall localEp foreign active =>
      dsimp only [tcpStackStep]
      split
      · exact h
      · split
        · split
          · exact tcpStepAt_forall I hI env _ pcbs _ h
          · exact h
        · exact tcpStepAt_forall I hI env _ pcbs _ h
  | openWake id recorded => exact tcpStepAt_forall I hI env _ pcbs id h
  | openInterrupted id => exact tcpStepAt_forall I hI env _ pcbs id h
  | close id => exact tcpStepGet_forall I hI env _ pcbs id h
  | send id mtu rest => exact tcpStepGet_forall I hI env _ pcbs id h
  | receive id size => exact tcpStepGet_forall I hI env _ pcbs id h
  | arrive a => exact tcpSegmentArrives_forall I hI env pcbs a h
  | timer =>
      intro pcb hpcb
      simp only [tcpStackStep, List.map_map, List.mem_map, Function.comp_apply] at hpcb
      obtain ⟨p, hp, rfl⟩ := hpcb
      exact hI (env, .timer) p (h p hp)

theorem tcpStackRun_forall (hzero : I TcpPcb.zero) (evs : List (TcpEnv × TcpStackEvent)) :
    ∀ pcb ∈ (tcpStackRun evs).1, I pcb := by
  apply Run.invariant_of_step tcpStackStep (fun pcbs => ∀ pcb ∈ pcbs, I pcb)
    (fun pcbs ev h => tcpStackStep_forall I hI ev pcbs h)
  intro pcb hpcb
  rw [tcpPcbsInit, List.mem_replicate] at hpcb
  rw [hpcb.2]
  exact hzero

end TableInvariant

section Table

variable {pcbs : List TcpPcb} {i : Nat} {pcb : TcpPcb}

theorem tcpPcbAlloc_state (halloc : tcpPcbAlloc pcbs = some i) (hp : pcbs[i]? = some pcb) :
    pcb.state = .free := by
  obtain ⟨hi, hfree, -⟩ := List.findIdx?_eq_some_iff_getElem.mp halloc
  rw [List.getElem?_eq_getElem hi, Option.some.injEq] at hp
  subst hp
  simpa using hfree

theorem tcpStackStep_openPassive (halloc : tcpPcbAlloc pcbs = some i) (hp : pcbs[i]? = some pcb)
    (env : TcpEnv) (localEp : IpEndpoint) (foreign : Option IpEndpoint) :
    tcpStackStep (env, .openCall localEp foreign false) pcbs =
      (pcbs.set i (tcpOpenRfc793Passive pcb.alloc localEp foreign), TcpObs.sent []) := by
  simp only [tcpStackStep, halloc, tcpStepAt, hp, Bool.false_eq_true, if_false,
    tcpStep_openPassive_of_free env localEp foreign pcb (tcpPcbAlloc_state halloc hp)]

theorem tcpStackStep_openActive (halloc : tcpPcbAlloc pcbs = some i) (hp : pcbs[i]? = some pcb)
    (env : TcpEnv) (localEp foreign : IpEndpoint) :
    tcpStackStep (env, .openCall localEp (some foreign) true) pcbs =
      (pcbs.set i (tcpOpenRfc793Active env pcb.alloc localEp foreign).1,
        TcpObs.sent (tcpOpenRfc793Active env pcb.alloc localEp foreign).2) := by
  simp only [tcpStackStep, halloc, tcpStepAt, hp, if_true,
    tcpStep_openActive_of_free env localEp foreign pcb (tcpPcbAlloc_state halloc hp)]

end Table

/-! # Endpoints

The opens and the SYN a LISTEN pcb takes write the endpoints of a pcb;
every other event keeps them, or releases the pcb.
-/

/-- {lit}`q` has the endpoints of {lit}`p`. -/
structure TcpPcb.SameEndpoints (p q : TcpPcb) : Prop where
  localEp : q.localEp = p.localEp
  foreign : q.foreign = p.foreign

theorem TcpPcb.SameEndpoints.refl (p : TcpPcb) : p.SameEndpoints p :=
  ⟨rfl, rfl⟩

theorem TcpPcb.SameEndpoints.trans {p q r : TcpPcb} (h : p.SameEndpoints q)
    (h' : q.SameEndpoints r) : p.SameEndpoints r :=
  ⟨h'.localEp.trans h.localEp, h'.foreign.trans h.foreign⟩

theorem tcpOutput_sameEndpoints (env : TcpEnv) (pcb : TcpPcb) (flg : UInt8) (data : List UInt8) :
    pcb.SameEndpoints (tcpOutput env pcb flg data).1 := by
  rw [tcpOutput_fst]
  exact ⟨rfl, rfl⟩

theorem tcpSegmentArrivesAckState_sameEndpoints (pcb : TcpPcb) (seg : TcpSegmentInfo) :
    pcb.SameEndpoints (tcpSegmentArrivesAckState pcb seg) := by
  rcases tcpSegmentArrivesAckState_eq pcb seg with h | ⟨-, h⟩ <;> rw [h]
  · exact .refl pcb
  · exact ⟨rfl, rfl⟩

theorem tcpSegmentArrivesAckEstablished_sameEndpoints (env : TcpEnv) (pcb : TcpPcb)
    (seg : TcpSegmentInfo) : pcb.SameEndpoints (tcpSegmentArrivesAckEstablished env pcb seg).1 := by
  unfold tcpSegmentArrivesAckEstablished
  split
  · refine TcpPcb.SameEndpoints.trans ?_ (tcpSegmentArrivesAckState_sameEndpoints _ seg)
    unfold tcpSegmentArrivesWindowUpdate tcpRetransmitQueueCleanup
    split <;> exact ⟨rfl, rfl⟩
  · split
    · exact tcpSegmentArrivesAckState_sameEndpoints pcb seg
    · split
      · exact tcpOutput_sameEndpoints env pcb TCP_FLG_ACK []
      · exact tcpSegmentArrivesAckState_sameEndpoints pcb seg

/-- The 5th check keeps the endpoints, unless LAST-ACK releases the pcb and processing stops. -/
theorem tcpSegmentArrivesAck_endpoints (env : TcpEnv) (pcb : TcpPcb) (a : TcpArrival) :
    ((tcpSegmentArrivesAck env pcb a).2.2 = false ∧
        (tcpSegmentArrivesAck env pcb a).1 = TcpPcb.zero) ∨
      pcb.SameEndpoints (tcpSegmentArrivesAck env pcb a).1 := by
  unfold tcpSegmentArrivesAck
  split
  · split
    · exact .inr ((⟨rfl, rfl⟩ : pcb.SameEndpoints { pcb with state := .established }).trans
        (tcpSegmentArrivesAckEstablished_sameEndpoints env _ a.seg))
    · exact .inr (.refl pcb)
  · exact .inr (tcpSegmentArrivesAckEstablished_sameEndpoints env pcb a.seg)
  · exact .inr (tcpSegmentArrivesAckEstablished_sameEndpoints env pcb a.seg)
  · exact .inr (tcpSegmentArrivesAckEstablished_sameEndpoints env pcb a.seg)
  · exact .inr (tcpSegmentArrivesAckEstablished_sameEndpoints env pcb a.seg)
  · split
    · exact .inl ⟨rfl, rfl⟩
    · exact .inr (.refl pcb)
  · exact .inr (.refl pcb)

theorem tcpSegmentArrivesText_sameEndpoints (env : TcpEnv) (pcb : TcpPcb) (a : TcpArrival) :
    pcb.SameEndpoints (tcpSegmentArrivesText env pcb a).1 := by
  rw [tcpSegmentArrivesText_fst]
  split
  · exact ⟨rfl, rfl⟩
  · exact .refl pcb

theorem tcpSegmentArrivesFin_sameEndpoints (env : TcpEnv) (pcb : TcpPcb) (a : TcpArrival) :
    pcb.SameEndpoints (tcpSegmentArrivesFin env pcb a).1 := by
  rw [tcpSegmentArrivesFin_fst]
  split
  · rw [tcpSegmentArrivesFinState_eq]
    exact ⟨rfl, rfl⟩
  · exact .refl pcb

theorem tcpSegmentArrivesOtherwise_endpoints (env : TcpEnv) (pcb : TcpPcb) (a : TcpArrival) :
    (tcpSegmentArrivesOtherwise env pcb a).1 = TcpPcb.zero ∨
      pcb.SameEndpoints (tcpSegmentArrivesOtherwise env pcb a).1 := by
  rw [tcpSegmentArrivesOtherwise_fst]
  split
  · rcases tcpSegmentArrivesAck_endpoints env pcb a with ⟨hstop, hzero⟩ | hsame
    · simp only [hstop, Bool.false_eq_true, if_false]
      exact .inl hzero
    · split
      · exact .inr (hsame.trans ((tcpSegmentArrivesText_sameEndpoints env _ a).trans
          (tcpSegmentArrivesFin_sameEndpoints env _ a)))
      · exact .inr hsame
  · exact .inr (.refl pcb)

theorem tcpSegmentArrivesSynSent_sameEndpoints (env : TcpEnv) (pcb : TcpPcb) (a : TcpArrival) :
    pcb.SameEndpoints (tcpSegmentArrivesSynSent env pcb a).1 := by
  unfold tcpSegmentArrivesSynSent
  split
  · exact .refl pcb
  · dsimp only
    split
    · -- rcv.nxt, irs, the acknowledgment and the state change, then one segment
      constructor <;> split_ifs <;> simp [tcpRetransmitQueueCleanup, tcpOutput_fst]
    · exact .refl pcb

/-- A LISTEN pcb keeps its endpoints, or takes those of the SYN it answers. -/
theorem tcpSegmentArrivesListen_endpoints (env : TcpEnv) (pcb : TcpPcb) (a : TcpArrival) :
    pcb.SameEndpoints (tcpSegmentArrivesListen env pcb a).1 ∨
      ((tcpSegmentArrivesListen env pcb a).1.localEp = a.localEp ∧
        (tcpSegmentArrivesListen env pcb a).1.foreign = a.foreign) := by
  rw [tcpSegmentArrivesListen_fst]
  split
  · exact .inr ⟨rfl, rfl⟩
  · exact .inl (.refl pcb)

/-- An arrival keeps the endpoints of the pcb, releases it, or gives a LISTEN pcb the segment's endpoints. -/
theorem tcpSegmentArrivesPcb_endpoints (env : TcpEnv) (pcb : TcpPcb) (a : TcpArrival) :
    (tcpSegmentArrivesPcb env pcb a).1 = TcpPcb.zero ∨
      pcb.SameEndpoints (tcpSegmentArrivesPcb env pcb a).1 ∨
      (pcb.state = .listen ∧ (tcpSegmentArrivesPcb env pcb a).1.localEp = a.localEp ∧
        (tcpSegmentArrivesPcb env pcb a).1.foreign = a.foreign) := by
  rcases tcpSegmentArrivesPcb_cases env pcb a with
    ⟨-, h⟩ | ⟨hl, h⟩ | ⟨-, h⟩ | ⟨-, -, -, h⟩ <;> rw [h]
  · exact .inr (.inl (.refl pcb))
  · rcases tcpSegmentArrivesListen_endpoints env pcb a with hsame | ⟨hlocal, hforeign⟩
    · exact .inr (.inl hsame)
    · exact .inr (.inr ⟨hl, hlocal, hforeign⟩)
  · exact .inr (.inl (tcpSegmentArrivesSynSent_sameEndpoints env pcb a))
  · rcases tcpSegmentArrivesOtherwise_endpoints env pcb a with hzero | hsame
    · exact .inl hzero
    · exact .inr (.inl hsame)

theorem tcpTimerPcb_sameEndpoints (env : TcpEnv) (pcb : TcpPcb) :
    pcb.SameEndpoints (tcpTimerPcb env pcb).1 := by
  obtain ⟨st, q, -, h⟩ := tcpTimerPcb_fst env pcb
  rw [h]
  exact ⟨rfl, rfl⟩

/-- The events that write endpoints: the opens, and an arrival, which may meet a LISTEN pcb. -/
def TcpEvent.writesEndpoints : TcpEvent → Bool
  | .openActive .. | .openPassive .. | .arrive _ => true
  | _ => false

/-- Every other event keeps the endpoints of the pcb or releases it. -/
theorem tcpStep_endpoints (ev : TcpEnv × TcpEvent) (pcb : TcpPcb)
    (hw : ev.2.writesEndpoints = false) :
    (tcpStep ev pcb).1 = TcpPcb.zero ∨ pcb.SameEndpoints (tcpStep ev pcb).1 := by
  obtain ⟨env, e⟩ := ev
  cases e with
  | openActive | openPassive | arrive => cases hw
  | openWake recorded =>
      rw [tcpStep_openWake]
      rcases tcpOpenRfc793Wake_fst pcb recorded with h | h <;> rw [h]
      · exact .inr (.refl pcb)
      · exact .inl rfl
  | openInterrupted => exact .inl rfl
  | close =>
      rw [tcpStep_close]
      rcases tcpClose_fst env pcb with h | ⟨q, next, -, h⟩ <;> rw [h]
      · exact .inr (.refl pcb)
      · exact .inr ⟨rfl, rfl⟩
  | send mtu rest =>
      rw [tcpStep_send]
      rcases tcpSendPass_fst env pcb mtu rest with h | h | ⟨q, slen, -, -, h⟩ <;> rw [h]
      · exact .inl rfl
      · exact .inr (.refl pcb)
      · exact .inr ⟨rfl, rfl⟩
  | receive size =>
      rw [tcpStep_receive]
      obtain ⟨buf, wnd, h⟩ := tcpReceive_fst pcb size
      rw [h]
      exact .inr ⟨rfl, rfl⟩
  | timer => exact .inr (tcpTimerPcb_sameEndpoints env pcb)

/-- An active open gives the pcb the two endpoints it names, or releases it. -/
theorem tcpOpenRfc793Active_endpoints (env : TcpEnv) (pcb : TcpPcb) (localEp foreign : IpEndpoint) :
    (tcpOpenRfc793Active env pcb localEp foreign).1 = TcpPcb.zero ∨
      ((tcpOpenRfc793Active env pcb localEp foreign).1.localEp = localEp ∧
        (tcpOpenRfc793Active env pcb localEp foreign).1.foreign = foreign) := by
  rcases tcpOpenRfc793Active_fst env pcb localEp foreign with h | ⟨q, h⟩ <;> rw [h]
  · exact .inl rfl
  · exact .inr ⟨rfl, rfl⟩

@[simp] theorem tcpOpenRfc793Passive_localEp (pcb : TcpPcb) (localEp : IpEndpoint)
    (foreign : Option IpEndpoint) : (tcpOpenRfc793Passive pcb localEp foreign).localEp = localEp := by
  unfold tcpOpenRfc793Passive
  split <;> rfl

@[simp] theorem tcpOpenRfc793Passive_foreign (pcb : TcpPcb) (localEp : IpEndpoint)
    (foreign : Option IpEndpoint) :
    (tcpOpenRfc793Passive pcb localEp foreign).foreign = foreign.getD pcb.foreign := by
  unfold tcpOpenRfc793Passive
  split <;> rfl

/-! # Unambiguous tables

A pcb is connected when it is in use and has a foreign endpoint other than
0.0.0.0:0; two pcbs overlap when one segment matches both.  A table is
unambiguous when no two connected pcbs overlap.
-/

/-- A local endpoint accepts the segments to another: the same port, and the same address or ANY. -/
def IpEndpoint.Covers (a b : IpEndpoint) : Prop :=
  (a.addr = IP_ADDR_ANY ∨ a.addr = b.addr) ∧ a.port = b.port

theorem IpEndpoint.Covers.refl (a : IpEndpoint) : a.Covers a :=
  ⟨.inr rfl, rfl⟩

theorem IpEndpoint.Covers.overlaps {a b c : IpEndpoint} (hab : a.Covers b) (hbc : b.Overlaps c) :
    a.Overlaps c := by
  obtain ⟨habAddr, habPort⟩ := hab
  obtain ⟨hbcAddr, hbcPort⟩ := hbc
  refine ⟨?_, habPort.trans hbcPort⟩
  rcases habAddr with ha | ha
  · exact .inl ha
  · rw [ha]
    exact hbcAddr

/-- An endpoint that overlaps one whose address is not ANY accepts the segments to it. -/
theorem IpEndpoint.Overlaps.covers {a b : IpEndpoint} (h : a.Overlaps b) (hb : b.addr ≠ IP_ADDR_ANY) :
    a.Covers b := by
  obtain ⟨hAddr, hPort⟩ := h
  refine ⟨?_, hPort⟩
  rcases hAddr with ha | hb' | hab
  · exact .inl ha
  · exact absurd hb' hb
  · exact .inr hab

theorem TcpPcb.matchesExactly_iff (pcb : TcpPcb) (localEp foreign : IpEndpoint) :
    pcb.matchesExactly localEp foreign = true ↔ pcb.localEp.Covers localEp ∧ pcb.foreign = foreign := by
  simp [TcpPcb.matchesExactly, TcpPcb.localMatches, IpEndpoint.Covers, IpEndpoint.eq_iff]

/-- In use, with a foreign endpoint: a pcb that {lit}`tcp_pcb_select` finds by its exact match for a segment from a foreign endpoint other than 0.0.0.0:0. -/
def TcpPcb.Connected (pcb : TcpPcb) : Prop :=
  pcb.state ≠ .free ∧ pcb.foreign ≠ ⟨IP_ADDR_ANY, 0⟩

instance (pcb : TcpPcb) : Decidable pcb.Connected :=
  inferInstanceAs (Decidable (_ ∧ _))

/-- Two pcbs that one segment matches: the same foreign endpoint and overlapping local ones. -/
def TcpPcb.Overlaps (p q : TcpPcb) : Prop :=
  p.localEp.Overlaps q.localEp ∧ p.foreign = q.foreign

theorem TcpPcb.Overlaps.symm {p q : TcpPcb} (h : p.Overlaps q) : q.Overlaps p :=
  ⟨h.1.symm, h.2.symm⟩

theorem TcpPcb.zero_not_connected : ¬TcpPcb.zero.Connected :=
  fun h => h.1 rfl

/-- A pcb with the endpoints of a pcb whose FREE state means zero-filled is connected only if that pcb is. -/
theorem TcpPcb.Connected.of_sameEndpoints {p p' : TcpPcb} (hc : p'.Connected) (hfz : p.FreeZero)
    (hs : p.SameEndpoints p') : p.Connected := by
  have hf : p.foreign ≠ ⟨IP_ADDR_ANY, 0⟩ := by
    rw [← hs.foreign]
    exact hc.2
  refine ⟨fun hfree => hf ?_, hf⟩
  rw [hfz hfree]
  rfl

/-- No two connected pcbs overlap: a segment matches at most one of them. -/
def TcpDemuxDisjoint (pcbs : List TcpPcb) : Prop :=
  ∀ (i j : Nat) (p q : TcpPcb), i ≠ j → pcbs[i]? = some p → pcbs[j]? = some q → p.Connected →
    q.Connected → ¬p.Overlaps q

section Disjoint

variable {pcbs : List TcpPcb}

/-- The table with one pcb replaced by one that overlaps no connected pcb elsewhere. -/
theorem TcpDemuxDisjoint.set (h : TcpDemuxDisjoint pcbs) {i : Nat} {p' : TcpPcb}
    (hnew : p'.Connected → ∀ j q, j ≠ i → pcbs[j]? = some q → q.Connected → ¬p'.Overlaps q) :
    TcpDemuxDisjoint (pcbs.set i p') := by
  have hold : ∀ {k : Nat} {r : TcpPcb}, k ≠ i → (pcbs.set i p')[k]? = some r → pcbs[k]? = some r :=
    fun hk hr => by rwa [List.getElem?_set_ne (Ne.symm hk)] at hr
  have hself : ∀ {r : TcpPcb}, (pcbs.set i p')[i]? = some r → r = p' := fun hr => by
    rw [List.getElem?_set_self'] at hr
    obtain ⟨_, -, rfl⟩ := Option.map_eq_some_iff.mp hr
    rfl
  intro a b p q hab hp hq hpc hqc
  by_cases ha : a = i
  · rw [ha] at hp hab
    rw [hself hp] at hpc ⊢
    exact hnew hpc b q (Ne.symm hab) (hold (Ne.symm hab) hq) hqc
  · by_cases hb : b = i
    · rw [hb] at hq hab
      rw [hself hq] at hqc ⊢
      exact fun hov => hnew hqc a p hab (hold ha hp) hpc hov.symm
    · exact h a b p q hab (hold ha hp) (hold hb hq) hpc hqc

/-- The table with every pcb mapped to one that keeps its endpoints, connected only where it was. -/
theorem TcpDemuxDisjoint.map (h : TcpDemuxDisjoint pcbs) {f : TcpPcb → TcpPcb}
    (hf : ∀ p ∈ pcbs, (f p).Connected → p.Connected ∧ p.SameEndpoints (f p)) :
    TcpDemuxDisjoint (pcbs.map f) := by
  intro a b p' q' hab hp hq hpc hqc hov
  rw [List.getElem?_map] at hp hq
  obtain ⟨p, hp0, rfl⟩ := Option.map_eq_some_iff.mp hp
  obtain ⟨q, hq0, rfl⟩ := Option.map_eq_some_iff.mp hq
  obtain ⟨hpc0, hps⟩ := hf p (List.mem_of_getElem? hp0) hpc
  obtain ⟨hqc0, hqs⟩ := hf q (List.mem_of_getElem? hq0) hqc
  apply h a b p q hab hp0 hq0 hpc0 hqc0
  -- the endpoints are those of the pcbs before
  have hlocal := hov.1
  rw [hps.localEp, hqs.localEp] at hlocal
  exact ⟨hlocal, by rw [← hps.foreign, ← hqs.foreign]; exact hov.2⟩

/-- A pcb with the foreign endpoint of a connected pcb of the table, on a local endpoint that pcb accepts, overlaps no connected pcb elsewhere. -/
theorem TcpDemuxDisjoint.apart_of_covers (h : TcpDemuxDisjoint pcbs) {i : Nat} {p p' : TcpPcb}
    (hp : pcbs[i]? = some p) (hc : p.Connected) (hcov : p.localEp.Covers p'.localEp)
    (hf : p'.foreign = p.foreign) :
    ∀ j q, j ≠ i → pcbs[j]? = some q → q.Connected → ¬p'.Overlaps q :=
  fun j q hj hq hqc hov =>
    h i j p q (Ne.symm hj) hp hq hc hqc ⟨hcov.overlaps hov.1, by rw [← hf]; exact hov.2⟩

end Disjoint

/-- What holds of every table the TCP layer reaches without an ambiguous open. -/
structure TcpDemuxInv (pcbs : List TcpPcb) : Prop where
  freeZero : ∀ pcb ∈ pcbs, pcb.FreeZero
  disjoint : TcpDemuxDisjoint pcbs

/--
The assumptions of an unambiguous run: an open names endpoints that no
connected pcb overlaps ({lit}`tcp_open_rfc793` does not look), and a segment
is addressed to an address other than 0.0.0.0.
-/
def TcpStackEvent.FreshEndpoints (pcbs : List TcpPcb) : TcpStackEvent → Prop
  | .openCall localEp (some foreign) _ =>
      ∀ q ∈ pcbs, q.Connected → ¬(q.localEp.Overlaps localEp ∧ q.foreign = foreign)
  | .arrive a => a.localEp.addr ≠ IP_ADDR_ANY
  | _ => True

instance (pcbs : List TcpPcb) : ∀ ev, Decidable (TcpStackEvent.FreshEndpoints pcbs ev)
  | .openCall _ (some _) _ => inferInstanceAs (Decidable (∀ q ∈ pcbs, _))
  | .openCall _ none _ => isTrue trivial
  | .openWake _ _ => isTrue trivial
  | .openInterrupted _ => isTrue trivial
  | .close _ => isTrue trivial
  | .send _ _ _ => isTrue trivial
  | .receive _ _ => isTrue trivial
  | .arrive _ => inferInstanceAs (Decidable (_ ≠ _))
  | .timer => isTrue trivial

section Step

variable {pcbs : List TcpPcb} (h : TcpDemuxInv pcbs)
include h

/-- An event that keeps the endpoints of the pcb at {lit}`i` or releases it leaves it apart from the others. -/
theorem TcpDemuxInv.apart_of_keeps {i : Nat} {p p' : TcpPcb} (hp : pcbs[i]? = some p)
    (hkeep : p' = TcpPcb.zero ∨ p.SameEndpoints p') :
    p'.Connected → ∀ j q, j ≠ i → pcbs[j]? = some q → q.Connected → ¬p'.Overlaps q := by
  intro hc
  rcases hkeep with rfl | hs
  · exact absurd hc TcpPcb.zero_not_connected
  · have hpc := hc.of_sameEndpoints (h.freeZero p (List.mem_of_getElem? hp)) hs
    exact h.disjoint.apart_of_covers hp hpc (by rw [hs.localEp]; exact .refl _) hs.foreign

/-- An open installs endpoints that no connected pcb overlaps. -/
theorem TcpDemuxInv.disjoint_install {i : Nat} {p' : TcpPcb} {localEp foreign : IpEndpoint}
    (hfresh : ∀ q ∈ pcbs, q.Connected → ¬(q.localEp.Overlaps localEp ∧ q.foreign = foreign))
    (hnew : p'.Connected → p'.localEp = localEp ∧ p'.foreign = foreign) :
    TcpDemuxDisjoint (pcbs.set i p') := by
  apply h.disjoint.set
  intro hc j q _ hq hqc hov
  obtain ⟨hlocal, hforeign⟩ := hnew hc
  apply hfresh q (List.mem_of_getElem? hq) hqc
  rw [← hlocal, ← hforeign]
  exact hov.symm

theorem TcpDemuxInv.disjoint_stepAt (env : TcpEnv) (ev : TcpEvent)
    (hw : ev.writesEndpoints = false) (i : Nat) : TcpDemuxDisjoint (tcpStepAt env ev pcbs i).1 := by
  unfold tcpStepAt
  split
  · exact h.disjoint
  · rename_i p hp
    exact h.disjoint.set (h.apart_of_keeps hp (tcpStep_endpoints (env, ev) p hw))

theorem TcpDemuxInv.disjoint_stepGet (env : TcpEnv) (ev : TcpEvent)
    (hw : ev.writesEndpoints = false) (id : Int) : TcpDemuxDisjoint (tcpStepGet env ev pcbs id).1 := by
  unfold tcpStepGet
  split
  · exact h.disjoint
  · exact h.disjoint_stepAt env ev hw id.toNat

theorem TcpDemuxInv.disjoint_open (env : TcpEnv) (localEp : IpEndpoint) (foreign : Option IpEndpoint)
    (active : Bool) (hfresh : TcpStackEvent.FreshEndpoints pcbs (.openCall localEp foreign active)) :
    TcpDemuxDisjoint (tcpStackStep (env, .openCall localEp foreign active) pcbs).1 := by
  cases halloc : tcpPcbAlloc pcbs with
  | none =>
      simp only [tcpStackStep, halloc]
      exact h.disjoint
  | some i =>
      obtain ⟨hi, -, -⟩ := List.findIdx?_eq_some_iff_getElem.mp halloc
      have hp := List.getElem?_eq_getElem hi
      -- tcp_pcb_alloc hands out a FREE pcb, which is zero-filled
      have hzero : pcbs[i] = TcpPcb.zero :=
        h.freeZero _ (List.getElem_mem hi) (tcpPcbAlloc_state halloc hp)
      cases active with
      | false =>
          rw [tcpStackStep_openPassive halloc hp]
          cases foreign with
          | none =>
              -- without a foreign endpoint the pcb keeps the wildcard one
              apply h.disjoint.set
              intro hc
              exfalso
              apply hc.2
              rw [tcpOpenRfc793Passive_foreign, hzero]
              rfl
          | some f =>
              exact h.disjoint_install hfresh fun _ =>
                ⟨tcpOpenRfc793Passive_localEp _ _ _, tcpOpenRfc793Passive_foreign _ _ _⟩
      | true =>
          cases foreign with
          | none =>
              simp only [tcpStackStep, halloc, if_true]
              exact h.disjoint
          | some f =>
              rw [tcpStackStep_openActive halloc hp]
              apply h.disjoint_install hfresh
              intro hc
              rcases tcpOpenRfc793Active_endpoints env pcbs[i].alloc localEp f with h0 | hends
              · rw [h0] at hc
                exact absurd hc TcpPcb.zero_not_connected
              · exact hends

theorem TcpDemuxInv.disjoint_arrives (env : TcpEnv) (a : TcpArrival)
    (ha : a.localEp.addr ≠ IP_ADDR_ANY) : TcpDemuxDisjoint (tcpSegmentArrives env pcbs a).1 := by
  unfold tcpSegmentArrives
  split
  · exact h.disjoint
  · rename_i i hsel
    split
    · exact h.disjoint
    · rename_i p hp
      apply h.disjoint.set
      intro hc
      rcases tcpSegmentArrivesPcb_endpoints env p a with hzero | hsame | ⟨hl, hlocal, hforeign⟩
      · exact h.apart_of_keeps hp (.inl hzero) hc
      · exact h.apart_of_keeps hp (.inr hsame) hc
      · rcases tcpPcbSelect_eq_some hsel hp with hm | ⟨-, hnone⟩
        · -- selected by its exact match: the foreign endpoint stays, the local one narrows
          obtain ⟨hcov, hf⟩ := (p.matchesExactly_iff a.localEp a.foreign).mp hm
          have hpc : p.Connected := ⟨by rw [hl]; exact nofun, by rw [hf, ← hforeign]; exact hc.2⟩
          exact h.disjoint.apart_of_covers hp hpc (by rw [hlocal]; exact hcov)
            (by rw [hforeign, hf])
        · -- selected as the wildcard LISTEN pcb: no pcb matches the segment, so none overlaps it
          intro j q _ hq _ hov
          have hov' : q.localEp.Overlaps a.localEp := by
            rw [← hlocal]
            exact hov.1.symm
          have hm : q.matchesExactly a.localEp a.foreign = true :=
            (q.matchesExactly_iff _ _).mpr ⟨hov'.covers ha, by rw [← hforeign]; exact hov.2.symm⟩
          rw [hnone q (List.mem_of_getElem? hq)] at hm
          cases hm

theorem TcpDemuxInv.step (ev : TcpEnv × TcpStackEvent) (hev : ev.2.FreshEndpoints pcbs) :
    TcpDemuxInv (tcpStackStep ev pcbs).1 := by
  refine ⟨tcpStackStep_forall _ (fun ev _ hp => TcpPcb.FreeZero.step ev hp) ev pcbs h.freeZero, ?_⟩
  obtain ⟨env, e⟩ := ev
  cases e with
  | openCall localEp foreign active => exact h.disjoint_open env localEp foreign active hev
  | openWake id recorded => exact h.disjoint_stepAt env _ rfl id
  | openInterrupted id => exact h.disjoint_stepAt env _ rfl id
  | close id => exact h.disjoint_stepGet env _ rfl id
  | send id mtu rest => exact h.disjoint_stepGet env _ rfl id
  | receive id size => exact h.disjoint_stepGet env _ rfl id
  | arrive a => exact h.disjoint_arrives env a hev
  | timer =>
      -- the timer acts on every pcb and keeps every endpoint
      show TcpDemuxDisjoint ((pcbs.map (tcpTimerPcb env)).map Prod.fst)
      rw [List.map_map]
      exact h.disjoint.map fun p hp hc =>
        ⟨hc.of_sameEndpoints (h.freeZero p hp) (tcpTimerPcb_sameEndpoints env p),
          tcpTimerPcb_sameEndpoints env p⟩

end Step

end ProtocolStack
