import Mathlib
import ProtocolStack.Udp.Pcb

/-!
# Bindings of the UDP table

{lit}`udp_bind` refuses an endpoint that {lit}`udp_pcb_select` finds in use,
so a binding it makes overlaps no other OPEN pcb.  The port search of
{lit}`udp_sendto` asks {lit}`udp_pcb_select` about the address it sends
from, which for a pcb bound to ANY is the unicast address of an interface,
while the pcb keeps ANY: a pcb bound to another interface's address with the
port found is not seen, and the two bindings overlap.  Every other step keeps
the OPEN bindings with a port pairwise disjoint, and then an address other
than ANY selects at most one pcb.
-/

namespace ProtocolStack

open ByteOrder

theorem UdpPcb.localMatches_iff (pcb : UdpPcb) (addr : IpAddr) (port : UInt16) :
    pcb.localMatches addr port = true ↔ pcb.localEp.Overlaps ⟨addr, port⟩ := by
  simp [UdpPcb.localMatches, IpEndpoint.Overlaps, or_assoc]

/-- No two OPEN pcbs hold overlapping bindings with a port. -/
def UdpBindingsDisjoint (pcbs : List UdpPcb) : Prop :=
  ∀ (i j : Nat) (p q : UdpPcb), i ≠ j → pcbs[i]? = some p → pcbs[j]? = some q → p.state = .open →
    q.state = .open → p.localEp.port ≠ 0 → ¬p.localEp.Overlaps q.localEp

structure UdpBindingsInv (pcbs : List UdpPcb) : Prop where
  freeUnbound : ∀ (j : Nat) (p : UdpPcb), pcbs[j]? = some p → p.state = .free → p.localEp.port = 0
  disjoint : UdpBindingsDisjoint pcbs

theorem udpBindingsInv_init : UdpBindingsInv udpPcbsInit := by
  -- every pcb of the initial table is the zero pcb
  have hzero : ∀ (j : Nat) (p : UdpPcb), udpPcbsInit[j]? = some p → p = UdpPcb.zero :=
    fun _ _ hp => List.eq_of_mem_replicate (List.mem_of_getElem? hp)
  constructor
  · intro j p hp _
    rw [hzero j p hp]
    rfl
  · intro i j p q _ hp _ hpo
    rw [hzero i p hp] at hpo
    cases hpo

/-! ## What the table functions return -/

theorem udpPcbSelect_eq_none_iff (pcbs : List UdpPcb) (addr : IpAddr) (port : UInt16) :
    udpPcbSelect pcbs addr port = none ↔
      ∀ p ∈ pcbs, p.state = .open → ¬p.localEp.Overlaps ⟨addr, port⟩ := by
  rw [udpPcbSelect, List.findIdx?_eq_none_iff]
  refine forall₂_congr fun p _ => ?_
  rw [← UdpPcb.localMatches_iff]
  cases p.state <;> simp

theorem udpPcbGet_eq_some {pcbs : List UdpPcb} {id : Int} {pcb : UdpPcb}
    (h : udpPcbGet pcbs id = some pcb) : pcbs[id.toNat]? = some pcb ∧ pcb.state = .open := by
  unfold udpPcbGet at h
  split_ifs at h
  split at h
  · cases h
  · rename_i p hp
    split_ifs at h with hst
    cases h
    exact ⟨hp, hst⟩

theorem udpPcbAlloc_eq_some {pcbs : List UdpPcb} {i : Nat} (h : udpPcbAlloc pcbs = some i) :
    ∃ p, pcbs[i]? = some p ∧ p.state = .free := by
  obtain ⟨hi, hfree, -⟩ := List.findIdx?_eq_some_iff_getElem.mp h
  exact ⟨pcbs[i], List.getElem?_eq_getElem hi, by simpa using hfree⟩

theorem udpSourcePort_select {e : Endian} {pcbs : List UdpPcb} {addr : IpAddr} {port : UInt16}
    (h : udpSourcePort e pcbs addr = some port) : udpPcbSelect pcbs addr port = none := by
  obtain ⟨p, hfind, rfl⟩ := Option.map_eq_some_iff.mp h
  simpa using List.find?_some hfind

/-- The port search of {lit}`udp_sendto` finds a port: a table of sixteen pcbs holds fewer ports than the 16384 it tries. -/
theorem udpSourcePort_isSome (e : Endian) {pcbs : List UdpPcb} (hsize : pcbs.length ≤ UDP_PCB_SIZE)
    (addr : IpAddr) : (udpSourcePort e pcbs addr).isSome := by
  rw [udpSourcePort, Option.isSome_map, List.find?_isSome]
  by_contra hnone
  -- every port tried is the port of some pcb of the table
  have hsub : (List.range' UDP_SOURCE_PORT_MIN (UDP_SOURCE_PORT_MAX + 1 - UDP_SOURCE_PORT_MIN)).map
      (fun p => hton16 e (UInt16.ofNat p)) ⊆ pcbs.map (·.localEp.port) := by
    intro port hport
    obtain ⟨p, hp, rfl⟩ := List.mem_map.mp hport
    cases hi : udpPcbSelect pcbs addr (hton16 e (UInt16.ofNat p)) with
    | none => exact absurd ⟨p, hp, by simp [hi]⟩ hnone
    | some i =>
      obtain ⟨hlt, hmatch, -⟩ := List.findIdx?_eq_some_iff_getElem.mp hi
      simp only [Bool.and_eq_true, beq_iff_eq, UdpPcb.localMatches_iff] at hmatch
      exact List.mem_map.mpr ⟨pcbs[i], List.getElem_mem hlt, hmatch.2.2⟩
  -- and the ports tried are distinct, since each is below 2^16
  have hnodup : ((List.range' UDP_SOURCE_PORT_MIN (UDP_SOURCE_PORT_MAX + 1 - UDP_SOURCE_PORT_MIN)).map
      (fun p => hton16 e (UInt16.ofNat p))).Nodup := by
    refine List.Nodup.map_on (fun p hp q hq hpq => ?_) List.nodup_range'
    have h16 := congrArg (fun x => (ntoh16 e x).toNat) hpq
    simp only [ntoh16_hton16, UInt16.toNat_ofNat'] at h16
    simp only [List.mem_range'_1, UDP_SOURCE_PORT_MIN, UDP_SOURCE_PORT_MAX] at hp hq
    omega
  have hle := (hnodup.subperm hsub).length_le
  simp only [List.length_map, List.length_range', UDP_SOURCE_PORT_MIN, UDP_SOURCE_PORT_MAX,
    UDP_PCB_SIZE] at hle hsize
  omega

theorem UdpPcb.recvfromPass_binding (pcb : UdpPcb) :
    pcb.recvfromPass.1.state = pcb.state ∧ pcb.recvfromPass.1.localEp = pcb.localEp := by
  unfold UdpPcb.recvfromPass
  split
  exact ⟨rfl, rfl⟩

/-! ## One pcb changed -/

section Update

variable {pcbs pcbs' : List UdpPcb} {i : Nat}

/-- The invariant after a step that changes at most the pcb at {lit}`i`. -/
theorem UdpBindingsInv.update (h : UdpBindingsInv pcbs)
    (hother : ∀ j, j ≠ i → pcbs'[j]? = pcbs[j]?)
    (hnew : ∀ p' : UdpPcb, pcbs'[i]? = some p' →
      (p'.state = .free → p'.localEp.port = 0) ∧
      (p'.state = .open → p'.localEp.port ≠ 0 → ∀ (j : Nat) (q : UdpPcb), j ≠ i → pcbs[j]? = some q →
        q.state = .open → ¬p'.localEp.Overlaps q.localEp)) :
    UdpBindingsInv pcbs' := by
  constructor
  · intro j p hp hfree
    by_cases hj : j = i
    · subst hj
      exact (hnew p hp).1 hfree
    · rw [hother j hj] at hp
      exact h.freeUnbound j p hp hfree
  · intro a b p q hab hp hq hpo hqo hport
    by_cases ha : a = i
    · subst ha
      rw [hother b (Ne.symm hab)] at hq
      exact (hnew p hp).2 hpo hport b q (Ne.symm hab) hq hqo
    · rw [hother a ha] at hp
      by_cases hb : b = i
      · -- the changed pcb is the second: overlap is symmetric and shares the port
        subst hb
        intro hov
        have hport' : q.localEp.port ≠ 0 := hov.2 ▸ hport
        exact (hnew q hq).2 hqo hport' a p ha hp hpo hov.symm
      · rw [hother b hb] at hq
        exact h.disjoint a b p q hab hp hq hpo hqo hport

end Update

theorem getElem?_set_of_ne {α : Type} (l : List α) (a : α) {i j : Nat} (h : j ≠ i) :
    (l.set i a)[j]? = l[j]? := by
  rw [List.getElem?_set, if_neg (Ne.symm h)]

theorem getElem?_modify_of_ne {α : Type} (l : List α) (f : α → α) {i j : Nat} (h : j ≠ i) :
    (l.modify i f)[j]? = l[j]? := by
  simp [Ne.symm h]

theorem getElem?_set_self_eq {α : Type} {l : List α} {a a' : α} {i : Nat}
    (h : (l.set i a)[i]? = some a') : a' = a := by
  rw [List.getElem?_set_self'] at h
  obtain ⟨_, -, rfl⟩ := Option.map_eq_some_iff.mp h
  rfl

theorem getElem?_modify_self_eq {α : Type} {l : List α} {f : α → α} {a' : α} {i : Nat}
    (h : (l.modify i f)[i]? = some a') : ∃ a, l[i]? = some a ∧ a' = f a := by
  simp only [List.getElem?_modify, if_true, Option.map_eq_map, Option.map_eq_some_iff] at h
  obtain ⟨a, ha, rfl⟩ := h
  exact ⟨a, ha, rfl⟩

/-! ## What a step changes -/

/-- A {lit}`udp_sendto` that searches a port for an OPEN pcb bound to ANY. -/
def UdpEvent.AssignsWildcardPort (pcbs : List UdpPcb) : UdpEvent → Prop
  | .sendto id _ _ =>
      ∃ pcb, udpPcbGet pcbs id = some pcb ∧ pcb.localEp.addr = IP_ADDR_ANY ∧ pcb.localEp.port = 0
  | _ => False

instance (pcbs : List UdpPcb) : ∀ ev : UdpEvent, Decidable (ev.AssignsWildcardPort pcbs)
  | .sendto id _ _ =>
      decidable_of_iff (∃ pcb ∈ (udpPcbGet pcbs id).toList,
          pcb.localEp.addr = IP_ADDR_ANY ∧ pcb.localEp.port = 0)
        (by simp [UdpEvent.AssignsWildcardPort])
  | .openCall | .close _ | .bind _ _ | .recvfrom _ _ | .recvfromWake _ _ | .input _ _ _ _ => isFalse id

/--
The ways a step leaves the pcb at the index it acts on: its state and
binding kept, released, allocated, or opened on a binding that
{lit}`udp_pcb_select` found free at {lit}`addr`, the address of the binding
unless a port was searched for a pcb bound to ANY.
-/
inductive UdpPcbChange (pcbs : List UdpPcb) (ev : UdpEvent) (i : Nat) (p' : UdpPcb) : Prop
  | keep (p : UdpPcb) : pcbs[i]? = some p → p'.state = p.state → p'.localEp = p.localEp →
      UdpPcbChange pcbs ev i p'
  | release : p'.state = .free → p'.localEp.port = 0 → UdpPcbChange pcbs ev i p'
  | alloc (p : UdpPcb) : pcbs[i]? = some p → p.state = .free → p'.state = .open →
      p'.localEp = p.localEp → UdpPcbChange pcbs ev i p'
  | bind (addr : IpAddr) : p'.state = .open → udpPcbSelect pcbs addr p'.localEp.port = none →
      addr = p'.localEp.addr ∨ ev.AssignsWildcardPort pcbs → UdpPcbChange pcbs ev i p'

/-- {lit}`pcbs'` differs from {lit}`pcbs` at one index at most, in one of the ways of {lit}`UdpPcbChange`. -/
def UdpStepChanges (pcbs : List UdpPcb) (ev : UdpEvent) (pcbs' : List UdpPcb) : Prop :=
  ∃ i, (∀ j, j ≠ i → pcbs'[j]? = pcbs[j]?) ∧ ∀ p', pcbs'[i]? = some p' → UdpPcbChange pcbs ev i p'

section Steps

variable {pcbs : List UdpPcb} {ev : UdpEvent} {i : Nat}

theorem UdpStepChanges.refl : UdpStepChanges pcbs ev pcbs :=
  ⟨0, fun _ _ => rfl, fun p' hp' => .keep p' hp' rfl rfl⟩

theorem UdpStepChanges.set {p' : UdpPcb} (h : UdpPcbChange pcbs ev i p') :
    UdpStepChanges pcbs ev (pcbs.set i p') := by
  refine ⟨i, fun j hj => getElem?_set_of_ne _ _ hj, fun q hq => ?_⟩
  rw [getElem?_set_self_eq hq]
  exact h

theorem UdpStepChanges.modify {f : UdpPcb → UdpPcb}
    (h : ∀ p, pcbs[i]? = some p → UdpPcbChange pcbs ev i (f p)) :
    UdpStepChanges pcbs ev (pcbs.modify i f) := by
  refine ⟨i, fun j hj => getElem?_modify_of_ne _ _ hj, fun q hq => ?_⟩
  obtain ⟨p, hp, rfl⟩ := getElem?_modify_self_eq hq
  exact h p hp

theorem udpOpen_changes (pcbs : List UdpPcb) : UdpStepChanges pcbs .openCall (udpOpen pcbs).1 := by
  unfold udpOpen
  split
  · exact .refl
  · rename_i i halloc
    obtain ⟨p, hp, hfree⟩ := udpPcbAlloc_eq_some halloc
    refine UdpStepChanges.modify fun a ha => ?_
    rw [hp] at ha
    cases ha
    exact .alloc p hp hfree rfl rfl

theorem udpClose_changes (pcbs : List UdpPcb) (id : Int) :
    UdpStepChanges pcbs (.close id) (udpClose pcbs id).1 := by
  unfold udpClose
  split
  · exact .refl
  · exact .set (.release rfl rfl)

theorem udpBind_changes (pcbs : List UdpPcb) (id : Int) (localEp : IpEndpoint) :
    UdpStepChanges pcbs (.bind id localEp) (udpBind pcbs id localEp).1 := by
  unfold udpBind
  split
  · exact .refl
  · rename_i pcb hget
    split
    · exact .refl
    · rename_i hsel
      exact .set (.bind localEp.addr (udpPcbGet_eq_some hget).2 hsel (.inl rfl))

theorem udpSendtoLocal_changes (e : Endian) (routes : List IpRoute) (pcbs : List UdpPcb) (id : Int)
    (data : List UInt8) (foreign : IpEndpoint) :
    UdpStepChanges pcbs (.sendto id data foreign) (udpSendtoLocal e routes pcbs id foreign).1 := by
  unfold udpSendtoLocal
  split
  · exact .refl
  · rename_i pcb hget
    dsimp only
    split
    · exact .refl
    · rename_i addr haddr
      split_ifs with hport
      · split
        · exact .refl
        · rename_i port hsrc
          -- the search asked about the pcb's own address, or the pcb is bound to ANY
          have hwhich : addr = pcb.localEp.addr ∨
              (UdpEvent.sendto id data foreign).AssignsWildcardPort pcbs := by
            by_cases hany : pcb.localEp.addr = IP_ADDR_ANY
            · exact .inr ⟨pcb, hget, hany, hport⟩
            · rw [if_neg hany] at haddr
              cases haddr
              exact .inl rfl
          exact .set (.bind addr (udpPcbGet_eq_some hget).2 (udpSourcePort_select hsrc) hwhich)
      · exact .refl

theorem udpRecvfrom_changes (pcbs : List UdpPcb) (id : Int) (size : Nat) :
    UdpStepChanges pcbs (.recvfrom id size) (udpRecvfrom pcbs id size).1 := by
  unfold udpRecvfrom
  split
  · exact .refl
  · rename_i pcb hget
    obtain ⟨hst, hlocal⟩ := pcb.recvfromPass_binding
    exact .set (.keep pcb (udpPcbGet_eq_some hget).1 hst hlocal)

theorem udpRecvfromWake_changes (pcbs : List UdpPcb) (id size : Nat) :
    UdpStepChanges pcbs (.recvfromWake id size) (udpRecvfromWake pcbs id size).1 := by
  unfold udpRecvfromWake
  split
  · exact .refl
  · rename_i pcb hp
    split_ifs
    · exact .set (.release rfl rfl)
    · obtain ⟨hst, hlocal⟩ := pcb.recvfromPass_binding
      exact .set (.keep pcb hp hst hlocal)

theorem udpInput_changes (e : Endian) (pcbs : List UdpPcb) (data : List UInt8) (len : Nat)
    (src dst : IpAddr) : UdpStepChanges pcbs (.input data len src dst) (udpInput e pcbs data len src dst) := by
  unfold udpInput
  split
  · exact .refl
  · split
    · exact .refl
    · exact .modify fun p hp => .keep p hp rfl rfl

theorem udpStep_changes (e : Endian) (routes : List IpRoute) (ev : UdpEvent) (pcbs : List UdpPcb) :
    UdpStepChanges pcbs ev (udpStep e routes ev pcbs).1 := by
  cases ev with
  | openCall => exact udpOpen_changes pcbs
  | close id => exact udpClose_changes pcbs id
  | bind id localEp => exact udpBind_changes pcbs id localEp
  | sendto id data foreign =>
      rw [udpStep_sendto_fst]
      exact udpSendtoLocal_changes e routes pcbs id data foreign
  | recvfrom id size => exact udpRecvfrom_changes pcbs id size
  | recvfromWake id size => exact udpRecvfromWake_changes pcbs id size
  | input data len src dst => exact udpInput_changes e pcbs data len src dst

/-- Every step but a dynamic port assignment on a pcb bound to ANY keeps the bindings disjoint. -/
theorem UdpBindingsInv.step (h : UdpBindingsInv pcbs) (e : Endian) (routes : List IpRoute)
    (ev : UdpEvent) (hwild : ¬ev.AssignsWildcardPort pcbs) :
    UdpBindingsInv (udpStep e routes ev pcbs).1 := by
  obtain ⟨i, hother, hnew⟩ := udpStep_changes e routes ev pcbs
  refine h.update hother fun p' hp' => ?_
  cases hnew p' hp' with
  | keep p hp hst hlocal =>
      rw [hst, hlocal]
      exact ⟨h.freeUnbound i p hp, fun hpo hport j q hji hq hqo =>
        h.disjoint i j p q (Ne.symm hji) hp hq hpo hqo hport⟩
  | release hst hport =>
      refine ⟨fun _ => hport, fun hpo => ?_⟩
      rw [hst] at hpo
      cases hpo
  | alloc p hp hfree hst hlocal =>
      -- the pcb alloc hands out is FREE, hence unbound
      have hport := h.freeUnbound i p hp hfree
      refine ⟨fun hst' => ?_, fun _ hport' => absurd (hlocal ▸ hport) hport'⟩
      rw [hst] at hst'
      cases hst'
  | bind addr hst hsel hwhich =>
      rcases hwhich with rfl | hw
      · -- no OPEN pcb overlaps the binding udp_pcb_select was asked about
        have hfree := (udpPcbSelect_eq_none_iff pcbs _ _).mp hsel
        refine ⟨fun hst' => ?_, fun _ _ j q _ hq hqo hov => ?_⟩
        · rw [hst] at hst'
          cases hst'
        · exact hfree q (List.mem_of_getElem? hq) hqo hov.symm
      · exact absurd hw hwild

end Steps

/-- Over every run without a dynamic port assignment on a pcb bound to ANY, the bindings stay disjoint. -/
theorem udpRun_bindingsInv (e : Endian) (routes : List IpRoute) (evs : List UdpEvent)
    (hadm : Run.Admissible (udpStep e routes) (fun pcbs ev => ¬ev.AssignsWildcardPort pcbs)
      udpPcbsInit evs) :
    UdpBindingsInv (udpRun e routes evs).1 := by
  have h := Run.invariant_of_admissible_step (udpStep e routes)
    (fun pcbs ev => ¬ev.AssignsWildcardPort pcbs) (fun pcbs _ => UdpBindingsInv pcbs)
    (fun _ ev _ hs hev => UdpBindingsInv.step hs e routes ev hev) udpPcbsInit [] evs udpBindingsInv_init hadm
  exact h

/-! ## What disjoint bindings give udp_input -/

section Select

variable {pcbs : List UdpPcb} {addr : IpAddr} {port : UInt16}

/-- Under disjoint bindings at most one OPEN pcb accepts an address other than ANY on a port. -/
theorem UdpBindingsDisjoint.accepts_unique (h : UdpBindingsDisjoint pcbs)
    (haddr : addr ≠ IP_ADDR_ANY) (hport : port ≠ 0) {i j : Nat} {p q : UdpPcb}
    (hp : pcbs[i]? = some p) (hq : pcbs[j]? = some q) (hpo : p.state = .open)
    (hqo : q.state = .open) (hpm : p.localEp.Overlaps ⟨addr, port⟩)
    (hqm : q.localEp.Overlaps ⟨addr, port⟩) : i = j := by
  by_contra hij
  apply h i j p q hij hp hq hpo hqo (hpm.2 ▸ hport)
  -- both addresses are ANY or the address asked about
  refine ⟨?_, hpm.2.trans hqm.2.symm⟩
  rcases hpm.1 with hpa | hpa | hpa
  · exact .inl hpa
  · exact absurd hpa haddr
  · rcases hqm.1 with hqa | hqa | hqa
    · exact .inr (.inl hqa)
    · exact absurd hqa haddr
    · exact .inr (.inr (hpa.trans hqa.symm))

/--
Under disjoint bindings {lit}`udp_pcb_select` picks, for an address other
than ANY, the one OPEN pcb that accepts it, wherever it stands in the table.
-/
theorem UdpBindingsDisjoint.select_eq_some_iff (h : UdpBindingsDisjoint pcbs)
    (haddr : addr ≠ IP_ADDR_ANY) (hport : port ≠ 0) (i : Nat) :
    udpPcbSelect pcbs addr port = some i ↔
      ∃ p, pcbs[i]? = some p ∧ p.state = .open ∧ p.localEp.Overlaps ⟨addr, port⟩ := by
  constructor
  · intro hsel
    obtain ⟨hi, hmatch, -⟩ := List.findIdx?_eq_some_iff_getElem.mp hsel
    simp only [Bool.and_eq_true, beq_iff_eq, UdpPcb.localMatches_iff] at hmatch
    exact ⟨pcbs[i], List.getElem?_eq_getElem hi, hmatch⟩
  · rintro ⟨p, hp, hpo, hpm⟩
    -- the first accepting pcb is the only one
    cases hsel : udpPcbSelect pcbs addr port with
    | none =>
        exact absurd hpm ((udpPcbSelect_eq_none_iff pcbs addr port).mp hsel p
          (List.mem_of_getElem? hp) hpo)
    | some j =>
        obtain ⟨hj, hmatch, -⟩ := List.findIdx?_eq_some_iff_getElem.mp hsel
        simp only [Bool.and_eq_true, beq_iff_eq, UdpPcb.localMatches_iff] at hmatch
        rw [h.accepts_unique haddr hport (List.getElem?_eq_getElem hj) hp hmatch.1 hpo hmatch.2 hpm]

end Select

/--
Over every run in which no send assigns a port to a pcb bound to ANY, the
OPEN bindings with a port stay pairwise disjoint, and {lit}`udp_pcb_select`
returns, for an address other than ANY and a port other than 0, exactly the
OPEN pcb whose binding accepts it.
-/
theorem udp_select_unique (e : Endian) (routes : List IpRoute) (evs : List UdpEvent)
    (hadm : Run.Admissible (udpStep e routes) (fun pcbs ev => ¬ev.AssignsWildcardPort pcbs)
      udpPcbsInit evs)
    (addr : IpAddr) (port : UInt16) (haddr : addr ≠ IP_ADDR_ANY) (hport : port ≠ 0) (i : Nat) :
    UdpBindingsDisjoint (udpRun e routes evs).1 ∧
      (udpPcbSelect (udpRun e routes evs).1 addr port = some i ↔
        ∃ p, (udpRun e routes evs).1[i]? = some p ∧ p.state = UdpPcbState.open ∧
          p.localEp.Overlaps ⟨addr, port⟩) := by
  have hinv := udpRun_bindingsInv e routes evs hadm
  exact ⟨hinv.disjoint, hinv.disjoint.select_eq_some_iff haddr hport i⟩

/-- Two pcbs opened, one bound to 10.0.0.1:7 and one to port 8 on ANY, and a send from the first. -/
def udpRunBound : List UdpEvent :=
  [.openCall, .openCall, .bind 0 ⟨0x0a000001, 7⟩, .bind 1 ⟨IP_ADDR_ANY, 8⟩,
    .sendto 0 [0x41] ⟨0x0a000002, 9⟩]

theorem udp_select_unique_bound :
    Run.Admissible (udpStep .big []) (fun pcbs ev => ¬ev.AssignsWildcardPort pcbs) udpPcbsInit
        udpRunBound ∧
      udpPcbSelect (udpRun .big [] udpRunBound).1 0x0a000001 7 = some 0 := by
  have hadm : Run.Admissible (udpStep .big []) (fun pcbs ev => ¬ev.AssignsWildcardPort pcbs)
      udpPcbsInit udpRunBound := by
    decide
  have hp : (udpRun .big [] udpRunBound).1[0]? =
      some ⟨UdpPcbState.open, ⟨0x0a000001, 7⟩, QueueHead.zero⟩ := by
    decide
  exact ⟨hadm, ((udp_select_unique .big [] udpRunBound hadm 0x0a000001 7 (by decide) (by decide)
    0).2.mpr ⟨_, hp, rfl, by decide⟩)⟩

theorem not_udpBindingsDisjoint {pcbs : List UdpPcb} {i j : Nat} {a b : IpEndpoint} (hij : i ≠ j)
    (hi : pcbs[i]?.map (fun p => (p.state, p.localEp)) = some (.open, a))
    (hj : pcbs[j]?.map (fun p => (p.state, p.localEp)) = some (.open, b))
    (hport : a.port ≠ 0) (hov : a.Overlaps b) : ¬UdpBindingsDisjoint pcbs := by
  intro h
  obtain ⟨p, hp, hpv⟩ := Option.map_eq_some_iff.mp hi
  obtain ⟨q, hq, hqv⟩ := Option.map_eq_some_iff.mp hj
  simp only [Prod.mk.injEq] at hpv hqv
  apply h i j p q hij hp hq hpv.1 hqv.1 (hpv.2 ▸ hport)
  rw [hpv.2, hqv.2]
  exact hov

/-! ## A port found for a pcb bound to ANY -/

/-- Two interfaces, 10.0.0.1/24 and 192.168.0.1/24, with a route to each network. -/
def udpRoutesTwoIfaces : List IpRoute :=
  [⟨0x0a000000, 0xffffff00, IP_ADDR_ANY, ⟨0x0a000001, 0xffffff00, 0x0a0000ff⟩⟩,
   ⟨0xc0a80000, 0xffffff00, IP_ADDR_ANY, ⟨0xc0a80001, 0xffffff00, 0xc0a800ff⟩⟩]

/-- Two pcbs opened; the first bound to 192.168.0.1:49152, the second sending to 10.0.0.2:7 unbound. -/
def udpRunWildcardSendto : List UdpEvent :=
  [.openCall, .openCall, .bind 0 ⟨0xc0a80001, 49152⟩, .sendto 1 [0x41] ⟨0x0a000002, 7⟩]

def udpPcbsWildcardSendto : List UdpPcb :=
  (udpRun .big udpRoutesTwoIfaces udpRunWildcardSendto).1

/-- The pcb {lit}`udp_pcb_select` returns. -/
def udpPcbSelected (pcbs : List UdpPcb) (addr : IpAddr) (port : UInt16) : Option UdpPcb :=
  (udpPcbSelect pcbs addr port).bind (pcbs[·]?)

/--
On a big-endian host the send searches port 49152 against 10.0.0.1, finds it
free and gives it to the second pcb, which stays bound to ANY: both OPEN pcbs
accept 192.168.0.1:49152, and which of them {lit}`udp_pcb_select` returns
depends on their order in the table.
-/
theorem udp_bindings_overlap :
    udpPcbsWildcardSendto[0]?.map (fun p => (p.state, p.localEp)) =
        some (.open, ⟨0xc0a80001, 49152⟩) ∧
      udpPcbsWildcardSendto[1]?.map (fun p => (p.state, p.localEp)) =
        some (.open, ⟨IP_ADDR_ANY, 49152⟩) ∧
      ¬UdpBindingsDisjoint udpPcbsWildcardSendto ∧
      (udpPcbSelected udpPcbsWildcardSendto 0xc0a80001 49152).map (·.localEp) =
        some ⟨0xc0a80001, 49152⟩ ∧
      (udpPcbSelected ((udpPcbsWildcardSendto.take 2).reverse ++ udpPcbsWildcardSendto.drop 2)
          0xc0a80001 49152).map (·.localEp) = some ⟨IP_ADDR_ANY, 49152⟩ := by
  have h0 : udpPcbsWildcardSendto[0]?.map (fun p => (p.state, p.localEp)) =
      some (UdpPcbState.open, ⟨0xc0a80001, 49152⟩) := by decide
  have h1 : udpPcbsWildcardSendto[1]?.map (fun p => (p.state, p.localEp)) =
      some (UdpPcbState.open, ⟨IP_ADDR_ANY, 49152⟩) := by decide
  refine ⟨h0, h1, ?_, by decide, by decide⟩
  exact not_udpBindingsDisjoint (by decide) h0 h1 (by decide) ⟨.inr (.inl rfl), rfl⟩

end ProtocolStack
