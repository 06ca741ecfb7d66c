import Mathlib
import ProtocolStack.Arp.Exchange

/-!
# Where the bindings of the ARP table come from

{lit}`arp_input` writes the sender's addresses of a message into the table,
through {lit}`arp_cache_update` or {lit}`arp_cache_insert`.  Every other
section leaves a live entry as it is or frees it: {lit}`arp_cache_alloc`
deletes the entry it takes, {lit}`arp_resolve` stores the state 0 into the
entry it allocates, and the timer deletes the entries that have expired.  So
in every interleaving of the sections each live entry holds a binding that
an input message announced, and {lit}`arp_resolve` answers FOUND with no
other.
-/

namespace ProtocolStack

open ByteOrder

/-- The binding an event announces: the sender's addresses of the ARP message an input parses. -/
def ArpEvent.announces (e : Endian) : ArpEvent → List (IpAddr × EtherAddr)
  | .input data len _ _ => ((arpInputMessage e data len).map fun msg => (msg.spa, msg.sha)).toList
  | _ => []

/-- Every live entry holds a binding of {lit}`bindings`, and so does the message of a pending insert. -/
structure ArpAnnounced (bindings : List (IpAddr × EtherAddr)) (s : ArpSystem) : Prop where
  caches : ∀ c ∈ s.caches, arpCacheLive c = true → (c.pa, c.ha) ∈ bindings
  inserting : ∀ dev iface msg, s.intr = .inserting dev iface msg → (msg.spa, msg.sha) ∈ bindings

/-! ## What each section writes -/

section Sections

variable {caches : List ArpCache}

theorem arpCacheLive_eq_false {c : ArpCache} (h : c.state = ARP_CACHE_STATE_FREE) :
    arpCacheLive c = false := by
  simp [arpCacheLive, h]

theorem arpCacheAlloc_live_mem :
    ∀ c ∈ (arpCacheAlloc caches).2, arpCacheLive c = true → c ∈ caches := by
  unfold arpCacheAlloc
  split
  · exact fun c hc _ => hc
  · exact fun c hc _ => hc
  · intro c hc hlive
    rcases Slots.mem_modify hc with hc | ⟨a, -, rfl⟩
    · exact hc
    · -- the oldest entry is deleted, and a deleted entry is FREE
      rw [arpCacheLive_eq_false rfl] at hlive
      cases hlive

theorem arpResolve_live_mem (e : Endian) (dev : NetDevice) (iface : NetIface) (pa : IpAddr)
    (now : Timeval) :
    ∀ c ∈ (arpResolve e dev iface caches pa now).caches, arpCacheLive c = true → c ∈ caches := by
  unfold arpResolve
  split_ifs
  · exact fun c hc _ => hc
  · exact fun c hc _ => hc
  · split
    · dsimp only
      split
      · rename_i caches' halloc
        intro c hc hlive
        exact arpCacheAlloc_live_mem c (by rw [halloc]; exact hc) hlive
      · rename_i i caches' halloc
        intro c hc hlive
        rcases Slots.mem_modify hc with hc | ⟨a, -, rfl⟩
        · exact arpCacheAlloc_live_mem c (by rw [halloc]; exact hc) hlive
        · -- the entry it allocates gets ARP_RESOLVE_INCOMPLETE, the value of FREE
          have hfree : UInt8.ofInt ARP_RESOLVE_INCOMPLETE = ARP_CACHE_STATE_FREE := by decide
          rw [arpCacheLive_eq_false hfree] at hlive
          cases hlive
    · split
      · exact fun c hc _ => hc
      · split
        · exact fun c hc _ => hc
        · exact fun c hc _ => hc

theorem arpTimerHandler_live_mem (now : Timeval) :
    ∀ c ∈ arpTimerHandler caches now, arpCacheLive c = true → c ∈ caches := by
  intro c hc hlive
  obtain ⟨a, ha, rfl⟩ := List.mem_map.mp hc
  split_ifs at hlive ⊢
  · rw [arpCacheLive_eq_false rfl] at hlive
    cases hlive
  · exact ha
  · exact ha

/-- {lit}`arp_cache_update` rewrites the live entry of {lit}`pa` with {lit}`ha`. -/
theorem arpCacheUpdate_mem (pa : IpAddr) (ha : EtherAddr) (now : Timeval) :
    ∀ c ∈ (arpCacheUpdate caches pa ha now).2, c ∈ caches ∨ (c.pa = pa ∧ c.ha = ha) := by
  unfold arpCacheUpdate
  split
  · exact fun c hc => .inl hc
  · rename_i i hsel
    obtain ⟨a, hsome, -, hpa⟩ := arpCacheSelect_eq_some hsel
    intro c hc
    rcases Slots.mem_modify hc with hc | ⟨b, hb, rfl⟩
    · exact .inl hc
    · rw [hsome, Option.some.injEq] at hb
      subst hb
      exact .inr ⟨hpa, rfl⟩

/-- {lit}`arp_cache_insert` fills the entry it allocates with {lit}`pa` and {lit}`ha`. -/
theorem arpCacheInsert_live_mem (pa : IpAddr) (ha : EtherAddr) (now : Timeval) :
    ∀ c ∈ (arpCacheInsert caches pa ha now).2, arpCacheLive c = true →
      c ∈ caches ∨ (c.pa = pa ∧ c.ha = ha) := by
  unfold arpCacheInsert
  split
  · rename_i caches' halloc
    intro c hc hlive
    exact .inl (arpCacheAlloc_live_mem c (by rw [halloc]; exact hc) hlive)
  · rename_i i caches' halloc
    intro c hc hlive
    rcases Slots.mem_modify hc with hc | ⟨b, -, rfl⟩
    · exact .inl (arpCacheAlloc_live_mem c (by rw [halloc]; exact hc) hlive)
    · exact .inr ⟨rfl, rfl⟩

/-- What {lit}`arp_resolve` copies out is the address of a live entry of {lit}`pa`. -/
theorem arpResolve_ha_eq_some {e : Endian} {dev : NetDevice} {iface : NetIface} {pa : IpAddr}
    {now : Timeval} {ha : EtherAddr} (h : (arpResolve e dev iface caches pa now).ha = some ha) :
    ∃ c ∈ caches, arpCacheLive c = true ∧ c.pa = pa ∧ c.ha = ha := by
  unfold arpResolve at h
  split_ifs at h
  split at h
  · cases h
  · rename_i i hsel
    split at h
    · cases h
    · rename_i cache hcache
      split_ifs at h
      cases h
      obtain ⟨c, hc, hlive, hpa⟩ := arpCacheSelect_eq_some hsel
      rw [hcache, Option.some.injEq] at hc
      subst hc
      exact ⟨cache, List.mem_of_getElem? hcache, hlive, hpa, rfl⟩

end Sections

/-! ## Every interleaving -/

theorem ArpAnnounced.mono {A B : List (IpAddr × EtherAddr)} {s : ArpSystem} (h : ArpAnnounced A s)
    (hsub : A ⊆ B) : ArpAnnounced B s :=
  ⟨fun c hc hlive => hsub (h.caches c hc hlive), fun dev iface msg hi => hsub (h.inserting dev iface msg hi)⟩

/-- A section that only keeps or frees entries keeps the bindings. -/
theorem ArpAnnounced.of_live_mem {A : List (IpAddr × EtherAddr)} {caches caches' : List ArpCache}
    {intr : ArpIntr} (h : ArpAnnounced A ⟨caches, intr⟩)
    (hmem : ∀ c ∈ caches', arpCacheLive c = true → c ∈ caches) : ArpAnnounced A ⟨caches', intr⟩ :=
  ⟨fun c hc hlive => h.caches c (hmem c hc hlive) hlive, h.inserting⟩

theorem arpAnnounced_init : ArpAnnounced [] ⟨arpCachesInit, .idle⟩ := by
  refine ⟨fun c hc hlive => ?_, fun _ _ _ h => by cases h⟩
  rw [arpCachesInit, List.mem_replicate] at hc
  rw [hc.2] at hlive
  cases hlive

theorem ArpAnnounced.step (e : Endian) {A : List (IpAddr × EtherAddr)} {s : ArpSystem}
    (h : ArpAnnounced A s) (ev : ArpEvent) : ArpAnnounced (A ++ ev.announces e) (arpStep e ev s).1 := by
  have hA : A ⊆ A ++ ev.announces e := List.subset_append_left _ _
  obtain ⟨caches, intr⟩ := s
  cases ev with
  | input data len dev now =>
      cases intr with
      | idle =>
          simp only [arpStep, ArpEvent.announces]
          cases hmsg : arpInputMessage e data len with
          | none => exact h.mono (List.subset_append_left _ _)
          | some msg =>
              -- the first section: the update writes the message's binding, and a pending insert holds it
              have hnew : (msg.spa, msg.sha) ∈ A ++ [(msg.spa, msg.sha)] := by simp
              have hupd : ∀ c ∈ (arpCacheUpdate caches msg.spa msg.sha now).2, arpCacheLive c = true →
                  (c.pa, c.ha) ∈ A ++ [(msg.spa, msg.sha)] := by
                intro c hc hlive
                rcases arpCacheUpdate_mem msg.spa msg.sha now c hc with hc | ⟨hpa, hha⟩
                · exact List.mem_append_left _ (h.caches c hc hlive)
                · rw [hpa, hha]
                  exact hnew
              simp only [Option.map_some, Option.toList_some]
              split
              · exact ⟨hupd, fun _ _ _ hi => by cases hi⟩
              · split
                · exact ⟨hupd, fun _ _ _ hi => by cases hi⟩
                · exact ⟨hupd, fun _ _ _ hi => by cases hi; exact hnew⟩
      | inserting => exact h.mono hA
  | insert now =>
      cases intr with
      | idle => exact h.mono hA
      | inserting dev iface msg =>
          -- the second section inserts the binding the first one held
          have hmsg := h.inserting dev iface msg rfl
          refine ⟨fun c hc hlive => ?_, fun _ _ _ hi => by cases hi⟩
          rcases arpCacheInsert_live_mem msg.spa msg.sha now c hc hlive with hc | ⟨hpa, hha⟩
          · exact hA (h.caches c hc hlive)
          · rw [hpa, hha]
            exact hA hmsg
  | timer now =>
      cases intr with
      | idle => exact (h.of_live_mem (arpTimerHandler_live_mem now)).mono hA
      | inserting => exact h.mono hA
  | resolve dev iface pa now =>
      exact (h.of_live_mem (arpResolve_live_mem e dev iface pa now)).mono hA

theorem ArpAnnounced.run (e : Endian) :
    ∀ (evs : List ArpEvent) {A : List (IpAddr × EtherAddr)} {s : ArpSystem}, ArpAnnounced A s →
      ArpAnnounced (A ++ evs.flatMap (ArpEvent.announces e)) (Run.run (arpStep e) s evs).1
  | [], _, _, h => by simpa using h
  | ev :: evs, _, _, h => by
      have ih := ArpAnnounced.run e evs (h.step e ev)
      rw [List.append_assoc] at ih
      simpa only [Run.run_cons, List.flatMap_cons] using ih

/--
In every interleaving of the sections of {lit}`arp_input`, the timer and
{lit}`arp_resolve` from the initial table, {lit}`arp_resolve` finds an
address for {lit}`pa` only if an ARP message from {lit}`pa` announcing that
address was input before.
-/
theorem arp_resolve_announced (e : Endian) (evs : List ArpEvent) (dev : NetDevice)
    (iface : NetIface) (pa : IpAddr) (now : Timeval) {ha : EtherAddr}
    (hfound : (arpResolve e dev iface (arpRun e evs).1.caches pa now).ha = some ha) :
    (pa, ha) ∈ evs.flatMap (ArpEvent.announces e) := by
  obtain ⟨c, hc, hlive, hpa, hha⟩ := arpResolve_ha_eq_some hfound
  have hinv := ArpAnnounced.run e evs arpAnnounced_init
  rw [List.nil_append] at hinv
  have hbinding := hinv.caches c hc hlive
  rwa [hpa, hha] at hbinding

/-- Host A takes in B's reply to its request at time 2, both sections of {lit}`arp_input`. -/
def arpRunReplyAtA : List ArpEvent :=
  [.input ((arpMessage .little arpHostB arpIfaceB ARP_OP_REPLY (etherAddrOf arpHostA.addr)
      arpIfaceA.ip.unicast).bytes .little) 28 arpHostA ⟨2, 0⟩,
   .insert ⟨2, 0⟩]

theorem arp_resolve_announced_reply :
    (arpResolve .little arpHostA arpIfaceA (arpRun .little arpRunReplyAtA).1.caches
        arpIfaceB.ip.unicast ⟨3, 0⟩).ha = some (etherAddrOf arpHostB.addr) ∧
      (arpIfaceB.ip.unicast, etherAddrOf arpHostB.addr) ∈
        arpRunReplyAtA.flatMap (ArpEvent.announces .little) := by
  have hfound : (arpResolve .little arpHostA arpIfaceA (arpRun .little arpRunReplyAtA).1.caches
      arpIfaceB.ip.unicast ⟨3, 0⟩).ha = some (etherAddrOf arpHostB.addr) := by
    decide
  exact ⟨hfound, arp_resolve_announced .little arpRunReplyAtA arpHostA arpIfaceA _ ⟨3, 0⟩ hfound⟩

end ProtocolStack
