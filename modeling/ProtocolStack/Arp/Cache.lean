import Mathlib
import ProtocolStack.Arp.Message
import ProtocolStack.Library.Slots
import ProtocolStack.Library.Run

/-!
# The ARP cache

The table {lit}`caches[]` of arp.c and the functions on it, each under the
mutex: {lit}`arp_resolve`, the two critical sections of {lit}`arp_input`
(the update attempt, and the insert when the message is for the interface
and no entry was updated) and {lit}`arp_timer_handler`.

{lit}`arp_resolve` stores {lit}`ARP_RESOLVE_INCOMPLETE` into the state of
the entry it allocates; that constant is 0, the value of
{lit}`ARP_CACHE_STATE_FREE`.  Its entries are therefore never selected, and
only the insert of {lit}`arp_input` makes an entry that is not FREE.  The
insert follows a failed update in the same thread, and between the two
sections other threads only resolve, which frees entries or leaves them
alone: every interleaving keeps the protocol addresses of the entries that
are not FREE distinct.
-/

namespace ProtocolStack

open ByteOrder

def ARP_CACHE_SIZE : Nat := 32

def ARP_CACHE_TIMEOUT : Int := 30

def ARP_CACHE_STATE_FREE : UInt8 := 0

def ARP_CACHE_STATE_INCOMPLETE : UInt8 := 1

def ARP_CACHE_STATE_RESOLVED : UInt8 := 2

def ARP_CACHE_STATE_STATIC : UInt8 := 3

def ARP_RESOLVE_ERROR : Int := -1

def ARP_RESOLVE_INCOMPLETE : Int := 0

def ARP_RESOLVE_FOUND : Int := 1

structure Timeval where
  sec : Int
  usec : Int
  deriving DecidableEq, Repr

/-- {lit}`timercmp` of sys/time.h with the comparison {lit}`cmp`. -/
def timercmp (a b : Timeval) (cmp : Int → Int → Bool) : Bool :=
  if a.sec = b.sec then cmp a.usec b.usec else cmp a.sec b.sec

def timersub (a b : Timeval) : Timeval :=
  if a.usec - b.usec < 0 then ⟨a.sec - b.sec - 1, a.usec - b.usec + 1000000⟩
  else ⟨a.sec - b.sec, a.usec - b.usec⟩

/-- The value {lit}`timerclear` leaves. -/
def timerclear : Timeval :=
  ⟨0, 0⟩

structure ArpCache where
  state : UInt8
  pa : IpAddr
  ha : EtherAddr
  timestamp : Timeval
  deriving DecidableEq, Repr

/-- An entry of the zero-filled static table. -/
def ArpCache.zero : ArpCache :=
  ⟨ARP_CACHE_STATE_FREE, 0, ETHER_ADDR_ANY, timerclear⟩

def arpCachesInit : List ArpCache :=
  List.replicate ARP_CACHE_SIZE ArpCache.zero

def arpCacheDelete (cache : ArpCache) : ArpCache :=
  { cache with state := ARP_CACHE_STATE_FREE, pa := 0, ha := ETHER_ADDR_ANY, timestamp := timerclear }

/--
The loop of {lit}`arp_cache_alloc` over the entries from index {lit}`k` on,
with the oldest entry so far: the index it stops at, and whether that entry
is FREE (returned as it is) or the oldest (deleted first).
-/
def arpCacheAllocLoop : List ArpCache → Nat → Option (Nat × ArpCache) → Option (Nat × Bool)
  | [], _, oldest => oldest.map fun o => (o.1, false)
  | entry :: rest, k, oldest =>
      if entry.state = ARP_CACHE_STATE_FREE then some (k, true)
      else
        let oldest :=
          match oldest with
          | none => some (k, entry)
          | some (j, o) => if timercmp o.timestamp entry.timestamp (· > ·) then some (k, entry) else some (j, o)
        arpCacheAllocLoop rest (k + 1) oldest

/-- {lit}`arp_cache_alloc`: the index of the entry it hands out and the table, the oldest entry deleted where none is FREE. -/
def arpCacheAlloc (caches : List ArpCache) : Option Nat × List ArpCache :=
  match arpCacheAllocLoop caches 0 none with
  | none => (none, caches)
  | some (i, true) => (some i, caches)
  | some (i, false) => (some i, caches.modify i arpCacheDelete)

def arpCacheSelect (caches : List ArpCache) (pa : IpAddr) : Option Nat :=
  caches.findIdx? fun entry => entry.state != ARP_CACHE_STATE_FREE && entry.pa == pa

def arpCacheUpdate (caches : List ArpCache) (pa : IpAddr) (ha : EtherAddr) (now : Timeval) :
    Option Nat × List ArpCache :=
  match arpCacheSelect caches pa with
  | none => (none, caches)
  | some i =>
      (some i, caches.modify i fun cache =>
        { cache with state := ARP_CACHE_STATE_RESOLVED, ha := ha, timestamp := now })

def arpCacheInsert (caches : List ArpCache) (pa : IpAddr) (ha : EtherAddr) (now : Timeval) :
    Option Nat × List ArpCache :=
  match arpCacheAlloc caches with
  | (none, caches) => (none, caches)
  | (some i, caches) =>
      (some i, caches.modify i fun cache =>
        { cache with state := ARP_CACHE_STATE_RESOLVED, pa := pa, ha := ha, timestamp := now })

/-- What {lit}`arp_resolve` leaves: the table, its result, the address it copies out, and the frame of the request it sends. -/
structure ArpResolved where
  caches : List ArpCache
  ret : Int
  ha : Option EtherAddr
  request : Option (List UInt8)

def arpResolve (e : Endian) (dev : NetDevice) (iface : NetIface) (caches : List ArpCache)
    (pa : IpAddr) (now : Timeval) : ArpResolved :=
  if dev.type ≠ NET_DEVICE_TYPE_ETHERNET then ⟨caches, ARP_RESOLVE_ERROR, none, none⟩
  else if iface.family ≠ NET_IFACE_FAMILY_IP then ⟨caches, ARP_RESOLVE_ERROR, none, none⟩
  else
    match arpCacheSelect caches pa with
    | none =>
        let caches :=
          match arpCacheAlloc caches with
          | (none, caches) => caches
          | (some i, caches) =>
              caches.modify i fun cache =>
                { cache with state := UInt8.ofInt ARP_RESOLVE_INCOMPLETE, pa := pa, timestamp := now }
        ⟨caches, ARP_RESOLVE_INCOMPLETE, none, arpRequest e dev iface pa⟩
    | some i =>
        match caches[i]? with
        | none => ⟨caches, ARP_RESOLVE_ERROR, none, none⟩
        | some cache =>
            if cache.state = ARP_CACHE_STATE_INCOMPLETE then
              ⟨caches, ARP_RESOLVE_INCOMPLETE, none, arpRequest e dev iface pa⟩
            else ⟨caches, ARP_RESOLVE_FOUND, some cache.ha, none⟩

/-! ## arp_input and the timer -/

/-- The checks of {lit}`arp_input` on the {lit}`len` bytes at {lit}`data`: the message, or none where it returns. -/
def arpInputMessage (e : Endian) (data : List UInt8) (len : Nat) : Option ArpEtherIp :=
  if len < 28 then none
  else
    let msg := ArpEtherIp.read e data
    if ntoh16 e msg.hdr.hrd ≠ ARP_HRD_ETHER ∨ msg.hdr.hln.toNat ≠ ETHER_ADDR_LEN then none
    else if ntoh16 e msg.hdr.pro ≠ ARP_PRO_IP ∨ msg.hdr.pln.toNat ≠ IP_ADDR_LEN then none
    else some msg

/-- The IP interface of the device, where the message is for its address. -/
def arpInputTarget (dev : NetDevice) (msg : ArpEtherIp) : Option NetIface :=
  match netDeviceGetIface dev NET_IFACE_FAMILY_IP with
  | none => none
  | some iface => if iface.ip.unicast = msg.tpa then some iface else none

def arpInputReply (e : Endian) (dev : NetDevice) (iface : NetIface) (msg : ArpEtherIp) :
    Option (List UInt8) :=
  if ntoh16 e msg.hdr.op = ARP_OP_REQUEST then arpReply e dev iface msg.sha msg.spa msg.sha else none

/-- {lit}`arp_input` run through without interruption: the table and the reply it sends. -/
def arpInput (e : Endian) (caches : List ArpCache) (data : List UInt8) (len : Nat)
    (dev : NetDevice) (now : Timeval) : List ArpCache × Option (List UInt8) :=
  match arpInputMessage e data len with
  | none => (caches, none)
  | some msg =>
      match arpCacheUpdate caches msg.spa msg.sha now with
      | (updated, caches) =>
          match arpInputTarget dev msg with
          | none => (caches, none)
          | some iface =>
              ((if updated.isSome then caches else (arpCacheInsert caches msg.spa msg.sha now).2),
                arpInputReply e dev iface msg)

def arpTimerHandler (caches : List ArpCache) (now : Timeval) : List ArpCache :=
  caches.map fun entry =>
    if entry.state ≠ ARP_CACHE_STATE_FREE ∧ entry.state ≠ ARP_CACHE_STATE_STATIC then
      if (timersub now entry.timestamp).sec > ARP_CACHE_TIMEOUT then arpCacheDelete entry else entry
    else entry

/-! ## The interleaved sections -/

/-- Where the interrupt thread is: between the two sections of {lit}`arp_input` it holds what it is to insert and answer. -/
inductive ArpIntr
  | idle
  | inserting (dev : NetDevice) (iface : NetIface) (msg : ArpEtherIp)
  deriving DecidableEq, Repr

structure ArpSystem where
  caches : List ArpCache
  intr : ArpIntr
  deriving DecidableEq, Repr

/--
The mutex-protected sections: {lit}`input` is the first section of
{lit}`arp_input`, {lit}`insert` its second, both run by the interrupt thread
as is the timer; any thread may resolve.
-/
inductive ArpEvent
  | input (data : List UInt8) (len : Nat) (dev : NetDevice) (now : Timeval)
  | insert (now : Timeval)
  | timer (now : Timeval)
  | resolve (dev : NetDevice) (iface : NetIface) (pa : IpAddr) (now : Timeval)

inductive ArpObs
  | none
  | reply (frame : Option (List UInt8))
  | resolve (ret : Int) (ha : Option EtherAddr) (request : Option (List UInt8))

/-- One section; the interrupt thread's sections wait for it to be where they run. -/
def arpStep (e : Endian) : ArpEvent → ArpSystem → ArpSystem × ArpObs
  | .input data len dev now, ⟨caches, .idle⟩ =>
      match arpInputMessage e data len with
      | none => (⟨caches, .idle⟩, .none)
      | some msg =>
          match arpCacheUpdate caches msg.spa msg.sha now with
          | (updated, caches) =>
              match arpInputTarget dev msg with
              | none => (⟨caches, .idle⟩, .none)
              | some iface =>
                  if updated.isSome then (⟨caches, .idle⟩, .reply (arpInputReply e dev iface msg))
                  else (⟨caches, .inserting dev iface msg⟩, .none)
  | .insert now, ⟨caches, .inserting dev iface msg⟩ =>
      (⟨(arpCacheInsert caches msg.spa msg.sha now).2, .idle⟩, .reply (arpInputReply e dev iface msg))
  | .timer now, ⟨caches, .idle⟩ => (⟨arpTimerHandler caches now, .idle⟩, .none)
  | .resolve dev iface pa now, ⟨caches, intr⟩ =>
      match arpResolve e dev iface caches pa now with
      | r => (⟨r.caches, intr⟩, .resolve r.ret r.ha r.request)
  | _, s => (s, .none)

def arpRun (e : Endian) (evs : List ArpEvent) : ArpSystem × List ArpObs :=
  Run.run (arpStep e) ⟨arpCachesInit, .idle⟩ evs

/-! ## What each section does to the table -/

def arpCacheLive (cache : ArpCache) : Bool :=
  cache.state != ARP_CACHE_STATE_FREE

section Sections

variable {caches : List ArpCache}

theorem arpCacheSelect_find? (caches : List ArpCache) (pa : IpAddr) :
    (arpCacheSelect caches pa).bind (caches[·]?) = caches.find? fun a => arpCacheLive a && a.pa == pa :=
  List.find?_eq_bind_findIdx?_getElem?.symm

theorem arpCacheSelect_eq_none {pa : IpAddr} (h : arpCacheSelect caches pa = none) :
    pa ∉ Slots.keys arpCacheLive ArpCache.pa caches := by
  apply Slots.not_mem_keys_of_find?_eq_none
  rw [← arpCacheSelect_find?, h]
  rfl

theorem arpCacheSelect_eq_none_of_not_mem {pa : IpAddr}
    (h : pa ∉ Slots.keys arpCacheLive ArpCache.pa caches) : arpCacheSelect caches pa = none := by
  rw [arpCacheSelect, List.findIdx?_eq_none_iff]
  intro c hc
  rw [Bool.eq_false_iff]
  intro hp
  simp only [Bool.and_eq_true, beq_iff_eq] at hp
  exact h (List.mem_map.mpr ⟨c, List.mem_filter.mpr ⟨hc, hp.1⟩, hp.2⟩)

theorem arpCacheSelect_eq_some {pa : IpAddr} {i : Nat} (h : arpCacheSelect caches pa = some i) :
    ∃ c, caches[i]? = some c ∧ arpCacheLive c = true ∧ c.pa = pa := by
  obtain ⟨hi, hp, -⟩ := List.findIdx?_eq_some_iff_getElem.mp h
  refine ⟨caches[i], List.getElem?_eq_getElem hi, ?_⟩
  simpa [arpCacheLive] using hp

theorem arpCacheAllocLoop_spec :
    ∀ (l : List ArpCache) (k : Nat) (oldest : Option (Nat × ArpCache)) {i : Nat} {b : Bool},
      arpCacheAllocLoop l k oldest = some (i, b) →
        (k ≤ i ∧ i < k + l.length ∧
            (b = true → ∃ c, l[i - k]? = some c ∧ c.state = ARP_CACHE_STATE_FREE)) ∨
          (b = false ∧ oldest.map Prod.fst = some i)
  | [], k, oldest, i, b, h => by
      simp only [arpCacheAllocLoop, Option.map_eq_some_iff, Prod.mk.injEq] at h
      obtain ⟨o, ho, rfl, rfl⟩ := h
      exact .inr ⟨rfl, by simp [ho]⟩
  | entry :: rest, k, oldest, i, b, h => by
      unfold arpCacheAllocLoop at h
      split_ifs at h with hfree
      · cases h
        exact .inl ⟨le_refl k, by simp, fun _ => ⟨entry, by simp, hfree⟩⟩
      · -- past this entry: what the rest of the loop stops at, or the oldest entry so far
        rcases arpCacheAllocLoop_spec rest (k + 1) _ h with ⟨hk, hlt, hb⟩ | ⟨hb, ho⟩
        · refine .inl ⟨by omega, by simp; omega, fun hbt => ?_⟩
          obtain ⟨c, hc, hcf⟩ := hb hbt
          refine ⟨c, ?_, hcf⟩
          rw [show i - k = (i - (k + 1)) + 1 by omega]
          simpa using hc
        · have hthis : k ≤ k ∧ k < k + (entry :: rest).length ∧
              (b = true → ∃ c, (entry :: rest)[k - k]? = some c ∧ c.state = ARP_CACHE_STATE_FREE) :=
            ⟨le_refl k, by simp, fun hbt => absurd (hb.symm.trans hbt) (by decide)⟩
          cases oldest with
          | none =>
              cases ho
              exact .inl hthis
          | some jo =>
              dsimp only at ho
              split at ho
              · cases ho
                exact .inl hthis
              · exact .inr ⟨hb, ho⟩

/-- What {lit}`arp_cache_alloc` does: entries stay or are freed, and the one it hands out is FREE. -/
theorem arpCacheAlloc_spec (caches : List ArpCache) :
    List.Forall₂ (Slots.Shrinks arpCacheLive ArpCache.pa) caches (arpCacheAlloc caches).2 ∧
      ∀ i, (arpCacheAlloc caches).1 = some i →
        ∃ c, (arpCacheAlloc caches).2[i]? = some c ∧ arpCacheLive c = false := by
  unfold arpCacheAlloc
  split
  · exact ⟨Slots.forall₂_refl caches, fun _ h => by cases h⟩
  · rename_i i hloop
    refine ⟨Slots.forall₂_refl caches, fun j hj => ?_⟩
    cases hj
    rcases arpCacheAllocLoop_spec caches 0 none hloop with ⟨-, -, hb⟩ | ⟨hb, -⟩
    · obtain ⟨c, hc, hcf⟩ := hb rfl
      exact ⟨c, by simpa using hc, by simp [arpCacheLive, hcf]⟩
    · cases hb
  · rename_i i hloop
    refine ⟨Slots.forall₂_modify fun a _ => .inl rfl, fun j hj => ?_⟩
    cases hj
    rcases arpCacheAllocLoop_spec caches 0 none hloop with ⟨-, hlt, -⟩ | ⟨-, ho⟩
    · have hi : i < caches.length := by omega
      exact ⟨arpCacheDelete caches[i],
        by simp only [List.getElem?_modify_eq, List.getElem?_eq_getElem hi]; rfl, rfl⟩
    · cases ho

theorem arpCacheAlloc_keys (caches : List ArpCache) :
    (Slots.keys arpCacheLive ArpCache.pa (arpCacheAlloc caches).2).Sublist
      (Slots.keys arpCacheLive ArpCache.pa caches) :=
  Slots.keys_sublist_of_forall₂ (arpCacheAlloc_spec caches).1

theorem arpCacheUpdate_keys (caches : List ArpCache) (pa : IpAddr) (ha : EtherAddr) (now : Timeval) :
    (Slots.keys arpCacheLive ArpCache.pa (arpCacheUpdate caches pa ha now).2).Sublist
      (Slots.keys arpCacheLive ArpCache.pa caches) := by
  unfold arpCacheUpdate
  split
  · exact List.Sublist.refl _
  · rename_i i hsel
    obtain ⟨c, hc, hlive, -⟩ := arpCacheSelect_eq_some hsel
    refine Slots.keys_sublist_of_forall₂ (Slots.forall₂_modify fun a ha => .inr ⟨?_, rfl, rfl⟩)
    rw [hc] at ha
    cases ha
    exact hlive

theorem arpCacheUpdate_eq_none {pa : IpAddr} {ha : EtherAddr} {now : Timeval}
    (h : (arpCacheUpdate caches pa ha now).1 = none) :
    (arpCacheUpdate caches pa ha now).2 = caches ∧ pa ∉ Slots.keys arpCacheLive ArpCache.pa caches := by
  unfold arpCacheUpdate at h ⊢
  split at h
  · rename_i hsel
    exact ⟨rfl, arpCacheSelect_eq_none hsel⟩
  · cases h

/-- The insert adds the inserted address to the live ones, and frees others at most. -/
theorem arpCacheInsert_keys (caches : List ArpCache) (pa : IpAddr) (ha : EtherAddr) (now : Timeval) :
    (Slots.keys arpCacheLive ArpCache.pa (arpCacheInsert caches pa ha now).2).Subperm
      (pa :: Slots.keys arpCacheLive ArpCache.pa caches) := by
  have hsub := arpCacheAlloc_keys caches
  have hfree := (arpCacheAlloc_spec caches).2
  unfold arpCacheInsert
  split
  · rename_i caches' halloc
    rw [halloc] at hsub
    exact (hsub.trans (List.sublist_cons_self _ _)).subperm
  · rename_i i caches' halloc
    rw [halloc] at hsub hfree
    obtain ⟨c, hc, hdead⟩ := hfree i rfl
    rw [Slots.modify_eq_set_of_getElem? _ hc]
    exact (Slots.keys_set_perm rfl hc hdead).subperm.trans (hsub.cons_cons pa).subperm

/-- Resolving frees entries at most: the entry it allocates gets the state {lit}`ARP_RESOLVE_INCOMPLETE`, which is FREE. -/
theorem arpResolve_shrinks (e : Endian) (dev : NetDevice) (iface : NetIface) (caches : List ArpCache)
    (pa : IpAddr) (now : Timeval) :
    List.Forall₂ (Slots.Shrinks arpCacheLive ArpCache.pa) caches (arpResolve e dev iface caches pa now).caches := by
  have halloc := (arpCacheAlloc_spec caches).1
  unfold arpResolve
  split_ifs
  · exact Slots.forall₂_refl caches
  · exact Slots.forall₂_refl caches
  · split
    · dsimp only
      split
      · rename_i caches' hres
        rw [hres] at halloc
        exact halloc
      · rename_i i caches' hres
        rw [hres] at halloc
        exact Slots.forall₂_trans halloc (Slots.forall₂_modify fun a _ => .inl rfl)
    · split
      · exact Slots.forall₂_refl caches
      · split
        · exact Slots.forall₂_refl caches
        · exact Slots.forall₂_refl caches

theorem arpResolve_keys (e : Endian) (dev : NetDevice) (iface : NetIface) (caches : List ArpCache)
    (pa : IpAddr) (now : Timeval) :
    (Slots.keys arpCacheLive ArpCache.pa (arpResolve e dev iface caches pa now).caches).Sublist
      (Slots.keys arpCacheLive ArpCache.pa caches) :=
  Slots.keys_sublist_of_forall₂ (arpResolve_shrinks e dev iface caches pa now)

theorem arpTimerHandler_keys (caches : List ArpCache) (now : Timeval) :
    (Slots.keys arpCacheLive ArpCache.pa (arpTimerHandler caches now)).Sublist
      (Slots.keys arpCacheLive ArpCache.pa caches) := by
  refine Slots.keys_sublist_of_forall₂ (Slots.forall₂_map (fun a => ?_) caches)
  split_ifs
  · exact .inl rfl
  · exact Slots.Shrinks.refl a
  · exact Slots.Shrinks.refl a

end Sections

/-! ## One live entry per address over every interleaving -/

/-- No two live entries share an address, and a pending insert is for an address no live entry has. -/
structure ArpCacheInv (s : ArpSystem) : Prop where
  unique : (Slots.keys arpCacheLive ArpCache.pa s.caches).Nodup
  pending : ∀ dev iface msg, s.intr = .inserting dev iface msg →
    msg.spa ∉ Slots.keys arpCacheLive ArpCache.pa s.caches

theorem arpCacheInv_init : ArpCacheInv ⟨arpCachesInit, .idle⟩ := by
  have hnil : Slots.keys arpCacheLive ArpCache.pa arpCachesInit = [] := rfl
  constructor
  · rw [hnil]
    exact List.nodup_nil
  · intro dev iface msg h
    cases h

/-- A section that frees entries at most keeps the invariant. -/
theorem ArpCacheInv.of_sublist {s : ArpSystem} (h : ArpCacheInv s) {caches : List ArpCache}
    (hsub : (Slots.keys arpCacheLive ArpCache.pa caches).Sublist
      (Slots.keys arpCacheLive ArpCache.pa s.caches)) :
    ArpCacheInv ⟨caches, s.intr⟩ :=
  ⟨hsub.nodup h.unique, fun dev iface msg hi hmem => h.pending dev iface msg hi (hsub.subset hmem)⟩

theorem ArpCacheInv.input {caches : List ArpCache} (h : ArpCacheInv ⟨caches, .idle⟩) (e : Endian)
    (data : List UInt8) (len : Nat) (dev : NetDevice) (now : Timeval) :
    ArpCacheInv (arpStep e (.input data len dev now) ⟨caches, .idle⟩).1 := by
  simp only [arpStep]
  split
  · exact h
  · rename_i msg _
    have hsub := arpCacheUpdate_keys caches msg.spa msg.sha now
    split
    · exact h.of_sublist hsub
    · split
      · exact h.of_sublist hsub
      · -- the update found no live entry for the sender: its insert is pending
        rename_i hnot
        have hnone : (arpCacheUpdate caches msg.spa msg.sha now).1 = none := by
          simpa using hnot
        obtain ⟨hsame, hspa⟩ := arpCacheUpdate_eq_none hnone
        rw [hsame]
        exact ⟨h.unique, fun dev' iface' msg' hi => by cases hi; exact hspa⟩

theorem ArpCacheInv.step {s : ArpSystem} (h : ArpCacheInv s) (e : Endian) (ev : ArpEvent) :
    ArpCacheInv (arpStep e ev s).1 := by
  obtain ⟨caches, intr⟩ := s
  cases ev with
  | input data len dev now =>
      cases intr with
      | idle => exact h.input e data len dev now
      | inserting dev' iface' msg' => exact h
  | insert now =>
      cases intr with
      | idle => exact h
      | inserting dev iface msg =>
          have hfresh : (msg.spa :: Slots.keys arpCacheLive ArpCache.pa caches).Nodup :=
            List.nodup_cons.mpr ⟨h.pending dev iface msg rfl, h.unique⟩
          obtain ⟨l, hperm, hsub⟩ := arpCacheInsert_keys caches msg.spa msg.sha now
          exact ⟨hperm.nodup_iff.mp (hsub.nodup hfresh), fun _ _ _ hi => by cases hi⟩
  | timer now =>
      cases intr with
      | idle => exact h.of_sublist (arpTimerHandler_keys caches now)
      | inserting dev iface msg => exact h
  | resolve dev iface pa now => exact h.of_sublist (arpResolve_keys e dev iface caches pa now)

theorem arpRun_inv (e : Endian) (evs : List ArpEvent) : ArpCacheInv (arpRun e evs).1 :=
  Run.invariant_of_step (arpStep e) ArpCacheInv (fun _ ev h => h.step e ev) _ evs arpCacheInv_init

theorem arp_cache_unique (e : Endian) (evs : List ArpEvent) :
    (∀ (i j : Nat) (ci cj : ArpCache), i ≠ j → (arpRun e evs).1.caches[i]? = some ci →
        (arpRun e evs).1.caches[j]? = some cj → ci.state ≠ ARP_CACHE_STATE_FREE →
        cj.state ≠ ARP_CACHE_STATE_FREE → ci.pa ≠ cj.pa) ∧
      ∀ (caches : List ArpCache), caches.Perm (arpRun e evs).1.caches → ∀ pa : IpAddr,
        (arpCacheSelect caches pa).bind (caches[·]?) =
          (arpCacheSelect (arpRun e evs).1.caches pa).bind ((arpRun e evs).1.caches[·]?) := by
  have hinv := arpRun_inv e evs
  constructor
  · intro i j ci cj hij hi hj hfi hfj
    exact Slots.key_ne_of_nodup hinv.unique hij hi hj (by simpa [arpCacheLive] using hfi)
      (by simpa [arpCacheLive] using hfj)
  · intro caches hperm pa
    rw [arpCacheSelect_find? caches pa, arpCacheSelect_find? (arpRun e evs).1.caches pa]
    exact (Slots.find?_perm hperm.symm hinv.unique pa).symm

end ProtocolStack
