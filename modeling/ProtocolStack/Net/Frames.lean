import Mathlib
import ProtocolStack.Library.Run
import ProtocolStack.Net.Loopback

/-!
# Every frame the loopback device accepts reaches its handler, once and in order

The pipeline with its queues as the lists they hold: the loopback queue, and
the frames in the input queue of each protocol.  On these lists a transmit
appends, the interrupt routine moves the whole loopback queue to the
protocols, and a softirq pass takes the first frame of the first protocol that
has one.  For each registered type, the frames its handler got, then those in
its queue, then those of its type in the loopback queue, are the frames the
transmits accepted, in order.  The linked lists of the driver and of net.c
hold these lists along every run, so the same holds of the code.
-/

namespace ProtocolStack

variable {H : Type}

/-! ## The pipeline over lists -/

structure ProtocolFrames (H : Type) where
  type : UInt16
  handler : H
  frames : List NetProtocolQueueEntry

structure LoopbackFrames (H : Type) where
  queue : List LoopbackQueueEntry
  protocols : List (ProtocolFrames H)

/-- The entry {lit}`net_input_handler` makes of a frame the loopback device received. -/
def loopbackFrame (dev : NetDevice) (entry : LoopbackQueueEntry) : NetProtocolQueueEntry :=
  { dev := dev, len := entry.len, data := entry.data.take entry.len }

def framesInput (dev : NetDevice) (entry : LoopbackQueueEntry) :
    List (ProtocolFrames H) → List (ProtocolFrames H)
  | [] => []
  | p :: ps =>
      if p.type = entry.type then { p with frames := p.frames ++ [loopbackFrame dev entry] } :: ps
      else p :: framesInput dev entry ps

def framesSoftirq :
    List (ProtocolFrames H) → List (ProtocolFrames H) × Option (UInt16 × H × NetProtocolQueueEntry)
  | [] => ([], none)
  | p :: ps =>
      match p.frames with
      | entry :: frames => ({ p with frames := frames } :: ps, some (p.type, p.handler, entry))
      | [] => (p :: (framesSoftirq ps).1, (framesSoftirq ps).2)

def loopbackFramesStep (dev : NetDevice) :
    LoopbackEvent → LoopbackFrames H → LoopbackFrames H × LoopbackObs H
  | .transmit type data len, s =>
      if LOOPBACK_QUEUE_LIMIT ≤ s.queue.length then
        (s, .transmitted { type := type, len := len, data := data.take len } (-1))
      else
        ({ s with queue := s.queue ++ [{ type := type, len := len, data := data.take len }] },
          .transmitted { type := type, len := len, data := data.take len } 0)
  | .isr, s =>
      ({ queue := [], protocols := s.queue.foldl (fun ps entry => framesInput dev entry ps) s.protocols },
        .drained)
  | .softirq, s =>
      match framesSoftirq s.protocols with
      | (protocols, some (type, handler, entry)) =>
          ({ s with protocols := protocols }, .handled type handler entry)
      | (protocols, none) => ({ s with protocols := protocols }, .idle)

def ProtocolFrames.reg (p : ProtocolFrames H) : UInt16 × H :=
  (p.type, p.handler)

/-- The frames in the queue of the protocol of type {lit}`t`. -/
def framesOf (t : UInt16) : List (ProtocolFrames H) → List NetProtocolQueueEntry
  | [] => []
  | p :: ps => if p.type = t then p.frames else framesOf t ps

def LoopbackObs.handledAt (t : UInt16) : LoopbackObs H → List NetProtocolQueueEntry
  | .handled type _ entry => if type = t then [entry] else []
  | _ => []

def LoopbackObs.acceptedAt (t : UInt16) : LoopbackObs H → List LoopbackQueueEntry
  | .transmitted entry ret => if ret = 0 ∧ entry.type = t then [entry] else []
  | _ => []

/-- The frames of type {lit}`t` passed to a handler, in order. -/
def loopbackHandled (t : UInt16) (os : List (LoopbackObs H)) : List NetProtocolQueueEntry :=
  os.flatMap (LoopbackObs.handledAt t)

/-- The frames of type {lit}`t` that {lit}`loopback_transmit` accepted, in order. -/
def loopbackAccepted (t : UInt16) (os : List (LoopbackObs H)) : List LoopbackQueueEntry :=
  os.flatMap (LoopbackObs.acceptedAt t)

@[simp] theorem loopbackHandled_append (t : UInt16) (os os' : List (LoopbackObs H)) :
    loopbackHandled t (os ++ os') = loopbackHandled t os ++ loopbackHandled t os' :=
  List.flatMap_append

@[simp] theorem loopbackAccepted_append (t : UInt16) (os os' : List (LoopbackObs H)) :
    loopbackAccepted t (os ++ os') = loopbackAccepted t os ++ loopbackAccepted t os' :=
  List.flatMap_append

@[simp] theorem loopbackHandled_singleton (t : UInt16) (o : LoopbackObs H) :
    loopbackHandled t [o] = o.handledAt t := by
  simp [loopbackHandled]

@[simp] theorem loopbackAccepted_singleton (t : UInt16) (o : LoopbackObs H) :
    loopbackAccepted t [o] = o.acceptedAt t := by
  simp [loopbackAccepted]

/-! ## What each step does to the queue of one type -/

section Frames

variable (dev : NetDevice)

theorem framesInput_reg (entry : LoopbackQueueEntry) (ps : List (ProtocolFrames H)) :
    (framesInput dev entry ps).map ProtocolFrames.reg = ps.map ProtocolFrames.reg := by
  induction ps with
  | nil => rfl
  | cons p ps ih =>
      unfold framesInput
      split
      · rfl
      · rw [List.map_cons, ih, List.map_cons]

theorem framesInput_foldl_reg (entries : List LoopbackQueueEntry) (ps : List (ProtocolFrames H)) :
    (entries.foldl (fun ps entry => framesInput dev entry ps) ps).map ProtocolFrames.reg =
      ps.map ProtocolFrames.reg := by
  induction entries generalizing ps with
  | nil => rfl
  | cons entry entries ih => rw [List.foldl_cons, ih, framesInput_reg]

theorem map_type_eq_of_map_reg {ps qs : List (ProtocolFrames H)}
    (h : ps.map ProtocolFrames.reg = qs.map ProtocolFrames.reg) :
    ps.map ProtocolFrames.type = qs.map ProtocolFrames.type := by
  have hfst := congrArg (List.map Prod.fst) h
  rw [List.map_map, List.map_map] at hfst
  exact hfst

theorem mem_type_of_mem_reg {t : UInt16} {h : H} {ps : List (ProtocolFrames H)}
    (hmem : (t, h) ∈ ps.map ProtocolFrames.reg) : t ∈ ps.map ProtocolFrames.type := by
  obtain ⟨p, hp, hreg⟩ := List.mem_map.mp hmem
  have htype : p.type = t := congrArg Prod.fst hreg
  exact htype ▸ List.mem_map_of_mem hp

/-- A frame of a registered type joins the end of that type's queue. -/
theorem framesOf_framesInput (entry : LoopbackQueueEntry) {t : UInt16} :
    ∀ {ps : List (ProtocolFrames H)}, t ∈ ps.map ProtocolFrames.type →
      framesOf t (framesInput dev entry ps) =
        framesOf t ps ++ if entry.type = t then [loopbackFrame dev entry] else []
  | [], ht => by simp at ht
  | p :: ps, ht => by
      unfold framesInput
      by_cases hp : p.type = entry.type
      · rw [if_pos hp]
        by_cases ht' : p.type = t
        · simp [framesOf, ht', ← hp]
        · simp [framesOf, ht', ← hp]
      · rw [if_neg hp]
        by_cases ht' : p.type = t
        · subst ht'
          simp [framesOf, Ne.symm hp]
        · have htail : t ∈ ps.map ProtocolFrames.type := by
            simpa [Ne.symm ht'] using ht
          simp only [framesOf, if_neg ht']
          exact framesOf_framesInput entry htail

theorem framesOf_foldl_framesInput {t : UInt16} (entries : List LoopbackQueueEntry) :
    ∀ {ps : List (ProtocolFrames H)}, t ∈ ps.map ProtocolFrames.type →
      framesOf t (entries.foldl (fun ps entry => framesInput dev entry ps) ps) =
        framesOf t ps ++ (entries.filter (·.type == t)).map (loopbackFrame dev) := by
  induction entries with
  | nil => intro ps _; simp
  | cons entry entries ih =>
      intro ps ht
      have ht' : t ∈ (framesInput dev entry ps).map ProtocolFrames.type := by
        rw [map_type_eq_of_map_reg (framesInput_reg dev entry ps)]
        exact ht
      rw [List.foldl_cons, ih ht', framesOf_framesInput dev entry ht]
      by_cases he : entry.type = t
      · simp [he]
      · simp [he]

end Frames

theorem framesSoftirq_reg (ps : List (ProtocolFrames H)) :
    (framesSoftirq ps).1.map ProtocolFrames.reg = ps.map ProtocolFrames.reg := by
  induction ps with
  | nil => rfl
  | cons p ps ih =>
      unfold framesSoftirq
      cases p.frames with
      | nil => rw [List.map_cons, ih, List.map_cons]
      | cons entry frames => rfl

theorem framesSoftirq_none {ps : List (ProtocolFrames H)} (h : (framesSoftirq ps).2 = none) :
    (framesSoftirq ps).1 = ps := by
  induction ps with
  | nil => rfl
  | cons p ps ih =>
      unfold framesSoftirq at h ⊢
      cases hf : p.frames with
      | nil =>
          rw [hf] at h
          rw [ih h]
      | cons entry frames =>
          rw [hf] at h
          cases h

/-- A softirq pass takes the first frame of the queue it names, and only that frame. -/
theorem framesSoftirq_some {ps : List (ProtocolFrames H)} (hnd : (ps.map ProtocolFrames.type).Nodup)
    {type : UInt16} {handler : H} {entry : NetProtocolQueueEntry}
    (h : (framesSoftirq ps).2 = some (type, handler, entry)) :
    (type, handler) ∈ ps.map ProtocolFrames.reg ∧
      ∀ t, framesOf t ps = (if type = t then [entry] else []) ++ framesOf t (framesSoftirq ps).1 := by
  induction ps with
  | nil => cases h
  | cons p ps ih =>
      have hnd' := List.nodup_cons.mp hnd
      unfold framesSoftirq at h ⊢
      cases hf : p.frames with
      | cons first frames =>
          rw [hf] at h
          cases h
          refine ⟨List.mem_cons_self, fun t => ?_⟩
          by_cases ht : p.type = t
          · simp [framesOf, ht, hf]
          · simp [framesOf, ht]
      | nil =>
          rw [hf] at h
          obtain ⟨hmem, hframes⟩ := ih hnd'.2 h
          refine ⟨List.mem_cons_of_mem _ hmem, fun t => ?_⟩
          by_cases ht : p.type = t
          · -- the frame came from another protocol, and types are unique
            have hty : type ≠ t := by
              rintro rfl
              apply hnd'.1
              rw [ht]
              exact mem_type_of_mem_reg hmem
            simp [framesOf, ht, hf, hty]
          · simp only [framesOf, if_neg ht]
            exact hframes t

theorem framesOf_of_mem {p : ProtocolFrames H} :
    ∀ {ps : List (ProtocolFrames H)}, (ps.map ProtocolFrames.type).Nodup → p ∈ ps →
      framesOf p.type ps = p.frames
  | [], _, hp => by simp at hp
  | q :: ps, hnd, hp => by
      have hnd' := List.nodup_cons.mp hnd
      rcases List.mem_cons.mp hp with rfl | hp'
      · simp [framesOf]
      · have hne : q.type ≠ p.type := fun h => hnd'.1 (h ▸ List.mem_map_of_mem hp')
        rw [framesOf, if_neg hne]
        exact framesOf_of_mem hnd'.2 hp'

theorem framesOf_eq_nil (t : UInt16) :
    ∀ {ps : List (ProtocolFrames H)}, (∀ p ∈ ps, p.frames = []) → framesOf t ps = []
  | [], _ => rfl
  | p :: ps, h => by
      unfold framesOf
      split
      · exact h p List.mem_cons_self
      · exact framesOf_eq_nil t fun q hq => h q (List.mem_cons_of_mem _ hq)

/-! ## The invariant -/

/--
The registered protocols keep their types and handlers, and every frame the
transmits accepted is, for its type, passed to the handler, in the protocol's
queue or in the loopback queue, in the order of the transmits.
-/
structure LoopbackFramesInv (dev : NetDevice) (regs : List (UInt16 × H)) (s : LoopbackFrames H)
    (os : List (LoopbackObs H)) : Prop where
  registered : s.protocols.map ProtocolFrames.reg = regs
  unique : (regs.map Prod.fst).Nodup
  bounded : s.queue.length ≤ LOOPBACK_QUEUE_LIMIT
  handlers : ∀ t h entry, LoopbackObs.handled t h entry ∈ os → (t, h) ∈ regs
  inOrder : ∀ t ∈ regs.map Prod.fst,
    loopbackHandled t os ++ framesOf t s.protocols ++
        (s.queue.filter (·.type == t)).map (loopbackFrame dev) =
      (loopbackAccepted t os).map (loopbackFrame dev)

section Invariant

variable {dev : NetDevice} {regs : List (UInt16 × H)} {s : LoopbackFrames H} {os : List (LoopbackObs H)}

theorem LoopbackFramesInv.types (hinv : LoopbackFramesInv dev regs s os) :
    s.protocols.map ProtocolFrames.type = regs.map Prod.fst := by
  have hfst := congrArg (List.map Prod.fst) hinv.registered
  rw [List.map_map] at hfst
  exact hfst

theorem LoopbackObs.handledAt_eq_nil {o : LoopbackObs H} (hnot : ∀ t h entry, o ≠ .handled t h entry)
    (t : UInt16) : o.handledAt t = [] := by
  cases o with
  | transmitted entry ret => rfl
  | drained => rfl
  | handled type handler entry => exact absurd rfl (hnot type handler entry)
  | idle => rfl

theorem LoopbackFramesInv.handlers_snoc (hinv : LoopbackFramesInv dev regs s os) {o : LoopbackObs H}
    (hnot : ∀ t h entry, o ≠ .handled t h entry) :
    ∀ t h entry, LoopbackObs.handled t h entry ∈ os ++ [o] → (t, h) ∈ regs := by
  intro t h entry hmem
  rcases List.mem_append.mp hmem with hmem | hmem
  · exact hinv.handlers t h entry hmem
  · exact absurd (List.mem_singleton.mp hmem).symm (hnot t h entry)

/-- An observation that neither hands a frame to a handler nor accepts one keeps the invariant of an unchanged state. -/
theorem LoopbackFramesInv.snoc_silent (hinv : LoopbackFramesInv dev regs s os) {o : LoopbackObs H}
    (hnot : ∀ t h entry, o ≠ .handled t h entry) (hacc : ∀ t, o.acceptedAt t = []) :
    LoopbackFramesInv dev regs s (os ++ [o]) := by
  refine ⟨hinv.registered, hinv.unique, hinv.bounded, hinv.handlers_snoc hnot, fun t ht => ?_⟩
  rw [loopbackHandled_append, loopbackAccepted_append, loopbackHandled_singleton,
    loopbackAccepted_singleton, LoopbackObs.handledAt_eq_nil hnot, hacc, List.append_nil, List.append_nil]
  exact hinv.inOrder t ht

theorem LoopbackFramesInv.transmit (hinv : LoopbackFramesInv dev regs s os) (type : UInt16)
    (data : List UInt8) (len : Nat) :
    LoopbackFramesInv dev regs (loopbackFramesStep dev (.transmit type data len) s).1
      (os ++ [(loopbackFramesStep dev (.transmit type data len) s).2]) := by
  simp only [loopbackFramesStep]
  split_ifs with hfull
  · -- rejected: the state is unchanged, and a return of -1 accepts nothing
    exact hinv.snoc_silent (fun _ _ _ => nofun) (fun t => by simp [LoopbackObs.acceptedAt])
  · refine ⟨hinv.registered, hinv.unique, ?_, hinv.handlers_snoc (fun _ _ _ => nofun), fun t ht => ?_⟩
    · simp only [List.length_append, List.length_singleton]
      omega
    · have hord := hinv.inOrder t ht
      by_cases htype : type = t
      · simp [LoopbackObs.handledAt, LoopbackObs.acceptedAt, htype, ← hord]
      · simpa [LoopbackObs.handledAt, LoopbackObs.acceptedAt, htype] using hord

theorem LoopbackFramesInv.isr (hinv : LoopbackFramesInv dev regs s os) :
    LoopbackFramesInv dev regs (loopbackFramesStep dev .isr s).1
      (os ++ [(loopbackFramesStep dev .isr s).2]) := by
  refine ⟨?_, hinv.unique, Nat.zero_le _, hinv.handlers_snoc (fun _ _ _ => nofun), fun t ht => ?_⟩
  · rw [loopbackFramesStep, framesInput_foldl_reg, hinv.registered]
  · -- the loopback queue moves, in order, to the ends of the protocols' queues
    have ht' : t ∈ s.protocols.map ProtocolFrames.type := by rw [hinv.types]; exact ht
    simp only [loopbackFramesStep, loopbackHandled_append, loopbackAccepted_append,
      loopbackHandled_singleton, loopbackAccepted_singleton, LoopbackObs.handledAt,
      LoopbackObs.acceptedAt, List.append_nil, framesOf_foldl_framesInput dev s.queue ht',
      List.filter_nil, List.map_nil]
    rw [← List.append_assoc]
    exact hinv.inOrder t ht

theorem LoopbackFramesInv.softirq (hinv : LoopbackFramesInv dev regs s os) :
    LoopbackFramesInv dev regs (loopbackFramesStep dev .softirq s).1
      (os ++ [(loopbackFramesStep dev .softirq s).2]) := by
  have hnd : (s.protocols.map ProtocolFrames.type).Nodup := by rw [hinv.types]; exact hinv.unique
  simp only [loopbackFramesStep]
  cases hpass : framesSoftirq s.protocols with
  | mk protocols r =>
      have hreg := framesSoftirq_reg s.protocols
      rw [hpass] at hreg
      cases r with
      | none =>
          have hsame := framesSoftirq_none (show (framesSoftirq s.protocols).2 = none by rw [hpass])
          rw [hpass] at hsame
          dsimp only at hsame ⊢
          subst hsame
          exact hinv.snoc_silent (fun _ _ _ => nofun) (fun _ => rfl)
      | some r =>
          obtain ⟨type, handler, entry⟩ := r
          obtain ⟨hmem, hframes⟩ := framesSoftirq_some hnd (by rw [hpass])
          rw [hpass] at hframes
          dsimp only at hframes ⊢
          refine ⟨hreg.trans hinv.registered, hinv.unique, hinv.bounded, fun t h e he => ?_,
            fun t ht => ?_⟩
          · simp only [List.mem_append, List.mem_singleton, LoopbackObs.handled.injEq] at he
            rcases he with he | ⟨rfl, rfl, -⟩
            · exact hinv.handlers t h e he
            · rw [← hinv.registered]
              exact hmem
          · -- the handler's frame leaves the front of its queue
            have hord := hinv.inOrder t ht
            rw [hframes t] at hord
            simpa [LoopbackObs.handledAt, LoopbackObs.acceptedAt] using hord

theorem LoopbackFramesInv.step (hinv : LoopbackFramesInv dev regs s os) (ev : LoopbackEvent) :
    LoopbackFramesInv dev regs (loopbackFramesStep dev ev s).1 (os ++ [(loopbackFramesStep dev ev s).2]) := by
  cases ev with
  | transmit type data len => exact hinv.transmit type data len
  | isr => exact hinv.isr
  | softirq => exact hinv.softirq

end Invariant

theorem loopbackFramesInv_run {dev : NetDevice} {regs : List (UInt16 × H)} {s : LoopbackFrames H}
    {os : List (LoopbackObs H)} (hinv : LoopbackFramesInv dev regs s os) (evs : List LoopbackEvent) :
    LoopbackFramesInv dev regs (Run.run (loopbackFramesStep dev) s evs).1
      (os ++ (Run.run (loopbackFramesStep dev) s evs).2) :=
  Run.invariant_of_admissible_step (loopbackFramesStep dev) (fun _ _ => True)
    (LoopbackFramesInv dev regs) (fun _ ev _ hinv _ => hinv.step ev) s os evs hinv
    (Run.admissible_of_forall _ _ (fun _ _ => trivial) s evs)

/-! ## The linked lists hold the lists -/

structure NetProtocol.Holds (proto : NetProtocol H) (p : ProtocolFrames H) : Prop where
  type : proto.type = p.type
  handler : proto.handler = p.handler
  queue : proto.queue.Holds p.frames

structure LoopbackSystem.Holds (s : LoopbackSystem H) (a : LoopbackFrames H) : Prop where
  queue : s.queue.Holds a.queue
  protocols : List.Forall₂ NetProtocol.Holds s.protocols a.protocols

theorem NetProtocol.holds_reg {ps : List (NetProtocol H)} {as : List (ProtocolFrames H)}
    (h : List.Forall₂ NetProtocol.Holds ps as) :
    ps.map (fun p => (p.type, p.handler)) = as.map ProtocolFrames.reg := by
  induction h with
  | nil => rfl
  | cons hpa _ ih => rw [List.map_cons, List.map_cons, ih, hpa.type, hpa.handler]; rfl

theorem NetProtocol.exists_holds_of_mem {ps : List (NetProtocol H)} {as : List (ProtocolFrames H)}
    (h : List.Forall₂ NetProtocol.Holds ps as) {proto : NetProtocol H} (hmem : proto ∈ ps) :
    ∃ p ∈ as, NetProtocol.Holds proto p := by
  induction h with
  | nil => cases hmem
  | @cons proto' p ps as hpa _ ih =>
      rcases List.mem_cons.mp hmem with rfl | hmem'
      · exact ⟨p, List.mem_cons_self, hpa⟩
      · obtain ⟨q, hq, hholds⟩ := ih hmem'
        exact ⟨q, List.mem_cons_of_mem _ hq, hholds⟩

theorem netInputHandler_holds (dev : NetDevice) (entry : LoopbackQueueEntry) {ps : List (NetProtocol H)}
    {as : List (ProtocolFrames H)} (h : List.Forall₂ NetProtocol.Holds ps as) :
    List.Forall₂ NetProtocol.Holds (netInputHandler ps entry.type entry.data entry.len dev)
      (framesInput dev entry as) := by
  induction h with
  | nil => exact List.Forall₂.nil
  | @cons proto p ps as hpa hrest ih =>
      rw [netInputHandler_cons]
      unfold framesInput
      by_cases htype : p.type = entry.type
      · rw [if_pos (hpa.type.trans htype), if_pos htype]
        exact .cons ⟨hpa.type, hpa.handler, hpa.queue.push _⟩ hrest
      · rw [if_neg (fun h => htype (hpa.type.symm.trans h)), if_neg htype]
        exact .cons hpa ih

/-- The interrupt routine hands every queued frame, in order, to {lit}`net_input_handler`. -/
theorem loopbackIsrLoop_holds (dev : NetDevice) (entries : List LoopbackQueueEntry) :
    ∀ (fuel : Nat) (queue : QueueHead LoopbackQueueEntry) (ps : List (NetProtocol H))
      (as : List (ProtocolFrames H)), queue.Holds entries → entries.length < fuel →
      List.Forall₂ NetProtocol.Holds ps as →
      (loopbackIsrLoop dev fuel queue ps).1.Holds [] ∧
        List.Forall₂ NetProtocol.Holds (loopbackIsrLoop dev fuel queue ps).2
          (entries.foldl (fun as entry => framesInput dev entry as) as) := by
  induction entries with
  | nil =>
      intro fuel queue ps as hq hfuel hps
      cases fuel with
      | zero => exact absurd hfuel (Nat.lt_irrefl 0)
      | succ fuel =>
          obtain ⟨hpop, hrest⟩ := hq.pop
          rw [loopbackIsrLoop]
          cases hp : queuePop queue with
          | mk queue' r =>
              rw [hp] at hpop hrest
              dsimp only at hpop hrest
              subst hpop
              exact ⟨hrest, hps⟩
  | cons entry entries ih =>
      intro fuel queue ps as hq hfuel hps
      cases fuel with
      | zero => exact absurd hfuel (Nat.not_lt_zero _)
      | succ fuel =>
          obtain ⟨hpop, hrest⟩ := hq.pop
          rw [loopbackIsrLoop]
          cases hp : queuePop queue with
          | mk queue' r =>
              rw [hp] at hpop hrest
              dsimp only at hpop hrest
              subst hpop
              exact ih fuel queue' _ _ hrest (by simpa using hfuel) (netInputHandler_holds dev entry hps)

/-- A softirq pass calls the handler of the first queue that holds a frame, with its first frame. -/
theorem netSoftirqStep_holds {ps : List (NetProtocol H)} {as : List (ProtocolFrames H)}
    (h : List.Forall₂ NetProtocol.Holds ps as) :
    (netSoftirqStep ps).2.map (fun r => (r.1.type, r.1.handler, r.2)) = (framesSoftirq as).2 ∧
      List.Forall₂ NetProtocol.Holds (netSoftirqStep ps).1 (framesSoftirq as).1 := by
  induction h with
  | nil => exact ⟨rfl, .nil⟩
  | @cons proto p ps as hpa hrest ih =>
      obtain ⟨hpop, hqueue⟩ := hpa.queue.pop
      cases hp : queuePop proto.queue with
      | mk queue r =>
          rw [hp] at hpop hqueue
          dsimp only at hpop hqueue
          cases hf : p.frames with
          | nil =>
              rw [hf, List.head?_nil] at hpop
              subst hpop
              simp only [netSoftirqStep, framesSoftirq, hp, hf]
              exact ⟨ih.1, .cons hpa ih.2⟩
          | cons entry frames =>
              rw [hf, List.head?_cons] at hpop
              rw [hf, List.tail_cons] at hqueue
              subst hpop
              simp only [netSoftirqStep, framesSoftirq, hp, hf, Option.map_some]
              exact ⟨by rw [hpa.type, hpa.handler], .cons ⟨hpa.type, hpa.handler, hqueue⟩ hrest⟩

theorem loopbackStep_refines (dev : NetDevice) {s : LoopbackSystem H} {a : LoopbackFrames H}
    (h : s.Holds a) (ev : LoopbackEvent) :
    (loopbackStep dev ev s).2 = (loopbackFramesStep dev ev a).2 ∧
      (loopbackStep dev ev s).1.Holds (loopbackFramesStep dev ev a).1 := by
  cases ev with
  | transmit type data len =>
      have hnum := h.queue.num_eq
      by_cases hfull : LOOPBACK_QUEUE_LIMIT ≤ a.queue.length
      · -- both reject, and keep their queues
        have hstep : loopbackStep dev (.transmit type data len) s =
            (s, .transmitted { type := type, len := len, data := data.take len } (-1)) := by
          simp only [loopbackStep, loopbackTransmit, ge_iff_le, hnum, if_pos hfull]
        rw [hstep, loopbackFramesStep, if_pos hfull]
        exact ⟨rfl, h⟩
      · have hstep : loopbackStep dev (.transmit type data len) s =
            ({ s with queue := queuePush s.queue { type := type, len := len, data := data.take len } },
              .transmitted { type := type, len := len, data := data.take len } 0) := by
          simp only [loopbackStep, loopbackTransmit, ge_iff_le, hnum, if_neg hfull]
        rw [hstep, loopbackFramesStep, if_neg hfull]
        exact ⟨rfl, h.queue.push _, h.protocols⟩
  | isr =>
      have hnum := h.queue.num_eq
      obtain ⟨hq, hps⟩ := loopbackIsrLoop_holds dev a.queue (s.queue.num + 1) s.queue s.protocols
        a.protocols h.queue (by omega) h.protocols
      cases hloop : loopbackIsr dev s.queue s.protocols with
      | mk queue protocols =>
          have hstep : loopbackStep dev .isr s = (⟨queue, protocols⟩, .drained) := by
            simp only [loopbackStep, hloop]
          rw [loopbackIsr] at hloop
          rw [hloop] at hq hps
          rw [hstep, loopbackFramesStep]
          exact ⟨rfl, hq, hps⟩
  | softirq =>
      obtain ⟨hobs, hps⟩ := netSoftirqStep_holds h.protocols
      simp only [loopbackStep, loopbackFramesStep]
      cases hc : netSoftirqStep s.protocols with
      | mk ps r =>
          cases ha : framesSoftirq a.protocols with
          | mk as r' =>
              rw [hc, ha] at hobs hps
              dsimp only at hobs hps
              cases r with
              | none =>
                  subst hobs
                  exact ⟨rfl, h.queue, hps⟩
              | some r =>
                  obtain ⟨proto, entry⟩ := r
                  subst hobs
                  exact ⟨rfl, h.queue, hps⟩

/-! ## The pipeline of the code -/

theorem loopback_pipeline_in_order (dev : NetDevice) {queue : QueueHead LoopbackQueueEntry}
    (hqueue : queue.Holds []) {protocols : List (NetProtocol H)}
    (hunique : (protocols.map (·.type)).Nodup) (hempty : ∀ p ∈ protocols, p.queue.Holds [])
    (evs : List LoopbackEvent) :
    let run := Run.run (loopbackStep dev) ⟨queue, protocols⟩ evs
    run.1.protocols.map (fun p => (p.type, p.handler)) = protocols.map (fun p => (p.type, p.handler)) ∧
      (∀ t h entry, LoopbackObs.handled t h entry ∈ run.2 →
        (t, h) ∈ protocols.map (fun p => (p.type, p.handler))) ∧
      ∃ frames, run.1.queue.Holds frames ∧
        (∀ p ∈ run.1.protocols, ∃ queued, p.queue.Holds queued ∧
          loopbackHandled p.type run.2 ++ queued ++
              (frames.filter (·.type == p.type)).map (loopbackFrame dev) =
            (loopbackAccepted p.type run.2).map (loopbackFrame dev)) ∧
        ∀ type data len,
          ((loopbackStep dev (.transmit type data len) run.1).2 =
              .transmitted { type := type, len := len, data := data.take len } (-1) ∧
            (loopbackStep dev (.transmit type data len) run.1).1 = run.1) ↔
          frames.length = LOOPBACK_QUEUE_LIMIT := by
  intro run
  -- the lists the queues hold at the start: all empty
  let start : LoopbackFrames H :=
    ⟨[], protocols.map fun p => { type := p.type, handler := p.handler, frames := [] }⟩
  have hstart : LoopbackSystem.Holds ⟨queue, protocols⟩ start :=
    ⟨hqueue, List.forall₂_map_right_iff.mpr (List.forall₂_same.mpr fun p hp => ⟨rfl, rfl, hempty p hp⟩)⟩
  have hinv0 : LoopbackFramesInv dev (protocols.map fun p => (p.type, p.handler)) start [] := by
    refine ⟨?_, ?_, Nat.zero_le _, fun t h entry hmem => by simp at hmem, fun t _ => ?_⟩
    · simp only [start, List.map_map]
      rfl
    · rw [List.map_map]
      exact hunique
    · rw [framesOf_eq_nil t (by simp [start])]
      rfl
  obtain ⟨hobs, hholds⟩ := Run.run_simulation (loopbackStep dev) (loopbackFramesStep dev)
    LoopbackSystem.Holds (fun _ _ ev h => loopbackStep_refines dev h ev) _ start evs hstart
  have hinv := loopbackFramesInv_run hinv0 evs
  rw [List.nil_append, ← hobs] at hinv
  have hreg := NetProtocol.holds_reg hholds.protocols
  refine ⟨hreg.trans hinv.registered, hinv.handlers, _, hholds.queue, fun p hp => ?_,
    loopbackStep_transmit_rejected dev hholds.queue hinv.bounded⟩
  -- a protocol of the code, and the list its queue holds
  obtain ⟨q, hq, hpq⟩ := NetProtocol.exists_holds_of_mem hholds.protocols hp
  have hnd : ((Run.run (loopbackFramesStep dev) start evs).1.protocols.map ProtocolFrames.type).Nodup := by
    rw [hinv.types]
    exact hinv.unique
  have htype : p.type ∈ (protocols.map fun p => (p.type, p.handler)).map Prod.fst := by
    rw [← hinv.types, hpq.type]
    exact List.mem_map_of_mem hq
  refine ⟨q.frames, hpq.queue, ?_⟩
  have hord := hinv.inOrder p.type htype
  rw [hpq.type, framesOf_of_mem hnd hq] at hord
  rw [hpq.type]
  exact hord

/-- The loopback device as {lit}`loopback_init` sets it up and {lit}`net_device_open` brings it up. -/
def loopbackDevice : NetDevice :=
  ⟨0, NET_DEVICE_TYPE_LOOPBACK, 0xffff, NET_DEVICE_FLAG_UP, Vector.replicate NET_DEVICE_ADDR_LEN 0,
    Vector.replicate NET_DEVICE_ADDR_LEN 0, []⟩

/-- ARP and IP registered, with handlers named by numbers. -/
def loopbackProtocols : List (NetProtocol Nat) :=
  [⟨NET_PROTOCOL_TYPE_ARP, QueueHead.zero, 1⟩, ⟨NET_PROTOCOL_TYPE_IP, QueueHead.zero, 0⟩]

/-- Two frames in, a softirq pass with nothing queued, the interrupt, one handler call, and a third frame. -/
def loopbackEvents : List LoopbackEvent :=
  [.transmit NET_PROTOCOL_TYPE_IP [0x45, 0, 0, 20] 4, .transmit NET_PROTOCOL_TYPE_ARP [1, 2] 2, .softirq,
    .isr, .softirq, .transmit NET_PROTOCOL_TYPE_IP [7, 8, 9] 2]

theorem loopback_pipeline_in_order_two :
    (QueueHead.zero : QueueHead LoopbackQueueEntry).Holds [] ∧
      (loopbackProtocols.map (·.type)).Nodup ∧ (∀ p ∈ loopbackProtocols, p.queue.Holds []) ∧
      let run := Run.run (loopbackStep loopbackDevice) ⟨QueueHead.zero, loopbackProtocols⟩ loopbackEvents
      run.1.protocols.map (fun p => (p.type, p.handler)) =
          loopbackProtocols.map (fun p => (p.type, p.handler)) ∧
        (∀ t h entry, LoopbackObs.handled t h entry ∈ run.2 →
          (t, h) ∈ loopbackProtocols.map (fun p => (p.type, p.handler))) ∧
        ∃ frames, run.1.queue.Holds frames ∧
          (∀ p ∈ run.1.protocols, ∃ queued, p.queue.Holds queued ∧
            loopbackHandled p.type run.2 ++ queued ++
                (frames.filter (·.type == p.type)).map (loopbackFrame loopbackDevice) =
              (loopbackAccepted p.type run.2).map (loopbackFrame loopbackDevice)) ∧
          ∀ type data len,
            ((loopbackStep loopbackDevice (.transmit type data len) run.1).2 =
                .transmitted { type := type, len := len, data := data.take len } (-1) ∧
              (loopbackStep loopbackDevice (.transmit type data len) run.1).1 = run.1) ↔
            frames.length = LOOPBACK_QUEUE_LIMIT := by
  have hempty : ∀ p ∈ loopbackProtocols, p.queue.Holds [] := by
    intro p hp
    simp only [loopbackProtocols, List.mem_cons, List.not_mem_nil, or_false] at hp
    rcases hp with rfl | rfl
    · exact QueueHead.holds_zero
    · exact QueueHead.holds_zero
  exact ⟨QueueHead.holds_zero, by decide, hempty,
    loopback_pipeline_in_order loopbackDevice QueueHead.holds_zero (by decide) hempty loopbackEvents⟩

end ProtocolStack
