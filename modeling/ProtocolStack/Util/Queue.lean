import Mathlib
import ProtocolStack.Library.HeapList
import ProtocolStack.Library.Run

/-!
# The queue of util.c

A {lit}`struct queue_head` points at the first and the last
{lit}`queue_entry` of a singly linked list and counts its entries; an entry
holds the pointer the caller pushed.  The entries of each queue live in a heap
of their own: distinct allocations do not alias, and nothing but the queue
functions writes to them.  {lit}`memory_alloc` is taken to succeed.

{lit}`QueueHead.Holds q xs` relates the linked list to the list {lit}`xs` it
holds, first to last.  {lit}`queue_push` appends to it and {lit}`queue_pop`
takes its first element, so every user of the queue may reason about a list.
Over a whole run of pushes, pops and peeks the linked list refines the FIFO
list {lit}`queueFifoStep` states, and its head, tail and count stay
consistent with each other.
-/

namespace ProtocolStack

open HeapList

structure QueueHead (α : Type) where
  head : Option Nat
  tail : Option Nat
  num : Nat
  heap : Heap α
  deriving DecidableEq, Repr

variable {α : Type}

/-- The queue of a zero-filled static structure. -/
def QueueHead.zero : QueueHead α :=
  { head := none, tail := none, num := 0, heap := Heap.empty }

def queueInit (q : QueueHead α) : QueueHead α :=
  { q with head := none, tail := none, num := 0 }

def queuePush (q : QueueHead α) (data : α) : QueueHead α :=
  let entry := (q.heap.alloc ⟨none, data⟩).1
  let heap := (q.heap.alloc ⟨none, data⟩).2
  let heap :=
    match q.tail with
    | some tail => heap.setNext tail (some entry)
    | none => heap
  { head := if q.head = none then some entry else q.head, tail := some entry,
    num := q.num + 1, heap := heap }

def queuePop (q : QueueHead α) : QueueHead α × Option α :=
  match q.head with
  | none => (q, none)
  | some entry =>
      match q.heap.read entry with
      -- a head pointing nowhere: not reached while the queue holds a list
      | none => (q, none)
      | some c =>
          ({ head := c.next, tail := if c.next = none then none else q.tail, num := q.num - 1,
             heap := q.heap.free entry }, some c.data)

def queuePeek (q : QueueHead α) : Option α :=
  match q.head with
  | none => none
  | some entry => (q.heap.read entry).map (·.data)

/--
The loop of {lit}`queue_foreach` from {lit}`entry` on.  What {lit}`func`
does to the object {lit}`arg` points at is a function of that object's state
and the item; the fuel bounds the number of entries walked.
-/
def queueForeachLoop {σ : Type} (heap : Heap α) (func : σ → α → σ) :
    Nat → Option Nat → σ → σ
  | 0, _, arg => arg
  | _ + 1, none, arg => arg
  | fuel + 1, some entry, arg =>
      match heap.read entry with
      | none => arg
      | some c => queueForeachLoop heap func fuel c.next (func arg c.data)

/-- {lit}`queue_foreach`: a list of distinct entries has no more entries than the heap has cells. -/
def queueForeach {σ : Type} (q : QueueHead α) (func : σ → α → σ) (arg : σ) : σ :=
  queueForeachLoop q.heap func q.heap.cells.length q.head arg

/-- The queue holds {lit}`xs`, first to last. -/
def QueueHead.Holds (q : QueueHead α) (xs : List α) : Prop :=
  ∃ as, Path q.heap q.head as xs ∧ as.Nodup ∧ q.tail = as.getLast? ∧ q.num = xs.length

theorem QueueHead.Holds.num_eq {q : QueueHead α} {xs : List α} (h : q.Holds xs) :
    q.num = xs.length := by
  obtain ⟨_, _, _, _, hnum⟩ := h
  exact hnum

theorem QueueHead.holds_zero : (QueueHead.zero : QueueHead α).Holds [] :=
  ⟨[], .nil, List.nodup_nil, rfl, rfl⟩

theorem QueueHead.holds_queueInit (q : QueueHead α) : (queueInit q).Holds [] :=
  ⟨[], .nil, List.nodup_nil, rfl, rfl⟩

theorem QueueHead.Holds.push {q : QueueHead α} {xs : List α} (h : q.Holds xs) (x : α) :
    (queuePush q x).Holds (xs ++ [x]) := by
  obtain ⟨as, hp, hnd, htail, hnum⟩ := h
  have hfresh : (q.heap.alloc ⟨none, x⟩).1 ∉ as := fun hmem => Nat.lt_irrefl _ (hp.lt _ hmem)
  have hnd' : (as ++ [(q.heap.alloc ⟨none, x⟩).1]).Nodup :=
    List.nodup_append.mpr ⟨hnd, List.nodup_singleton _, by
      intro a ha b hb
      rw [List.mem_singleton] at hb
      rintro rfl
      exact hfresh (hb ▸ ha)⟩
  refine ⟨as ++ [(q.heap.alloc ⟨none, x⟩).1], ?_, hnd', by simp [queuePush],
    by simp [queuePush, hnum]⟩
  cases hlast : as.getLast? with
  | none =>
      -- an empty queue: the new entry is head and tail
      obtain rfl := List.getLast?_eq_none_iff.mp hlast
      obtain ⟨hhead, rfl⟩ := hp.start_of_nil
      have htail' : q.tail = none := by simpa using htail
      simp only [queuePush, hhead, htail', if_pos, List.nil_append]
      exact Path.cons (c := ⟨none, x⟩) (Heap.read_alloc_self _ _) .nil
  | some t =>
      -- the old tail links to the new entry
      rw [hlast] at htail
      have hhead : q.head ≠ none := by
        rintro hnone
        rw [hnone] at hp
        rw [(hp.start_none).1] at hlast
        cases hlast
      simp only [queuePush, htail, if_neg hhead]
      exact hp.snoc hnd hlast x

/-- {lit}`queue_pop` returns the first element and leaves the rest. -/
theorem QueueHead.Holds.pop {q : QueueHead α} {xs : List α} (h : q.Holds xs) :
    (queuePop q).2 = xs.head? ∧ (queuePop q).1.Holds xs.tail := by
  obtain ⟨as, hp, hnd, htail, hnum⟩ := h
  cases hhead : q.head with
  | none =>
      rw [hhead] at hp
      obtain ⟨rfl, rfl⟩ := hp.start_none
      simp only [queuePop, hhead]
      exact ⟨rfl, [], by rw [hhead]; exact .nil, List.nodup_nil, htail, hnum⟩
  | some a =>
      rw [hhead] at hp
      obtain ⟨c, as', xs', hr, rfl, rfl, hrest⟩ := hp.uncons
      have hnd' := List.nodup_cons.mp hnd
      simp only [queuePop, hhead, hr]
      refine ⟨rfl, as', ?_, hnd'.2, ?_, by simp [hnum]⟩
      · -- the rest of the list does not use the freed cell
        refine hrest.frame fun b hb => q.heap.read_free_ne ?_
        rintro rfl
        exact hnd'.1 hb
      · cases as' with
        | nil =>
            rw [(hrest.start_of_nil).1]
            rfl
        | cons b bs =>
            have hnext : c.next ≠ none := by
              intro hnone
              rw [hnone] at hrest
              cases (hrest.start_none).1
            rw [if_neg hnext, htail, List.getLast?_cons_cons]

theorem QueueHead.Holds.peek {q : QueueHead α} {xs : List α} (h : q.Holds xs) :
    queuePeek q = xs.head? := by
  obtain ⟨as, hp, -, -, -⟩ := h
  cases hhead : q.head with
  | none =>
      rw [hhead] at hp
      obtain ⟨-, rfl⟩ := hp.start_none
      simp only [queuePeek, hhead, List.head?_nil]
  | some a =>
      rw [hhead] at hp
      obtain ⟨c, -, xs', hr, -, rfl, -⟩ := hp.uncons
      simp only [queuePeek, hhead, hr, Option.map_some, List.head?_cons]

theorem queueForeachLoop_path {σ : Type} {heap : Heap α} {p : Option Nat} {as : List Nat}
    {xs : List α} (hp : Path heap p as xs) (func : σ → α → σ) :
    ∀ (fuel : Nat) (arg : σ), as.length ≤ fuel →
      queueForeachLoop heap func fuel p arg = xs.foldl func arg := by
  induction hp with
  | nil =>
      intro fuel arg _
      cases fuel <;> rfl
  | @cons a c as xs hr _ ih =>
      intro fuel arg hfuel
      cases fuel with
      | zero => simp at hfuel
      | succ fuel =>
          simp only [queueForeachLoop, hr, List.foldl_cons]
          exact ih fuel (func arg c.data) (by simpa using hfuel)

/-- {lit}`queue_foreach` calls {lit}`func` on the items first to last. -/
theorem QueueHead.Holds.foreach {σ : Type} {q : QueueHead α} {xs : List α} (h : q.Holds xs)
    (func : σ → α → σ) (arg : σ) : queueForeach q func arg = xs.foldl func arg := by
  obtain ⟨as, hp, hnd, -, -⟩ := h
  exact queueForeachLoop_path hp func _ arg (hp.length_le hnd)

/--
The representation invariant of the header: {lit}`head` is NULL iff
{lit}`tail` is iff {lit}`num` is zero, and the tail entry ends the list.
-/
structure QueueHead.Consistent (q : QueueHead α) : Prop where
  head_eq_none_iff : q.head = none ↔ q.tail = none
  tail_eq_none_iff : q.tail = none ↔ q.num = 0
  tail_next : ∀ t, q.tail = some t → ∃ c, q.heap.read t = some c ∧ c.next = none

theorem QueueHead.Holds.consistent {q : QueueHead α} {xs : List α} (h : q.Holds xs) :
    q.Consistent := by
  obtain ⟨as, hp, -, htail, hnum⟩ := h
  have hlen : q.num = as.length := by rw [hnum, hp.length_eq]
  constructor
  · rw [htail, List.getLast?_eq_none_iff]
    constructor
    · intro hnone
      rw [hnone] at hp
      exact hp.start_none.1
    · rintro rfl
      exact hp.start_of_nil.1
  · rw [htail, List.getLast?_eq_none_iff, hlen, List.length_eq_zero_iff]
  · intro t ht
    rw [htail] at ht
    exact hp.read_last ht

/-! ## Runs of queue calls -/

inductive QueueOp (α : Type)
  | push (data : α)
  | pop
  | peek
  deriving DecidableEq, Repr

/-- One call and what it returns; {lit}`queue_push` returns the item it queued. -/
def queueStep : QueueOp α → QueueHead α → QueueHead α × Option α
  | .push data, q => (queuePush q data, some data)
  | .pop, q => queuePop q
  | .peek, q => (q, queuePeek q)

/-- What a queue is for: a list where items go in at the back and are read and taken at the front. -/
def queueFifoStep : QueueOp α → List α → List α × Option α
  | .push data, xs => (xs ++ [data], some data)
  | .pop, xs => (xs.tail, xs.head?)
  | .peek, xs => (xs, xs.head?)

def queuePushed : List (QueueOp α) → List α
  | [] => []
  | .push data :: ops => data :: queuePushed ops
  | .pop :: ops => queuePushed ops
  | .peek :: ops => queuePushed ops

/-- The items the pops of a run take from the FIFO list, in order. -/
def queueTaken : List α → List (QueueOp α) → List α
  | _, [] => []
  | xs, .push data :: ops => queueTaken (xs ++ [data]) ops
  | [], .pop :: ops => queueTaken [] ops
  | x :: xs, .pop :: ops => x :: queueTaken xs ops
  | xs, .peek :: ops => queueTaken xs ops

/-- What the pops took, then what is left, is what was there and then pushed. -/
theorem queueTaken_append (xs : List α) (ops : List (QueueOp α)) :
    queueTaken xs ops ++ (Run.run queueFifoStep xs ops).1 = xs ++ queuePushed ops := by
  induction ops generalizing xs with
  | nil => simp [queueTaken, queuePushed]
  | cons op ops ih =>
      cases op with
      | push data =>
          simp only [queueTaken, queuePushed, Run.run_cons, queueFifoStep, ih]
          simp
      | pop =>
          cases xs with
          | nil => simp only [queueTaken, queuePushed, Run.run_cons, queueFifoStep, List.tail_nil, ih]
          | cons x xs =>
              simp only [queueTaken, queuePushed, Run.run_cons, queueFifoStep, List.tail_cons, ih,
                List.cons_append]
      | peek => simp only [queueTaken, queuePushed, Run.run_cons, queueFifoStep, ih]

theorem QueueHead.Holds.step {q : QueueHead α} {xs : List α} (h : q.Holds xs) (op : QueueOp α) :
    (queueStep op q).2 = (queueFifoStep op xs).2 ∧ (queueStep op q).1.Holds (queueFifoStep op xs).1 := by
  cases op with
  | push data => exact ⟨rfl, h.push data⟩
  | pop => exact h.pop
  | peek => exact ⟨h.peek, h⟩

/-- Over every run the linked list refines the FIFO list. -/
theorem QueueHead.Holds.run {q : QueueHead α} {xs : List α} (h : q.Holds xs) (ops : List (QueueOp α)) :
    (Run.run queueStep q ops).2 = (Run.run queueFifoStep xs ops).2 ∧
      (Run.run queueStep q ops).1.Holds (Run.run queueFifoStep xs ops).1 :=
  Run.run_simulation queueStep queueFifoStep QueueHead.Holds (fun _ _ op hq => hq.step op) q xs ops h

theorem queue_fifo {σ : Type} (q : QueueHead α) (hq : q = QueueHead.zero ∨ ∃ q0, q = queueInit q0)
    (ops : List (QueueOp α)) (func : σ → α → σ) (arg : σ) :
    (Run.run queueStep q ops).1.Holds (Run.run queueFifoStep [] ops).1 ∧
      queueTaken [] ops ++ (Run.run queueFifoStep [] ops).1 = queuePushed ops ∧
      (Run.run queueStep q ops).1.Consistent ∧
      (Run.run queueStep q ops).2 = (Run.run queueFifoStep [] ops).2 ∧
      queueForeach (Run.run queueStep q ops).1 func arg =
        (Run.run queueFifoStep [] ops).1.foldl func arg := by
  have hempty : q.Holds [] := by
    rcases hq with rfl | ⟨q0, rfl⟩
    · exact QueueHead.holds_zero
    · exact QueueHead.holds_queueInit q0
  obtain ⟨hobs, hholds⟩ := hempty.run ops
  refine ⟨hholds, ?_, hholds.consistent, hobs, hholds.foreach func arg⟩
  simpa using queueTaken_append [] ops

/-- Two pushes, a pop, a peek and two pops, the last on an empty queue. -/
def queueTwoItems : List (QueueOp Nat) :=
  [.push 1, .push 2, .pop, .peek, .pop, .pop]

theorem queue_fifo_two_items :
    ((QueueHead.zero : QueueHead Nat) = QueueHead.zero ∨
        ∃ q0, (QueueHead.zero : QueueHead Nat) = queueInit q0) ∧
      (Run.run queueStep QueueHead.zero queueTwoItems).1.Holds
          (Run.run queueFifoStep [] queueTwoItems).1 ∧
        queueTaken [] queueTwoItems ++ (Run.run queueFifoStep [] queueTwoItems).1 =
          queuePushed queueTwoItems ∧
        (Run.run queueStep QueueHead.zero queueTwoItems).1.Consistent ∧
        (Run.run queueStep QueueHead.zero queueTwoItems).2 =
          (Run.run queueFifoStep [] queueTwoItems).2 ∧
        queueForeach (Run.run queueStep QueueHead.zero queueTwoItems).1 (fun l x => l ++ [x]) [] =
          (Run.run queueFifoStep [] queueTwoItems).1.foldl (fun l x => l ++ [x]) [] :=
  ⟨Or.inl rfl, queue_fifo QueueHead.zero (Or.inl rfl) queueTwoItems (fun l x => l ++ [x]) []⟩

example : (Run.run queueFifoStep [] queueTwoItems).2 = [some 1, some 2, some 1, some 2, some 2, none] := by
  decide

end ProtocolStack
