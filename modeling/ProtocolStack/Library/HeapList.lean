import Mathlib

/-!
# Singly linked lists in a heap

A heap holds cells at natural-number addresses; a cell carries a datum and
the address of the next cell, or none at the end of a list.  Allocation
appends a cell, so an address is never handed out twice, and freeing empties
a slot.

{lit}`Path h p as xs` says that following the next pointers from {lit}`p`
visits the distinct cells at {lit}`as`, holding {lit}`xs`, and stops at
none.  The lemmas are the ones a queue of such cells needs: a path survives
writes outside its cells, grows by one cell at its end, and loses its first
cell when that cell is freed.
-/

namespace HeapList

variable {α : Type}

structure Cell (α : Type) where
  next : Option Nat
  data : α
  deriving DecidableEq, Repr

structure Heap (α : Type) where
  cells : List (Option (Cell α))
  deriving DecidableEq, Repr

def Heap.empty : Heap α :=
  ⟨[]⟩

def Heap.read (h : Heap α) (a : Nat) : Option (Cell α) :=
  (h.cells[a]?).join

/-- A fresh cell at the first address past the heap. -/
def Heap.alloc (h : Heap α) (c : Cell α) : Nat × Heap α :=
  (h.cells.length, ⟨h.cells ++ [some c]⟩)

def Heap.setNext (h : Heap α) (a : Nat) (next : Option Nat) : Heap α :=
  ⟨h.cells.modify a (Option.map fun c => { c with next := next })⟩

def Heap.free (h : Heap α) (a : Nat) : Heap α :=
  ⟨h.cells.set a none⟩

/-! ## Reading after a write -/

theorem Heap.lt_of_read {h : Heap α} {a : Nat} {c : Cell α} (hr : h.read a = some c) :
    a < h.cells.length := by
  by_contra hle
  rw [Heap.read, List.getElem?_eq_none (Nat.le_of_not_lt hle)] at hr
  cases hr

@[simp] theorem Heap.read_alloc_self (h : Heap α) (c : Cell α) :
    (h.alloc c).2.read (h.alloc c).1 = some c := by
  simp [Heap.read, Heap.alloc]

theorem Heap.read_alloc_of_lt (h : Heap α) (c : Cell α) {a : Nat} (ha : a < h.cells.length) :
    (h.alloc c).2.read a = h.read a := by
  simp [Heap.read, Heap.alloc, List.getElem?_append_left ha]

theorem Heap.read_alloc_of_read {h : Heap α} (c : Cell α) {a : Nat} {c' : Cell α}
    (hr : h.read a = some c') : (h.alloc c).2.read a = some c' := by
  rw [h.read_alloc_of_lt c (Heap.lt_of_read hr), hr]

theorem Heap.read_setNext_self {h : Heap α} {a : Nat} {c : Cell α} (hr : h.read a = some c)
    (next : Option Nat) : (h.setNext a next).read a = some { c with next := next } := by
  unfold Heap.read at hr
  simp only [Heap.read, Heap.setNext, List.getElem?_modify, if_pos]
  obtain ⟨o, ho, rfl⟩ : ∃ o, h.cells[a]? = some o ∧ o = some c := by
    cases hget : h.cells[a]? with
    | none => simp [hget] at hr
    | some o => exact ⟨o, rfl, by simpa [hget] using hr⟩
  simp [ho]

theorem Heap.read_setNext_ne (h : Heap α) {a b : Nat} (hne : b ≠ a) (next : Option Nat) :
    (h.setNext a next).read b = h.read b := by
  simp [Heap.read, Heap.setNext, Ne.symm hne]

theorem Heap.read_free_ne (h : Heap α) {a b : Nat} (hne : b ≠ a) :
    (h.free a).read b = h.read b := by
  simp [Heap.read, Heap.free, Ne.symm hne]

/-! ## Paths -/

/-- Following next pointers from {lit}`p` visits the cells at {lit}`as`, holding {lit}`xs`. -/
inductive Path (h : Heap α) : Option Nat → List Nat → List α → Prop
  | nil : Path h none [] []
  | cons {a : Nat} {c : Cell α} {as : List Nat} {xs : List α} :
      h.read a = some c → Path h c.next as xs → Path h (some a) (a :: as) (c.data :: xs)

theorem Path.start_none {h : Heap α} {as : List Nat} {xs : List α}
    (hp : Path h none as xs) : as = [] ∧ xs = [] := by
  cases hp with
  | nil => exact ⟨rfl, rfl⟩

theorem Path.start_of_nil {h : Heap α} {p : Option Nat} {xs : List α}
    (hp : Path h p [] xs) : p = none ∧ xs = [] := by
  cases hp with
  | nil => exact ⟨rfl, rfl⟩

theorem Path.uncons {h : Heap α} {a : Nat} {as : List Nat} {xs : List α}
    (hp : Path h (some a) as xs) :
    ∃ c as' xs', h.read a = some c ∧ as = a :: as' ∧ xs = c.data :: xs' ∧ Path h c.next as' xs' := by
  cases hp with
  | cons hr hrest => exact ⟨_, _, _, hr, rfl, rfl, hrest⟩

theorem Path.lt {h : Heap α} {p : Option Nat} {as : List Nat} {xs : List α}
    (hp : Path h p as xs) : ∀ a ∈ as, a < h.cells.length := by
  induction hp with
  | nil => simp
  | cons hr _ ih =>
      intro b hb
      rcases List.mem_cons.mp hb with rfl | hb
      · exact Heap.lt_of_read hr
      · exact ih b hb

theorem Path.length_eq {h : Heap α} {p : Option Nat} {as : List Nat} {xs : List α}
    (hp : Path h p as xs) : as.length = xs.length := by
  induction hp with
  | nil => rfl
  | cons _ _ ih => simp [ih]

/-- The last cell of a path ends the list. -/
theorem Path.read_last {h : Heap α} {p : Option Nat} {as : List Nat} {xs : List α} {t : Nat}
    (hp : Path h p as xs) (hlast : as.getLast? = some t) :
    ∃ c, h.read t = some c ∧ c.next = none := by
  induction hp with
  | nil => cases hlast
  | @cons a c as xs hr hrest ih =>
      cases as with
      | nil =>
          obtain rfl : a = t := by simpa using hlast
          exact ⟨c, hr, hrest.start_of_nil.1⟩
      | cons b bs => exact ih (by simpa using hlast)

/-- A path of distinct cells is no longer than the heap. -/
theorem Path.length_le {h : Heap α} {p : Option Nat} {as : List Nat} {xs : List α}
    (hp : Path h p as xs) (hnd : as.Nodup) : as.length ≤ h.cells.length := by
  have hsub : as ⊆ List.range h.cells.length := fun a ha => List.mem_range.mpr (hp.lt a ha)
  simpa using (hnd.subperm hsub).length_le

/-- A path survives any change of the heap that keeps its cells. -/
theorem Path.frame {h h' : Heap α} {p : Option Nat} {as : List Nat} {xs : List α}
    (hp : Path h p as xs) (hsame : ∀ a ∈ as, h'.read a = h.read a) : Path h' p as xs := by
  induction hp with
  | nil => exact .nil
  | @cons a c as xs hr _ ih =>
      refine .cons ?_ (ih fun b hb => hsame b (List.mem_cons_of_mem a hb))
      rw [hsame a List.mem_cons_self, hr]

/--
Appending: a fresh cell holding {lit}`x`, linked from the last cell
{lit}`t` of the path, extends the path by one.
-/
theorem Path.snoc {h : Heap α} {p : Option Nat} {as : List Nat} {xs : List α} {t : Nat}
    (hp : Path h p as xs) (hnd : as.Nodup) (hlast : as.getLast? = some t) (x : α) :
    Path (((h.alloc ⟨none, x⟩).2).setNext t (some (h.alloc ⟨none, x⟩).1)) p
      (as ++ [(h.alloc ⟨none, x⟩).1]) (xs ++ [x]) := by
  induction hp with
  | nil => cases hlast
  | @cons a c as xs hr hrest ih =>
      have hfresh : (h.alloc ⟨none, x⟩).1 ≠ a := Nat.ne_of_gt (Heap.lt_of_read hr)
      cases as with
      | nil =>
          -- the last cell: link it to the fresh one
          obtain ⟨hnext, rfl⟩ := hrest.start_of_nil
          obtain rfl : a = t := by simpa using hlast
          show Path _ (some a) [a, _] [c.data, x]
          refine Path.cons (c := { c with next := some (h.alloc ⟨none, x⟩).1 })
            (Heap.read_setNext_self (Heap.read_alloc_of_read _ hr) _) ?_
          refine Path.cons (c := ⟨none, x⟩) ?_ .nil
          rw [Heap.read_setNext_ne _ hfresh, Heap.read_alloc_self]
      | cons b bs =>
          have hnd' := List.nodup_cons.mp hnd
          have hta : t ≠ a := by
            rintro rfl
            exact hnd'.1 (List.mem_of_getLast? (by simpa using hlast))
          have ih' := ih hnd'.2 (by simpa using hlast)
          refine .cons ?_ ih'
          rw [Heap.read_setNext_ne _ (Ne.symm hta), Heap.read_alloc_of_read _ hr]

end HeapList
