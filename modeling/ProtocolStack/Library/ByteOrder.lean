import Mathlib

/-!
# Native byte order

The memory image of 16- and 32-bit stores on a little- or big-endian host,
the loads that read such images back, and reads at a byte offset of a
buffer.  A buffer is a list of bytes, lowest address first; reading past its
end yields zero bytes.

The round-trip lemmas ({lit}`read16_append_store16` and its 32-bit twin) are
the only facts about memory layout that decoders built on top need.
-/

namespace ByteOrder

/-- The byte order of the host. -/
inductive Endian
  | little
  | big
  deriving DecidableEq, Repr

namespace Endian

/-- The two bytes a 16-bit store of {v} leaves in memory. -/
def store16 : Endian → UInt16 → List UInt8
  | little, v => [UInt8.ofNat v.toNat, UInt8.ofNat (v.toNat / 256)]
  | big, v => [UInt8.ofNat (v.toNat / 256), UInt8.ofNat v.toNat]

/-- The value a 16-bit load reads from the bytes {b0}, {b1}. -/
def load16 : Endian → UInt8 → UInt8 → UInt16
  | little, b0, b1 => UInt16.ofNat (b0.toNat + 256 * b1.toNat)
  | big, b0, b1 => UInt16.ofNat (256 * b0.toNat + b1.toNat)

/-- The four bytes a 32-bit store of {v} leaves in memory. -/
def store32 : Endian → UInt32 → List UInt8
  | little, v =>
      [UInt8.ofNat v.toNat, UInt8.ofNat (v.toNat / 256),
        UInt8.ofNat (v.toNat / 65536), UInt8.ofNat (v.toNat / 16777216)]
  | big, v =>
      [UInt8.ofNat (v.toNat / 16777216), UInt8.ofNat (v.toNat / 65536),
        UInt8.ofNat (v.toNat / 256), UInt8.ofNat v.toNat]

/-- The value a 32-bit load reads from the bytes {b0} to {b3}. -/
def load32 : Endian → UInt8 → UInt8 → UInt8 → UInt8 → UInt32
  | little, b0, b1, b2, b3 =>
      UInt32.ofNat (b0.toNat + 256 * b1.toNat + 65536 * b2.toNat +
        16777216 * b3.toNat)
  | big, b0, b1, b2, b3 =>
      UInt32.ofNat (16777216 * b0.toNat + 65536 * b1.toNat +
        256 * b2.toNat + b3.toNat)

/-- A 16-bit load at byte offset {k} of {buf}. -/
def read16 (e : Endian) (buf : List UInt8) (k : Nat) : UInt16 :=
  e.load16 (buf.getD k 0) (buf.getD (k + 1) 0)

/-- A 32-bit load at byte offset {k} of {buf}. -/
def read32 (e : Endian) (buf : List UInt8) (k : Nat) : UInt32 :=
  e.load32 (buf.getD k 0) (buf.getD (k + 1) 0) (buf.getD (k + 2) 0)
    (buf.getD (k + 3) 0)

@[simp] theorem length_store16 (e : Endian) (v : UInt16) :
    (e.store16 v).length = 2 := by
  cases e <;> rfl

@[simp] theorem length_store32 (e : Endian) (v : UInt32) :
    (e.store32 v).length = 4 := by
  cases e <;> rfl

theorem exists_store32_eq (e : Endian) (v : UInt32) :
    ∃ b0 b1 b2 b3, e.store32 v = [b0, b1, b2, b3] := by
  cases e <;> exact ⟨_, _, _, _, rfl⟩

theorem load16_store16 (e : Endian) (v : UInt16) :
    e.load16 ((e.store16 v).getD 0 0) ((e.store16 v).getD 1 0) = v := by
  have hv := v.toNat_lt
  apply UInt16.toNat_inj.mp
  cases e <;>
    simp only [store16, load16, List.getD_cons_zero, List.getD_cons_succ,
      UInt16.toNat_ofNat', UInt8.toNat_ofNat'] <;>
    lia

theorem load32_store32 (e : Endian) (v : UInt32) :
    e.load32 ((e.store32 v).getD 0 0) ((e.store32 v).getD 1 0)
      ((e.store32 v).getD 2 0) ((e.store32 v).getD 3 0) = v := by
  have hv := v.toNat_lt
  apply UInt32.toNat_inj.mp
  cases e <;>
    simp only [store32, load32, List.getD_cons_zero, List.getD_cons_succ,
      UInt32.toNat_ofNat', UInt8.toNat_ofNat'] <;>
    lia

theorem store32_load32 (e : Endian) (b0 b1 b2 b3 : UInt8) :
    e.store32 (e.load32 b0 b1 b2 b3) = [b0, b1, b2, b3] := by
  have h0 := b0.toNat_lt
  have h1 := b1.toNat_lt
  have h2 := b2.toNat_lt
  have h3 := b3.toNat_lt
  cases e <;>
    simp only [store32, load32, List.cons.injEq, and_true, ← UInt8.toNat_inj,
      UInt32.toNat_ofNat', UInt8.toNat_ofNat'] <;>
    omega

theorem getD_append_middle {pre mid post : List UInt8} {i : Nat}
    (hi : i < mid.length) :
    (pre ++ mid ++ post).getD (pre.length + i) 0 = mid.getD i 0 := by
  rw [List.append_assoc, List.getD_append_right _ _ _ _ (by lia),
    Nat.add_sub_cancel_left, List.getD_append _ _ _ _ hi]

/-- A 16-bit store followed by a load at the same offset reads the value back. -/
theorem read16_append_store16 (e : Endian) (pre post : List UInt8)
    (v : UInt16) : e.read16 (pre ++ e.store16 v ++ post) pre.length = v := by
  have h0 : (pre ++ e.store16 v ++ post).getD pre.length 0 =
      (e.store16 v).getD 0 0 := getD_append_middle (i := 0) (by simp)
  have h1 : (pre ++ e.store16 v ++ post).getD (pre.length + 1) 0 =
      (e.store16 v).getD 1 0 := getD_append_middle (i := 1) (by simp)
  rw [read16, h0, h1]
  exact load16_store16 e v

/-- A 32-bit store followed by a load at the same offset reads the value back. -/
theorem read32_append_store32 (e : Endian) (pre post : List UInt8)
    (v : UInt32) : e.read32 (pre ++ e.store32 v ++ post) pre.length = v := by
  have h0 : (pre ++ e.store32 v ++ post).getD pre.length 0 =
      (e.store32 v).getD 0 0 := getD_append_middle (i := 0) (by simp)
  have h1 : (pre ++ e.store32 v ++ post).getD (pre.length + 1) 0 =
      (e.store32 v).getD 1 0 := getD_append_middle (i := 1) (by simp)
  have h2 : (pre ++ e.store32 v ++ post).getD (pre.length + 2) 0 =
      (e.store32 v).getD 2 0 := getD_append_middle (i := 2) (by simp)
  have h3 : (pre ++ e.store32 v ++ post).getD (pre.length + 3) 0 =
      (e.store32 v).getD 3 0 := getD_append_middle (i := 3) (by simp)
  rw [read32, h0, h1, h2, h3]
  exact load32_store32 e v

/-- A 16-bit store of {v} at byte offset {k} of {buf}. -/
def write16 (e : Endian) (buf : List UInt8) (k : Nat) (v : UInt16) : List UInt8 :=
  buf.take k ++ e.store16 v ++ buf.drop (k + 2)

@[simp] theorem store16_zero (e : Endian) : e.store16 0 = [0, 0] := by
  cases e <;> rfl

/-- Storing zero over two zero bytes leaves the buffer as it was. -/
theorem write16_zero_of_getD (e : Endian) {buf : List UInt8} {k : Nat}
    (hk : k + 2 ≤ buf.length) (h0 : buf.getD k 0 = 0) (h1 : buf.getD (k + 1) 0 = 0) :
    e.write16 buf k 0 = buf := by
  rw [List.getD_eq_getElem _ _ (by lia)] at h0 h1
  -- take the buffer apart at {k}: the two bytes there, and what follows them
  conv_rhs =>
    rw [← List.take_append_drop k buf, List.drop_eq_getElem_cons (by lia),
      List.drop_eq_getElem_cons (by lia), h0, h1]
  simp [write16]

theorem read16_append_of_le (e : Endian) {a : List UInt8} (b : List UInt8)
    {k : Nat} (hk : a.length ≤ k) :
    e.read16 (a ++ b) k = e.read16 b (k - a.length) := by
  unfold read16
  rw [List.getD_append_right _ _ _ _ hk, List.getD_append_right _ _ _ _ (by lia)]
  congr 2
  lia

theorem read32_append_of_le (e : Endian) {a : List UInt8} (b : List UInt8)
    {k : Nat} (hk : a.length ≤ k) :
    e.read32 (a ++ b) k = e.read32 b (k - a.length) := by
  unfold read32
  rw [List.getD_append_right _ _ _ _ hk, List.getD_append_right _ _ _ _ (by lia),
    List.getD_append_right _ _ _ _ (by lia), List.getD_append_right _ _ _ _ (by lia)]
  congr 2 <;> lia

@[simp] theorem read16_store16_append (e : Endian) (v : UInt16) (b : List UInt8) :
    e.read16 (e.store16 v ++ b) 0 = v := by
  simpa using read16_append_store16 e [] b v

@[simp] theorem read32_store32_append (e : Endian) (v : UInt32) (b : List UInt8) :
    e.read32 (e.store32 v ++ b) 0 = v := by
  simpa using read32_append_store32 e [] b v

@[simp] theorem read16_cons_succ (e : Endian) (b : UInt8) (bs : List UInt8)
    (k : Nat) : e.read16 (b :: bs) (k + 1) = e.read16 bs k := rfl

@[simp] theorem read32_cons_succ (e : Endian) (b : UInt8) (bs : List UInt8)
    (k : Nat) : e.read32 (b :: bs) (k + 1) = e.read32 bs k := rfl

end Endian

end ByteOrder
