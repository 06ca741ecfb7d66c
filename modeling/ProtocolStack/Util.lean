import Mathlib
import ProtocolStack.Library.OnesComplement
import ProtocolStack.Library.ByteOrder

/-!
# Utilities of the protocol stack

The byte-order conversions, the Internet checksum and the FIFO queue of
{lit}`util.c`.  The host byte order, which {lit}`util.c` detects once and
caches in {lit}`endian`, is a parameter {lit}`e` of every function that
depends on it.

{lit}`cksum16` accumulates native 16-bit words in a 32-bit sum, adds an odd
trailing byte as its value, folds the carries back in and complements.  The
carry loop runs at most twice on a 32-bit sum
({lit}`cksum16Fold_two_shiftRight`), so {lit}`cksum16Fold 2` is that loop.
The main facts are the closed form of the accumulated sum, the residue the
fold computes, and the verification law: storing the checksum of a buffer
whose checksum field is zero makes the checksum of the buffer zero.  Against
the checksum RFC 1071 specifies, word by word in one's complement with an odd
trailing byte padded by a zero byte after it, {lit}`cksum16` agrees on a
little-endian host and for even lengths; on a big-endian host an odd trailing
byte lands in the wrong half of its word.
-/

namespace ProtocolStack

open ByteOrder

/-!
## Byte order
-/

def byteswap16 (v : UInt16) : UInt16 :=
  (v &&& 0x00ff) <<< 8 ||| (v &&& 0xff00) >>> 8

def byteswap32 (v : UInt32) : UInt32 :=
  (v &&& 0x000000ff) <<< 24 ||| (v &&& 0x0000ff00) <<< 8 |||
    (v &&& 0x00ff0000) >>> 8 ||| (v &&& 0xff000000) >>> 24

def hton16 (e : Endian) (h : UInt16) : UInt16 :=
  match e with
  | .little => byteswap16 h
  | .big => h

def ntoh16 (e : Endian) (n : UInt16) : UInt16 :=
  match e with
  | .little => byteswap16 n
  | .big => n

def hton32 (e : Endian) (h : UInt32) : UInt32 :=
  match e with
  | .little => byteswap32 h
  | .big => h

def ntoh32 (e : Endian) (n : UInt32) : UInt32 :=
  match e with
  | .little => byteswap32 n
  | .big => n

theorem byteswap16_byteswap16 (v : UInt16) : byteswap16 (byteswap16 v) = v := by
  unfold byteswap16
  apply UInt16.toBitVec_inj.mp
  simp only [UInt16.toBitVec_or, UInt16.toBitVec_and,
    UInt16.toBitVec_shiftLeft, UInt16.toBitVec_shiftRight]
  apply BitVec.eq_of_getLsbD_eq
  intro i hi
  generalize v.toBitVec = y
  interval_cases i <;> simp

theorem byteswap32_byteswap32 (v : UInt32) : byteswap32 (byteswap32 v) = v := by
  unfold byteswap32
  apply UInt32.toBitVec_inj.mp
  simp only [UInt32.toBitVec_or, UInt32.toBitVec_and,
    UInt32.toBitVec_shiftLeft, UInt32.toBitVec_shiftRight,
    UInt32.toBitVec_ofNat]
  apply BitVec.eq_of_getLsbD_eq
  intro i hi
  generalize v.toBitVec = y
  -- bit by bit: each bit of the result is one bit of the input, found through the masks
  interval_cases i <;>
    simp only [BitVec.getLsbD_or, BitVec.getLsbD_and,
      BitVec.ushiftRight_eq', BitVec.getLsbD_ushiftRight,
      BitVec.shiftLeft_eq', BitVec.getLsbD_shiftLeft, BitVec.getLsbD_ofNat, BitVec.toNat_umod,
      BitVec.toNat_ofNat, BitVec.reduceToNat, Nat.testBit_eq_decide_div_mod_eq,
      Nat.reducePow, Nat.reduceMod, Nat.reduceDiv, Nat.reduceSub, Nat.reduceAdd, Nat.reduceLT,
      Nat.reduceEqDiff, decide_true, decide_false, Bool.and_true, Bool.true_and, Bool.and_false,
      Bool.false_and, Bool.or_false, Bool.false_or, Bool.not_true, Bool.not_false]

@[simp] theorem ntoh16_hton16 (e : Endian) (h : UInt16) :
    ntoh16 e (hton16 e h) = h := by
  cases e
  · exact byteswap16_byteswap16 h
  · rfl

@[simp] theorem hton16_ntoh16 (e : Endian) (n : UInt16) :
    hton16 e (ntoh16 e n) = n := by
  cases e
  · exact byteswap16_byteswap16 n
  · rfl

@[simp] theorem ntoh32_hton32 (e : Endian) (h : UInt32) :
    ntoh32 e (hton32 e h) = h := by
  cases e
  · exact byteswap32_byteswap32 h
  · rfl

/-!
## Checksum
-/

/--
The accumulation loop of {lit}`cksum16` over {lit}`count` bytes from
{lit}`addr`: native 16-bit words, then an odd trailing byte as its value.
-/
def cksum16Sum (e : Endian) : List UInt8 → Nat → UInt32 → UInt32
  | b0 :: b1 :: rest, count + 2, sum =>
      cksum16Sum e rest count (sum + (e.load16 b0 b1).toUInt32)
  | b0 :: _, 1, sum => sum + b0.toUInt32
  | _, _, sum => sum

/-- The carry-folding loop of {lit}`cksum16`, run for at most {lit}`fuel` rounds. -/
def cksum16Fold : Nat → UInt32 → UInt32
  | 0, sum => sum
  | fuel + 1, sum =>
      if sum >>> 16 = 0 then sum
      else cksum16Fold fuel ((sum &&& (0xffff : UInt32)) + (sum >>> 16))

def cksum16 (e : Endian) (addr : List UInt8) (count : UInt16) (init : UInt32) :
    UInt16 :=
  ~~~(cksum16Fold 2 (cksum16Sum e addr count.toNat init)).toUInt16

/--
The sum {lit}`cksum16` accumulates, as a natural number: native words of the
buffer and an odd trailing byte as its value.
-/
def cksumWordSum (e : Endian) : List UInt8 → Nat
  | b0 :: b1 :: rest => (e.load16 b0 b1).toNat + cksumWordSum e rest
  | [b0] => b0.toNat
  | [] => 0

@[simp] theorem cksumWordSum_nil (e : Endian) : cksumWordSum e [] = 0 := rfl

theorem cksumWordSum_cons_cons (e : Endian) (b0 b1 : UInt8) (rest : List UInt8) :
    cksumWordSum e (b0 :: b1 :: rest) =
      (e.load16 b0 b1).toNat + cksumWordSum e rest := rfl

theorem cksumWordSum_append_of_even (e : Endian) :
    forall (pre rest : List UInt8), pre.length % 2 = 0 ->
      cksumWordSum e (pre ++ rest) = cksumWordSum e pre + cksumWordSum e rest
  | [], rest, _ => by simp
  | [_], _, hpre => by simp at hpre
  | b0 :: b1 :: pre, rest, hpre => by
      have hpre' : pre.length % 2 = 0 := by
        simp only [List.length_cons] at hpre
        lia
      rw [List.cons_append, List.cons_append, cksumWordSum_cons_cons,
        cksumWordSum_cons_cons, cksumWordSum_append_of_even e pre rest hpre']
      lia

theorem cksumWordSum_store16 (e : Endian) (v : UInt16) :
    cksumWordSum e (e.store16 v) = v.toNat := by
  have h := Endian.load16_store16 e v
  cases e <;> simp only [Endian.store16, cksumWordSum_cons_cons,
    cksumWordSum_nil, Nat.add_zero] <;> exact congrArg UInt16.toNat h

theorem cksumWordSum_le (e : Endian) :
    forall (buf : List UInt8), cksumWordSum e buf ≤ 65535 * ((buf.length + 1) / 2)
  | [] => by simp
  | [b0] => by
      have := b0.toNat_lt
      simp only [cksumWordSum, List.length_cons, List.length_nil]
      lia
  | b0 :: b1 :: rest => by
      have hw := (e.load16 b0 b1).toNat_lt
      have ih := cksumWordSum_le e rest
      simp only [cksumWordSum_cons_cons, List.length_cons]
      lia

/--
The accumulated 32-bit sum is the natural sum of the first {lit}`count` bytes,
modulo {lit}`2 ^ 32`.
-/
theorem toNat_cksum16Sum (e : Endian) :
    forall (addr : List UInt8) (count : Nat) (sum : UInt32),
      count ≤ addr.length ->
      (cksum16Sum e addr count sum).toNat =
        (sum.toNat + cksumWordSum e (addr.take count)) % 2 ^ 32
  | [], count, sum, hcount => by
      have hc : count = 0 := by simpa using hcount
      subst hc
      simp [cksum16Sum]
  | [b0], count, sum, hcount => by
      rcases count with _ | _ | count
      · simp [cksum16Sum]
      · simp [cksum16Sum, cksumWordSum, UInt32.toNat_add]
      · simp at hcount
  | b0 :: b1 :: rest, count, sum, hcount => by
      rcases count with _ | _ | count
      · simp [cksum16Sum]
      · simp [cksum16Sum, cksumWordSum, UInt32.toNat_add]
      · have hrest : count ≤ rest.length := by
          simp only [List.length_cons] at hcount
          lia
        rw [cksum16Sum, toNat_cksum16Sum e rest count _ hrest]
        simp only [List.take_succ_cons, cksumWordSum_cons_cons,
          UInt32.toNat_add, UInt16.toNat_toUInt32]
        lia

theorem cksum16Round_toNat (s : UInt32) :
    ((s &&& (0xffff : UInt32)) + (s >>> 16)).toNat =
      OnesComplement.endAroundCarry 16 s.toNat := by
  have hs := s.toNat_lt
  have hand : (s &&& (0xffff : UInt32)).toNat = s.toNat % 2 ^ 16 := by
    rw [UInt32.toNat_and]
    exact Nat.and_two_pow_sub_one_eq_mod s.toNat 16
  have hshift : (s >>> 16).toNat = s.toNat / 2 ^ 16 := by
    rw [UInt32.toNat_shiftRight]
    exact Nat.shiftRight_eq_div_pow s.toNat 16
  rw [UInt32.toNat_add, hand, hshift, OnesComplement.endAroundCarry]
  apply Nat.mod_eq_of_lt
  lia

theorem shiftRight_sixteen_eq_zero_iff (s : UInt32) :
    s >>> 16 = 0 ↔ s.toNat < 2 ^ 16 := by
  rw [← UInt32.toNat_inj, UInt32.toNat_shiftRight]
  simp only [UInt32.toNat_ofNat, Nat.shiftRight_eq_div_pow]
  constructor
  · intro h
    have := Nat.div_add_mod s.toNat (2 ^ 16)
    lia
  · intro h
    exact Nat.div_eq_of_lt h

/-- Two rounds of the carry loop leave the one's complement residue of the sum. -/
theorem cksum16Fold_isResidue (s : UInt32) :
    OnesComplement.IsResidue 16 s.toNat (cksum16Fold 2 s).toNat := by
  have hs := s.toNat_lt
  by_cases h0 : s >>> 16 = 0
  · have hlt := (shiftRight_sixteen_eq_zero_iff s).mp h0
    simp only [cksum16Fold, h0, if_true]
    exact OnesComplement.isResidue_self hlt
  · set s1 := (s &&& (0xffff : UInt32)) + (s >>> 16) with hs1
    have hs1toNat : s1.toNat = OnesComplement.endAroundCarry 16 s.toNat :=
      cksum16Round_toNat s
    apply OnesComplement.IsResidue.of_endAroundCarry
    rw [← hs1toNat]
    by_cases h1 : s1 >>> 16 = 0
    · have hlt := (shiftRight_sixteen_eq_zero_iff s1).mp h1
      simp only [cksum16Fold, h0, h1, if_true, if_false, ← hs1]
      exact OnesComplement.isResidue_self hlt
    · have hs1le : s1.toNat ≤ 2 * 2 ^ 16 - 2 := by
        rw [hs1toNat, OnesComplement.endAroundCarry]
        have := Nat.mod_lt s.toNat (show 0 < 2 ^ 16 by decide)
        have : s.toNat / 2 ^ 16 < 2 ^ 16 := by lia
        lia
      have hs2lt : ((s1 &&& (0xffff : UInt32)) + (s1 >>> 16)).toNat < 2 ^ 16 := by
        rw [cksum16Round_toNat, OnesComplement.endAroundCarry]
        have hge : 2 ^ 16 ≤ s1.toNat := by
          by_contra hlt
          exact h1 ((shiftRight_sixteen_eq_zero_iff s1).mpr (by lia))
        have hdiv : s1.toNat / 2 ^ 16 = 1 := by lia
        lia
      simp only [cksum16Fold, h0, h1, if_false, ← hs1]
      apply OnesComplement.IsResidue.of_endAroundCarry
      rw [← cksum16Round_toNat]
      exact OnesComplement.isResidue_self hs2lt

/-- The carry loop of {lit}`cksum16` stops after at most two rounds. -/
theorem cksum16Fold_two_shiftRight (s : UInt32) : cksum16Fold 2 s >>> 16 = 0 :=
  (shiftRight_sixteen_eq_zero_iff _).mpr (cksum16Fold_isResidue s).lt

/--
The checksum is the complement of the one's complement residue of the
accumulated sum, when that sum fits in 32 bits.
-/
theorem cksum16_isResidue (e : Endian) (addr : List UInt8) (count : UInt16)
    (init : UInt32) (hcount : count.toNat ≤ addr.length)
    (hbound : init.toNat + cksumWordSum e (addr.take count.toNat) < 2 ^ 32) :
    OnesComplement.IsResidue 16
      (init.toNat + cksumWordSum e (addr.take count.toNat))
      (65535 - (cksum16 e addr count init).toNat) := by
  have hsum := toNat_cksum16Sum e addr count.toNat init hcount
  rw [Nat.mod_eq_of_lt hbound] at hsum
  have hres := cksum16Fold_isResidue (cksum16Sum e addr count.toNat init)
  rw [hsum] at hres
  have hlt := hres.lt
  have hcomp : (cksum16 e addr count init).toNat =
      65535 - (cksum16Fold 2 (cksum16Sum e addr count.toNat init)).toNat := by
    rw [cksum16, UInt16.toNat_not, UInt32.toNat_toUInt16,
      Nat.mod_eq_of_lt hlt]
    rfl
  rw [hcomp, Nat.sub_sub_self (by lia)]
  exact hres

theorem cksumWordSum_zero_word (e : Endian) : cksumWordSum e [0, 0] = 0 := by
  cases e <;> rfl

/--
Verification law of the Internet checksum: the checksum of a buffer whose
16-bit checksum field (at an even offset) holds zero, stored into that field,
makes the checksum of the whole buffer zero.
-/
theorem cksum16_store_cksum16 (e : Endian) (pre post : List UInt8)
    (init : UInt32) (hpre : pre.length % 2 = 0)
    (hlen : pre.length + 2 + post.length ≤ 65535) (hinit : init.toNat ≤ 65535) :
    cksum16 e
        (pre ++ e.store16
            (cksum16 e (pre ++ [0, 0] ++ post)
              (UInt16.ofNat (pre.length + 2 + post.length)) init) ++ post)
        (UInt16.ofNat (pre.length + 2 + post.length)) init = 0 := by
  set n := pre.length + 2 + post.length with hn
  set c := cksum16 e (pre ++ [0, 0] ++ post) (UInt16.ofNat n) init with hc
  have hcount : (UInt16.ofNat n).toNat = n := by
    rw [UInt16.toNat_ofNat']
    exact Nat.mod_eq_of_lt (by lia)
  have hlenZero : (pre ++ [0, 0] ++ post).length = n := by
    simp only [List.length_append, List.length_cons, List.length_nil]
    lia
  have hlenStored : (pre ++ e.store16 c ++ post).length = n := by
    simp only [List.length_append, Endian.length_store16]
    lia
  have hzero : cksumWordSum e ((pre ++ [0, 0] ++ post).take n) =
      cksumWordSum e pre + cksumWordSum e post := by
    rw [List.take_of_length_le hlenZero.le, List.append_assoc,
      cksumWordSum_append_of_even e pre _ hpre,
      cksumWordSum_append_of_even e [0, 0] post rfl, cksumWordSum_zero_word]
    lia
  have hstored : cksumWordSum e ((pre ++ e.store16 c ++ post).take n) =
      cksumWordSum e pre + c.toNat + cksumWordSum e post := by
    rw [List.take_of_length_le hlenStored.le, List.append_assoc,
      cksumWordSum_append_of_even e pre _ hpre,
      cksumWordSum_append_of_even e (e.store16 c) post (by simp),
      cksumWordSum_store16]
    lia
  have hbound : cksumWordSum e pre + cksumWordSum e post + c.toNat ≤
      65535 * ((n + 1) / 2) := by
    have hpost := cksumWordSum_le e post
    have hpre' := cksumWordSum_le e pre
    have hc' := c.toNat_lt
    have hdiv : (pre.length + 1) / 2 + 1 + (post.length + 1) / 2 ≤ (n + 1) / 2 := by
      lia
    omega
  have hres := cksum16_isResidue e (pre ++ [0, 0] ++ post) (UInt16.ofNat n) init
    (by rw [hcount, hlenZero]) (by rw [hcount, hzero]; lia)
  have hres' := cksum16_isResidue e (pre ++ e.store16 c ++ post)
    (UInt16.ofNat n) init (by rw [hcount, hlenStored])
    (by rw [hcount, hstored]; lia)
  rw [hcount, hzero] at hres
  rw [hcount, hstored] at hres'
  rw [← hc] at hres
  have hclt := c.toNat_lt
  have hsum : init.toNat + (cksumWordSum e pre + c.toNat + cksumWordSum e post) =
      init.toNat + (cksumWordSum e pre + cksumWordSum e post) +
        (2 ^ 16 - 1 - (65535 - c.toNat)) := by
    have : c.toNat ≤ 65535 := by
      have := c.toNat_lt
      simpa using Nat.le_of_lt_succ this
    lia
  rw [hsum] at hres'
  have hall := hres.add_complement (by decide) hres'
  apply UInt16.toNat_inj.mp
  have := (cksum16 e (pre ++ e.store16 c ++ post) (UInt16.ofNat n) init).toNat_lt
  simp only [UInt16.toNat_zero]
  lia

/-- The checksum reads only the first {lit}`count` bytes of its buffer. -/
theorem cksum16_append_of_le (e : Endian) (addr rest : List UInt8) (count : UInt16)
    (init : UInt32) (hcount : count.toNat ≤ addr.length) :
    cksum16 e (addr ++ rest) count init = cksum16 e addr count init := by
  have hsum : cksum16Sum e (addr ++ rest) count.toNat init = cksum16Sum e addr count.toNat init := by
    apply UInt32.toNat_inj.mp
    rw [toNat_cksum16Sum e _ _ _ (by simp; omega), toNat_cksum16Sum e _ _ _ hcount,
      List.take_append_of_le_length hcount]
  rw [cksum16, cksum16, hsum]

/-!
## Verifying a stored checksum

A sender computes {lit}`cksum16` over a buffer whose checksum field is zero and
stores the result there with a native 16-bit store; a receiver runs
{lit}`cksum16` over the whole buffer with the same {lit}`init` and accepts on zero.
-/

/-- The checksum stored over a zero field at an even offset makes the checksum of the buffer zero. -/
theorem cksum16_write16_cksum16 (e : Endian) {b : List UInt8} {k : Nat}
    (hlen : b.length ≤ 65535) (heven : k % 2 = 0) (hk : k + 2 ≤ b.length)
    (hzero : b.getD k 0 = 0 ∧ b.getD (k + 1) 0 = 0) (init : UInt32)
    (hinit : init.toNat ≤ 0xFFFF) :
    cksum16 e (e.write16 b k (cksum16 e b (UInt16.ofNat b.length) init))
      (UInt16.ofNat b.length) init = 0 := by
  have hb : b = b.take k ++ [0, 0] ++ b.drop (k + 2) := by
    have h := e.write16_zero_of_getD hk hzero.1 hzero.2
    rw [Endian.write16, Endian.store16_zero] at h
    exact h.symm
  have htake : (b.take k).length = k := List.length_take_of_le (by lia)
  have hn : (b.take k).length + 2 + (b.drop (k + 2)).length = b.length := by
    rw [htake, List.length_drop]
    lia
  have h := cksum16_store_cksum16 e (b.take k) (b.drop (k + 2)) init
    (by rw [htake]; exact heven) (by rw [hn]; exact hlen) hinit
  rw [hn, ← hb] at h
  exact h

/--
The verification law, for every {lit}`init` in range and for the chained
{lit}`init` of TCP and UDP, the complement of the checksum of a 12-byte
pseudo header.
-/
theorem cksum16_verification_law (e : Endian) (b : List UInt8) (k : Nat)
    (hlen : b.length ≤ 65535) (heven : k % 2 = 0) (hk : k + 2 ≤ b.length)
    (hzero : b.getD k 0 = 0 ∧ b.getD (k + 1) 0 = 0) :
    (∀ init : UInt32, init.toNat ≤ 0xFFFF →
      cksum16 e (e.write16 b k (cksum16 e b (UInt16.ofNat b.length) init))
        (UInt16.ofNat b.length) init = 0) ∧
    ∀ pseudo : List UInt8,
      cksum16 e (e.write16 b k
          (cksum16 e b (UInt16.ofNat b.length) (~~~(cksum16 e pseudo 12 0)).toUInt32))
        (UInt16.ofNat b.length) (~~~(cksum16 e pseudo 12 0)).toUInt32 = 0 := by
  constructor
  · exact cksum16_write16_cksum16 e hlen heven hk hzero
  · intro pseudo
    -- the chained init is a 16-bit value widened, so it is in range
    have hpsum : (~~~(cksum16 e pseudo 12 0)).toUInt32.toNat ≤ 0xFFFF := by
      have hlt := (~~~(cksum16 e pseudo 12 0)).toNat_lt
      rw [UInt16.toNat_toUInt32]
      lia
    exact cksum16_write16_cksum16 e hlen heven hk hzero _ hpsum

/-- The IPv4 header of {lit}`test_data` in test.h, with its checksum field cleared. -/
def testIpHdrUnsummed : List UInt8 :=
  [0x45, 0x00, 0x00, 0x30, 0x00, 0x80, 0x00, 0x00, 0xff, 0x01, 0x00, 0x00,
   0x7f, 0x00, 0x00, 0x01, 0x7f, 0x00, 0x00, 0x01]

/-- The header's checksum is the 0x4abd test.h stores at offset 10, and storing it verifies. -/
theorem cksum16_verification_law_test_hdr :
    cksum16 .little testIpHdrUnsummed 20 0 = 0x4abd ∧
      testIpHdrUnsummed.length ≤ 65535 ∧ 10 % 2 = 0 ∧ 10 + 2 ≤ testIpHdrUnsummed.length ∧
      (testIpHdrUnsummed.getD 10 0 = 0 ∧ testIpHdrUnsummed.getD 11 0 = 0) ∧
      ((∀ init : UInt32, init.toNat ≤ 0xFFFF →
        cksum16 .little (Endian.little.write16 testIpHdrUnsummed 10
            (cksum16 .little testIpHdrUnsummed 20 init)) 20 init = 0) ∧
      ∀ pseudo : List UInt8,
        cksum16 .little (Endian.little.write16 testIpHdrUnsummed 10
            (cksum16 .little testIpHdrUnsummed 20 (~~~(cksum16 .little pseudo 12 0)).toUInt32))
          20 (~~~(cksum16 .little pseudo 12 0)).toUInt32 = 0) :=
  ⟨by decide, by decide, by decide, by decide, ⟨by decide, by decide⟩,
    cksum16_verification_law .little testIpHdrUnsummed 10 (by decide) (by decide) (by decide)
      ⟨by decide, by decide⟩⟩

/-!
## The checksum of RFC 1071
-/

/--
The 16-bit words RFC 1071 adds, loaded in the host's order: an odd trailing
byte is the first byte of a word whose second byte is zero.
-/
def rfc1071Words (e : Endian) : List UInt8 → List UInt16
  | b0 :: b1 :: rest => e.load16 b0 b1 :: rfc1071Words e rest
  | [b0] => [e.load16 b0 0]
  | [] => []

/-- The complement of the one's complement sum of {lit}`init` and the words of {lit}`b`. -/
def rfc1071Checksum (e : Endian) (b : List UInt8) (init : Nat) : UInt16 :=
  ~~~(UInt16.ofNat (OnesComplement.onesSum 16 (init :: (rfc1071Words e b).map UInt16.toNat)))

/-- The words RFC 1071 adds sum to what {lit}`cksum16` adds, except for an odd byte on a big-endian host. -/
theorem sum_rfc1071Words (e : Endian) :
    ∀ (b : List UInt8), (e = .little ∨ b.length % 2 = 0) →
      ((rfc1071Words e b).map UInt16.toNat).sum = cksumWordSum e b
  | [], _ => rfl
  | [b0], horder => by
      have hle : e = .little := by simpa using horder
      subst hle
      have hb0 := b0.toNat_lt
      simp only [rfc1071Words, Endian.load16, List.map_cons, List.map_nil, List.sum_cons,
        List.sum_nil, cksumWordSum, UInt8.toNat_zero, UInt16.toNat_ofNat']
      lia
  | b0 :: b1 :: rest, horder => by
      have horder' : e = .little ∨ rest.length % 2 = 0 := by
        rcases horder with h | h
        · exact .inl h
        · right
          simp only [List.length_cons] at h
          lia
      have ih := sum_rfc1071Words e rest horder'
      simp only [rfc1071Words, List.map_cons, List.sum_cons, cksumWordSum_cons_cons, ih]

theorem cksumWordSum_take_lt (e : Endian) (b : List UInt8) (count : UInt16) (init : UInt32)
    (hinit : init.toNat ≤ 0xffff) :
    init.toNat + cksumWordSum e (b.take count.toNat) < 2 ^ 32 := by
  have hle := cksumWordSum_le e (b.take count.toNat)
  have hlen : (b.take count.toNat).length ≤ 65535 := by
    have := count.toNat_lt
    simp only [List.length_take]
    lia
  have hwords : (b.take count.toNat).length + 1 ≤ 65536 := by lia
  have hdiv : ((b.take count.toNat).length + 1) / 2 ≤ 32768 := by lia
  have hmul : 65535 * (((b.take count.toNat).length + 1) / 2) ≤ 65535 * 32768 :=
    Nat.mul_le_mul_left 65535 hdiv
  lia

/--
On a little-endian host, or over an even number of bytes, the 32-bit sum of
{lit}`cksum16` never wraps and the checksum is the one RFC 1071 specifies.
-/
theorem cksum16_eq_rfc1071Checksum (e : Endian) (b : List UInt8) (count : UInt16)
    (init : UInt32) (hcount : count.toNat ≤ b.length) (hinit : init.toNat ≤ 0xffff)
    (horder : e = .little ∨ count.toNat % 2 = 0) :
    (cksum16Sum e b count.toNat init).toNat = init.toNat + cksumWordSum e (b.take count.toNat) ∧
      cksum16 e b count init = rfc1071Checksum e (b.take count.toNat) init.toNat := by
  have hbound := cksumWordSum_take_lt e b count init hinit
  have hsum := toNat_cksum16Sum e b count.toNat init hcount
  rw [Nat.mod_eq_of_lt hbound] at hsum
  refine ⟨hsum, ?_⟩
  have hwords : ((rfc1071Words e (b.take count.toNat)).map UInt16.toNat).sum =
      cksumWordSum e (b.take count.toNat) := by
    apply sum_rfc1071Words
    rcases horder with h | h
    · exact .inl h
    · right
      rw [List.length_take, Nat.min_eq_left hcount]
      exact h
  -- the fold and the word-by-word sum are residues of the same sum
  have hspec : OnesComplement.IsResidue 16 (init.toNat + cksumWordSum e (b.take count.toNat))
      (OnesComplement.onesSum 16 (init.toNat :: (rfc1071Words e (b.take count.toNat)).map UInt16.toNat)) := by
    have hlt : ∀ x ∈ init.toNat :: (rfc1071Words e (b.take count.toNat)).map UInt16.toNat,
        x < 2 ^ 16 := by
      intro x hx
      rcases List.mem_cons.mp hx with rfl | hx
      · lia
      · obtain ⟨v, -, rfl⟩ := List.mem_map.mp hx
        exact v.toNat_lt
    have h := OnesComplement.isResidue_onesSum hlt
    rwa [List.sum_cons, hwords] at h
  have hcode := cksum16_isResidue e b count init hcount hbound
  have heq := hcode.unique hspec
  have hlt := hspec.lt
  have hc := (cksum16 e b count init).toNat_lt
  apply UInt16.toNat_inj.mp
  rw [rfc1071Checksum, UInt16.toNat_not, UInt16.toNat_ofNat', Nat.mod_eq_of_lt hlt, ← heq]
  lia

/--
{lit}`cksum16` computes the checksum RFC 1071 specifies: the carry loop of
the source is done within the two rounds the model runs, and on a
little-endian host, or over an even number of bytes, the 32-bit sum does not
wrap and the result is the complement of the one's complement sum of
{lit}`init` and the buffer's words.
-/
theorem cksum16_rfc1071 (e : Endian) (b : List UInt8) (count : UInt16) (init : UInt32)
    (hcount : count.toNat ≤ b.length) (hinit : init.toNat ≤ 0xffff)
    (horder : e = .little ∨ count.toNat % 2 = 0) :
    cksum16Fold 2 (cksum16Sum e b count.toNat init) >>> 16 = 0 ∧
      (cksum16Sum e b count.toNat init).toNat = init.toNat + cksumWordSum e (b.take count.toNat) ∧
      cksum16 e b count init = rfc1071Checksum e (b.take count.toNat) init.toNat :=
  ⟨cksum16Fold_two_shiftRight _, cksum16_eq_rfc1071Checksum e b count init hcount hinit horder⟩

/-- Three bytes on a little-endian host: the odd byte is the low half of its word, as RFC 1071 pads it. -/
theorem cksum16_rfc1071_odd_little :
    (3 : UInt16).toNat ≤ ([0x45, 0x00, 0x1c] : List UInt8).length ∧ (0 : UInt32).toNat ≤ 0xffff ∧
      cksum16 .little [0x45, 0x00, 0x1c] 3 0 =
        rfc1071Checksum .little (([0x45, 0x00, 0x1c] : List UInt8).take (3 : UInt16).toNat)
          (0 : UInt32).toNat :=
  ⟨by decide, by decide, (cksum16_rfc1071 .little _ 3 0 (by decide) (by decide) (.inl rfl)).2.2⟩

/-- On a big-endian host the odd byte 1 is added as the word 1, where RFC 1071 pads it to 0x0100. -/
theorem cksum16_big_endian_odd_byte :
    cksum16 .big [1] 1 0 = 0xfffe ∧ rfc1071Checksum .big [1] 0 = 0xfeff := by
  decide

end ProtocolStack
