import Mathlib
import ProtocolStack.Library.CText
import ProtocolStack.Ether.Frame

/-!
# Hardware addresses as text

{lit}`ether_addr_pton` reads six fields with {lit}`strtol` in base 16, each
followed by a colon but the last; its loop breaks at the first field that
fails, and whether it succeeds is decided from the index the loop stopped at
and the character after the last field read.  {lit}`ether_addr_ntop` prints
the six bytes with {lit}`%02x`.  The NULL checks of the two pointers are not
modelled.

The text {lit}`ether_addr_ntop` prints fills its buffer of
{lit}`ETHER_ADDR_STR_LEN` bytes exactly and reads back as the address, and
{lit}`ether_addr_pton` accepts exactly the strings of six colon-separated
fields that {lit}`strtol` reads whole, each to a byte.
-/

namespace ProtocolStack

open CText

def ETHER_ADDR_STR_LEN : Nat := 18

/--
The loop of {lit}`ether_addr_pton` from {lit}`index` at {lit}`p`, with
{lit}`left` passes to go and {lit}`ep` where the last {lit}`strtol`
stopped: the bytes it stores, the index it stops at, and the string at
{lit}`ep`.
-/
def etherAddrPtonLoop : Nat → Nat → List Char → List Char → List UInt8 × Nat × List Char
  | 0, index, _, ep => ([], index, ep)
  | left + 1, index, p, _ =>
      let val := (strtol p 16).1
      let ep := p.drop (strtol p 16).2
      if (strtol p 16).2 = 0 ∨ val < 0 ∨ val > 0xff ∨
          (index < ETHER_ADDR_LEN - 1 ∧ ep.head? ≠ some ':') then ([], index, ep)
      else
        let r := etherAddrPtonLoop left (index + 1) (ep.drop 1) ep
        (UInt8.ofNat val.toNat :: r.1, r.2)

/-- {lit}`ether_addr_pton`: the bytes it stores, or none where it returns -1. -/
def etherAddrPton (p : List Char) : Option (List UInt8) :=
  -- ep is set by the first pass before anything reads it
  let r := etherAddrPtonLoop ETHER_ADDR_LEN 0 p []
  if r.2.1 ≠ ETHER_ADDR_LEN ∨ r.2.2.head? ≠ none then none else some r.1

/-- The text of {lit}`"%02x:%02x:%02x:%02x:%02x:%02x"` over the six bytes. -/
def etherAddrText (n : EtherAddr) : List Char :=
  List.intercalate [':'] (n.toList.map fun b => formatX0 2 b.toNat)

def etherAddrNtop (n : EtherAddr) (size : Nat) : List Char :=
  snprintf size (etherAddrText n)

/-- A field that {lit}`strtol` reads whole in base 16, to the byte {lit}`b`. -/
def EtherAddrField (f : List Char) (b : UInt8) : Prop :=
  0 < f.length ∧ strtol f 16 = ((b.toNat : Int), f.length)

/-! ## The loop, field by field -/

theorem strtol_consumed_le (s : List Char) (base : Nat) : (strtol s base).2 ≤ s.length := by
  rcases Nat.eq_zero_or_pos (strtol s base).2 with h0 | hpos
  · omega
  · obtain ⟨ws, sgn, pre, ds, rest, -, hs, hn, -⟩ := strtol_subject (Prod.mk.eta.symm) hpos
    have hlen := congrArg List.length hs
    simp only [List.length_append] at hlen hn
    omega

/-- A pass that reads a whole field, followed by a colon unless it is the last. -/
theorem etherAddrPtonLoop_field {f : List Char} {b : UInt8} (hf : EtherAddrField f b)
    (left index : Nat) (rest : List Char) (hrest : EndsNumber rest)
    (hsep : index < ETHER_ADDR_LEN - 1 → rest.head? = some ':') (ep : List Char) :
    etherAddrPtonLoop (left + 1) index (f ++ rest) ep =
      ((b :: (etherAddrPtonLoop left (index + 1) (rest.drop 1) rest).1),
        (etherAddrPtonLoop left (index + 1) (rest.drop 1) rest).2) := by
  obtain ⟨hpos, hstr⟩ := hf
  have hread : strtol (f ++ rest) 16 = ((b.toNat : Int), f.length) := by
    have h := strtol_take_append hstr hpos hrest
    rwa [List.take_length] at h
  have hep : (f ++ rest).drop f.length = rest := List.drop_left
  have hb := b.toNat_lt
  have hcont : ¬(f.length = 0 ∨ (b.toNat : Int) < 0 ∨ (b.toNat : Int) > 0xff ∨
      (index < ETHER_ADDR_LEN - 1 ∧ rest.head? ≠ some ':')) := by
    rintro (h | h | h | ⟨hidx, hne⟩)
    · omega
    · omega
    · omega
    · exact hne (hsep hidx)
  rw [etherAddrPtonLoop]
  simp only [hread, hep]
  rw [if_neg hcont]
  simp

/-- What a run of the loop that ends at index {lit}`ETHER_ADDR_LEN` at the end of the string has read. -/
theorem etherAddrPtonLoop_fields :
    ∀ (left index : Nat) (p ep0 : List Char) (bs : List UInt8) (ep : List Char),
      index + left = ETHER_ADDR_LEN → 0 < left →
      etherAddrPtonLoop left index p ep0 = (bs, ETHER_ADDR_LEN, ep) → ep.head? = none →
      ∃ fields, fields.length = left ∧ p = List.intercalate [':'] fields ∧
        List.Forall₂ EtherAddrField fields bs
  | 0, _, _, _, _, _, _, hpos, _, _ => absurd hpos (Nat.lt_irrefl 0)
  | left + 1, index, p, ep0, bs, ep, hidx, _, hloop, hend => by
      have hle := strtol_consumed_le p 16
      rw [etherAddrPtonLoop] at hloop
      dsimp only at hloop
      split_ifs at hloop with hbreak
      · -- a pass that breaks leaves the index short of ETHER_ADDR_LEN
        cases hloop
        omega
      · obtain ⟨hk, hlo, hhi, hsep⟩ : (strtol p 16).2 ≠ 0 ∧ ¬(strtol p 16).1 < 0 ∧
            ¬(strtol p 16).1 > 0xff ∧
            ¬(index < ETHER_ADDR_LEN - 1 ∧ (p.drop (strtol p 16).2).head? ≠ some ':') := by
          simpa only [not_or] using hbreak
        -- the field is what this pass read, and strtol reads it alone the same way
        have hfield : EtherAddrField (p.take (strtol p 16).2) (UInt8.ofNat (strtol p 16).1.toNat) := by
          have h := strtol_take_append (Prod.mk.eta.symm) (Nat.pos_of_ne_zero hk) endsNumber_nil
          rw [List.append_nil] at h
          have hlen : (p.take (strtol p 16).2).length = (strtol p 16).2 := by
            rw [List.length_take]
            omega
          refine ⟨by omega, ?_⟩
          rw [h, hlen]
          congr 1
          have hval : ((strtol p 16).1.toNat : Int) = (strtol p 16).1 := Int.toNat_of_nonneg (by omega)
          rw [UInt8.toNat_ofNat', Nat.mod_eq_of_lt (by omega), hval]
        obtain ⟨hbs, hrun⟩ := Prod.mk.inj hloop
        cases left with
        | zero =>
            -- the last field: the string ends after it
            simp only [etherAddrPtonLoop] at hrun
            obtain ⟨-, rfl⟩ := Prod.mk.inj hrun
            have hdrop : p.drop (strtol p 16).2 = [] := by
              cases hd : p.drop (strtol p 16).2 with
              | nil => rfl
              | cons c cs => rw [hd] at hend; cases hend
            have htake : p.take (strtol p 16).2 = p :=
              List.take_of_length_le (List.drop_eq_nil_iff.mp hdrop)
            refine ⟨[p.take (strtol p 16).2], rfl, by rw [List.intercalate_singleton, htake], ?_⟩
            rw [← hbs]
            exact List.Forall₂.cons hfield List.Forall₂.nil
        | succ left =>
            have hcolon : (p.drop (strtol p 16).2).head? = some ':' := by
              by_contra hne
              exact hsep ⟨by omega, hne⟩
            obtain ⟨q, hq⟩ : ∃ q, p.drop (strtol p 16).2 = ':' :: q := by
              cases hd : p.drop (strtol p 16).2 with
              | nil => rw [hd] at hcolon; cases hcolon
              | cons c cs =>
                  rw [hd] at hcolon
                  obtain rfl : c = ':' := by simpa using hcolon
                  exact ⟨cs, rfl⟩
            have hsplit : p = p.take (strtol p 16).2 ++ ':' :: q := by
              rw [← hq, List.take_append_drop]
            rw [hq, List.drop_one, List.tail_cons] at hrun hbs
            obtain ⟨fields, hlen, hrest, hforall⟩ :=
              etherAddrPtonLoop_fields (left + 1) (index + 1) q _ _ ep (by omega) (by omega)
                (Prod.ext rfl hrun) hend
            have hne : fields ≠ [] := List.ne_nil_of_length_pos (by omega)
            obtain ⟨g, gs, rfl⟩ := List.exists_cons_of_ne_nil hne
            refine ⟨p.take (strtol p 16).2 :: g :: gs, by simp [hlen], ?_, ?_⟩
            · rw [List.intercalate_cons_cons, ← hrest, List.append_assoc, List.singleton_append]
              exact hsplit
            · rw [← hbs]
              exact List.Forall₂.cons hfield hforall

/-- Six fields that {lit}`strtol` reads whole, with colons between them, run the loop to the end. -/
theorem etherAddrPtonLoop_intercalate :
    ∀ {fields : List (List Char)} {bs : List UInt8}, List.Forall₂ EtherAddrField fields bs →
      ∀ (index : Nat) (ep0 : List Char), fields ≠ [] → index + fields.length = ETHER_ADDR_LEN →
        etherAddrPtonLoop fields.length index (List.intercalate [':'] fields) ep0 =
          (bs, ETHER_ADDR_LEN, [])
  | _, _, .nil, _, _, hne, _ => absurd rfl hne
  | [f], [b], .cons hf .nil, index, ep0, _, hidx => by
      have h := etherAddrPtonLoop_field hf 0 index [] endsNumber_nil
        (fun hlt => by simp only [List.length_cons, List.length_nil] at hidx; omega) ep0
      rw [List.append_nil] at h
      simp only [List.length_cons, List.length_nil, Nat.zero_add, List.intercalate_singleton, h]
      simp only [etherAddrPtonLoop, List.length_singleton] at hidx ⊢
      rw [show index + 1 = ETHER_ADDR_LEN by omega]
  | f :: g :: gs, b :: bs, .cons hf hrest, index, ep0, _, hidx => by
      have ih := etherAddrPtonLoop_intercalate hrest (index + 1) (':' :: List.intercalate [':'] (g :: gs))
        (List.cons_ne_nil g gs) (by simp only [List.length_cons] at hidx ⊢; omega)
      have h := etherAddrPtonLoop_field hf (g :: gs).length index
        (':' :: List.intercalate [':'] (g :: gs)) (endsNumber_cons (by decide) _) (fun _ => rfl) ep0
      rw [List.length_cons, List.intercalate_cons_cons, List.append_assoc, List.singleton_append, h]
      simp only [List.drop_one, List.tail_cons, ih]

/-! ## The round trip -/

theorem etherAddrField_formatX0 (b : UInt8) : EtherAddrField (formatX0 2 b.toNat) b := by
  have hb := b.toNat_lt
  have hlen : (formatX0 2 b.toNat).length = 2 := length_formatX0 (by decide) (by omega)
  have h := strtol_formatX0_append 2 b.toNat endsNumber_nil (by unfold LONG_MAX; omega)
  rw [List.append_nil] at h
  exact ⟨by omega, h⟩

theorem length_intercalate_formatX0 :
    ∀ (bs : List UInt8), bs ≠ [] →
      (List.intercalate [':'] (bs.map fun b => formatX0 2 b.toNat)).length = 3 * bs.length - 1
  | [], hne => absurd rfl hne
  | [b], _ => by
      simp [length_formatX0 (show 0 < 2 by decide) (show b.toNat < 16 ^ 2 by have := b.toNat_lt; omega)]
  | b :: c :: bs, _ => by
      have ih : (List.intercalate [':'] (formatX0 2 c.toNat :: bs.map fun b => formatX0 2 b.toNat)).length =
          3 * (bs.length + 1) - 1 :=
        length_intercalate_formatX0 (c :: bs) (List.cons_ne_nil c bs)
      have hb : (formatX0 2 b.toNat).length = 2 :=
        length_formatX0 (by decide) (by have := b.toNat_lt; omega)
      rw [List.map_cons, List.map_cons, List.intercalate_cons_cons, List.length_append,
        List.length_append, ih, hb]
      simp only [List.length_cons, List.length_nil]
      omega

theorem length_etherAddrText (n : EtherAddr) : (etherAddrText n).length = ETHER_ADDR_STR_LEN - 1 := by
  have hne : n.toList ≠ [] := by
    intro h
    have hlen : n.toList.length = ETHER_ADDR_LEN := Vector.length_toList
    rw [h] at hlen
    exact absurd hlen (by decide)
  rw [etherAddrText, length_intercalate_formatX0 _ hne, Vector.length_toList]
  rfl

theorem etherAddrPton_iff (s : List Char) (bs : List UInt8) :
    etherAddrPton s = some bs ↔
      ∃ fields, fields.length = ETHER_ADDR_LEN ∧ s = List.intercalate [':'] fields ∧
        List.Forall₂ EtherAddrField fields bs := by
  constructor
  · intro h
    unfold etherAddrPton at h
    dsimp only at h
    split_ifs at h with hfail
    cases h
    obtain ⟨hidx, hend⟩ : (etherAddrPtonLoop ETHER_ADDR_LEN 0 s []).2.1 = ETHER_ADDR_LEN ∧
        (etherAddrPtonLoop ETHER_ADDR_LEN 0 s []).2.2.head? = none := by
      simpa only [not_or, not_not] using hfail
    exact etherAddrPtonLoop_fields ETHER_ADDR_LEN 0 s [] _ _ (by rfl) (by decide)
      (Prod.ext rfl (Prod.ext hidx rfl)) hend
  · rintro ⟨fields, hlen, rfl, hforall⟩
    have hne : fields ≠ [] := fun h => by simp [h, ETHER_ADDR_LEN] at hlen
    have hloop := etherAddrPtonLoop_intercalate hforall 0 [] hne (by omega)
    rw [hlen] at hloop
    simp [etherAddrPton, hloop]

theorem ether_addr_text_round_trip (a : EtherAddr) (s : List Char) (bs : List UInt8) :
    etherAddrNtop a ETHER_ADDR_STR_LEN = etherAddrText a ∧
      (etherAddrText a).length = ETHER_ADDR_STR_LEN - 1 ∧
      etherAddrPton (etherAddrNtop a ETHER_ADDR_STR_LEN) = some a.toList ∧
      (etherAddrPton s = some bs ↔
        ∃ fields, fields.length = ETHER_ADDR_LEN ∧ s = List.intercalate [':'] fields ∧
          List.Forall₂ EtherAddrField fields bs) := by
  have hntop : etherAddrNtop a ETHER_ADDR_STR_LEN = etherAddrText a :=
    snprintf_of_lt (by rw [length_etherAddrText]; decide)
  refine ⟨hntop, length_etherAddrText a, ?_, etherAddrPton_iff s bs⟩
  rw [hntop, etherAddrPton_iff]
  refine ⟨a.toList.map fun b : UInt8 => formatX0 2 b.toNat, by simp, rfl, ?_⟩
  rw [List.forall₂_map_left_iff]
  exact List.forall₂_same.mpr fun b _ => etherAddrField_formatX0 b

end ProtocolStack
