import Mathlib
import ProtocolStack.Library.CText
import ProtocolStack.Util
import ProtocolStack.Ip.Addr

/-!
# Addresses and endpoints as text

{lit}`ip_addr_pton` reads four decimal fields with {lit}`strtol` into the
bytes of an address in memory order; {lit}`ip_addr_ntop` prints those bytes
with {lit}`%d`.  {lit}`ip_endpoint_pton` splits at the last colon, reads the
address before it and the port after it; {lit}`ip_endpoint_ntop` appends
{lit}`:port` to the address.  The buffers of {lit}`IP_ADDR_STR_LEN` and
{lit}`IP_ENDPOINT_STR_LEN` bytes hold the longest texts exactly, so nothing
printed is cut, and every address and every endpoint with a nonzero port
reads back as it was printed.

{lit}`ip_endpoint_pton` copies the text before the colon into a buffer of
{lit}`IP_ADDR_STR_LEN` bytes; the model reads that text whole, as the
source does while it is shorter than the buffer.
-/

namespace ProtocolStack

open ByteOrder CText

def IP_ADDR_STR_LEN : Nat := 16

def IP_ENDPOINT_STR_LEN : Nat := 22

def UINT16_MAX : Int := 65535

/--
The loop of {lit}`ip_addr_pton` over the {lit}`left` fields still to read,
from {lit}`sp`: the bytes it stores, or none where it returns -1.
-/
def ipAddrPtonLoop : Nat → List Char → Option (List UInt8)
  | 0, _ => some []
  | left + 1, sp =>
      let ret := (strtol sp 10).1
      let ep := (strtol sp 10).2
      if ret < 0 ∨ ret > 255 then none
      else if ep = 0 then none
      -- the last field (idx 3) ends the string, the others end at a dot
      else if (left = 0 ∧ sp[ep]? ≠ none) ∨ (left ≠ 0 ∧ sp[ep]? ≠ some '.') then none
      else (ipAddrPtonLoop left (sp.drop (ep + 1))).map (UInt8.ofNat ret.toNat :: ·)

/-- {lit}`ip_addr_pton`: the address whose memory image is the four bytes read, or none where it returns -1. -/
def ipAddrPton (e : Endian) (p : List Char) : Option IpAddr :=
  match ipAddrPtonLoop 4 p with
  | some [b0, b1, b2, b3] => some (e.load32 b0 b1 b2 b3)
  | _ => none

/-- The text of {lit}`"%d.%d.%d.%d"` over the bytes of {lit}`n` in memory order. -/
def ipAddrText (e : Endian) (n : IpAddr) : List Char :=
  let u8 := e.store32 n
  formatD (u8.getD 0 0).toNat ++ '.' :: (formatD (u8.getD 1 0).toNat ++ '.' ::
    (formatD (u8.getD 2 0).toNat ++ '.' :: formatD (u8.getD 3 0).toNat))

def ipAddrNtop (e : Endian) (n : IpAddr) (size : Nat) : List Char :=
  snprintf size (ipAddrText e n)

/-- {lit}`ip_endpoint_pton`: the endpoint read, or none where it returns -1. -/
def ipEndpointPton (e : Endian) (p : List Char) : Option IpEndpoint :=
  match strrchr p ':' with
  | none => none
  | some sep =>
      match ipAddrPton e (p.take sep) with
      | none => none
      | some addr =>
          let port := (strtol (p.drop (sep + 1)) 10).1
          if port ≤ 0 ∨ port > UINT16_MAX then none
          else some { addr := addr, port := hton16 e (UInt16.ofNat port.toNat) }

/-- {lit}`ip_endpoint_ntop`: the address, then {lit}`":%d"` of the port in what is left of the buffer. -/
def ipEndpointNtop (e : Endian) (n : IpEndpoint) (size : Nat) : List Char :=
  let p := ipAddrNtop e n.addr size
  p ++ snprintf (size - p.length) (':' :: formatD (ntoh16 e n.port).toNat)

/-! ## Reading an address back -/

theorem formatD_ne_nil (n : Nat) : formatD n ≠ [] :=
  Nat.toDigits_ne_nil

theorem colon_not_mem_formatD (n : Nat) : ':' ∉ formatD n := by
  have hdigits : ∀ c ∈ Nat.toDigits 10 n, isDigitOf 10 c = true :=
    isDigitOf_of_mem_toDigits (by decide) (by decide) n
  intro h
  exact absurd (hdigits ':' h) (by decide)

/-- One field of {lit}`ip_addr_pton`: a printed byte, then a dot or, for the last field, the end. -/
theorem ipAddrPtonLoop_field (left : Nat) (b : UInt8) (rest : List Char)
    (hrest : (left = 0 ∧ rest = []) ∨ (left ≠ 0 ∧ rest.head? = some '.')) :
    ipAddrPtonLoop (left + 1) (formatD b.toNat ++ rest) =
      (ipAddrPtonLoop left (rest.drop 1)).map (b :: ·) := by
  have hends : EndsNumber rest := by
    rcases hrest with ⟨-, rfl⟩ | ⟨-, h⟩
    · exact endsNumber_nil
    · intro c hc
      rw [h] at hc
      cases hc
      decide
  have hb := b.toNat_lt
  have hstr := strtol_formatD_append b.toNat hends (by unfold LONG_MAX; omega)
  have hlen : 0 < (formatD b.toNat).length := List.length_pos_of_ne_nil (formatD_ne_nil _)
  have hat : (formatD b.toNat ++ rest)[(formatD b.toNat).length]? = rest.head? := by
    rw [List.getElem?_append_right le_rfl, Nat.sub_self, List.head?_eq_getElem?]
  have hdrop : (formatD b.toNat ++ rest).drop ((formatD b.toNat).length + 1) = rest.drop 1 := by
    simp [List.drop_append]
  have hsep : ¬((left = 0 ∧ rest.head? ≠ none) ∨ (left ≠ 0 ∧ rest.head? ≠ some '.')) := by
    rcases hrest with ⟨h0, rfl⟩ | ⟨h0, h⟩ <;> simp_all
  rw [ipAddrPtonLoop]
  simp only [hstr, hat, hdrop]
  rw [if_neg (by omega), if_neg (by omega), if_neg hsep]
  simp

theorem ipAddrPtonLoop_ipAddrText (e : Endian) (n : IpAddr) :
    ipAddrPtonLoop 4 (ipAddrText e n) = some (e.store32 n) := by
  obtain ⟨b0, b1, b2, b3, h⟩ := Endian.exists_store32_eq e n
  have htext : ipAddrText e n =
      formatD b0.toNat ++ '.' :: (formatD b1.toNat ++ '.' :: (formatD b2.toNat ++ '.' ::
        (formatD b3.toNat ++ []))) := by
    simp [ipAddrText, h]
  rw [htext, h, ipAddrPtonLoop_field 3 b0 _ (.inr ⟨by decide, rfl⟩), List.drop_one, List.tail_cons,
    ipAddrPtonLoop_field 2 b1 _ (.inr ⟨by decide, rfl⟩), List.drop_one, List.tail_cons,
    ipAddrPtonLoop_field 1 b2 _ (.inr ⟨by decide, rfl⟩), List.drop_one, List.tail_cons,
    ipAddrPtonLoop_field 0 b3 [] (.inl ⟨rfl, rfl⟩)]
  rfl

theorem ipAddrPton_ipAddrText (e : Endian) (n : IpAddr) : ipAddrPton e (ipAddrText e n) = some n := by
  have hload := Endian.load32_store32 e n
  obtain ⟨b0, b1, b2, b3, h⟩ := Endian.exists_store32_eq e n
  rw [h] at hload
  rw [ipAddrPton, ipAddrPtonLoop_ipAddrText, h]
  exact congrArg some hload

/-- At most three digits a byte and three dots: the longest text is {lit}`255.255.255.255`. -/
theorem length_ipAddrText_le (e : Endian) (n : IpAddr) : (ipAddrText e n).length ≤ 15 := by
  have hbyte : ∀ b : UInt8, (formatD b.toNat).length ≤ 3 := fun b =>
    length_formatD_le (by decide) (by have := b.toNat_lt; omega)
  have h0 := hbyte ((e.store32 n).getD 0 0)
  have h1 := hbyte ((e.store32 n).getD 1 0)
  have h2 := hbyte ((e.store32 n).getD 2 0)
  have h3 := hbyte ((e.store32 n).getD 3 0)
  simp only [ipAddrText, List.length_append, List.length_cons]
  omega

theorem ipAddrNtop_eq (e : Endian) (n : IpAddr) {size : Nat} (hsize : 15 < size) :
    ipAddrNtop e n size = ipAddrText e n :=
  snprintf_of_lt (by have := length_ipAddrText_le e n; omega)

theorem ntoh16_eq_zero_iff (e : Endian) (n : UInt16) : ntoh16 e n = 0 ↔ n = 0 := by
  constructor
  · intro h
    rw [← hton16_ntoh16 e n, h]
    cases e <;> decide
  · rintro rfl
    cases e <;> decide

theorem ip_endpoint_text_round_trip (e : Endian) (a : IpAddr) (ep : IpEndpoint) :
    ipAddrPton e (ipAddrNtop e a IP_ADDR_STR_LEN) = some a ∧
      ipEndpointNtop e ep IP_ENDPOINT_STR_LEN =
        ipAddrText e ep.addr ++ ':' :: formatD (ntoh16 e ep.port).toNat ∧
      ipEndpointPton e (ipEndpointNtop e ep IP_ENDPOINT_STR_LEN) =
        if ep.port = 0 then none else some ep := by
  have haddr : ipAddrNtop e ep.addr IP_ENDPOINT_STR_LEN = ipAddrText e ep.addr :=
    ipAddrNtop_eq e ep.addr (by decide)
  have hport : (formatD (ntoh16 e ep.port).toNat).length ≤ 5 :=
    length_formatD_le (by decide) (by have := (ntoh16 e ep.port).toNat_lt; omega)
  -- the port fits in what the address leaves of the buffer
  have htext : ipEndpointNtop e ep IP_ENDPOINT_STR_LEN =
      ipAddrText e ep.addr ++ ':' :: formatD (ntoh16 e ep.port).toNat := by
    have hlen := length_ipAddrText_le e ep.addr
    rw [ipEndpointNtop, haddr, snprintf_of_lt (by simp only [List.length_cons, IP_ENDPOINT_STR_LEN]; omega)]
  refine ⟨by rw [ipAddrNtop_eq e a (by decide), ipAddrPton_ipAddrText], htext, ?_⟩
  have hsep := strrchr_append_cons (colon_not_mem_formatD (ntoh16 e ep.port).toNat)
    (ipAddrText e ep.addr)
  have hstr := strtol_formatD_append (ntoh16 e ep.port).toNat endsNumber_nil
    (by have := (ntoh16 e ep.port).toNat_lt; unfold LONG_MAX; omega)
  rw [List.append_nil] at hstr
  have hdrop : (ipAddrText e ep.addr ++ ':' :: formatD (ntoh16 e ep.port).toNat).drop
      ((ipAddrText e ep.addr).length + 1) = formatD (ntoh16 e ep.port).toNat := by
    simp [List.drop_append]
  rw [htext, ipEndpointPton, hsep]
  dsimp only
  rw [List.take_left' rfl, ipAddrPton_ipAddrText, hdrop, hstr]
  dsimp only
  have hlt := (ntoh16 e ep.port).toNat_lt
  by_cases h0 : ep.port = 0
  · have hzero : (ntoh16 e ep.port).toNat = 0 := by
      rw [(ntoh16_eq_zero_iff e ep.port).mpr h0]
      rfl
    rw [if_pos (by left; omega), if_pos h0]
  · have hne : (ntoh16 e ep.port).toNat ≠ 0 := fun h =>
      h0 ((ntoh16_eq_zero_iff e ep.port).mp (UInt16.toNat_inj.mp (by rw [h]; rfl)))
    rw [if_neg (by unfold UINT16_MAX; omega), if_neg h0]
    simp

end ProtocolStack
