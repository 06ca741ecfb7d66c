import Mathlib
import ProtocolStack.Tcp.Output

/-!
# UDP datagrams

{lit}`udp_output` lays out the 8-byte header with the payload behind it and
stores a checksum over the pseudo header, the header and the payload;
{lit}`udp_input` checks the length against the header's and the checksum,
and builds the entry it queues.  The pseudo header of {lit}`udp.c` has the
layout of the one {lit}`tcp.c` declares.
-/

namespace ProtocolStack

open ByteOrder

structure UdpHdr where
  src : UInt16
  dst : UInt16
  len : UInt16
  sum : UInt16
  deriving DecidableEq, Repr

def UdpHdr.bytes (e : Endian) (h : UdpHdr) : List UInt8 :=
  e.store16 h.src ++ e.store16 h.dst ++ e.store16 h.len ++ e.store16 h.sum

def UdpHdr.read (e : Endian) (data : List UInt8) : UdpHdr where
  src := e.read16 data 0
  dst := e.read16 data 2
  len := e.read16 data 4
  sum := e.read16 data 6

/-- A {lit}`udp_queue_entry`: the sender, the payload length and the payload. -/
structure UdpQueueEntry where
  foreign : IpEndpoint
  len : UInt16
  data : List UInt8
  deriving DecidableEq, Repr

/-- The seed of the checksum over a datagram: the complemented sum of its pseudo header. -/
def udpPseudoSum (e : Endian) (src dst : IpAddr) (len : UInt16) : UInt16 :=
  ~~~(cksum16 e (pseudoHdrBytes e src dst IP_PROTOCOL_UDP (hton16 e len)) 12 0)

/-- {lit}`udp_output`: the datagram it hands to {lit}`ip_output`, or none where the payload is too long. -/
def udpOutput (e : Endian) (src dst : IpEndpoint) (data : List UInt8) : Option (List UInt8) :=
  if data.length > IP_PAYLOAD_SIZE_MAX - 8 then none
  else
    let udpLen : UInt16 := UInt16.ofNat (8 + data.length)
    let psum := udpPseudoSum e src.addr dst.addr udpLen
    let hdr : UdpHdr := { src := src.port, dst := dst.port, len := hton16 e udpLen, sum := 0 }
    let sum := cksum16 e (hdr.bytes e ++ data) udpLen psum.toUInt32
    some (({ hdr with sum := sum } : UdpHdr).bytes e ++ data)

/--
The checks of {lit}`udp_input` on the {lit}`len` bytes at {lit}`data` from
{lit}`src` to {lit}`dst`: the destination port and the entry it queues, or
none where it drops the datagram.
-/
def udpInputEntry (e : Endian) (data : List UInt8) (len : Nat) (src dst : IpAddr) :
    Option (UInt16 × UdpQueueEntry) :=
  if len < 8 then none
  else
    let hdr := UdpHdr.read e data
    if len ≠ (ntoh16 e hdr.len).toNat then none
    else if cksum16 e data (UInt16.ofNat len)
        (udpPseudoSum e src dst (UInt16.ofNat len)).toUInt32 ≠ 0 then none
    else
      some (hdr.dst,
        { foreign := ⟨src, hdr.src⟩, len := UInt16.ofNat (len - 8),
          data := (data.drop 8).take (len - 8) })

@[simp] theorem UdpHdr.length_bytes (e : Endian) (h : UdpHdr) : (h.bytes e).length = 8 := by
  simp [UdpHdr.bytes]

theorem UdpHdr.read_bytes_append (e : Endian) (h : UdpHdr) (rest : List UInt8) :
    UdpHdr.read e (h.bytes e ++ rest) = h := by
  simp only [UdpHdr.read, UdpHdr.bytes, List.append_assoc]
  congr 1 <;> simp [Endian.read16_append_of_le]

/-- With its checksum field computed over the datagram with a zero field, the datagram checks to zero. -/
theorem cksum16_udpHdr_sum (e : Endian) (h : UdpHdr) (data : List UInt8) (init : UInt32)
    (hinit : init.toNat ≤ 65535) (hlen : 8 + data.length ≤ 65535) :
    cksum16 e (UdpHdr.bytes e { h with
        sum := cksum16 e (UdpHdr.bytes e { h with sum := 0 } ++ data)
          (UInt16.ofNat (8 + data.length)) init } ++ data)
      (UInt16.ofNat (8 + data.length)) init = 0 := by
  have hpre : (e.store16 h.src ++ e.store16 h.dst ++ e.store16 h.len).length = 6 := by simp
  have hn : 8 + data.length =
      (e.store16 h.src ++ e.store16 h.dst ++ e.store16 h.len).length + 2 + data.length := by
    rw [hpre]
  have hlaw := cksum16_store_cksum16 e (e.store16 h.src ++ e.store16 h.dst ++ e.store16 h.len)
    data init (by rw [hpre]) (by omega) hinit
  rw [← hn, ← Endian.store16_zero e] at hlaw
  simpa only [UdpHdr.bytes, List.append_assoc] using hlaw

/--
The datagram {lit}`udp_output` hands to {lit}`ip_output` passes the checks
of {lit}`udp_input` with the same addresses, and yields the entry of its
sender and payload for the destination port.
-/
theorem udpInputEntry_udpOutput (e : Endian) (src dst : IpEndpoint) (data : List UInt8)
    (hlen : data.length ≤ IP_PAYLOAD_SIZE_MAX - 8) :
    ∃ bytes, udpOutput e src dst data = some bytes ∧ bytes.length = 8 + data.length ∧
      udpInputEntry e bytes bytes.length src.addr dst.addr =
        some (dst.port, { foreign := src, len := UInt16.ofNat data.length, data := data }) := by
  have hmax : IP_PAYLOAD_SIZE_MAX - 8 = 65507 := rfl
  -- the header udp_output lays out, its checksum field zero
  obtain ⟨udpLen, hudpLen⟩ : ∃ udpLen : UInt16, udpLen = UInt16.ofNat (8 + data.length) :=
    ⟨_, rfl⟩
  have hudpLenNat : udpLen.toNat = 8 + data.length := by
    rw [hudpLen, UInt16.toNat_ofNat']
    omega
  obtain ⟨hdr, hhdr⟩ : ∃ hdr : UdpHdr,
      hdr = { src := src.port, dst := dst.port, len := hton16 e udpLen, sum := 0 } := ⟨_, rfl⟩
  obtain ⟨sum, hsum⟩ : ∃ sum : UInt16, sum = cksum16 e (UdpHdr.bytes e hdr ++ data) udpLen
      (udpPseudoSum e src.addr dst.addr udpLen).toUInt32 := ⟨_, rfl⟩
  have hout : udpOutput e src dst data = some (UdpHdr.bytes e { hdr with sum := sum } ++ data) := by
    rw [udpOutput, if_neg (by omega), hsum, hhdr, hudpLen]
  have hlength : (UdpHdr.bytes e { hdr with sum := sum } ++ data).length = 8 + data.length := by
    simp
  refine ⟨_, hout, hlength, ?_⟩
  -- the checks of udp_input pass
  have hcksum : cksum16 e (UdpHdr.bytes e { hdr with sum := sum } ++ data) udpLen
      (udpPseudoSum e src.addr dst.addr udpLen).toUInt32 = 0 := by
    have hsum0 : hdr = { hdr with sum := 0 } := by rw [hhdr]
    rw [hsum, hudpLen, hsum0]
    exact cksum16_udpHdr_sum e hdr data _
      (by rw [UInt16.toNat_toUInt32]; exact Nat.le_of_lt_succ (UInt16.toNat_lt _)) (by omega)
  have hread : UdpHdr.read e (UdpHdr.bytes e { hdr with sum := sum } ++ data) =
      { hdr with sum := sum } :=
    UdpHdr.read_bytes_append e _ data
  have hlenField : (ntoh16 e ({ hdr with sum := sum } : UdpHdr).len).toNat = 8 + data.length := by
    rw [hhdr]
    simpa using hudpLenNat
  have hdrop : ((UdpHdr.bytes e { hdr with sum := sum } ++ data).drop 8).take data.length = data := by
    rw [List.drop_left' (UdpHdr.length_bytes e _), List.take_length]
  unfold udpInputEntry
  rw [hlength, hread, if_neg (by omega), if_neg (by rw [hlenField]; exact not_not.mpr rfl),
    ← hudpLen, if_neg (not_not.mpr hcksum), Nat.add_sub_cancel_left, hdrop]
  subst hhdr
  rfl

end ProtocolStack
