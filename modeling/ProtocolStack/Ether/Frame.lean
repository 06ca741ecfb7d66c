import Mathlib
import ProtocolStack.Net.Core
import ProtocolStack.Ip.Datagram

/-!
# Ethernet frames

{lit}`ether_transmit_helper` lays out the 14-byte header in a zeroed buffer,
copies the payload behind it and pads the payload to 46 bytes;
{lit}`ether_input_helper` checks the length and the destination of a frame
and passes everything after the header, padding included, to
{lit}`net_input_handler`.  The layers above see the padded length:
{lit}`ip_input` goes by the total length in its header, which makes the
padding invisible for a datagram whose lengths are consistent, and only for
such a datagram.
-/

namespace ProtocolStack

open ByteOrder

def ETHER_ADDR_LEN : Nat := 6

def ETHER_HDR_SIZE : Nat := 14

def ETHER_FRAME_SIZE_MIN : Nat := 60

def ETHER_FRAME_SIZE_MAX : Nat := 1514

def ETHER_PAYLOAD_SIZE_MIN : Nat := ETHER_FRAME_SIZE_MIN - ETHER_HDR_SIZE

def ETHER_PAYLOAD_SIZE_MAX : Nat := ETHER_FRAME_SIZE_MAX - ETHER_HDR_SIZE

def ETHER_TYPE_IP : UInt16 := 0x0800

def ETHER_TYPE_ARP : UInt16 := 0x0806

abbrev EtherAddr := Vector UInt8 ETHER_ADDR_LEN

def ETHER_ADDR_ANY : EtherAddr := Vector.replicate ETHER_ADDR_LEN 0x00

def ETHER_ADDR_BROADCAST : EtherAddr := Vector.replicate ETHER_ADDR_LEN 0xff

/-- The first bytes of a device address, the ones the Ethernet code reads and writes. -/
def etherAddrOf (a : Vector UInt8 NET_DEVICE_ADDR_LEN) : EtherAddr :=
  Vector.ofFn fun i => a.get (i.castLE (by decide))

def EtherAddr.read (data : List UInt8) (k : Nat) : EtherAddr :=
  Vector.ofFn fun i => data.getD (k + i) 0

structure EtherHdr where
  dst : EtherAddr
  src : EtherAddr
  type : UInt16
  deriving DecidableEq, Repr

def EtherHdr.bytes (e : Endian) (h : EtherHdr) : List UInt8 :=
  h.dst.toList ++ h.src.toList ++ e.store16 h.type

def EtherHdr.read (e : Endian) (data : List UInt8) : EtherHdr where
  dst := EtherAddr.read data 0
  src := EtherAddr.read data ETHER_ADDR_LEN
  type := e.read16 data 12

/-- {lit}`ether_transmit_helper`: the frame it hands to the driver's callback. -/
def etherTransmitHelper (e : Endian) (dev : NetDevice) (type : UInt16) (data : List UInt8)
    (dst : EtherAddr) : List UInt8 :=
  let pad := if data.length < ETHER_PAYLOAD_SIZE_MIN then ETHER_PAYLOAD_SIZE_MIN - data.length else 0
  EtherHdr.bytes e { dst := dst, src := etherAddrOf dev.addr, type := hton16 e type } ++ data ++
    List.replicate pad 0

/--
{lit}`ether_input_helper` on the frame the driver read: the type, the data
and the length it passes to {lit}`net_input_handler`, or none where it
returns -1.
-/
def etherInputHelper (e : Endian) (dev : NetDevice) (frame : List UInt8) :
    Option (UInt16 × List UInt8 × Nat) :=
  if frame.length < ETHER_HDR_SIZE then none
  else
    let hdr := EtherHdr.read e frame
    if etherAddrOf dev.addr ≠ hdr.dst ∧ ETHER_ADDR_BROADCAST ≠ hdr.dst then none
    else some (ntoh16 e hdr.type, frame.drop ETHER_HDR_SIZE, frame.length - ETHER_HDR_SIZE)

/-! ## The header -/

theorem EtherAddr.read_append_toList (pre : List UInt8) (a : EtherAddr) (rest : List UInt8) :
    EtherAddr.read (pre ++ a.toList ++ rest) pre.length = a := by
  ext i hi
  have hi' : i < 6 := hi
  simp only [EtherAddr.read, Vector.getElem_ofFn, List.append_assoc]
  rw [List.getD_append_right _ _ _ _ (by omega), Nat.add_sub_cancel_left,
    List.getD_append _ _ _ _ (by simpa using hi), List.getD_eq_getElem _ _ (by simpa using hi),
    Vector.getElem_toList]

theorem EtherAddr.read_append_of_le {a : List UInt8} (b : List UInt8) {k : Nat} (hk : a.length ≤ k) :
    EtherAddr.read (a ++ b) k = EtherAddr.read b (k - a.length) := by
  ext i hi
  simp only [EtherAddr.read, Vector.getElem_ofFn]
  rw [List.getD_append_right _ _ _ _ (by omega), show k + i - a.length = k - a.length + i by omega]

@[simp] theorem EtherAddr.length_toList (a : EtherAddr) : a.toList.length = 6 := by
  simp only [Vector.length_toList]
  rfl

@[simp] theorem EtherAddr.read_cons_succ (x : UInt8) (l : List UInt8) (k : Nat) :
    EtherAddr.read (x :: l) (k + 1) = EtherAddr.read l k := by
  ext i hi
  simp only [EtherAddr.read, Vector.getElem_ofFn]
  rw [show k + 1 + i = (k + i) + 1 by omega, List.getD_cons_succ]

@[simp] theorem EtherAddr.read_toList_append (a : EtherAddr) (rest : List UInt8) :
    EtherAddr.read (a.toList ++ rest) 0 = a := by
  simpa using EtherAddr.read_append_toList [] a rest

@[simp] theorem EtherAddr.read_toList_append_add (a : EtherAddr) (rest : List UInt8) (k : Nat) :
    EtherAddr.read (a.toList ++ rest) (k + 6) = EtherAddr.read rest k := by
  rw [EtherAddr.read_append_of_le _ (by rw [EtherAddr.length_toList]; omega), EtherAddr.length_toList,
    Nat.add_sub_cancel]

@[simp] theorem EtherAddr.read32_toList_append (e : Endian) (a : EtherAddr) (rest : List UInt8)
    (k : Nat) : e.read32 (a.toList ++ rest) (k + 6) = e.read32 rest k := by
  rw [Endian.read32_append_of_le _ _ (by rw [EtherAddr.length_toList]; omega),
    EtherAddr.length_toList, Nat.add_sub_cancel]

@[simp] theorem EtherHdr.length_bytes (e : Endian) (h : EtherHdr) : (h.bytes e).length = 14 := by
  simp only [EtherHdr.bytes, List.length_append, Vector.length_toList, Endian.length_store16]
  rfl

theorem EtherHdr.read_bytes_append (e : Endian) (h : EtherHdr) (rest : List UInt8) :
    EtherHdr.read e (h.bytes e ++ rest) = h := by
  have hdst := EtherAddr.read_append_toList [] h.dst (h.src.toList ++ e.store16 h.type ++ rest)
  have hsrc := EtherAddr.read_append_toList h.dst.toList h.src (e.store16 h.type ++ rest)
  have htype := Endian.read16_append_store16 e (h.dst.toList ++ h.src.toList) rest h.type
  have h12 : (h.dst.toList ++ h.src.toList).length = 12 := by
    simp only [List.length_append, Vector.length_toList]
    rfl
  rw [h12] at htype
  simp only [List.nil_append, List.length_nil, List.append_assoc, Vector.length_toList] at hdst hsrc htype
  simp only [EtherHdr.read, EtherHdr.bytes, List.append_assoc, hdst, hsrc, htype]

/-! ## Transmit and input -/

theorem etherTransmitHelper_eq (e : Endian) (dev : NetDevice) (type : UInt16)
    (data : List UInt8) (dst : EtherAddr) :
    etherTransmitHelper e dev type data dst =
      EtherHdr.bytes e { dst := dst, src := etherAddrOf dev.addr, type := hton16 e type } ++
        (data ++ List.replicate (ETHER_PAYLOAD_SIZE_MIN - data.length) 0) := by
  have hpad : (if data.length < ETHER_PAYLOAD_SIZE_MIN then ETHER_PAYLOAD_SIZE_MIN - data.length
      else 0) = ETHER_PAYLOAD_SIZE_MIN - data.length := by
    split <;> omega
  rw [etherTransmitHelper, hpad, List.append_assoc]

theorem etherTransmitHelper_length (e : Endian) (dev : NetDevice) (type : UInt16)
    (data : List UInt8) (dst : EtherAddr) :
    (etherTransmitHelper e dev type data dst).length =
      max ETHER_FRAME_SIZE_MIN (ETHER_HDR_SIZE + data.length) := by
  rw [etherTransmitHelper_eq]
  simp only [List.length_append, EtherHdr.length_bytes, List.length_replicate,
    ETHER_PAYLOAD_SIZE_MIN, ETHER_FRAME_SIZE_MIN, ETHER_HDR_SIZE]
  omega

/-- What {lit}`ether_input_helper` makes of a frame of {lit}`ether_transmit_helper`: it checks the destination only. -/
theorem etherInputHelper_etherTransmitHelper_eq (e : Endian) (dev dev' : NetDevice) (type : UInt16)
    (data : List UInt8) (dst : EtherAddr) :
    etherInputHelper e dev' (etherTransmitHelper e dev type data dst) =
      if etherAddrOf dev'.addr ≠ dst ∧ ETHER_ADDR_BROADCAST ≠ dst then none
      else some (type, data ++ List.replicate (ETHER_PAYLOAD_SIZE_MIN - data.length) 0,
        max ETHER_PAYLOAD_SIZE_MIN data.length) := by
  have hlen := etherTransmitHelper_length e dev type data dst
  have hread := EtherHdr.read_bytes_append e
    { dst := dst, src := etherAddrOf dev.addr, type := hton16 e type }
    (data ++ List.replicate (ETHER_PAYLOAD_SIZE_MIN - data.length) 0)
  have h14 : (EtherHdr.bytes e { dst := dst, src := etherAddrOf dev.addr, type := hton16 e type }).length =
      ETHER_HDR_SIZE :=
    EtherHdr.length_bytes e _
  have hmax : max ETHER_FRAME_SIZE_MIN (ETHER_HDR_SIZE + data.length) - ETHER_HDR_SIZE =
      max ETHER_PAYLOAD_SIZE_MIN data.length := by
    simp only [ETHER_FRAME_SIZE_MIN, ETHER_HDR_SIZE, ETHER_PAYLOAD_SIZE_MIN]
    omega
  unfold etherInputHelper
  -- a frame of the helper is never shorter than its header
  rw [if_neg (by rw [hlen]; simp only [ETHER_FRAME_SIZE_MIN, ETHER_HDR_SIZE]; omega)]
  dsimp only
  rw [← etherTransmitHelper_eq] at hread
  rw [hread, ntoh16_hton16, hlen, etherTransmitHelper_eq, List.drop_left' h14, hmax]

/-- A frame for the receiving device's address, or for the broadcast address, reaches {lit}`net_input_handler` with its padding. -/
theorem etherInputHelper_etherTransmitHelper (e : Endian) (dev dev' : NetDevice) (type : UInt16)
    (data : List UInt8) (dst : EtherAddr) (hdst : etherAddrOf dev'.addr = dst ∨ dst = ETHER_ADDR_BROADCAST) :
    etherInputHelper e dev' (etherTransmitHelper e dev type data dst) =
      some (type, data ++ List.replicate (ETHER_PAYLOAD_SIZE_MIN - data.length) 0,
        max ETHER_PAYLOAD_SIZE_MIN data.length) := by
  have haccept : ¬(etherAddrOf dev'.addr ≠ dst ∧ ETHER_ADDR_BROADCAST ≠ dst) := by
    rintro ⟨hne, hnb⟩
    rcases hdst with h | h
    exacts [hne h, hnb h.symm]
  rw [etherInputHelper_etherTransmitHelper_eq, if_neg haccept]

/-- A frame for another address is dropped. -/
theorem etherInputHelper_etherTransmitHelper_other (e : Endian) (dev dev' : NetDevice)
    (type : UInt16) (data : List UInt8) (dst : EtherAddr) (hne : etherAddrOf dev'.addr ≠ dst)
    (hnb : dst ≠ ETHER_ADDR_BROADCAST) :
    etherInputHelper e dev' (etherTransmitHelper e dev type data dst) = none := by
  rw [etherInputHelper_etherTransmitHelper_eq, if_pos ⟨hne, Ne.symm hnb⟩]

/-! ## The padding and the layers above -/

theorem ether_frame_round_trip (e : Endian) :
    (∀ (dev : NetDevice) (type : UInt16) (data : List UInt8) (dst : EtherAddr),
      data.length ≤ ETHER_PAYLOAD_SIZE_MAX →
      (etherTransmitHelper e dev type data dst).length =
          max ETHER_FRAME_SIZE_MIN (ETHER_HDR_SIZE + data.length) ∧
        (∀ dev' : NetDevice, etherAddrOf dev'.addr = dst ∨ dst = ETHER_ADDR_BROADCAST →
          etherInputHelper e dev' (etherTransmitHelper e dev type data dst) =
            some (type, data ++ List.replicate (ETHER_PAYLOAD_SIZE_MIN - data.length) 0,
              max ETHER_PAYLOAD_SIZE_MIN data.length)) ∧
        (∀ dev' : NetDevice, etherAddrOf dev'.addr ≠ dst → dst ≠ ETHER_ADDR_BROADCAST →
          etherInputHelper e dev' (etherTransmitHelper e dev type data dst) = none)) ∧
    ∀ {H : Type} (protocols : List (IpProtocol H)) (iface? : Option IpIface) (d p : List UInt8),
      ipDatagramWellFormed e d →
      (ipInput e protocols iface? (d ++ p)).map IpDelivery.view =
        (ipInput e protocols iface? d).map IpDelivery.view := by
  refine ⟨fun dev type data dst _ => ⟨etherTransmitHelper_length e dev type data dst,
    fun dev' hdst => etherInputHelper_etherTransmitHelper e dev dev' type data dst hdst,
    fun dev' hne hnb => etherInputHelper_etherTransmitHelper_other e dev dev' type data dst hne hnb⟩,
    fun protocols iface? d p hwf => ipInput_append_view e protocols iface? hwf p⟩

/-- Three bytes of ICMP to the broadcast address, and the datagram of {lit}`ip_output_core` with two bytes of padding. -/
theorem ether_frame_round_trip_icmp :
    ([1, 2, 3] : List UInt8).length ≤ ETHER_PAYLOAD_SIZE_MAX ∧
      (etherTransmitHelper .little
          { index := 0, type := NET_DEVICE_TYPE_ETHERNET, mtu := 1500, flags := NET_DEVICE_FLAG_UP,
            addr := Vector.replicate NET_DEVICE_ADDR_LEN 0x02,
            broadcast := Vector.replicate NET_DEVICE_ADDR_LEN 0xff, ifaces := [] }
          ETHER_TYPE_IP [1, 2, 3] ETHER_ADDR_BROADCAST).length =
        max ETHER_FRAME_SIZE_MIN (ETHER_HDR_SIZE + 3) ∧
      ipDatagramWellFormed .little (ipOutputCore .little IP_PROTOCOL_ICMP [1, 2, 3] 0x0100007f 0x0100007f 128 0) ∧
      (ipInput .little [(⟨IP_PROTOCOL_ICMP, 1⟩ : IpProtocol Nat)] (some ipLoopbackIface)
          (ipOutputCore .little IP_PROTOCOL_ICMP [1, 2, 3] 0x0100007f 0x0100007f 128 0 ++ [0, 0])).map
          IpDelivery.view =
        (ipInput .little [(⟨IP_PROTOCOL_ICMP, 1⟩ : IpProtocol Nat)] (some ipLoopbackIface)
          (ipOutputCore .little IP_PROTOCOL_ICMP [1, 2, 3] 0x0100007f 0x0100007f 128 0)).map
          IpDelivery.view := by
  have hlen : ([1, 2, 3] : List UInt8).length ≤ ETHER_PAYLOAD_SIZE_MAX := by decide
  have hwf : ipDatagramWellFormed .little
      (ipOutputCore .little IP_PROTOCOL_ICMP [1, 2, 3] 0x0100007f 0x0100007f 128 0) := by
    decide
  exact ⟨hlen, ((ether_frame_round_trip .little).1 _ ETHER_TYPE_IP [1, 2, 3] ETHER_ADDR_BROADCAST hlen).1,
    hwf, (ether_frame_round_trip .little).2 _ _ _ [0, 0] hwf⟩

/-- A 20-byte header whose total length, 24, counts four bytes of payload that the datagram does not carry. -/
def ipHdrTruncated : IpHdr :=
  { vhl := 0x45, tos := 0, total := hton16 .little 24, id := 0, offset := 0, ttl := 64,
    protocol := IP_PROTOCOL_UDP, sum := 0, src := 0x0100000a, dst := 0x0200000a }

def ipHdrTruncatedDatagram : List UInt8 :=
  IpHdr.bytes .little
    { ipHdrTruncated with sum := cksum16 .little (IpHdr.bytes .little ipHdrTruncated) 20 0 }

/--
{lit}`ip_input` drops the datagram that was cut short; behind the 26 bytes of
padding an Ethernet frame adds to it, its total length fits, and the handler
is passed four bytes of padding as the payload.
-/
theorem ip_input_padding_completes :
    ipHdrTruncatedDatagram.length <
        (ntoh16 .little (IpHdr.read .little ipHdrTruncatedDatagram).total).toNat ∧
      ipInput .little [(⟨IP_PROTOCOL_UDP, 17⟩ : IpProtocol Nat)]
          (some ⟨0x0200000a, 0x00ffffff, 0xff00000a⟩) ipHdrTruncatedDatagram = none ∧
      (ipInput .little [(⟨IP_PROTOCOL_UDP, 17⟩ : IpProtocol Nat)]
          (some ⟨0x0200000a, 0x00ffffff, 0xff00000a⟩)
          (ipHdrTruncatedDatagram ++ List.replicate 26 0)).map IpDelivery.view =
        some
          { handler := 17, data := [0, 0, 0, 0], len := 4, src := 0x0100000a,
            dst := 0x0200000a, iface := ⟨0x0200000a, 0x00ffffff, 0xff00000a⟩ } := by
  decide

/-- A header with a header length of 24 in a datagram whose total length is its 20 bytes, its checksum computed over the header and four zero bytes. -/
def ipHdrOverrun : IpHdr :=
  { vhl := 0x46, tos := 0, total := hton16 .little 20, id := 0, offset := 0, ttl := 64,
    protocol := IP_PROTOCOL_UDP, sum := 0, src := 0x0100000a, dst := 0x0200000a }

def ipHdrOverrunDatagram : List UInt8 :=
  IpHdr.bytes .little
    { ipHdrOverrun with sum := cksum16 .little (IpHdr.bytes .little ipHdrOverrun ++ [0, 0, 0, 0]) 24 0 }

/--
On a link without padding {lit}`ip_input` drops the datagram, whose header
is longer than its total length; behind the padding an Ethernet frame adds,
the header fits, and the handler is passed the length 20 - 24 as a
{lit}`size_t`.
-/
theorem ip_input_padding_overrun :
    (ntoh16 .little (IpHdr.read .little ipHdrOverrunDatagram).total).toNat =
        ipHdrOverrunDatagram.length ∧
      ¬ipDatagramWellFormed .little ipHdrOverrunDatagram ∧
      ipInput .little [(⟨IP_PROTOCOL_UDP, 17⟩ : IpProtocol Nat)] (some ⟨0x0200000a, 0x00ffffff, 0xff00000a⟩)
          ipHdrOverrunDatagram = none ∧
      (ipInput .little [(⟨IP_PROTOCOL_UDP, 17⟩ : IpProtocol Nat)] (some ⟨0x0200000a, 0x00ffffff, 0xff00000a⟩)
          (ipHdrOverrunDatagram ++ List.replicate 26 0)).map (·.len) = some (2 ^ 64 - 4) := by
  decide

end ProtocolStack
