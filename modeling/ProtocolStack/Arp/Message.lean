import Mathlib
import ProtocolStack.Ether.Frame

/-!
# ARP messages

The {lit}`struct arp_ether_ip` of arp.c, its memory image and how
{lit}`arp_input` reads it, and the frames {lit}`arp_request` and
{lit}`arp_reply` put on an Ethernet link through {lit}`net_device_output`.
The addresses are copied with {lit}`memcpy`, so they lie in the message as
in memory.
-/

namespace ProtocolStack

open ByteOrder

def ARP_HRD_ETHER : UInt16 := 0x0001

def ARP_PRO_IP : UInt16 := ETHER_TYPE_IP

def ARP_OP_REQUEST : UInt16 := 1

def ARP_OP_REPLY : UInt16 := 2

structure ArpHdr where
  hrd : UInt16
  pro : UInt16
  hln : UInt8
  pln : UInt8
  op : UInt16
  deriving DecidableEq, Repr

structure ArpEtherIp where
  hdr : ArpHdr
  sha : EtherAddr
  spa : IpAddr
  tha : EtherAddr
  tpa : IpAddr
  deriving DecidableEq, Repr

def ArpEtherIp.bytes (e : Endian) (m : ArpEtherIp) : List UInt8 :=
  e.store16 m.hdr.hrd ++ e.store16 m.hdr.pro ++ [m.hdr.hln, m.hdr.pln] ++ e.store16 m.hdr.op ++
    m.sha.toList ++ e.store32 m.spa ++ m.tha.toList ++ e.store32 m.tpa

def ArpEtherIp.read (e : Endian) (data : List UInt8) : ArpEtherIp where
  hdr :=
    { hrd := e.read16 data 0
      pro := e.read16 data 2
      hln := data.getD 4 0
      pln := data.getD 5 0
      op := e.read16 data 6 }
  sha := EtherAddr.read data 8
  spa := e.read32 data 14
  tha := EtherAddr.read data 18
  tpa := e.read32 data 24

/-- The message {lit}`arp_request` and {lit}`arp_reply` fill in: the sender is the interface, the rest is given. -/
def arpMessage (e : Endian) (dev : NetDevice) (iface : NetIface) (op : UInt16) (tha : EtherAddr)
    (tpa : IpAddr) : ArpEtherIp :=
  { hdr :=
      { hrd := hton16 e ARP_HRD_ETHER
        pro := hton16 e ARP_PRO_IP
        hln := UInt8.ofNat ETHER_ADDR_LEN
        pln := UInt8.ofNat IP_ADDR_LEN
        op := hton16 e op }
    sha := etherAddrOf dev.addr
    spa := iface.ip.unicast
    tha := tha
    tpa := tpa }

/-- {lit}`arp_request` on the Ethernet device of {lit}`iface`: the frame it puts on the link, or none where {lit}`net_device_output` fails. -/
def arpRequest (e : Endian) (dev : NetDevice) (iface : NetIface) (tpa : IpAddr) :
    Option (List UInt8) :=
  netDeviceOutput (etherTransmitHelper e) dev ETHER_TYPE_ARP
    ((arpMessage e dev iface ARP_OP_REQUEST ETHER_ADDR_ANY tpa).bytes e) (etherAddrOf dev.broadcast)

def arpReply (e : Endian) (dev : NetDevice) (iface : NetIface) (tha : EtherAddr) (tpa : IpAddr)
    (dst : EtherAddr) : Option (List UInt8) :=
  netDeviceOutput (etherTransmitHelper e) dev ETHER_TYPE_ARP
    ((arpMessage e dev iface ARP_OP_REPLY tha tpa).bytes e) dst

@[simp] theorem ArpEtherIp.length_bytes (e : Endian) (m : ArpEtherIp) : (m.bytes e).length = 28 := by
  simp only [ArpEtherIp.bytes, List.length_append, Endian.length_store16, Endian.length_store32,
    Vector.length_toList, List.length_cons, List.length_nil]
  rfl

theorem ArpEtherIp.read_bytes_append (e : Endian) (m : ArpEtherIp) (rest : List UInt8) :
    ArpEtherIp.read e (m.bytes e ++ rest) = m := by
  simp only [ArpEtherIp.read, ArpEtherIp.bytes, List.append_assoc]
  congr 1
  · congr 1 <;> simp [Endian.read16_append_of_le, List.getElem?_append_right]
  all_goals simp [Endian.read32_append_of_le, EtherAddr.read_append_of_le]

end ProtocolStack
