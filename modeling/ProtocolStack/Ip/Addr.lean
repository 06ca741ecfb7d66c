import Mathlib
import ProtocolStack.Util

/-!
# IP addresses, endpoints and interfaces

The address types of {lit}`ip.h`.  An {lit}`ip_addr_t` is a 32-bit value
whose memory image is the address in network byte order; the model keeps
the value as the host holds it, so that storing it into a header and loading
it back is the identity whatever the host byte order.  Ports in an endpoint
are likewise kept in network byte order, as the source keeps them.
-/

namespace ProtocolStack

abbrev IpAddr := UInt32

def IP_ADDR_LEN : Nat := 4

def IP_ADDR_ANY : IpAddr := 0x00000000

def IP_ADDR_BROADCAST : IpAddr := 0xffffffff

def IP_PROTOCOL_ICMP : UInt8 := 1

def IP_PROTOCOL_TCP : UInt8 := 6

def IP_PROTOCOL_UDP : UInt8 := 17

def IP_HDR_SIZE_MIN : Nat := 20

def IP_TOTAL_SIZE_MAX : Nat := 65535

def IP_PAYLOAD_SIZE_MAX : Nat := IP_TOTAL_SIZE_MAX - IP_HDR_SIZE_MIN

/-- An {lit}`ip_endpoint`: an address and a port in network byte order. -/
structure IpEndpoint where
  addr : IpAddr
  port : UInt16
  deriving DecidableEq, Repr

theorem IpEndpoint.eq_iff (a b : IpEndpoint) : a = b ↔ a.addr = b.addr ∧ a.port = b.port := by
  cases a
  cases b
  simp

/-- Two local endpoints overlap: the same port, and the same address or ANY on either side. -/
def IpEndpoint.Overlaps (a b : IpEndpoint) : Prop :=
  (a.addr = IP_ADDR_ANY ∨ b.addr = IP_ADDR_ANY ∨ a.addr = b.addr) ∧ a.port = b.port

instance (a b : IpEndpoint) : Decidable (a.Overlaps b) :=
  inferInstanceAs (Decidable (_ ∧ _))

theorem IpEndpoint.Overlaps.symm {a b : IpEndpoint} (h : a.Overlaps b) : b.Overlaps a := by
  obtain ⟨haddr, hport⟩ := h
  refine ⟨?_, hport.symm⟩
  rcases haddr with h | h | h
  · exact .inr (.inl h)
  · exact .inl h
  · exact .inr (.inr h.symm)

/-- The addresses of an {lit}`ip_iface`; the device it hangs off is not modelled. -/
structure IpIface where
  unicast : IpAddr
  netmask : IpAddr
  broadcast : IpAddr
  deriving DecidableEq, Repr

end ProtocolStack
