import Mathlib
import ProtocolStack.Ip.Addr
import ProtocolStack.Util.Queue

/-!
# Devices and protocol input queues of net.c

A device is a record of the fields that the modelled functions read.
{lit}`net_device_output` checks the device and hands the data to the
driver's transmit function; this is a parameter of the model.
{lit}`net_input_handler` copies what a driver received into the input
queue of the first protocol of that type.  One pass of
{lit}`net_softirq_handler`'s loops takes the first entry of the first
protocol whose queue is not empty and calls that protocol's handler.
-/

namespace ProtocolStack

def NET_DEVICE_TYPE_LOOPBACK : UInt16 := 0x0001

def NET_DEVICE_TYPE_ETHERNET : UInt16 := 0x0002

def NET_DEVICE_FLAG_UP : UInt16 := 0x0001

def NET_DEVICE_ADDR_LEN : Nat := 16

def NET_PROTOCOL_TYPE_IP : UInt16 := 0x0800

def NET_PROTOCOL_TYPE_ARP : UInt16 := 0x0806

def NET_IFACE_FAMILY_IP : Int := 1

/-- A {lit}`struct net_iface` of the IP family, with the addresses of its {lit}`ip_iface`. -/
structure NetIface where
  family : Int
  ip : IpIface
  deriving DecidableEq, Repr

structure NetDevice where
  index : Nat
  type : UInt16
  mtu : UInt16
  flags : UInt16
  addr : Vector UInt8 NET_DEVICE_ADDR_LEN
  broadcast : Vector UInt8 NET_DEVICE_ADDR_LEN
  ifaces : List NetIface
  deriving DecidableEq, Repr

def netDeviceGetIface (dev : NetDevice) (family : Int) : Option NetIface :=
  dev.ifaces.find? (·.family == family)

/--
{lit}`net_device_output`: what the driver's {lit}`transmit` makes of the
data, or none where the device is down or the data is longer than its MTU.
-/
def netDeviceOutput {α β : Type} (transmit : NetDevice → UInt16 → List UInt8 → α → β)
    (dev : NetDevice) (type : UInt16) (data : List UInt8) (dst : α) : Option β :=
  if dev.flags &&& NET_DEVICE_FLAG_UP = 0 then none
  else if data.length > dev.mtu.toNat then none
  else some (transmit dev type data dst)

theorem netDeviceOutput_eq_some {α β : Type} (transmit : NetDevice → UInt16 → List UInt8 → α → β)
    {dev : NetDevice} (hup : dev.flags &&& NET_DEVICE_FLAG_UP ≠ 0) {data : List UInt8}
    (hmtu : data.length ≤ dev.mtu.toNat) (type : UInt16) (dst : α) :
    netDeviceOutput transmit dev type data dst = some (transmit dev type data dst) := by
  rw [netDeviceOutput, if_neg hup, if_neg (Nat.not_lt.mpr hmtu)]

/-! ## The protocol input queues -/

structure NetProtocolQueueEntry where
  dev : NetDevice
  len : Nat
  data : List UInt8
  deriving DecidableEq, Repr

structure NetProtocol (H : Type) where
  type : UInt16
  queue : QueueHead NetProtocolQueueEntry
  handler : H
  deriving DecidableEq, Repr

variable {H : Type}

/-- {lit}`net_protocol_register`: the list with the new protocol in front, or none where the type is registered. -/
def netProtocolRegister (protocols : List (NetProtocol H)) (type : UInt16) (handler : H) :
    Option (List (NetProtocol H)) :=
  if protocols.any (·.type == type) then none
  else some ({ type := type, queue := QueueHead.zero, handler := handler } :: protocols)

/-- {lit}`net_input_handler` on {lit}`len` bytes at {lit}`data` of the given type, {lit}`memory_alloc` taken to succeed. -/
def netInputHandler (protocols : List (NetProtocol H)) (type : UInt16) (data : List UInt8)
    (len : Nat) (dev : NetDevice) : List (NetProtocol H) :=
  match protocols.findIdx? (·.type == type) with
  | none => protocols
  | some i =>
      protocols.modify i fun proto =>
        { proto with queue := queuePush proto.queue { dev := dev, len := len, data := data.take len } }

theorem netInputHandler_cons (proto : NetProtocol H) (protocols : List (NetProtocol H)) (type : UInt16)
    (data : List UInt8) (len : Nat) (dev : NetDevice) :
    netInputHandler (proto :: protocols) type data len dev =
      if proto.type = type then
        { proto with queue := queuePush proto.queue { dev := dev, len := len, data := data.take len } } :: protocols
      else proto :: netInputHandler protocols type data len dev := by
  unfold netInputHandler
  rw [List.findIdx?_cons]
  by_cases htype : proto.type = type
  · rw [if_pos (by simp [htype]), if_pos htype]
    rfl
  · rw [if_neg (by simp [htype]), if_neg htype]
    cases protocols.findIdx? (·.type == type) with
    | none => rfl
    | some i => rfl

/-- One pass of the loops of {lit}`net_softirq_handler`: the protocol whose handler is called and the entry it gets. -/
def netSoftirqStep :
    List (NetProtocol H) → List (NetProtocol H) × Option (NetProtocol H × NetProtocolQueueEntry)
  | [] => ([], none)
  | proto :: rest =>
      match queuePop proto.queue with
      | (queue, some entry) => ({ proto with queue := queue } :: rest, some (proto, entry))
      | (_, none) => (proto :: (netSoftirqStep rest).1, (netSoftirqStep rest).2)

end ProtocolStack
