import Mathlib
import ProtocolStack.Ip.Datagram

/-!
# ICMP echo

{lit}`icmp_input` checks the length and the checksum of a message and
answers an Echo through {lit}`icmp_output`, which builds the reply in a
fresh buffer: the type EchoReply, the request's code and 32-bit word, the
payload copied after them, and the checksum over the whole.  The reply is
the request with its first byte and its checksum field changed, and it passes
the checksum test of {lit}`icmp_input` by the verification law of
{lit}`cksum16`.

{lit}`icmp_output` copies into a buffer of {lit}`IP_PAYLOAD_SIZE_MAX` bytes.
A message longer than that would run past it, and the model makes no call
there; every message {lit}`ip_input` passes on from a datagram whose header
is consistent fits.  The names of the message types serve only the debug
dump and are left out.
-/

namespace ProtocolStack

open ByteOrder

def ICMP_HDR_SIZE : Nat := 8

def ICMP_TYPE_ECHOREPLY : UInt8 := 0

def ICMP_TYPE_ECHO : UInt8 := 8

def ICMP_BUFSIZ : Nat := IP_PAYLOAD_SIZE_MAX

/-- {lit}`struct icmp_hdr`: the checksum and the 32-bit word as the host loads them. -/
structure IcmpHdr where
  type : UInt8
  code : UInt8
  sum : UInt16
  values : UInt32
  deriving DecidableEq, Repr

def IcmpHdr.read (e : Endian) (data : List UInt8) : IcmpHdr :=
  { type := data.getD 0 0, code := data.getD 1 0, sum := e.read16 data 2, values := e.read32 data 4 }

/-- The eight bytes a header occupies in memory. -/
def IcmpHdr.bytes (e : Endian) (h : IcmpHdr) : List UInt8 :=
  [h.type, h.code] ++ e.store16 h.sum ++ e.store32 h.values

/-- The arguments of a call of {lit}`ip_output`: the protocol, the bytes of the message, and the addresses. -/
structure IpOutputCall where
  protocol : UInt8
  data : List UInt8
  src : IpAddr
  dst : IpAddr
  deriving DecidableEq, Repr

/-- {lit}`icmp_output`: the call of {lit}`ip_output` it makes, or none where copying {lit}`len` bytes would run past {lit}`buf`. -/
def icmpOutput (e : Endian) (type code : UInt8) (values : UInt32) (data : List UInt8) (len : Nat)
    (src dst : IpAddr) : Option IpOutputCall :=
  if ICMP_HDR_SIZE + len > ICMP_BUFSIZ then none
  else
    let hdr : IcmpHdr := { type := type, code := code, sum := 0, values := values }
    let msgLen := ICMP_HDR_SIZE + len
    let sum := cksum16 e (hdr.bytes e ++ data.take len) (UInt16.ofNat msgLen) 0
    some { protocol := IP_PROTOCOL_ICMP, data := { hdr with sum := sum }.bytes e ++ data.take len,
           src := src, dst := dst }

/-- {lit}`icmp_input` on the {lit}`len` bytes at {lit}`data` from {lit}`src`: the call answering an Echo, if any. -/
def icmpInput (e : Endian) (data : List UInt8) (len : Nat) (src _dst : IpAddr) (iface : IpIface) :
    Option IpOutputCall :=
  if len < ICMP_HDR_SIZE then none
  else if cksum16 e data (UInt16.ofNat len) 0 ≠ 0 then none
  else
    let hdr := IcmpHdr.read e data
    if hdr.type = ICMP_TYPE_ECHO then
      icmpOutput e ICMP_TYPE_ECHOREPLY hdr.code hdr.values (data.drop ICMP_HDR_SIZE)
        (len - ICMP_HDR_SIZE) iface.unicast src
    else none

/-! ## The header in memory -/

@[simp] theorem IcmpHdr.length_bytes (e : Endian) (h : IcmpHdr) : (h.bytes e).length = ICMP_HDR_SIZE := by
  simp [IcmpHdr.bytes, ICMP_HDR_SIZE]

theorem IcmpHdr.read_append_of_le (e : Endian) {data : List UInt8} (rest : List UInt8)
    (h : ICMP_HDR_SIZE ≤ data.length) : IcmpHdr.read e (data ++ rest) = IcmpHdr.read e data := by
  have h8 : 8 ≤ data.length := h
  simp (disch := omega) only [IcmpHdr.read, Endian.read16, Endian.read32, List.getD_append]

/-- The bytes from offset 4 of a message: those of its 32-bit word as the host stores it back, then the payload. -/
theorem store32_read32_append_drop (e : Endian) {msg : List UInt8} (h : ICMP_HDR_SIZE ≤ msg.length) :
    e.store32 (e.read32 msg 4) ++ msg.drop ICMP_HDR_SIZE = msg.drop 4 := by
  have h8 : 8 ≤ msg.length := h
  have hdrop : msg.drop 4 = [msg.getD 4 0, msg.getD 5 0, msg.getD 6 0, msg.getD 7 0] ++ msg.drop 8 := by
    rw [List.drop_eq_getElem_cons (by omega), List.drop_eq_getElem_cons (by omega),
      List.drop_eq_getElem_cons (by omega), List.drop_eq_getElem_cons (by omega)]
    simp (disch := omega)
  rw [hdrop, Endian.read32, Endian.store32_load32]
  rfl

/-- With its checksum field computed over the message with a zero field, the message checks to zero. -/
theorem cksum16_icmpHdr_sum (e : Endian) (h : IcmpHdr) (data : List UInt8)
    (hlen : ICMP_HDR_SIZE + data.length ≤ 65535) :
    cksum16 e (IcmpHdr.bytes e { h with
        sum := cksum16 e (IcmpHdr.bytes e { h with sum := 0 } ++ data)
          (UInt16.ofNat (ICMP_HDR_SIZE + data.length)) 0 } ++ data)
      (UInt16.ofNat (ICMP_HDR_SIZE + data.length)) 0 = 0 := by
  have hn : ICMP_HDR_SIZE + data.length = [h.type, h.code].length + 2 + (e.store32 h.values ++ data).length := by
    simp only [List.length_cons, List.length_nil, List.length_append, Endian.length_store32, ICMP_HDR_SIZE]
    omega
  have hlaw := cksum16_store_cksum16 e [h.type, h.code] (e.store32 h.values ++ data) 0 (by simp)
    (by rw [← hn]; exact hlen) (by decide)
  rw [← hn, ← Endian.store16_zero e] at hlaw
  simpa only [IcmpHdr.bytes, List.append_assoc] using hlaw

/-! ## The echo reply -/

/-- Every message {lit}`ip_input` passes on from a datagram with a consistent header fits the buffer of {lit}`icmp_output`. -/
theorem ipInput_len_le_icmpBufsiz {H : Type} {e : Endian} {protocols : List (IpProtocol H)}
    {iface? : Option IpIface} {data : List UInt8} {d : IpDelivery H}
    (h : ipInput e protocols iface? data = some d) (hwf : ipDatagramWellFormed e data) :
    d.len ≤ ICMP_BUFSIZ ∧ d.len ≤ d.data.length := by
  refine ⟨?_, ipInput_len_le_length h hwf⟩
  have hlen := ipInput_len_of_wellFormed h hwf
  have htotal := (ntoh16 e (IpHdr.read e data).total).toNat_lt
  obtain ⟨hmin, -, -⟩ := hwf
  unfold IP_HDR_SIZE_MIN at hmin
  rw [hlen]
  unfold ICMP_BUFSIZ IP_PAYLOAD_SIZE_MAX IP_TOTAL_SIZE_MAX IP_HDR_SIZE_MIN
  omega

/--
With the protocol list a run of registrations leaves, {lit}`ip_input` hands a
datagram to the handler registered for its protocol, and to no other, with
the bytes after the header.  For a header whose lengths are consistent it
passes the length total - hlen, which lies within those bytes and within the
buffer of {lit}`icmp_output`.
-/
theorem ip_input_dispatch {H : Type} (e : Endian) (regs : List (UInt8 × H))
    {protocols : List (IpProtocol H)} (hreg : ipProtocolRegisterAll [] regs = some protocols)
    {iface? : Option IpIface} {data : List UInt8} {d : IpDelivery H}
    (h : ipInput e protocols iface? data = some d) :
    ((IpHdr.read e data).protocol, d.handler) ∈ regs ∧
      (∀ handler, ((IpHdr.read e data).protocol, handler) ∈ regs → handler = d.handler) ∧
      d.data = data.drop (((IpHdr.read e data).vhl &&& 0x0f).toUInt16 <<< 2).toNat ∧
      (ipDatagramWellFormed e data →
        d.len = (ntoh16 e (IpHdr.read e data).total).toNat -
            (((IpHdr.read e data).vhl &&& 0x0f).toUInt16 <<< 2).toNat ∧
          d.len ≤ d.data.length ∧ d.len ≤ ICMP_BUFSIZ) := by
  obtain ⟨hnodup, hmem⟩ := ipProtocolRegisterAll_spec (by simp) hreg
  -- the entry ip_input found has the datagram's type and was registered
  obtain ⟨_, p, -, -, -, -, -, -, -, -, hfind, hd⟩ := ipInput_eq_some_inv h
  have hp := List.mem_of_find?_eq_some hfind
  have hpt : p.type = (IpHdr.read e data).protocol := by simpa using List.find?_some hfind
  have hpreg : (p.type, p.handler) ∈ regs := by simpa using (hmem p).mp hp
  refine ⟨?registered, fun handler hh => ?unique, by rw [hd], fun hwf => ?lengths⟩
  case registered =>
    rw [hd, ← hpt]
    exact hpreg
  case unique =>
    -- a second registration of the type would have failed, so the lookup finds this one
    have hfind' := find?_type_of_mem hnodup ((hmem _).mpr (.inr hh))
    rw [hfind, Option.some.injEq] at hfind'
    rw [hd, hfind']
  case lengths =>
    obtain ⟨hbuf, hle⟩ := ipInput_len_le_icmpBufsiz h hwf
    exact ⟨ipInput_len_of_wellFormed h hwf, hle, hbuf⟩

/-- ICMP and UDP registered in turn; an empty UDP datagram from 10.0.0.1 to 10.0.0.2 goes to the UDP handler. -/
theorem ip_input_dispatch_udp :
    ipProtocolRegisterAll [] [(IP_PROTOCOL_ICMP, 1), (IP_PROTOCOL_UDP, 17)] =
        some [⟨IP_PROTOCOL_UDP, 17⟩, ⟨IP_PROTOCOL_ICMP, 1⟩] ∧
      (ipInput .little [⟨IP_PROTOCOL_UDP, 17⟩, ⟨IP_PROTOCOL_ICMP, 1⟩]
          (some ⟨0x0200000a, 0x00ffffff, 0xff00000a⟩)
          (ipOutputCore .little IP_PROTOCOL_UDP [] 0x0100000a 0x0200000a 0 0)).map (·.handler) =
        some (17 : Nat) := by
  have hreg : ipProtocolRegisterAll [] [(IP_PROTOCOL_ICMP, (1 : Nat)), (IP_PROTOCOL_UDP, 17)] =
      some [⟨IP_PROTOCOL_UDP, 17⟩, ⟨IP_PROTOCOL_ICMP, 1⟩] := by
    decide
  have hsome : (ipInput .little [⟨IP_PROTOCOL_UDP, (17 : Nat)⟩, ⟨IP_PROTOCOL_ICMP, 1⟩]
      (some ⟨0x0200000a, 0x00ffffff, 0xff00000a⟩)
      (ipOutputCore .little IP_PROTOCOL_UDP [] 0x0100000a 0x0200000a 0 0)).isSome = true := by
    decide
  have h := (Option.some_get hsome).symm
  have hudp := (ip_input_dispatch .little _ hreg h).2.1 17 (by decide)
  rw [h, Option.map_some, ← hudp]
  exact ⟨hreg, rfl⟩

theorem icmpOutput_eq (e : Endian) (type code : UInt8) (values : UInt32) (data : List UInt8)
    {len : Nat} (hbuf : ICMP_HDR_SIZE + len ≤ ICMP_BUFSIZ) (src dst : IpAddr) :
    icmpOutput e type code values data len src dst =
      some { protocol := IP_PROTOCOL_ICMP,
             data := IcmpHdr.bytes e ⟨type, code,
               cksum16 e (IcmpHdr.bytes e ⟨type, code, 0, values⟩ ++ data.take len)
                 (UInt16.ofNat (ICMP_HDR_SIZE + len)) 0, values⟩ ++ data.take len,
             src := src, dst := dst } := by
  rw [icmpOutput, if_neg (Nat.not_lt.mpr hbuf)]

/-- A message that is too short, fails the checksum or is not an Echo gets no answer. -/
theorem icmpInput_eq_none (e : Endian) {data : List UInt8} {len : Nat}
    (h : len < ICMP_HDR_SIZE ∨ cksum16 e data (UInt16.ofNat len) 0 ≠ 0 ∨
      (IcmpHdr.read e data).type ≠ ICMP_TYPE_ECHO) (src dst : IpAddr) (iface : IpIface) :
    icmpInput e data len src dst iface = none := by
  unfold icmpInput
  dsimp only
  rcases h with hshort | hck | htype
  · rw [if_pos hshort]
  · split_ifs <;> rfl
  · rw [if_neg htype]
    split_ifs <;> rfl

/-- The reply to a message: its header with the type and the checksum replaced, then its payload. -/
theorem icmpHdr_bytes_reply (e : Endian) {msg : List UInt8} (hlen : ICMP_HDR_SIZE ≤ msg.length)
    (type : UInt8) (sum : UInt16) :
    IcmpHdr.bytes e ⟨type, (IcmpHdr.read e msg).code, sum, (IcmpHdr.read e msg).values⟩ ++
        msg.drop ICMP_HDR_SIZE =
      type :: msg.getD 1 0 :: (e.store16 sum ++ msg.drop 4) := by
  rw [← store32_read32_append_drop e hlen]
  simp [IcmpHdr.bytes, IcmpHdr.read]

theorem icmpInput_echo (e : Endian) {data : List UInt8} {len : Nat} (hlen : ICMP_HDR_SIZE ≤ len)
    (hvalid : cksum16 e data (UInt16.ofNat len) 0 = 0) (htype : (IcmpHdr.read e data).type = ICMP_TYPE_ECHO)
    (src dst : IpAddr) (iface : IpIface) :
    icmpInput e data len src dst iface =
      icmpOutput e ICMP_TYPE_ECHOREPLY (IcmpHdr.read e data).code (IcmpHdr.read e data).values
        (data.drop ICMP_HDR_SIZE) (len - ICMP_HDR_SIZE) iface.unicast src := by
  unfold icmpInput
  rw [if_neg (Nat.not_lt.mpr hlen), if_neg (not_not.mpr hvalid)]
  exact if_pos htype

/--
An Echo of at least eight bytes that fits the buffer, with a valid checksum,
is answered by one call of {lit}`ip_output`, from the interface's address to
the sender: the request with EchoReply as its type and a new checksum, which
passes the test of {lit}`icmp_input`.  Any other message of that length gets
no answer.
-/
theorem icmp_echo_reply_mirrors (e : Endian) (msg rest : List UInt8) (src dst : IpAddr) (iface : IpIface)
    (hlen : ICMP_HDR_SIZE ≤ msg.length) (hbuf : msg.length ≤ ICMP_BUFSIZ) :
    ((IcmpHdr.read e msg).type = ICMP_TYPE_ECHO ∧ cksum16 e msg (UInt16.ofNat msg.length) 0 = 0 →
      ∃ sum : UInt16,
        icmpInput e (msg ++ rest) msg.length src dst iface =
          some { protocol := IP_PROTOCOL_ICMP,
                 data := ICMP_TYPE_ECHOREPLY :: msg.getD 1 0 :: (e.store16 sum ++ msg.drop 4),
                 src := iface.unicast, dst := src } ∧
        cksum16 e (ICMP_TYPE_ECHOREPLY :: msg.getD 1 0 :: (e.store16 sum ++ msg.drop 4))
          (UInt16.ofNat msg.length) 0 = 0) ∧
      ((IcmpHdr.read e msg).type ≠ ICMP_TYPE_ECHO ∨ cksum16 e msg (UInt16.ofNat msg.length) 0 ≠ 0 →
        icmpInput e (msg ++ rest) msg.length src dst iface = none) := by
  have hread := IcmpHdr.read_append_of_le e rest hlen
  have hck : cksum16 e (msg ++ rest) (UInt16.ofNat msg.length) 0 =
      cksum16 e msg (UInt16.ofNat msg.length) 0 :=
    cksum16_append_of_le e msg rest _ 0 (by rw [UInt16.toNat_ofNat']; exact Nat.mod_le _ _)
  refine ⟨fun ⟨htype, hvalid⟩ => ?_,
    fun h => icmpInput_eq_none e (by rw [hread, hck]; exact .inr h.symm) src dst iface⟩
  -- icmp_output copies the message past its header, and counts all of it
  have htake : ((msg ++ rest).drop ICMP_HDR_SIZE).take (msg.length - ICMP_HDR_SIZE) =
      msg.drop ICMP_HDR_SIZE := by
    rw [List.drop_append_of_le_length hlen, List.take_left' (List.length_drop ..)]
  have hcount : ICMP_HDR_SIZE + (msg.length - ICMP_HDR_SIZE) = msg.length := Nat.add_sub_cancel' hlen
  have hpayload : ICMP_HDR_SIZE + (msg.drop ICMP_HDR_SIZE).length = msg.length := by
    rw [List.length_drop, hcount]
  rw [icmpInput_echo e hlen (hck.trans hvalid) (hread ▸ htype),
    icmpOutput_eq e _ _ _ _ (by rw [hcount]; exact hbuf), htake, hcount, hread]
  have hlaw := cksum16_icmpHdr_sum e
    ⟨ICMP_TYPE_ECHOREPLY, (IcmpHdr.read e msg).code, 0, (IcmpHdr.read e msg).values⟩
    (msg.drop ICMP_HDR_SIZE) (by rw [hpayload]; exact hbuf.trans (by decide))
  rw [hpayload] at hlaw
  refine ⟨cksum16 e (IcmpHdr.bytes e
      ⟨ICMP_TYPE_ECHOREPLY, (IcmpHdr.read e msg).code, 0, (IcmpHdr.read e msg).values⟩ ++
        msg.drop ICMP_HDR_SIZE) (UInt16.ofNat msg.length) 0, ?_, ?_⟩
  · rw [icmpHdr_bytes_reply e hlen]
  · rw [← icmpHdr_bytes_reply e hlen]
    exact hlaw

/-- {lit}`test_data` of test.h: a datagram from 127.0.0.1 to itself carrying an Echo with 20 bytes of text. -/
def testData : List UInt8 :=
  [0x45, 0x00, 0x00, 0x30, 0x00, 0x80, 0x00, 0x00, 0xff, 0x01, 0xbd, 0x4a,
   0x7f, 0x00, 0x00, 0x01, 0x7f, 0x00, 0x00, 0x01, 0x08, 0x00, 0x35, 0x64,
   0x00, 0x80, 0x00, 0x01, 0x31, 0x32, 0x33, 0x34, 0x35, 0x36, 0x37, 0x38,
   0x39, 0x30, 0x21, 0x40, 0x23, 0x24, 0x25, 0x5e, 0x26, 0x2a, 0x28, 0x29]

example :
    (ipInput .little [(⟨IP_PROTOCOL_ICMP, 1⟩ : IpProtocol Nat)] (some ipLoopbackIface) testData).map
        (fun d => (d.data, d.len, d.src)) =
      some (testData.drop IP_HDR_SIZE_MIN, 28, 0x0100007f) := by
  decide

/-- The Echo of {lit}`test_data`, as {lit}`ip_input` passes it on, is answered from 127.0.0.1 to 127.0.0.1. -/
theorem icmp_echo_reply_test_data :
    ICMP_HDR_SIZE ≤ (testData.drop IP_HDR_SIZE_MIN).length ∧
      (testData.drop IP_HDR_SIZE_MIN).length ≤ ICMP_BUFSIZ ∧
      ∃ sum : UInt16,
        icmpInput .little (testData.drop IP_HDR_SIZE_MIN ++ []) (testData.drop IP_HDR_SIZE_MIN).length
            0x0100007f 0x0100007f ipLoopbackIface =
          some { protocol := IP_PROTOCOL_ICMP,
                 data := ICMP_TYPE_ECHOREPLY :: (testData.drop IP_HDR_SIZE_MIN).getD 1 0 ::
                   (Endian.little.store16 sum ++ (testData.drop IP_HDR_SIZE_MIN).drop 4),
                 src := ipLoopbackIface.unicast, dst := 0x0100007f } ∧
        cksum16 .little (ICMP_TYPE_ECHOREPLY :: (testData.drop IP_HDR_SIZE_MIN).getD 1 0 ::
            (Endian.little.store16 sum ++ (testData.drop IP_HDR_SIZE_MIN).drop 4))
          (UInt16.ofNat (testData.drop IP_HDR_SIZE_MIN).length) 0 = 0 :=
  ⟨by decide, by decide,
    (icmp_echo_reply_mirrors .little (testData.drop IP_HDR_SIZE_MIN) [] 0x0100007f 0x0100007f ipLoopbackIface
      (by decide) (by decide)).1 ⟨by decide, by decide⟩⟩

end ProtocolStack
