import Mathlib
import ProtocolStack.Tcp.ReceiveStream

/-!
# tcp_input: the segment on the wire

{lit}`tcp_input` recomputes the pseudo header from the IP addresses, checks
the checksum over the whole segment, drops broadcasts and reads the header
into the arguments of {lit}`tcp_segment_arrives`.  Every segment
{lit}`tcp_output_segment` hands to {lit}`ip_output` comes out of
{lit}`tcp_input` at the other end as the arrival it describes, with the
endpoints swapped; and what {lit}`tcp_input` delivers counts SYN and FIN in
{lit}`seg.len` as the connection model assumes, whenever the header length
lies within the segment.
-/

namespace ProtocolStack

open ByteOrder

/-- The seed of the checksum over a TCP segment: the complemented sum of its pseudo header. -/
def tcpPseudoSum (e : Endian) (src dst : IpAddr) (len : UInt16) : UInt16 :=
  ~~~(cksum16 e (pseudoHdrBytes e src dst IP_PROTOCOL_TCP (hton16 e len)) 12 0)

/-- The header length {lit}`tcp_input` reads from the {lit}`off` field, in bytes. -/
def tcpHdrLen (off : UInt8) : UInt16 :=
  (off >>> 4).toUInt16 <<< 2

/-- {lit}`seg.len` as {lit}`tcp_input` derives it: the payload in 16 bits, then one for SYN and one for FIN. -/
def tcpInputSegLen (len hlen : UInt16) (flg : UInt8) : UInt16 :=
  let n := len - hlen
  let n := if tcpFlgIsset flg TCP_FLG_SYN then n + 1 else n
  if tcpFlgIsset flg TCP_FLG_FIN then n + 1 else n

/--
{lit}`tcp_input` on the {lit}`len` bytes {lit}`data` from {lit}`src` to
{lit}`dst`: the arguments it passes to {lit}`tcp_segment_arrives`, or none
where it drops the segment.  The payload starts at the header length the
{lit}`off` field gives.
-/
def tcpInput (e : Endian) (data : List UInt8) (src dst : IpAddr) (iface : IpIface) :
    Option TcpArrival :=
  if data.length < 20 then none
  else if cksum16 e data (UInt16.ofNat data.length)
      (tcpPseudoSum e src dst (UInt16.ofNat data.length)).toUInt32 ≠ 0 then none
  else if src = IP_ADDR_BROADCAST ∨ src = iface.broadcast ∨ dst = IP_ADDR_BROADCAST ∨
      dst = iface.broadcast then none
  else
    let hdr := TcpHdr.read e data
    some
      { seg :=
          { seq := ntoh32 e hdr.seq, ack := ntoh32 e hdr.ack,
            len := tcpInputSegLen (UInt16.ofNat data.length) (tcpHdrLen hdr.off) hdr.flg,
            wnd := ntoh16 e hdr.wnd, up := ntoh16 e hdr.up },
        flags := hdr.flg
        data := data.drop (tcpHdrLen hdr.off).toNat
        localEp := ⟨dst, hdr.dst⟩
        foreign := ⟨src, hdr.src⟩ }

/-! # What tcp_input delivers -/

theorem tcpInputSegLen_eq (len hlen : UInt16) (flg : UInt8) :
    tcpInputSegLen len hlen flg = len - hlen + (if tcpFlgIsset flg TCP_FLG_SYN then 1 else 0) +
      (if tcpFlgIsset flg TCP_FLG_FIN then 1 else 0) := by
  unfold tcpInputSegLen
  cases tcpFlgIsset flg TCP_FLG_SYN <;> cases tcpFlgIsset flg TCP_FLG_FIN <;> simp

/-- Where the segment is long enough, checks to zero and is no broadcast, the arrival {lit}`tcp_input` hands on. -/
theorem tcpInput_eq_some {e : Endian} {data : List UInt8} {src dst : IpAddr} {iface : IpIface}
    {hdr : TcpHdr} (hhdr : TcpHdr.read e data = hdr) (hmin : 20 ≤ data.length)
    (hcksum : cksum16 e data (UInt16.ofNat data.length)
      (tcpPseudoSum e src dst (UInt16.ofNat data.length)).toUInt32 = 0)
    (hunicast : src ≠ IP_ADDR_BROADCAST ∧ src ≠ iface.broadcast ∧ dst ≠ IP_ADDR_BROADCAST ∧
      dst ≠ iface.broadcast) :
    tcpInput e data src dst iface =
      some
        { seg :=
            { seq := ntoh32 e hdr.seq, ack := ntoh32 e hdr.ack,
              len := tcpInputSegLen (UInt16.ofNat data.length) (tcpHdrLen hdr.off) hdr.flg,
              wnd := ntoh16 e hdr.wnd, up := ntoh16 e hdr.up },
          flags := hdr.flg, data := data.drop (tcpHdrLen hdr.off).toNat,
          localEp := ⟨dst, hdr.dst⟩, foreign := ⟨src, hdr.src⟩ } := by
  have hcast : ¬(src = IP_ADDR_BROADCAST ∨ src = iface.broadcast ∨ dst = IP_ADDR_BROADCAST ∨
      dst = iface.broadcast) := by
    rintro (h | h | h | h)
    exacts [hunicast.1 h, hunicast.2.1 h, hunicast.2.2.1 h, hunicast.2.2.2 h]
  unfold tcpInput
  rw [if_neg (Nat.not_lt.mpr hmin), if_neg (not_not.mpr hcksum), if_neg hcast, hhdr]

/--
The length {lit}`len - hlen` that {lit}`tcp_input` passes with the payload, a
{lit}`size_t`.  The model's arrival carries the payload as a list, which
this length describes only while the header length lies within the segment.
-/
def tcpInputPayloadLen (len : Nat) (hlen : UInt16) : Nat :=
  (UInt64.ofNat len - hlen.toUInt64).toNat

/-- A 20-byte segment from 10.0.0.2:9 to 10.0.0.1:7 whose data offset says 24 bytes, its checksum right, on a little-endian host. -/
def tcpSegmentLongOffset : List UInt8 :=
  let hdr : TcpHdr :=
    { src := 9, dst := 7, seq := 0, ack := 0, off := 0x60, flg := TCP_FLG_ACK, wnd := 0,
      sum := 0, up := 0 }
  TcpHdr.bytes .little
    { hdr with
      sum := cksum16 .little (hdr.bytes .little) 20
        (tcpPseudoSum .little 0x0a000002 0x0a000001 20).toUInt32 }

/--
{lit}`tcp_input` hands the segment on: the header length 24 exceeds the
segment's 20 bytes, {lit}`seg.len` wraps to 65532, and the payload length
passed wraps to 2^64 - 4.
-/
theorem tcp_input_header_overrun :
    tcpSegmentLongOffset.length = 20 ∧
      tcpHdrLen (TcpHdr.read .little tcpSegmentLongOffset).off = 24 ∧
      (tcpInput .little tcpSegmentLongOffset 0x0a000002 0x0a000001
          ⟨0x0a000001, 0xffffff00, 0x0a0000ff⟩).map (·.seg.len) = some 65532 ∧
      tcpInputPayloadLen 20 24 = 2 ^ 64 - 4 := by
  decide

/-! # The round trip -/

theorem TcpHdr.bytes_eq_sum (e : Endian) (h : TcpHdr) :
    h.bytes e = (e.store16 h.src ++ e.store16 h.dst ++ e.store32 h.seq ++ e.store32 h.ack ++
      [h.off, h.flg] ++ e.store16 h.wnd) ++ e.store16 h.sum ++ e.store16 h.up :=
  rfl

/--
The checksum law for a segment: with its checksum field computed over the
header with a zero field and the payload, the whole segment checks to zero.
-/
theorem cksum16_tcpHdr_sum (e : Endian) (h : TcpHdr) (data : List UInt8) (init : UInt32)
    (hinit : init.toNat ≤ 65535) (hlen : 20 + data.length ≤ 65535) :
    cksum16 e (TcpHdr.bytes e { h with
        sum := (cksum16 e (TcpHdr.bytes e { h with sum := 0 } ++ data)
          (UInt16.ofNat (20 + data.length)) init) } ++ data)
      (UInt16.ofNat (20 + data.length)) init = 0 := by
  -- the checksum field sits after 16 bytes, and the up field and payload follow it
  have hpre : (e.store16 h.src ++ e.store16 h.dst ++ e.store32 h.seq ++ e.store32 h.ack ++
      [h.off, h.flg] ++ e.store16 h.wnd).length = 16 := by simp
  have hn : 20 + data.length = (e.store16 h.src ++ e.store16 h.dst ++ e.store32 h.seq ++
      e.store32 h.ack ++ [h.off, h.flg] ++ e.store16 h.wnd).length + 2 +
      (e.store16 h.up ++ data).length := by
    rw [hpre]
    simp
    omega
  have hlaw := cksum16_store_cksum16 e
    (e.store16 h.src ++ e.store16 h.dst ++ e.store32 h.seq ++ e.store32 h.ack ++
      [h.off, h.flg] ++ e.store16 h.wnd) (e.store16 h.up ++ data) init (by rw [hpre]) (by omega)
    hinit
  rw [← hn, ← Endian.store16_zero e] at hlaw
  simpa only [TcpHdr.bytes_eq_sum, List.append_assoc] using hlaw

/-- The arrival {lit}`tcp_input` makes of the bytes of a segment. -/
def TcpSegmentOut.arrival (s : TcpSegmentOut) : TcpArrival where
  seg :=
    { seq := s.seq, ack := s.ack,
      len := UInt16.ofNat s.data.length + (if tcpFlgIsset s.flg TCP_FLG_SYN then 1 else 0) +
        (if tcpFlgIsset s.flg TCP_FLG_FIN then 1 else 0),
      wnd := s.wnd, up := 0 }
  flags := s.flg
  data := s.data
  localEp := s.foreign
  foreign := s.localEp

/-- What {lit}`tcp_input` makes of the bytes sent for a segment is its arrival. -/
theorem TcpSegmentOut.tcpInput_bytes (e : Endian) (iface : IpIface) (s : TcpSegmentOut)
    (hlen : s.data.length ≤ 65495)
    (hunicast : s.localEp.addr ≠ IP_ADDR_BROADCAST ∧ s.localEp.addr ≠ iface.broadcast ∧
      s.foreign.addr ≠ IP_ADDR_BROADCAST ∧ s.foreign.addr ≠ iface.broadcast) :
    tcpInput e (s.bytes e) s.localEp.addr s.foreign.addr iface = some s.arrival := by
  obtain ⟨seq, ack, flg, wnd, data, localEp, foreign⟩ := s
  rw [TcpSegmentOut.bytes, TcpSegmentOut.arrival]
  dsimp only at hlen hunicast ⊢
  -- the header tcp_output_segment lays out, its checksum field zero
  obtain ⟨hdr, hhdr⟩ : ∃ hdr : TcpHdr, hdr =
      { src := localEp.port, dst := foreign.port, seq := hton32 e seq, ack := hton32 e ack,
        off := ((20 : UInt8) >>> 2) <<< 4, flg := flg, wnd := hton16 e wnd, sum := 0, up := 0 } :=
    ⟨_, rfl⟩
  obtain ⟨total, htotal⟩ : ∃ total : UInt16, total = UInt16.ofNat (20 + data.length) := ⟨_, rfl⟩
  have htotalNat : total.toNat = 20 + data.length := by
    rw [htotal, UInt16.toNat_ofNat']
    omega
  obtain ⟨sum, hsum⟩ : ∃ sum : UInt16, sum = cksum16 e (TcpHdr.bytes e hdr ++ data) total
      (tcpPseudoSum e localEp.addr foreign.addr total).toUInt32 := ⟨_, rfl⟩
  have hbytes : tcpOutputSegmentBytes e seq ack flg wnd data localEp foreign =
      TcpHdr.bytes e { hdr with sum := sum } ++ data := by
    rw [hsum, hhdr, htotal]
    exact List.take_of_length_le (by simp; omega)
  have hlength : (TcpHdr.bytes e { hdr with sum := sum } ++ data).length = 20 + data.length := by
    simp
  -- the checks of tcp_input pass
  have hcksum : cksum16 e (TcpHdr.bytes e { hdr with sum := sum } ++ data) total
      (tcpPseudoSum e localEp.addr foreign.addr total).toUInt32 = 0 := by
    have hsum0 : hdr = { hdr with sum := 0 } := by rw [hhdr]
    rw [hsum, htotal, hsum0]
    exact cksum16_tcpHdr_sum e hdr data _
      (by rw [UInt16.toNat_toUInt32]; exact Nat.le_of_lt_succ (UInt16.toNat_lt _)) (by omega)
  have hread : TcpHdr.read e (TcpHdr.bytes e { hdr with sum := sum } ++ data) =
      { hdr with sum := sum } :=
    TcpHdr.read_bytes_append e _ data
  have hsub : total - 20 = UInt16.ofNat data.length := by
    apply UInt16.toNat_inj.mp
    rw [UInt16.toNat_sub, htotalNat, UInt16.toNat_ofNat']
    simp
    omega
  rw [hbytes, tcpInput_eq_some hread (by rw [hlength]; omega)
    (by rw [hlength, ← htotal]; exact hcksum) hunicast, hlength, ← htotal]
  -- what tcp_input reads back is what tcp_output_segment stored
  have hoff : tcpHdrLen (((20 : UInt8) >>> 2) <<< 4) = 20 := by decide
  have h20 : (20 : UInt16).toNat = 20 := rfl
  have hup : ntoh16 e 0 = 0 := by cases e <;> decide
  have hdrop : (TcpHdr.bytes e { hdr with sum := sum } ++ data).drop 20 = data :=
    List.drop_left' (TcpHdr.length_bytes e _)
  subst hhdr
  simp only [ntoh32_hton32, ntoh16_hton16, hoff, h20, hup, tcpInputSegLen_eq, hsub, hdrop]

/--
The bytes {lit}`tcp_output_segment` hands to {lit}`ip_output`, given to
{lit}`tcp_input` with the same addresses, reach {lit}`tcp_segment_arrives`
as the segment that was sent, with the endpoints swapped.
-/
theorem tcp_segment_round_trip (e : Endian) (iface : IpIface) (seq ack : UInt32) (flg : UInt8)
    (wnd : UInt16) (data : List UInt8) (localEp foreign : IpEndpoint)
    (hlen : data.length ≤ 65495)
    (hunicast : localEp.addr ≠ IP_ADDR_BROADCAST ∧ localEp.addr ≠ iface.broadcast ∧
      foreign.addr ≠ IP_ADDR_BROADCAST ∧ foreign.addr ≠ iface.broadcast) :
    tcpInput e (tcpOutputSegmentBytes e seq ack flg wnd data localEp foreign)
        localEp.addr foreign.addr iface =
      some
        { seg :=
            { seq := seq, ack := ack,
              len := UInt16.ofNat data.length + (if tcpFlgIsset flg TCP_FLG_SYN then 1 else 0) +
                (if tcpFlgIsset flg TCP_FLG_FIN then 1 else 0),
              wnd := wnd, up := 0 },
          flags := flg, data := data, localEp := foreign, foreign := localEp } :=
  TcpSegmentOut.tcpInput_bytes e iface ⟨seq, ack, flg, wnd, data, localEp, foreign⟩ hlen hunicast

/-- A SYN-ACK carrying two bytes from 10.0.0.1:7 to 10.0.0.2:9, on a little-endian host. -/
theorem tcp_segment_round_trip_syn_ack :
    ([0x41, 0x42] : List UInt8).length ≤ 65495 ∧
      ((0x0a000001 : IpAddr) ≠ IP_ADDR_BROADCAST ∧ (0x0a000001 : IpAddr) ≠ 0x0a0000ff ∧
        (0x0a000002 : IpAddr) ≠ IP_ADDR_BROADCAST ∧ (0x0a000002 : IpAddr) ≠ 0x0a0000ff) ∧
      tcpInput .little
          (tcpOutputSegmentBytes .little 100 1001 (TCP_FLG_SYN ||| TCP_FLG_ACK) 65535 [0x41, 0x42]
            ⟨0x0a000001, 7⟩ ⟨0x0a000002, 9⟩)
          0x0a000001 0x0a000002 ⟨0x0a000001, 0xffffff00, 0x0a0000ff⟩ =
        some
          { seg := { seq := 100, ack := 1001, len := 3, wnd := 65535, up := 0 },
            flags := TCP_FLG_SYN ||| TCP_FLG_ACK, data := [0x41, 0x42],
            localEp := ⟨0x0a000002, 9⟩, foreign := ⟨0x0a000001, 7⟩ } := by
  have hlen : ([0x41, 0x42] : List UInt8).length ≤ 65495 := by decide
  have hunicast : (0x0a000001 : IpAddr) ≠ IP_ADDR_BROADCAST ∧ (0x0a000001 : IpAddr) ≠ 0x0a0000ff ∧
      (0x0a000002 : IpAddr) ≠ IP_ADDR_BROADCAST ∧ (0x0a000002 : IpAddr) ≠ 0x0a0000ff := by
    decide
  refine ⟨hlen, hunicast, ?_⟩
  rw [tcp_segment_round_trip .little ⟨0x0a000001, 0xffffff00, 0x0a0000ff⟩ 100 1001
    (TCP_FLG_SYN ||| TCP_FLG_ACK) 65535 [0x41, 0x42] ⟨0x0a000001, 7⟩ ⟨0x0a000002, 9⟩ hlen hunicast]
  decide

end ProtocolStack
