import Mathlib
import ProtocolStack.Tcp.SegmentArrives

/-!
# User commands and the timer

The critical sections of {lit}`tcp_open_rfc793`, {lit}`tcp_close`,
{lit}`tcp_send` and {lit}`tcp_receive`, and the per-pcb work of
{lit}`tcp_timer`.  A user command holds the mutex from its start to its first
sleep and between wake-ups, so each section below runs atomically:

* {lit}`tcp_open_rfc793` allocates and initialises the pcb, then sleeps until
  the state changes; each wake-up compares the state with the one it recorded.
* Each pass of the loop of {lit}`tcp_send` sends at most
  {lit}`MIN(MIN(mss, len - sent), cap)` bytes; the pass is given the bytes not
  yet sent and the MTU of the device {lit}`ip_route_get_iface` found.
* {lit}`tcp_receive` copies out of the receive buffer and reopens the window.
-/

namespace ProtocolStack

def tcpOpenRfc793Active (env : TcpEnv) (pcb : TcpPcb) (localEp foreign : IpEndpoint) :
    TcpPcb × List TcpSegmentOut :=
  let pcb1 :=
    { pcb with
      localEp := localEp, foreign := foreign, rcvWnd := 65535, iss := env.random }
  match tcpOutput env pcb1 TCP_FLG_SYN [] with
  | (pcb2, s, ok) =>
      if !ok then (tcpPcbRelease { pcb2 with state := .closed }, [s])
      else ({ pcb2 with sndUna := pcb2.iss, sndNxt := pcb2.iss + 1, state := .synSent }, [s])

def tcpOpenRfc793Passive (pcb : TcpPcb) (localEp : IpEndpoint)
    (foreign : Option IpEndpoint) : TcpPcb :=
  let pcb1 := { pcb with localEp := localEp }
  let pcb2 :=
    match foreign with
    | some f => { pcb1 with foreign := f }
    | none => pcb1
  { pcb2 with state := .listen }

/-- What a wake-up of {lit}`tcp_open_rfc793` concludes. -/
inductive TcpOpenWake
  | sleep
  | again
  | established
  | failed
  deriving DecidableEq, Repr

/--
A wake-up of {lit}`tcp_open_rfc793` that recorded {lit}`recorded` before
sleeping: sleep again while the state is unchanged, record SYN-RECEIVED
anew, return on ESTABLISHED, and release the pcb otherwise.
-/
def tcpOpenRfc793Wake (pcb : TcpPcb) (recorded : TcpState) : TcpPcb × TcpOpenWake :=
  if pcb.state = recorded then (pcb, .sleep)
  else if pcb.state = .established then (pcb, .established)
  else if pcb.state = .synReceived then (pcb, .again)
  else (tcpPcbRelease { pcb with state := .closed }, .failed)

/-- An interrupted sleep in {lit}`tcp_open_rfc793`. -/
def tcpOpenRfc793Interrupted (pcb : TcpPcb) : TcpPcb :=
  tcpPcbRelease { pcb with state := .closed }

def tcpClose (env : TcpEnv) (pcb : TcpPcb) : TcpPcb × List TcpSegmentOut × Int :=
  let closeWith (next : TcpState) :=
    match tcpOutput env pcb (TCP_FLG_ACK ||| TCP_FLG_FIN) [] with
    | (pcb1, s, _) =>
        let pcb2 := { pcb1 with sndNxt := pcb1.sndNxt + 1, state := next }
        (if pcb2.state = .closed then tcpPcbRelease pcb2 else pcb2, [s], (0 : Int))
  match pcb.state with
  | .established => closeWith .finWait1
  | .closeWait => closeWith .lastAck
  | _ => (pcb, [], -1)

/-- {lit}`mss` in {lit}`tcp_send`: the device MTU less 40, as a {lit}`size_t`. -/
def tcpSendMss (mtu : UInt16) : Nat :=
  (mtu.toUInt64 - UInt64.ofNat (IP_HDR_SIZE_MIN + 20)).toNat

/-- {lit}`cap` in {lit}`tcp_send`: the window less the bytes in flight, in 32 bits. -/
def tcpSendCap (pcb : TcpPcb) : Nat :=
  (pcb.sndWnd.toUInt32 - (pcb.sndNxt - pcb.sndUna)).toNat

/-- What one pass of the loop of {lit}`tcp_send` concludes. -/
inductive TcpSendPass
  | sent (slen : Nat)
  | sleep
  | failed
  deriving DecidableEq, Repr

/--
One pass of the loop of {lit}`tcp_send` with the bytes {lit}`rest` not yet
sent, through a device of MTU {lit}`mtu` ({lit}`none` when
{lit}`ip_route_get_iface` finds no interface).
-/
def tcpSendPass (env : TcpEnv) (pcb : TcpPcb) (mtu : Option UInt16) (rest : List UInt8) :
    TcpPcb × List TcpSegmentOut × TcpSendPass :=
  match pcb.state, mtu with
  | .established, some m | .closeWait, some m =>
      let cap := tcpSendCap pcb
      if cap = 0 then (pcb, [], .sleep)
      else
        let slen := min (min (tcpSendMss m) rest.length) cap
        match tcpOutput env pcb (TCP_FLG_ACK ||| TCP_FLG_PSH) (rest.take slen) with
        | (pcb1, s, ok) =>
            if !ok then (tcpPcbRelease { pcb1 with state := .closed }, [s], .failed)
            else ({ pcb1 with sndNxt := pcb1.sndNxt + UInt32.ofNat slen }, [s], .sent slen)
  | _, _ => (pcb, [], .failed)

/-- {lit}`memmove(buf, buf + len, remain - len)`. -/
def memmoveDown (buf : Nat → UInt8) (len remain : Nat) : Nat → UInt8 :=
  fun i => if i < remain - len then buf (i + len) else buf i

/-- The first {lit}`n` bytes of the receive buffer. -/
def bufPrefix (buf : Nat → UInt8) (n : Nat) : List UInt8 :=
  (List.range n).map buf

/-- The bytes the receive buffer holds: {lit}`buf[0 .. sizeof(buf) - rcv.wnd)`. -/
def TcpPcb.held (pcb : TcpPcb) : List UInt8 :=
  bufPrefix pcb.buf (TCP_BUF_SIZE - pcb.rcvWnd.toNat)

@[simp] theorem length_bufPrefix (buf : Nat → UInt8) (n : Nat) :
    (bufPrefix buf n).length = n := by
  simp [bufPrefix]

theorem getElem_bufPrefix (buf : Nat → UInt8) (n i : Nat) (h : i < (bufPrefix buf n).length) :
    (bufPrefix buf n)[i] = buf i := by
  simp [bufPrefix]

/-- The copy of the 7th step appends the payload to the bytes before its offset. -/
theorem bufPrefix_memcpyAt (buf : Nat → UInt8) (off : Nat) (data : List UInt8) :
    bufPrefix (memcpyAt buf off data) (off + data.length) = bufPrefix buf off ++ data := by
  apply List.ext_getElem
  · simp
  · intro i h1 h2
    rw [getElem_bufPrefix, List.getElem_append]
    have hi : i < off + data.length := by simpa using h1
    unfold memcpyAt
    split
    · rename_i hin
      have hoff : ¬i < off := by omega
      simp [hoff, List.getElem?_eq_getElem (Nat.sub_lt_left_of_lt_add hin.1 hin.2)]
    · rename_i hout
      have hoff : i < off := by omega
      simp [hoff, getElem_bufPrefix]

/-- The {lit}`memmove` of {lit}`tcp_receive` drops the bytes copied out. -/
theorem bufPrefix_memmoveDown (buf : Nat → UInt8) (len remain : Nat) :
    bufPrefix (memmoveDown buf len remain) (remain - len) = (bufPrefix buf remain).drop len := by
  apply List.ext_getElem
  · simp
  · intro i h1 h2
    have hi : i < remain - len := by simpa using h1
    simp [memmoveDown, hi, bufPrefix, Nat.add_comm]

theorem bufPrefix_take (buf : Nat → UInt8) {len remain : Nat} (h : len ≤ remain) :
    bufPrefix buf len = (bufPrefix buf remain).take len := by
  apply List.ext_getElem
  · simp [h]
  · intro i h1 h2
    simp [getElem_bufPrefix]

/-- What {lit}`tcp_receive` returns, or that it sleeps. -/
inductive TcpReceiveResult
  | data (bytes : List UInt8)
  | eof
  | sleep
  | error
  deriving DecidableEq, Repr

/-- The copy out of the receive buffer at the end of {lit}`tcp_receive`. -/
def tcpReceiveCopy (pcb : TcpPcb) (size remain : Nat) : TcpPcb × TcpReceiveResult :=
  let len := min size remain
  ({ pcb with
      buf := memmoveDown pcb.buf len remain, rcvWnd := pcb.rcvWnd + UInt16.ofNat len },
    .data (bufPrefix pcb.buf len))

def tcpReceive (pcb : TcpPcb) (size : Nat) : TcpPcb × TcpReceiveResult :=
  match pcb.state with
  | .established =>
      let remain := TCP_BUF_SIZE - pcb.rcvWnd.toNat
      if remain = 0 then (pcb, .sleep) else tcpReceiveCopy pcb size remain
  | .closeWait =>
      let remain := TCP_BUF_SIZE - pcb.rcvWnd.toNat
      if remain ≠ 0 then tcpReceiveCopy pcb size remain else (pcb, .eof)
  | _ => (pcb, .error)

/-- The bytes a call of {lit}`tcp_receive` returns to its caller. -/
def TcpReceiveResult.bytes : TcpReceiveResult → List UInt8
  | .data bytes => bytes
  | _ => []

/-- The copy hands out the front of the held bytes and keeps the rest. -/
theorem tcpReceiveCopy_bytes_append_held (pcb : TcpPcb) (size : Nat) :
    (tcpReceiveCopy pcb size (TCP_BUF_SIZE - pcb.rcvWnd.toNat)).2.bytes ++
      (tcpReceiveCopy pcb size (TCP_BUF_SIZE - pcb.rcvWnd.toNat)).1.held = pcb.held := by
  have hwnd : pcb.rcvWnd.toNat < 2 ^ 16 := pcb.rcvWnd.toNat_lt
  have hle : min size (TCP_BUF_SIZE - pcb.rcvWnd.toNat) ≤ TCP_BUF_SIZE - pcb.rcvWnd.toNat :=
    min_le_right _ _
  have hsum : (pcb.rcvWnd + UInt16.ofNat (min size (TCP_BUF_SIZE - pcb.rcvWnd.toNat))).toNat =
      pcb.rcvWnd.toNat + min size (TCP_BUF_SIZE - pcb.rcvWnd.toNat) := by
    simp only [UInt16.toNat_add, UInt16.toNat_ofNat']
    simp only [TCP_BUF_SIZE] at hle ⊢
    omega
  have hheld : TCP_BUF_SIZE -
      (pcb.rcvWnd + UInt16.ofNat (min size (TCP_BUF_SIZE - pcb.rcvWnd.toNat))).toNat =
      TCP_BUF_SIZE - pcb.rcvWnd.toNat - min size (TCP_BUF_SIZE - pcb.rcvWnd.toNat) := by
    omega
  simp only [tcpReceiveCopy, TcpReceiveResult.bytes, TcpPcb.held, hheld]
  rw [bufPrefix_memmoveDown, bufPrefix_take pcb.buf hle, List.take_append_drop]

/-- {lit}`tcp_receive` moves bytes from the front of the buffer to its caller. -/
theorem tcpReceive_bytes_append_held (pcb : TcpPcb) (size : Nat) :
    (tcpReceive pcb size).2.bytes ++ (tcpReceive pcb size).1.held = pcb.held := by
  unfold tcpReceive
  dsimp only
  split
  · split
    · rfl
    · exact tcpReceiveCopy_bytes_append_held pcb size
  · split
    · exact tcpReceiveCopy_bytes_append_held pcb size
    · rfl
  · rfl

/-- {lit}`tcp_receive` changes the buffer and the window only. -/
theorem tcpReceive_fst (pcb : TcpPcb) (size : Nat) :
    ∃ buf wnd, (tcpReceive pcb size).1 = { pcb with buf := buf, rcvWnd := wnd } := by
  unfold tcpReceive tcpReceiveCopy
  dsimp only
  split
  · split
    · exact ⟨pcb.buf, pcb.rcvWnd, rfl⟩
    · exact ⟨_, _, rfl⟩
  · split
    · exact ⟨_, _, rfl⟩
    · exact ⟨pcb.buf, pcb.rcvWnd, rfl⟩
  · exact ⟨pcb.buf, pcb.rcvWnd, rfl⟩

/-- The work of {lit}`tcp_timer` on one pcb. -/
def tcpTimerPcb (env : TcpEnv) (pcb : TcpPcb) : TcpPcb × List TcpSegmentOut :=
  if pcb.state = .free then (pcb, [])
  else
    match tcpRetransmitQueueEmitAll env pcb pcb.queue with
    | (pcb1, queue1, out) => ({ pcb1 with queue := queue1 }, out)

/-!
## The receive side under user commands and the timer
-/

theorem tcpOpenRfc793Active_recv (env : TcpEnv) (pcb : TcpPcb) (localEp foreign : IpEndpoint) :
    (tcpOpenRfc793Active env pcb localEp foreign).1 = TcpPcb.zero ∨
      ((tcpOpenRfc793Active env pcb localEp foreign).1.state = .synSent ∧
        (tcpOpenRfc793Active env pcb localEp foreign).1.rcvWnd = 65535) := by
  unfold tcpOpenRfc793Active
  dsimp only
  split
  · exact .inl rfl
  · refine .inr ⟨rfl, ?_⟩
    rw [tcpOutput_fst]

@[simp] theorem tcpOpenRfc793Passive_state (pcb : TcpPcb) (localEp : IpEndpoint)
    (foreign : Option IpEndpoint) : (tcpOpenRfc793Passive pcb localEp foreign).state = .listen := by
  unfold tcpOpenRfc793Passive
  split <;> rfl

@[simp] theorem tcpOpenRfc793Passive_queue (pcb : TcpPcb) (localEp : IpEndpoint)
    (foreign : Option IpEndpoint) : (tcpOpenRfc793Passive pcb localEp foreign).queue = pcb.queue := by
  unfold tcpOpenRfc793Passive
  split <;> rfl

theorem tcpOpenRfc793Wake_fst (pcb : TcpPcb) (recorded : TcpState) :
    (tcpOpenRfc793Wake pcb recorded).1 = pcb ∨ (tcpOpenRfc793Wake pcb recorded).1 = TcpPcb.zero := by
  unfold tcpOpenRfc793Wake
  split_ifs
  · exact .inl rfl
  · exact .inl rfl
  · exact .inl rfl
  · exact .inr rfl

/-- {lit}`tcp_close` sends its FIN from ESTABLISHED or CLOSE-WAIT and touches nothing of the receive side. -/
theorem tcpClose_recv (env : TcpEnv) (pcb : TcpPcb) :
    (tcpClose env pcb).1 = pcb ∨
      (pcb.SameRecv (tcpClose env pcb).1 ∧
        ((pcb.state = .established ∧ (tcpClose env pcb).1.state = .finWait1) ∨
          (pcb.state = .closeWait ∧ (tcpClose env pcb).1.state = .lastAck))) := by
  unfold tcpClose
  dsimp only
  split
  · rename_i hst
    refine .inr ⟨?_, .inl ⟨hst, by simp⟩⟩
    simp only [reduceCtorEq, if_false, tcpOutput_fst]
    exact ⟨rfl, rfl, rfl, rfl⟩
  · rename_i hst
    refine .inr ⟨?_, .inr ⟨hst, by simp⟩⟩
    simp only [reduceCtorEq, if_false, tcpOutput_fst]
    exact ⟨rfl, rfl, rfl, rfl⟩
  · exact .inl rfl

/-- A pass of {lit}`tcp_send` advances snd.nxt, or releases the pcb when {lit}`ip_output` fails. -/
theorem tcpSendPass_recv (env : TcpEnv) (pcb : TcpPcb) (mtu : Option UInt16) (rest : List UInt8) :
    (tcpSendPass env pcb mtu rest).1 = TcpPcb.zero ∨
      (pcb.SameRecv (tcpSendPass env pcb mtu rest).1 ∧
        (tcpSendPass env pcb mtu rest).1.state = pcb.state) := by
  unfold tcpSendPass
  dsimp only
  split
  · split
    · exact .inr ⟨TcpPcb.SameRecv.refl pcb, rfl⟩
    · split
      · exact .inl rfl
      · refine .inr ⟨?_, ?_⟩
        · dsimp only
          refine ⟨?_, ?_, ?_, ?_⟩ <;> rw [tcpOutput_fst]
        · dsimp only
          rw [tcpOutput_fst]
  · split
    · exact .inr ⟨TcpPcb.SameRecv.refl pcb, rfl⟩
    · split
      · exact .inl rfl
      · refine .inr ⟨?_, ?_⟩
        · dsimp only
          refine ⟨?_, ?_, ?_, ?_⟩ <;> rw [tcpOutput_fst]
        · dsimp only
          rw [tcpOutput_fst]
  · exact .inr ⟨TcpPcb.SameRecv.refl pcb, rfl⟩

theorem tcpRetransmitQueueEmit_recv (env : TcpEnv) (pcb : TcpPcb) (entry : TcpQueueEntry) :
    pcb.SameRecv (tcpRetransmitQueueEmit env pcb entry).1 ∧
      ((tcpRetransmitQueueEmit env pcb entry).1.state = pcb.state ∨
        (tcpRetransmitQueueEmit env pcb entry).1.state = .closed) := by
  unfold tcpRetransmitQueueEmit
  split_ifs
  · exact ⟨⟨rfl, rfl, rfl, rfl⟩, .inr rfl⟩
  · exact ⟨TcpPcb.SameRecv.refl pcb, .inl rfl⟩
  · exact ⟨TcpPcb.SameRecv.refl pcb, .inl rfl⟩

/-- The retransmission timer keeps the receive side and may only abort to CLOSED. -/
theorem tcpRetransmitQueueEmitAll_recv (env : TcpEnv) :
    ∀ (pcb : TcpPcb) (queue : List TcpQueueEntry),
      pcb.SameRecv (tcpRetransmitQueueEmitAll env pcb queue).1 ∧
        ((tcpRetransmitQueueEmitAll env pcb queue).1.state = pcb.state ∨
          (tcpRetransmitQueueEmitAll env pcb queue).1.state = .closed)
  | pcb, [] => ⟨TcpPcb.SameRecv.refl pcb, .inl rfl⟩
  | pcb, entry :: rest => by
      obtain ⟨hrecv, hst⟩ := tcpRetransmitQueueEmit_recv env pcb entry
      obtain ⟨hrecv', hst'⟩ :=
        tcpRetransmitQueueEmitAll_recv env (tcpRetransmitQueueEmit env pcb entry).1 rest
      refine ⟨hrecv.trans hrecv', ?_⟩
      show (tcpRetransmitQueueEmitAll env (tcpRetransmitQueueEmit env pcb entry).1 rest).1.state =
          pcb.state ∨ _
      rcases hst' with h | h
      · rw [h]
        rcases hst with h' | h'
        · exact .inl h'
        · exact .inr (h.trans h')
      · exact .inr h

theorem tcpTimerPcb_recv (env : TcpEnv) (pcb : TcpPcb) :
    pcb.SameRecv (tcpTimerPcb env pcb).1 ∧
      ((tcpTimerPcb env pcb).1.state = pcb.state ∨ (tcpTimerPcb env pcb).1.state = .closed) := by
  unfold tcpTimerPcb
  split
  · exact ⟨TcpPcb.SameRecv.refl pcb, .inl rfl⟩
  · obtain ⟨hrecv, hst⟩ := tcpRetransmitQueueEmitAll_recv env pcb pcb.queue
    exact ⟨⟨hrecv.1, hrecv.2, hrecv.3, hrecv.4⟩, hst⟩

/-- With nothing queued the timer leaves the pcb alone. -/
theorem tcpTimerPcb_of_queue_nil (env : TcpEnv) (pcb : TcpPcb) (h : pcb.queue = []) :
    (tcpTimerPcb env pcb).1 = pcb := by
  unfold tcpTimerPcb
  split
  · rfl
  · have hq : tcpRetransmitQueueEmitAll env pcb pcb.queue = (pcb, pcb.queue, []) := by
      rw [h]
      rfl
    rw [hq]

/-!
## The commands as record updates
-/

/-- An active open sets the endpoints, iss, snd.una = iss and snd.nxt = iss + 1 and queues its SYN, or releases the pcb. -/
theorem tcpOpenRfc793Active_fst (env : TcpEnv) (pcb : TcpPcb) (localEp foreign : IpEndpoint) :
    (tcpOpenRfc793Active env pcb localEp foreign).1 = TcpPcb.zero ∨
      ∃ q, (tcpOpenRfc793Active env pcb localEp foreign).1 =
        { pcb with
          localEp := localEp, foreign := foreign, rcvWnd := 65535, iss := env.random, queue := q,
          sndUna := env.random, sndNxt := env.random + 1, state := .synSent } := by
  unfold tcpOpenRfc793Active
  dsimp only
  split
  · exact .inl rfl
  · exact .inr ⟨_, by rw [tcpOutput_fst]⟩

/-- CLOSE sends our FIN from ESTABLISHED and CLOSE-WAIT, and changes nothing elsewhere. -/
theorem tcpClose_fst (env : TcpEnv) (pcb : TcpPcb) :
    (tcpClose env pcb).1 = pcb ∨
      ∃ q next, ((pcb.state = .established ∧ next = .finWait1) ∨
          (pcb.state = .closeWait ∧ next = .lastAck)) ∧
        (tcpClose env pcb).1 = { pcb with queue := q, sndNxt := pcb.sndNxt + 1, state := next } := by
  unfold tcpClose
  dsimp only
  split
  · rename_i hst
    exact .inr ⟨_, .finWait1, .inl ⟨hst, rfl⟩,
      by simp only [reduceCtorEq, if_false, tcpOutput_fst]; rfl⟩
  · rename_i hst
    exact .inr ⟨_, .lastAck, .inr ⟨hst, rfl⟩,
      by simp only [reduceCtorEq, if_false, tcpOutput_fst]; rfl⟩
  · exact .inl rfl

/-- A pass of {lit}`tcp_send` in ESTABLISHED or CLOSE-WAIT queues its segment and moves snd.nxt over it. -/
theorem tcpSendPass_fst (env : TcpEnv) (pcb : TcpPcb) (mtu : Option UInt16) (rest : List UInt8) :
    (tcpSendPass env pcb mtu rest).1 = TcpPcb.zero ∨ (tcpSendPass env pcb mtu rest).1 = pcb ∨
      ∃ q slen, slen ≤ rest.length ∧ (pcb.state = .established ∨ pcb.state = .closeWait) ∧
        (tcpSendPass env pcb mtu rest).1 =
          { pcb with queue := q, sndNxt := pcb.sndNxt + UInt32.ofNat slen } := by
  unfold tcpSendPass
  split
  · rename_i m hst
    dsimp only
    split
    · exact .inr (.inl rfl)
    · split
      · exact .inl rfl
      · exact .inr (.inr ⟨_, min (min (tcpSendMss m) rest.length) (tcpSendCap pcb), by omega,
          .inl hst, by rw [tcpOutput_fst]⟩)
  · rename_i m hst
    dsimp only
    split
    · exact .inr (.inl rfl)
    · split
      · exact .inl rfl
      · exact .inr (.inr ⟨_, min (min (tcpSendMss m) rest.length) (tcpSendCap pcb), by omega,
          .inr hst, by rw [tcpOutput_fst]⟩)
  · exact .inr (.inl rfl)

/-- The retransmission timer changes only the state, to CLOSED when an entry passes its deadline. -/
theorem tcpRetransmitQueueEmitAll_fst (env : TcpEnv) :
    ∀ (pcb : TcpPcb) (queue : List TcpQueueEntry), ∃ st, (st = pcb.state ∨ st = .closed) ∧
      (tcpRetransmitQueueEmitAll env pcb queue).1 = { pcb with state := st }
  | pcb, [] => ⟨pcb.state, .inl rfl, rfl⟩
  | pcb, entry :: rest => by
      obtain ⟨st1, hst1, h1⟩ : ∃ st, (st = pcb.state ∨ st = .closed) ∧
          (tcpRetransmitQueueEmit env pcb entry).1 = { pcb with state := st } := by
        unfold tcpRetransmitQueueEmit
        split_ifs
        · exact ⟨.closed, .inr rfl, rfl⟩
        · exact ⟨pcb.state, .inl rfl, rfl⟩
        · exact ⟨pcb.state, .inl rfl, rfl⟩
      obtain ⟨st2, hst2, h2⟩ :=
        tcpRetransmitQueueEmitAll_fst env (tcpRetransmitQueueEmit env pcb entry).1 rest
      refine ⟨st2, ?_, ?_⟩
      · rcases hst2 with h | h
        · rw [h, h1]
          exact hst1
        · exact .inr h
      · show (tcpRetransmitQueueEmitAll env (tcpRetransmitQueueEmit env pcb entry).1 rest).1 = _
        rw [h2, h1]

theorem tcpTimerPcb_fst (env : TcpEnv) (pcb : TcpPcb) :
    ∃ st q, (st = pcb.state ∨ st = .closed) ∧
      (tcpTimerPcb env pcb).1 = { pcb with state := st, queue := q } := by
  unfold tcpTimerPcb
  split
  · exact ⟨pcb.state, pcb.queue, .inl rfl, rfl⟩
  · obtain ⟨st, hst, h⟩ := tcpRetransmitQueueEmitAll_fst env pcb pcb.queue
    exact ⟨st, _, hst, by dsimp only; rw [h]⟩

end ProtocolStack
