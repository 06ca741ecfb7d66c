import Mathlib
import ProtocolStack.Library.Run
import ProtocolStack.Tcp.User

/-!
# The TCP layer as a system

Two levels.  A connection is one pcb under a sequence of events: the
critical sections of the user commands on it, the arrival of a segment that
{lit}`tcp_pcb_select` chose it for, and timer ticks.  The stack is the table
of sixteen pcbs under user commands (with {lit}`tcp_pcb_alloc` and
{lit}`tcp_pcb_get`), arrivals (with {lit}`tcp_pcb_select`) and ticks.

The state a waiting {lit}`tcp_open_rfc793` recorded is a parameter of its
wake-up, and an interrupted sleep may release the pcb in any state: the
connection level over-approximates the threads, so what it proves holds a
fortiori.  {lit}`tcpStackStep_pcb` shows that every step of the table acts
on each pcb by a connection-level event.
-/

namespace ProtocolStack

/-- An event as one pcb sees it. -/
inductive TcpEvent
  | openActive (localEp foreign : IpEndpoint)
  | openPassive (localEp : IpEndpoint) (foreign : Option IpEndpoint)
  | openWake (recorded : TcpState)
  | openInterrupted
  | close
  | send (mtu : Option UInt16) (rest : List UInt8)
  | receive (size : Nat)
  | arrive (a : TcpArrival)
  | timer

/-- What a step shows: the segments handed to {lit}`ip_output` and the bytes returned to the user. -/
structure TcpObs where
  out : List TcpSegmentOut
  received : List UInt8
  deriving DecidableEq, Repr

def TcpObs.sent (out : List TcpSegmentOut) : TcpObs :=
  { out := out, received := [] }

@[simp] theorem TcpObs.sent_out (out : List TcpSegmentOut) : (TcpObs.sent out).out = out :=
  rfl

@[simp] theorem TcpObs.sent_received (out : List TcpSegmentOut) :
    (TcpObs.sent out).received = [] :=
  rfl

/-- One step of a connection. -/
def tcpStep (ev : TcpEnv × TcpEvent) (pcb : TcpPcb) : TcpPcb × TcpObs :=
  match ev with
  | (env, .openActive localEp foreign) =>
      if pcb.state = .free then
        match tcpOpenRfc793Active env pcb.alloc localEp foreign with
        | (pcb', out) => (pcb', TcpObs.sent out)
      else (pcb, TcpObs.sent [])
  | (_, .openPassive localEp foreign) =>
      if pcb.state = .free then (tcpOpenRfc793Passive pcb.alloc localEp foreign, TcpObs.sent [])
      else (pcb, TcpObs.sent [])
  | (_, .openWake recorded) => ((tcpOpenRfc793Wake pcb recorded).1, TcpObs.sent [])
  | (_, .openInterrupted) => (tcpOpenRfc793Interrupted pcb, TcpObs.sent [])
  | (env, .close) =>
      match tcpClose env pcb with
      | (pcb', out, _) => (pcb', TcpObs.sent out)
  | (env, .send mtu rest) =>
      match tcpSendPass env pcb mtu rest with
      | (pcb', out, _) => (pcb', TcpObs.sent out)
  | (_, .receive size) =>
      match tcpReceive pcb size with
      | (pcb', .data bytes) => (pcb', { out := [], received := bytes })
      | (pcb', _) => (pcb', TcpObs.sent [])
  | (env, .arrive a) =>
      match tcpSegmentArrivesPcb env pcb a with
      | (pcb', out) => (pcb', TcpObs.sent out)
  | (env, .timer) =>
      match tcpTimerPcb env pcb with
      | (pcb', out) => (pcb', TcpObs.sent out)

theorem tcpStep_openActive_of_free (env : TcpEnv) (localEp foreign : IpEndpoint) (pcb : TcpPcb)
    (h : pcb.state = .free) :
    tcpStep (env, .openActive localEp foreign) pcb =
      ((tcpOpenRfc793Active env pcb.alloc localEp foreign).1,
        TcpObs.sent (tcpOpenRfc793Active env pcb.alloc localEp foreign).2) := by
  simp [tcpStep, h]

theorem tcpStep_openPassive_of_free (env : TcpEnv) (localEp : IpEndpoint)
    (foreign : Option IpEndpoint) (pcb : TcpPcb) (h : pcb.state = .free) :
    tcpStep (env, .openPassive localEp foreign) pcb =
      (tcpOpenRfc793Passive pcb.alloc localEp foreign, TcpObs.sent []) := by
  simp [tcpStep, h]

@[simp] theorem tcpStep_openActive_of_ne_free (env : TcpEnv) (localEp foreign : IpEndpoint)
    (pcb : TcpPcb) (h : pcb.state ≠ .free) :
    tcpStep (env, .openActive localEp foreign) pcb = (pcb, TcpObs.sent []) := by
  simp [tcpStep, h]

@[simp] theorem tcpStep_openPassive_of_ne_free (env : TcpEnv) (localEp : IpEndpoint)
    (foreign : Option IpEndpoint) (pcb : TcpPcb) (h : pcb.state ≠ .free) :
    tcpStep (env, .openPassive localEp foreign) pcb = (pcb, TcpObs.sent []) := by
  simp [tcpStep, h]

@[simp] theorem tcpStep_openWake (env : TcpEnv) (recorded : TcpState) (pcb : TcpPcb) :
    tcpStep (env, .openWake recorded) pcb =
      ((tcpOpenRfc793Wake pcb recorded).1, TcpObs.sent []) :=
  rfl

@[simp] theorem tcpStep_openInterrupted (env : TcpEnv) (pcb : TcpPcb) :
    tcpStep (env, .openInterrupted) pcb = (tcpOpenRfc793Interrupted pcb, TcpObs.sent []) :=
  rfl

@[simp] theorem tcpStep_close (env : TcpEnv) (pcb : TcpPcb) :
    tcpStep (env, .close) pcb = ((tcpClose env pcb).1, TcpObs.sent (tcpClose env pcb).2.1) :=
  rfl

@[simp] theorem tcpStep_send (env : TcpEnv) (mtu : Option UInt16) (rest : List UInt8)
    (pcb : TcpPcb) :
    tcpStep (env, .send mtu rest) pcb =
      ((tcpSendPass env pcb mtu rest).1, TcpObs.sent (tcpSendPass env pcb mtu rest).2.1) :=
  rfl

@[simp] theorem tcpStep_receive (env : TcpEnv) (size : Nat) (pcb : TcpPcb) :
    tcpStep (env, .receive size) pcb =
      ((tcpReceive pcb size).1, { out := [], received := (tcpReceive pcb size).2.bytes }) := by
  rcases h : tcpReceive pcb size with ⟨pcb', result⟩
  cases result <;> simp [tcpStep, h, TcpReceiveResult.bytes, TcpObs.sent]

@[simp] theorem tcpStep_arrive (env : TcpEnv) (a : TcpArrival) (pcb : TcpPcb) :
    tcpStep (env, .arrive a) pcb =
      ((tcpSegmentArrivesPcb env pcb a).1, TcpObs.sent (tcpSegmentArrivesPcb env pcb a).2) :=
  rfl

@[simp] theorem tcpStep_timer (env : TcpEnv) (pcb : TcpPcb) :
    tcpStep (env, .timer) pcb = ((tcpTimerPcb env pcb).1, TcpObs.sent (tcpTimerPcb env pcb).2) :=
  rfl

/-- The first event of a connection leaves the zero-filled pcb FREE, in LISTEN or in SYN-SENT. -/
theorem tcpStep_zero_state (ev : TcpEnv × TcpEvent) :
    (tcpStep ev TcpPcb.zero).1.state = .free ∨ (tcpStep ev TcpPcb.zero).1.state = .listen ∨
      (tcpStep ev TcpPcb.zero).1.state = .synSent := by
  obtain ⟨env, e⟩ := ev
  cases e with
  | openActive localEp foreign =>
      rw [tcpStep_openActive_of_free env localEp foreign TcpPcb.zero rfl]
      rcases tcpOpenRfc793Active_recv env TcpPcb.zero.alloc localEp foreign with h | ⟨h, -⟩
      · rw [h]
        exact .inl rfl
      · exact .inr (.inr h)
  | openPassive localEp foreign =>
      rw [tcpStep_openPassive_of_free env localEp foreign TcpPcb.zero rfl]
      exact .inr (.inl (tcpOpenRfc793Passive_state _ _ _))
  | openWake recorded =>
      rcases tcpOpenRfc793Wake_fst TcpPcb.zero recorded with h | h <;>
        rw [tcpStep_openWake, h] <;> exact .inl rfl
  | arrive a =>
      have hrej : tcpSegmentAcceptable TcpPcb.zero a.seg = false := rfl
      rw [tcpStep_arrive, tcpSegmentArrivesPcb_otherwise env _ a (by decide) (by decide) (by decide),
        tcpSegmentArrivesOtherwise_fst]
      simp [hrej]
      exact .inl rfl
  | openInterrupted | close | send | receive | timer => exact .inl rfl

/-- A run of a connection from a zero-filled pcb. -/
def tcpRun (evs : List (TcpEnv × TcpEvent)) : TcpPcb × List TcpObs :=
  Run.run tcpStep TcpPcb.zero evs

theorem tcpRun_append_singleton (evs : List (TcpEnv × TcpEvent)) (ev : TcpEnv × TcpEvent) :
    tcpRun (evs ++ [ev]) =
      ((tcpStep ev (tcpRun evs).1).1, (tcpRun evs).2 ++ [(tcpStep ev (tcpRun evs).1).2]) := by
  rw [tcpRun, Run.run_append]
  rfl

/-!
## The pcb table
-/

/-- An event of the whole TCP layer. -/
inductive TcpStackEvent
  | openCall (localEp : IpEndpoint) (foreign : Option IpEndpoint) (active : Bool)
  | openWake (id : Nat) (recorded : TcpState)
  | openInterrupted (id : Nat)
  | close (id : Int)
  | send (id : Int) (mtu : Option UInt16) (rest : List UInt8)
  | receive (id : Int) (size : Nat)
  | arrive (a : TcpArrival)
  | timer

/-- Apply a connection event to the pcb at index {lit}`i`. -/
def tcpStepAt (env : TcpEnv) (ev : TcpEvent) (pcbs : List TcpPcb) (i : Nat) :
    List TcpPcb × TcpObs :=
  match pcbs[i]? with
  | none => (pcbs, TcpObs.sent [])
  | some pcb =>
      match tcpStep (env, ev) pcb with
      | (pcb', obs) => (pcbs.set i pcb', obs)

/-- A user command on the pcb with id {lit}`id`, through {lit}`tcp_pcb_get`. -/
def tcpStepGet (env : TcpEnv) (ev : TcpEvent) (pcbs : List TcpPcb) (id : Int) :
    List TcpPcb × TcpObs :=
  match tcpPcbGet pcbs id with
  | none => (pcbs, TcpObs.sent [])
  | some _ => tcpStepAt env ev pcbs id.toNat

/-- One step of the TCP layer. -/
def tcpStackStep (ev : TcpEnv × TcpStackEvent) (pcbs : List TcpPcb) :
    List TcpPcb × TcpObs :=
  match ev with
  | (env, .openCall localEp foreign active) =>
      match tcpPcbAlloc pcbs with
      | none => (pcbs, TcpObs.sent [])
      | some i =>
          if active then
            match foreign with
            | some f => tcpStepAt env (.openActive localEp f) pcbs i
            | none => (pcbs, TcpObs.sent [])
          else tcpStepAt env (.openPassive localEp foreign) pcbs i
  | (env, .openWake id recorded) => tcpStepAt env (.openWake recorded) pcbs id
  | (env, .openInterrupted id) => tcpStepAt env .openInterrupted pcbs id
  | (env, .close id) => tcpStepGet env .close pcbs id
  | (env, .send id mtu rest) => tcpStepGet env (.send mtu rest) pcbs id
  | (env, .receive id size) => tcpStepGet env (.receive size) pcbs id
  | (env, .arrive a) =>
      match tcpSegmentArrives env pcbs a with
      | (pcbs', out) => (pcbs', TcpObs.sent out)
  | (env, .timer) =>
      let results := pcbs.map (tcpTimerPcb env)
      (results.map Prod.fst, TcpObs.sent (results.flatMap Prod.snd))

/-- The table before {lit}`net_run`: sixteen zero-filled pcbs. -/
def tcpPcbsInit : List TcpPcb :=
  List.replicate TCP_PCB_SIZE TcpPcb.zero

/-- A run of the TCP layer from its initial table. -/
def tcpStackRun (evs : List (TcpEnv × TcpStackEvent)) : List TcpPcb × List TcpObs :=
  Run.run tcpStackStep tcpPcbsInit evs

end ProtocolStack
