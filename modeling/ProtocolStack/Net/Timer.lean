import Mathlib
import ProtocolStack.Arp.Cache
import ProtocolStack.Library.Periodic

/-!
# The timers of net.c

{lit}`net_timer_register` pushes a timer with its interval, the time of the
registration and its handler.  {lit}`net_timer_handler`, run on every
SIGALRM, walks the timers from the head, reads the clock for each, and calls
the handler of each whose interval has passed since it last ran.

Read in microseconds, the timeval arithmetic of sys/time.h is integer
arithmetic on the normalised values gettimeofday returns.  Over any run of
ticks, each timer then fires exactly where a periodic task of its interval,
polled at its own clock readings, fires ({lit}`Periodic.fire`): its calls
are more than its interval apart, and it is called at the first reading
after its interval has passed.
-/

namespace ProtocolStack

/-! ## Timeval arithmetic -/

/-- A timeval as a count of microseconds. -/
def Timeval.micros (t : Timeval) : Int :=
  t.sec * 1000000 + t.usec

/-- The microseconds lie in [0, 10^6), as gettimeofday returns them. -/
def Timeval.Normal (t : Timeval) : Prop :=
  0 ≤ t.usec ∧ t.usec < 1000000

instance (t : Timeval) : Decidable t.Normal :=
  inferInstanceAs (Decidable (0 ≤ t.usec ∧ t.usec < 1000000))

theorem Timeval.micros_timersub (a b : Timeval) :
    (timersub a b).micros = a.micros - b.micros := by
  unfold timersub Timeval.micros
  split <;> dsimp only <;> ring

theorem Timeval.Normal.timersub {a b : Timeval} (ha : a.Normal) (hb : b.Normal) :
    (ProtocolStack.timersub a b).Normal := by
  unfold ProtocolStack.timersub Timeval.Normal at *
  split <;> dsimp only <;> omega

/-- On normalised timevals {lit}`timercmp` with {lit}`<` is the order of the microseconds. -/
theorem timercmp_lt_iff {a b : Timeval} (ha : a.Normal) (hb : b.Normal) :
    timercmp a b (· < ·) = true ↔ a.micros < b.micros := by
  obtain ⟨ha0, ha1⟩ := ha
  obtain ⟨hb0, hb1⟩ := hb
  unfold timercmp Timeval.micros
  split_ifs with hsec
  · rw [decide_eq_true_iff, hsec]
    omega
  · -- different seconds decide, whatever the microseconds
    rw [decide_eq_true_iff]
    omega

/-! ## net_timer_register and net_timer_handler -/

/-- {lit}`struct net_timer`. -/
structure NetTimer (H : Type) where
  interval : Timeval
  last : Timeval
  handler : H
  deriving DecidableEq, Repr

/-- {lit}`net_timer_register` at the time {lit}`now`: the timer goes to the head of the list. -/
def netTimerRegister {H : Type} (timers : List (NetTimer H)) (interval : Timeval) (handler : H)
    (now : Timeval) : List (NetTimer H) :=
  ⟨interval, now, handler⟩ :: timers

/--
The body of the loop of {lit}`net_timer_handler` for one timer once
gettimeofday has returned {lit}`now`: the timer after it, and its handler
with the time read, if the handler is called.
-/
def netTimerHandlerStep {H : Type} (timer : NetTimer H) (now : Timeval) :
    NetTimer H × Option (H × Timeval) :=
  if timercmp timer.interval (timersub now timer.last) (· < ·) then
    ({ timer with last := now }, some (timer.handler, now))
  else (timer, none)

/--
{lit}`net_timer_handler`: the pass over the timers from the head of the
list, the {lit}`i`-th reading the clock as {lit}`clock i`; the timers after
the pass, and the handlers called, in order, each with the time read before
its call.
-/
def netTimerHandler {H : Type} (clock : Nat → Timeval) :
    List (NetTimer H) → List (NetTimer H) × List (H × Timeval)
  | [] => ([], [])
  | timer :: rest =>
      match netTimerHandlerStep timer (clock 0), netTimerHandler (fun i => clock (i + 1)) rest with
      | (timer', call), (rest', calls) => (timer' :: rest', call.toList ++ calls)

/-- The calls of the handler {lit}`h`, by the time read before each. -/
def netTimerCalls {H : Type} [DecidableEq H] (h : H) (calls : List (H × Timeval)) : List Timeval :=
  calls.filterMap fun c => if c.1 = h then some c.2 else none

section Handler

variable {H : Type}

@[simp] theorem netTimerHandlerStep_handler (timer : NetTimer H) (now : Timeval) :
    (netTimerHandlerStep timer now).1.handler = timer.handler := by
  unfold netTimerHandlerStep
  split <;> rfl

@[simp] theorem netTimerHandlerStep_interval (timer : NetTimer H) (now : Timeval) :
    (netTimerHandlerStep timer now).1.interval = timer.interval := by
  unfold netTimerHandlerStep
  split <;> rfl

/-- On normalised times a timer fires when more than its interval has passed since it last did. -/
theorem netTimerHandlerStep_eq {timer : NetTimer H} {now : Timeval} (hint : timer.interval.Normal)
    (hlast : timer.last.Normal) (hnow : now.Normal) :
    netTimerHandlerStep timer now =
      if timer.last.micros + timer.interval.micros < now.micros then
        ({ timer with last := now }, some (timer.handler, now))
      else (timer, none) := by
  have hcmp := timercmp_lt_iff hint (hnow.timersub hlast)
  rw [Timeval.micros_timersub] at hcmp
  unfold netTimerHandlerStep
  by_cases hdue : timer.last.micros + timer.interval.micros < now.micros
  · rw [if_pos (hcmp.mpr (by omega)), if_pos hdue]
  · rw [if_neg (fun h => hdue (by have := hcmp.mp h; omega)), if_neg hdue]

/-- The handler called, if any, is the timer's own, at the time read. -/
theorem netTimerHandlerStep_snd (timer : NetTimer H) (now : Timeval) :
    (netTimerHandlerStep timer now).2 = none ∨
      (netTimerHandlerStep timer now).2 = some (timer.handler, now) := by
  unfold netTimerHandlerStep
  split
  · exact .inr rfl
  · exact .inl rfl

@[simp] theorem netTimerHandler_nil (clock : Nat → Timeval) :
    netTimerHandler clock ([] : List (NetTimer H)) = ([], []) :=
  rfl

@[simp] theorem netTimerHandler_cons (clock : Nat → Timeval) (timer : NetTimer H)
    (rest : List (NetTimer H)) :
    netTimerHandler clock (timer :: rest) =
      ((netTimerHandlerStep timer (clock 0)).1 :: (netTimerHandler (fun i => clock (i + 1)) rest).1,
        (netTimerHandlerStep timer (clock 0)).2.toList ++
          (netTimerHandler (fun i => clock (i + 1)) rest).2) :=
  rfl

/-- The pass steps the {lit}`j`-th timer with the {lit}`j`-th reading. -/
theorem netTimerHandler_getElem? (clock : Nat → Timeval) :
    ∀ (timers : List (NetTimer H)) (j : Nat),
      (netTimerHandler clock timers).1[j]? =
        timers[j]?.map fun timer => (netTimerHandlerStep timer (clock j)).1
  | [], _ => rfl
  | _ :: _, 0 => rfl
  | _ :: rest, j + 1 => by
      simp only [netTimerHandler_cons, List.getElem?_cons_succ]
      exact netTimerHandler_getElem? (fun i => clock (i + 1)) rest j

theorem netTimerHandler_handlers (clock : Nat → Timeval) :
    ∀ timers : List (NetTimer H),
      (netTimerHandler clock timers).1.map (·.handler) = timers.map (·.handler)
  | [] => rfl
  | timer :: rest => by
      simp only [netTimerHandler_cons, List.map_cons, netTimerHandlerStep_handler,
        netTimerHandler_handlers (fun i => clock (i + 1)) rest]

/-- Only handlers of the timers are called. -/
theorem netTimerHandler_calls_mem (clock : Nat → Timeval) :
    ∀ (timers : List (NetTimer H)), ∀ c ∈ (netTimerHandler clock timers).2,
      c.1 ∈ timers.map (·.handler)
  | [], c, hc => by simp at hc
  | timer :: rest, c, hc => by
      rw [netTimerHandler_cons, List.mem_append] at hc
      rcases hc with hc | hc
      · rcases netTimerHandlerStep_snd timer (clock 0) with h | h <;> rw [h] at hc
        · cases hc
        · rw [Option.mem_toList, Option.some.injEq] at hc
          rw [← hc]
          exact List.mem_cons_self
      · exact List.mem_cons_of_mem _ (netTimerHandler_calls_mem _ rest c hc)

variable [DecidableEq H]

theorem netTimerCalls_append (h : H) (calls calls' : List (H × Timeval)) :
    netTimerCalls h (calls ++ calls') = netTimerCalls h calls ++ netTimerCalls h calls' :=
  List.filterMap_append

theorem netTimerCalls_eq_nil {h : H} {calls : List (H × Timeval)} (hno : ∀ c ∈ calls, c.1 ≠ h) :
    netTimerCalls h calls = [] :=
  List.filterMap_eq_nil_iff.mpr fun c hc => if_neg (hno c hc)

theorem netTimerCalls_step (timer : NetTimer H) (now : Timeval) :
    netTimerCalls timer.handler (netTimerHandlerStep timer now).2.toList =
      ((netTimerHandlerStep timer now).2.map Prod.snd).toList := by
  rcases netTimerHandlerStep_snd timer now with h | h <;> rw [h] <;> simp [netTimerCalls]

/-- With distinct handlers, the calls of one timer's handler in a pass are that timer's. -/
theorem netTimerCalls_netTimerHandler (clock : Nat → Timeval) :
    ∀ {timers : List (NetTimer H)} {j : Nat} {t : NetTimer H},
      (timers.map (·.handler)).Nodup → timers[j]? = some t →
        netTimerCalls t.handler (netTimerHandler clock timers).2 =
          ((netTimerHandlerStep t (clock j)).2.map Prod.snd).toList
  | [], _, _, _, ht => by cases ht
  | timer :: rest, 0, t, hnodup, ht => by
      cases ht
      rw [List.map_cons, List.nodup_cons] at hnodup
      -- the other timers call other handlers
      have hrest : netTimerCalls timer.handler (netTimerHandler (fun i => clock (i + 1)) rest).2 = [] :=
        netTimerCalls_eq_nil fun c hc heq =>
          hnodup.1 (heq ▸ netTimerHandler_calls_mem _ rest c hc)
      rw [netTimerHandler_cons, netTimerCalls_append, hrest, List.append_nil, netTimerCalls_step]
  | timer :: rest, j + 1, t, hnodup, ht => by
      rw [List.getElem?_cons_succ] at ht
      rw [List.map_cons, List.nodup_cons] at hnodup
      -- the head calls its own handler, which is not the {lit}`j + 1`-th timer's
      have hne : timer.handler ≠ t.handler := fun heq =>
        hnodup.1 (heq ▸ List.mem_map_of_mem (List.mem_of_getElem? ht))
      have hhead : netTimerCalls t.handler (netTimerHandlerStep timer (clock 0)).2.toList = [] := by
        apply netTimerCalls_eq_nil
        intro c hc
        rcases netTimerHandlerStep_snd timer (clock 0) with h | h <;> rw [h] at hc
        · cases hc
        · rw [Option.mem_toList, Option.some.injEq] at hc
          rw [← hc]
          exact hne
      rw [netTimerHandler_cons, netTimerCalls_append, hhead, List.nil_append]
      exact netTimerCalls_netTimerHandler (fun i => clock (i + 1)) hnodup.2 ht

/-! ## Runs of ticks -/

/--
Over a run of ticks, the calls of a timer's handler, in microseconds, are the
firings of a periodic task of its interval polled at the timer's readings.
-/
theorem netTimerCalls_run (j : Nat) :
    ∀ (ticks : List (Nat → Timeval)) {timers : List (NetTimer H)} {t : NetTimer H},
      (timers.map (·.handler)).Nodup → timers[j]? = some t → t.interval.Normal → t.last.Normal →
      (∀ clock ∈ ticks, (clock j).Normal) →
        (netTimerCalls t.handler (Run.run netTimerHandler timers ticks).2.flatten).map
            Timeval.micros =
          Periodic.fire t.interval.micros t.last.micros (ticks.map fun clock => (clock j).micros)
  | [], _, _, _, _, _, _, _ => rfl
  | clock :: ticks, timers, t, hnodup, ht, hint, hlast, hclock => by
      have hnow : (clock j).Normal := hclock clock List.mem_cons_self
      -- the pass steps the timer at j with its reading and keeps the handlers
      have ht' : (netTimerHandler clock timers).1[j]? = some (netTimerHandlerStep t (clock j)).1 := by
        rw [netTimerHandler_getElem?, ht, Option.map_some]
      have hnodup' : ((netTimerHandler clock timers).1.map (·.handler)).Nodup := by
        rw [netTimerHandler_handlers]
        exact hnodup
      have hlast' : (netTimerHandlerStep t (clock j)).1.last.Normal := by
        rw [netTimerHandlerStep_eq hint hlast hnow]
        split
        · exact hnow
        · exact hlast
      have ih := netTimerCalls_run j ticks hnodup' ht'
        (by rw [netTimerHandlerStep_interval]; exact hint) hlast'
        (fun c hc => hclock c (List.mem_cons_of_mem _ hc))
      rw [netTimerHandlerStep_handler, netTimerHandlerStep_interval] at ih
      rw [Run.run_cons, List.flatten_cons, netTimerCalls_append, List.map_append,
        netTimerCalls_netTimerHandler clock hnodup ht, ih, List.map_cons, Periodic.fire]
      -- one poll: the timer fires at this reading exactly when it is due
      rw [netTimerHandlerStep_eq hint hlast hnow]
      split_ifs <;> rfl

/--
Over any run of ticks, a timer's handler is called exactly at the readings at
which a periodic task of the timer's interval fires: never twice within its
interval, nor within its interval of the registration, and at the first
reading after its interval has passed.
-/
theorem net_timer_handler_periodic {timers : List (NetTimer H)}
    (hnodup : (timers.map (·.handler)).Nodup) {j : Nat} {t : NetTimer H} (ht : timers[j]? = some t)
    (hint : t.interval.Normal) (hlast : t.last.Normal) (ticks : List (Nat → Timeval))
    (hclock : ∀ clock ∈ ticks, (clock j).Normal) :
    (netTimerCalls t.handler (Run.run netTimerHandler timers ticks).2.flatten).map Timeval.micros =
        Periodic.fire t.interval.micros t.last.micros (ticks.map fun clock => (clock j).micros) ∧
      List.IsChain (fun a b => a + t.interval.micros < b)
        (t.last.micros ::
          (netTimerCalls t.handler (Run.run netTimerHandler timers ticks).2.flatten).map
            Timeval.micros) := by
  have hcalls := netTimerCalls_run j ticks hnodup ht hint hlast hclock
  refine ⟨hcalls, ?_⟩
  rw [hcalls]
  exact Periodic.fire_isChain _ _ _

end Handler

/-- The handlers the stack registers: arp_init's and tcp_init's. -/
inductive NetTimerHandler
  | arpTimerHandler
  | tcpTimer
  deriving DecidableEq, Repr

/-- The timers after net_init: arp_init registers before tcp_init, so tcp_timer is at the head. -/
def netTimersInit (arpNow tcpNow : Timeval) : List (NetTimer NetTimerHandler) :=
  netTimerRegister (netTimerRegister [] ⟨1, 0⟩ .arpTimerHandler arpNow) ⟨0, 100000⟩ .tcpTimer tcpNow

/-- Four ticks 60 ms apart, every timer reading the same time. -/
def netTimerTicks : List (Nat → Timeval) :=
  [60000, 120000, 180000, 240000].map fun us _ => ⟨0, us⟩

/-- Registered at time 0 and polled every 60 ms, tcp_timer runs at 120 ms and at 240 ms. -/
theorem net_timer_handler_periodic_tcp :
    (netTimerCalls NetTimerHandler.tcpTimer
        (Run.run netTimerHandler (netTimersInit ⟨0, 0⟩ ⟨0, 0⟩) netTimerTicks).2.flatten).map
        Timeval.micros = [120000, 240000] := by
  have hnodup : ((netTimersInit ⟨0, 0⟩ ⟨0, 0⟩).map (·.handler)).Nodup := by
    decide
  have ht : (netTimersInit ⟨0, 0⟩ ⟨0, 0⟩)[0]? = some ⟨⟨0, 100000⟩, ⟨0, 0⟩, .tcpTimer⟩ := rfl
  have hclock : ∀ clock ∈ netTimerTicks, (clock 0).Normal := by
    intro clock hc
    simp only [netTimerTicks, List.mem_map, List.mem_cons, List.not_mem_nil, or_false] at hc
    obtain ⟨us, hus, rfl⟩ := hc
    rcases hus with rfl | rfl | rfl | rfl <;> decide
  rw [(net_timer_handler_periodic hnodup ht (by decide) (by decide) netTimerTicks hclock).1]
  decide


end ProtocolStack
