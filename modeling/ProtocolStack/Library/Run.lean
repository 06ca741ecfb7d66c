import Mathlib

/-!
# Runs of a deterministic step function

A system is given by a step function that maps an event and a state to the
next state and an observation.  A run applies a list of events in order and
collects the observations.  A run is admissible for a predicate on
(state, event) pairs when every event satisfies it in the state it is applied
to; assumptions about the environment of a system are stated that way.

The invariant rule carries a predicate on the state and the observations so
far along an admissible run, so that invariants may mention ghost history
such as everything a system has returned to its user.
-/

namespace Run

variable {σ ε ω : Type}

/-- Apply the events in order, collecting one observation per event. -/
def run (step : ε → σ → σ × ω) : σ → List ε → σ × List ω
  | s, [] => (s, [])
  | s, e :: es =>
      match step e s with
      | (s1, o) =>
          match run step s1 es with
          | (s2, os) => (s2, o :: os)

/-- Every event satisfies {lit}`P` in the state it is applied to. -/
def Admissible (step : ε → σ → σ × ω) (P : σ → ε → Prop) : σ → List ε → Prop
  | _, [] => True
  | s, e :: es => P s e ∧ Admissible step P (step e s).1 es

instance decidableAdmissible (step : ε → σ → σ × ω) (P : σ → ε → Prop)
    [∀ s e, Decidable (P s e)] : ∀ s es, Decidable (Admissible step P s es)
  | _, [] => isTrue trivial
  | s, e :: es =>
      haveI := decidableAdmissible step P (step e s).1 es
      inferInstanceAs (Decidable (P s e ∧ Admissible step P (step e s).1 es))

/--
The ghost history of a run: the value of {lit}`g` at each event and the
state it is applied to.
-/
def ghost {γ : Type} (step : ε → σ → σ × ω) (g : ε → σ → γ) : σ → List ε → List γ
  | _, [] => []
  | s, e :: es => g e s :: ghost step g (step e s).1 es

theorem admissible_of_forall (step : ε → σ → σ × ω) (P : σ → ε → Prop) (h : forall s e, P s e) :
    forall (s : σ) (es : List ε), Admissible step P s es
  | _, [] => trivial
  | s, e :: es => ⟨h s e, admissible_of_forall step P h (step e s).1 es⟩

@[simp] theorem run_nil (step : ε → σ → σ × ω) (s : σ) : run step s [] = (s, []) :=
  rfl

@[simp] theorem run_cons (step : ε → σ → σ × ω) (s : σ) (e : ε) (es : List ε) :
    run step s (e :: es) =
      ((run step (step e s).1 es).1, (step e s).2 :: (run step (step e s).1 es).2) :=
  rfl

@[simp] theorem ghost_nil {γ : Type} (step : ε → σ → σ × ω) (g : ε → σ → γ) (s : σ) :
    ghost step g s [] = [] :=
  rfl

@[simp] theorem ghost_cons {γ : Type} (step : ε → σ → σ × ω) (g : ε → σ → γ) (s : σ)
    (e : ε) (es : List ε) :
    ghost step g s (e :: es) = g e s :: ghost step g (step e s).1 es :=
  rfl

theorem run_append (step : ε → σ → σ × ω) :
    forall (s : σ) (es fs : List ε),
      run step s (es ++ fs) =
        ((run step (run step s es).1 fs).1,
          (run step s es).2 ++ (run step (run step s es).1 fs).2)
  | s, [], fs => by simp
  | s, e :: es, fs => by
      simp only [List.cons_append, run_cons, run_append step (step e s).1 es fs]

/-- The last observation of a run that ends in {lit}`e` is that of {lit}`e` in the state the
rest of the run leaves. -/
theorem getLast?_run_append_singleton (step : ε → σ → σ × ω) (s : σ) (es : List ε) (e : ε) :
    (run step s (es ++ [e])).2.getLast? = some (step e (run step s es).1).2 := by
  rw [run_append]
  simp

theorem admissible_append (step : ε → σ → σ × ω) (P : σ → ε → Prop) :
    forall (s : σ) (es fs : List ε),
      Admissible step P s (es ++ fs) ↔
        Admissible step P s es ∧ Admissible step P (run step s es).1 fs
  | s, [], fs => by simp [Admissible]
  | s, e :: es, fs => by
      simp only [List.cons_append, Admissible, run_cons,
        admissible_append step P (step e s).1 es fs, and_assoc]

/-- A state predicate that every step preserves holds after every run. -/
theorem invariant_of_step (step : ε → σ → σ × ω) (I : σ → Prop)
    (hstep : forall s e, I s -> I (step e s).1) :
    forall (s : σ) (es : List ε), I s -> I (run step s es).1
  | _, [], hs => hs
  | s, e :: es, hs => invariant_of_step step I hstep (step e s).1 es (hstep s e hs)

/--
An invariant of the state and the observations so far, preserved by every
admissible step, holds after every admissible run.
-/
theorem invariant_of_admissible_step (step : ε → σ → σ × ω) (P : σ → ε → Prop)
    (I : σ → List ω → Prop)
    (hstep : forall s e os, I s os -> P s e -> I (step e s).1 (os ++ [(step e s).2])) :
    forall (s : σ) (os : List ω) (es : List ε), I s os -> Admissible step P s es ->
      I (run step s es).1 (os ++ (run step s es).2)
  | _, os, [], hs, _ => by simpa using hs
  | s, os, e :: es, hs, ⟨he, hes⟩ => by
      have ih := invariant_of_admissible_step step P I hstep (step e s).1
        (os ++ [(step e s).2]) es (hstep s e os hs he) hes
      simpa only [run_cons, List.append_assoc, List.singleton_append] using ih

/--
The invariant rule with a ghost history: an invariant of the state, the
observations and the ghost values so far.
-/
theorem invariant_of_admissible_step_ghost {γ : Type} (step : ε → σ → σ × ω)
    (P : σ → ε → Prop) (g : ε → σ → γ) (I : σ → List ω → List γ → Prop)
    (hstep : forall s e os gs, I s os gs -> P s e ->
      I (step e s).1 (os ++ [(step e s).2]) (gs ++ [g e s])) :
    forall (s : σ) (os : List ω) (gs : List γ) (es : List ε), I s os gs ->
      Admissible step P s es ->
      I (run step s es).1 (os ++ (run step s es).2) (gs ++ ghost step g s es)
  | _, os, gs, [], hs, _ => by simpa using hs
  | s, os, gs, e :: es, hs, ⟨he, hes⟩ => by
      have ih := invariant_of_admissible_step_ghost step P g I hstep (step e s).1
        (os ++ [(step e s).2]) (gs ++ [g e s]) es (hstep s e os gs hs he) hes
      simpa only [run_cons, ghost_cons, List.append_assoc, List.singleton_append] using ih

/--
Simulation: a relation between the states of two systems on the same events,
which every pair of steps keeps while showing the same observation, relates
their runs, and the runs show the same observations.
-/
theorem run_simulation {τ : Type} (step : ε → σ → σ × ω) (step' : ε → τ → τ × ω)
    (R : σ → τ → Prop)
    (hstep : forall s t e, R s t -> (step e s).2 = (step' e t).2 ∧ R (step e s).1 (step' e t).1) :
    forall (s : σ) (t : τ) (es : List ε), R s t ->
      (run step s es).2 = (run step' t es).2 ∧ R (run step s es).1 (run step' t es).1
  | _, _, [], hst => ⟨rfl, hst⟩
  | s, t, e :: es, hst => by
      obtain ⟨hobs, hnext⟩ := hstep s t e hst
      obtain ⟨hobs', hrest⟩ := run_simulation step step' R hstep (step e s).1 (step' e t).1 es hnext
      simp only [run_cons]
      exact ⟨by rw [hobs, hobs'], hrest⟩

end Run
