import Mathlib.Order.Basic

/-!
Labelled transition systems: the states a system can reach when every step of
the run is one that is allowed in the state where it is taken.
-/

namespace Effect

inductive Reach {State Label : Type} (step : State → Label → State → Prop)
    (allowed : State → Label → Prop) (start : State) : State → Prop
  | here : Reach step allowed start start
  | next {state later : State} {label : Label} : Reach step allowed start state →
      allowed state label → step state label later → Reach step allowed start later

def anyStep {State Label : Type} (_ : State) (_ : Label) : Prop := True

inductive Trace {State Label : Type} (step : State → Label → State → Prop) (start : State) :
    List Label → State → Prop
  | here : Trace step start [] start
  | next {labels : List Label} {state later : State} {label : Label} :
      Trace step start labels state → step state label later →
      Trace step start (labels ++ [label]) later

variable {State Label : Type} {step : State → Label → State → Prop}
  {allowed weaker : State → Label → Prop} {start middle state : State}

/-- The invariant rule: what holds at the start and survives every allowed step
holds in every state reached. -/
theorem Reach.invariant {inv : State → Prop} (initially : inv start)
    (preserved : ∀ before label after, inv before → allowed before label →
      step before label after → inv after)
    (reached : Reach step allowed start state) : inv state := by
  induction reached with
  | here => exact initially
  | next _ permitted taken ih => exact preserved _ _ _ ih permitted taken

theorem Reach.take {later : State} (reached : Reach step allowed start state) (label : Label)
    (permitted : allowed state label) (taken : step state label later) :
    Reach step allowed start later :=
  reached.next permitted taken

theorem Reach.trans (early : Reach step allowed start middle)
    (late : Reach step allowed middle state) : Reach step allowed start state := by
  induction late with
  | here => exact early
  | next _ permitted taken ih => exact Reach.next ih permitted taken

theorem Reach.mono (implies : ∀ before label, allowed before label → weaker before label)
    (reached : Reach step allowed start state) : Reach step weaker start state := by
  induction reached with
  | here => exact Reach.here
  | next _ permitted taken ih => exact Reach.next ih (implies _ _ permitted) taken

theorem Trace.take {later : State} {labels : List Label} (trace : Trace step start labels state)
    (label : Label) (taken : step state label later) : Trace step start (labels ++ [label]) later :=
  trace.next taken

theorem Trace.invariant {inv : List Label → State → Prop} {labels : List Label}
    (initially : inv [] start)
    (preserved : ∀ labels before label after, inv labels before → step before label after →
      inv (labels ++ [label]) after)
    (trace : Trace step start labels state) : inv labels state := by
  induction trace with
  | here => exact initially
  | next _ taken ih => exact preserved _ _ _ _ ih taken

def Terminates (step : State → Label → State → Prop) (allowed : State → Label → Prop) :
    State → Prop :=
  Acc fun later earlier => ∃ label, allowed earlier label ∧ step earlier label later

theorem terminates_of_measure {inv : State → Prop} (measure : State → Nat)
    (preserved : ∀ before label after, inv before → allowed before label →
      step before label after → inv after)
    (decreases : ∀ before label after, inv before → allowed before label →
      step before label after → measure after < measure before)
    (initially : inv start) : Terminates step allowed start := by
  generalize bound : measure start = fuel
  induction fuel using Nat.strongRecOn generalizing start with
  | ind fuel ih =>
      constructor
      rintro later ⟨label, permitted, taken⟩
      have less := decreases _ _ _ initially permitted taken
      exact ih (measure later) (bound ▸ less) (preserved _ _ _ initially permitted taken) rfl

/-- Where all runs are finite, some state is reached that allows no step. -/
theorem Terminates.stuck (terminates : Terminates step allowed start) :
    ∃ state, Reach step allowed start state ∧ ∀ label later, allowed state label →
      ¬ step state label later := by
  induction terminates with
  | intro state _ ih =>
      by_cases more : ∃ label later, allowed state label ∧ step state label later
      · obtain ⟨label, later, permitted, taken⟩ := more
        obtain ⟨last, reached, final⟩ := ih later ⟨label, permitted, taken⟩
        exact ⟨last, (Reach.here.next permitted taken).trans reached, final⟩
      · exact ⟨state, .here, fun label later permitted taken => more ⟨label, later, permitted, taken⟩⟩

end Effect
