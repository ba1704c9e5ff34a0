import Mathlib.Data.List.Forall2

/-!
# Two runs

Two computations that may raise agree up to a relation when both raise, or both return and their
results are related. The rules follow the computations: a sequence agrees when its parts do, and a
fold over two lists agrees when each step over related elements does.
-/

namespace Foundation

variable {ε α β γ δ : Type}

/-- Two computations both raise, or both return related results. -/
inductive Agree (R : α → β → Prop) : Except ε α → Except ε β → Prop where
  | returned {a : α} {b : β} (h : R a b) : Agree R (.ok a) (.ok b)
  | raised (e f : ε) : Agree R (.error e) (.error f)

namespace Agree

variable {R S : α → β → Prop} {first : Except ε α} {second : Except ε β}

theorem refl {R : α → α → Prop} {first : Except ε α} (h : ∀ a, first = .ok a → R a a) :
    Agree R first first := by
  cases first with
  | error e => exact raised e e
  | ok a => exact returned (h a rfl)

/-- What one run returns, the other returns up to the relation. -/
theorem ok (h : Agree R first second) {a : α} (hfirst : first = .ok a) :
    ∃ b, second = .ok b ∧ R a b := by
  cases h with
  | returned hrelated =>
      cases hfirst
      exact ⟨_, rfl, hrelated⟩
  | raised e f => cases hfirst

/-- Runs agree when each returns whatever the other does, up to the relation. -/
theorem of_ok (hfirst : ∀ a, first = .ok a → ∃ b, second = .ok b ∧ R a b)
    (hsecond : ∀ b, second = .ok b → ∃ a, first = .ok a) : Agree R first second := by
  cases hone : first with
  | ok a =>
      obtain ⟨b, hb, hrelated⟩ := hfirst a hone
      rw [hb]
      exact returned hrelated
  | error e =>
      cases htwo : second with
      | error f => exact raised e f
      | ok b =>
          obtain ⟨a, ha⟩ := hsecond b htwo
          rw [hone] at ha
          cases ha

/-- Sequences agree when their parts do. -/
theorem bind {T : γ → δ → Prop} {next : α → Except ε γ} {next' : β → Except ε δ}
    (h : Agree R first second) (hnext : ∀ a b, R a b → Agree T (next a) (next' b)) :
    Agree T (first >>= next) (second >>= next') := by
  cases h with
  | returned hrelated => exact hnext _ _ hrelated
  | raised e f => exact raised e f

end Agree

end Foundation
