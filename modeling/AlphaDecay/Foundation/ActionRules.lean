import AlphaDecay.Foundation.Action

/-!
# What actions ensure

Rules of pre- and postconditions for actions that may raise. `Ensures` has one postcondition for
an action that returns and one for an action that raises, since what it wrote stays written in
both cases. An action keeps an invariant when it ensures it either way. The rules follow the text
of an action, with one rule for each way of catching what is raised.
-/

namespace Foundation

namespace Action

variable {State Error Value Other : Type}

/-! ## Catching -/

/-- Run an action and forget what it raises. -/
def suppress (action : Action State Error Unit) : Action State Error Unit :=
  fun state => (.ok (), (action state).2)

/-- Run an action and go on with another one in the state that it left when it raises. -/
def handle (action handler : Action State Error Value) : Action State Error Value :=
  fun state => match action state with
    | (.ok value, left) => (.ok value, left)
    | (.error _, left) => handler left

/-- The value of an action, or none when it raises. -/
def attempt (action : Action State Error Value) : Action State Error (Option Value) :=
  fun state => match action state with
    | (.ok value, left) => (.ok (some value), left)
    | (.error _, left) => (.ok none, left)

/-! ## Sequences -/

variable {state : State} {value : Value}

theorem bind_of_ok {action : Action State Error Value} {rest : Value → Action State Error Other}
    {left : State} (h : action state = (.ok value, left)) :
    (action >>= rest) state = rest value left := by
  show Action.bind action rest state = rest value left
  simp only [Action.bind, h]

theorem bind_of_error {action : Action State Error Value} {rest : Value → Action State Error Other}
    {left : State} {error : Error} (h : action state = (.error error, left)) :
    (action >>= rest) state = (.error error, left) := by
  show Action.bind action rest state = (.error error, left)
  simp only [Action.bind, h]

/-! ## Triples -/

/-- From a state that meets the first condition, an action returns with a value and a state that
meet the second, or raises and leaves a state that meets the third. -/
def Ensures (before : State → Prop) (action : Action State Error Value)
    (after : Value → State → Prop) (raised : State → Prop) : Prop :=
  ∀ state, before state → match action state with
    | (.ok value, left) => after value left
    | (.error _, left) => raised left

/-- An action keeps an invariant, whether it returns or raises. -/
def Keeps (invariant : State → Prop) (action : Action State Error Value) : Prop :=
  Ensures invariant action (fun _ => invariant) invariant

variable {action handler : Action State Error Value} {rest : Value → Action State Error Other}
  {P M R I : State → Prop} {Q : Value → State → Prop}
  {L : Other → State → Prop}

/-- An action that ensures the same either way leaves a state that meets it. -/
theorem Ensures.left (h : Ensures P action (fun _ => R) R) (hstate : P state) :
    R (action state).2 := by
  have hleft := h state hstate
  cases hresult : action state with
  | mk result left =>
      rw [hresult] at hleft
      cases result with
      | ok value => exact hleft
      | error error => exact hleft

theorem Keeps.left (h : action.Keeps I) (hstate : I state) : I (action state).2 :=
  Ensures.left h hstate

theorem Ensures.returned (h : Ensures P action Q R) {left : State} (hstate : P state)
    (hreturned : action state = (.ok value, left)) : Q value left := by
  have hleft := h state hstate
  rw [hreturned] at hleft
  exact hleft

/-- A triple holds from fewer states, and promises less. -/
theorem Ensures.weaken {P' R' : State → Prop} {Q' : Value → State → Prop}
    (h : Ensures P action Q R) (hbefore : ∀ state, P' state → P state)
    (hafter : ∀ value state, Q value state → Q' value state)
    (hraised : ∀ state, R state → R' state) :
    Ensures P' action Q' R' := by
  intro state hstate
  have hleft := h state (hbefore state hstate)
  cases hresult : action state with
  | mk result left =>
      rw [hresult] at hleft
      cases result with
      | ok value => exact hafter value left hleft
      | error error => exact hraised left hleft

/-- What two triples promise holds together. -/
theorem Ensures.and {Q' : Value → State → Prop} {R' : State → Prop}
    (h : Ensures P action Q R) (h' : Ensures P action Q' R') :
    Ensures P action (fun value state => Q value state ∧ Q' value state)
      fun state => R state ∧ R' state := by
  intro state hstate
  have hleft := h state hstate
  have hleft' := h' state hstate
  cases hresult : action state with
  | mk result left =>
      rw [hresult] at hleft hleft'
      cases result with
      | ok value => exact ⟨hleft, hleft'⟩
      | error error => exact ⟨hleft, hleft'⟩

theorem Ensures.pure (h : ∀ state, P state → Q value state) :
    Ensures P (Pure.pure value : Action State Error Value) Q R :=
  h

theorem Ensures.pure_bind (h : Ensures P (rest value) L R) :
    Ensures P (Pure.pure value >>= rest) L R :=
  h

/-- The second action starts where the first one ends. -/
theorem Ensures.bind (h : Ensures P action Q R)
    (hrest : ∀ value, Ensures (Q value) (rest value) L R) :
    Ensures P (action >>= rest) L R := by
  intro state hstate
  have hleft := h state hstate
  cases hresult : action state with
  | mk result left =>
      rw [hresult] at hleft
      cases result with
      | ok value =>
          rw [bind_of_ok hresult]
          exact hrest value left hleft
      | error error =>
          rw [bind_of_error hresult]
          exact hleft

variable {next : State → Action State Error Other} {other : Action State Error Value}

theorem Ensures.read_bind
    (h : ∀ read, P read → Ensures (fun state => state = read) (next read) L R) :
    Ensures P (Action.read >>= next) L R :=
  fun state hstate => h state hstate state rfl

theorem Ensures.write {change : State → State} {done : Unit → State → Prop}
    (h : ∀ state, P state → done () (change state)) :
    Ensures P (Action.write change : Action State Error Unit) done R :=
  h

/-- A check that passes hands on its value, and one that fails leaves the state as it is. -/
theorem Ensures.check {checked : Except Error Value}
    (hok : ∀ value, checked = .ok value → ∀ state, P state → Q value state)
    (herror : ∀ error, checked = .error error → ∀ state, P state → R state) :
    Ensures P (Action.check checked) Q R := by
  intro state hstate
  cases hresult : checked with
  | ok value => exact hok value hresult state hstate
  | error error => exact herror error hresult state hstate

/-- The two branches of a choice ensure the same. -/
theorem Ensures.ite {condition : Prop} [Decidable condition]
    (hthen : condition → Ensures P action Q R) (helse : ¬ condition → Ensures P other Q R) :
    Ensures P (if condition then action else other) Q R := by
  split
  · rename_i hcondition
    exact hthen hcondition
  · rename_i hcondition
    exact helse hcondition

/-- The handler starts where the action raised. -/
theorem Ensures.handle (h : Ensures P action Q M)
    (hhandler : Ensures M handler Q R) :
    Ensures P (action.handle handler) Q R := by
  intro state hstate
  have hleft := h state hstate
  unfold Action.handle
  cases hresult : action state with
  | mk result left =>
      rw [hresult] at hleft
      cases result with
      | ok value => exact hleft
      | error error => exact hhandler left hleft

/-- An action that is attempted returns either way. -/
theorem Ensures.attempt {N : State → Prop} (h : Ensures P action Q R) :
    Ensures P action.attempt
      (fun value state => value.elim (R state) fun value => Q value state) N := by
  intro state hstate
  have hleft := h state hstate
  unfold Action.attempt
  cases hresult : action state with
  | mk result left =>
      rw [hresult] at hleft
      cases result with
      | ok value => exact hleft
      | error error => exact hleft

/-! ## Invariants -/

theorem Keeps.pure (value : Value) :
    Keeps I (Pure.pure value : Action State Error Value) :=
  fun _ hstate => hstate

theorem Keeps.bind (h : action.Keeps I) (hrest : ∀ value, (rest value).Keeps I) :
    (action >>= rest).Keeps I :=
  Ensures.bind h hrest

theorem Keeps.read_bind (h : ∀ read, I read → (next read).Keeps I) :
    (Action.read >>= next).Keeps I :=
  fun state hstate => h state hstate state hstate

theorem Keeps.write {change : State → State}
    (h : ∀ state, I state → I (change state)) :
    Keeps I (Action.write change : Action State Error Unit) :=
  h

theorem Keeps.check (checked : Except Error Value) : (Action.check checked).Keeps I :=
  Ensures.check (fun _ _ _ hstate => hstate) fun _ _ _ hstate => hstate

theorem Keeps.suppress {action : Action State Error Unit} (h : action.Keeps I) :
    action.suppress.Keeps I :=
  fun _ hstate => h.left hstate

theorem Keeps.handle (h : action.Keeps I) (hhandler : handler.Keeps I) :
    (action.handle handler).Keeps I :=
  Ensures.handle h hhandler

theorem Keeps.ite {condition : Prop} [Decidable condition] (hthen : condition → action.Keeps I)
    (helse : ¬ condition → other.Keeps I) : (if condition then action else other).Keeps I :=
  Ensures.ite hthen helse

end Action

end Foundation
