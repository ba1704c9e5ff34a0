import Mathlib.Init

/-!
# Actions that may raise

An action runs on a state, returns or raises, and leaves a state either way: what it wrote before
it raised stays written. `Agrees` relates an action to a function that computes the next state or
fails as a whole. The rules of this module follow the text of an action: reads and checks come
first, and from the first write on nothing may raise.
-/

namespace Foundation

/-- A computation on a state that returns or raises, with the state that it leaves. -/
def Action (State Error Value : Type) := State → Except Error Value × State

namespace Action

variable {State Error Value Other : Type}

/-- Return a value and leave the state. -/
protected def pure (value : Value) : Action State Error Value :=
  fun state => (.ok value, state)

/-- Go on with the value of an action in the state that it left. Nothing takes writes back. -/
protected def bind (action : Action State Error Value) (next : Value → Action State Error Other) :
    Action State Error Other :=
  fun state => match action state with
    | (.ok value, left) => next value left
    | (.error error, left) => (.error error, left)

instance : Monad (Action State Error) where
  pure := Action.pure
  bind := Action.bind

def read : Action State Error State :=
  fun state => (.ok state, state)

def write (change : State → State) : Action State Error Unit :=
  fun state => (.ok (), change state)

/-- A check or a lookup, which may raise and writes nothing. -/
def check (result : Except Error Value) : Action State Error Value :=
  fun state => (result, state)

/-- An action that raises leaves the state as it was. -/
def Atomic (action : Action State Error Value) (state : State) : Prop :=
  ∀ error, (action state).1 = .error error → (action state).2 = state

/-- An action agrees with a result of a function: it leaves the state that the function computes,
or raises what the function fails with and leaves the state as it was. -/
def Agrees (action : Action State Error Value) (state : State) (result : Except Error State) :
    Prop :=
  match result with
  | .ok next => ∃ value, action state = (.ok value, next)
  | .error error => action state = (.error error, state)

variable {action : Action State Error Value} {state next : State} {result : Except Error State}

theorem Agrees.atomic (h : action.Agrees state result) : action.Atomic state := by
  intro error hraised
  cases result with
  | ok next =>
      obtain ⟨value, hvalue⟩ := h
      rw [hvalue] at hraised
      cases hraised
  | error failure =>
      have hleft : action state = (.error failure, state) := h
      rw [hleft]

/-- The state that an agreeing action leaves is the one that the function computes. -/
theorem Agrees.left (h : action.Agrees state result) :
    result = .ok (action state).2 ∨ ∃ error, result = .error error ∧ (action state).2 = state := by
  cases result with
  | ok next =>
      obtain ⟨value, hvalue⟩ := h
      exact .inl (by rw [hvalue])
  | error failure =>
      have hleft : action state = (.error failure, state) := h
      exact .inr ⟨failure, rfl, by rw [hleft]⟩

/-! ## Reads -/

/-- An action that only reads leaves every state as it was. -/
def Reads (action : Action State Error Value) : Prop :=
  ∀ state, (action state).2 = state

theorem Reads.atomic (h : action.Reads) : action.Atomic state :=
  fun _ _ => h state

theorem Reads.read : (Action.read : Action State Error State).Reads :=
  fun _ => rfl

theorem Reads.check (checked : Except Error Value) :
    (Action.check checked : Action State Error Value).Reads :=
  fun _ => rfl

theorem Reads.pure (value : Value) : (pure value : Action State Error Value).Reads :=
  fun _ => rfl

variable {error : Error} {rest : Value → Action State Error Other}

/-- Actions that only read do so one after the other. -/
theorem Reads.bind (h : action.Reads) (hrest : ∀ value, (rest value).Reads) :
    (action >>= rest).Reads := by
  intro state
  show (Action.bind action rest state).2 = state
  have hleft : (action state).2 = state := h state
  cases hresult : action state with
  | mk result left =>
      rw [hresult] at hleft
      subst hleft
      cases result with
      | error error => simp only [Action.bind, hresult]
      | ok value =>
          simp only [Action.bind, hresult]
          exact hrest value left

/-! ## Rules -/

theorem Agrees.read_bind {rest : State → Action State Error Value}
    (h : (rest state).Agrees state result) : (Action.read >>= rest).Agrees state result :=
  h

variable {checked : Except Error Other} {function : Other → Except Error State}

/-- A check that fails ends both, and one that passes is followed by what agrees. -/
theorem Agrees.check_bind {rest : Other → Action State Error Value}
    (h : ∀ value, checked = .ok value → (rest value).Agrees state (function value)) :
    (Action.check checked >>= rest).Agrees state (checked >>= function) := by
  cases checked with
  | error error => exact rfl
  | ok value => exact h value rfl

theorem Agrees.ok_bind {value : Other} {rest : Other → Action State Error Value}
    (h : (rest value).Agrees state result) :
    (Action.check (.ok value) >>= rest).Agrees state result :=
  h

theorem Agrees.of_check (checked : Except Error Value) :
    (Action.check checked).Agrees state (checked >>= fun _ => pure state) := by
  cases checked with
  | error error => exact rfl
  | ok value => exact ⟨value, rfl⟩

theorem Agrees.of_write (change : State → State) :
    (Action.write change : Action State Error Unit).Agrees state (.ok (change state)) :=
  ⟨(), rfl⟩

theorem Agrees.of_pure (value : Value) :
    (pure value : Action State Error Value).Agrees state (.ok state) :=
  ⟨value, rfl⟩

theorem Agrees.write_bind {change : State → State} {rest : Unit → Action State Error Value}
    {last : State} (h : (rest ()).Agrees (change state) (.ok last)) :
    (Action.write change >>= rest).Agrees state (.ok last) :=
  h

/-- An action that agrees is followed by what cannot raise in any state that it leaves. -/
theorem Agrees.bind_total {function : State → Except Error State} (h : action.Agrees state result)
    (hrest : ∀ value left, result = .ok left → ∃ last, function left = .ok last ∧
      (rest value).Agrees left (.ok last)) :
    (action >>= rest).Agrees state (result >>= function) := by
  cases result with
  | error error =>
      have hraised : action state = (.error error, state) := h
      show Action.bind action rest state = (.error error, state)
      rw [Action.bind, hraised]
  | ok left =>
      obtain ⟨value, hvalue⟩ := h
      obtain ⟨last, hlast, hagrees⟩ := hrest value left rfl
      obtain ⟨returned, hreturned⟩ := hagrees
      show Agrees (Action.bind action rest) state (function left)
      rw [hlast]
      refine ⟨returned, ?_⟩
      rw [Action.bind, hvalue]
      exact hreturned

/-! ## Actions that raise late -/

/-- An action raises an error after the part of it that a function computes: it leaves what that
part leaves, unless the part itself raises. -/
def Stops (action : Action State Error Value) (state : State) (result : Except Error State)
    (error : Error) : Prop :=
  match result with
  | .ok left => action state = (.error error, left)
  | .error raised => action state = (.error raised, state)

theorem Stops.read_bind {rest : State → Action State Error Value}
    (h : (rest state).Stops state result error) : (Action.read >>= rest).Stops state result error :=
  h

/-- A check that fails ends both, and one that passes is followed by what raises late. -/
theorem Stops.check_bind {rest : Other → Action State Error Value}
    (h : ∀ value, checked = .ok value → (rest value).Stops state (function value) error) :
    (Action.check checked >>= rest).Stops state (checked >>= function) error := by
  cases checked with
  | error raised => exact rfl
  | ok value => exact h value rfl

/-- An action that agrees with a function is followed by what raises in any state that it
leaves. -/
theorem Stops.of_agrees (h : action.Agrees state result)
    (hrest : ∀ value left, rest value left = (.error error, left)) :
    (action >>= rest).Stops state result error := by
  cases result with
  | error raised =>
      have hraised : action state = (.error raised, state) := h
      show Action.bind action rest state = (.error raised, state)
      rw [Action.bind, hraised]
  | ok left =>
      obtain ⟨value, hvalue⟩ := h
      show Action.bind action rest state = (.error error, left)
      rw [Action.bind, hvalue]
      exact hrest value left

/-- Forgetting the value of an action that raises late changes nothing. -/
theorem Stops.forget (h : action.Stops state result error) :
    (action >>= fun _ => pure ()).Stops state result error := by
  cases result with
  | error raised =>
      have hraised : action state = (.error raised, state) := h
      show Action.bind action _ state = (.error raised, state)
      rw [Action.bind, hraised]
  | ok left =>
      have hraised : action state = (.error error, left) := h
      show Action.bind action _ state = (.error error, left)
      rw [Action.bind, hraised]

/-- An action that raises late is atomic only where the part before wrote nothing. -/
theorem Stops.atomic_iff (h : action.Stops state result error) :
    action.Atomic state ↔ ∀ left, result = .ok left → left = state := by
  cases result with
  | error raised =>
      have hraised : action state = (.error raised, state) := h
      exact ⟨fun _ left hleft => (nomatch hleft), fun _ other _ => by rw [hraised]⟩
  | ok left =>
      have hraised : action state = (.error error, left) := h
      constructor
      · intro hatomic other hother
        cases hother
        have hleft := hatomic error (by rw [hraised])
        rw [hraised] at hleft
        exact hleft
      · intro hsame other _
        rw [hraised]
        exact hsame left rfl

/-- Forgetting the value of an action changes nothing else. -/
theorem Agrees.forget (h : action.Agrees state result) :
    (action >>= fun _ => pure ()).Agrees state result := by
  cases result with
  | error error =>
      have hraised : action state = (.error error, state) := h
      show Action.bind action _ state = (.error error, state)
      rw [Action.bind, hraised]
  | ok left =>
      obtain ⟨value, hvalue⟩ := h
      refine ⟨(), ?_⟩
      show Action.bind action _ state = (.ok (), left)
      rw [Action.bind, hvalue]
      rfl

end Action

end Foundation
