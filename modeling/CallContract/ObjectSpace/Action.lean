import CallContract.ObjectSpace.State

/-!
# Actions

An action changes an object space and gives a result or an error; what was
changed before an error stays.
-/

namespace CallContract

theorem bind_eq_ok_iff
    {first : Except ε α} {next : α → Except ε β} {result : β} :
    (first >>= next) = .ok result ↔
      ∃ intermediate, first = .ok intermediate ∧ next intermediate = .ok result := by
  cases first <;> simp [bind, Except.bind]

theorem map_eq_ok_iff
    {outcome : Except ε α} {f : α → β} {result : β} :
    outcome.map f = .ok result ↔ ∃ original, outcome = .ok original ∧ f original = result := by
  cases outcome <;> simp [Except.map]

theorem mapError_eq_ok_iff
    {outcome : Except ε α} {wrap : ε → ε'} {result : α} :
    outcome.mapError wrap = .ok result ↔ outcome = .ok result := by
  cases outcome with
  | ok original => constructor <;> rintro ⟨⟩ <;> rfl
  | error cause => exact iff_of_false nofun nofun

theorem mapError_eq_error_iff
    {outcome : Except ε α} {wrap : ε → ε'} {error : ε'} :
    outcome.mapError wrap = .error error ↔
      ∃ cause, outcome = .error cause ∧ wrap cause = error := by
  cases outcome with
  | ok original => exact iff_of_false nofun fun ⟨_, hcause, _⟩ => nomatch hcause
  | error cause =>
      constructor
      · rintro ⟨⟩
        exact ⟨cause, rfl, rfl⟩
      · rintro ⟨_, ⟨⟩, rfl⟩
        rfl

abbrev Action (ε α : Type) : Type :=
  ExceptT ε (StateM ObjectSpace) α

namespace Action

/-- A step that changes nothing if it fails. -/
def step
    (wrap : ε → ε')
    (change : ObjectSpace → Except ε (α × ObjectSpace)) : Action ε' α :=
  ExceptT.mk fun space =>
    match change space with
    | .ok (result, changed) => (.ok result, changed)
    | .error error => (.error (wrap error), space)

/-- Goes on with the outcome of an action, be it a result or an error. -/
def handle (action : Action ε α) (next : Except ε α → Action ε' β) : Action ε' β :=
  ExceptT.mk fun space =>
    match action.run space with
    | (outcome, after) => (next outcome).run after

/-- An action with its errors and its result in other words. -/
def respond (wrap : ε → ε') (respond : α → β) (action : Action ε α) : Action ε' β :=
  action.handle fun
    | .ok result => pure (respond result)
    | .error error => throw (wrap error)

@[simp] theorem run_pure (result : α) (space : ObjectSpace) :
    (pure result : Action ε α).run space = (.ok result, space) :=
  rfl

@[simp] theorem run_throw (error : ε) (space : ObjectSpace) :
    (throw error : Action ε α).run space = (.error error, space) :=
  rfl

@[simp] theorem run_liftM (outcome : Except ε α) (space : ObjectSpace) :
    (liftM outcome : Action ε α).run space = (outcome, space) :=
  rfl

@[simp] theorem run_get (space : ObjectSpace) :
    (get : Action ε ObjectSpace).run space = (.ok space, space) :=
  rfl

theorem run_bind
    (action : Action ε α)
    (next : α → Action ε β)
    (space : ObjectSpace) :
    (action >>= next).run space =
      match action.run space with
      | (.ok result, after) => (next result).run after
      | (.error error, after) => (.error error, after) := by
  rw [run_bind_in_place]
  rcases action.run space with ⟨outcome, after⟩
  cases outcome <;> rfl

theorem run_bind_eq_ok_iff
    {action : Action ε α} {next : α → Action ε β} {space after : ObjectSpace} {result : β} :
    (action >>= next).run space = (.ok result, after) ↔
      ∃ intermediate middle, action.run space = (.ok intermediate, middle) ∧
        (next intermediate).run middle = (.ok result, after) := by
  rw [run_bind]
  rcases action.run space with ⟨outcome, middle⟩
  constructor
  · intro hrun
    cases outcome with
    | ok intermediate => exact ⟨intermediate, middle, rfl, hrun⟩
    | error error => cases hrun
  · rintro ⟨intermediate, _, hfirst, hrun⟩
    cases hfirst
    exact hrun

theorem run_step_eq_ok_iff
    {wrap : ε → ε'} {change : ObjectSpace → Except ε (α × ObjectSpace)}
    {space after : ObjectSpace} {result : α} :
    (step wrap change).run space = (.ok result, after) ↔ change space = .ok (result, after) := by
  simp only [step, ExceptT.run_mk]
  constructor
  · intro hrun
    split at hrun
    next hchange =>
      cases hrun
      exact hchange
    next => cases hrun
  · intro hchange
    rw [hchange]

theorem run_handle
    (action : Action ε α)
    (next : Except ε α → Action ε' β)
    (space : ObjectSpace) :
    (action.handle next).run space =
      (next (action.run space).1).run (action.run space).2 :=
  rfl

theorem run_respond_eq_ok_iff
    {action : Action ε α} {wrap : ε → ε'} {respond : α → β} {space after : ObjectSpace}
    {response : β} :
    (action.respond wrap respond).run space = (.ok response, after) ↔
      ∃ result, action.run space = (.ok result, after) ∧ respond result = response := by
  rw [Action.respond, run_handle]
  rcases action.run space with ⟨outcome, middle⟩
  constructor
  · intro hrun
    cases outcome with
    | ok result =>
        cases hrun
        exact ⟨result, rfl, rfl⟩
    | error error => cases hrun
  · rintro ⟨result, hresult, rfl⟩
    cases hresult
    rfl

theorem run_respond_eq_error_iff
    {action : Action ε α} {wrap : ε → ε'} {respond : α → β} {space after : ObjectSpace}
    {error : ε'} :
    (action.respond wrap respond).run space = (.error error, after) ↔
      ∃ cause, action.run space = (.error cause, after) ∧ wrap cause = error := by
  rw [Action.respond, run_handle]
  rcases action.run space with ⟨outcome, middle⟩
  constructor
  · intro hrun
    cases outcome with
    | ok result => cases hrun
    | error cause =>
        cases hrun
        exact ⟨cause, rfl, rfl⟩
  · rintro ⟨cause, hcause, rfl⟩
    cases hcause
    rfl

end Action

end CallContract
