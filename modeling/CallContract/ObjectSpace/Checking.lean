import CallContract.ObjectSpace.Action

/-!
# Checks around a call

Before the body of a member runs, the supplied arguments are checked against
the signature of each scope that checks it, nearest first; after it has run,
its result is checked in the reverse order.  A descriptor without a supplied
value and a value without a descriptor are passed over.
-/

namespace CallContract

/-- Checks items in order, up to the first that fails. -/
def checkInOrder (check : α → Except ε Unit) : List α → Except ε Unit
  | [] => .ok ()
  | item :: rest =>
      match check item with
      | .ok () => checkInOrder check rest
      | .error error => .error error

/-- An item fails a check that every item before it passes. -/
def FirstFailure (check : α → Except ε Unit) (items : List α) (error : ε) : Prop :=
  ∃ passed item rest,
    items = passed ++ item :: rest ∧
      (∀ earlier ∈ passed, check earlier = .ok ()) ∧ check item = .error error

theorem checkInOrder_eq_ok_iff
    {check : α → Except ε Unit} {items : List α} :
    checkInOrder check items = .ok () ↔ ∀ item ∈ items, check item = .ok () := by
  induction items with
  | nil => simp [checkInOrder]
  | cons item rest ih =>
      cases hitem : check item with
      | ok passed => simp [checkInOrder, hitem, ih]
      | error error => simp [checkInOrder, hitem]

theorem checkInOrder_eq_error_iff
    {check : α → Except ε Unit} {items : List α} {error : ε} :
    checkInOrder check items = .error error ↔ FirstFailure check items error := by
  induction items with
  | nil => simp [checkInOrder, FirstFailure]
  | cons item rest ih =>
      cases hitem : check item with
      | error found =>
          simp only [checkInOrder, hitem, Except.error.injEq]
          constructor
          · rintro rfl
            exact ⟨[], item, rest, rfl, by simp, hitem⟩
          · rintro ⟨passed, failing, others, hsplit, hpassed, hfailing⟩
            cases passed with
            | nil =>
                obtain ⟨rfl, rfl⟩ := List.cons.inj hsplit
                rw [hitem] at hfailing
                exact Except.error.inj hfailing
            | cons first passed =>
                obtain ⟨rfl, -⟩ := List.cons.inj hsplit
                have hfirst := hpassed item List.mem_cons_self
                rw [hitem] at hfirst
                cases hfirst
      | ok passed =>
          simp only [checkInOrder, hitem, ih]
          constructor
          · rintro ⟨passed, failing, others, rfl, hpassed, hfailing⟩
            refine ⟨item :: passed, failing, others, rfl, ?_, hfailing⟩
            intro earlier hearlier
            rcases List.mem_cons.mp hearlier with rfl | hlater
            · exact hitem
            · exact hpassed earlier hlater
          · rintro ⟨passed, failing, others, hsplit, hpassed, hfailing⟩
            cases passed with
            | nil =>
                obtain ⟨rfl, -⟩ := List.cons.inj hsplit
                rw [hitem] at hfailing
                cases hfailing
            | cons first passed =>
                obtain ⟨rfl, rfl⟩ := List.cons.inj hsplit
                exact ⟨passed, failing, others, rfl,
                  fun earlier h => hpassed earlier (List.mem_cons_of_mem _ h), hfailing⟩

theorem firstFailure_mapError_iff
    {check : α → Except ε Unit} {wrap : ε → ε'} {items : List α} {error : ε'} :
    FirstFailure (fun item => (check item).mapError wrap) items error ↔
      ∃ cause, FirstFailure check items cause ∧ wrap cause = error := by
  constructor
  · rintro ⟨passed, item, rest, hsplit, hpassed, hfailing⟩
    obtain ⟨cause, hcause, hwrap⟩ := mapError_eq_error_iff.mp hfailing
    exact ⟨cause, ⟨passed, item, rest, hsplit,
      fun earlier h => mapError_eq_ok_iff.mp (hpassed earlier h), hcause⟩, hwrap⟩
  · rintro ⟨cause, ⟨passed, item, rest, hsplit, hpassed, hcause⟩, hwrap⟩
    exact ⟨passed, item, rest, hsplit,
      fun earlier h => mapError_eq_ok_iff.mpr (hpassed earlier h),
      mapError_eq_error_iff.mpr ⟨cause, hcause, hwrap⟩⟩

namespace ObjectSpace

/-- The first position whose value does not match its descriptor. -/
def firstMismatch?
    (space : ObjectSpace) :
    Nat → List Descriptor → List Value → Option (Slot × Descriptor × Value)
  | index, descriptor :: descriptors, value :: values =>
      if space.accepts descriptor value then
        firstMismatch? space (index + 1) descriptors values
      else some (.position index, descriptor, value)
  | _, _, _ => none

/-- The mismatch of a keyword, if its value was supplied. -/
def keywordMismatch?
    (space : ObjectSpace)
    (arguments : Arguments)
    (keyword : Symbol × Descriptor) : Option (Slot × Descriptor × Value) :=
  match arguments.keyword? keyword.1 with
  | none => none
  | some value =>
      if space.accepts keyword.2 value then none
      else some (.keyword keyword.1, keyword.2, value)

/-- The first argument that violates a signature: positions from the left, then
keywords in the order of the signature. -/
def argumentMismatch?
    (space : ObjectSpace)
    (signature : Signature)
    (arguments : Arguments) : Option (Slot × Descriptor × Value) :=
  (space.firstMismatch? 0 signature.positional arguments.positional).or
    (signature.keywords.findSome? (space.keywordMismatch? arguments))

def checkArguments
    (space : ObjectSpace)
    (scope : ScopeId)
    (member : Symbol)
    (signature : Signature)
    (arguments : Arguments) : Except ArgumentViolation Unit :=
  match space.argumentMismatch? signature arguments with
  | none => .ok ()
  | some (slot, descriptor, value) =>
      .error ⟨space.scopeName scope, member, slot, descriptor.text, space.describe value⟩

def checkResult
    (space : ObjectSpace)
    (scope : ScopeId)
    (member : Symbol)
    (signature : Signature)
    (value : Value) : Except ResultViolation Unit :=
  if space.accepts signature.result value then .ok ()
  else .error ⟨space.scopeName scope, member, signature.resultText, space.describe value⟩

/-- The signatures in force for a member on the scopes that check it. -/
def signaturesFor
    (space : ObjectSpace)
    (member : Symbol)
    (interceptors : List ScopeId) : List (ScopeId × Signature) :=
  interceptors.filterMap fun scope =>
    (space.signature? scope member).map fun signature => (scope, signature)

def checkAllArguments
    (space : ObjectSpace)
    (member : Symbol)
    (arguments : Arguments) : List (ScopeId × Signature) → Except CallError Unit :=
  checkInOrder fun contract =>
    (space.checkArguments contract.1 member contract.2 arguments).mapError .argumentType

def checkAllResults
    (space : ObjectSpace)
    (member : Symbol)
    (value : Value) : List (ScopeId × Signature) → Except CallError Unit :=
  checkInOrder fun contract =>
    (space.checkResult contract.1 member contract.2 value).mapError .resultType

variable {space : ObjectSpace} {member : Symbol} {contracts : List (ScopeId × Signature)}

theorem checkAllArguments_eq_ok_iff {arguments : Arguments} :
    space.checkAllArguments member arguments contracts = .ok () ↔
      ∀ contract ∈ contracts,
        space.checkArguments contract.1 member contract.2 arguments = .ok () := by
  simp only [checkAllArguments, checkInOrder_eq_ok_iff, mapError_eq_ok_iff]

theorem checkAllArguments_eq_error_iff {arguments : Arguments} {error : CallError} :
    space.checkAllArguments member arguments contracts = .error error ↔
      ∃ violation,
        FirstFailure (fun contract => space.checkArguments contract.1 member contract.2 arguments)
          contracts violation ∧ .argumentType violation = error := by
  simp only [checkAllArguments, checkInOrder_eq_error_iff, firstFailure_mapError_iff]

theorem checkAllResults_eq_ok_iff {value : Value} :
    space.checkAllResults member value contracts = .ok () ↔
      ∀ contract ∈ contracts, space.checkResult contract.1 member contract.2 value = .ok () := by
  simp only [checkAllResults, checkInOrder_eq_ok_iff, mapError_eq_ok_iff]

theorem checkAllResults_eq_error_iff {value : Value} {error : CallError} :
    space.checkAllResults member value contracts = .error error ↔
      ∃ violation,
        FirstFailure (fun contract => space.checkResult contract.1 member contract.2 value)
          contracts violation ∧ .resultType violation = error := by
  simp only [checkAllResults, checkInOrder_eq_error_iff, firstFailure_mapError_iff]

end ObjectSpace

end CallContract
