import CallContract.Proofs.Reachability

/-!
# The order of declarations

Members may be defined before or after they are put under contract.  A
definition that finds no waiting annotation changes members only, and a
contract changes all but members, so both can be exchanged; an interleaving of
definitions and contracts therefore leads to the same object space as the
definitions followed by the contracts.
-/

namespace CallContract

/-- A list that merges two others, each in its own order. -/
inductive Interleaves : List α → List α → List α → Prop
  | nil : Interleaves [] [] []
  | left {item : α} {first second merged : List α} (h : Interleaves first second merged) :
      Interleaves (item :: first) second (item :: merged)
  | right {item : α} {first second merged : List α} (h : Interleaves first second merged) :
      Interleaves first (item :: second) (item :: merged)

theorem Interleaves.second_then_first (first second : List α) :
    Interleaves first second (second ++ first) := by
  induction second with
  | nil =>
      induction first with
      | nil => exact .nil
      | cons item rest ih => exact .left ih
  | cons item rest ih => exact .right ih

/-- Operations that define a member, or define it again. -/
def Operation.IsDefinition : Operation → Prop
  | .defineMember .. => True
  | _ => False

/-- Operations that put a member under contract outright. -/
def Operation.IsContract : Operation → Prop
  | .register .. | .contract .. => True
  | _ => False

namespace ObjectSpace

def afterAll (space : ObjectSpace) (operations : List Operation) : ObjectSpace :=
  operations.foldl (fun space operation => (space.perform operation).2) space

def outcomes (space : ObjectSpace) : List Operation → List (Except Failure Response)
  | [] => []
  | operation :: rest =>
      (space.perform operation).1 :: outcomes (space.perform operation).2 rest

variable {space : ObjectSpace}

/-! ### Definitions and contracts on their own -/

theorem consumePending_of_no_pending
    (hpending : space.pending = []) (scope : ScopeId) (member : Symbol) :
    space.consumePending scope member = space := by
  have hwaiting : space.waiting? scope = none := by
    simp [waiting?, hpending]
  unfold consumePending
  rw [hwaiting]

theorem perform_defineMember
    (hpending : space.pending = [])
    (scope : ScopeId) (name : Symbol) (visibility : Visibility) (parameters : Parameters)
    (body : Body) :
    (space.perform (.defineMember scope name visibility parameters body)).2 =
      match space.scopes.get? scope with
      | some _ => space.insertMember ⟨⟨name, scope, visibility, parameters⟩, body⟩
      | none => space := by
  rw [perform_eq_inSteps]
  change ((Action.change _ _ _).run space).2 = _
  rw [Action.run_change]
  unfold defineMember ensureScope ScopeTable.find
  cases space.scopes.get? scope with
  | none => rfl
  | some definition =>
      let defined := space.insertMember ⟨⟨name, scope, visibility, parameters⟩, body⟩
      have hdefined : defined.pending = [] := hpending
      exact consumePending_of_no_pending hdefined scope name

theorem perform_register (scope : ScopeId) (member : Symbol) (term : Term) :
    (space.perform (.register scope member term)).2 =
      match term.signature with
      | .ok signature => space.registerSignature scope member signature
      | .error _ => space := by
  rw [perform_eq_inSteps]
  change ((Action.change _ _ _).run space).2 = _
  rw [Action.run_change]
  unfold compileAndRegister
  cases term.signature <;> rfl

theorem perform_contract (scope : ScopeId) (member : Symbol) (term : Term) :
    (space.perform (.contract scope member term)).2 =
      match space.scopes.get? scope, term.signature with
      | some _, .ok signature => space.registerSignature scope member signature
      | _, _ => space := by
  rw [perform_eq_inSteps]
  change ((Action.change _ _ _).run space).2 = _
  rw [Action.run_change]
  unfold contract requireScope compile
  cases space.scopes.get? scope with
  | none => rfl
  | some definition => cases term.signature <;> rfl

theorem perform_of_isContract
    (space : ObjectSpace) {contract : Operation} (h : contract.IsContract) :
    (space.perform contract).2.scopes = space.scopes ∧
      (space.perform contract).2.members = space.members ∧
        (space.perform contract).2.pending = space.pending := by
  cases contract with
  | register scope member term =>
      rw [perform_register]
      split <;> exact ⟨rfl, rfl, rfl⟩
  | contract scope member term =>
      rw [perform_contract]
      split <;> exact ⟨rfl, rfl, rfl⟩
  | _ => exact h.elim

theorem perform_of_isDefinition
    (hpending : space.pending = []) {definition : Operation} (h : definition.IsDefinition) :
    (space.perform definition).2.layers = space.layers ∧
      (space.perform definition).2.registry = space.registry ∧
        (space.perform definition).2.pending = [] := by
  cases definition with
  | defineMember scope name visibility parameters body =>
      rw [perform_defineMember hpending]
      split <;> exact ⟨rfl, rfl, hpending⟩
  | _ => exact h.elim

theorem insertMember_perform
    (member : Member) {contract : Operation} (h : contract.IsContract) :
    ((space.insertMember member).perform contract).2 =
      (space.perform contract).2.insertMember member := by
  have hscopes : (space.insertMember member).scopes = space.scopes := rfl
  cases contract with
  | register scope contracted term =>
      rw [perform_register, perform_register]
      cases term.signature <;> rfl
  | contract scope contracted term =>
      rw [perform_contract, perform_contract, hscopes]
      cases space.scopes.get? scope with
      | none => rfl
      | some found => cases term.signature <;> rfl
  | _ => exact h.elim

/-- A definition and a contract can be exchanged. -/
theorem perform_comm
    (hpending : space.pending = []) {definition contract : Operation}
    (hdefinition : definition.IsDefinition) (hcontract : contract.IsContract) :
    ((space.perform contract).2.perform definition).2 =
      ((space.perform definition).2.perform contract).2 := by
  obtain ⟨hscopes, -, hwaiting⟩ := space.perform_of_isContract hcontract
  cases definition with
  | defineMember scope name visibility parameters body =>
      rw [perform_defineMember (hwaiting.trans hpending), perform_defineMember hpending, hscopes]
      cases space.scopes.get? scope with
      | none => rfl
      | some found => exact (insertMember_perform _ hcontract).symm
  | _ => exact hdefinition.elim

/-! ### Sequences -/

theorem afterAll_append (space : ObjectSpace) (first second : List Operation) :
    space.afterAll (first ++ second) = (space.afterAll first).afterAll second :=
  List.foldl_append

theorem reaches_afterAll (space : ObjectSpace) (operations : List Operation) :
    space.Reaches (space.afterAll operations) := by
  induction operations generalizing space with
  | nil => exact .refl
  | cons operation rest ih => exact (space.perform_reaches operation).trans (ih _)

theorem afterAll_definitions
    {definitions : List Operation} (hpending : space.pending = [])
    (hdefinitions : ∀ definition ∈ definitions, definition.IsDefinition) :
    (space.afterAll definitions).layers = space.layers ∧
      (space.afterAll definitions).registry = space.registry ∧
        (space.afterAll definitions).pending = [] := by
  induction definitions generalizing space with
  | nil => exact ⟨rfl, rfl, hpending⟩
  | cons definition rest ih =>
      have hrest := fun other hother => hdefinitions other (List.mem_cons_of_mem _ hother)
      obtain ⟨hlayers, hregistry, hwaiting⟩ :=
        perform_of_isDefinition hpending (hdefinitions definition List.mem_cons_self)
      obtain ⟨hlayersRest, hregistryRest, hwaitingRest⟩ := ih hwaiting hrest
      exact ⟨hlayersRest.trans hlayers, hregistryRest.trans hregistry, hwaitingRest⟩

theorem afterAll_contracts
    (space : ObjectSpace) {contracts : List Operation}
    (hcontracts : ∀ contract ∈ contracts, contract.IsContract) :
    (space.afterAll contracts).members = space.members ∧
      (space.afterAll contracts).pending = space.pending := by
  induction contracts generalizing space with
  | nil => exact ⟨rfl, rfl⟩
  | cons contract rest ih =>
      have hrest := fun other hother => hcontracts other (List.mem_cons_of_mem _ hother)
      obtain ⟨-, hmembers, hwaiting⟩ :=
        space.perform_of_isContract (hcontracts contract List.mem_cons_self)
      obtain ⟨hmembersRest, hwaitingRest⟩ := ih (space.perform contract).2 hrest
      exact ⟨hmembersRest.trans hmembers, hwaitingRest.trans hwaiting⟩

theorem afterAll_perform
    {definitions : List Operation} {contract : Operation} (hpending : space.pending = [])
    (hdefinitions : ∀ definition ∈ definitions, definition.IsDefinition)
    (hcontract : contract.IsContract) :
    (space.perform contract).2.afterAll definitions =
      ((space.afterAll definitions).perform contract).2 := by
  induction definitions generalizing space with
  | nil => rfl
  | cons definition rest ih =>
      have hrest := fun other hother => hdefinitions other (List.mem_cons_of_mem _ hother)
      have hdefinition := hdefinitions definition List.mem_cons_self
      obtain ⟨-, -, hwaiting⟩ := perform_of_isDefinition hpending hdefinition
      calc
        (space.perform contract).2.afterAll (definition :: rest) =
            ((space.perform contract).2.perform definition).2.afterAll rest := rfl
        _ = ((space.perform definition).2.perform contract).2.afterAll rest := by
            rw [perform_comm hpending hdefinition hcontract]
        _ = (((space.perform definition).2.afterAll rest).perform contract).2 :=
            ih hwaiting hrest

theorem afterAll_interleaving
    {definitions contracts merged : List Operation}
    (hmerged : Interleaves definitions contracts merged) (hpending : space.pending = [])
    (hdefinitions : ∀ definition ∈ definitions, definition.IsDefinition)
    (hcontracts : ∀ contract ∈ contracts, contract.IsContract) :
    space.afterAll merged = (space.afterAll definitions).afterAll contracts := by
  induction hmerged generalizing space with
  | nil => rfl
  | left hrest ih =>
      have hlater := fun other hother => hdefinitions other (List.mem_cons_of_mem _ hother)
      obtain ⟨-, -, hwaiting⟩ :=
        perform_of_isDefinition hpending (hdefinitions _ List.mem_cons_self)
      exact ih hwaiting hlater hcontracts
  | @right contract definitions contracts merged hrest ih =>
      have hlater := fun other hother => hcontracts other (List.mem_cons_of_mem _ hother)
      have hcontract := hcontracts contract List.mem_cons_self
      have hwaiting := (space.perform_of_isContract hcontract).2.2.trans hpending
      calc
        space.afterAll (contract :: merged) = (space.perform contract).2.afterAll merged := rfl
        _ = ((space.perform contract).2.afterAll definitions).afterAll contracts :=
            ih hwaiting hdefinitions hlater
        _ = (space.afterAll definitions).afterAll (contract :: contracts) := by
            rw [afterAll_perform hpending hdefinitions hcontract]
            rfl

/-- Whatever the order of definitions and contracts, the members are those of
the definitions, and layers and registry those of the contracts; so no later
operation and no question can tell one interleaving from another. -/
theorem declaration_order_irrelevant
    {definitions contracts first second : List Operation} (hpending : space.pending = [])
    (hdefinitions : ∀ definition ∈ definitions, definition.IsDefinition)
    (hcontracts : ∀ contract ∈ contracts, contract.IsContract)
    (hfirst : Interleaves definitions contracts first)
    (hsecond : Interleaves definitions contracts second) :
    ((space.afterAll first).members = (space.afterAll definitions).members ∧
      (space.afterAll first).layers = (space.afterAll contracts).layers ∧
      (space.afterAll first).registry = (space.afterAll contracts).registry) ∧
    space.afterAll first = space.afterAll second ∧
    (∀ later, (space.afterAll first).outcomes later = (space.afterAll second).outcomes later) ∧
    (∀ scope name,
      (space.afterAll first).definesMember scope name =
        (space.afterAll second).definesMember scope name) ∧
    ∀ receiver name,
      (space.afterAll first).respondsTo receiver name =
          (space.afterAll second).respondsTo receiver name ∧
        (space.afterAll first).memberInfo? receiver name =
          (space.afterAll second).memberInfo? receiver name := by
  have hcanonical := afterAll_interleaving hfirst hpending hdefinitions hcontracts
  have hsame : space.afterAll first = space.afterAll second :=
    hcanonical.trans
      (afterAll_interleaving hsecond hpending hdefinitions hcontracts).symm
  have hswapped : space.afterAll first = (space.afterAll contracts).afterAll definitions := by
    rw [← afterAll_append, hcanonical]
    exact (afterAll_interleaving (.second_then_first definitions contracts) hpending
      hdefinitions hcontracts).symm
  obtain ⟨hmembers, -⟩ := (space.afterAll definitions).afterAll_contracts hcontracts
  have hwaiting := (space.afterAll_contracts hcontracts).2.trans hpending
  obtain ⟨hlayers, hregistry, -⟩ := afterAll_definitions hwaiting hdefinitions
  refine ⟨⟨?_, ?_, ?_⟩, hsame, ?_, ?_, ?_⟩
  · rw [hcanonical]
    exact hmembers
  · rw [hswapped]
    exact hlayers
  · rw [hswapped]
    exact hregistry
  · intro later
    rw [hsame]
  · intro scope name
    rw [hsame]
  · intro receiver name
    rw [hsame]
    exact ⟨rfl, rfl⟩

theorem declaration_order_irrelevant_for_one_member :
    (initial ⟨0⟩ .standard []).afterAll
        [.defineMember .object ⟨"size"⟩ .publicAccess .none (.reader "size"),
          .contract .object ⟨"size"⟩ (.spec (.list []) .any)] =
      (initial ⟨0⟩ .standard []).afterAll
        [.contract .object ⟨"size"⟩ (.spec (.list []) .any),
          .defineMember .object ⟨"size"⟩ .publicAccess .none (.reader "size")] := by
  have hpending : (initial ⟨0⟩ .standard []).pending = [] := rfl
  exact (declaration_order_irrelevant hpending
    (by simp [Operation.IsDefinition]) (by simp [Operation.IsContract])
    (.left (.right .nil)) (.right (.left .nil))).2.1

end ObjectSpace

end CallContract
