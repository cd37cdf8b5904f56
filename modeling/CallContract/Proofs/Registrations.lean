import CallContract.Proofs.Reachability

/-!
# What puts members under contract

Layers, registry and registrations change together, and only when a contract
is put in force: outright, by a definition that consumes an annotation, or by
a typed accessor.
-/

namespace CallContract

namespace ObjectSpace

/-- All that concerns contracts in force is the same. -/
structure SameContracts (space after : ObjectSpace) : Prop where
  id : after.id = space.id
  layers : after.layers = space.layers
  registry : after.registry = space.registry
  registrations : after.registrations = space.registrations

variable {space after : ObjectSpace} {scope : ScopeId} {member : Symbol}

/-- A change of an object space puts at most one contract in force. -/
theorem Change.contracts (h : space.Change after) :
    space.SameContracts after ∨
      ∃ before scope member signature,
        space.SameContracts before ∧ after = before.registerSignature scope member signature := by
  cases h with
  | defineMember made hscope =>
      unfold consumePending
      split
      next => exact .inl ⟨rfl, rfl, rfl, rfl⟩
      next annotated signature hwaiting =>
        exact .inr ⟨{ space.insertMember made with pending := space.pending.erase annotated },
          _, _, signature, ⟨rfl, rfl, rfl, rfl⟩, rfl⟩
  | register scope member hsignature =>
      exact .inr ⟨space, scope, member, _, ⟨rfl, rfl, rfl, rfl⟩, rfl⟩
  | _ => exact .inl ⟨rfl, rfl, rfl, rfl⟩

theorem Reaches.registrations_grow (h : space.Reaches after) :
    space.registrations <+: after.registrations := by
  induction h with
  | refl => exact List.prefix_refl _
  | tail hbefore hchange ih =>
      rcases hchange.contracts with hsame | ⟨before, scope, member, signature, hsame, rfl⟩
      · rw [hsame.registrations]
        exact ih
      · apply ih.trans
        rw [← hsame.registrations]
        exact List.prefix_append _ _

/-- A contract is among those that were put in force between two states. -/
def Gains (space after : ObjectSpace) (made : Registration) : Prop :=
  ∃ gained, after.registrations = space.registrations ++ gained ∧ made ∈ gained

theorem Gains.of_reaches
    {before : ObjectSpace} {made : Registration}
    (hbefore : before.Reaches space) (h : space.Gains after made) : before.Gains after made := by
  obtain ⟨earlier, hearlier⟩ := hbefore.registrations_grow
  obtain ⟨gained, hgained, hmade⟩ := h
  refine ⟨earlier ++ gained, ?_, List.mem_append_right _ hmade⟩
  rw [hgained, ← hearlier, List.append_assoc]

theorem Gains.reaches
    {later : ObjectSpace} {made : Registration}
    (h : space.Gains after made) (hlater : after.Reaches later) : space.Gains later made := by
  obtain ⟨others, hothers⟩ := hlater.registrations_grow
  obtain ⟨gained, hgained, hmade⟩ := h
  refine ⟨gained ++ others, ?_, List.mem_append_left _ hmade⟩
  rw [← hothers, hgained, List.append_assoc]

theorem gains_registerSignature (signature : Signature) :
    space.Gains (space.registerSignature scope member signature)
      ⟨scope, member, signature⟩ :=
  ⟨_, rfl, List.mem_singleton_self _⟩

theorem consumePending_registrations :
    (space.consumePending scope member).registrations =
      space.registrations ++
        (space.waiting? scope).toList.map fun waiting => ⟨scope, member, waiting.2⟩ := by
  unfold consumePending
  cases space.waiting? scope with
  | none => simp
  | some waiting => rfl

end ObjectSpace

/-! ### Single operations -/

def ObjectSpace.onSingleton
    (space : ObjectSpace)
    (receiver : Value)
    (member : Symbol)
    (signature : Signature) : List Registration :=
  match space.singletonScope receiver with
  | .ok (singleton, _) => [⟨singleton, member, signature⟩]
  | .error _ => []

/-- The contracts that an operation with an outcome puts in force, if it is
neither a call nor one of several typed accessors. -/
def Operation.registers (space : ObjectSpace) :
    Operation → Except Failure Response → List Registration
  | .register scope member _, .ok (.signature signature)
  | .contract scope member _, .ok (.signature signature)
  | .contractOn (.scope scope) member _, .ok (.signature signature) =>
      [⟨scope, member, signature⟩]
  | .contractSelf scope member _, .ok (.signature signature) =>
      space.onSingleton (.scope scope) member signature
  | .contractOn receiver member _, .ok (.signature signature) =>
      space.onSingleton receiver member signature
  | .defineMember scope name _ _ _, .ok _ =>
      (space.waiting? scope).toList.map fun waiting => ⟨scope, name, waiting.2⟩
  | _, _ => []

/-- An operation that changes an object space at once. -/
def Operation.IsSingle : Operation → Prop
  | .typedAccessors .. | .call .. | .send .. => False
  | _ => True

namespace ObjectSpace

variable {space after : ObjectSpace} {scope : ScopeId} {member : Symbol} {term : Term}
  {signature : Signature}

theorem registrations_of_compileAndRegister
    (h : space.compileAndRegister scope member term = .ok (signature, after)) :
    after.registrations = space.registrations ++ [⟨scope, member, signature⟩] := by
  obtain ⟨compiled, -, hpair⟩ := bind_eq_ok_iff.mp h
  cases hpair
  rfl

theorem registrations_of_contract
    (h : space.contract scope member term = .ok (signature, after)) :
    after.registrations = space.registrations ++ [⟨scope, member, signature⟩] := by
  obtain ⟨⟨⟩, -, hrest⟩ := bind_eq_ok_iff.mp h
  obtain ⟨compiled, -, hpair⟩ := bind_eq_ok_iff.mp hrest
  cases hpair
  rfl

theorem singletonScope_registrations
    {receiver : Value} {singleton : ScopeId}
    (h : space.singletonScope receiver = .ok (singleton, after)) :
    after.registrations = space.registrations := by
  unfold singletonScope at h
  split at h
  next => cases h
  next =>
    obtain ⟨made, -, hpair⟩ := bind_eq_ok_iff.mp h
    cases hpair
    rfl

theorem setVisibility_registrations
    {name : Symbol} {visibility : Visibility}
    (h : space.setVisibility scope name visibility = .ok after) :
    after.registrations = space.registrations := by
  unfold setVisibility at h
  split at h
  next => cases h
  next =>
    cases h
    rfl

theorem writeVariable_registrations
    {receiver value : Value} {name : String}
    (h : space.writeVariable receiver name value = .ok after) :
    after.registrations = space.registrations := by
  unfold writeVariable at h
  split at h
  next =>
    cases h
    rfl
  next => cases h

theorem registrations_of_contractSingleton
    {receiver : Value}
    (h : space.contractSingleton receiver member term = .ok (signature, after)) :
    after.registrations =
      space.registrations ++ space.onSingleton receiver member signature := by
  obtain ⟨compiled, -, hrest⟩ := bind_eq_ok_iff.mp h
  obtain ⟨⟨singleton, middle⟩, hmade, hpair⟩ := bind_eq_ok_iff.mp hrest
  have hsingleton := mapError_eq_ok_iff.mp hmade
  cases hpair
  unfold onSingleton
  rw [hsingleton, ← singletonScope_registrations hsingleton]
  rfl

theorem registrations_of_contractSelf
    (h : space.contractSelf scope member term = .ok (signature, after)) :
    after.registrations =
      space.registrations ++ space.onSingleton (.scope scope) member signature := by
  obtain ⟨⟨⟩, -, hrest⟩ := bind_eq_ok_iff.mp h
  exact registrations_of_contractSingleton hrest

theorem registrations_of_defineMember
    {name : Symbol} {visibility : Visibility} {parameters : Parameters} {body : Body}
    {definition : MemberDefinition}
    (h : space.defineMember scope name visibility parameters body = .ok (definition, after)) :
    after.registrations =
      space.registrations ++
        (space.waiting? scope).toList.map fun waiting => ⟨scope, name, waiting.2⟩ := by
  obtain ⟨⟨⟩, -, hpair⟩ := bind_eq_ok_iff.mp h
  cases hpair
  exact consumePending_registrations

theorem registrations_of_contractOn
    {receiver : Value}
    (h : space.contractOn receiver member term = .ok (signature, after)) :
    after.registrations = space.registrations ++
      (Operation.contractOn receiver member term).registers space (.ok (.signature signature)) := by
  unfold contractOn at h
  split at h
  next scope => exact registrations_of_contract h
  next hother =>
    rw [registrations_of_contractSingleton h]
    cases receiver with
    | scope scope => exact (hother scope rfl).elim
    | _ => rfl

theorem run_change_registrations
    {wrap : ε → Failure} {respond : α → Response}
    {change : ObjectSpace → Except ε (α × ObjectSpace)} {operation : Operation}
    (hok : ∀ result after, change space = .ok (result, after) →
      after.registrations =
        space.registrations ++ operation.registers space (.ok (respond result)))
    (herror : ∀ failure, operation.registers space (.error failure) = []) :
    ((Action.change wrap respond change).run space).2.registrations =
      space.registrations ++
        operation.registers space ((Action.change wrap respond change).run space).1 := by
  rw [Action.run_change]
  cases hresult : change space with
  | error error => rw [herror, List.append_nil]
  | ok result => exact hok result.1 result.2 hresult

/-- A single operation puts the contracts in force that it registers, and none
if it fails. -/
theorem perform_registrations
    (space : ObjectSpace) {operation : Operation} (hsingle : operation.IsSingle) :
    (space.perform operation).2.registrations =
      space.registrations ++ operation.registers space (space.perform operation).1 := by
  rw [perform_eq_inSteps]
  cases operation with
  | defineClass name superclass =>
      apply run_change_registrations _ fun _ => rfl
      intro result after h
      obtain ⟨made, -, hpair⟩ := bind_eq_ok_iff.mp h
      cases hpair
      exact (List.append_nil _).symm
  | defineModule name =>
      apply run_change_registrations _ fun _ => rfl
      intro result after h
      obtain ⟨made, -, hpair⟩ := bind_eq_ok_iff.mp h
      cases hpair
      exact (List.append_nil _).symm
  | includeModule scope included =>
      apply run_change_registrations _ fun _ => rfl
      intro result after h
      obtain ⟨changed, hchanged, hpair⟩ := map_eq_ok_iff.mp h
      obtain ⟨table, -, htable⟩ := bind_eq_ok_iff.mp hchanged
      cases hpair
      cases htable
      exact (List.append_nil _).symm
  | newObject ofClass =>
      apply run_change_registrations _ fun _ => rfl
      intro result after h
      obtain ⟨definition, -, hmade⟩ := bind_eq_ok_iff.mp h
      split at hmade
      next =>
        cases hmade
        exact (List.append_nil _).symm
      next => cases hmade
  | singleton receiver =>
      apply run_change_registrations _ fun _ => rfl
      intro result after h
      rw [singletonScope_registrations h]
      exact (List.append_nil _).symm
  | defineMember scope name visibility parameters body =>
      apply run_change_registrations _ fun _ => rfl
      intro result after h
      exact registrations_of_defineMember h
  | setVisibility scope name visibility =>
      apply run_change_registrations _ fun _ => rfl
      intro result after h
      obtain ⟨changed, hchanged, hpair⟩ := map_eq_ok_iff.mp h
      cases hpair
      rw [setVisibility_registrations hchanged]
      exact (List.append_nil _).symm
  | writeVariable receiver name value =>
      apply run_change_registrations _ fun _ => rfl
      intro result after h
      obtain ⟨changed, hchanged, hpair⟩ := map_eq_ok_iff.mp h
      cases hpair
      rw [writeVariable_registrations hchanged]
      exact (List.append_nil _).symm
  | register scope member term =>
      exact run_change_registrations
        (fun _ _ h => registrations_of_compileAndRegister h) fun _ => rfl
  | contract scope member term =>
      exact run_change_registrations (fun _ _ h => registrations_of_contract h) fun _ => rfl
  | contractSelf scope member term =>
      exact run_change_registrations (fun _ _ h => registrations_of_contractSelf h) fun _ => rfl
  | contractOn receiver member term =>
      apply run_change_registrations
      · intro result after h
        exact registrations_of_contractOn h
      · intro failure
        cases receiver <;> rfl
  | annotate receiver term =>
      apply run_change_registrations _ fun _ => rfl
      intro result after h
      unfold annotate at h
      split at h
      next scope =>
        obtain ⟨⟨⟩, -, hrest⟩ := bind_eq_ok_iff.mp h
        obtain ⟨compiled, -, hpair⟩ := bind_eq_ok_iff.mp hrest
        cases hpair
        exact (List.append_nil _).symm
      next => cases h
  | typedAccessors => exact hsingle.elim
  | call => exact hsingle.elim
  | send => exact hsingle.elim
  | clearTrace => exact (List.append_nil _).symm

end ObjectSpace

/-! ### Typed accessors -/

/-- The scope that carries accessors which are declared for a scope. -/
def ObjectSpace.CarriesAccessors
    (space : ObjectSpace)
    (onSelf : Bool)
    (scope owner : ScopeId) : Prop :=
  if onSelf then ∃ made, space.singletonScope (.scope scope) = .ok (owner, made)
  else owner = scope

theorem ScopeTable.existingSingleton?_singletonOf
    {table after : ScopeTable} {attached : Attachment} {singleton : ScopeId}
    (h : table.singletonOf attached = .ok (singleton, after)) :
    after.existingSingleton? attached = some singleton := by
  rw [singletonOf_eq] at h
  split at h
  next hexisting =>
    cases h
    exact hexisting
  next =>
    obtain ⟨name, -, hpair⟩ := bind_eq_ok_iff.mp h
    cases hpair
    exact (table.singletons.get?_put attached attached _).trans (if_pos rfl)

namespace ObjectSpace

variable {space after : ObjectSpace} {owner scope : ScopeId} {names : List String}

theorem singletonScope_again
    {receiver : Value} {singleton : ScopeId} {later : ObjectSpace}
    (h : space.singletonScope receiver = .ok (singleton, after))
    (hscopes : later.scopes = after.scopes) :
    later.singletonScope receiver = .ok (singleton, later) := by
  unfold singletonScope at h ⊢
  cases hattached : receiver.attachment? with
  | none => simp [hattached] at h
  | some attached =>
      rw [hattached] at h
      obtain ⟨⟨made, table⟩, htable, hpair⟩ := bind_eq_ok_iff.mp h
      cases hpair
      have hexisting : later.scopes.existingSingleton? attached = some singleton := by
        rw [hscopes]
        exact ScopeTable.existingSingleton?_singletonOf htable
      have hagain : later.scopes.singletonOf attached = .ok (singleton, later.scopes) := by
        rw [ScopeTable.singletonOf_eq, hexisting]
      change (later.scopes.singletonOf attached >>= _) = _
      rw [hagain]
      rfl

theorem consumePending_scopes (scope : ScopeId) (member : Symbol) :
    (space.consumePending scope member).scopes = space.scopes := by
  unfold consumePending
  split <;> rfl

theorem accessor_gains
    {member : Symbol} {parameters : Parameters} {body : Body} {signature : Signature}
    {result : Unit}
    (h : accessor owner member parameters body signature space = .ok (result, after)) :
    after.scopes = space.scopes ∧ space.Gains after ⟨owner, member, signature⟩ := by
  obtain ⟨middle, hmiddle, hpair⟩ := bind_eq_ok_iff.mp h
  have hreaches := reaches_of_provideMember hmiddle
  cases hpair
  refine ⟨?_, (gains_registerSignature signature).of_reaches hreaches⟩
  change middle.scopes = space.scopes
  unfold provideMember at hmiddle
  split at hmiddle
  next =>
    cases hmiddle
    rfl
  next =>
    obtain ⟨⟨definition, defined⟩, hdefined, rfl⟩ := map_eq_ok_iff.mp hmiddle
    obtain ⟨⟨⟩, -, hmade⟩ := bind_eq_ok_iff.mp hdefined
    cases hmade
    exact consumePending_scopes owner member

theorem accessors_gain
    {term : Term} {signature : Signature} (hsignature : term.signature = .ok signature)
    {member : String → Symbol} {parameters : Parameters} {body : String → Body}
    (h : (names.forM fun name =>
      Action.step ContractError.scope
        (accessor owner (member name) parameters (body name) signature)).run space =
          (.ok (), after)) :
    after.scopes = space.scopes ∧
      ∀ name ∈ names, space.Gains after ⟨owner, member name, signature⟩ := by
  induction names generalizing space with
  | nil =>
      cases h
      exact ⟨rfl, by simp⟩
  | cons name rest ih =>
      obtain ⟨⟨⟩, middle, hfirst, hrest⟩ := Action.run_bind_eq_ok_iff.mp h
      have haccessor := Action.run_step_eq_ok_iff.mp hfirst
      obtain ⟨hscopes, hgains⟩ := accessor_gains haccessor
      obtain ⟨hrestScopes, hrestGain⟩ := ih hrest
      have hmiddle : space.Reaches middle := reaches_of_accessor hsignature haccessor
      have hafter : middle.Reaches after := by
        have hreaches := Action.accessors_reach hsignature rest owner member parameters body middle
        rw [hrest] at hreaches
        exact hreaches
      refine ⟨hrestScopes.trans hscopes, ?_⟩
      intro listed hlisted
      rcases List.mem_cons.mp hlisted with rfl | hlater
      · exact hgains.reaches hafter
      · exact (hrestGain listed hlater).of_reaches hmiddle

theorem defineAccessors_granted
    {signature : Except ContractError Signature} {member : String → Symbol}
    {parameters : Parameters} {body : String → Body}
    (hrun : (defineAccessors owner names signature member parameters body).run space =
      (.ok (), after)) :
    checkNames names = .ok () ∧ ∃ compiled, signature = .ok compiled ∧
      (names.forM fun name =>
        Action.step ContractError.scope
          (accessor owner (member name) parameters (body name) compiled)).run space =
            (.ok (), after) := by
  rw [defineAccessors_eq] at hrun
  obtain ⟨⟨⟩, checked, hnames, hrest⟩ := Action.run_bind_eq_ok_iff.mp hrun
  obtain ⟨compiled, granted, hcompiled, hall⟩ := Action.run_bind_eq_ok_iff.mp hrest
  rw [Action.run_liftM] at hnames hcompiled
  obtain ⟨hchecked, rfl⟩ := Prod.mk.inj hnames
  obtain ⟨hsignature, rfl⟩ := Prod.mk.inj hcompiled
  exact ⟨hchecked, compiled, hsignature, hall⟩

theorem defineAccessors_gains
    {term : Term} {member : String → Symbol} {parameters : Parameters} {body : String → Body}
    (h : (defineAccessors owner names (compile term) member parameters body).run space =
      (.ok (), after)) :
    after.scopes = space.scopes ∧
      ∃ signature, compile term = .ok signature ∧
        ∀ name ∈ names, space.Gains after ⟨owner, member name, signature⟩ := by
  obtain ⟨-, signature, hsignature, hall⟩ := defineAccessors_granted h
  obtain ⟨hscopes, hgain⟩ := accessors_gain (mapError_eq_ok_iff.mp hsignature) hall
  exact ⟨hscopes, signature, hsignature, hgain⟩

theorem carriesAccessors_of_accessorOwner
    {onSelf : Bool}
    (h : (accessorOwner onSelf scope).run space = (.ok owner, after)) :
    space.CarriesAccessors onSelf scope owner ∧
      ∀ later : ObjectSpace, later.scopes = after.scopes → ∀ other,
        later.CarriesAccessors onSelf scope other → other = owner := by
  rw [accessorOwner_eq] at h
  obtain ⟨_, _, hget, hrest⟩ := Action.run_bind_eq_ok_iff.mp h
  rw [Action.run_get] at hget
  cases hget
  obtain ⟨⟨⟩, _, hscope, howner⟩ := Action.run_bind_eq_ok_iff.mp hrest
  rw [Action.run_liftM] at hscope
  obtain ⟨-, rfl⟩ := Prod.mk.inj hscope
  unfold CarriesAccessors
  cases onSelf with
  | false =>
      cases howner
      exact ⟨rfl, fun later _ other hother => hother⟩
  | true =>
      have hsingleton := Action.run_step_eq_ok_iff.mp howner
      refine ⟨⟨after, hsingleton⟩, ?_⟩
      intro later hscopes other hother
      obtain ⟨made, hmade⟩ := hother
      rw [singletonScope_again hsingleton hscopes] at hmade
      cases hmade
      rfl

theorem typedReader_gains
    {onSelf : Bool} {behavior : Term}
    (h : (typedReader onSelf scope names behavior).run space = (.ok (), after)) :
    ∃ owner signature, space.CarriesAccessors onSelf scope owner ∧
      readerSignature behavior = .ok signature ∧
        (∀ name ∈ names, space.Gains after ⟨owner, ⟨name⟩, signature⟩) ∧
          ∀ other, after.CarriesAccessors onSelf scope other → other = owner := by
  obtain ⟨owner, middle, howner, hrest⟩ := Action.run_bind_eq_ok_iff.mp h
  obtain ⟨hcarries, hsame⟩ := carriesAccessors_of_accessorOwner howner
  obtain ⟨hscopes, signature, hsignature, hgains⟩ := defineAccessors_gains hrest
  have hmiddle := Action.accessorOwner_reaches onSelf scope space
  rw [howner] at hmiddle
  exact ⟨owner, signature, hcarries, hsignature,
    fun name hname => (hgains name hname).of_reaches hmiddle, hsame after hscopes⟩

theorem typedWriter_gains
    {onSelf : Bool} {behavior : Term}
    (h : (typedWriter onSelf scope names behavior).run space = (.ok (), after)) :
    ∃ owner signature, space.CarriesAccessors onSelf scope owner ∧
      writerSignature behavior = .ok signature ∧
        ∀ name ∈ names, space.Gains after ⟨owner, Symbol.setter ⟨name⟩, signature⟩ := by
  obtain ⟨owner, middle, howner, hrest⟩ := Action.run_bind_eq_ok_iff.mp h
  obtain ⟨hcarries, -⟩ := carriesAccessors_of_accessorOwner howner
  obtain ⟨-, signature, hsignature, hgains⟩ := defineAccessors_gains hrest
  have hmiddle := Action.accessorOwner_reaches onSelf scope space
  rw [howner] at hmiddle
  exact ⟨owner, signature, hcarries, hsignature,
    fun name hname => (hgains name hname).of_reaches hmiddle⟩

/-- Typed accessors that are declared put every reader and every writer that
they stand for under contract, on the same scope. -/
theorem typedAccessors_gains
    {kind : AccessorKind} {onSelf : Bool} {behavior : Term} {response : Response}
    (h : space.perform (.typedAccessors kind onSelf scope names behavior) =
      (.ok response, after)) :
    ∃ owner, space.CarriesAccessors onSelf scope owner ∧
      (kind ≠ .writer → ∃ signature, readerSignature behavior = .ok signature ∧
        ∀ name ∈ names, space.Gains after ⟨owner, ⟨name⟩, signature⟩) ∧
      (kind ≠ .reader → ∃ signature, writerSignature behavior = .ok signature ∧
        ∀ name ∈ names, space.Gains after ⟨owner, Symbol.setter ⟨name⟩, signature⟩) := by
  obtain ⟨⟨⟩, hrun, -⟩ := Action.run_respond_eq_ok_iff.mp h
  cases kind with
  | reader =>
      obtain ⟨owner, signature, hcarries, hsignature, hgains, -⟩ := typedReader_gains hrun
      exact ⟨owner, hcarries, fun _ => ⟨signature, hsignature, hgains⟩,
        fun hreader => (hreader rfl).elim⟩
  | writer =>
      obtain ⟨owner, signature, hcarries, hsignature, hgains⟩ := typedWriter_gains hrun
      exact ⟨owner, hcarries, fun hwriter => (hwriter rfl).elim,
        fun _ => ⟨signature, hsignature, hgains⟩⟩
  | both =>
      obtain ⟨⟨⟩, middle, hread, hwrite⟩ := Action.run_bind_eq_ok_iff.mp hrun
      obtain ⟨owner, reading, hcarries, hreading, hreaders, hsame⟩ := typedReader_gains hread
      obtain ⟨other, writing, hother, hwriting, hwriters⟩ := typedWriter_gains hwrite
      obtain rfl := hsame other hother
      have hmiddle := Action.typedAccessors_reaches .reader onSelf scope names behavior space
      have hafter := Action.typedAccessors_reaches .writer onSelf scope names behavior middle
      simp only [typedAccessors] at hmiddle hafter
      rw [hread] at hmiddle
      rw [hwrite] at hafter
      exact ⟨other, hcarries,
        fun _ => ⟨reading, hreading, fun name hname => (hreaders name hname).reaches hafter⟩,
        fun _ => ⟨writing, hwriting, fun name hname => (hwriters name hname).of_reaches hmiddle⟩⟩

end ObjectSpace

end CallContract
