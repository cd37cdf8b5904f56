import CallContract.ObjectSpace.Dispatch

/-!
# Operations on related object spaces

A simulation relates object spaces that are the same up to contracts, traces and
settings, and single writes keep it.  The operations ask for nothing else and, but
for what they do about contracts and the trace that one of them clears, write in no
other way.  So on related spaces they have the same outcome and leave related spaces,
whichever relation it is.
-/

namespace CallContract

/-! ### What calls ask for -/

namespace ObjectSpace

/-- Object spaces in which calls find the same and check it in the same way. -/
structure CallsAlike (first second : ObjectSpace) : Prop where
  scopes : second.scopes = first.scopes
  members : second.members = first.members
  layers : second.layers = first.layers
  signatures : second.signature? = first.signature?
  matchDepth : second.settings.maxMatchDepth = first.settings.maxMatchDepth

namespace CallsAlike

variable {first second : ObjectSpace}

theorem scopeName (h : first.CallsAlike second) : second.scopeName = first.scopeName := by
  unfold ObjectSpace.scopeName
  rw [h.scopes]

theorem describe (h : first.CallsAlike second) : second.describe = first.describe := by
  unfold ObjectSpace.describe
  rw [h.scopeName]

theorem resolve? (h : first.CallsAlike second) : second.resolve? = first.resolve? := by
  have halong : ∀ name chain,
      second.resolveAlong name chain = first.resolveAlong name chain := by
    intro name chain
    induction chain with
    | nil => rfl
    | cons scope rest ih =>
        unfold resolveAlong ObjectSpace.ownMember? ObjectSpace.intercepts ObjectSpace.layerOf
        rw [ih, h.members, h.layers]
  funext receiver name
  unfold ObjectSpace.resolve?
  rw [h.scopes, halong]

theorem respondsTo (h : first.CallsAlike second) : second.respondsTo = first.respondsTo := by
  unfold ObjectSpace.respondsTo
  rw [h.resolve?]

theorem searchText? (h : first.CallsAlike second) : second.searchText? = first.searchText? := by
  unfold ObjectSpace.searchText?
  rw [h.scopeName]

theorem environment (h : first.CallsAlike second) : second.environment = first.environment := by
  unfold ObjectSpace.environment
  rw [h.scopes, h.respondsTo, h.searchText?]

theorem accepts (h : first.CallsAlike second) : second.accepts = first.accepts := by
  unfold ObjectSpace.accepts
  rw [h.environment, h.matchDepth]

theorem checkArguments (h : first.CallsAlike second) :
    second.checkArguments = first.checkArguments := by
  have hfirst : ∀ index descriptors values, second.firstMismatch? index descriptors values =
      first.firstMismatch? index descriptors values := by
    intro index descriptors values
    induction descriptors generalizing index values with
    | nil => simp [firstMismatch?]
    | cons descriptor rest ih =>
        cases values with
        | nil => rfl
        | cons value values => simp only [firstMismatch?, h.accepts, ih]
  have hkeyword : second.keywordMismatch? = first.keywordMismatch? := by
    unfold keywordMismatch?
    rw [h.accepts]
  funext scope member signature arguments
  simp only [ObjectSpace.checkArguments, argumentMismatch?, hfirst, hkeyword, h.scopeName,
    h.describe]

theorem checkAllArguments (h : first.CallsAlike second) :
    second.checkAllArguments = first.checkAllArguments := by
  unfold ObjectSpace.checkAllArguments
  rw [h.checkArguments]

theorem checkAllResults (h : first.CallsAlike second) :
    second.checkAllResults = first.checkAllResults := by
  unfold ObjectSpace.checkAllResults ObjectSpace.checkResult
  rw [h.accepts, h.scopeName, h.describe]

theorem signaturesFor (h : first.CallsAlike second) :
    second.signaturesFor = first.signaturesFor := by
  unfold ObjectSpace.signaturesFor
  rw [h.signatures]

theorem mayReach (h : first.CallsAlike second) : second.mayReach = first.mayReach := by
  unfold ObjectSpace.mayReach
  rw [h.scopes]

theorem resolveCall (h : first.CallsAlike second) : second.resolveCall = first.resolveCall := by
  unfold ObjectSpace.resolveCall
  rw [h.resolve?, h.describe, h.mayReach]

theorem builtin (h : first.CallsAlike second) (operation : Builtin) (frame : Frame) :
    operation.run second frame = operation.run first frame := by
  have hanswer : second.answerRespondsTo = first.answerRespondsTo := by
    unfold answerRespondsTo
    rw [h.respondsTo, h.describe]
  have hconcatenate : second.concatenate = first.concatenate := by
    unfold concatenate
    rw [h.scopes, h.scopeName]
  cases operation with
  | textOf => simp only [Builtin.run, h.searchText?]
  | describe => simp only [Builtin.run, h.describe]
  | classOf => simp only [Builtin.run, h.scopes]
  | respondsTo => simp only [Builtin.run, hanswer]
  | concatenate => simp only [Builtin.run, hconcatenate]
  | _ => rfl

end CallsAlike

end ObjectSpace

/-! ### What operations write -/

/-- A relation that the writes of operations keep, where the members that they
insert have bodies of a kind. -/
structure ObjectSpace.Simulation
    (related : ObjectSpace → ObjectSpace → Prop)
    (allowed : Body → Prop) : Prop where
  scopes : ∀ {first second}, related first second → second.scopes = first.scopes
  members : ∀ {first second}, related first second → second.members = first.members
  nextObject : ∀ {first second}, related first second → second.nextObject = first.nextObject
  bodies : ∀ {first second}, related first second → ∀ key member,
    first.members.get? key = some member → allowed member.body
  reader : ∀ name, allowed (.reader name)
  writer : ∀ name, allowed (.writer name)
  putScopes : ∀ {first second}, related first second → ∀ table,
    related { first with scopes := table } { second with scopes := table }
  putMember : ∀ {first second}, related first second → ∀ key member, allowed member.body →
    related { first with members := first.members.put key member }
      { second with members := second.members.put key member }
  putNextObject : ∀ {first second}, related first second → ∀ next,
    related { first with nextObject := next } { second with nextObject := next }
  putVariable : ∀ {first second}, related first second → ∀ key value,
    related { first with variableValues := first.variableValues.put key value }
      { second with variableValues := second.variableValues.put key value }
  consumePending : ∀ {first second}, related first second → ∀ scope member,
    related (first.consumePending scope member) (second.consumePending scope member)

/-- A relation that annotations and contracts keep. -/
structure ObjectSpace.KeptByContracts
    (related : ObjectSpace → ObjectSpace → Prop) : Prop where
  pending : ∀ {first second}, related first second → second.pending = first.pending
  putPending : ∀ {first second}, related first second → ∀ table,
    related { first with pending := table } { second with pending := table }
  register : ∀ {first second}, related first second → ∀ scope member signature,
    related (first.registerSignature scope member signature)
      (second.registerSignature scope member signature)

theorem ObjectSpace.KeptByContracts.consumePending
    {related : ObjectSpace → ObjectSpace → Prop} {first second : ObjectSpace}
    (hkept : KeptByContracts related) (h : related first second)
    (hscopes : second.scopes = first.scopes) (scope : ScopeId) (member : Symbol) :
    related (first.consumePending scope member) (second.consumePending scope member) := by
  have hwaiting : second.waiting? scope = first.waiting? scope := by
    unfold waiting?
    rw [hscopes, hkept.pending h]
  unfold ObjectSpace.consumePending
  rw [hwaiting, hkept.pending h]
  cases first.waiting? scope with
  | none => exact h
  | some waiting => exact hkept.register (hkept.putPending h _) scope member waiting.2

/-- An action with the same outcome on related spaces, which it leaves related. -/
def Action.Respects
    (related : ObjectSpace → ObjectSpace → Prop)
    (action : Action ε α) : Prop :=
  ∀ first second : ObjectSpace, related first second →
    (action.run second).1 = (action.run first).1 ∧
      related (action.run first).2 (action.run second).2

/-- The bodies of the members that an operation defines by itself are of a kind. -/
def Operation.Defines (allowed : Body → Prop) : Operation → Prop
  | .defineMember _ _ _ _ body => allowed body
  | _ => True

def Operation.IsCall : Operation → Prop
  | .call .. | .send .. => True
  | _ => False

def Operation.ConcernsContracts : Operation → Prop
  | .register .. | .contract .. | .contractSelf .. | .contractOn .. => True
  | .annotate .. | .typedAccessors .. => True
  | _ => False

namespace Action

variable {related : ObjectSpace → ObjectSpace → Prop} {allowed : Body → Prop}

/-! ### Actions made of actions -/

theorem respects_pure (result : α) : (pure result : Action ε α).Respects related :=
  fun _ _ h => ⟨rfl, h⟩

theorem respects_throw (error : ε) : (throw error : Action ε α).Respects related :=
  fun _ _ h => ⟨rfl, h⟩

theorem respects_liftM (outcome : Except ε α) :
    (liftM outcome : Action ε α).Respects related :=
  fun _ _ h => ⟨rfl, h⟩

theorem respects_consult
    {question : ObjectSpace → Except ε α}
    (hquestion : ∀ first second, related first second → question second = question first) :
    (consult question).Respects related :=
  fun first second h => ⟨hquestion first second h, h⟩

theorem respects_modify
    {change : ObjectSpace → ObjectSpace}
    (hchange : ∀ first second, related first second → related (change first) (change second)) :
    (modify change : Action ε Unit).Respects related :=
  fun first second h => ⟨rfl, hchange first second h⟩

theorem Respects.bind
    {action : Action ε α} {next : α → Action ε β}
    (haction : action.Respects related) (hnext : ∀ result, (next result).Respects related) :
    (action >>= next).Respects related := by
  intro first second h
  obtain ⟨houtcome, hafter⟩ := haction first second h
  rw [run_bind, run_bind]
  rcases hfirst : action.run first with ⟨outcome, after⟩
  rcases hsecond : action.run second with ⟨otherOutcome, other⟩
  rw [hfirst, hsecond] at houtcome hafter
  change otherOutcome = outcome at houtcome
  subst houtcome
  cases otherOutcome with
  | ok result => exact hnext result after other hafter
  | error error => exact ⟨rfl, hafter⟩

theorem Respects.handle
    {action : Action ε α} {next : Except ε α → Action ε' β}
    (haction : action.Respects related) (hnext : ∀ outcome, (next outcome).Respects related) :
    (action.handle next).Respects related := by
  intro first second h
  obtain ⟨houtcome, hafter⟩ := haction first second h
  rw [run_handle, run_handle, houtcome]
  exact hnext _ _ _ hafter

theorem Respects.respond
    {action : Action ε α} (haction : action.Respects related)
    (wrap : ε → ε') (respond : α → β) : (action.respond wrap respond).Respects related := by
  apply haction.handle
  intro outcome
  cases outcome with
  | ok result => exact respects_pure _
  | error error => exact respects_throw _

theorem respects_forM
    {names : List String} {body : String → Action ε Unit}
    (hbody : ∀ name, (body name).Respects related) : (names.forM body).Respects related := by
  induction names with
  | nil => exact respects_pure ()
  | cons name rest ih => exact (hbody name).bind fun _ => ih

end Action

namespace ObjectSpace.Simulation

variable {related : ObjectSpace → ObjectSpace → Prop} {allowed : Body → Prop}
  {first second : ObjectSpace}

open CallContract.Action

/-! ### Questions -/

theorem describe
    (hsim : Simulation related allowed) (h : related first second) (value : Value) :
    second.describe value = first.describe value := by
  unfold ObjectSpace.describe ObjectSpace.scopeName
  rw [hsim.scopes h]

theorem ownMember?
    (hsim : Simulation related allowed) (h : related first second) (scope : ScopeId)
    (name : Symbol) : second.ownMember? scope name = first.ownMember? scope name := by
  unfold ObjectSpace.ownMember?
  rw [hsim.members h]

theorem definesMember
    (hsim : Simulation related allowed) (h : related first second) (scope : ScopeId)
    (name : Symbol) : second.definesMember scope name = first.definesMember scope name := by
  unfold ObjectSpace.definesMember
  rw [hsim.scopes h]
  simp only [hsim.ownMember? h]

theorem ensureScope
    (hsim : Simulation related allowed) (h : related first second) (scope : ScopeId) :
    second.ensureScope scope = first.ensureScope scope := by
  unfold ObjectSpace.ensureScope
  rw [hsim.scopes h]

theorem requireScope
    (hsim : Simulation related allowed) (h : related first second) (scope : ScopeId) :
    second.requireScope scope = first.requireScope scope := by
  unfold ObjectSpace.requireScope
  rw [hsim.scopes h]

/-! ### Edits -/

theorem respects_onScopes (hsim : Simulation related allowed) (edit : ScopeTable.Edit α) :
    (onScopes edit).Respects related := by
  intro first second h
  simp only [onScopes, ExceptT.run_mk]
  rw [hsim.scopes h]
  exact ⟨rfl, hsim.putScopes h _⟩

theorem respects_newObject (hsim : Simulation related allowed) (ofClass : ScopeId) :
    (Action.newObject ofClass).Respects related := by
  have hfind : (consult (·.scopes.find ofClass)).Respects related := by
    apply respects_consult
    intro first second h
    rw [hsim.scopes h]
  apply hfind.bind
  intro definition
  split
  next =>
    intro first second h
    have hnext := hsim.nextObject h
    have hafter : related { first with nextObject := ⟨first.nextObject.number + 1⟩ }
        { second with nextObject := ⟨second.nextObject.number + 1⟩ } := by
      rw [hnext]
      exact hsim.putNextObject h _
    exact ⟨congrArg (fun next => Except.ok (Value.object ⟨next, ofClass⟩)) hnext, hafter⟩
  next => exact respects_throw _

theorem respects_singletonScope (hsim : Simulation related allowed) (receiver : Value) :
    (Action.singletonScope receiver).Respects related := by
  unfold Action.singletonScope
  cases receiver.attachment? with
  | none => exact respects_throw _
  | some attached => exact hsim.respects_onScopes _

theorem respects_writeVariable
    (hsim : Simulation related allowed) (receiver : Value) (name : String) (value : Value) :
    (Action.writeVariable receiver name value).Respects related := by
  unfold Action.writeVariable
  cases receiver.attachment? with
  | none => exact respects_throw _
  | some holder => exact respects_modify fun _ _ h => hsim.putVariable h _ _

theorem respects_defineMember
    (hsim : Simulation related allowed) (scope : ScopeId) (name : Symbol)
    (visibility : Visibility) (parameters : Parameters) {body : Body} (hbody : allowed body) :
    (Action.defineMember scope name visibility parameters body).Respects related := by
  have hensure : (consult (·.ensureScope scope)).Respects related :=
    respects_consult fun _ _ h => hsim.ensureScope h scope
  apply hensure.bind
  intro _
  have hinsert : (modify (·.insertMember ⟨⟨name, scope, visibility, parameters⟩, body⟩) :
      Action ScopeError Unit).Respects related :=
    respects_modify fun _ _ h => hsim.putMember h _ _ hbody
  have hconsume : (modify (·.consumePending scope name) : Action ScopeError Unit).Respects
      related :=
    respects_modify fun _ _ h => hsim.consumePending h scope name
  exact hinsert.bind fun _ => hconsume.bind fun _ => respects_pure _

/-- The member whose visibility changes keeps its body. -/
theorem respects_setVisibility
    (hsim : Simulation related allowed) (scope : ScopeId) (name : Symbol)
    (visibility : Visibility) :
    (Action.setVisibility scope name visibility).Respects related := by
  intro first second h
  unfold Action.setVisibility
  rw [run_consult_bind, run_consult_bind, hsim.ownMember? h]
  cases hown : first.ownMember? scope name with
  | none =>
      have hname : second.scopeName scope = first.scopeName scope := by
        unfold scopeName
        rw [hsim.scopes h]
      exact ⟨congrArg (fun text => Except.error (CallError.noMethod name text)) hname, h⟩
  | some member => exact ⟨rfl, hsim.putMember h _ _ (hsim.bodies h _ member hown)⟩

theorem respects_requireScope (hsim : Simulation related allowed) (scope : ScopeId) :
    (consult (·.requireScope scope)).Respects related :=
  respects_consult fun _ _ h => hsim.requireScope h scope

theorem respects_accessorOwner
    (hsim : Simulation related allowed) (onSelf : Bool) (scope : ScopeId) :
    (accessorOwner onSelf scope).Respects related := by
  change (consult (·.requireScope scope) >>= fun _ => _).Respects related
  apply (hsim.respects_requireScope scope).bind
  intro _
  split
  next => exact (hsim.respects_singletonScope _).respond _ _
  next => exact respects_pure scope

/-! ### Contracts -/

section Contracts

variable (hsim : Simulation related allowed) (hkept : KeptByContracts related)

include hkept

theorem respects_registering (scope : ScopeId) (member : Symbol) (signature : Signature) :
    (modify (·.registerSignature scope member signature) : Action ε Unit).Respects related :=
  respects_modify fun _ _ h => hkept.register h scope member signature

theorem respects_register (scope : ScopeId) (member : Symbol) (term : Term) :
    (Action.register scope member term).Respects related := by
  apply (respects_liftM _).bind
  intro signature
  exact (respects_registering hkept scope member signature).bind fun _ => respects_pure _

include hsim

theorem respects_contract (scope : ScopeId) (member : Symbol) (term : Term) :
    (Action.contract scope member term).Respects related := by
  apply (hsim.respects_requireScope scope).bind
  intro _
  apply (respects_liftM _).bind
  intro signature
  exact (respects_registering hkept scope member signature).bind fun _ => respects_pure _

theorem respects_contractSingleton (receiver : Value) (member : Symbol) (term : Term) :
    (Action.contractSingleton receiver member term).Respects related := by
  apply (respects_liftM _).bind
  intro signature
  apply ((hsim.respects_singletonScope receiver).respond _ _).bind
  intro singleton
  exact (respects_registering hkept singleton member signature).bind fun _ => respects_pure _

theorem respects_contractOn (receiver : Value) (member : Symbol) (term : Term) :
    (Action.contractOn receiver member term).Respects related := by
  cases receiver with
  | scope scope => exact hsim.respects_contract hkept scope member term
  | _ => exact hsim.respects_contractSingleton hkept _ member term

theorem respects_annotate (receiver : Value) (term : Term) :
    (Action.annotate receiver term).Respects related := by
  have hrefused : ∀ value : Value, (consult fun space : ObjectSpace =>
      (.error (.notAScope (space.describe value)) : Except ContractError Unit)).Respects
        related := by
    intro value
    apply respects_consult
    intro first second h
    rw [hsim.describe h]
  cases receiver with
  | scope scope =>
      apply (hsim.respects_requireScope scope).bind
      intro _
      apply (respects_liftM _).bind
      intro signature
      apply respects_modify
      intro first second h
      rw [hkept.pending h]
      exact hkept.putPending h _
  | _ => exact hrefused _

/-! ### Typed accessors -/

theorem respects_accessor
    (owner : ScopeId) (member : Symbol) (parameters : Parameters) {body : Body}
    (hbody : allowed body) (signature : Signature) :
    (Action.accessor owner member parameters body signature).Respects related := by
  have hprovide : (Action.provideMember owner member parameters body).Respects related := by
    have hasked : (consult fun space => (.ok (space.definesMember owner member) :
        Except ScopeError Bool)).Respects related :=
      respects_consult fun _ _ h => congrArg Except.ok (hsim.definesMember h owner member)
    have hdefine := hsim.respects_defineMember owner member .publicAccess parameters hbody
    change (consult (fun space => .ok (space.definesMember owner member)) >>= fun defines : Bool =>
      if defines then pure ()
      else (Action.defineMember owner member .publicAccess parameters body >>= fun _ =>
        pure ())).Respects related
    apply hasked.bind
    intro defines
    split
    next => exact respects_pure ()
    next => exact hdefine.bind fun _ => respects_pure ()
  exact hprovide.bind fun _ => respects_registering hkept owner member signature

theorem respects_defineAccessors
    (owner : ScopeId) (names : List String) (signature : Except ContractError Signature)
    (member : String → Symbol) (parameters : Parameters) {body : String → Body}
    (hbody : ∀ name, allowed (body name)) :
    (defineAccessors owner names signature member parameters body).Respects related := by
  apply (respects_liftM _).bind
  intro _
  apply (respects_liftM _).bind
  intro signature
  apply respects_forM
  intro name
  have haccessor := hsim.respects_accessor hkept owner (member name) parameters (hbody name)
    signature
  exact haccessor.respond _ _

theorem respects_typedAccessors
    (kind : AccessorKind) (onSelf : Bool) (scope : ScopeId) (names : List String)
    (behavior : Term) : (typedAccessors kind onSelf scope names behavior).Respects related := by
  have hreader : (typedReader onSelf scope names behavior).Respects related :=
    (hsim.respects_accessorOwner onSelf scope).bind fun _ =>
      hsim.respects_defineAccessors hkept _ _ _ _ _ hsim.reader
  have hwriter : (typedWriter onSelf scope names behavior).Respects related :=
    (hsim.respects_accessorOwner onSelf scope).bind fun _ =>
      hsim.respects_defineAccessors hkept _ _ _ _ _ hsim.writer
  cases kind with
  | reader => exact hreader
  | writer => exact hwriter
  | both => exact hreader.bind fun _ => hwriter

end Contracts

end ObjectSpace.Simulation

/-- Operations have the same outcome on related spaces, if calls from outside do. -/
theorem Operation.perform_respects
    {related : ObjectSpace → ObjectSpace → Prop} {allowed : Body → Prop}
    (hsim : ObjectSpace.Simulation related allowed)
    {fromOutside : OutsideCalls} {operation : Operation}
    (houtside : operation.IsCall → ∀ mode receiver member arguments,
      (fromOutside mode receiver member arguments).Respects related)
    (hdefines : operation.Defines allowed)
    (hkept : operation.ConcernsContracts → ObjectSpace.KeptByContracts related)
    (hclear : operation = .clearTrace → ∀ first second : ObjectSpace, related first second →
      related first.clearTrace second.clearTrace) :
    (operation.perform fromOutside).Respects related := by
  cases operation with
  | defineClass | defineModule | includeModule => exact (hsim.respects_onScopes _).respond _ _
  | newObject ofClass => exact (hsim.respects_newObject ofClass).respond _ _
  | singleton receiver => exact (hsim.respects_singletonScope receiver).respond _ _
  | defineMember scope name visibility parameters body =>
      exact (hsim.respects_defineMember scope name visibility parameters hdefines).respond _ _
  | setVisibility scope name visibility =>
      exact (hsim.respects_setVisibility scope name visibility).respond _ _
  | writeVariable receiver name value =>
      exact (hsim.respects_writeVariable receiver name value).respond _ _
  | register scope member term =>
      exact (ObjectSpace.Simulation.respects_register (hkept trivial) scope member term).respond _ _
  | contract scope member term =>
      exact (hsim.respects_contract (hkept trivial) scope member term).respond _ _
  | contractSelf scope member term =>
      have hsingleton := hsim.respects_contractSingleton (hkept trivial) (.scope scope) member term
      exact ((hsim.respects_requireScope scope).bind fun _ => hsingleton).respond _ _
  | contractOn receiver member term =>
      exact (hsim.respects_contractOn (hkept trivial) receiver member term).respond _ _
  | annotate receiver term =>
      exact (hsim.respects_annotate (hkept trivial) receiver term).respond _ _
  | typedAccessors kind onSelf scope names behavior =>
      have haccessors := hsim.respects_typedAccessors (hkept trivial) kind onSelf scope names
        behavior
      exact haccessors.respond _ _
  | call | send => exact (houtside trivial _ _ _ _).respond _ _
  | clearTrace => exact fun first second h => ⟨rfl, hclear rfl first second h⟩

end CallContract
