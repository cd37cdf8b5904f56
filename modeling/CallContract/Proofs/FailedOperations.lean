import CallContract.Proofs.ContractLanguage
import CallContract.Proofs.ScopeHierarchy

/-!
# Operations that fail

Single operations ask whatever they have to ask before they write anything, so
they leave an object space as it was when they fail.  A reader or a writer for a
scope itself is one more of these, although it defines many members: once its
scope is found, its names are checked and its contract is compiled, no name can
fail any more.

The accessors of a scope that go on its singleton, and readers and writers that
are declared together, are sequences of two such halves.  Where the second half
is refused, what the first half wrote stays: a new singleton, or the readers.
-/

namespace CallContract

namespace Action

/-- Wherever the action fails, it leaves the object space as it was. -/
def IsAtomic (action : Action ε α) : Prop :=
  ∀ space error after, action.run space = (.error error, after) → after = space

theorem isAtomic_pure (result : α) : (pure result : Action ε α).IsAtomic :=
  nofun

theorem isAtomic_step
    (wrap : ε → ε') (change : ObjectSpace → Except ε (α × ObjectSpace)) :
    (step wrap change).IsAtomic := by
  intro space error after hrun
  rw [step, ExceptT.run_mk] at hrun
  split at hrun
  next => cases hrun
  next =>
    cases hrun
    rfl

/-- An outcome that does not depend on the object space can come before an action. -/
theorem IsAtomic.afterOutcome
    (outcome : Except ε α) {next : α → Action ε β} (hnext : ∀ result, (next result).IsAtomic) :
    ((liftM outcome : Action ε α) >>= next).IsAtomic := by
  intro space error after hrun
  rw [run_bind, run_liftM] at hrun
  cases outcome with
  | ok result => exact hnext result space error after hrun
  | error refusal =>
      cases hrun
      rfl

theorem IsAtomic.respond
    {action : Action ε α} (haction : action.IsAtomic) (wrap : ε → ε') (respond : α → β) :
    (action.respond wrap respond).IsAtomic := by
  intro space error after hrun
  obtain ⟨cause, hcause, -⟩ := run_respond_eq_error_iff.mp hrun
  exact haction space cause after hcause

end Action

namespace ObjectSpace

variable {space after carrier : ObjectSpace} {scope owner : ScopeId} {names : List String}
  {onSelf : Bool} {behavior : Term} {error : ContractError}

/-! ### Accessors on a scope that is there -/

theorem ensureScope_of_has (hscope : space.scopes.Has scope) :
    space.ensureScope scope = .ok () := by
  obtain ⟨definition, hget⟩ := ScopeTable.get?_of_has hscope
  rw [ensureScope, ScopeTable.find, hget]
  rfl

theorem accessor_of_has
    (hscope : space.scopes.Has owner) (member : Symbol) (parameters : Parameters) (body : Body)
    (signature : Signature) :
    ∃ after, accessor owner member parameters body signature space = .ok ((), after) := by
  unfold accessor provideMember defineMember
  rw [ensureScope_of_has hscope]
  split <;> exact ⟨_, rfl⟩

theorem accessors_of_has
    (hscope : space.scopes.Has owner) (names : List String) (member : String → Symbol)
    (parameters : Parameters) (body : String → Body) (signature : Signature) :
    ∃ after, (names.forM fun name =>
      Action.step ContractError.scope
        (accessor owner (member name) parameters (body name) signature)).run space =
          (.ok (), after) := by
  induction names generalizing space with
  | nil => exact ⟨space, rfl⟩
  | cons name rest ih =>
      obtain ⟨middle, hfirst⟩ :=
        accessor_of_has hscope (member name) parameters (body name) signature
      have hmiddle : middle.scopes.Has owner := by
        rw [(accessor_gains hfirst).1]
        exact hscope
      obtain ⟨after, hrest⟩ := ih hmiddle
      exact ⟨after, Action.run_bind_eq_ok_iff.mpr
        ⟨(), middle, Action.run_step_eq_ok_iff.mpr hfirst, hrest⟩⟩

/-- On a scope that is there, accessors can be refused only for their names or
for their contract, and then none of them is written. -/
theorem defineAccessors_of_has
    (hscope : space.scopes.Has owner) {signature : Except ContractError Signature}
    {member : String → Symbol} {parameters : Parameters} {body : String → Body}
    (hrun : (defineAccessors owner names signature member parameters body).run space =
      (.error error, after)) :
    after = space ∧ (checkNames names = .error error ∨ signature = .error error) := by
  rw [defineAccessors_eq, Action.run_bind, Action.run_liftM] at hrun
  cases hnames : checkNames names with
  | error refusal =>
      rw [hnames] at hrun
      cases hrun
      exact ⟨rfl, .inl rfl⟩
  | ok =>
      rw [hnames] at hrun
      simp only [Action.run_bind, Action.run_liftM] at hrun
      cases signature with
      | error refusal =>
          cases hrun
          exact ⟨rfl, .inr rfl⟩
      | ok compiled =>
          obtain ⟨written, hwritten⟩ :=
            accessors_of_has hscope names member parameters body compiled
          cases hwritten.symm.trans hrun

/-! ### The scope of accessors -/

theorem requireScope_cases (id : ScopeId) :
    space.requireScope id = .error (.unknownScope id) ∧ ¬ space.scopes.Has id ∨
      space.requireScope id = .ok () ∧ space.scopes.Has id := by
  unfold requireScope
  by_cases hid : space.scopes.Has id
  · obtain ⟨definition, hget⟩ := ScopeTable.get?_of_has hid
    rw [hget]
    exact .inr ⟨rfl, hid⟩
  · rw [ScopeTable.get?_of_not_has hid]
    exact .inl ⟨rfl, hid⟩

theorem accessorOwner_isAtomic (onSelf : Bool) (scope : ScopeId) :
    (accessorOwner onSelf scope).IsAtomic := by
  have hrest : ∀ known : ObjectSpace,
      (liftM (known.requireScope scope) >>= fun _ =>
        if onSelf then Action.step .scope fun space => space.singletonScope (.scope scope)
        else pure scope : Action ContractError ScopeId).IsAtomic := by
    intro known
    apply Action.IsAtomic.afterOutcome
    intro _
    split
    next => exact Action.isAtomic_step _ _
    next => exact Action.isAtomic_pure scope
  intro space error after hrun
  rw [accessorOwner_eq, Action.run_bind, Action.run_get] at hrun
  exact hrest space space error after hrun

/-- The scope of accessors is found if the scope is there that they are declared for. -/
theorem accessorOwner_eq_ok_iff :
    (accessorOwner onSelf scope).run space = (.ok owner, carrier) ↔
      space.scopes.Has scope ∧
        if onSelf then space.singletonScope (.scope scope) = .ok (owner, carrier)
        else owner = scope ∧ carrier = space := by
  rw [accessorOwner_eq, Action.run_bind, Action.run_get]
  simp only [Action.run_bind, Action.run_liftM]
  rcases space.requireScope_cases scope with ⟨hrequire, hnone⟩ | ⟨hrequire, hscope⟩
  · rw [hrequire]
    exact iff_of_false nofun fun hboth => hnone hboth.1
  · rw [hrequire]
    cases onSelf with
    | true =>
        rw [if_pos rfl, if_pos rfl]
        exact Action.run_step_eq_ok_iff.trans (and_iff_right hscope).symm
    | false =>
        constructor
        · rintro ⟨⟩
          exact ⟨hscope, rfl, rfl⟩
        · rintro ⟨-, rfl, rfl⟩
          rfl

theorem singletonOf_of_singletonScope
    (h : space.singletonScope (.scope scope) = .ok (owner, carrier)) :
    ∃ table, space.scopes.singletonOf (.scope scope) = .ok (owner, table) ∧
      carrier = { space with scopes := table } := by
  obtain ⟨⟨made, table⟩, htable, hpair⟩ := bind_eq_ok_iff.mp h
  cases hpair
  exact ⟨table, htable, rfl⟩

/-- The scope that was found for accessors is found again, without a change. -/
theorem accessorOwner_again
    (howner : (accessorOwner onSelf scope).run space = (.ok owner, carrier))
    {later : ObjectSpace} (hscopes : later.scopes = carrier.scopes) :
    (accessorOwner onSelf scope).run later = (.ok owner, later) := by
  obtain ⟨hscope, hcarrier⟩ := accessorOwner_eq_ok_iff.mp howner
  rw [accessorOwner_eq_ok_iff, hscopes]
  cases onSelf with
  | false =>
      obtain ⟨rfl, rfl⟩ := hcarrier
      exact ⟨hscope, rfl, rfl⟩
  | true =>
      have hagain := singletonScope_again hcarrier hscopes
      obtain ⟨table, htable, rfl⟩ := singletonOf_of_singletonScope hcarrier
      exact ⟨(ScopeTable.Change.singletonOf htable).has hscope, hagain⟩

theorem has_of_accessorOwner
    (hformed : space.scopes.WellFormed)
    (howner : (accessorOwner onSelf scope).run space = (.ok owner, carrier)) :
    carrier.scopes.Has owner := by
  obtain ⟨hscope, hcarrier⟩ := accessorOwner_eq_ok_iff.mp howner
  cases onSelf with
  | false =>
      obtain ⟨rfl, rfl⟩ := hcarrier
      exact hscope
  | true =>
      obtain ⟨table, htable, rfl⟩ := singletonOf_of_singletonScope hcarrier
      have hexisting := ScopeTable.existingSingleton?_singletonOf htable
      exact ScopeTable.has_of_kind?
        (((hformed.change (.singletonOf htable)).singleton _ _).mp hexisting)

theorem singletonScope_of_has (hscope : space.scopes.Has scope) :
    ∃ owner carrier, space.singletonScope (.scope scope) = .ok (owner, carrier) := by
  obtain ⟨definition, hget⟩ := ScopeTable.get?_of_has hscope
  have hname : space.scopes.singletonName (.scope scope) =
      .ok ("#<Class:" ++ definition.name ++ ">") := by
    rw [ScopeTable.singletonName, ScopeTable.find, hget]
    rfl
  change ∃ owner carrier, (space.scopes.singletonOf (.scope scope) >>= _) = _
  rw [ScopeTable.singletonOf_eq]
  cases space.scopes.existingSingleton? (.scope scope) with
  | some owner => exact ⟨owner, _, rfl⟩
  | none =>
      rw [hname]
      exact ⟨_, _, rfl⟩

theorem accessorOwner_of_has (onSelf : Bool) (hscope : space.scopes.Has scope) :
    ∃ owner carrier, (accessorOwner onSelf scope).run space = (.ok owner, carrier) := by
  simp only [accessorOwner_eq_ok_iff]
  cases onSelf with
  | false => exact ⟨scope, space, hscope, rfl, rfl⟩
  | true =>
      obtain ⟨owner, carrier, hsingleton⟩ := singletonScope_of_has hscope
      exact ⟨owner, carrier, hscope, hsingleton⟩

/-! ### Readers and writers -/

/-- Readers alone, or writers alone, are refused before anything is written but
the singleton that was to carry them. -/
theorem half_of_refused
    {signature : Except ContractError Signature} {member : String → Symbol}
    {parameters : Parameters} {body : String → Body}
    (hhas : ∀ owner carrier, (accessorOwner onSelf scope).run space = (.ok owner, carrier) →
      carrier.scopes.Has owner)
    (hrun : (accessorOwner onSelf scope >>= fun owner =>
      defineAccessors owner names signature member parameters body).run space =
        (.error error, after)) :
    (after = space ∧ ¬ space.scopes.Has scope) ∨
      (∃ owner, (accessorOwner onSelf scope).run space = (.ok owner, after)) ∧
        (checkNames names = .error error ∨ signature = .error error) := by
  rw [Action.run_bind] at hrun
  rcases howner : (accessorOwner onSelf scope).run space with ⟨outcome, carrier⟩
  rw [howner] at hrun
  cases outcome with
  | error refusal =>
      cases hrun
      refine .inl ⟨accessorOwner_isAtomic onSelf scope space error _ howner, ?_⟩
      intro hscope
      obtain ⟨owner, found, hfound⟩ := accessorOwner_of_has onSelf hscope
      rw [hfound] at howner
      cases howner
  | ok owner =>
      obtain ⟨rfl, hrefused⟩ := defineAccessors_of_has (hhas owner carrier howner) hrun
      exact .inr ⟨⟨owner, rfl⟩, hrefused⟩

/-- Readers alone, and writers alone, on the scope that they are declared for. -/
theorem half_isAtomic
    (scope : ScopeId) (names : List String) (signature : Except ContractError Signature)
    (member : String → Symbol) (parameters : Parameters) (body : String → Body) :
    (accessorOwner false scope >>= fun owner =>
      defineAccessors owner names signature member parameters body).IsAtomic := by
  intro space error after hrun
  have hhas : ∀ owner carrier, (accessorOwner false scope).run space = (.ok owner, carrier) →
      carrier.scopes.Has owner := by
    intro owner carrier howner
    obtain ⟨hscope, rfl, rfl⟩ := accessorOwner_eq_ok_iff.mp howner
    exact hscope
  rcases half_of_refused hhas hrun with ⟨hkept, -⟩ | ⟨⟨owner, howner⟩, -⟩
  · exact hkept
  · exact (accessorOwner_eq_ok_iff.mp howner).2.2

end ObjectSpace

/-! ### All or nothing -/

/-- All operations but calls, and but those accessors that take two halves. -/
def Operation.IsAllOrNothing : Operation → Prop
  | .typedAccessors kind onSelf .. => kind ≠ .both ∧ onSelf = false
  | .call .. | .send .. => False
  | _ => True

/-- A failed operation leaves scopes, objects, members, layers, registry,
annotations, instance variables and trace as they were. -/
theorem Operation.failure_changes_nothing
    {operation : Operation} (hall : operation.IsAllOrNothing)
    {fromOutside : OutsideCalls}
    {space after : ObjectSpace} {failure : Failure}
    (hfailed : (operation.perform fromOutside).run space = (.error failure, after)) :
    after = space := by
  rw [perform_eq_inSteps] at hfailed
  cases operation with
  | typedAccessors kind onSelf scope names behavior =>
      obtain ⟨hkind, rfl⟩ := hall
      have hatomic : (ObjectSpace.typedAccessors kind false scope names behavior).IsAtomic := by
        cases kind with
        | reader => exact ObjectSpace.half_isAtomic scope names _ _ _ _
        | writer => exact ObjectSpace.half_isAtomic scope names _ _ _ _
        | both => exact (hkind rfl).elim
      exact hatomic.respond _ _ space failure after hfailed
  | call => exact hall.elim
  | send => exact hall.elim
  | clearTrace => cases hfailed
  | _ => exact Action.isAtomic_step _ _ space failure after hfailed

theorem Operation.failure_changes_nothing_for_a_missing_name :
    ∃ (space after : ObjectSpace) (failure : Failure),
      ((Operation.typedAccessors .reader false .object ["size", ""] .any).perform
          (callFromOutside 1)).run space = (.error failure, after) ∧
        after = space := by
  let space := ObjectSpace.initial ⟨0⟩ .standard []
  have hall : (Operation.typedAccessors .reader false .object ["size", ""] .any).IsAllOrNothing :=
    ⟨by decide, rfl⟩
  have hfailed : ((Operation.typedAccessors .reader false .object ["size", ""] .any).perform
      (callFromOutside 1)).run space = (.error (.contract .missingName), space) := rfl
  exact ⟨space, space, _, hfailed, Operation.failure_changes_nothing hall hfailed⟩

/-! ### Two halves -/

namespace ObjectSpace

variable {space after carrier : ObjectSpace} {scope owner : ScopeId} {names : List String}
  {kind : AccessorKind} {onSelf : Bool} {behavior : Term} {error : ContractError}

/-- The accessors go on a singleton that is yet to be made. -/
def MakesSingleton (space : ObjectSpace) (onSelf : Bool) (scope : ScopeId) : Prop :=
  onSelf = true ∧ space.scopes.Has scope ∧ space.scopes.existingSingleton? (.scope scope) = none

/-- Readers come before writers, and their contract, of a result that is always
absent, is none for writers. -/
def GrantsReadersOnly
    (space : ObjectSpace)
    (kind : AccessorKind)
    (scope : ScopeId)
    (names : List String)
    (behavior : Term) : Prop :=
  kind = .both ∧ space.scopes.Has scope ∧ (∀ name ∈ names, name ≠ "") ∧ behavior = .nil

theorem checkNames_eq_ok_iff : checkNames names = .ok () ↔ ∀ name ∈ names, name ≠ "" := by
  unfold checkNames
  split
  next hempty =>
    obtain ⟨name, hname, hnone⟩ := List.any_eq_true.mp hempty
    refine iff_of_false nofun fun hall => hall name hname ?_
    simpa using hnone
  next hempty =>
    refine iff_of_true rfl fun name hname hnone => hempty ?_
    exact List.any_eq_true.mpr ⟨name, hname, by simp [hnone]⟩

/-- Whatever may be read may be written, but for what is always absent. -/
theorem eq_nil_of_writerSignature
    {signature : Signature} (hreader : readerSignature behavior = .ok signature)
    (hwriter : writerSignature behavior = .error error) : behavior = .nil := by
  have hcontract := exists_signature_iff.mp ⟨signature, mapError_eq_ok_iff.mp hreader⟩
  obtain ⟨arguments, result, items, entries, hspec, -, -, -, hresult⟩ := hcontract
  obtain ⟨-, rfl⟩ : Term.list [] = arguments ∧ behavior = result := by
    simpa [Term.spec] using hspec
  rcases hresult with hdescription | hnil
  · have hblock := (hdescription _ (self_mem_nodes behavior 0)).1
    have hlast : ∀ entries, [behavior].getLast? ≠ some (.map entries) := by
      rintro entries ⟨⟩
      exact hblock
    have hitems : ∀ item ∈ [behavior], item.IsDescription := by
      rintro item hitem
      rw [List.mem_singleton.mp hitem]
      exact hdescription
    have hany : Term.any.IsDescription := by
      rintro node hnode
      rw [List.mem_singleton.mp hnode]
      exact ⟨trivial, Nat.zero_le _⟩
    have hwritten : (Term.spec (.list [behavior]) .any).IsContract :=
      ⟨.list [behavior], .any, [behavior], [], rfl, .positions hlast, hitems, areKeywords_nil,
        .inl hany⟩
    obtain ⟨written, hsignature⟩ := exists_signature_iff.mpr hwritten
    cases (mapError_eq_ok_iff.mpr hsignature).symm.trans hwriter
  · exact hnil

theorem accessorOwner_keeps_or_makes
    (howner : (accessorOwner onSelf scope).run space = (.ok owner, carrier)) :
    (carrier = space ∧ ¬ space.MakesSingleton onSelf scope) ∨
      carrier ≠ space ∧ space.MakesSingleton onSelf scope ∧
        space.singletonScope (.scope scope) = .ok (owner, carrier) := by
  obtain ⟨hscope, hcarrier⟩ := accessorOwner_eq_ok_iff.mp howner
  cases onSelf with
  | false =>
      obtain ⟨-, rfl⟩ := hcarrier
      exact .inl ⟨rfl, nofun⟩
  | true =>
      obtain ⟨table, htable, rfl⟩ := singletonOf_of_singletonScope hcarrier
      cases hexisting : space.scopes.existingSingleton? (.scope scope) with
      | some old =>
          rw [ScopeTable.singletonOf_eq, hexisting] at htable
          cases htable
          refine .inl ⟨rfl, ?_⟩
          rintro ⟨-, -, hnone⟩
          rw [hexisting] at hnone
          cases hnone
      | none =>
          refine .inr ⟨?_, ⟨rfl, hscope, hexisting⟩, hcarrier⟩
          intro hsame
          have hmade := ScopeTable.existingSingleton?_singletonOf htable
          rw [show table = space.scopes from congrArg ObjectSpace.scopes hsame, hexisting] at hmade
          cases hmade

theorem Gains.ne {made : Registration} (h : space.Gains after made) : after ≠ space := by
  rintro rfl
  obtain ⟨gained, hgained, hmade⟩ := h
  rw [List.self_eq_append_right] at hgained
  rw [hgained] at hmade
  cases hmade

/-- Writers that follow readers find their scope, and their names are checked
already. -/
theorem writers_after_readers
    (hformed : space.scopes.WellFormed)
    (hread : (typedReader onSelf scope names behavior).run space = (.ok (), carrier))
    (hwrite : (typedWriter onSelf scope names behavior).run carrier = (.error error, after)) :
    after = carrier ∧ space.GrantsReadersOnly .both scope names behavior := by
  obtain ⟨owner, made, howner, hdefine⟩ := Action.run_bind_eq_ok_iff.mp hread
  obtain ⟨hscopes, signature, hsignature, -⟩ := defineAccessors_gains hdefine
  have hnames := (defineAccessors_granted hdefine).1
  have hagain := accessorOwner_again howner hscopes
  have hhas : ∀ other found, (accessorOwner onSelf scope).run carrier = (.ok other, found) →
      found.scopes.Has other := by
    intro other found hfound
    rw [hagain] at hfound
    cases hfound
    rw [hscopes]
    exact has_of_accessorOwner hformed howner
  have hscope := (accessorOwner_eq_ok_iff.mp howner).1
  rcases half_of_refused hhas hwrite with ⟨-, hunknown⟩ | ⟨⟨other, hother⟩, hrefused⟩
  · exact (hunknown (accessorOwner_eq_ok_iff.mp hagain).1).elim
  · rw [hagain] at hother
    cases hother
    rcases hrefused with hrefused | hrefused
    · rw [hnames] at hrefused
      cases hrefused
    · have hnil := eq_nil_of_writerSignature hsignature hrefused
      exact ⟨rfl, rfl, hscope, checkNames_eq_ok_iff.mp hnames, hnil⟩

/-- Typed accessors are refused for their scope, for the readers or for what is
declared alone, or for the writers that follow the readers. -/
theorem typedAccessors_of_refused
    (hformed : space.scopes.WellFormed)
    (hrun : (typedAccessors kind onSelf scope names behavior).run space = (.error error, after)) :
    (after = space ∧ ¬ space.scopes.Has scope) ∨
      ((∃ owner, (accessorOwner onSelf scope).run space = (.ok owner, after)) ∧
        ¬ space.GrantsReadersOnly kind scope names behavior) ∨
      (typedReader onSelf scope names behavior).run space = (.ok (), after) ∧
        space.GrantsReadersOnly kind scope names behavior := by
  have hhas : ∀ owner carrier, (accessorOwner onSelf scope).run space = (.ok owner, carrier) →
      carrier.scopes.Has owner := fun owner carrier => has_of_accessorOwner hformed
  cases kind with
  | reader =>
      rcases half_of_refused hhas hrun with hunknown | ⟨howner, -⟩
      · exact .inl hunknown
      · exact .inr (.inl ⟨howner, nofun⟩)
  | writer =>
      rcases half_of_refused hhas hrun with hunknown | ⟨howner, -⟩
      · exact .inl hunknown
      · exact .inr (.inl ⟨howner, nofun⟩)
  | both =>
      rw [typedAccessors, Action.run_bind] at hrun
      rcases hread : (typedReader onSelf scope names behavior).run space with ⟨outcome, middle⟩
      rw [hread] at hrun
      cases outcome with
      | error refusal =>
          cases hrun
          rcases half_of_refused hhas hread with hunknown | ⟨howner, hrefused⟩
          · exact .inl hunknown
          · refine .inr (.inl ⟨howner, ?_⟩)
            rintro ⟨-, -, hnames, rfl⟩
            rcases hrefused with hrefused | hrefused
            · rw [checkNames_eq_ok_iff.mpr hnames] at hrefused
              cases hrefused
            · cases hrefused
      | ok result =>
          obtain ⟨rfl, hgrants⟩ := writers_after_readers hformed hread hrun
          exact .inr (.inr ⟨rfl, hgrants⟩)

/-- What readers leave that go through: as many registrations more as there are
names, and the singleton that carries them. -/
theorem typedReader_keeps_iff
    (hread : (typedReader onSelf scope names behavior).run space = (.ok (), after)) :
    after = space ↔ ¬ space.MakesSingleton onSelf scope ∧ names = [] := by
  cases names with
  | nil =>
      obtain ⟨owner, made, howner, hdefine⟩ := Action.run_bind_eq_ok_iff.mp hread
      obtain ⟨-, compiled, -, hnone⟩ := defineAccessors_granted hdefine
      cases hnone
      rcases accessorOwner_keeps_or_makes howner with ⟨rfl, hnot⟩ | ⟨hchanged, hmakes, -⟩
      · exact iff_of_true rfl ⟨hnot, rfl⟩
      · exact iff_of_false hchanged fun hboth => hboth.1 hmakes
  | cons name rest =>
      obtain ⟨owner, signature, -, -, hgains, -⟩ := typedReader_gains hread
      exact iff_of_false (hgains name List.mem_cons_self).ne nofun

/-- Typed accessors that are refused have made the singleton that was to carry
them, if there was none, and have defined the readers that precede the writers,
if those are refused; with neither they leave everything as it was. -/
theorem refused_accessors_leave
    (hspace : space.IsReachable)
    {fromOutside : OutsideCalls} {failure : Failure}
    (hrefused : ((Operation.typedAccessors kind onSelf scope names behavior).perform
      fromOutside).run space = (.error failure, after)) :
    (¬ space.MakesSingleton onSelf scope → ¬ space.GrantsReadersOnly kind scope names behavior →
      after = space) ∧
    (space.MakesSingleton onSelf scope → ¬ space.GrantsReadersOnly kind scope names behavior →
      ∃ singleton, space.singletonScope (.scope scope) = .ok (singleton, after)) ∧
    (space.GrantsReadersOnly kind scope names behavior →
      (typedReader onSelf scope names behavior).run space = (.ok (), after)) ∧
    (after = space ↔
      ¬ space.MakesSingleton onSelf scope ∧
        (space.GrantsReadersOnly kind scope names behavior → names = [])) := by
  obtain ⟨error, hrun, -⟩ := Action.run_respond_eq_error_iff.mp hrefused
  rcases typedAccessors_of_refused hspace.wellScoped.formed hrun with
    ⟨rfl, hunknown⟩ | ⟨⟨owner, howner⟩, hnot⟩ | ⟨hread, hgrants⟩
  · have hnoSingleton : ¬ after.MakesSingleton onSelf scope := fun hmakes => hunknown hmakes.2.1
    have hnoReaders : ¬ after.GrantsReadersOnly kind scope names behavior :=
      fun hgrants => hunknown hgrants.2.1
    exact ⟨fun _ _ => rfl, fun hmakes => (hnoSingleton hmakes).elim,
      fun hgrants => (hnoReaders hgrants).elim,
      iff_of_true rfl ⟨hnoSingleton, fun hgrants => (hnoReaders hgrants).elim⟩⟩
  · have hreaders : space.GrantsReadersOnly kind scope names behavior → names = [] :=
      fun hgrants => (hnot hgrants).elim
    rcases accessorOwner_keeps_or_makes howner with
      ⟨rfl, hnoSingleton⟩ | ⟨hchanged, hmakes, hsingleton⟩
    · exact ⟨fun _ _ => rfl, fun hmakes => (hnoSingleton hmakes).elim,
        fun hgrants => (hnot hgrants).elim, iff_of_true rfl ⟨hnoSingleton, hreaders⟩⟩
    · exact ⟨fun hnone => (hnone hmakes).elim, fun _ _ => ⟨owner, hsingleton⟩,
        fun hgrants => (hnot hgrants).elim,
        iff_of_false hchanged fun hboth => hboth.1 hmakes⟩
  · refine ⟨fun _ hnone => (hnone hgrants).elim, fun _ hnone => (hnone hgrants).elim,
      fun _ => hread, ?_⟩
    rw [typedReader_keeps_iff hread]
    exact and_congr_right fun _ => (imp_iff_right hgrants).symm

theorem refused_accessors_leave_readers_of_nothing :
    ∃ (space after : ObjectSpace) (failure : Failure),
      ((Operation.typedAccessors .both false .object ["level"] .nil).perform
          (callFromOutside 1)).run space = (.error failure, after) ∧
        (typedReader false .object ["level"] .nil).run space = (.ok (), after) ∧
          after ≠ space := by
  let space := (ObjectSpace.initial ⟨0⟩ .standard []).withRegistry []
  have hspace : space.IsReachable := ⟨[.standard], [], 0, space, rfl, .refl⟩
  have hfails : (((Operation.typedAccessors .both false .object ["level"] .nil).perform
      (callFromOutside 1)).run space).1.isOk = false := by decide +kernel
  have hobject : space.scopes.Has .object := by decide +kernel
  have hgrants : space.GrantsReadersOnly .both .object ["level"] .nil :=
    ⟨rfl, hobject, by decide, rfl⟩
  rcases hrun : ((Operation.typedAccessors .both false .object ["level"] .nil).perform
    (callFromOutside 1)).run space with ⟨outcome, after⟩
  rw [hrun] at hfails
  cases outcome with
  | ok response => cases hfails
  | error failure =>
      obtain ⟨-, -, hreaders, hkept⟩ := refused_accessors_leave hspace hrun
      have hchanged : after ≠ space := fun hsame => nomatch (hkept.mp hsame).2 hgrants
      exact ⟨space, after, failure, hrun, hreaders hgrants, hchanged⟩

/-- Of a class, a reader with an empty name is refused after the singleton of
the class has been made. -/
theorem accessors_may_fail_in_part :
    ¬ ∀ space : ObjectSpace, space.IsReachable →
      ∀ (kind : AccessorKind) (onSelf : Bool) (scope : ScopeId) (names : List String)
        (behavior : Term) (failure : Failure) (after : ObjectSpace),
        kind = .both ∨ onSelf = true →
          space.perform (.typedAccessors kind onSelf scope names behavior) =
            (.error failure, after) →
          after = space := by
  intro hnothing
  let space := (ObjectSpace.initial ⟨0⟩ .standard []).withRegistry []
  have hspace : space.IsReachable := ⟨[.standard], [], 0, space, rfl, .refl⟩
  have hrefused : space.perform (.typedAccessors .reader true .object [""] .any) =
      (.error (.contract .missingName),
        (space.perform (.typedAccessors .reader true .object [""] .any)).2) := rfl
  have hsame := hnothing space hspace .reader true .object [""] .any _ _ (.inr rfl) hrefused
  have hgrown : (space.perform (.typedAccessors .reader true .object [""] .any)).2.scopes.size =
      18 := by decide +kernel
  have hstart : space.scopes.size = 17 := by decide +kernel
  rw [hsame, hstart] at hgrown
  cases hgrown

end ObjectSpace

end CallContract
