import CallContract.Proofs.CallDecision
import CallContract.Proofs.Linearization

/-!
# Contracts leave native behaviour alone

A contract changes layers and the registry, and at most makes the singleton
that carries it.  A scope that is new has no members and is mentioned by
nothing, so every search still finds what it found, and a call that was refused
before its body could run is refused as before.
-/

namespace CallContract

/-! ### Where a contract is put -/

def Operation.PutsUnderContract : Operation → Prop
  | .register .. | .contract .. | .contractSelf .. | .contractOn .. => True
  | _ => False

namespace ObjectSpace

/-- A space in which a scope can carry a contract: the same, or one with the
singleton made for it. -/
inductive Provides (space : ObjectSpace) : ScopeId → ObjectSpace → Prop
  | asBefore (scope : ScopeId) : Provides space scope space
  | newSingleton (name : String) {attached : Attachment}
      (hattached : ∀ scope, attached = .scope scope → space.scopes.Has scope)
      (hunmade : space.scopes.existingSingleton? attached = none) :
      Provides space ⟨space.scopes.size⟩ { space with
        scopes := (space.scopes.push name (.singleton attached) none []).2 }

variable {space middle after : ObjectSpace}

theorem provides_of_singletonScope
    {receiver : Value} {singleton : ScopeId}
    (h : space.singletonScope receiver = .ok (singleton, middle)) :
    space.Provides singleton middle := by
  unfold singletonScope at h
  split at h
  next => cases h
  next attached hattached =>
    obtain ⟨⟨made, table⟩, htable, hpair⟩ := bind_eq_ok_iff.mp h
    cases hpair
    rw [ScopeTable.singletonOf_eq] at htable
    split at htable
    next =>
      cases htable
      exact .asBefore singleton
    next hunmade =>
      obtain ⟨name, hname, hmade⟩ := bind_eq_ok_iff.mp htable
      cases hmade
      exact .newSingleton name (ScopeTable.singletonName_has hname) hunmade

/-- A contract was registered on a scope that a space provides. -/
def PutsOn
    (space after : ObjectSpace) (operation : Operation) (signature : Signature) : Prop :=
  ∃ scope member middle,
    space.Provides scope middle ∧ after = middle.registerSignature scope member signature ∧
      operation.registers space (.ok (.signature signature)) = [⟨scope, member, signature⟩]

section Single

variable {scope : ScopeId} {member : Symbol} {term : Term} {signature : Signature}

theorem putsOn_of_register
    (h : space.compileAndRegister scope member term = .ok (signature, after)) :
    space.PutsOn after (.register scope member term) signature := by
  obtain ⟨compiled, -, hpair⟩ := bind_eq_ok_iff.mp h
  cases hpair
  exact ⟨scope, member, space, .asBefore scope, rfl, rfl⟩

theorem registerSignature_of_contract
    (h : space.contract scope member term = .ok (signature, after)) :
    after = space.registerSignature scope member signature := by
  obtain ⟨⟨⟩, -, hrest⟩ := bind_eq_ok_iff.mp h
  obtain ⟨compiled, -, hpair⟩ := bind_eq_ok_iff.mp hrest
  cases hpair
  rfl

theorem registerSignature_of_contractSingleton
    {receiver : Value}
    (h : space.contractSingleton receiver member term = .ok (signature, after)) :
    ∃ singleton middle, space.Provides singleton middle ∧
      after = middle.registerSignature singleton member signature ∧
        space.onSingleton receiver member signature = [⟨singleton, member, signature⟩] := by
  obtain ⟨compiled, -, hrest⟩ := bind_eq_ok_iff.mp h
  obtain ⟨⟨singleton, middle⟩, hmade, hpair⟩ := bind_eq_ok_iff.mp hrest
  have hsingleton := mapError_eq_ok_iff.mp hmade
  cases hpair
  refine ⟨singleton, middle, provides_of_singletonScope hsingleton, rfl, ?_⟩
  unfold onSingleton
  rw [hsingleton]

theorem putsOn_of_contractSelf
    (h : space.contractSelf scope member term = .ok (signature, after)) :
    space.PutsOn after (.contractSelf scope member term) signature := by
  obtain ⟨⟨⟩, -, hrest⟩ := bind_eq_ok_iff.mp h
  obtain ⟨singleton, middle, hprovides, hafter, hregisters⟩ :=
    registerSignature_of_contractSingleton hrest
  exact ⟨singleton, member, middle, hprovides, hafter, hregisters⟩

theorem putsOn_of_contractOn
    {receiver : Value}
    (h : space.contractOn receiver member term = .ok (signature, after)) :
    space.PutsOn after (.contractOn receiver member term) signature := by
  unfold contractOn at h
  split at h
  next scope =>
    exact ⟨scope, member, space, .asBefore scope, registerSignature_of_contract h, rfl⟩
  next hother =>
    obtain ⟨singleton, middle, hprovides, hafter, hregisters⟩ :=
      registerSignature_of_contractSingleton h
    refine ⟨singleton, member, middle, hprovides, hafter, ?_⟩
    cases receiver with
    | scope scope => exact (hother scope rfl).elim
    | _ => exact hregisters

end Single

theorem ok_of_run_change
    {wrap : ε → Failure} {respond : α → Response}
    {change : ObjectSpace → Except ε (α × ObjectSpace)} {response : Response}
    (h : (Action.change wrap respond change).run space = (.ok response, after)) :
    ∃ result, change space = .ok (result, after) ∧ respond result = response := by
  rw [Action.run_change] at h
  cases hresult : change space with
  | error error =>
      rw [hresult] at h
      cases h
  | ok result =>
      rw [hresult] at h
      cases h
      exact ⟨result.1, rfl, rfl⟩

theorem putsOn_of_perform
    {operation : Operation} {response : Response} (hcontract : operation.PutsUnderContract)
    (h : space.perform operation = (.ok response, after)) :
    ∃ signature, response = .signature signature ∧ space.PutsOn after operation signature := by
  rw [perform_eq_inSteps] at h
  cases operation with
  | register scope member term =>
      obtain ⟨signature, hmade, rfl⟩ := ok_of_run_change h
      exact ⟨signature, rfl, putsOn_of_register hmade⟩
  | contract scope member term =>
      obtain ⟨signature, hmade, rfl⟩ := ok_of_run_change h
      exact ⟨signature, rfl, scope, member, space, .asBefore scope,
        registerSignature_of_contract hmade, rfl⟩
  | contractSelf scope member term =>
      obtain ⟨signature, hmade, rfl⟩ := ok_of_run_change h
      exact ⟨signature, rfl, putsOn_of_contractSelf hmade⟩
  | contractOn receiver member term =>
      obtain ⟨signature, hmade, rfl⟩ := ok_of_run_change h
      exact ⟨signature, rfl, putsOn_of_contractOn hmade⟩
  | _ => exact hcontract.elim

end ObjectSpace

/-! ### Values and the scopes that they mention -/

namespace Value

mutual

/-- All scopes that a value mentions are of a kind. -/
def MentionsOnly (known : ScopeId → Prop) : Value → Prop
  | .array items => ItemsMentionOnly known items
  | .hash pairs => PairsMentionOnly known pairs
  | .object reference => known reference.ofClass
  | .scope id => known id
  | _ => True

def ItemsMentionOnly (known : ScopeId → Prop) : List Value → Prop
  | [] => True
  | item :: rest => item.MentionsOnly known ∧ ItemsMentionOnly known rest

def PairsMentionOnly (known : ScopeId → Prop) : List (Value × Value) → Prop
  | [] => True
  | (key, value) :: rest =>
      key.MentionsOnly known ∧ value.MentionsOnly known ∧ PairsMentionOnly known rest

end

variable {known : ScopeId → Prop} {first second : ScopeId → String}

mutual

theorem describe_of_mentionsOnly
    (hnames : ∀ id, known id → first id = second id)
    (value : Value) (h : value.MentionsOnly known) :
    value.describe first = value.describe second := by
  cases value with
  | array items => simp only [describe, describeItems_of_mentionOnly hnames items h]
  | hash pairs => simp only [describe, describePairs_of_mentionOnly hnames pairs h]
  | object reference => simp only [describe, hnames _ h]
  | scope id => exact hnames id h
  | _ => rfl

theorem describeItems_of_mentionOnly
    (hnames : ∀ id, known id → first id = second id)
    (items : List Value) (h : ItemsMentionOnly known items) :
    describeItems first items = describeItems second items := by
  cases items with
  | nil => rfl
  | cons item rest =>
      simp only [describeItems, describe_of_mentionsOnly hnames item h.1,
        describeItems_of_mentionOnly hnames rest h.2]

theorem describePairs_of_mentionOnly
    (hnames : ∀ id, known id → first id = second id)
    (pairs : List (Value × Value)) (h : PairsMentionOnly known pairs) :
    describePairs first pairs = describePairs second pairs := by
  cases pairs with
  | nil => rfl
  | cons pair rest =>
      obtain ⟨key, value⟩ := pair
      simp only [describePairs, describe_of_mentionsOnly hnames key h.1,
        describe_of_mentionsOnly hnames value h.2.1,
        describePairs_of_mentionOnly hnames rest h.2.2]

end

end Value

/-! ### What is found -/

/-- Two spaces in which every search for members finds the same, though one of
them may have more scopes. -/
structure ObjectSpace.AgreesNatively (space after : ObjectSpace) : Prop where
  settings : after.settings = space.settings
  found : ∀ receiver name, after.found? receiver name = space.found? receiver name
  defines : ∀ scope name, after.definesMember scope name = space.definesMember scope name
  instances : ∀ value scope, space.scopes.Has scope →
    after.scopes.isInstanceOf value scope = space.scopes.isInstanceOf value scope
  describes : ∀ value : Value, value.MentionsOnly space.scopes.Has →
    after.describe value = space.describe value
  owners : ∀ receiver name member, space.found? receiver name = some member →
    space.scopes.Has member.definition.owner

theorem findSome?_filter_of_none
    {list : List α} {keep : α → Bool} {search : α → Option β}
    (h : ∀ item, keep item = false → search item = none) :
    (list.filter keep).findSome? search = list.findSome? search := by
  induction list with
  | nil => rfl
  | cons item rest ih =>
      cases hkeep : keep item with
      | true => rw [List.filter_cons_of_pos hkeep, List.findSome?_cons, List.findSome?_cons, ih]
      | false =>
          have hskipped := h item hkeep
          rw [List.filter_cons_of_neg (by simp [hkeep]), List.findSome?_cons, hskipped, ih]

namespace ObjectSpace

variable {space middle after : ObjectSpace}

theorem WellScoped.ownMember?_of_found?
    (h : space.WellScoped) {receiver : Value} {name : Symbol} {member : Member}
    (hfound : space.found? receiver name = some member) :
    space.ownMember? member.definition.owner name = some member := by
  obtain ⟨scope, -, hown⟩ := List.exists_of_findSome?_eq_some hfound
  rw [(h.owned scope name member hown).1]
  exact hown

theorem WellScoped.owner_of_found?
    (h : space.WellScoped) {receiver : Value} {name : Symbol} {member : Member}
    (hfound : space.found? receiver name = some member) :
    space.scopes.Has member.definition.owner :=
  (h.owned _ name member (h.ownMember?_of_found? hfound)).2

theorem WellScoped.ownMember?_new (h : space.WellScoped) (name : Symbol) :
    space.ownMember? ⟨space.scopes.size⟩ name = none := by
  cases hown : space.ownMember? ⟨space.scopes.size⟩ name with
  | none => rfl
  | some member =>
      have hbound := (h.owned _ name member hown).2
      exact (Nat.lt_irrefl _ hbound).elim

/-- A new singleton has no members, so the searches that pass it go on. -/
theorem WellScoped.agreesNatively_newSingleton
    (h : space.WellScoped) (name : String) {attached : Attachment}
    (hattached : ∀ scope, attached = .scope scope → space.scopes.Has scope)
    (hunmade : space.scopes.existingSingleton? attached = none) :
    space.AgreesNatively { space with
      scopes := (space.scopes.push name (.singleton attached) none []).2 } where
  settings := rfl
  found := by
    intro receiver member
    have hchain := ScopeTable.lookupChain_push_of_old h.formed name hattached hunmade receiver
    unfold found?
    rw [← hchain]
    symm
    apply findSome?_filter_of_none
    intro scope hscope
    obtain rfl : scope = ⟨space.scopes.size⟩ := by simpa using hscope
    exact h.ownMember?_new member
  defines := by
    intro scope member
    have hancestors := ScopeTable.ancestors_push_of_old h.formed name attached scope
    have hskip : ∀ ancestor, (space.ownMember? ancestor member).isSome =
        (decide (ancestor ≠ ⟨space.scopes.size⟩) && (space.ownMember? ancestor member).isSome) := by
      intro ancestor
      by_cases hnew : ancestor = ⟨space.scopes.size⟩
      · simp [hnew, h.ownMember?_new member]
      · simp [hnew]
    unfold definesMember
    rw [← hancestors, List.any_filter]
    exact congrArg _ (funext hskip)
  instances := by
    intro value scope hscope
    exact ScopeTable.isInstanceOf_push h.formed name hattached hunmade value hscope.ne_new
  describes := by
    intro value hvalue
    apply Value.describe_of_mentionsOnly _ value hvalue
    intro id hid
    unfold scopeName ScopeTable.name
    rw [ScopeTable.get?_push, if_neg hid.ne_new]
  owners := fun _ _ _ hfound => h.owner_of_found? hfound

theorem WellScoped.agreesNatively_of_provides
    (h : space.WellScoped) {scope : ScopeId} (hprovides : space.Provides scope middle) :
    space.AgreesNatively middle := by
  cases hprovides with
  | asBefore =>
      exact ⟨rfl, fun _ _ => rfl, fun _ _ => rfl, fun _ _ _ => rfl, fun _ _ => rfl,
        fun _ _ _ hfound => h.owner_of_found? hfound⟩
  | newSingleton name hattached hunmade =>
      exact h.agreesNatively_newSingleton name hattached hunmade

theorem AgreesNatively.registerSignature
    (h : space.AgreesNatively middle) (scope : ScopeId) (member : Symbol) (signature : Signature) :
    space.AgreesNatively (middle.registerSignature scope member signature) :=
  ⟨h.settings, h.found, h.defines, h.instances, h.describes, h.owners⟩

theorem AgreesNatively.respondsTo
    (h : space.AgreesNatively after) (receiver : Value) (name : Symbol) :
    after.respondsTo receiver name = space.respondsTo receiver name := by
  rw [respondsTo_eq_found?, respondsTo_eq_found?, h.found]

theorem AgreesNatively.mayReach
    (h : space.AgreesNatively after) {definition : MemberDefinition}
    (howner : space.scopes.Has definition.owner) (mode : CallMode) :
    after.mayReach definition mode = space.mayReach definition mode := by
  cases mode with
  | nested caller =>
      simp only [ObjectSpace.mayReach, h.instances caller definition.owner howner]
  | _ => rfl

end ObjectSpace

/-! ### Calls that are refused before the body -/

section Refusal

variable (depth : Nat) (mode : CallMode) (receiver : Value) (member : Symbol)
  (arguments : Arguments)

/-- The errors with which a call ends before any contract is looked at. -/
inductive CallRefusal (space : ObjectSpace) : CallError → Prop
  | tooDeep (hdeep : space.settings.maxCallDepth ≤ depth) :
      CallRefusal space (.depthExceeded space.settings.maxCallDepth)
  | unknown
      (hshallow : depth < space.settings.maxCallDepth)
      (hnone : space.found? receiver member = none) :
      CallRefusal space (.noMethod member (space.describe receiver))
  | inaccessible {found : Member}
      (hshallow : depth < space.settings.maxCallDepth)
      (hfound : space.found? receiver member = some found)
      (hreach : space.mayReach found.definition mode = false) :
      CallRefusal space
        (.inaccessible found.definition.name found.definition.visibility
          (space.describe receiver))
  | unbound {found : Member} {error : BindError}
      (hshallow : depth < space.settings.maxCallDepth)
      (hfound : space.found? receiver member = some found)
      (hreach : space.mayReach found.definition mode = true)
      (hbind : found.definition.parameters.bind arguments = .error error) :
      CallRefusal space (.binding member error)

variable {depth mode receiver member arguments} {space after : ObjectSpace} {error : CallError}

theorem ObjectSpace.finds_of_found?
    {found : Member} (h : space.found? receiver member = some found) :
    ∃ way, space.Finds receiver member way found := by
  rw [← resolve?_member, Option.map_eq_some_iff] at h
  obtain ⟨⟨_, checkers⟩, hresolve, rfl⟩ := h
  obtain ⟨way, hfinds, -⟩ := resolve?_eq_some_iff.mp hresolve
  exact ⟨way, hfinds⟩

theorem ObjectSpace.Finds.found?
    {way : List ScopeId} {found : Member} (h : space.Finds receiver member way found) :
    space.found? receiver member = some found := by
  rw [← resolve?_member, resolve?_of_finds h, Option.map_some]

/-- A call that is refused ends in its error and changes nothing. -/
theorem CallRefusal.run_eq
    (h : CallRefusal depth mode receiver member arguments space error) (reentries : Nat) :
    (dispatchAt (callFromOutside reentries) depth mode receiver member arguments).run space =
      (.error error, space) := by
  cases h with
  | tooDeep hdeep => exact (CallDecision.tooDeep hdeep).run_eq
  | unknown hshallow hnone =>
      have hunknown := ObjectSpace.resolve?_eq_none_iff.mp
        (ObjectSpace.resolve?_eq_none_iff_found?.mpr hnone)
      exact (CallDecision.unknown hshallow hunknown).run_eq
  | inaccessible hshallow hfound hreach =>
      obtain ⟨way, hfinds⟩ := ObjectSpace.finds_of_found? hfound
      exact (CallDecision.inaccessible hshallow hfinds hreach).run_eq
  | unbound hshallow hfound hreach hbind =>
      obtain ⟨way, hfinds⟩ := ObjectSpace.finds_of_found? hfound
      exact (CallDecision.unbound hshallow hfinds hreach hbind).run_eq

theorem CallRefusal.not_admitted
    {way : List ScopeId} {found : Member} {bound : Arguments}
    (h : CallRefusal depth mode receiver member arguments space error) :
    ¬ space.Admits depth mode receiver member arguments way found bound := by
  intro hadmits
  have hfinds := hadmits.finds.found?
  cases h with
  | tooDeep hdeep => exact Nat.not_le.mpr hadmits.shallow hdeep
  | unknown hshallow hnone =>
      rw [hnone] at hfinds
      cases hfinds
  | inaccessible hshallow hfound hreach =>
      rw [hfound] at hfinds
      cases hfinds
      rw [hadmits.accessible] at hreach
      cases hreach
  | unbound hshallow hfound hreach hbind =>
      rw [hfound] at hfinds
      cases hfinds
      rw [hadmits.binds] at hbind
      cases hbind

/-- A call gets to the contracts on its way unless it is refused. -/
theorem admitted_iff_not_refused
    (depth : Nat) (mode : CallMode) (receiver : Value) (member : Symbol)
    (arguments : Arguments) (space : ObjectSpace) :
    (∃ way found bound, space.Admits depth mode receiver member arguments way found bound) ↔
      ¬ ∃ error, CallRefusal depth mode receiver member arguments space error := by
  constructor
  · rintro ⟨way, found, bound, hadmits⟩ ⟨error, hrefusal⟩
    exact hrefusal.not_admitted hadmits
  · intro hnever
    by_cases hdeep : space.settings.maxCallDepth ≤ depth
    · exact (hnever ⟨_, .tooDeep hdeep⟩).elim
    have hshallow := Nat.not_le.mp hdeep
    cases hfound : space.found? receiver member with
    | none => exact (hnever ⟨_, .unknown hshallow hfound⟩).elim
    | some found =>
        cases hreach : space.mayReach found.definition mode with
        | false => exact (hnever ⟨_, .inaccessible hshallow hfound hreach⟩).elim
        | true =>
            cases hbind : found.definition.parameters.bind arguments with
            | error error => exact (hnever ⟨_, .unbound hshallow hfound hreach hbind⟩).elim
            | ok bound =>
                obtain ⟨way, hfinds⟩ := ObjectSpace.finds_of_found? hfound
                exact ⟨way, found, bound, hshallow, hfinds, hreach, hbind⟩

/-- A refusal depends on nothing but what the call finds, and who may reach it. -/
theorem CallRefusal.of_same
    (h : CallRefusal depth mode receiver member arguments space error)
    (hsettings : space.settings = after.settings)
    (hfounds : space.found? receiver member = after.found? receiver member)
    (hdescribes : space.describe receiver = after.describe receiver)
    (hreaches : ∀ found, space.found? receiver member = some found →
      space.mayReach found.definition mode = after.mayReach found.definition mode) :
    CallRefusal depth mode receiver member arguments after error := by
  cases h with
  | tooDeep hdeep =>
      rw [hsettings] at hdeep ⊢
      exact .tooDeep hdeep
  | unknown hshallow hnone =>
      rw [hsettings] at hshallow
      rw [hfounds] at hnone
      rw [hdescribes]
      exact .unknown hshallow hnone
  | inaccessible hshallow hfound hreach =>
      rw [hsettings] at hshallow
      rw [hreaches _ hfound] at hreach
      rw [hfounds] at hfound
      rw [hdescribes]
      exact .inaccessible hshallow hfound hreach
  | unbound hshallow hfound hreach hbind =>
      rw [hsettings] at hshallow
      rw [hreaches _ hfound] at hreach
      rw [hfounds] at hfound
      exact .unbound hshallow hfound hreach hbind

theorem ObjectSpace.AgreesNatively.callRefusal_iff
    (h : space.AgreesNatively after) (hreceiver : receiver.MentionsOnly space.scopes.Has)
    (depth : Nat) (mode : CallMode) (member : Symbol) (arguments : Arguments)
    (error : CallError) :
    CallRefusal depth mode receiver member arguments after error ↔
      CallRefusal depth mode receiver member arguments space error := by
  have hfounds := h.found receiver member
  have hdescribes := h.describes receiver hreceiver
  have hreaches : ∀ found, space.found? receiver member = some found →
      after.mayReach found.definition mode = space.mayReach found.definition mode :=
    fun found hfound => h.mayReach (h.owners receiver member found hfound) mode
  constructor
  · intro hrefusal
    apply hrefusal.of_same h.settings hfounds hdescribes
    exact fun found hfound => hreaches found (hfounds ▸ hfound)
  · intro hrefusal
    apply hrefusal.of_same h.settings.symm hfounds.symm hdescribes.symm
    exact fun found hfound => (hreaches found hfound).symm

end Refusal

/-- Whatever puts a member under contract, also if it makes a singleton on the
way: every receiver resolves every member to the same definition and answers
the same questions about members and scopes, and a call is refused before its
body by the same error as before, or not at all as before. -/
theorem contracting_keeps_native_behaviour
    {space after : ObjectSpace} (hreachable : space.IsReachable)
    {operation : Operation} (hcontract : operation.PutsUnderContract) {response : Response}
    (hperform : space.perform operation = (.ok response, after)) :
    (∀ receiver name,
      (after.resolve? receiver name).map (·.member) =
          (space.resolve? receiver name).map (·.member) ∧
        after.respondsTo receiver name = space.respondsTo receiver name) ∧
    (∀ scope name, after.definesMember scope name = space.definesMember scope name) ∧
    (∀ value scope, space.scopes.Has scope →
      after.scopes.isInstanceOf value scope = space.scopes.isInstanceOf value scope) ∧
    ∀ receiver : Value, receiver.MentionsOnly space.scopes.Has →
      ∀ depth mode member arguments,
        (∀ error,
          (CallRefusal depth mode receiver member arguments after error ↔
            CallRefusal depth mode receiver member arguments space error) ∧
          (CallRefusal depth mode receiver member arguments space error → ∀ reentries,
            (dispatchAt (callFromOutside reentries) depth mode receiver member
                arguments).run space = (.error error, space) ∧
              (dispatchAt (callFromOutside reentries) depth mode receiver member
                arguments).run after = (.error error, after))) ∧
        ((∃ way found bound, after.Admits depth mode receiver member arguments way found bound) ↔
          ∃ way found bound,
            space.Admits depth mode receiver member arguments way found bound) := by
  obtain ⟨signature, -, scope, member, middle, hprovides, rfl, -⟩ :=
    ObjectSpace.putsOn_of_perform hcontract hperform
  have hmiddle := hreachable.wellScoped.agreesNatively_of_provides hprovides
  have hagrees := hmiddle.registerSignature scope member signature
  refine ⟨?_, hagrees.defines, hagrees.instances, ?_⟩
  · intro receiver name
    rw [ObjectSpace.resolve?_member, ObjectSpace.resolve?_member]
    exact ⟨hagrees.found receiver name, hagrees.respondsTo receiver name⟩
  · intro receiver hreceiver depth mode called arguments
    have hsame := hagrees.callRefusal_iff hreceiver depth mode called arguments
    refine ⟨?_, ?_⟩
    · intro error
      refine ⟨hsame error, ?_⟩
      intro hrefusal reentries
      exact ⟨hrefusal.run_eq reentries, ((hsame error).mpr hrefusal).run_eq reentries⟩
    · rw [admitted_iff_not_refused, admitted_iff_not_refused]
      simp only [hsame]

theorem contracting_keeps_native_behaviour_with_a_new_singleton :
    ∃ space after : ObjectSpace, ∃ response : Response,
      space.perform (.contractSelf .object ⟨"run"⟩ (.spec (.list []) .any)) =
          (.ok response, after) ∧
        after.scopes.size = space.scopes.size + 1 ∧
        CallRefusal 0 .external (.scope .object) ⟨"run"⟩ ⟨[], []⟩ after
          (.noMethod ⟨"run"⟩ "Object") := by
  let space := (ObjectSpace.initial ⟨0⟩ .standard []).withRegistry []
  let signature : Signature := ⟨[], [], .anything⟩
  let provided : ObjectSpace := { space with
    scopes := (space.scopes.push "#<Class:Object>" (.singleton (.scope .object)) none []).2 }
  have hreachable : space.IsReachable := ⟨[.standard], [], 0, space, rfl, .refl⟩
  have hmade : space.contractSelf .object ⟨"run"⟩ (.spec (.list []) .any) =
      .ok (signature, provided.registerSignature ⟨17⟩ ⟨"run"⟩ signature) := rfl
  have hperform : space.perform (.contractSelf .object ⟨"run"⟩ (.spec (.list []) .any)) =
      (.ok (.signature signature), provided.registerSignature ⟨17⟩ ⟨"run"⟩ signature) := by
    rw [ObjectSpace.perform_eq_inSteps]
    apply (Action.run_change _ _ _ space).trans
    rw [hmade]
  have hknown : (Value.scope .object).MentionsOnly space.scopes.Has := by
    change ScopeTable.initial.Has .object
    decide
  have hnone : ((ObjectSpace.initial ⟨0⟩ .standard []).withRegistry []).found?
      (.scope .object) ⟨"run"⟩ = none := Option.isNone_iff_eq_none.mp (by decide +kernel)
  have hbefore : CallRefusal 0 .external (.scope .object) ⟨"run"⟩ ⟨[], []⟩ space
      (.noMethod ⟨"run"⟩ "Object") := .unknown (by decide) hnone
  have hcontract : (Operation.contractSelf .object ⟨"run"⟩
      (.spec (.list []) .any)).PutsUnderContract := trivial
  have hkept := contracting_keeps_native_behaviour hreachable hcontract hperform
  have hcalls := hkept.2.2.2 (.scope .object) hknown 0 .external ⟨"run"⟩ ⟨[], []⟩
  exact ⟨space, _, _, hperform, rfl, (hcalls.1 _).1.mpr hbefore⟩

end CallContract
