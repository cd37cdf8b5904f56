import CallContract.Proofs.AncestorOrder
import CallContract.Proofs.AppliedContracts
import CallContract.Proofs.DeclarationOrder
import CallContract.Proofs.FailedOperations

/-!
# The members that accessors define

Typed accessors define a reader or a writer only where the instances of their
scope have no member of that name.  On a class this never hides a definition,
for whatever comes behind a class in a lookup chain is an ancestor of the class,
and so was asked.

The accessors of a scope itself go on its singleton, and it is the ancestors of
the singleton that are asked.  They are not what a call searches: a call passes
the singleton and goes on with the singletons of superclasses and with the class
of scopes, but not with the modules that the singleton includes.
-/

namespace CallContract.ObjectSpace

/-- The public members that accessors of some names consist of. -/
def accessorsFor
    (owner : ScopeId)
    (member : String → Symbol)
    (parameters : Parameters)
    (body : String → Body)
    (names : List String) : List Member :=
  names.map fun name => ⟨⟨member name, owner, .publicAccess, parameters⟩, body name⟩

def readersFor (owner : ScopeId) (names : List String) : List Member :=
  accessorsFor owner Symbol.mk .none .reader names

def writersFor (owner : ScopeId) (names : List String) : List Member :=
  accessorsFor owner (fun name => Symbol.setter ⟨name⟩) ⟨[⟨"value"⟩], [], none, []⟩ .writer names

def AccessorKind.members (kind : AccessorKind) (owner : ScopeId) (names : List String) :
    List Member :=
  match kind with
  | .reader => readersFor owner names
  | .writer => writersFor owner names
  | .both => readersFor owner names ++ writersFor owner names

/-- The names of these members, on whatever scope they go. -/
def AccessorKind.symbols (kind : AccessorKind) (names : List String) : List Symbol :=
  match kind with
  | .reader => names.map Symbol.mk
  | .writer => names.map fun name => Symbol.setter ⟨name⟩
  | .both => names.map Symbol.mk ++ names.map fun name => Symbol.setter ⟨name⟩

/-- The first member of a name that is offered. -/
def offered? (offers : List Member) (name : Symbol) : Option Member :=
  offers.find? fun member => member.definition.name = name

/-- A scope has been offered members, and has taken those that its instances did
not have. -/
structure Supplies
    (space : ObjectSpace)
    (owner : ScopeId)
    (offers : List Member)
    (after : ObjectSpace) : Prop where
  has : space.scopes.Has owner
  scopes : after.scopes = space.scopes
  kept : ∀ scope name, scope ≠ owner ∨ space.definesMember owner name = true →
    after.ownMember? scope name = space.ownMember? scope name
  taken : ∀ name, space.definesMember owner name = false →
    after.ownMember? owner name = offered? offers name

variable {space middle after : ObjectSpace} {owner scope : ScopeId} {offers more : List Member}
  {names : List String} {kind : AccessorKind} {onSelf : Bool} {behavior : Term}
  {receiver : Value} {member : Symbol}

/-! ### What is offered and taken -/

theorem offered?_append (offers more : List Member) (name : Symbol) :
    offered? (offers ++ more) name = (offered? offers name).or (offered? more name) :=
  List.find?_append

theorem offered?_isSome_iff :
    (offered? offers member).isSome ↔ member ∈ offers.map (·.definition.name) := by
  unfold offered?
  rw [List.find?_isSome, List.mem_map]
  simp only [decide_eq_true_eq]

theorem accessorsFor_symbols
    (owner : ScopeId) (memberOf : String → Symbol) (parameters : Parameters)
    (body : String → Body) (names : List String) :
    (accessorsFor owner memberOf parameters body names).map (·.definition.name) =
      names.map memberOf := by
  unfold accessorsFor
  rw [List.map_map]
  rfl

theorem members_symbols (kind : AccessorKind) (owner : ScopeId) (names : List String) :
    (kind.members owner names).map (·.definition.name) = kind.symbols names := by
  cases kind with
  | reader => exact accessorsFor_symbols ..
  | writer => exact accessorsFor_symbols ..
  | both =>
      rw [AccessorKind.members, List.map_append, readersFor, writersFor, accessorsFor_symbols,
        accessorsFor_symbols]
      rfl

theorem offered?_accessorsFor
    {memberOf : String → Symbol} (hinjective : memberOf.Injective) {parameters : Parameters}
    {body : String → Body} {name : String} (hname : name ∈ names) :
    offered? (accessorsFor owner memberOf parameters body names) (memberOf name) =
      some ⟨⟨memberOf name, owner, .publicAccess, parameters⟩, body name⟩ := by
  induction names with
  | nil => cases hname
  | cons first rest ih =>
      unfold offered? accessorsFor at ih ⊢
      rw [List.map_cons, List.find?_cons]
      by_cases hfirst : first = name
      · subst hfirst
        simp
      · have hother : memberOf first ≠ memberOf name := fun hsame => hfirst (hinjective hsame)
        simp only [hother, decide_false]
        exact ih ((List.mem_cons.mp hname).resolve_left (Ne.symm hfirst))

theorem owner_of_offered? {found : Member}
    (h : offered? (kind.members owner names) member = some found) :
    found.definition.owner = owner := by
  have hoffered := List.mem_of_find?_eq_some h
  cases kind with
  | reader =>
      obtain ⟨name, -, rfl⟩ := List.mem_map.mp hoffered
      rfl
  | writer =>
      obtain ⟨name, -, rfl⟩ := List.mem_map.mp hoffered
      rfl
  | both =>
      rcases List.mem_append.mp hoffered with hreader | hwriter
      · obtain ⟨name, -, rfl⟩ := List.mem_map.mp hreader
        rfl
      · obtain ⟨name, -, rfl⟩ := List.mem_map.mp hwriter
        rfl

theorem definesMember_eq_false_iff :
    space.definesMember scope member = false ↔
      ∀ ancestor ∈ space.scopes.ancestors scope, space.ownMember? ancestor member = none := by
  unfold definesMember
  rw [List.any_eq_false]
  simp only [Option.not_isSome_iff_eq_none]

theorem definesMember_of_ownMember?
    (hscope : space.scopes.Has scope) {found : Member}
    (hown : space.ownMember? scope member = some found) :
    space.definesMember scope member = true := by
  apply List.any_eq_true.mpr
  exact ⟨scope, ScopeTable.self_mem_ancestors hscope, by rw [hown, Option.isSome_some]⟩

theorem Supplies.definesMember_of_definesMember
    (h : space.Supplies owner offers after) (hdefines : space.definesMember owner member = true) :
    after.definesMember owner member = true := by
  have hkept : after.definesMember owner member = space.definesMember owner member := by
    unfold definesMember
    rw [h.scopes]
    exact congrArg _ (funext fun ancestor => by rw [h.kept ancestor member (.inr hdefines)])
  rw [hkept, hdefines]

/-- What the instances of the scope have afterwards is what they had, and all that
was offered. -/
theorem Supplies.definesMember_iff (h : space.Supplies owner offers after) (member : Symbol) :
    after.definesMember owner member = true ↔
      space.definesMember owner member = true ∨ (offered? offers member).isSome := by
  cases hdefines : space.definesMember owner member with
  | true => exact iff_of_true (h.definesMember_of_definesMember hdefines) (.inl rfl)
  | false =>
      have htaken := h.taken member hdefines
      have hnone := definesMember_eq_false_iff.mp hdefines
      rw [definesMember, h.scopes, List.any_eq_true]
      constructor
      · rintro ⟨ancestor, hancestor, hsome⟩
        by_cases hself : ancestor = owner
        · rw [hself, htaken] at hsome
          exact .inr hsome
        · rw [h.kept ancestor member (.inl hself), hnone ancestor hancestor] at hsome
          cases hsome
      · rintro (hfalse | hoffered)
        · cases hfalse
        · refine ⟨owner, ScopeTable.self_mem_ancestors h.has, ?_⟩
          rw [htaken]
          exact hoffered

theorem Supplies.nil (hscope : space.scopes.Has owner) : space.Supplies owner [] space where
  has := hscope
  scopes := rfl
  kept := fun _ _ _ => rfl
  taken := by
    intro name hdefines
    exact definesMember_eq_false_iff.mp hdefines owner (ScopeTable.self_mem_ancestors hscope)

theorem Supplies.trans
    (hfirst : space.Supplies owner offers middle) (hsecond : middle.Supplies owner more after) :
    space.Supplies owner (offers ++ more) after where
  has := hfirst.has
  scopes := hsecond.scopes.trans hfirst.scopes
  kept := by
    intro scope name hkept
    rw [hsecond.kept scope name (hkept.imp_right hfirst.definesMember_of_definesMember),
      hfirst.kept scope name hkept]
  taken := by
    intro name hdefines
    have htaken := hfirst.taken name hdefines
    have hmiddle := hfirst.definesMember_iff name
    rw [hdefines] at hmiddle
    rw [offered?_append]
    cases hoffered : offered? offers name with
    | some found =>
        rw [hoffered] at hmiddle htaken
        rw [hsecond.kept owner name (.inr (hmiddle.mpr (.inr rfl))), htaken, Option.some_or]
    | none =>
        rw [hoffered] at hmiddle
        have hnone : middle.definesMember owner name = false := by
          rw [← Bool.not_eq_true, hmiddle]
          simp
        rw [hsecond.taken name hnone, Option.none_or]

/-! ### Single accessors and all of them -/

theorem supplies_of_accessor
    {parameters : Parameters} {body : Body} {signature : Signature} {result : Unit}
    (hscope : space.scopes.Has owner)
    (h : accessor owner member parameters body signature space = .ok (result, after)) :
    space.Supplies owner [⟨⟨member, owner, .publicAccess, parameters⟩, body⟩] after := by
  obtain ⟨provided, hprovided, hpair⟩ := bind_eq_ok_iff.mp h
  cases hpair
  suffices hsupplies :
      space.Supplies owner [⟨⟨member, owner, .publicAccess, parameters⟩, body⟩] provided from
    ⟨hsupplies.has, hsupplies.scopes, hsupplies.kept, hsupplies.taken⟩
  unfold provideMember at hprovided
  split at hprovided
  next hdefines =>
    cases hprovided
    refine ⟨hscope, rfl, fun _ _ _ => rfl, ?_⟩
    intro name hnone
    have hother : member ≠ name := by
      rintro rfl
      rw [hdefines] at hnone
      cases hnone
    rw [(Supplies.nil hscope).taken name hnone]
    simp [offered?, hother]
  next hnew =>
    obtain ⟨⟨definition, defined⟩, hdefined, rfl⟩ := map_eq_ok_iff.mp hprovided
    obtain ⟨⟨⟩, -, hmade⟩ := bind_eq_ok_iff.mp hdefined
    cases hmade
    let made : Member := ⟨⟨member, owner, .publicAccess, parameters⟩, body⟩
    have hown : ∀ scope name,
        ((space.insertMember made).consumePending owner member).ownMember? scope name =
          if owner = scope ∧ member = name then some made else space.ownMember? scope name :=
      ownMember?_insertMember made
    refine ⟨hscope, consumePending_scopes owner member, ?_, ?_⟩
    · intro scope name hkept
      rw [hown, if_neg]
      rintro ⟨rfl, rfl⟩
      exact hkept.elim (fun hne => hne rfl) hnew
    · intro name hnone
      rw [hown, (Supplies.nil hscope).taken name hnone]
      by_cases hsame : member = name <;> simp [offered?, hsame, made]

theorem supplies_of_accessors
    {memberOf : String → Symbol} {parameters : Parameters} {body : String → Body}
    {signature : Signature} (hscope : space.scopes.Has owner)
    (h : (names.forM fun name =>
      Action.step ContractError.scope
        (accessor owner (memberOf name) parameters (body name) signature)).run space =
          (.ok (), after)) :
    space.Supplies owner (accessorsFor owner memberOf parameters body names) after := by
  induction names generalizing space with
  | nil =>
      cases h
      exact .nil hscope
  | cons name rest ih =>
      obtain ⟨⟨⟩, middle, hfirst, hrest⟩ := Action.run_bind_eq_ok_iff.mp h
      have hsupplies := supplies_of_accessor hscope (Action.run_step_eq_ok_iff.mp hfirst)
      have hmiddle : middle.scopes.Has owner := by
        rw [hsupplies.scopes]
        exact hscope
      exact hsupplies.trans (ih hmiddle hrest)

theorem supplies_of_defineAccessors
    {signature : Except ContractError Signature} {memberOf : String → Symbol}
    {parameters : Parameters} {body : String → Body} (hscope : space.scopes.Has owner)
    (h : (defineAccessors owner names signature memberOf parameters body).run space =
      (.ok (), after)) :
    space.Supplies owner (accessorsFor owner memberOf parameters body names) after := by
  obtain ⟨-, compiled, -, hall⟩ := defineAccessors_granted h
  exact supplies_of_accessors hscope hall

/-- Typed accessors offer their members to the scope that carries them. -/
theorem supplies_of_typedAccessors
    (hformed : space.scopes.WellFormed)
    (h : (typedAccessors kind onSelf scope names behavior).run space = (.ok (), after)) :
    ∃ owner carrier, (accessorOwner onSelf scope).run space = (.ok owner, carrier) ∧
      carrier.Supplies owner (kind.members owner names) after := by
  cases kind with
  | reader =>
      obtain ⟨owner, carrier, howner, hread⟩ := Action.run_bind_eq_ok_iff.mp h
      have hscope := has_of_accessorOwner hformed howner
      exact ⟨owner, carrier, howner, supplies_of_defineAccessors hscope hread⟩
  | writer =>
      obtain ⟨owner, carrier, howner, hwrite⟩ := Action.run_bind_eq_ok_iff.mp h
      have hscope := has_of_accessorOwner hformed howner
      exact ⟨owner, carrier, howner, supplies_of_defineAccessors hscope hwrite⟩
  | both =>
      obtain ⟨⟨⟩, written, hreaders, hwriters⟩ := Action.run_bind_eq_ok_iff.mp h
      obtain ⟨owner, carrier, howner, hread⟩ := Action.run_bind_eq_ok_iff.mp hreaders
      obtain ⟨other, found, hother, hwrite⟩ := Action.run_bind_eq_ok_iff.mp hwriters
      have hscope := has_of_accessorOwner hformed howner
      have hread' := supplies_of_defineAccessors hscope hread
      rw [accessorOwner_again howner hread'.scopes] at hother
      cases hother
      have hwritten : written.scopes.Has owner := by
        rw [hread'.scopes]
        exact hscope
      exact ⟨owner, carrier, howner, hread'.trans (supplies_of_defineAccessors hwritten hwrite)⟩

/-! ### Accessors of the instances of a class -/

/-- What is found before is found still: if the class lies on the way, then what is
found is an ancestor of the class, and the class has taken no member of the name. -/
theorem Supplies.found?_of_class
    (h : space.Supplies owner offers after) (hformed : space.scopes.WellFormed)
    (hclass : space.scopes.kind? owner = some .classScope) {found : Member}
    (hfound : space.found? receiver member = some found) :
    after.found? receiver member = some found := by
  obtain ⟨front, scope, back, hchain, hown, hnone⟩ := List.findSome?_eq_some_iff.mp hfound
  have hdefines : scope ∈ space.scopes.ancestors owner →
      space.definesMember owner member = true := fun hancestor =>
    List.any_eq_true.mpr ⟨scope, hancestor, by rw [hown, Option.isSome_some]⟩
  have hscope : after.ownMember? scope member = some found := by
    rw [h.kept scope member, hown]
    by_cases hself : scope = owner
    · rw [hself] at hdefines
      exact .inr (hdefines (ScopeTable.self_mem_ancestors h.has))
    · exact .inl hself
  have hfront : ∀ passed ∈ front, after.ownMember? passed member = none := by
    intro passed hpassed
    rw [h.kept passed member, hnone passed hpassed]
    by_cases hself : passed = owner
    · -- What is found behind the class is an ancestor of it, so nothing was taken.
      obtain ⟨near, later, rfl⟩ := List.append_of_mem hpassed
      rw [hself, List.append_assoc] at hchain
      have hbehind : scope ∈ later ++ scope :: back :=
        List.mem_append_right later List.mem_cons_self
      exact .inr (hdefines (ScopeTable.mem_ancestors_of_follows_in_lookupChain hformed hclass
        hchain hbehind))
    · exact .inl hself
  unfold found?
  rw [h.scopes]
  exact List.findSome?_eq_some_iff.mpr ⟨front, scope, back, hchain, hscope, hfront⟩

theorem resolves_of_definesMember
    (hdefines : space.definesMember (space.scopes.classOf receiver) member = true) :
    (space.resolve? receiver member).isSome := by
  rw [Option.isSome_iff_ne_none, ne_eq, resolve?_eq_none_iff]
  intro hnone
  have hundefined : space.definesMember (space.scopes.classOf receiver) member = false :=
    definesMember_eq_false_iff.mpr fun ancestor hancestor =>
      hnone ancestor (List.mem_append_right _ hancestor)
  rw [hdefines] at hundefined
  cases hundefined

/-- After typed accessors have been declared for a class, every receiver answers
every member that it answered before with the same definition, and every object
of the class answers all that were declared. -/
theorem accessors_of_a_class_shadow_nothing
    (hspace : space.IsReachable) (hclass : space.scopes.kind? owner = some .classScope)
    {response : Response}
    (hperform : space.perform (.typedAccessors kind false owner names behavior) =
      (.ok response, after)) :
    (∀ receiver member found,
      (space.resolve? receiver member).map (·.member) = some found →
        (after.resolve? receiver member).map (·.member) = some found) ∧
    ∀ reference : ObjectRef, reference.ofClass = owner → ∀ member ∈ kind.symbols names,
      (after.resolve? (.object reference) member).isSome := by
  have hformed := hspace.wellScoped.formed
  obtain ⟨⟨⟩, hrun, -⟩ := Action.run_respond_eq_ok_iff.mp hperform
  obtain ⟨carrying, carrier, howner, hsupplies⟩ := supplies_of_typedAccessors hformed hrun
  obtain ⟨-, rfl, rfl⟩ := accessorOwner_eq_ok_iff.mp howner
  refine ⟨?_, ?_⟩
  · intro receiver member found hfound
    rw [resolve?_member] at hfound ⊢
    exact hsupplies.found?_of_class hformed hclass hfound
  · rintro reference rfl member hmember
    rw [← members_symbols, ← offered?_isSome_iff] at hmember
    have hdefines := (hsupplies.definesMember_iff member).mpr (.inr hmember)
    exact resolves_of_definesMember hdefines

theorem accessors_of_a_class_shadow_nothing_of_kernel :
    ∃ (space after : ObjectSpace) (response : Response) (found : Member),
      space.perform (.typedAccessors .both false .object ["to_s"] .any) = (.ok response, after) ∧
        found.definition.owner = .kernel ∧
          (after.resolve? .nil ⟨"to_s"⟩).map (·.member) = some found ∧
            (after.resolve? (.object ⟨⟨1⟩, .object⟩) ⟨"to_s="⟩).isSome := by
  let space := (ObjectSpace.initial ⟨0⟩ .standard []).withRegistry []
  have hspace : space.IsReachable := ⟨[.standard], [], 0, space, rfl, .refl⟩
  have hclass : space.scopes.kind? .object = some .classScope := by decide +kernel
  have hgranted : (space.perform (.typedAccessors .both false .object ["to_s"] .any)).1.isOk =
      true := by decide +kernel
  obtain ⟨response, hperform⟩ := perform_of_isOk hgranted
  have hkernel : (space.resolve? .nil ⟨"to_s"⟩).map (·.member.definition.owner) =
      some .kernel := by decide +kernel
  obtain ⟨⟨found, checkers⟩, hresolves, howner⟩ := Option.map_eq_some_iff.mp hkernel
  have hfound : (space.resolve? .nil ⟨"to_s"⟩).map (·.member) = some found := by
    rw [hresolves, Option.map_some]
  have hkept := accessors_of_a_class_shadow_nothing hspace hclass hperform
  exact ⟨space, _, response, found, hperform, howner, hkept.1 .nil ⟨"to_s"⟩ found hfound,
    hkept.2 ⟨⟨1⟩, .object⟩ rfl ⟨"to_s="⟩ (by decide)⟩

/-! ### Accessors of a scope itself -/

/-- The singleton of a scope is the first to be asked when the scope is called. -/
theorem Supplies.found?_of_singleton
    (h : space.Supplies owner offers after) (hwell : space.WellScoped)
    (hsingleton : space.scopes.existingSingleton? (.scope scope) = some owner)
    (member : Symbol) :
    after.found? (.scope scope) member =
      if space.definesMember owner member then space.found? (.scope scope) member
      else (offered? offers member).or (space.found? (.scope scope) member) := by
  have hclassed : space.HasClass (.scope scope) := by
    rintro reference ⟨⟩
  have hnodup := ScopeTable.lookupChain_nodup hwell.formed (hwell.kind?_classOf hclassed)
  obtain ⟨rest, hchain⟩ := ScopeTable.lookupChain_eq_cons hwell.formed hsingleton
  rw [hchain] at hnodup
  have hrest : (rest.findSome? fun other => after.ownMember? other member) =
      rest.findSome? fun other => space.ownMember? other member := by
    rw [← List.head?_filterMap, ← List.head?_filterMap]
    apply congrArg
    apply List.filterMap_congr
    rintro other hother
    apply h.kept other member
    left
    rintro rfl
    exact (List.nodup_cons.mp hnodup).1 hother
  unfold found?
  rw [h.scopes, hchain, List.findSome?_cons, List.findSome?_cons, hrest]
  cases hdefines : space.definesMember owner member with
  | true =>
      rw [h.kept owner member (.inr hdefines)]
      rfl
  | false =>
      have hown := definesMember_eq_false_iff.mp hdefines owner
        (ScopeTable.self_mem_ancestors h.has)
      rw [h.taken member hdefines, hown]
      cases offered? offers member <;> rfl

/-- Making the singleton changes nothing that is found, so the search before the
declaration decides what the search after it yields. -/
theorem found?_of_own_accessors
    (hspace : space.IsReachable)
    (h : (typedAccessors kind true scope names behavior).run space = (.ok (), after)) :
    ∃ singleton, space.CarriesAccessors true scope singleton ∧
      ∀ member, after.found? (.scope scope) member =
        if space.definesMember singleton member then space.found? (.scope scope) member
        else (offered? (kind.members singleton names) member).or
          (space.found? (.scope scope) member) := by
  have hwell := hspace.wellScoped
  obtain ⟨singleton, carrier, howner, hsupplies⟩ := supplies_of_typedAccessors hwell.formed h
  have hmade : space.singletonScope (.scope scope) = .ok (singleton, carrier) :=
    (accessorOwner_eq_ok_iff.mp howner).2
  have hcarrier := (hspace.reaches (reaches_of_singletonScope hmade)).wellScoped
  have hagrees := hwell.agreesNatively_of_provides (provides_of_singletonScope hmade)
  have hexisting : carrier.scopes.existingSingleton? (.scope scope) = some singleton := by
    obtain ⟨table, htable, rfl⟩ := singletonOf_of_singletonScope hmade
    exact ScopeTable.existingSingleton?_singletonOf htable
  refine ⟨singleton, ⟨carrier, hmade⟩, ?_⟩
  intro member
  rw [hsupplies.found?_of_singleton hcarrier hexisting, hagrees.defines, hagrees.found]

/-- What is offered to a scope that lacks it is nothing that was found before, as it
belongs to that scope. -/
theorem WellScoped.ne_of_offered?
    (h : space.WellScoped) {offer found : Member}
    (hoffer : offered? (kind.members owner names) member = some offer)
    (hlacks : space.definesMember owner member = false)
    (hfound : space.found? receiver member = some found) : offer ≠ found := by
  rintro rfl
  have hown := h.ownMember?_of_found? hfound
  have hscope := h.owner_of_found? hfound
  rw [owner_of_offered? hoffer] at hown hscope
  rw [definesMember_of_ownMember? hscope hown] at hlacks
  cases hlacks

/-- Accessors that are declared for a scope itself are taken by its singleton unless
the singleton, or a module that it includes, has a member of the name.  A call of
the scope sees the ones that were taken before all that it would have inherited,
and does not see the modules. -/
theorem own_accessors_supply_what_the_singleton_lacks
    (hspace : space.IsReachable) {response : Response}
    (hperform : space.perform (.typedAccessors kind true scope names behavior) =
      (.ok response, after)) :
    ∃ singleton, space.CarriesAccessors true scope singleton ∧
      (∀ member, (after.resolve? (.scope scope) member).map (·.member) =
        if space.definesMember singleton member then
          (space.resolve? (.scope scope) member).map (·.member)
        else (offered? (kind.members singleton names) member).or
          ((space.resolve? (.scope scope) member).map (·.member))) ∧
      ∀ member ∈ kind.symbols names,
        ((after.resolve? (.scope scope) member).isSome ↔
          space.definesMember singleton member = false ∨
            (space.resolve? (.scope scope) member).isSome) ∧
        ∀ found, (space.resolve? (.scope scope) member).map (·.member) = some found →
          ((after.resolve? (.scope scope) member).map (·.member) = some found ↔
            space.definesMember singleton member = true) := by
  obtain ⟨⟨⟩, hrun, -⟩ := Action.run_respond_eq_ok_iff.mp hperform
  obtain ⟨singleton, hcarries, hfound⟩ := found?_of_own_accessors hspace hrun
  refine ⟨singleton, hcarries, ?_, ?_⟩
  · intro member
    rw [resolve?_member, resolve?_member, hfound]
  · intro member hmember
    have hresolves : ∀ state : ObjectSpace, (state.resolve? (.scope scope) member).isSome =
        (state.found? (.scope scope) member).isSome := by
      intro state
      rw [← resolve?_member, Option.isSome_map]
    rw [← members_symbols kind singleton, ← offered?_isSome_iff] at hmember
    obtain ⟨offer, hoffer⟩ := Option.isSome_iff_exists.mp hmember
    rw [hresolves, hresolves, resolve?_member, resolve?_member, hfound, hoffer]
    cases hdefines : space.definesMember singleton member with
    | true => simp
    | false =>
        refine ⟨by simp, ?_⟩
        intro found hbefore
        simpa using hspace.wellScoped.ne_of_offered? hoffer hdefines hbefore

theorem own_accessors_supply_what_the_singleton_lacks_for_a_class :
    ∃ (space after : ObjectSpace) (response : Response) (singleton : ScopeId),
      space.perform (.typedAccessors .both true .object ["level"] .any) = (.ok response, after) ∧
        space.CarriesAccessors true .object singleton ∧
          (after.resolve? (.scope .object) ⟨"level="⟩).isSome := by
  let space := (ObjectSpace.initial ⟨0⟩ .standard []).withRegistry []
  have hspace : space.IsReachable := ⟨[.standard], [], 0, space, rfl, .refl⟩
  have hgranted : (space.perform (.typedAccessors .both true .object ["level"] .any)).1.isOk =
      true := by decide +kernel
  obtain ⟨response, hperform⟩ := perform_of_isOk hgranted
  obtain ⟨singleton, hcarries, -, hlisted⟩ :=
    own_accessors_supply_what_the_singleton_lacks hspace hperform
  have hsingleton : space.singletonScope (.scope .object) = .ok (⟨17⟩, { space with
      scopes := (space.scopes.push "#<Class:Object>" (.singleton (.scope .object)) none []).2 }) :=
    rfl
  have hnew : space.definesMember ⟨17⟩ ⟨"level="⟩ = false := by decide +kernel
  obtain rfl : singleton = ⟨17⟩ := by
    obtain ⟨made, hmade⟩ := hcarries
    cases hmade.symm.trans hsingleton
    rfl
  exact ⟨space, _, response, ⟨17⟩, hperform, hcarries,
    (hlisted ⟨"level="⟩ (by decide)).1.mpr (.inl hnew)⟩

/-- A reader of a class is missing if the singleton includes a module that has it,
and a reader hides what the class had from the modules of its own class. -/
theorem own_accessors_may_miss_and_may_hide :
    (¬ ∀ space : ObjectSpace, space.IsReachable →
      ∀ kind scope names behavior response after,
        space.perform (.typedAccessors kind true scope names behavior) = (.ok response, after) →
          ∀ member ∈ kind.symbols names, (after.resolve? (.scope scope) member).isSome) ∧
    ¬ ∀ space : ObjectSpace, space.IsReachable →
      ∀ kind scope names behavior response after,
        space.perform (.typedAccessors kind true scope names behavior) = (.ok response, after) →
          ∀ member ∈ kind.symbols names, ∀ found,
            (space.resolve? (.scope scope) member).map (·.member) = some found →
              (after.resolve? (.scope scope) member).map (·.member) = some found := by
  let start := (ObjectSpace.initial ⟨0⟩ .standard []).withRegistry []
  have hstart : start.IsReachable := ⟨[.standard], [], 0, start, rfl, .refl⟩
  refine ⟨?_, ?_⟩
  · intro hresolves
    let space := start.afterAll
      [.singleton (.scope .object), .defineModule "Sized", .includeModule ⟨17⟩ ⟨18⟩,
        .defineMember ⟨18⟩ ⟨"size"⟩ .publicAccess .none (.reader "size")]
    have hspace : space.IsReachable := hstart.reaches (start.reaches_afterAll _)
    have hgranted : (space.perform (.typedAccessors .reader true .object ["size"] .any)).1.isOk =
        true := by decide +kernel
    obtain ⟨response, hperform⟩ := perform_of_isOk hgranted
    have hsome := hresolves space hspace _ _ _ _ _ _ hperform ⟨"size"⟩ (by decide)
    have hnone : ((space.perform (.typedAccessors .reader true .object ["size"] .any)).2.resolve?
        (.scope .object) ⟨"size"⟩).isSome = false := by decide +kernel
    rw [hnone] at hsome
    cases hsome
  · intro hkeeps
    have hgranted : (start.perform (.typedAccessors .reader true .object ["to_s"] .any)).1.isOk =
        true := by decide +kernel
    obtain ⟨response, hperform⟩ := perform_of_isOk hgranted
    have hkernel : (start.resolve? (.scope .object) ⟨"to_s"⟩).map (·.member.definition.owner) =
        some .kernel := by decide +kernel
    obtain ⟨⟨found, checkers⟩, hresolves, howner⟩ := Option.map_eq_some_iff.mp hkernel
    have hfound : (start.resolve? (.scope .object) ⟨"to_s"⟩).map (·.member) = some found := by
      rw [hresolves, Option.map_some]
    have hkept := hkeeps start hstart _ _ _ _ _ _ hperform ⟨"to_s"⟩ (by decide) found hfound
    have hsingleton :
        ((start.perform (.typedAccessors .reader true .object ["to_s"] .any)).2.resolve?
          (.scope .object) ⟨"to_s"⟩).map (·.member.definition.owner) = some ⟨17⟩ := by
      decide +kernel
    obtain ⟨⟨own, others⟩, hhides, hmade⟩ := Option.map_eq_some_iff.mp hsingleton
    rw [hhides, Option.map_some] at hkept
    cases hkept
    cases howner.symm.trans hmade

end CallContract.ObjectSpace
