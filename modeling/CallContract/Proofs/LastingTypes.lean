import CallContract.Proofs.AnnotationFates
import CallContract.Proofs.DeclarationOrder
import CallContract.Proofs.Subtyping

/-!
# Types that last

A scope keeps its kind and its superclass for good, and modules that it includes
are only added to.  The order of its ancestors may change with every module, and a
singleton that is made later is searched before everything else; but what a scope
leads to it leads to ever after.  So no value ceases to be an instance of a scope,
and a descriptor that asks for instances accepts for good what it accepts once.
-/

namespace CallContract

namespace ScopeTable

variable {table middle after : ScopeTable} {id sub super other : ScopeId} {value : Value}

/-- All scopes of a table are in another one, with modules that may have been added. -/
structure IsPartOf (table after : ScopeTable) : Prop where
  size : table.size ≤ after.size
  kept : ∀ id definition, table.get? id = some definition →
    ∃ grown, after.get? id = some grown ∧ grown.kind = definition.kind ∧
      grown.superclass = definition.superclass ∧ definition.includes ⊆ grown.includes

theorem IsPartOf.refl (table : ScopeTable) : table.IsPartOf table where
  size := Nat.le_refl _
  kept := fun _ definition hget => ⟨definition, hget, rfl, rfl, List.Subset.refl _⟩

theorem IsPartOf.trans (hfirst : table.IsPartOf middle) (hlater : middle.IsPartOf after) :
    table.IsPartOf after where
  size := hfirst.size.trans hlater.size
  kept := by
    intro id definition hget
    obtain ⟨grown, hgrown, hkind, hsuper, hincludes⟩ := hfirst.kept id definition hget
    obtain ⟨last, hlast, hlastKind, hlastSuper, hlastIncludes⟩ := hlater.kept id grown hgrown
    exact ⟨last, hlast, hlastKind.trans hkind, hlastSuper.trans hsuper,
      List.Subset.trans hincludes hlastIncludes⟩

theorem includes_subset_including (definition : ScopeDefinition) (included : ScopeId) :
    definition.includes ⊆ (definition.including included).includes := by
  unfold ScopeDefinition.including
  split
  next => exact List.Subset.refl _
  next => exact List.subset_append_left _ _

theorem Change.isPartOf (h : table.Change after) : table.IsPartOf after where
  size := h.size_le
  kept := by
    intro id definition hget
    rcases h.eq_or_push_or_update with
      rfl | ⟨name, kind, superclass, -, rfl⟩ | ⟨scope, old, included, hscope, -, rfl⟩
    · exact (IsPartOf.refl _).kept id definition hget
    · refine ⟨definition, ?_, rfl, rfl, List.Subset.refl _⟩
      rw [get?_push, if_neg (has_of_get? hget).ne_new, hget]
    · rw [get?_update hscope]
      by_cases hsame : id = scope
      · subst hsame
        rw [hscope] at hget
        cases hget
        obtain ⟨-, hkind, hsuper⟩ := ScopeDefinition.including_fields definition included
        exact ⟨_, if_pos rfl, hkind, hsuper, includes_subset_including definition included⟩
      · exact ⟨definition, by rw [if_neg hsame, hget], rfl, rfl, List.Subset.refl _⟩

/-! ### What is kept where a table grows -/

theorem IsPartOf.kind? (h : table.IsPartOf after) {kind : ScopeKind}
    (hkind : table.kind? id = some kind) : after.kind? id = some kind := by
  obtain ⟨definition, hget, rfl⟩ := get?_of_kind? hkind
  obtain ⟨grown, hgrown, hsame, -⟩ := h.kept id definition hget
  rw [ScopeTable.kind?, hgrown, Option.map_some, hsame]

theorem IsPartOf.extends (h : table.IsPartOf after) (hextends : table.Extends sub super) :
    after.Extends sub super := by
  obtain ⟨definition, hget⟩ := get?_of_has hextends.has
  obtain ⟨grown, hgrown, -, hsuper, hincludes⟩ := h.kept sub definition hget
  cases hextends with
  | superclass hparent =>
      rw [superclassOf?, hget, Option.bind_some, ← hsuper] at hparent
      exact .superclass (by rw [superclassOf?, hgrown, Option.bind_some, hparent])
  | includes hincluded =>
      rw [includesOf, hget] at hincluded
      exact .includes (by
        rw [includesOf, hgrown]
        exact hincludes hincluded)

theorem IsPartOf.leadsTo (h : table.IsPartOf after) (hleads : table.LeadsTo sub super) :
    after.LeadsTo sub super :=
  Relation.ReflTransGen.mono (fun _ _ => h.extends) _ _ hleads

theorem IsPartOf.superclassesFrom
    (h : table.IsPartOf after) {steps more : Nat} (hsteps : steps ≤ more)
    (start : Option ScopeId) :
    table.superclassesFrom steps start ⊆ after.superclassesFrom more start := by
  induction steps generalizing more start with
  | zero => exact List.nil_subset _
  | succ steps ih =>
      obtain ⟨more, rfl⟩ : ∃ fewer, more = fewer + 1 := ⟨more - 1, by omega⟩
      cases start with
      | none => exact List.nil_subset _
      | some id =>
          cases hget : table.get? id with
          | none =>
              rw [superclassesFrom_of_get?_none hget]
              exact List.nil_subset _
          | some definition =>
              obtain ⟨grown, hgrown, -, hsuper, -⟩ := h.kept id definition hget
              rw [superclassesFrom_of_get? hget, superclassesFrom_of_get? hgrown, hsuper]
              exact List.cons_subset_cons id (ih (Nat.le_of_succ_le_succ hsteps) _)

section WellFormed

variable (h : table.IsPartOf after) (hformed : table.WellFormed) (hafter : after.WellFormed)

include h hformed hafter

theorem IsPartOf.existingSingleton? {attached : Attachment}
    (hsingleton : table.existingSingleton? attached = some id) :
    after.existingSingleton? attached = some id :=
  (hafter.singleton attached id).mpr (h.kind? ((hformed.singleton attached id).mp hsingleton))

theorem IsPartOf.singletonsOf (value : Value) :
    table.singletonsOf value ⊆ after.singletonsOf value := by
  cases value with
  | object reference =>
      intro id hid
      exact Option.mem_toList.mpr (h.existingSingleton? hformed hafter (Option.mem_toList.mp hid))
  | scope scope =>
      intro id hid
      obtain ⟨super, hsuper, hsingleton⟩ := List.mem_filterMap.mp hid
      exact List.mem_filterMap.mpr ⟨super, h.superclassesFrom h.size _ hsuper,
        h.existingSingleton? hformed hafter hsingleton⟩
  | _ => exact List.nil_subset _

end WellFormed

theorem classOf_scope_eq (table : ScopeTable) (id : ScopeId) :
    table.classOf (.scope id) =
      if table.kind? id = some .classScope then .classClass else .moduleClass := by
  rw [classOf_scope, kind?]
  cases table.get? id with
  | none => rfl
  | some definition => simp

/-- A scope that is made only later may change its class, but then to one that leads
to the former class. -/
theorem IsPartOf.classOf
    (h : table.IsPartOf after) (hclasses : after.LeadsTo .classClass .moduleClass)
    (value : Value) : after.LeadsTo (after.classOf value) (table.classOf value) := by
  cases value with
  | scope id =>
      rw [classOf_scope_eq, classOf_scope_eq]
      by_cases hclass : table.kind? id = some .classScope
      · rw [if_pos hclass, if_pos (h.kind? hclass)]
      · rw [if_neg hclass]
        split
        next => exact hclasses
        next => exact .refl
  | bool truth => cases truth <;> exact .refl
  | _ => exact .refl

theorem IsPartOf.isSubtype
    (h : table.IsPartOf after) (hformed : table.WellFormed) (hafter : after.WellFormed)
    (hsubtype : table.isSubtype sub super = true) : after.isSubtype sub super = true :=
  (isSubtype_iff hafter).mpr (h.leadsTo ((isSubtype_iff hformed).mp hsubtype))

theorem IsPartOf.isInstanceOf
    (h : table.IsPartOf after) (hformed : table.WellFormed) (hafter : after.WellFormed)
    (hclasses : after.LeadsTo .classClass .moduleClass)
    (hinstance : table.isInstanceOf value id = true) : after.isInstanceOf value id = true := by
  apply (isInstanceOf_iff hafter).mpr
  rcases (isInstanceOf_iff hformed).mp hinstance with hsingleton | hleads
  · exact .inl (h.singletonsOf hformed hafter value hsingleton)
  · exact .inr ((h.classOf hclasses value).trans (h.leadsTo hleads))

theorem initial_classClass_leadsTo : initial.LeadsTo .classClass .moduleClass :=
  (isSubtype_iff initial_wellFormed).mp (by decide +kernel)

end ScopeTable

/-! ### Runs -/

namespace ObjectSpace

variable {space after : ObjectSpace}

theorem Change.isPartOf (h : space.Change after) : space.scopes.IsPartOf after.scopes := by
  cases h with
  | scopes htable => exact htable.isPartOf
  | defineMember member hscope =>
      rw [consumePending_scopes]
      exact .refl _
  | _ => exact .refl _

theorem Becomes.isPartOf (h : space.Becomes after) : space.scopes.IsPartOf after.scopes := by
  induction h with
  | refl => exact .refl _
  | tail _ hnext ih =>
      rcases hnext with hchange | ⟨registry, rfl⟩
      · exact ih.trans hchange.isPartOf
      · exact ih

theorem Becomes.wellScoped (h : space.Becomes after) (hspace : space.WellScoped) :
    after.WellScoped := by
  induction h with
  | refl => exact hspace
  | tail _ hnext ih =>
      rcases hnext with hchange | ⟨registry, rfl⟩
      · exact ih.change hchange
      · exact ih.of_same rfl rfl

theorem IsReachable.initial_isPartOf (h : space.IsReachable) :
    ScopeTable.initial.IsPartOf space.scopes := by
  apply h.induction (fun _ _ hspace hchange => hspace.trans hchange.isPartOf)
    (fun _ _ hspace => hspace)
  intro id settings
  obtain ⟨members, hinitial⟩ := initial_eq id settings []
  rw [hinitial]
  exact .refl _

/-- Whatever happens to an object space, also within calls and by what others put
into its registry: a value that is an instance of a scope stays one, a subtype stays
a subtype, and what is accepted as an instance is accepted from then on. -/
theorem types_last (hspace : space.IsReachable) (hlater : space.Becomes after) :
    (∀ value scope, space.scopes.isInstanceOf value scope = true →
      after.scopes.isInstanceOf value scope = true) ∧
    (∀ sub super, space.scopes.isSubtype sub super = true →
      after.scopes.isSubtype sub super = true) ∧
    ∀ type value,
      (space.accepts (.instanceOf type) value = true →
        after.accepts (.instanceOf type) value = true) ∧
      ∀ depth laterDepth,
        (Descriptor.instanceOf type).accepts space.environment depth value = true →
          (Descriptor.instanceOf type).accepts after.environment laterDepth value = true := by
  have hpart := hlater.isPartOf
  have hformed := hspace.wellScoped.formed
  have hafter := (hlater.wellScoped hspace.wellScoped).formed
  have hclasses := (hspace.initial_isPartOf.trans hpart).leadsTo
    ScopeTable.initial_classClass_leadsTo
  have hinstance : ∀ value scope, space.scopes.isInstanceOf value scope = true →
      after.scopes.isInstanceOf value scope = true :=
    fun value scope => hpart.isInstanceOf hformed hafter hclasses
  refine ⟨hinstance, fun _ _ => hpart.isSubtype hformed hafter, fun type value => ?_⟩
  have haccepts : ∀ depth laterDepth,
      (Descriptor.instanceOf type).accepts space.environment depth value = true →
        (Descriptor.instanceOf type).accepts after.environment laterDepth value = true := by
    intro depth laterDepth
    rw [accepts_instanceOf, accepts_instanceOf]
    exact hinstance value type.id
  exact ⟨haccepts _ _, haccepts⟩

/-- An object with a module behind its class. -/
def settled : List Operation :=
  [.defineModule "Loud", .defineClass "Base" none, .includeModule ⟨18⟩ ⟨17⟩, .newObject ⟨18⟩]

/-- A module in front of the one that is there, which it includes, a singleton, and
a contract on it. -/
def resettled : List Operation :=
  [.defineModule "Proud", .includeModule ⟨19⟩ ⟨17⟩, .includeModule ⟨18⟩ ⟨19⟩,
    .singleton (.object ⟨⟨1⟩, ⟨18⟩⟩),
    .defineMember ⟨20⟩ ⟨"size"⟩ .privateAccess .none (.reader "size"),
    .contract ⟨17⟩ ⟨"size"⟩ (.spec (.list []) .any)]

theorem types_last_behind_new_scopes :
    ∃ space after : ObjectSpace, space.IsReachable ∧ space.Becomes after ∧
      space.scopes.lookupChain (.object ⟨⟨1⟩, ⟨18⟩⟩) =
        [⟨18⟩, ⟨17⟩, .object, .kernel, .basicObject] ∧
      after.scopes.lookupChain (.object ⟨⟨1⟩, ⟨18⟩⟩) =
        [⟨20⟩, ⟨18⟩, ⟨19⟩, ⟨17⟩, .object, .kernel, .basicObject] ∧
      space.accepts (.instanceOf ⟨⟨17⟩, "Loud"⟩) (.object ⟨⟨1⟩, ⟨18⟩⟩) = true ∧
      after.accepts (.instanceOf ⟨⟨17⟩, "Loud"⟩) (.object ⟨⟨1⟩, ⟨18⟩⟩) = true := by
  let start := (ObjectSpace.initial ⟨0⟩ .standard []).withRegistry []
  let space := start.afterAll settled
  let after := space.afterAll resettled
  have hstart : start.IsReachable := ⟨[.standard], [], 0, start, rfl, .refl⟩
  have hspace : space.IsReachable := hstart.reaches (start.reaches_afterAll _)
  have hlater : space.Becomes after := (space.reaches_afterAll _).becomes
  have haccepts : space.accepts (.instanceOf ⟨⟨17⟩, "Loud"⟩) (.object ⟨⟨1⟩, ⟨18⟩⟩) = true := by
    decide +kernel
  obtain ⟨-, -, hdescriptors⟩ := types_last hspace hlater
  exact ⟨space, after, hspace, hlater, by decide +kernel, by decide +kernel, haccepts,
    (hdescriptors _ _).1 haccepts⟩

end ObjectSpace

end CallContract
