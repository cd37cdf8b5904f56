import CallContract.Proofs.Linearization
import Mathlib.Logic.Relation

/-!
# Subtypes

A scope extends its superclass and the modules that it includes, and it leads to
all that comes after it along such steps.  The list of ancestors is built within
bounds and cuts off modules that it has met, and still it is complete: a scope is
a subtype of exactly those that it leads to, also where modules include each
other in circles.

A value is an instance of what its class leads to.  It is also an instance of its
singletons, but only of these themselves: members of a module that a singleton
includes are not looked up, and so the module is not among the types of the value.
-/

namespace CallContract

namespace ScopeTable

variable {table : ScopeTable} {listed middle grown : List ScopeId}
  {id sub super other : ScopeId}

inductive Extends (table : ScopeTable) (sub : ScopeId) : ScopeId → Prop
  | superclass {parent : ScopeId} (h : table.superclassOf? sub = some parent) :
      Extends table sub parent
  | includes {included : ScopeId} (h : included ∈ table.includesOf sub) :
      Extends table sub included

abbrev LeadsTo (table : ScopeTable) : ScopeId → ScopeId → Prop :=
  Relation.ReflTransGen table.Extends

/-! ### What is listed is led to -/

theorem leadsTo_of_mem_superclassesFrom
    {steps : Nat} (h : other ∈ table.superclassesFrom steps (some id)) :
    table.LeadsTo id other := by
  induction steps generalizing id with
  | zero => cases h
  | succ steps ih =>
      cases hget : table.get? id with
      | none =>
          rw [superclassesFrom_of_get?_none hget] at h
          cases h
      | some definition =>
          rw [superclassesFrom_of_get? hget] at h
          rcases List.mem_cons.mp h with rfl | hlater
          · exact .refl
          cases hsuperclass : definition.superclass with
          | none =>
              rw [hsuperclass, superclassesFrom_none] at hlater
              cases hlater
          | some parent =>
              rw [hsuperclass] at hlater
              have hparent : table.superclassOf? id = some parent := by
                rw [superclassOf?, hget, Option.bind_some, hsuperclass]
              exact .head (.superclass hparent) (ih hlater)

theorem leadsTo_of_mem_foldl_addScope
    {chain : List ScopeId} (hchain : ∀ id ∈ chain, table.LeadsTo sub id)
    (h : other ∈ chain.foldl table.addScope listed) :
    other ∈ listed ∨ table.LeadsTo sub other :=
  mem_foldl_addScope (fun _ hid _ hincluded => hid.tail (.includes hincluded)) listed hchain other h

theorem leadsTo_of_mem_ancestors (h : other ∈ table.ancestors id) : table.LeadsTo id other :=
  (leadsTo_of_mem_foldl_addScope (fun _ => leadsTo_of_mem_superclassesFrom) h).resolve_left
    List.not_mem_nil

/-! ### What is led to is listed -/

/-- A list has grown by whole scopes: with each scope it has gained the modules
that the scope includes. -/
structure GrowsTo (table : ScopeTable) (listed grown : List ScopeId) : Prop where
  keeps : listed ⊆ grown
  closes : ∀ id ∈ grown, id ∉ listed → table.includesOf id ⊆ grown

theorem GrowsTo.refl (table : ScopeTable) (listed : List ScopeId) : table.GrowsTo listed listed :=
  ⟨List.Subset.refl listed, fun _ hlisted hnew => (hnew hlisted).elim⟩

theorem GrowsTo.trans
    (hfirst : table.GrowsTo listed middle) (hsecond : table.GrowsTo middle grown) :
    table.GrowsTo listed grown where
  keeps := List.Subset.trans hfirst.keeps hsecond.keeps
  closes := by
    intro id hgrown hnew
    by_cases hmiddle : id ∈ middle
    · exact List.Subset.trans (hfirst.closes id hmiddle hnew) hsecond.keeps
    · exact hsecond.closes id hgrown hmiddle

/-- A scope may be listed by itself as long as its modules follow. -/
theorem GrowsTo.of_append
    (h : table.GrowsTo (listed ++ [id]) grown) (hmodules : table.includesOf id ⊆ grown) :
    table.GrowsTo listed grown ∧ id ∈ grown := by
  refine ⟨⟨?_, ?_⟩, h.keeps (List.mem_append_right _ (List.mem_singleton_self id))⟩
  · exact List.Subset.trans (List.subset_append_left listed [id]) h.keeps
  · intro other hother hnew
    by_cases hsame : other = id
    · rw [hsame]
      exact hmodules
    · apply h.closes other hother
      simp [hnew, hsame]

/-- Scopes that are added one after the other, as long as there are enough steps
for what is not listed. -/
theorem GrowsTo.foldl
    {add : List ScopeId → ScopeId → List ScopeId} {steps : Nat}
    (hadd : ∀ listed id, table.unlisted listed < steps →
      table.GrowsTo listed (add listed id) ∧ id ∈ add listed id)
    (ids : List ScopeId) (h : table.unlisted listed < steps) :
    table.GrowsTo listed (ids.foldl add listed) ∧ ids ⊆ ids.foldl add listed := by
  induction ids generalizing listed with
  | nil => exact ⟨.refl table listed, List.nil_subset _⟩
  | cons id rest ih =>
      obtain ⟨hfirst, hid⟩ := hadd listed id h
      have hless := Nat.lt_of_le_of_lt (unlisted_anti hfirst.keeps) h
      obtain ⟨hrest, hsubset⟩ := ih hless
      exact ⟨hfirst.trans hrest, List.cons_subset.mpr ⟨hrest.keeps hid, hsubset⟩⟩

theorem growsTo_addModule
    {steps : Nat} (listed : List ScopeId) (id : ScopeId) (h : table.unlisted listed < steps) :
    table.GrowsTo listed (table.addModule steps listed id) ∧
      id ∈ table.addModule steps listed id := by
  induction steps generalizing listed id with
  | zero => cases h
  | succ steps ih =>
      rw [addModule]
      split
      next hlisted => exact ⟨.refl table listed, hlisted⟩
      next hnew =>
        by_cases hhas : table.Has id
        · have hless := unlisted_append_lt hhas hnew
          obtain ⟨hgrows, hmodules⟩ := GrowsTo.foldl ih (table.includesOf id).reverse
            (Nat.lt_of_lt_of_le hless (Nat.le_of_lt_succ h))
          exact hgrows.of_append fun _ hincluded => hmodules (List.mem_reverse.mpr hincluded)
        · rw [includesOf_of_not_has hhas]
          apply (GrowsTo.refl table (listed ++ [id])).of_append
          rw [includesOf_of_not_has hhas]
          exact List.nil_subset _

theorem unlisted_lt (table : ScopeTable) (listed : List ScopeId) :
    table.unlisted listed < table.size + 1 :=
  Nat.lt_succ_of_le (unlisted_le table listed)

theorem growsTo_addScope (listed : List ScopeId) (id : ScopeId) :
    table.GrowsTo listed (table.addScope listed id) ∧ id ∈ table.addScope listed id := by
  obtain ⟨hgrows, hmodules⟩ := GrowsTo.foldl growsTo_addModule (table.includesOf id).reverse
    (unlisted_lt table (listed ++ [id]))
  exact hgrows.of_append fun _ hincluded => hmodules (List.mem_reverse.mpr hincluded)

theorem growsTo_ancestors (table : ScopeTable) (id : ScopeId) :
    table.GrowsTo [] (table.ancestors id) ∧ table.superclassChain id ⊆ table.ancestors id :=
  GrowsTo.foldl (fun listed id _ => growsTo_addScope listed id) (table.superclassChain id)
    (unlisted_lt table [])

theorem self_mem_superclassesFrom {steps : Nat} (hid : table.Has id) (h : id.index < steps) :
    id ∈ table.superclassesFrom steps (some id) := by
  cases steps with
  | zero => cases h
  | succ steps =>
      obtain ⟨definition, hget⟩ := get?_of_has hid
      rw [superclassesFrom_of_get? hget]
      exact List.mem_cons_self

/-- A superclass comes before its subclasses, so there are steps left for it. -/
theorem superclassesFrom_closed
    (hformed : table.WellFormed) {steps : Nat} (h : id.index < steps)
    (hother : other ∈ table.superclassesFrom steps (some id))
    (hsuper : table.superclassOf? other = some super) :
    super ∈ table.superclassesFrom steps (some id) := by
  induction steps generalizing id with
  | zero => cases h
  | succ steps ih =>
      cases hget : table.get? id with
      | none =>
          rw [superclassesFrom_of_get?_none hget] at hother
          cases hother
      | some definition =>
          rw [superclassesFrom_of_get? hget] at hother ⊢
          apply List.mem_cons_of_mem
          cases hsuperclass : definition.superclass with
          | none =>
              rw [hsuperclass, superclassesFrom_none] at hother
              rw [List.mem_singleton.mp hother, superclassOf?, hget, Option.bind_some,
                hsuperclass] at hsuper
              cases hsuper
          | some parent =>
              obtain ⟨hbefore, -, hparent⟩ :=
                hformed.superclass id definition parent hget hsuperclass
              have hleft : parent.index < steps := Nat.lt_of_lt_of_le hbefore (Nat.le_of_lt_succ h)
              rw [hsuperclass] at hother
              rcases List.mem_cons.mp hother with rfl | hlater
              · rw [superclassOf?, hget, Option.bind_some, hsuperclass] at hsuper
                cases hsuper
                exact self_mem_superclassesFrom (has_of_kind? hparent) hleft
              · exact ih hleft hlater

theorem kind?_of_superclassOf?
    (hformed : table.WellFormed) (h : table.superclassOf? sub = some super) :
    table.kind? sub = some .classScope ∧ table.kind? super = some .classScope := by
  obtain ⟨definition, hget, hsuperclass⟩ := Option.bind_eq_some_iff.mp h
  obtain ⟨-, hsub, hsuper⟩ := hformed.superclass sub definition super hget hsuperclass
  rw [kind?, hget, Option.map_some, hsub]
  exact ⟨rfl, hsuper⟩

/-- Only classes have superclasses, and the classes among the ancestors are the
superclasses, so the list is closed under extension. -/
theorem ancestors_closed
    (hformed : table.WellFormed) (hid : table.Has id) (h : other ∈ table.ancestors id)
    (hextends : table.Extends other super) : super ∈ table.ancestors id := by
  obtain ⟨hgrows, hchain⟩ := growsTo_ancestors table id
  cases hextends with
  | includes hincluded => exact hgrows.closes other h List.not_mem_nil hincluded
  | superclass hsuper =>
      rcases mem_ancestors hformed h with hother | hmodule
      · exact hchain (superclassesFrom_closed hformed hid hother hsuper)
      · rw [(kind?_of_superclassOf? hformed hsuper).1] at hmodule
        cases hmodule

theorem mem_ancestors_iff (hformed : table.WellFormed) (hid : table.Has id) :
    other ∈ table.ancestors id ↔ table.LeadsTo id other := by
  constructor
  · exact leadsTo_of_mem_ancestors
  · intro hleads
    induction hleads with
    | refl => exact (growsTo_ancestors table id).2 (self_mem_superclassesFrom hid hid)
    | tail _ hextends ih => exact ancestors_closed hformed hid ih hextends

/-! ### Subtypes and instances -/

theorem Extends.has (h : table.Extends sub super) : table.Has sub := by
  by_contra hnot
  cases h with
  | superclass hsuper =>
      rw [superclassOf?, get?_of_not_has hnot] at hsuper
      cases hsuper
  | includes hincluded =>
      rw [includesOf_of_not_has hnot] at hincluded
      cases hincluded

/-- A scope is a subtype of those that it leads to. -/
theorem isSubtype_iff (hformed : table.WellFormed) :
    table.isSubtype sub super = true ↔ table.LeadsTo sub super := by
  rw [isSubtype, Bool.or_eq_true, beq_iff_eq, List.contains_iff_mem]
  constructor
  · rintro (rfl | hancestor)
    · exact .refl
    · exact leadsTo_of_mem_ancestors hancestor
  · intro hleads
    rcases hleads.cases_head with rfl | ⟨_, hextends, -⟩
    · exact .inl rfl
    · exact .inr ((mem_ancestors_iff hformed hextends.has).mpr hleads)

theorem isInstanceOf_iff (hformed : table.WellFormed) {value : Value} :
    table.isInstanceOf value id = true ↔
      id ∈ table.singletonsOf value ∨ table.LeadsTo (table.classOf value) id := by
  rw [isInstanceOf, Bool.or_eq_true, List.contains_iff_mem, isSubtype_iff hformed]

/-- Whatever is not a class leads to modules only. -/
theorem LeadsTo.eq_or_module
    (hformed : table.WellFormed) (hsub : table.kind? sub ≠ some .classScope)
    (h : table.LeadsTo sub super) :
    super = sub ∨ table.kind? super = some .moduleScope := by
  induction h with
  | refl => exact .inl rfl
  | tail _ hextends ih =>
      right
      cases hextends with
      | includes hincluded => exact kind?_of_mem_includesOf hformed hincluded
      | superclass hsuper =>
          have hclass := (kind?_of_superclassOf? hformed hsuper).1
          rcases ih with rfl | hmodule
          · exact (hsub hclass).elim
          · rw [hclass] at hmodule
            cases hmodule

/-- The singletons of a value are not passed on, whatever they include. -/
theorem isInstanceOf_super_of_singleton
    (hformed : table.WellFormed) {value : Value} {attached : Attachment}
    (hsub : table.kind? sub = some (.singleton attached))
    (hvalue : table.isInstanceOf value sub = true) (hsuper : table.isSubtype sub super = true) :
    table.isInstanceOf value super = true ↔
      super = sub ∨ table.isSubtype (table.classOf value) super = true := by
  have hnoClass : table.kind? sub ≠ some .classScope := by
    rw [hsub]
    nofun
  constructor
  · intro hinstance
    rcases (isInstanceOf_iff hformed).mp hinstance with hsingleton | hleads
    · left
      rcases LeadsTo.eq_or_module hformed hnoClass ((isSubtype_iff hformed).mp hsuper) with
        hsame | hmodule
      · exact hsame
      · obtain ⟨other, hkind⟩ := kind?_of_mem_singletonsOf hformed hsingleton
        rw [hkind] at hmodule
        cases hmodule
    · exact .inr ((isSubtype_iff hformed).mpr hleads)
  · rintro (rfl | hclass)
    · exact hvalue
    · exact (isInstanceOf_iff hformed).mpr (.inr ((isSubtype_iff hformed).mp hclass))

theorem isInstanceOf_super
    (hformed : table.WellFormed) {value : Value}
    (hsub : ∀ attached, table.kind? sub ≠ some (.singleton attached))
    (hvalue : table.isInstanceOf value sub = true) (hsuper : table.isSubtype sub super = true) :
    table.isInstanceOf value super = true := by
  rcases (isInstanceOf_iff hformed).mp hvalue with hsingleton | hleads
  · obtain ⟨attached, hkind⟩ := kind?_of_mem_singletonsOf hformed hsingleton
    exact (hsub attached hkind).elim
  · exact (isInstanceOf_iff hformed).mpr (.inr (hleads.trans ((isSubtype_iff hformed).mp hsuper)))

end ScopeTable

namespace ObjectSpace

variable {space : ObjectSpace} {sub super : ScopeId}

theorem accepts_instanceOf
    (space : ObjectSpace) (type : TypeRef) (depth : Nat) (value : Value) :
    (Descriptor.instanceOf type).accepts space.environment depth value =
      space.scopes.isInstanceOf value type.id := by
  rw [Descriptor.accepts, environment]

/-- Instances of a class or module are instances of whatever it is, inherits
from or includes, and are accepted as such.  Instances of a singleton are
instances of its modules only if their class makes them so. -/
theorem instances_of_supertypes
    (hspace : space.IsReachable) (hsuper : space.scopes.isSubtype sub super = true)
    (value : Value) :
    ((∀ attached, space.scopes.kind? sub ≠ some (.singleton attached)) ∨ super = sub →
      (space.scopes.isInstanceOf value sub = true →
        space.scopes.isInstanceOf value super = true) ∧
      ∀ depth name superName,
        (Descriptor.instanceOf ⟨sub, name⟩).accepts space.environment depth value = true →
          (Descriptor.instanceOf ⟨super, superName⟩).accepts space.environment depth value =
            true) ∧
    ∀ attached, space.scopes.kind? sub = some (.singleton attached) →
      space.scopes.isInstanceOf value sub = true →
        (space.scopes.isInstanceOf value super = true ↔
          super = sub ∨
            space.scopes.isSubtype (space.scopes.classOf value) super = true) := by
  have hformed := hspace.wellScoped.formed
  refine ⟨?_, ?_⟩
  · intro hordinary
    have hinstance : space.scopes.isInstanceOf value sub = true →
        space.scopes.isInstanceOf value super = true := by
      intro hvalue
      rcases hordinary with hkind | rfl
      · exact ScopeTable.isInstanceOf_super hformed hkind hvalue hsuper
      · exact hvalue
    refine ⟨hinstance, ?_⟩
    intro depth name superName
    rw [accepts_instanceOf, accepts_instanceOf]
    exact hinstance
  · intro attached hkind hvalue
    exact ScopeTable.isInstanceOf_super_of_singleton hformed hkind hvalue hsuper

theorem instances_of_supertypes_for_nil :
    ∃ space : ObjectSpace, space.IsReachable ∧
      space.scopes.isInstanceOf .nil .nilClass = true ∧
        space.scopes.isSubtype .nilClass .kernel = true ∧
          space.scopes.isInstanceOf .nil .kernel = true := by
  let space := (ObjectSpace.initial ⟨0⟩ .standard []).withRegistry []
  have hspace : space.IsReachable := ⟨[.standard], [], 0, space, rfl, .refl⟩
  have hvalue : space.scopes.isInstanceOf .nil .nilClass = true := by decide +kernel
  have hsuper : space.scopes.isSubtype .nilClass .kernel = true := by decide +kernel
  have hkind : space.scopes.kind? .nilClass = some .classScope := by decide +kernel
  have hordinary : ∀ attached, space.scopes.kind? .nilClass ≠ some (.singleton attached) := by
    rw [hkind]
    nofun
  have hwidens := (instances_of_supertypes hspace hsuper .nil).1 (.inl hordinary)
  exact ⟨space, hspace, hvalue, hsuper, hwidens.1 hvalue⟩

/-- The singleton of a class may include a module of which the class itself is
no instance. -/
theorem modules_of_singletons_are_no_types :
    ¬ ∀ space : ObjectSpace, space.IsReachable → ∀ (value : Value) (sub super : ScopeId),
      space.scopes.Has sub → space.scopes.Has super →
        space.scopes.isInstanceOf value sub = true → space.scopes.isSubtype sub super = true →
          space.scopes.isInstanceOf value super = true := by
  intro hclosed
  let start := (ObjectSpace.initial ⟨0⟩ .standard []).withRegistry []
  let extended := (start.perform (.singleton (.scope .object))).2
  let space := (extended.perform (.includeModule ⟨17⟩ .comparable)).2
  have hreaches : start.Reaches space :=
    (start.perform_reaches _).trans (extended.perform_reaches _)
  have hspace : space.IsReachable := ⟨[.standard], [], 0, start, rfl, hreaches⟩
  have hscopes : space.scopes.Has ⟨17⟩ ∧ space.scopes.Has .comparable := by decide +kernel
  have hvalue : space.scopes.isInstanceOf (.scope .object) ⟨17⟩ = true := by decide +kernel
  have hsuper : space.scopes.isSubtype ⟨17⟩ .comparable = true := by decide +kernel
  have hinstance := hclosed space hspace _ _ _ hscopes.1 hscopes.2 hvalue hsuper
  have hnone : space.scopes.isInstanceOf (.scope .object) .comparable = false := by decide +kernel
  rw [hnone] at hinstance
  cases hinstance

end ObjectSpace

end CallContract
