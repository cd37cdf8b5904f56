import CallContract.Proofs.ScopeHierarchy
import Mathlib.Data.Finset.Card

/-!
# The order of ancestors

The steps that bound the search for ancestors are never used up: a superclass
comes before its subclasses, and each step inwards lists one more scope of the
table.  So a new scope that nothing mentions yet leaves the ancestors of the
others as they were, and only shows up itself.  No ancestor is listed twice,
because superclasses are classes and what is included is a module.
-/

namespace CallContract.ScopeTable

variable {table after : ScopeTable} {listed : List ScopeId} {id other ancestor : ScopeId}

/-! ### Superclasses -/

theorem superclassesFrom_none (table : ScopeTable) (steps : Nat) :
    table.superclassesFrom steps none = [] := by
  cases steps <;> rfl

theorem superclassesFrom_of_get?
    {definition : ScopeDefinition} (h : table.get? id = some definition) (steps : Nat) :
    table.superclassesFrom (steps + 1) (some id) =
      id :: table.superclassesFrom steps definition.superclass := by
  rw [superclassesFrom, h]

theorem superclassesFrom_of_get?_none (h : table.get? id = none) (steps : Nat) :
    table.superclassesFrom steps (some id) = [] := by
  cases steps with
  | zero => rfl
  | succ steps => rw [superclassesFrom, h]

theorem mem_superclassesFrom
    (hformed : table.WellFormed) {steps : Nat}
    (h : ancestor ∈ table.superclassesFrom steps (some id)) :
    table.Has ancestor ∧
      (ancestor = id ∨
        (ancestor.index < id.index ∧ table.kind? id = some .classScope ∧
          table.kind? ancestor = some .classScope)) := by
  induction steps generalizing id with
  | zero => cases h
  | succ steps ih =>
      cases hget : table.get? id with
      | none =>
          rw [superclassesFrom_of_get?_none hget] at h
          cases h
      | some definition =>
          rw [superclassesFrom_of_get? hget] at h
          rcases List.mem_cons.mp h with rfl | hlater
          · exact ⟨has_of_get? hget, .inl rfl⟩
          cases hsuperclass : definition.superclass with
          | none =>
              rw [hsuperclass, superclassesFrom_none] at hlater
              cases hlater
          | some parent =>
              rw [hsuperclass] at hlater
              obtain ⟨hbefore, hkind, hparent⟩ :=
                hformed.superclass id definition parent hget hsuperclass
              have hclass : table.kind? id = some .classScope := by
                rw [kind?, hget, Option.map_some, hkind]
              obtain ⟨hhas, hplace⟩ := ih hlater
              refine ⟨hhas, .inr ?_⟩
              rcases hplace with rfl | ⟨hearlier, -, hancestor⟩
              · exact ⟨hbefore, hclass, hparent⟩
              · exact ⟨hearlier.trans hbefore, hclass, hancestor⟩

/-- Every superclass comes before its subclasses and all of them are classes, so
a chain of more than one scope consists of classes. -/
theorem superclassesFrom_pairwise
    (hformed : table.WellFormed) (steps : Nat) (start : Option ScopeId) :
    (table.superclassesFrom steps start).Pairwise fun sub super =>
      super.index < sub.index ∧ table.kind? super = some .classScope := by
  induction steps generalizing start with
  | zero => exact List.Pairwise.nil
  | succ steps ih =>
      cases start with
      | none => exact List.Pairwise.nil
      | some id =>
          cases hget : table.get? id with
          | none =>
              rw [superclassesFrom_of_get?_none hget]
              exact List.Pairwise.nil
          | some definition =>
              rw [superclassesFrom_of_get? hget]
              refine List.Pairwise.cons ?_ (ih _)
              intro super hsuper
              have hchain : super ∈ table.superclassesFrom (steps + 1) (some id) := by
                rw [superclassesFrom_of_get? hget]
                exact List.mem_cons_of_mem _ hsuper
              cases hsuperclass : definition.superclass with
              | none =>
                  rw [hsuperclass, superclassesFrom_none] at hsuper
                  cases hsuper
              | some parent =>
                  rw [hsuperclass] at hsuper
                  obtain ⟨hbefore, -, hparent⟩ :=
                    hformed.superclass id definition parent hget hsuperclass
                  rcases (mem_superclassesFrom hformed hsuper).2 with
                    rfl | ⟨hearlier, -, hclass⟩
                  · exact ⟨hbefore, hparent⟩
                  · exact ⟨hearlier.trans hbefore, hclass⟩

theorem superclassChain_nodup (hformed : table.WellFormed) (id : ScopeId) :
    (table.superclassChain id).Nodup := by
  apply (superclassesFrom_pairwise hformed table.size (some id)).imp
  rintro sub super ⟨hbefore, -⟩ rfl
  exact Nat.lt_irrefl _ hbefore

/-- As many steps as come before a scope are enough for its superclasses. -/
theorem superclassesFrom_succ
    (hformed : table.WellFormed) {steps : Nat} (h : id.index < steps) :
    table.superclassesFrom (steps + 1) (some id) = table.superclassesFrom steps (some id) := by
  induction steps generalizing id with
  | zero => cases h
  | succ steps ih =>
      cases hget : table.get? id with
      | none =>
          rw [superclassesFrom_of_get?_none hget, superclassesFrom_of_get?_none hget]
      | some definition =>
          rw [superclassesFrom_of_get? hget, superclassesFrom_of_get? hget]
          congr 1
          cases hsuperclass : definition.superclass with
          | none => rw [superclassesFrom_none, superclassesFrom_none]
          | some parent =>
              have hbefore :=
                (hformed.superclass id definition parent hget hsuperclass).1
              exact ih (Nat.lt_of_lt_of_le hbefore (Nat.le_of_lt_succ h))

/-! ### Modules -/

theorem includesOf_of_not_has (h : ¬ table.Has id) : table.includesOf id = [] := by
  rw [includesOf, get?_of_not_has h]

theorem kind?_of_mem_includesOf (hformed : table.WellFormed) (h : other ∈ table.includesOf id) :
    table.kind? other = some .moduleScope := by
  unfold includesOf at h
  split at h
  next definition hget => exact hformed.includes id definition other hget h
  next => cases h

theorem isPrefix_foldl
    {add : List ScopeId → ScopeId → List ScopeId} (hadd : ∀ listed id, listed <+: add listed id)
    (listed ids : List ScopeId) : listed <+: ids.foldl add listed :=
  List.foldlRecOn ids add (List.prefix_refl listed)
    fun grown hgrown id _ => hgrown.trans (hadd grown id)

theorem isPrefix_addModule (table : ScopeTable) (steps : Nat) (listed : List ScopeId)
    (id : ScopeId) : listed <+: table.addModule steps listed id := by
  induction steps generalizing listed id with
  | zero => exact List.prefix_refl listed
  | succ steps ih =>
      rw [addModule]
      split
      next => exact List.prefix_refl listed
      next => exact (List.prefix_append listed [id]).trans (isPrefix_foldl ih (listed ++ [id]) _)

theorem isPrefix_addScope (table : ScopeTable) (listed : List ScopeId) (id : ScopeId) :
    listed ++ [id] <+: table.addScope listed id :=
  isPrefix_foldl (isPrefix_addModule table _) (listed ++ [id]) _

/-- The number of scopes of the table that are not listed. -/
def unlisted (table : ScopeTable) (listed : List ScopeId) : Nat :=
  ((Finset.range table.size).filter fun index => (⟨index⟩ : ScopeId) ∉ listed).card

theorem unlisted_le (table : ScopeTable) (listed : List ScopeId) :
    table.unlisted listed ≤ table.size := by
  have hcard := Finset.card_filter_le (Finset.range table.size)
    fun index => (⟨index⟩ : ScopeId) ∉ listed
  rwa [Finset.card_range] at hcard

theorem unlisted_anti {grown : List ScopeId} (h : listed ⊆ grown) :
    table.unlisted grown ≤ table.unlisted listed := by
  apply Finset.card_le_card
  intro index hindex
  rw [Finset.mem_filter] at hindex ⊢
  exact ⟨hindex.1, fun hlisted => hindex.2 (h hlisted)⟩

theorem unlisted_append_lt (hhas : table.Has id) (hnew : id ∉ listed) :
    table.unlisted (listed ++ [id]) < table.unlisted listed := by
  apply Finset.card_lt_card
  refine ⟨?_, ?_⟩
  · intro index hindex
    rw [Finset.mem_filter] at hindex ⊢
    exact ⟨hindex.1, fun hlisted => hindex.2 (List.mem_append_left _ hlisted)⟩
  · intro hsubset
    have hid : id.index ∈ (Finset.range table.size).filter fun index =>
        (⟨index⟩ : ScopeId) ∉ listed :=
      Finset.mem_filter.mpr ⟨Finset.mem_range.mpr hhas, hnew⟩
    have hgone := (Finset.mem_filter.mp (hsubset hid)).2
    exact hgone (List.mem_append_right _ (List.mem_singleton_self id))

theorem foldl_addModule_succ
    {steps : Nat}
    (hsteps : ∀ listed id, table.unlisted listed < steps →
      table.addModule (steps + 1) listed id = table.addModule steps listed id)
    (modules : List ScopeId) (h : table.unlisted listed < steps) :
    modules.foldl (table.addModule (steps + 1)) listed =
      modules.foldl (table.addModule steps) listed := by
  induction modules generalizing listed with
  | nil => rfl
  | cons id rest ih =>
      rw [List.foldl_cons, List.foldl_cons, hsteps listed id h]
      have hprefix := isPrefix_addModule table steps listed id
      exact ih (Nat.lt_of_le_of_lt (unlisted_anti hprefix.subset) h)

/-- More steps than there are scopes to list make no difference. -/
theorem addModule_succ
    {steps : Nat} (listed : List ScopeId) (id : ScopeId) (h : table.unlisted listed < steps) :
    table.addModule (steps + 1) listed id = table.addModule steps listed id := by
  induction steps generalizing listed id with
  | zero => cases h
  | succ steps ih =>
      rw [addModule, addModule]
      split
      next => rfl
      next hnew =>
        by_cases hhas : table.Has id
        · have hless := unlisted_append_lt hhas hnew
          exact foldl_addModule_succ ih _ (Nat.lt_of_lt_of_le hless (Nat.le_of_lt_succ h))
        · rw [includesOf_of_not_has hhas]
          rfl

/-- What is listed depends on what the scopes include that can be met. -/
theorem addModule_congr
    {holds : ScopeId → Prop}
    (hsame : ∀ id, holds id → after.includesOf id = table.includesOf id)
    (hincludes : ∀ id, holds id → ∀ included ∈ table.includesOf id, holds included)
    (steps : Nat) (listed : List ScopeId) {id : ScopeId} (hid : holds id) :
    after.addModule steps listed id = table.addModule steps listed id := by
  induction steps generalizing listed id with
  | zero => rfl
  | succ steps ih =>
      rw [addModule, addModule, hsame id hid]
      split
      next => rfl
      next =>
        apply List.foldl_ext
        intro grown included hincluded
        exact ih grown (hincludes id hid included (List.mem_reverse.mp hincluded))

/-! ### A new scope -/

section Push

variable (table) (name : String) (kind : ScopeKind)

theorem includesOf_push (id : ScopeId) :
    (table.push name kind none []).2.includesOf id = table.includesOf id := by
  have hfresh : ¬ table.Has ⟨table.size⟩ := Nat.lt_irrefl _
  by_cases hnew : id = ⟨table.size⟩
  · subst hnew
    rw [includesOf_of_not_has hfresh, includesOf, get?_push, if_pos rfl]
  · rw [includesOf, get?_push, if_neg hnew, includesOf]

theorem addScope_push (listed : List ScopeId) (id : ScopeId) :
    (table.push name kind none []).2.addScope listed id = table.addScope listed id := by
  have hmodules : ∀ steps, (table.push name kind none []).2.addModule steps =
      table.addModule steps := by
    intro steps
    funext listed id
    exact addModule_congr (fun id _ => includesOf_push table name kind id)
      (fun _ _ _ _ => trivial) steps listed trivial
  unfold addScope
  rw [includesOf_push, size_push, hmodules]
  apply foldl_addModule_succ addModule_succ
  exact Nat.lt_succ_of_le (unlisted_le table _)

variable {table}

theorem superclassesFrom_push
    (hformed : table.WellFormed) (hid : table.Has id) (steps : Nat) :
    (table.push name kind none []).2.superclassesFrom steps (some id) =
      table.superclassesFrom steps (some id) := by
  induction steps generalizing id with
  | zero => rfl
  | succ steps ih =>
      obtain ⟨definition, hget⟩ := get?_of_has hid
      have hafter : (table.push name kind none []).2.get? id = some definition := by
        rw [get?_push, if_neg hid.ne_new, hget]
      rw [superclassesFrom_of_get? hget, superclassesFrom_of_get? hafter]
      cases hsuperclass : definition.superclass with
      | none => rw [superclassesFrom_none, superclassesFrom_none]
      | some parent =>
          have hparent := (hformed.superclass id definition parent hget hsuperclass).2.2
          rw [ih (has_of_kind? hparent)]

theorem superclassChain_push (hformed : table.WellFormed) (hid : table.Has id) :
    (table.push name kind none []).2.superclassChain id = table.superclassChain id := by
  unfold superclassChain
  rw [superclassesFrom_push name kind hformed hid, size_push]
  exact superclassesFrom_succ hformed hid

theorem superclassChain_push_new :
    (table.push name kind none []).2.superclassChain ⟨table.size⟩ = [⟨table.size⟩] := by
  have hget : (table.push name kind none []).2.get? ⟨table.size⟩ =
      some ⟨⟨table.size⟩, name, kind, none, []⟩ := by
    rw [get?_push, if_pos rfl]
  unfold superclassChain
  rw [size_push, superclassesFrom_of_get? hget, superclassesFrom_none]

theorem superclassChain_of_not_has (hid : ¬ table.Has id) : table.superclassChain id = [] :=
  superclassesFrom_of_get?_none (get?_of_not_has hid) _

theorem not_has_push (hid : ¬ table.Has id) (hnew : id ≠ ⟨table.size⟩) :
    ¬ (table.push name kind none []).2.Has id := by
  have hindex : id.index ≠ table.size := fun hsame => hnew (congrArg ScopeId.mk hsame)
  unfold Has at hid ⊢
  rw [size_push]
  omega

theorem ancestors_push (hformed : table.WellFormed) (hid : table.Has id) :
    (table.push name kind none []).2.ancestors id = table.ancestors id := by
  have hscope : (table.push name kind none []).2.addScope = table.addScope := by
    funext listed id
    exact addScope_push table name kind listed id
  unfold ancestors
  rw [superclassChain_push name kind hformed hid, hscope]

theorem ancestors_push_new :
    (table.push name kind none []).2.ancestors ⟨table.size⟩ = [⟨table.size⟩] := by
  have hfresh : ¬ table.Has ⟨table.size⟩ := Nat.lt_irrefl _
  unfold ancestors
  rw [superclassChain_push_new, List.foldl_cons, List.foldl_nil, addScope, includesOf_push,
    includesOf_of_not_has hfresh]
  rfl

theorem ancestors_of_not_has (hid : ¬ table.Has id) : table.ancestors id = [] := by
  unfold ancestors
  rw [superclassChain_of_not_has hid]
  rfl

end Push

/-! ### What is listed -/

/-- What is listed in addition has every property that scopes hand on to the
modules that they include. -/
theorem mem_foldl_addModule
    {holds : ScopeId → Prop} {steps : Nat}
    (hsteps : ∀ listed id, holds id →
      ∀ other ∈ table.addModule steps listed id, other ∈ listed ∨ holds other)
    (listed : List ScopeId) {modules : List ScopeId} (hmodules : ∀ id ∈ modules, holds id) :
    ∀ other ∈ modules.foldl (table.addModule steps) listed, other ∈ listed ∨ holds other := by
  refine List.foldlRecOn (motive := fun grown => ∀ other ∈ grown, other ∈ listed ∨ holds other)
    modules (table.addModule steps) ?_ ?_
  · exact fun other hother => .inl hother
  · intro grown hgrown id hid other hother
    rcases hsteps grown id (hmodules id hid) other hother with hbefore | hlater
    · exact hgrown other hbefore
    · exact .inr hlater

theorem mem_addModule
    {holds : ScopeId → Prop}
    (hincludes : ∀ id, holds id → ∀ included ∈ table.includesOf id, holds included)
    (steps : Nat) (listed : List ScopeId) (id : ScopeId) (hid : holds id) :
    ∀ other ∈ table.addModule steps listed id, other ∈ listed ∨ holds other := by
  induction steps generalizing listed id with
  | zero => exact fun other hother => .inl hother
  | succ steps ih =>
      intro other hother
      rw [addModule] at hother
      split at hother
      next => exact .inl hother
      next =>
        have hmodules : ∀ included ∈ (table.includesOf id).reverse, holds included :=
          fun included hincluded => hincludes id hid included (List.mem_reverse.mp hincluded)
        rcases mem_foldl_addModule ih _ hmodules other hother with hbefore | hlater
        · rcases List.mem_append.mp hbefore with hlisted | hself
          · exact .inl hlisted
          · rw [List.mem_singleton.mp hself]
            exact .inr hid
        · exact .inr hlater

theorem mem_foldl_addScope
    {holds : ScopeId → Prop}
    (hincludes : ∀ id, holds id → ∀ included ∈ table.includesOf id, holds included)
    (listed : List ScopeId) {chain : List ScopeId} (hchain : ∀ id ∈ chain, holds id) :
    ∀ other ∈ chain.foldl table.addScope listed, other ∈ listed ∨ holds other := by
  refine List.foldlRecOn (motive := fun grown => ∀ other ∈ grown, other ∈ listed ∨ holds other)
    chain table.addScope ?_ ?_
  · exact fun other hother => .inl hother
  · intro grown hgrown id hid other hother
    have hmodules : ∀ included ∈ (table.includesOf id).reverse, holds included :=
      fun included hincluded =>
        hincludes id (hchain id hid) included (List.mem_reverse.mp hincluded)
    rcases mem_foldl_addModule (mem_addModule hincludes _) _ hmodules other hother with
      hbefore | hlater
    · rcases List.mem_append.mp hbefore with hgrownOther | hself
      · exact hgrown other hgrownOther
      · rw [List.mem_singleton.mp hself]
        exact .inr (hchain id hid)
    · exact .inr hlater

theorem mem_addScope
    (hformed : table.WellFormed) (listed : List ScopeId) (id : ScopeId)
    (h : other ∈ table.addScope listed id) :
    other ∈ listed ∨ other = id ∨ table.kind? other = some .moduleScope := by
  have hincludes : ∀ scope, scope = id ∨ table.kind? scope = some .moduleScope →
      ∀ included ∈ table.includesOf scope,
        included = id ∨ table.kind? included = some .moduleScope :=
    fun _ _ _ hincluded => .inr (kind?_of_mem_includesOf hformed hincluded)
  have hself : ∀ scope ∈ [id], scope = id ∨ table.kind? scope = some .moduleScope :=
    fun _ hscope => .inl (List.mem_singleton.mp hscope)
  exact mem_foldl_addScope hincludes listed hself other h

theorem mem_ancestors (hformed : table.WellFormed) (h : other ∈ table.ancestors id) :
    other ∈ table.superclassChain id ∨ table.kind? other = some .moduleScope := by
  have hincludes : ∀ scope,
      scope ∈ table.superclassChain id ∨ table.kind? scope = some .moduleScope →
        ∀ included ∈ table.includesOf scope,
          included ∈ table.superclassChain id ∨ table.kind? included = some .moduleScope :=
    fun _ _ _ hincluded => .inr (kind?_of_mem_includesOf hformed hincluded)
  have hchain : ∀ scope ∈ table.superclassChain id,
      scope ∈ table.superclassChain id ∨ table.kind? scope = some .moduleScope :=
    fun _ hscope => .inl hscope
  exact (mem_foldl_addScope hincludes [] hchain other h).resolve_left List.not_mem_nil

theorem has_of_mem_ancestors (hformed : table.WellFormed) (h : other ∈ table.ancestors id) :
    table.Has other := by
  rcases mem_ancestors hformed h with hchain | hmodule
  · exact (mem_superclassesFrom hformed hchain).1
  · exact has_of_kind? hmodule

/-! ### Nothing is listed twice -/

theorem nodup_addModule (steps : Nat) (hlisted : listed.Nodup) (id : ScopeId) :
    (table.addModule steps listed id).Nodup := by
  induction steps generalizing listed id with
  | zero => exact hlisted
  | succ steps ih =>
      rw [addModule]
      split
      next => exact hlisted
      next hnew =>
        exact List.foldlRecOn _ (table.addModule steps) (nodup_append_new hlisted hnew)
          fun grown hgrown included _ => ih hgrown included

theorem nodup_addScope (hlisted : listed.Nodup) (hnew : id ∉ listed) :
    (table.addScope listed id).Nodup :=
  List.foldlRecOn _ (table.addModule (table.size + 1)) (nodup_append_new hlisted hnew)
    fun _ hgrown included _ => nodup_addModule _ hgrown included

/-- The scopes listed before a superclass are its subclasses and modules, so the
superclass, which is a class, is not among them. -/
theorem nodup_foldl_addScope
    (hformed : table.WellFormed) (chain : List ScopeId) (hlisted : listed.Nodup)
    (hchain : chain.Pairwise fun sub super =>
      super.index < sub.index ∧ table.kind? super = some .classScope)
    (hdisjoint : ∀ id ∈ chain, id ∉ listed) :
    (chain.foldl table.addScope listed).Nodup := by
  induction chain generalizing listed with
  | nil => exact hlisted
  | cons id rest ih =>
      obtain ⟨hfirst, hrest⟩ := List.pairwise_cons.mp hchain
      rw [List.foldl_cons]
      apply ih (nodup_addScope hlisted (hdisjoint id List.mem_cons_self)) hrest
      intro super hsuper hlistedSuper
      obtain ⟨hbefore, hclass⟩ := hfirst super hsuper
      rcases mem_addScope hformed listed id hlistedSuper with hearlier | rfl | hmodule
      · exact hdisjoint super (List.mem_cons_of_mem _ hsuper) hearlier
      · exact Nat.lt_irrefl _ hbefore
      · rw [hclass] at hmodule
        cases hmodule

theorem ancestors_nodup (hformed : table.WellFormed) (id : ScopeId) :
    (table.ancestors id).Nodup :=
  nodup_foldl_addScope hformed _ List.nodup_nil
    (superclassesFrom_pairwise hformed table.size (some id)) fun _ _ hnone => nomatch hnone

/-! ### Singletons and the lookup chain -/

@[simp] theorem singletonsOf_object (table : ScopeTable) (reference : ObjectRef) :
    table.singletonsOf (.object reference) =
      (table.existingSingleton? (.object reference.id)).toList :=
  rfl

@[simp] theorem singletonsOf_scope (table : ScopeTable) (id : ScopeId) :
    table.singletonsOf (.scope id) =
      (table.superclassChain id).filterMap fun ancestor =>
        table.existingSingleton? (.scope ancestor) :=
  rfl

@[simp] theorem classOf_scope (table : ScopeTable) (id : ScopeId) :
    table.classOf (.scope id) =
      if (table.get? id).any fun definition => definition.kind == .classScope then .classClass
      else .moduleClass :=
  rfl

theorem kind?_of_existingSingleton?
    (hformed : table.WellFormed) {attached : Attachment}
    (h : table.existingSingleton? attached = some id) :
    table.kind? id = some (.singleton attached) :=
  (hformed.singleton attached id).mp h

/-- The new singleton is the only one that was not there before. -/
theorem existingSingleton?_push_of_old
    (hformed : table.WellFormed) (name : String) {attached : Attachment}
    (hunmade : table.existingSingleton? attached = none) (other : Attachment) :
    ((table.push name (.singleton attached) none []).2.existingSingleton? other).filter
        (· ≠ ⟨table.size⟩) = table.existingSingleton? other := by
  rw [existingSingleton?_push]
  split
  next hsame =>
    cases hsame
    rw [hunmade]
    simp
  next =>
    cases hold : table.existingSingleton? other with
    | some id =>
        have hid : id ≠ ⟨table.size⟩ :=
          (has_of_kind? (kind?_of_existingSingleton? hformed hold)).ne_new
        simp [hid]
    | none => rfl

theorem existingSingleton?_of_not_has (hformed : table.WellFormed) (hid : ¬ table.Has id) :
    table.existingSingleton? (.scope id) = none := by
  cases hold : table.existingSingleton? (.scope id) with
  | none => rfl
  | some singleton =>
      have hkind := kind?_of_existingSingleton? hformed hold
      exact (hid (hformed.attached singleton id hkind)).elim

section Singleton

variable (hformed : table.WellFormed) (name : String) {attached : Attachment}
  (hattached : ∀ scope, attached = .scope scope → table.Has scope)
  (hunmade : table.existingSingleton? attached = none)

include hformed

theorem ancestors_push_of_old (attached : Attachment) (id : ScopeId) :
    ((table.push name (.singleton attached) none []).2.ancestors id).filter
        (· ≠ ⟨table.size⟩) = table.ancestors id := by
  by_cases hid : table.Has id
  · rw [ancestors_push name _ hformed hid, List.filter_eq_self]
    intro other hother
    simpa using (has_of_mem_ancestors hformed hother).ne_new
  · rw [ancestors_of_not_has hid]
    by_cases hnew : id = ⟨table.size⟩
    · subst hnew
      rw [ancestors_push_new]
      simp
    · rw [ancestors_of_not_has (not_has_push name _ hid hnew), List.filter_nil]

include hattached hunmade

theorem singletonsOf_push_of_old (value : Value) :
    ((table.push name (.singleton attached) none []).2.singletonsOf value).filter
        (· ≠ ⟨table.size⟩) = table.singletonsOf value := by
  cases value with
  | object reference =>
      rw [singletonsOf_object, singletonsOf_object, ← Option.toList_filter,
        existingSingleton?_push_of_old hformed name hunmade]
  | scope id =>
      rw [singletonsOf_scope, singletonsOf_scope]
      by_cases hid : table.Has id
      · rw [superclassChain_push name _ hformed hid, List.filter_filterMap]
        simp only [existingSingleton?_push_of_old hformed name hunmade]
      · rw [superclassChain_of_not_has hid]
        by_cases hnew : id = ⟨table.size⟩
        · subst hnew
          have hother : ScopeKind.singleton attached ≠ .singleton (.scope ⟨table.size⟩) :=
            fun hsame => hid (hattached _ (ScopeKind.singleton.inj hsame))
          have hnone : (table.push name (.singleton attached) none []).2.existingSingleton?
              (.scope ⟨table.size⟩) = none := by
            rw [existingSingleton?_push, if_neg hother, existingSingleton?_of_not_has hformed hid]
          rw [superclassChain_push_new]
          simp only [List.filterMap_cons, hnone, List.filterMap_nil, List.filter_nil]
        · rw [superclassChain_of_not_has (not_has_push name _ hid hnew)]
          rfl
  | _ => rfl

omit hformed hattached hunmade in
theorem classOf_push (table : ScopeTable) (value : Value) :
    (table.push name (.singleton attached) none []).2.classOf value = table.classOf value := by
  cases value with
  | scope id =>
      have hfresh : ¬ table.Has ⟨table.size⟩ := Nat.lt_irrefl _
      rw [classOf_scope, classOf_scope]
      by_cases hnew : id = ⟨table.size⟩
      · subst hnew
        rw [get?_push, if_pos rfl, get?_of_not_has hfresh]
        rfl
      · rw [get?_push, if_neg hnew]
  | bool truth => cases truth <;> rfl
  | _ => rfl

theorem lookupChain_push_of_old (value : Value) :
    ((table.push name (.singleton attached) none []).2.lookupChain value).filter
        (· ≠ ⟨table.size⟩) = table.lookupChain value := by
  unfold lookupChain
  rw [List.filter_append, classOf_push, singletonsOf_push_of_old hformed name hattached hunmade,
    ancestors_push_of_old hformed name]

theorem isInstanceOf_push (value : Value) {scope : ScopeId} (hscope : scope ≠ ⟨table.size⟩) :
    (table.push name (.singleton attached) none []).2.isInstanceOf value scope =
      table.isInstanceOf value scope := by
  have hkept : ∀ chain : List ScopeId,
      (chain.filter (· ≠ ⟨table.size⟩)).contains scope = chain.contains scope := by
    intro chain
    simp [hscope]
  unfold isInstanceOf isSubtype
  rw [classOf_push, ← singletonsOf_push_of_old hformed name hattached hunmade,
    ← ancestors_push_of_old hformed name attached (table.classOf value), hkept, hkept]

end Singleton

theorem singletonsOf_nodup (hformed : table.WellFormed) (value : Value) :
    (table.singletonsOf value).Nodup := by
  cases value with
  | object reference =>
      rw [singletonsOf_object]
      cases table.existingSingleton? (.object reference.id) with
      | none => exact List.nodup_nil
      | some id => exact List.nodup_singleton id
  | scope id =>
      apply List.Nodup.filterMap _ (superclassChain_nodup hformed id)
      intro first second singleton hfirst hsecond
      have hkind := kind?_of_existingSingleton? hformed hfirst
      rw [kind?_of_existingSingleton? hformed hsecond] at hkind
      cases hkind
      rfl
  | _ => exact List.nodup_nil

theorem kind?_of_mem_singletonsOf
    (hformed : table.WellFormed) {value : Value} (h : id ∈ table.singletonsOf value) :
    ∃ attached, table.kind? id = some (.singleton attached) := by
  cases value with
  | object reference =>
      exact ⟨_, kind?_of_existingSingleton? hformed (Option.mem_toList.mp h)⟩
  | scope scope =>
      obtain ⟨ancestor, -, hsingleton⟩ := List.mem_filterMap.mp h
      exact ⟨_, kind?_of_existingSingleton? hformed hsingleton⟩
  | _ => cases h

/-- The ancestors of a class are classes and modules. -/
theorem kind?_of_mem_ancestors
    (hformed : table.WellFormed) (hclass : table.kind? id = some .classScope)
    (h : other ∈ table.ancestors id) :
    table.kind? other = some .classScope ∨ table.kind? other = some .moduleScope := by
  rcases mem_ancestors hformed h with hchain | hmodule
  · rcases (mem_superclassesFrom hformed hchain).2 with rfl | ⟨-, -, hother⟩
    · exact .inl hclass
    · exact .inl hother
  · exact .inr hmodule

/-- No scope is searched twice for a member of a value that has a class. -/
theorem lookupChain_nodup
    (hformed : table.WellFormed) {value : Value}
    (hclass : table.kind? (table.classOf value) = some .classScope) :
    (table.lookupChain value).Nodup := by
  apply List.nodup_append.mpr
  refine ⟨singletonsOf_nodup hformed value, ancestors_nodup hformed _, ?_⟩
  rintro singleton hsingleton other hother rfl
  obtain ⟨attached, hkind⟩ := kind?_of_mem_singletonsOf hformed hsingleton
  rcases kind?_of_mem_ancestors hformed hclass hother with hfound | hfound
  · rw [hkind] at hfound
    cases hfound
  · rw [hkind] at hfound
    cases hfound

end CallContract.ScopeTable
