import CallContract.Proofs.Subtyping

/-!
# What follows a class

The ancestors of a scope are listed in one order for all its descendants, up to
modules that were met before.  What follows a class among the ancestors of a
subclass, or in the lookup chain of a receiver, therefore is an ancestor of the
class itself, whatever modules were listed before and however they include each
other.  A search that passes a class meets nothing behind it that the class does
not have as well.
-/

namespace CallContract.ScopeTable

variable {table : ScopeTable} {id sub other owner : ScopeId} {front back : List ScopeId}
  {receiver : Value}

theorem superclassesFrom_leadsTo (table : ScopeTable) (steps : Nat) (start : Option ScopeId) :
    (table.superclassesFrom steps start).Pairwise table.LeadsTo := by
  induction steps generalizing start with
  | zero => exact List.Pairwise.nil
  | succ steps ih =>
      cases start with
      | none => exact List.Pairwise.nil
      | some id =>
          cases hget : table.get? id with
          | none =>
              rw [superclassesFrom_of_get?_none hget]
              exact List.Pairwise.nil
          | some definition =>
              have hchain := superclassesFrom_of_get? hget steps
              rw [hchain]
              refine List.Pairwise.cons ?_ (ih _)
              intro super hsuper
              have hlisted : super ∈ table.superclassesFrom (steps + 1) (some id) := by
                rw [hchain]
                exact List.mem_cons_of_mem _ hsuper
              exact leadsTo_of_mem_superclassesFrom hlisted

theorem isPrefix_foldl_addScope (table : ScopeTable) (listed chain : List ScopeId) :
    listed <+: chain.foldl table.addScope listed := by
  apply isPrefix_foldl
  intro listed id
  exact (List.prefix_append listed [id]).trans (isPrefix_addScope table listed id)

theorem superclassChain_eq_cons (hid : table.Has id) :
    ∃ rest, table.superclassChain id = id :: rest := by
  obtain ⟨definition, hget⟩ := get?_of_has hid
  obtain ⟨steps, hsteps⟩ := Nat.exists_eq_add_one_of_ne_zero (Nat.ne_zero_of_lt hid)
  unfold superclassChain
  rw [hsteps, superclassesFrom_of_get? hget]
  exact ⟨_, rfl⟩

/-- A scope comes first among its ancestors. -/
theorem ancestors_eq_cons (hid : table.Has id) : ∃ rest, table.ancestors id = id :: rest := by
  obtain ⟨supers, hsupers⟩ := superclassChain_eq_cons hid
  have hself : [id] <+: table.ancestors id := by
    unfold ancestors
    rw [hsupers, List.foldl_cons]
    exact (isPrefix_addScope table [] id).trans (isPrefix_foldl_addScope table _ supers)
  obtain ⟨rest, hrest⟩ := hself
  exact ⟨rest, hrest.symm⟩

theorem self_mem_ancestors (hid : table.Has id) : id ∈ table.ancestors id := by
  obtain ⟨rest, hrest⟩ := ancestors_eq_cons hid
  rw [hrest]
  exact List.mem_cons_self

/-- What is listed before a class is listed for its subclasses, and from there on
all is listed for the class or for its superclasses. -/
theorem exists_listed_before
    (hformed : table.WellFormed) (hclass : table.kind? id = some .classScope)
    (hlisted : id ∈ table.ancestors sub) :
    ∃ earlier, earlier <+: table.ancestors sub ∧ id ∉ earlier ∧
      ∀ other ∈ table.ancestors sub, other ∈ earlier ∨ table.LeadsTo id other := by
  have hnoModule : table.kind? id ≠ some .moduleScope := by
    rw [hclass]
    nofun
  obtain ⟨before, rest, hchain⟩ :=
    List.append_of_mem ((mem_ancestors hformed hlisted).resolve_right hnoModule)
  have horder := superclassesFrom_pairwise hformed table.size (some sub)
  have hleads := superclassesFrom_leadsTo table table.size (some sub)
  change (table.superclassChain sub).Pairwise _ at horder hleads
  rw [hchain, List.pairwise_append] at horder hleads
  have hancestors : table.ancestors sub =
      (id :: rest).foldl table.addScope (before.foldl table.addScope []) := by
    unfold ancestors
    rw [hchain, List.foldl_append]
  rw [hancestors]
  refine ⟨before.foldl table.addScope [], isPrefix_foldl_addScope table _ _, ?_, ?_⟩
  · have hincludes : ∀ scope, scope ≠ id → ∀ included ∈ table.includesOf scope, included ≠ id := by
      rintro scope - included hincluded rfl
      exact hnoModule (kind?_of_mem_includesOf hformed hincluded)
    have hbefore : ∀ scope ∈ before, scope ≠ id := by
      rintro scope hscope rfl
      exact Nat.lt_irrefl _ (horder.2.2 scope hscope scope List.mem_cons_self).1
    intro hid
    exact ((mem_foldl_addScope hincludes [] hbefore id hid).resolve_left List.not_mem_nil) rfl
  · have hrest : ∀ scope ∈ id :: rest, table.LeadsTo id scope := by
      intro scope hscope
      rcases List.mem_cons.mp hscope with rfl | hlater
      · exact .refl
      · exact (List.pairwise_cons.mp hleads.2.1).1 scope hlater
    exact fun other hother => leadsTo_of_mem_foldl_addScope hrest hother

theorem mem_ancestors_of_follows
    (hformed : table.WellFormed) (hclass : table.kind? id = some .classScope)
    (hsplit : table.ancestors sub = front ++ id :: back) (hother : other ∈ back) :
    other ∈ table.ancestors id := by
  have hnodup := ancestors_nodup hformed sub
  have hlisted : ∀ scope ∈ id :: back, scope ∈ table.ancestors sub := by
    intro scope hscope
    rw [hsplit]
    exact List.mem_append_right front hscope
  obtain ⟨earlier, hearlier, hunlisted, hlater⟩ :=
    exists_listed_before hformed hclass (hlisted id List.mem_cons_self)
  rw [hsplit, List.append_cons] at hearlier hnodup
  -- Both are listed first, but only one of them has the class in it.
  have hshort : earlier <+: front ++ [id] := by
    rcases List.prefix_or_prefix_of_prefix hearlier (List.prefix_append _ back) with hshort | hlong
    · exact hshort
    · exact (hunlisted (hlong.subset (List.mem_append_right _ List.mem_cons_self))).elim
  have hnew : other ∉ earlier := fun hfound =>
    (List.nodup_append.mp hnodup).2.2 other (hshort.subset hfound) other hother rfl
  have hleads := (hlater other (hlisted other (List.mem_cons_of_mem _ hother))).resolve_left hnew
  exact (mem_ancestors_iff hformed (has_of_kind? hclass)).mpr hleads

/-- Singletons are no classes, so a class is passed among the ancestors of the
class of the receiver. -/
theorem mem_ancestors_of_follows_in_lookupChain
    (hformed : table.WellFormed) (hclass : table.kind? owner = some .classScope)
    (hsplit : table.lookupChain receiver = front ++ owner :: back) (hother : other ∈ back) :
    other ∈ table.ancestors owner := by
  have hnoSingleton : owner ∉ table.singletonsOf receiver := by
    intro hsingleton
    obtain ⟨attached, hkind⟩ := kind?_of_mem_singletonsOf hformed hsingleton
    rw [hclass] at hkind
    cases hkind
  rcases List.append_eq_append_iff.mp hsplit with ⟨passed, -, hancestors⟩ | ⟨later, hfront, hback⟩
  · exact mem_ancestors_of_follows hformed hclass hancestors hother
  · cases later with
    | nil =>
        have hancestors : table.ancestors (table.classOf receiver) = [] ++ owner :: back :=
          hback.symm
        exact mem_ancestors_of_follows hformed hclass hancestors hother
    | cons first rest =>
        obtain ⟨rfl, -⟩ := List.cons.inj hback
        rw [hfront] at hnoSingleton
        exact (hnoSingleton (List.mem_append_right _ List.mem_cons_self)).elim

/-- A scope that has a singleton looks for members there first. -/
theorem lookupChain_eq_cons
    (hformed : table.WellFormed) (hsingleton : table.existingSingleton? (.scope id) = some owner) :
    ∃ rest, table.lookupChain (.scope id) = owner :: rest := by
  have hkind := kind?_of_existingSingleton? hformed hsingleton
  obtain ⟨supers, hsupers⟩ := superclassChain_eq_cons (hformed.attached owner id hkind)
  unfold lookupChain
  rw [singletonsOf_scope, hsupers, List.filterMap_cons, hsingleton]
  exact ⟨_, rfl⟩

/-- No other object looks for members on the singleton of an object. -/
theorem not_mem_lookupChain_of_singleton
    (hformed : table.WellFormed) {reference : ObjectRef} {attached : Attachment}
    (hclass : table.kind? reference.ofClass = some .classScope)
    (hkind : table.kind? id = some (.singleton attached))
    (hother : attached ≠ .object reference.id) : id ∉ table.lookupChain (.object reference) := by
  intro hlisted
  rcases List.mem_append.mp hlisted with hsingleton | hancestor
  · have hown := kind?_of_existingSingleton? hformed (Option.mem_toList.mp hsingleton)
    rw [hkind] at hown
    cases hown
    exact hother rfl
  · rcases kind?_of_mem_ancestors hformed hclass hancestor with hfound | hfound
    · rw [hkind] at hfound
      cases hfound
    · rw [hkind] at hfound
      cases hfound

/-! ### A module more for a singleton -/

section Including

variable {scope : ScopeId} {definition : ScopeDefinition} {attached : Attachment}

theorem superclassesFrom_including
    (hscope : table.get? scope = some definition) (included : ScopeId) (steps : Nat)
    (start : Option ScopeId) :
    (table.update scope (definition.including included)).superclassesFrom steps start =
      table.superclassesFrom steps start := by
  induction steps generalizing start with
  | zero => rfl
  | succ steps ih =>
      cases start with
      | none => rfl
      | some id =>
          rw [superclassesFrom, superclassesFrom, get?_update hscope]
          by_cases hsame : id = scope
          · rw [if_pos hsame, hsame, hscope]
            simp only [ih, (ScopeDefinition.including_fields definition included).2.2]
          · rw [if_neg hsame]
            simp only [ih]

theorem includesOf_including
    (hscope : table.get? scope = some definition) (included : ScopeId) (hid : id ≠ scope) :
    (table.update scope (definition.including included)).includesOf id = table.includesOf id := by
  unfold includesOf
  rw [get?_update hscope, if_neg hid]

/-- A singleton is an ancestor of nothing but itself, so what it includes is no
matter for others. -/
theorem ancestors_including
    (hformed : table.WellFormed) (hscope : table.get? scope = some definition)
    (hkind : definition.kind = .singleton attached) (included : ScopeId) (hid : id ≠ scope) :
    (table.update scope (definition.including included)).ancestors id = table.ancestors id := by
  have hsingleton : table.kind? scope = some (.singleton attached) := by
    rw [kind?, hscope, Option.map_some, hkind]
  have hsame : ∀ other, other ≠ scope →
      (table.update scope (definition.including included)).includesOf other =
        table.includesOf other :=
    fun _ hother => includesOf_including hscope included hother
  have hincludes : ∀ other, other ≠ scope → ∀ met ∈ table.includesOf other, met ≠ scope := by
    rintro other - met hmet rfl
    rw [kind?_of_mem_includesOf hformed hmet] at hsingleton
    cases hsingleton
  unfold ancestors superclassChain
  rw [superclassesFrom_including hscope, size_update]
  apply List.foldl_ext
  intro listed super hsuper
  have hclass : super ≠ scope := by
    rintro rfl
    rcases (mem_superclassesFrom hformed hsuper).2 with hself | ⟨-, -, hclass⟩
    · exact hid hself.symm
    · rw [hclass] at hsingleton
      cases hsingleton
  unfold addScope
  rw [hsame super hclass, size_update]
  apply List.foldl_ext
  intro grown met hmet
  exact addModule_congr hsame hincludes _ grown
    (hincludes super hclass met (List.mem_reverse.mp hmet))

end Including

end CallContract.ScopeTable
