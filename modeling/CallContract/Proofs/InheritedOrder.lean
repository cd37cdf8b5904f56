import CallContract.Proofs.AncestorSearch

/-!
# The order that is inherited

What a class lists before it turns to its superclass is complete: it has the
modules of each module in it.  The search behind it passes over these modules,
and whatever they would have led to is listed as well; so it lists the rest in
the order in which the superclass lists it for itself.  From each class on, the
ancestors of a subclass are therefore those of the class, in their order, up to
modules that were listed before.
-/

namespace CallContract.ScopeTable

variable {table : ScopeTable} {front back listed grown modules : List ScopeId}
  {start : Option ScopeId} {id sub super other : ScopeId}

/-- A list, and behind it what another one has in addition. -/
def followedBy (front listed : List ScopeId) : List ScopeId :=
  front ++ listed.filter (· ∉ front)

theorem mem_followedBy_iff : id ∈ followedBy front listed ↔ id ∈ front ∨ id ∈ listed := by
  by_cases hfront : id ∈ front <;> simp [followedBy, hfront]

theorem followedBy_append_of_mem (hid : id ∈ front) :
    (listed ++ [id]).filter (· ∉ front) = listed.filter (· ∉ front) := by
  simp [List.filter_append, hid]

theorem followedBy_append_of_not_mem (hid : id ∉ front) :
    followedBy front (listed ++ [id]) = followedBy front listed ++ [id] := by
  simp [followedBy, List.filter_append, hid]

/-! ### A search behind a list that has all its modules -/

/-- Modules of the list lead to nothing else. -/
theorem ListsModules.filter_eq
    (hrun : table.ListsModules modules listed grown)
    (hfront : ∀ id ∈ front, table.includesOf id ⊆ front) (hmodules : modules ⊆ front) :
    grown.filter (· ∉ front) = listed.filter (· ∉ front) := by
  induction hrun with
  | done => rfl
  | met _ _ ih => exact ih (List.cons_subset.mp hmodules).2
  | @new rest listed middle grown id _ _ _ ihnested ihrest =>
      obtain ⟨hid, hrest⟩ := List.cons_subset.mp hmodules
      have hnested : (table.includesOf id).reverse ⊆ front :=
        fun _ hincluded => hfront id hid (List.mem_reverse.mp hincluded)
      rw [ihrest hrest, ihnested hnested, followedBy_append_of_mem hid]

theorem ListsModules.followedBy
    (hrun : table.ListsModules modules listed grown)
    (hfront : ∀ id ∈ front, table.includesOf id ⊆ front) :
    table.ListsModules modules (followedBy front listed) (followedBy front grown) := by
  induction hrun with
  | done listed => exact .done _
  | met hmet _ ih => exact .met (mem_followedBy_iff.mpr (.inr hmet)) ih
  | @new rest listed middle grown id hnew hnested _ ihnested ihrest =>
      by_cases hid : id ∈ front
      · have hincluded : (table.includesOf id).reverse ⊆ front :=
          fun _ hincluded => hfront id hid (List.mem_reverse.mp hincluded)
        have hkept : ScopeTable.followedBy front middle = ScopeTable.followedBy front listed := by
          unfold ScopeTable.followedBy
          rw [hnested.filter_eq hfront hincluded, followedBy_append_of_mem hid]
        rw [hkept] at ihrest
        exact .met (mem_followedBy_iff.mpr (.inl hid)) ihrest
      · have hneither : id ∉ ScopeTable.followedBy front listed := by
          rw [mem_followedBy_iff]
          exact fun hlisted => hlisted.elim hid hnew
        rw [followedBy_append_of_not_mem hid] at ihnested
        exact .new hneither ihnested ihrest

/-- The classes in front come after the superclasses that are still to be searched. -/
theorem ListsUpwards.followedBy
    (hrun : table.ListsUpwards start listed grown) (hformed : table.WellFormed) {bound : Nat}
    (hfront : ∀ id ∈ front, table.includesOf id ⊆ front)
    (hclasses : ∀ id ∈ front, table.kind? id = some .classScope → bound ≤ id.index)
    (hstart : ∀ id, start = some id → table.kind? id = some .classScope ∧ id.index < bound) :
    table.ListsUpwards start (followedBy front listed) (followedBy front grown) := by
  induction hrun with
  | top listed => exact .top _
  | unknown hget listed => exact .unknown hget _
  | @scope id definition listed middle grown hget hmodules _ ih =>
      obtain ⟨hclass, hbefore⟩ := hstart id rfl
      have hnew : id ∉ front :=
        fun hid => Nat.not_lt_of_le (hclasses id hid hclass) hbefore
      have hlisted := hmodules.followedBy hfront
      rw [followedBy_append_of_not_mem hnew] at hlisted
      refine .scope hget hlisted (ih ?_)
      intro parent hparent
      obtain ⟨hearlier, -, hkind⟩ := hformed.superclass id definition parent hget hparent
      exact ⟨hkind, hearlier.trans hbefore⟩

/-! ### What a scope lists of its own -/

abbrev Includes (table : ScopeTable) (id included : ScopeId) : Prop :=
  included ∈ table.includesOf id

/-- A scope and the modules that it leads to by inclusion. -/
def ownScopes (table : ScopeTable) (id : ScopeId) : List ScopeId :=
  table.addScope [] id

theorem listsModules_ownScopes (table : ScopeTable) (id : ScopeId) :
    table.ListsModules (table.includesOf id).reverse [id] (table.ownScopes id) :=
  listsModules_addScope table [] id

theorem ownScopes_eq_cons (table : ScopeTable) (id : ScopeId) :
    ∃ modules, table.ownScopes id = id :: modules := by
  obtain ⟨modules, hmodules⟩ := isPrefix_addScope table [] id
  exact ⟨modules, hmodules.symm⟩

theorem ownScopes_closed (table : ScopeTable) (id : ScopeId) :
    ∀ other ∈ table.ownScopes id, table.includesOf other ⊆ table.ownScopes id :=
  fun other hother => (growsTo_addScope [] id).1.closes other hother List.not_mem_nil

theorem mem_ownScopes_iff :
    other ∈ table.ownScopes id ↔ Relation.ReflTransGen table.Includes id other := by
  constructor
  · intro hother
    have hself : ∀ scope ∈ [id], Relation.ReflTransGen table.Includes id scope := by
      intro scope hscope
      rw [List.mem_singleton.mp hscope]
    have hincludes : ∀ scope, Relation.ReflTransGen table.Includes id scope →
        ∀ included ∈ table.includesOf scope, Relation.ReflTransGen table.Includes id included :=
      fun _ hscope _ hincluded => hscope.tail hincluded
    exact (mem_foldl_addScope hincludes [] hself other hother).resolve_left List.not_mem_nil
  · intro hleads
    induction hleads with
    | refl => exact (growsTo_addScope [] id).2
    | tail _ hincluded ih => exact ownScopes_closed table id _ ih hincluded

theorem kind?_of_transGen_includes
    (hformed : table.WellFormed) (h : Relation.TransGen table.Includes id other) :
    table.kind? other = some .moduleScope := by
  obtain ⟨_, -, hincluded⟩ := Relation.TransGen.tail'_iff.mp h
  exact kind?_of_mem_includesOf hformed hincluded

/-- A class is no module, so it does not lead back to itself. -/
theorem mem_modules_iff
    (hformed : table.WellFormed) (hclass : table.kind? id = some .classScope)
    (hmodules : table.ownScopes id = id :: modules) :
    other ∈ modules ↔ Relation.TransGen table.Includes id other := by
  have hnodup : (table.ownScopes id).Nodup := nodup_addScope List.nodup_nil List.not_mem_nil
  have hmem : other ∈ table.ownScopes id ↔ Relation.ReflTransGen table.Includes id other :=
    mem_ownScopes_iff
  rw [hmodules] at hnodup hmem
  rw [List.mem_cons, Relation.reflTransGen_iff_eq_or_transGen] at hmem
  constructor
  · intro hother
    refine (hmem.mp (.inr hother)).resolve_left ?_
    rintro rfl
    exact (List.nodup_cons.mp hnodup).1 hother
  · intro hleads
    refine (hmem.mpr (.inr hleads)).resolve_left ?_
    rintro rfl
    rw [kind?_of_transGen_includes hformed hleads] at hclass
    cases hclass

/-- The ancestors of a class are what it lists of its own, and then those ancestors
of its superclass that are not listed yet. -/
theorem ancestors_eq_followedBy
    (hformed : table.WellFormed) (hsuper : table.superclassOf? sub = some super) :
    table.ancestors sub = followedBy (table.ownScopes sub) (table.ancestors super) := by
  obtain ⟨definition, hget, hparent⟩ := Option.bind_eq_some_iff.mp hsuper
  obtain ⟨hbefore, -, hclass⟩ := hformed.superclass sub definition super hget hparent
  have hclasses : ∀ id ∈ table.ownScopes sub, table.kind? id = some .classScope →
      sub.index ≤ id.index := by
    intro id hid hkind
    rcases Relation.reflTransGen_iff_eq_or_transGen.mp (mem_ownScopes_iff.mp hid) with rfl | hleads
    · exact Nat.le_refl _
    · rw [kind?_of_transGen_includes hformed hleads] at hkind
      cases hkind
  have hstart : ∀ id, some super = some id →
      table.kind? id = some .classScope ∧ id.index < sub.index := by
    rintro _ ⟨⟩
    exact ⟨hclass, hbefore⟩
  have habove := (listsUpwards_ancestors hformed (has_of_kind? hclass)).followedBy hformed
    (ownScopes_closed table sub) hclasses hstart
  have hself : table.ListsModules definition.includes.reverse ([] ++ [sub])
      (table.ownScopes sub) := by
    have hown := listsModules_ownScopes table sub
    rw [includesOf, hget] at hown
    exact hown
  have hempty : followedBy (table.ownScopes sub) [] = table.ownScopes sub := List.append_nil _
  rw [hempty, ← hparent] at habove
  exact (listsUpwards_ancestors hformed (has_of_get? hget)).unique (.scope hget hself habove)

/-! ### What follows a class -/

theorem exists_superclass_of_mem_superclassChain
    (h : super ∈ table.superclassChain sub) (hother : super ≠ sub) :
    ∃ parent, table.superclassOf? sub = some parent := by
  unfold superclassChain at h
  cases hget : table.get? sub with
  | none =>
      rw [superclassesFrom_of_get?_none hget] at h
      cases h
  | some definition =>
      obtain ⟨steps, hsteps⟩ :=
        Nat.exists_eq_add_one_of_ne_zero (Nat.ne_zero_of_lt (has_of_get? hget))
      rw [hsteps, superclassesFrom_of_get? hget] at h
      have hlater := (List.mem_cons.mp h).resolve_left hother
      cases hparent : definition.superclass with
      | none =>
          rw [hparent, superclassesFrom_none] at hlater
          cases hlater
      | some parent => exact ⟨parent, by rw [superclassOf?, hget, Option.bind_some, hparent]⟩

/-- What is found behind a list has been found in the other one, and what comes before
it there is in the list or comes before it here. -/
theorem exists_split_of_followedBy
    {before : List ScopeId} (hid : id ∉ front)
    (hsplit : followedBy front listed = before ++ id :: back) :
    ∃ earlier later, listed = earlier ++ id :: later ∧
      (∀ other, other ∈ before ↔ other ∈ front ∨ other ∈ earlier) ∧
        back = later.filter (· ∉ front) := by
  obtain ⟨passed, rfl, hrest⟩ : ∃ passed, before = front ++ passed ∧
      listed.filter (· ∉ front) = passed ++ id :: back := by
    rcases List.append_eq_append_iff.mp hsplit with ⟨passed, rfl, hrest⟩ | ⟨missing, hfront, hback⟩
    · exact ⟨passed, rfl, hrest⟩
    · cases missing with
      | nil => exact ⟨[], by simpa using hfront.symm, hback.symm⟩
      | cons first rest =>
          obtain ⟨rfl, -⟩ := List.cons.inj hback
          rw [hfront] at hid
          exact (hid (List.mem_append_right before List.mem_cons_self)).elim
  obtain ⟨first, rest, rfl, hfirst, hfound⟩ := List.filter_eq_append_iff.mp hrest
  obtain ⟨skipped, later, rfl, hskipped, -, hlater⟩ := List.filter_eq_cons_iff.mp hfound
  refine ⟨first ++ skipped, later, by rw [List.append_assoc], ?_, hlater.symm⟩
  intro other
  have hinFront : other ∈ skipped → other ∈ front := by
    intro hother
    have hnot := hskipped other hother
    rwa [decide_eq_true_eq, not_not] at hnot
  simp only [List.mem_append, ← hfirst, List.mem_filter, decide_eq_true_eq]
  tauto

/-- From a class on, the ancestors are those of the class in their order, but for
what was listed before it. -/
theorem ancestors_from_class
    (hformed : table.WellFormed) (hclass : table.kind? id = some .classScope)
    (hsplit : table.ancestors sub = front ++ id :: back) :
    id :: back = (table.ancestors id).filter (· ∉ front) := by
  induction hindex : sub.index using Nat.strong_induction_on generalizing sub front back with
  | _ index ih =>
      have hlisted : id ∈ table.ancestors sub := by
        rw [hsplit]
        exact List.mem_append_right front List.mem_cons_self
      by_cases hself : id = sub
      · subst hself
        have hnodup := ancestors_nodup hformed id
        obtain ⟨rest, hrest⟩ := ancestors_eq_cons (has_of_kind? hclass)
        have hfront : front = [] := by
          rw [hsplit] at hrest hnodup
          cases front with
          | nil => rfl
          | cons first others =>
              obtain ⟨rfl, -⟩ := List.cons.inj hrest
              exact ((List.nodup_append.mp hnodup).2.2 first List.mem_cons_self first
                List.mem_cons_self rfl).elim
        subst hfront
        simp [hsplit]
      · have hchain : id ∈ table.superclassChain sub := by
          refine (mem_ancestors hformed hlisted).resolve_right ?_
          rw [hclass]
          nofun
        obtain ⟨parent, hparent⟩ := exists_superclass_of_mem_superclassChain hchain hself
        have hnotOwn : id ∉ table.ownScopes sub := by
          rw [mem_ownScopes_iff, Relation.reflTransGen_iff_eq_or_transGen]
          rintro (hsame | hmodule)
          · exact hself hsame
          · rw [kind?_of_transGen_includes hformed hmodule] at hclass
            cases hclass
        rw [ancestors_eq_followedBy hformed hparent] at hsplit
        obtain ⟨earlier, later, hparentSplit, hfront, rfl⟩ :=
          exists_split_of_followedBy hnotOwn hsplit
        obtain ⟨definition, hget, hsuperclass⟩ := Option.bind_eq_some_iff.mp hparent
        have hbefore := (hformed.superclass sub definition parent hget hsuperclass).1
        have hinherited := ih parent.index (hindex ▸ hbefore) hparentSplit rfl
        have hkept : id :: later.filter (· ∉ table.ownScopes sub) =
            (id :: later).filter (· ∉ table.ownScopes sub) := by
          simp [hnotOwn]
        rw [hkept, hinherited, List.filter_filter]
        apply List.filter_congr
        intro other _
        simp [hfront]

/-- On every table that requests can build, a class lists itself and the modules that
it leads to by inclusion, each once and in the order in which a search meets them,
and then whatever else its superclass lists, in the order of the superclass.  So
what follows a class among any ancestors is what follows it among its own, in the
same order, but for modules that were moved to the front. -/
theorem linearization_follows_inheritance
    (requests : List Request) (hbuilt : initial.afterAll requests = table) :
    (∀ sub super, table.superclassOf? sub = some super →
      ∃ modules,
        (∀ listed, table.ListsModules (table.includesOf sub).reverse [sub] listed ↔
          listed = sub :: modules) ∧
        (sub :: modules).Nodup ∧
        (∀ other, other ∈ modules ↔ Relation.TransGen table.Includes sub other) ∧
        table.ancestors sub =
          (sub :: modules) ++ (table.ancestors super).filter (· ∉ sub :: modules)) ∧
      ∀ sub id front back, table.kind? id = some .classScope →
        table.ancestors sub = front ++ id :: back →
          id :: back = (table.ancestors id).filter (· ∉ front) ∧
            (∀ other ∈ back, other ∈ table.ancestors id) ∧ back.Sublist (table.ancestors id) := by
  have hformed : table.WellFormed := by
    rw [← hbuilt]
    exact initial_wellFormed.afterAll requests
  refine ⟨?_, ?_⟩
  · intro sub super hsuper
    obtain ⟨modules, hmodules⟩ := table.ownScopes_eq_cons sub
    have hnodup : (table.ownScopes sub).Nodup := nodup_addScope List.nodup_nil List.not_mem_nil
    have hancestors := ancestors_eq_followedBy hformed hsuper
    have hlists := table.listsModules_ownScopes sub
    rw [hmodules] at hnodup hancestors hlists
    refine ⟨modules, ?_, hnodup, ?_, hancestors⟩
    · intro listed
      constructor
      · exact fun hrun => hrun.unique hlists
      · rintro rfl
        exact hlists
    · exact fun other => mem_modules_iff hformed (kind?_of_superclassOf? hformed hsuper).1 hmodules
  · intro sub id front back hclass hsplit
    have hfrom := ancestors_from_class hformed hclass hsplit
    have hsublist : back.Sublist (table.ancestors id) := by
      have hwhole : (id :: back).Sublist (table.ancestors id) := by
        rw [hfrom]
        exact List.filter_sublist
      exact (List.sublist_cons_self id back).trans hwhole
    exact ⟨hfrom, fun _ hother => hsublist.subset hother, hsublist⟩

/-- Two modules that include each other; a class includes one of them, and its
subclass the other one and a third. -/
def crossingRequests : List Request :=
  [.defineModule "Loud", .defineModule "Proud", .includeModule ⟨17⟩ ⟨18⟩, .includeModule ⟨18⟩ ⟨17⟩,
    .defineModule "Quiet", .defineClass "Base" none, .includeModule ⟨20⟩ ⟨19⟩,
    .includeModule ⟨20⟩ ⟨17⟩, .defineClass "Derived" (some ⟨20⟩), .includeModule ⟨21⟩ ⟨18⟩]

theorem linearization_follows_inheritance_of_crossing_modules :
    (initial.afterAll crossingRequests).superclassOf? ⟨21⟩ = some ⟨20⟩ ∧
      (initial.afterAll crossingRequests).ancestors ⟨20⟩ =
        [⟨20⟩, ⟨17⟩, ⟨18⟩, ⟨19⟩, .object, .kernel, .basicObject] ∧
      (initial.afterAll crossingRequests).ListsModules [⟨18⟩] [⟨21⟩] [⟨21⟩, ⟨18⟩, ⟨17⟩] ∧
      (initial.afterAll crossingRequests).ancestors ⟨21⟩ =
        [⟨21⟩, ⟨18⟩, ⟨17⟩] ++ [⟨20⟩, ⟨19⟩, .object, .kernel, .basicObject] ∧
      [⟨20⟩, ⟨19⟩, .object, .kernel, .basicObject] =
        ((initial.afterAll crossingRequests).ancestors ⟨20⟩).filter (· ∉ [⟨21⟩, ⟨18⟩, ⟨17⟩]) := by
  obtain ⟨hown, hfrom⟩ := linearization_follows_inheritance crossingRequests rfl
  have hsuper : (initial.afterAll crossingRequests).superclassOf? ⟨21⟩ = some ⟨20⟩ := by
    decide +kernel
  have hsplit : (initial.afterAll crossingRequests).ancestors ⟨21⟩ =
      [⟨21⟩, ⟨18⟩, ⟨17⟩] ++ [⟨20⟩, ⟨19⟩, .object, .kernel, .basicObject] := by
    decide +kernel
  have hincludes : (initial.afterAll crossingRequests).includesOf ⟨21⟩ = [⟨18⟩] := by decide +kernel
  have hown21 : (initial.afterAll crossingRequests).ownScopes ⟨21⟩ = [⟨21⟩, ⟨18⟩, ⟨17⟩] := by
    decide +kernel
  have hruns := (initial.afterAll crossingRequests).listsModules_ownScopes ⟨21⟩
  obtain ⟨modules, hlists, -⟩ := hown ⟨21⟩ ⟨20⟩ hsuper
  rw [hown21] at hruns
  obtain ⟨-, rfl⟩ := List.cons.inj ((hlists _).mp hruns)
  have hrun := (hlists [⟨21⟩, ⟨18⟩, ⟨17⟩]).mpr rfl
  rw [hincludes] at hrun
  exact ⟨hsuper, by decide +kernel, hrun, hsplit,
    (hfrom ⟨21⟩ ⟨20⟩ _ _ (by decide +kernel) hsplit).1⟩

end CallContract.ScopeTable
