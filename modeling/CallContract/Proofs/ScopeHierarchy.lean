import CallContract.Proofs.Registrations

/-!
# The hierarchy of scopes

A table only ever grows: by a scope at its end, or by a module in the list of
one that includes it.  Superclasses are classes that were made before, what is
included is a module, and a singleton is made for a scope that is there.  What
is listed under a name is the class or module of that name, and what is listed
under an attachment is its singleton.  The members of a space belong to scopes
of its table, so a scope that is new has none.
-/

namespace CallContract

namespace ScopeTable

variable {table after : ScopeTable} {id : ScopeId} {kind : ScopeKind}

def kind? (table : ScopeTable) (id : ScopeId) : Option ScopeKind :=
  (table.get? id).map (·.kind)

/-- The scope is one of the table. -/
def Has (table : ScopeTable) (id : ScopeId) : Prop :=
  id.index < table.size

instance (table : ScopeTable) (id : ScopeId) : Decidable (table.Has id) :=
  inferInstanceAs (Decidable (id.index < table.size))

/-- Every scope is in its place, is below a class and includes modules, and is
listed under its name or its attachment and nowhere else. -/
structure WellFormed (table : ScopeTable) : Prop where
  id : ∀ id definition, table.get? id = some definition → definition.id = id
  superclass : ∀ id definition parent, table.get? id = some definition →
    definition.superclass = some parent →
      parent.index < id.index ∧ definition.kind = .classScope ∧
        table.kind? parent = some .classScope
  root : ∀ id definition, table.get? id = some definition → definition.kind = .classScope →
    definition.superclass = none → id = .basicObject
  includes : ∀ id definition included, table.get? id = some definition →
    included ∈ definition.includes → table.kind? included = some .moduleScope
  includedOnce : ∀ id definition, table.get? id = some definition → definition.includes.Nodup
  attached : ∀ id scope, table.kind? id = some (.singleton (.scope scope)) → table.Has scope
  named : ∀ name id, table.named? name = some id ↔
    ∃ definition, table.get? id = some definition ∧ definition.kind.isSingleton = false ∧
      definition.name = name
  singleton : ∀ attached id, table.existingSingleton? attached = some id ↔
    table.kind? id = some (.singleton attached)

/-! ### How tables grow -/

theorem has_of_get? {definition : ScopeDefinition} (h : table.get? id = some definition) :
    table.Has id :=
  (Array.getElem?_eq_some_iff.mp h).1

theorem get?_of_has (h : table.Has id) : ∃ definition, table.get? id = some definition :=
  ⟨_, Array.getElem?_eq_some_iff.mpr ⟨h, rfl⟩⟩

theorem get?_of_not_has (h : ¬ table.Has id) : table.get? id = none :=
  Array.getElem?_eq_none (Nat.le_of_not_lt h)

theorem Has.ne_new (h : table.Has id) : id ≠ ⟨table.size⟩ := by
  rintro rfl
  exact Nat.lt_irrefl _ h

theorem get?_of_kind? (h : table.kind? id = some kind) :
    ∃ definition, table.get? id = some definition ∧ definition.kind = kind :=
  Option.map_eq_some_iff.mp h

theorem has_of_kind? (h : table.kind? id = some kind) : table.Has id := by
  obtain ⟨definition, hget, -⟩ := get?_of_kind? h
  exact has_of_get? hget

theorem get?_push
    (table : ScopeTable) (name : String) (kind : ScopeKind) (superclass : Option ScopeId)
    (includes : List ScopeId) (id : ScopeId) :
    (table.push name kind superclass includes).2.get? id =
      if id = ⟨table.size⟩ then some ⟨⟨table.size⟩, name, kind, superclass, includes⟩
      else table.get? id := by
  obtain ⟨index⟩ := id
  simp only [push, get?, Array.getElem?_push, size, ScopeId.mk.injEq]

theorem named?_push
    (table : ScopeTable) (name : String) (kind : ScopeKind) (superclass : Option ScopeId)
    (includes : List ScopeId) (other : String) :
    (table.push name kind superclass includes).2.named? other =
      if kind.isSingleton = false ∧ name = other then some ⟨table.size⟩
      else table.named? other := by
  unfold named? push
  cases kind.isSingleton with
  | true => rfl
  | false =>
      change (table.names.put name _).get? other = _
      rw [Table.get?_put]
      simp only [true_and]

theorem existingSingleton?_push
    (table : ScopeTable) (name : String) (kind : ScopeKind) (superclass : Option ScopeId)
    (includes : List ScopeId) (other : Attachment) :
    (table.push name kind superclass includes).2.existingSingleton? other =
      if kind = .singleton other then some ⟨table.size⟩ else table.existingSingleton? other := by
  unfold existingSingleton? push
  cases kind with
  | singleton attached =>
      change (table.singletons.put attached _).get? other = _
      rw [Table.get?_put]
      simp only [ScopeKind.singleton.injEq]
  | classScope => rfl
  | moduleScope => rfl

theorem get?_update
    {scope : ScopeId} {old : ScopeDefinition} (h : table.get? scope = some old)
    (new : ScopeDefinition) (id : ScopeId) :
    (table.update scope new).get? id = if id = scope then some new else table.get? id := by
  obtain ⟨index⟩ := id
  have hbound : scope.index < table.definitions.size := has_of_get? h
  unfold get? update
  rw [Array.getElem?_setIfInBounds]
  by_cases hsame : scope.index = index
  · subst hsame
    rw [if_pos rfl, if_pos hbound, if_pos rfl]
  · have hother : (⟨index⟩ : ScopeId) ≠ scope := by
      rintro rfl
      exact hsame rfl
    rw [if_neg hsame, if_neg hother]

/-- What a new scope may be: a class exactly if it has a superclass, a singleton
only of what is there and with a mark before its name, and in either case nothing
that is there already. -/
structure Admits
    (table : ScopeTable)
    (name : String)
    (kind : ScopeKind)
    (superclass : Option ScopeId) : Prop where
  below : kind = .classScope → superclass.isSome
  superclass : ∀ parent, superclass = some parent →
    kind = .classScope ∧ table.kind? parent = some .classScope
  attached : ∀ scope, kind = .singleton (.scope scope) → table.Has scope
  unnamed : kind.isSingleton = false → table.named? name = none
  unmade : ∀ attached, kind = .singleton attached → table.existingSingleton? attached = none
  marked : ∀ attached, kind = .singleton attached → name.toList.head? = some '#'

theorem get?_of_find {definition : ScopeDefinition} (h : table.find id = .ok definition) :
    table.get? id = some definition := by
  unfold find at h
  cases hget : table.get? id with
  | none => simp [hget] at h
  | some found =>
      rw [hget] at h
      cases h
      rfl

theorem singletonName_has
    {attached : Attachment} {name : String} (h : table.singletonName attached = .ok name) :
    ∀ scope, attached = .scope scope → table.Has scope := by
  rintro scope rfl
  obtain ⟨definition, hfind, -⟩ := bind_eq_ok_iff.mp h
  exact has_of_get? (get?_of_find hfind)

theorem head?_singletonName
    {attached : Attachment} {name : String} (h : table.singletonName attached = .ok name) :
    name.toList.head? = some '#' := by
  cases attached with
  | scope id =>
      obtain ⟨definition, -, hname⟩ := bind_eq_ok_iff.mp h
      cases hname
      rw [String.toList_append, String.toList_append]
      rfl
  | object id =>
      cases h
      rw [String.toList_append, String.toList_append]
      rfl

/-- What a change can do to a table: nothing, a new scope without modules, or a
module more for one scope. -/
theorem Change.eq_or_push_or_update (h : table.Change after) :
    after = table ∨
    (∃ name kind superclass, table.Admits name kind superclass ∧
      after = (table.push name kind superclass []).2) ∨
    (∃ scope definition included, table.get? scope = some definition ∧
      table.kind? included = some .moduleScope ∧
      after = table.update scope (definition.including included)) := by
  have hnone : ∀ {name : String}, ¬ (table.named? name).isSome → table.named? name = none :=
    Option.not_isSome_iff_eq_none.mp
  cases h with
  | @defineClass name superclass id after h =>
      rw [defineClass_eq] at h
      split at h
      next => cases h
      next hunused =>
        obtain ⟨definition, hfind, hmade⟩ := bind_eq_ok_iff.mp h
        split at hmade
        next hclass =>
          cases hmade
          have hparent : ∀ parent, some (superclass.getD .object) = some parent →
              ScopeKind.classScope = .classScope ∧ table.kind? parent = some .classScope := by
            rintro _ ⟨⟩
            exact ⟨rfl, by rw [kind?, get?_of_find hfind, Option.map_some, hclass]⟩
          exact .inr (.inl ⟨name, .classScope, _,
            ⟨fun _ => rfl, hparent, nofun, fun _ => hnone hunused, nofun, nofun⟩, rfl⟩)
        next => cases hmade
  | @defineModule name id after h =>
      rw [defineModule_eq] at h
      split at h
      next => cases h
      next hunused =>
        cases h
        exact .inr (.inl ⟨name, .moduleScope, none,
          ⟨nofun, nofun, nofun, fun _ => hnone hunused, nofun, nofun⟩, rfl⟩)
  | @includeModule scope included after h =>
      rw [includeModule_eq] at h
      obtain ⟨moduleDefinition, hmodule, hrest⟩ := bind_eq_ok_iff.mp h
      split at hrest
      next hkind =>
        obtain ⟨definition, hfind, hmade⟩ := bind_eq_ok_iff.mp hrest
        cases hmade
        have hincluded : table.kind? included = some .moduleScope := by
          rw [kind?, get?_of_find hmodule, Option.map_some, hkind]
        exact .inr (.inr ⟨scope, definition, included, get?_of_find hfind, hincluded, rfl⟩)
      next => cases hrest
  | @singletonOf attached id after h =>
      rw [singletonOf_eq] at h
      split at h
      next =>
        cases h
        exact .inl rfl
      next hunmade =>
        obtain ⟨name, hname, hmade⟩ := bind_eq_ok_iff.mp h
        cases hmade
        have hattached : ∀ scope, ScopeKind.singleton attached = .singleton (.scope scope) →
            table.Has scope :=
          fun scope hkind => singletonName_has hname scope (ScopeKind.singleton.inj hkind)
        refine .inr (.inl ⟨name, .singleton attached, none,
          ⟨nofun, nofun, hattached, nofun, ?_, fun _ _ => head?_singletonName hname⟩, rfl⟩)
        rintro _ ⟨⟩
        exact hunmade

theorem ScopeDefinition.including_fields (definition : ScopeDefinition) (included : ScopeId) :
    (definition.including included).id = definition.id ∧
      (definition.including included).kind = definition.kind ∧
      (definition.including included).superclass = definition.superclass := by
  unfold ScopeDefinition.including
  split <;> exact ⟨rfl, rfl, rfl⟩

theorem kind?_push
    (table : ScopeTable) (name : String) (kind : ScopeKind) (superclass : Option ScopeId)
    (includes : List ScopeId) (id : ScopeId) :
    (table.push name kind superclass includes).2.kind? id =
      if id = ⟨table.size⟩ then some kind else table.kind? id := by
  unfold kind?
  rw [get?_push]
  split <;> rfl

theorem kind?_push_of_old
    (h : table.kind? id = some kind) (name : String) (newKind : ScopeKind)
    (superclass : Option ScopeId) (includes : List ScopeId) :
    (table.push name newKind superclass includes).2.kind? id = some kind := by
  rw [kind?_push, if_neg (has_of_kind? h).ne_new, h]

theorem size_push
    (table : ScopeTable) (name : String) (kind : ScopeKind) (superclass : Option ScopeId)
    (includes : List ScopeId) :
    (table.push name kind superclass includes).2.size = table.size + 1 :=
  Array.size_push _

theorem size_update (table : ScopeTable) (scope : ScopeId) (definition : ScopeDefinition) :
    (table.update scope definition).size = table.size :=
  Array.size_setIfInBounds

theorem Change.size_le (h : table.Change after) : table.size ≤ after.size := by
  rcases h.eq_or_push_or_update with
    rfl | ⟨name, newKind, superclass, -, rfl⟩ | ⟨scope, definition, included, -, -, rfl⟩
  · exact Nat.le_refl _
  · rw [size_push]
    exact Nat.le_succ _
  · exact Nat.le_of_eq (size_update ..).symm

theorem Change.has (hchange : table.Change after) (h : table.Has id) : after.Has id :=
  Nat.lt_of_lt_of_le h hchange.size_le

theorem kind?_including
    {scope : ScopeId} {definition : ScopeDefinition} (hscope : table.get? scope = some definition)
    (included : ScopeId) (id : ScopeId) :
    (table.update scope (definition.including included)).kind? id = table.kind? id := by
  unfold kind?
  rw [get?_update hscope]
  split
  next hsame =>
    rw [hsame, hscope, Option.map_some, Option.map_some,
      (ScopeDefinition.including_fields definition included).2.1]
  next => rfl

/-- The kind of a scope is fixed. -/
theorem Change.kind? (hchange : table.Change after) (h : table.kind? id = some kind) :
    after.kind? id = some kind := by
  rcases hchange.eq_or_push_or_update with
    rfl | ⟨name, newKind, superclass, -, rfl⟩ | ⟨scope, definition, included, hscope, -, rfl⟩
  · exact h
  · exact kind?_push_of_old h name newKind superclass []
  · rw [kind?_including hscope]
    exact h

/-- Names keep their meaning. -/
theorem Change.named?
    (hchange : table.Change after) {name : String} (h : table.named? name = some id) :
    after.named? name = some id := by
  rcases hchange.eq_or_push_or_update with
    rfl | ⟨newName, newKind, superclass, hadmits, rfl⟩ | ⟨scope, definition, included, -, -, rfl⟩
  · exact h
  · have hother : ¬ (newKind.isSingleton = false ∧ newName = name) := by
      rintro ⟨hkind, rfl⟩
      rw [hadmits.unnamed hkind] at h
      cases h
    rw [named?_push, if_neg hother, h]
  · exact h

theorem ScopeDefinition.including_name (definition : ScopeDefinition) (included : ScopeId) :
    (definition.including included).name = definition.name := by
  unfold ScopeDefinition.including
  split <;> rfl

theorem nodup_append_new {listed : List ScopeId} (hlisted : listed.Nodup) (hnew : id ∉ listed) :
    (listed ++ [id]).Nodup := by
  refine List.nodup_append.mpr ⟨hlisted, List.pairwise_singleton _ id, ?_⟩
  rintro other hother _ (_ | ⟨_, ⟨⟩⟩) rfl
  exact hnew hother

theorem WellFormed.push
    (hformed : table.WellFormed) (name : String) {kind : ScopeKind} {superclass : Option ScopeId}
    (hadmits : table.Admits name kind superclass) :
    (table.push name kind superclass []).2.WellFormed where
  id := by
    intro id definition hget
    rw [get?_push] at hget
    split at hget
    next hnew =>
      cases hget
      exact hnew.symm
    next => exact hformed.id id definition hget
  superclass := by
    intro id definition parent hget hparent
    rw [get?_push] at hget
    split at hget
    next hnew =>
      cases hget
      obtain ⟨hkind, hclass⟩ := hadmits.superclass parent hparent
      rw [hnew]
      exact ⟨has_of_kind? hclass, hkind, kind?_push_of_old hclass name kind superclass []⟩
    next =>
      obtain ⟨hbefore, hkind, hclass⟩ := hformed.superclass id definition parent hget hparent
      exact ⟨hbefore, hkind, kind?_push_of_old hclass name kind superclass []⟩
  root := by
    intro id definition hget hkind hsuperclass
    rw [get?_push] at hget
    split at hget
    next =>
      cases hget
      rw [show superclass = none from hsuperclass] at hadmits
      cases hadmits.below hkind
    next => exact hformed.root id definition hget hkind hsuperclass
  includes := by
    intro id definition included hget hincluded
    rw [get?_push] at hget
    split at hget
    next =>
      cases hget
      cases hincluded
    next =>
      exact kind?_push_of_old (hformed.includes id definition included hget hincluded) name kind
        superclass []
  includedOnce := by
    intro id definition hget
    rw [get?_push] at hget
    split at hget
    next =>
      cases hget
      exact List.nodup_nil
    next => exact hformed.includedOnce id definition hget
  attached := by
    intro id scope hkind
    have hscope : table.Has scope := by
      rw [kind?_push] at hkind
      split at hkind
      next => exact hadmits.attached scope (Option.some.inj hkind)
      next => exact hformed.attached id scope hkind
    unfold Has
    rw [size_push]
    exact Nat.lt_succ_of_lt hscope
  named := by
    intro other id
    rw [named?_push, get?_push]
    by_cases hnew : id = ⟨table.size⟩
    · subst hnew
      rw [if_pos rfl]
      constructor
      · intro hname
        split at hname
        next hsame => exact ⟨_, rfl, hsame⟩
        next =>
          obtain ⟨definition, hget, -⟩ := (hformed.named other _).mp hname
          exact absurd (has_of_get? hget) (Nat.lt_irrefl _)
      · rintro ⟨_, ⟨⟩, hsame⟩
        rw [if_pos hsame]
    · rw [if_neg hnew, ← hformed.named]
      split
      next hsame =>
        obtain ⟨hkind, rfl⟩ := hsame
        simp [hadmits.unnamed hkind, Ne.symm hnew]
      next => rfl
  singleton := by
    intro attached id
    rw [existingSingleton?_push, kind?_push]
    by_cases hnew : id = ⟨table.size⟩
    · subst hnew
      rw [if_pos rfl]
      constructor
      · intro hexisting
        split at hexisting
        next hsame => rw [hsame]
        next =>
          have hkind := (hformed.singleton attached _).mp hexisting
          exact absurd (has_of_kind? hkind) (Nat.lt_irrefl _)
      · intro hkind
        rw [if_pos (Option.some.inj hkind)]
    · rw [if_neg hnew, ← hformed.singleton]
      split
      next hsame => simp [hadmits.unmade attached hsame, Ne.symm hnew]
      next => rfl

theorem WellFormed.including
    (hformed : table.WellFormed) {scope included : ScopeId} {definition : ScopeDefinition}
    (hscope : table.get? scope = some definition)
    (hincluded : table.kind? included = some .moduleScope) :
    (table.update scope (definition.including included)).WellFormed where
  id := by
    intro id found hget
    rw [get?_update hscope] at hget
    split at hget
    next hsame =>
      cases hget
      rw [hsame, (ScopeDefinition.including_fields definition included).1]
      exact hformed.id scope definition hscope
    next => exact hformed.id id found hget
  superclass := by
    intro id found parent hget hparent
    rw [kind?_including hscope]
    rw [get?_update hscope] at hget
    obtain ⟨-, hkind, hsuperclass⟩ := ScopeDefinition.including_fields definition included
    split at hget
    next hsame =>
      cases hget
      rw [hsuperclass] at hparent
      rw [hkind, hsame]
      exact hformed.superclass scope definition parent hscope hparent
    next => exact hformed.superclass id found parent hget hparent
  root := by
    intro id found hget hclass hnone
    rw [get?_update hscope] at hget
    obtain ⟨-, hkind, hsuperclass⟩ := ScopeDefinition.including_fields definition included
    split at hget
    next hsame =>
      cases hget
      rw [hkind] at hclass
      rw [hsuperclass] at hnone
      rw [hsame]
      exact hformed.root scope definition hscope hclass hnone
    next => exact hformed.root id found hget hclass hnone
  includes := by
    intro id found other hget hother
    rw [kind?_including hscope]
    rw [get?_update hscope] at hget
    split at hget
    next =>
      cases hget
      unfold ScopeDefinition.including at hother
      split at hother
      next => exact hformed.includes scope definition other hscope hother
      next =>
        rcases List.mem_append.mp hother with hold | hnew
        · exact hformed.includes scope definition other hscope hold
        · rw [List.mem_singleton.mp hnew]
          exact hincluded
    next => exact hformed.includes id found other hget hother
  includedOnce := by
    intro id found hget
    rw [get?_update hscope] at hget
    split at hget
    next =>
      cases hget
      have hbefore := hformed.includedOnce scope definition hscope
      unfold ScopeDefinition.including
      split
      next => exact hbefore
      next hother => exact nodup_append_new hbefore hother
    next => exact hformed.includedOnce id found hget
  attached := by
    intro id other hkind
    rw [kind?_including hscope] at hkind
    unfold Has
    rw [size_update]
    exact hformed.attached id other hkind
  named := by
    intro name id
    obtain ⟨-, hkind, -⟩ := ScopeDefinition.including_fields definition included
    have hname := ScopeDefinition.including_name definition included
    have hkept := hformed.named name id
    rw [get?_update hscope]
    split
    next hsame =>
      rw [hsame, hscope] at hkept
      rw [hsame]
      simp only [Option.some.injEq, exists_eq_left', hkind, hname] at hkept ⊢
      exact hkept
    next => exact hkept
  singleton := by
    intro attached id
    rw [kind?_including hscope]
    exact hformed.singleton attached id

theorem WellFormed.change (hformed : table.WellFormed) (h : table.Change after) :
    after.WellFormed := by
  rcases h.eq_or_push_or_update with
    rfl | ⟨name, kind, superclass, hadmits, rfl⟩ |
      ⟨scope, definition, included, hscope, hincluded, rfl⟩
  · exact hformed
  · exact hformed.push name hadmits
  · exact hformed.including hscope hincluded

theorem attachedScope?_eq_some_iff {scope : ScopeId} (hformed : table.WellFormed) :
    table.attachedScope? id = some scope ↔
      table.existingSingleton? (.scope scope) = some id := by
  rw [hformed.singleton, attachedScope?, kind?]
  cases table.get? id with
  | none => exact iff_of_false nofun nofun
  | some definition =>
      obtain ⟨place, name, kind, superclass, includes⟩ := definition
      cases kind with
      | classScope => exact iff_of_false nofun nofun
      | moduleScope => exact iff_of_false nofun nofun
      | singleton attached =>
          cases attached with
          | object _ => exact iff_of_false nofun nofun
          | scope _ => simp

/-- The conditions on a class or module of a table that has no singletons. -/
def IsPlaced (table : ScopeTable) (id : ScopeId) (definition : ScopeDefinition) : Prop :=
  (definition.id = id ∧ definition.kind.isSingleton = false) ∧
    (∀ parent ∈ definition.superclass, parent.index < id.index ∧
      definition.kind = .classScope ∧ table.kind? parent = some .classScope) ∧
    (definition.kind = .classScope → definition.superclass = none → id = .basicObject) ∧
    (∀ included ∈ definition.includes, table.kind? included = some .moduleScope) ∧
    definition.includes.Nodup ∧ table.named? definition.name = some id

instance (table : ScopeTable) (id : ScopeId) (definition : ScopeDefinition) :
    Decidable (table.IsPlaced id definition) := by
  unfold IsPlaced
  infer_instance

theorem wellFormed_of_isPlaced
    (hplaced : ∀ index < table.size, ∀ definition ∈ table.get? ⟨index⟩,
      table.IsPlaced ⟨index⟩ definition)
    (hnames : ∀ entry ∈ table.names, (table.get? entry.2).map (·.name) = some entry.1)
    (hsingletons : table.singletons = []) : table.WellFormed := by
  have hall : ∀ id definition, table.get? id = some definition → table.IsPlaced id definition :=
    fun id definition hget => hplaced id.index (has_of_get? hget) definition hget
  have hplain : ∀ id attached, table.kind? id ≠ some (.singleton attached) := by
    intro id attached hkind
    obtain ⟨definition, hget, hsingleton⟩ := get?_of_kind? hkind
    obtain ⟨⟨-, hnot⟩, -⟩ := hall id definition hget
    rw [hsingleton] at hnot
    cases hnot
  exact
    { id := fun id definition hget => (hall id definition hget).1.1
      superclass := fun id definition parent hget hparent =>
        (hall id definition hget).2.1 parent hparent
      root := fun id definition hget => (hall id definition hget).2.2.1
      includes := fun id definition included hget =>
        (hall id definition hget).2.2.2.1 included
      includedOnce := fun id definition hget => (hall id definition hget).2.2.2.2.1
      attached := fun id scope hkind => absurd hkind (hplain id _)
      named := by
        intro name id
        constructor
        · intro hname
          obtain ⟨definition, hget, rfl⟩ :=
            Option.map_eq_some_iff.mp (hnames _ (Table.mem_of_get? hname))
          exact ⟨definition, hget, (hall id definition hget).1.2, rfl⟩
        · rintro ⟨definition, hget, -, rfl⟩
          exact (hall id definition hget).2.2.2.2.2
      singleton := by
        intro attached id
        unfold existingSingleton?
        rw [hsingletons]
        exact iff_of_false nofun (hplain id attached) }

theorem initial_wellFormed : initial.WellFormed :=
  wellFormed_of_isPlaced (by decide) (by decide) rfl

end ScopeTable

/-! ### Object spaces -/

namespace ObjectSpace

/-- The scopes of a space are well formed, the built-in ones are among them, and
members belong to the scopes that they are listed under. -/
structure WellScoped (space : ObjectSpace) : Prop where
  formed : space.scopes.WellFormed
  builtin : ∀ id kind, ScopeTable.initial.kind? id = some kind →
    space.scopes.kind? id = some kind
  owned : ∀ scope name member, space.ownMember? scope name = some member →
    member.definition.owner = scope ∧ space.scopes.Has scope

variable {space after : ObjectSpace}

theorem WellScoped.of_same
    (h : space.WellScoped) (hscopes : after.scopes = space.scopes)
    (hmembers : after.members = space.members) : after.WellScoped where
  formed := by
    rw [hscopes]
    exact h.formed
  builtin := by
    rw [hscopes]
    exact h.builtin
  owned := by
    intro scope name member hown
    unfold ownMember? at hown
    rw [hmembers] at hown
    rw [hscopes]
    exact h.owned scope name member hown

theorem WellScoped.putMember
    (h : space.WellScoped) {scope : ScopeId} {name : Symbol} {member : Member}
    (howner : member.definition.owner = scope) (hscope : space.scopes.Has scope) :
    { space with members := space.members.put ⟨scope, name⟩ member }.WellScoped where
  formed := h.formed
  builtin := h.builtin
  owned := by
    have hold : ∀ (key : MemberKey) (found : Member), space.members.get? key = some found →
        found.definition.owner = key.scope ∧ space.scopes.Has key.scope :=
      fun key => h.owned key.scope key.name
    have hnew : member.definition.owner = scope ∧ space.scopes.Has scope := ⟨howner, hscope⟩
    exact fun other otherName _ hown => Table.of_get?_put hold hnew hown

theorem consumePending_members (scope : ScopeId) (name : Symbol) :
    (space.consumePending scope name).members = space.members := by
  unfold consumePending
  split <;> rfl

/-- What a definition leaves of the members, whether it consumes an annotation or not. -/
theorem ownMember?_insertMember (member : Member) (scope : ScopeId) (name : Symbol) :
    ((space.insertMember member).consumePending member.definition.owner
      member.definition.name).ownMember? scope name =
        if member.definition.owner = scope ∧ member.definition.name = name then some member
        else space.ownMember? scope name := by
  unfold ownMember?
  rw [consumePending_members]
  change Table.get? (space.members.put _ member) ⟨scope, name⟩ = _
  rw [Table.get?_put]
  simp only [MemberKey.mk.injEq]

theorem WellScoped.change (h : space.WellScoped) (hchange : space.Change after) :
    after.WellScoped := by
  cases hchange with
  | scopes htable =>
      exact
        { formed := h.formed.change htable
          builtin := fun id kind hkind => htable.kind? (h.builtin id kind hkind)
          owned := fun scope name member hown =>
            ⟨(h.owned scope name member hown).1, htable.has (h.owned scope name member hown).2⟩ }
  | defineMember member hscope =>
      have hinserted : (space.insertMember member).WellScoped :=
        h.putMember rfl (ScopeTable.has_of_get? hscope)
      exact hinserted.of_same (consumePending_scopes _ _) (consumePending_members _ _)
  | setVisibility visibility hown =>
      obtain ⟨howner, hscope⟩ := h.owned _ _ _ hown
      exact h.putMember howner hscope
  | newObject => exact h.of_same rfl rfl
  | writeVariable => exact h.of_same rfl rfl
  | register => exact h.of_same rfl rfl
  | annotate => exact h.of_same rfl rfl
  | record => exact h.of_same rfl rfl
  | clearTrace => exact h.of_same rfl rfl

theorem WellScoped.insertMembers
    (h : space.WellScoped) (entries : List (ScopeId × String × Bool × Builtin))
    (hentries : ∀ entry ∈ entries, space.scopes.Has entry.1) :
    (entries.foldl (fun space entry => space.insertMember (Builtin.member entry))
      space).WellScoped := by
  induction entries generalizing space with
  | nil => exact h
  | cons entry rest ih =>
      have hentry := hentries entry List.mem_cons_self
      apply ih (h.putMember rfl hentry)
      exact fun later hlater => hentries later (List.mem_cons_of_mem _ hlater)

theorem initial_wellScoped (id : SpaceId) (settings : Settings) (registry : Registry) :
    (initial id settings registry).WellScoped := by
  have hbuiltin : ∀ entry ∈ Builtin.members, ScopeTable.initial.Has entry.1 := by decide
  apply WellScoped.insertMembers _ Builtin.members hbuiltin
  exact
    { formed := ScopeTable.initial_wellFormed
      builtin := fun _ _ hkind => hkind
      owned := fun _ _ _ hown => nomatch hown }

theorem IsReachable.wellScoped (h : space.IsReachable) : space.WellScoped :=
  h.induction (fun _ _ hspace hchange => hspace.change hchange)
    (fun _ _ hspace => hspace.of_same rfl rfl)
    (fun id settings => initial_wellScoped id settings [])

end ObjectSpace

end CallContract
