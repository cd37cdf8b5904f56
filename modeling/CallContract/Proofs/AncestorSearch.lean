import CallContract.Proofs.AncestorOrder
import CallContract.Proofs.TableConsistency

/-!
# The search for ancestors

The search as such has no bound: it walks up the superclasses, and from every
module that it has not met it turns to the modules which that one includes, be it
in a circle.  Its runs are finite derivations, so a run that does not end has
none.  On every table that requests can build there is one run for each scope,
and it lists what the bounded search lists: the scope first, and then once each
whatever the scope leads to.
-/

namespace CallContract.ScopeTable

variable {table : ScopeTable} {modules listed middle grown : List ScopeId}
  {start : Option ScopeId} {id : ScopeId}

/-! ### Runs of the search -/

/-- A run through modules, from what is listed before to what is listed after. -/
inductive ListsModules (table : ScopeTable) :
    List ScopeId → List ScopeId → List ScopeId → Prop
  | done (listed : List ScopeId) : ListsModules table [] listed listed
  | met {rest listed grown : List ScopeId} {id : ScopeId} (hmet : id ∈ listed)
      (hrest : ListsModules table rest listed grown) :
      ListsModules table (id :: rest) listed grown
  | new {rest listed middle grown : List ScopeId} {id : ScopeId} (hnew : id ∉ listed)
      (hnested : ListsModules table (table.includesOf id).reverse (listed ++ [id]) middle)
      (hrest : ListsModules table rest middle grown) :
      ListsModules table (id :: rest) listed grown

/-- A run from a scope up its superclasses. -/
inductive ListsUpwards (table : ScopeTable) :
    Option ScopeId → List ScopeId → List ScopeId → Prop
  | top (listed : List ScopeId) : ListsUpwards table none listed listed
  | unknown {id : ScopeId} (hget : table.get? id = none) (listed : List ScopeId) :
      ListsUpwards table (some id) listed listed
  | scope {id : ScopeId} {definition : ScopeDefinition} {listed middle grown : List ScopeId}
      (hget : table.get? id = some definition)
      (hmodules : ListsModules table definition.includes.reverse (listed ++ [id]) middle)
      (hrest : ListsUpwards table definition.superclass middle grown) :
      ListsUpwards table (some id) listed grown

theorem ListsModules.unique
    {other : List ScopeId} (hrun : table.ListsModules modules listed grown)
    (hother : table.ListsModules modules listed other) : grown = other := by
  induction hrun generalizing other with
  | done =>
      cases hother
      rfl
  | met hmet _ ih =>
      cases hother with
      | met _ hrest => exact ih hrest
      | new hnew => exact (hnew hmet).elim
  | new hnew _ _ ihnested ihrest =>
      cases hother with
      | met hmet => exact (hnew hmet).elim
      | new _ hnested hrest =>
          obtain rfl := ihnested hnested
          exact ihrest hrest

theorem ListsUpwards.unique
    {other : List ScopeId} (hrun : table.ListsUpwards start listed grown)
    (hother : table.ListsUpwards start listed other) : grown = other := by
  induction hrun generalizing other with
  | top =>
      cases hother
      rfl
  | unknown hget =>
      cases hother with
      | unknown => rfl
      | scope hfound =>
          rw [hget] at hfound
          cases hfound
  | scope hget hmodules _ ih =>
      cases hother with
      | unknown hmissing =>
          rw [hget] at hmissing
          cases hmissing
      | scope hfound hothers hrest =>
          rw [hget] at hfound
          cases hfound
          obtain rfl := hmodules.unique hothers
          exact ih hrest

/-! ### The bounded search is a run -/

/-- The scopes that are not listed pay for the steps inwards: what is listed only
grows, so the modules behind one that was searched can be afforded as well. -/
theorem listsModules_foldl
    {steps : Nat}
    (hadd : ∀ {listed rest grown id}, table.unlisted listed < steps →
      table.ListsModules rest (table.addModule steps listed id) grown →
        table.ListsModules (id :: rest) listed grown)
    (modules : List ScopeId) (h : table.unlisted listed < steps) :
    table.ListsModules modules listed (modules.foldl (table.addModule steps) listed) := by
  induction modules generalizing listed with
  | nil => exact .done listed
  | cons id rest ih =>
      have hgrown := (isPrefix_addModule table steps listed id).subset
      exact hadd h (ih (Nat.lt_of_le_of_lt (unlisted_anti hgrown) h))

theorem listsModules_addModule
    {steps : Nat} {rest : List ScopeId} (h : table.unlisted listed < steps)
    (hrest : table.ListsModules rest (table.addModule steps listed id) grown) :
    table.ListsModules (id :: rest) listed grown := by
  induction steps generalizing listed rest grown id with
  | zero => cases h
  | succ steps ih =>
      rw [addModule] at hrest
      split at hrest
      next hmet => exact .met hmet hrest
      next hnew =>
        refine .new hnew ?_ hrest
        by_cases hhas : table.Has id
        · have hless := unlisted_append_lt hhas hnew
          exact listsModules_foldl ih _ (Nat.lt_of_lt_of_le hless (Nat.le_of_lt_succ h))
        · rw [includesOf_of_not_has hhas]
          exact .done _

theorem listsModules_addScope (table : ScopeTable) (listed : List ScopeId) (id : ScopeId) :
    table.ListsModules (table.includesOf id).reverse (listed ++ [id])
      (table.addScope listed id) :=
  listsModules_foldl listsModules_addModule _ (unlisted_lt table _)

/-- A superclass comes before its subclasses, so the walk upwards ends within as
many steps as come before its start. -/
theorem listsUpwards_foldl
    (hformed : table.WellFormed) {steps : Nat} (h : ∀ id, start = some id → id.index < steps) :
    table.ListsUpwards start listed
      ((table.superclassesFrom steps start).foldl table.addScope listed) := by
  induction steps generalizing start listed with
  | zero =>
      cases start with
      | none => exact .top listed
      | some id => exact absurd (h id rfl) (Nat.not_lt_zero _)
  | succ steps ih =>
      cases start with
      | none => exact .top listed
      | some id =>
          cases hget : table.get? id with
          | none =>
              rw [superclassesFrom_of_get?_none hget]
              exact .unknown hget listed
          | some definition =>
              rw [superclassesFrom_of_get? hget, List.foldl_cons]
              have hmodules := listsModules_addScope table listed id
              rw [includesOf, hget] at hmodules
              refine .scope hget hmodules (ih ?_)
              intro parent hsuperclass
              have hbefore := (hformed.superclass id definition parent hget hsuperclass).1
              exact Nat.lt_of_lt_of_le hbefore (Nat.le_of_lt_succ (h id rfl))

theorem listsUpwards_ancestors (hformed : table.WellFormed) (hid : table.Has id) :
    table.ListsUpwards (some id) [] (table.ancestors id) := by
  apply listsUpwards_foldl hformed
  rintro _ ⟨⟩
  exact hid

theorem listsUpwards_iff (hformed : table.WellFormed) (hid : table.Has id) :
    table.ListsUpwards (some id) [] listed ↔ listed = table.ancestors id := by
  constructor
  · intro hrun
    exact hrun.unique (listsUpwards_ancestors hformed hid)
  · rintro rfl
    exact listsUpwards_ancestors hformed hid

/-- On every table that requests can build, the search for the ancestors of a
scope ends, with the scope first and with each scope that it leads to once.  So
subtyping is reflexive and transitive. -/
theorem ancestors_are_what_is_led_to
    (requests : List Request) (hbuilt : initial.afterAll requests = table) :
    (∀ id, table.Has id →
      (∀ listed, table.ListsUpwards (some id) [] listed ↔ listed = table.ancestors id) ∧
        (∃ rest, table.ancestors id = id :: rest) ∧ (table.ancestors id).Nodup ∧
          ∀ other, other ∈ table.ancestors id ↔ table.LeadsTo id other) ∧
      (∀ id, table.isSubtype id id = true) ∧
        ∀ sub middle super, table.isSubtype sub middle = true →
          table.isSubtype middle super = true → table.isSubtype sub super = true := by
  have hformed : table.WellFormed := by
    rw [← hbuilt]
    exact initial_wellFormed.afterAll requests
  refine ⟨?_, fun id => (isSubtype_iff hformed).mpr .refl, ?_⟩
  · intro id hid
    exact ⟨fun _ => listsUpwards_iff hformed hid, ancestors_eq_cons hid, ancestors_nodup hformed id,
      fun _ => mem_ancestors_iff hformed hid⟩
  · intro sub middle super hsub hmiddle
    rw [isSubtype_iff hformed] at hsub hmiddle ⊢
    exact hsub.trans hmiddle

/-- Two modules that include each other, and the first of them itself, under a
class that includes the second. -/
def circularRequests : List Request :=
  [.defineModule "Even", .defineModule "Odd", .includeModule ⟨17⟩ ⟨18⟩, .includeModule ⟨18⟩ ⟨17⟩,
    .includeModule ⟨17⟩ ⟨17⟩, .defineClass "Parity" none, .includeModule ⟨19⟩ ⟨18⟩]

theorem ancestors_are_what_is_led_to_in_a_circle :
    (initial.afterAll circularRequests).includesOf ⟨17⟩ = [⟨18⟩, ⟨17⟩] ∧
      (initial.afterAll circularRequests).includesOf ⟨18⟩ = [⟨17⟩] ∧
        (initial.afterAll circularRequests).ListsUpwards (some ⟨19⟩) []
            [⟨19⟩, ⟨18⟩, ⟨17⟩, .object, .kernel, .basicObject] ∧
          (initial.afterAll circularRequests).LeadsTo ⟨17⟩ ⟨18⟩ ∧
            (initial.afterAll circularRequests).isSubtype ⟨19⟩ ⟨17⟩ = true := by
  obtain ⟨hancestors, -, htrans⟩ := ancestors_are_what_is_led_to circularRequests rfl
  obtain ⟨hends, -, -, -⟩ := hancestors ⟨19⟩ (by decide +kernel)
  obtain ⟨-, -, -, hmem⟩ := hancestors ⟨17⟩ (by decide +kernel)
  exact ⟨by decide +kernel, by decide +kernel, (hends _).mpr (by decide +kernel),
    (hmem _).mp (by decide +kernel),
    htrans ⟨19⟩ ⟨18⟩ ⟨17⟩ (by decide +kernel) (by decide +kernel)⟩

end CallContract.ScopeTable
