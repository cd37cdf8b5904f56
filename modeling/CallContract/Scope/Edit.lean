import CallContract.Scope.Table

/-!
# Edits of the table of scopes

A table is edited in place, and what an edit has written before an error stays
written.  Edits check everything before they write, so those that fail are not
committed: the table that was there stays in force.
-/

namespace CallContract

/-- Where state is changed in place, an error ends the sequence with the state
that it has come to. -/
theorem run_bind_in_place
    (first : ExceptT ε (StateM σ) α)
    (next : α → ExceptT ε (StateM σ) β)
    (state : σ) :
    (first >>= next).run state =
      match first.run state with
      | (.ok result, after) => (next result).run after
      | (.error error, after) => (.error error, after) := by
  simp only [ExceptT.run_bind]
  change (match (first.run state).1 with
    | .ok result => (next result).run
    | .error error => pure (.error error)) (first.run state).2 = _
  rcases first.run state with ⟨outcome, after⟩
  cases outcome <;> rfl

namespace ScopeTable

/-- An edit of a table in place, with a result or an error. -/
abbrev Edit (α : Type) : Type :=
  ExceptT ScopeError (StateM ScopeTable) α

namespace Edit

/-- Asks the table, which may refuse to answer. -/
def consult (question : ScopeTable → Except ScopeError α) : Edit α :=
  ExceptT.mk fun table => (question table, table)

def find (id : ScopeId) : Edit ScopeDefinition :=
  consult fun table => table.find id

def ensureUnused (name : String) : Edit Unit :=
  consult fun table =>
    if (table.named? name).isSome then .error (.duplicateName name) else .ok ()

def push (name : String) (kind : ScopeKind) (superclass : Option ScopeId) : Edit ScopeId :=
  modifyGet fun table => table.push name kind superclass []

/-- Defines a class, below `Object` if no superclass is given. -/
def defineClass (name : String) (superclass : Option ScopeId) : Edit ScopeId := do
  ensureUnused name
  let parent := superclass.getD .object
  let definition ← find parent
  if definition.kind = .classScope then push name .classScope (some parent)
  else throw (.superclassNotClass definition.name)

def defineModule (name : String) : Edit ScopeId := do
  ensureUnused name
  push name .moduleScope none

def includeModule (scope included : ScopeId) : Edit Unit := do
  let moduleDefinition ← find included
  if moduleDefinition.kind = .moduleScope then
    let definition ← find scope
    modify fun table => table.update scope (definition.including included)
  else throw (.notModule moduleDefinition.name)

/-- The singleton of an attachment, made on first use. -/
def singletonOf (attached : Attachment) : Edit ScopeId := do
  match ← consult fun table => .ok (table.existingSingleton? attached) with
  | some id => pure id
  | none =>
      let name ← consult fun table => table.singletonName attached
      push name (.singleton attached) none

/-- The result of an edit and the edited table, if it does not fail. -/
def commit (edit : Edit α) (table : ScopeTable) : Except ScopeError (α × ScopeTable) :=
  match edit.run table with
  | (.ok result, after) => .ok (result, after)
  | (.error error, _) => .error error

end Edit

variable (table : ScopeTable)

def defineClass
    (name : String)
    (superclass : Option ScopeId) : Except ScopeError (ScopeId × ScopeTable) :=
  (Edit.defineClass name superclass).commit table

def defineModule (name : String) : Except ScopeError (ScopeId × ScopeTable) :=
  (Edit.defineModule name).commit table

def includeModule (scope included : ScopeId) : Except ScopeError ScopeTable := do
  let ((), after) ← (Edit.includeModule scope included).commit table
  pure after

def singletonOf (attached : Attachment) : Except ScopeError (ScopeId × ScopeTable) :=
  (Edit.singletonOf attached).commit table

namespace Edit

theorem commit_bind (edit : Edit α) (next : α → Edit β) :
    (edit >>= next).commit table = (do
      let (result, after) ← edit.commit table
      (next result).commit after) := by
  unfold commit
  rw [run_bind_in_place]
  rcases edit.run table with ⟨outcome, after⟩
  cases outcome <;> rfl

theorem commit_consult_bind
    (question : ScopeTable → Except ScopeError α) (next : α → Edit β) :
    (consult question >>= next).commit table = (do
      let answer ← question table
      (next answer).commit table) := by
  rw [commit_bind]
  unfold commit consult
  rw [ExceptT.run_mk]
  cases question table <;> rfl

end Edit

theorem defineClass_eq (name : String) (superclass : Option ScopeId) :
    table.defineClass name superclass =
      (if (table.named? name).isSome then .error (.duplicateName name)
      else do
        let parent := superclass.getD .object
        let definition ← table.find parent
        if definition.kind = .classScope then
          pure (table.push name .classScope (some parent) [])
        else .error (.superclassNotClass definition.name)) := by
  unfold defineClass Edit.defineClass
  rw [Edit.ensureUnused, Edit.commit_consult_bind]
  split
  · rfl
  · change ((Edit.find _ >>= _).commit table) = _
    rw [Edit.find, Edit.commit_consult_bind]
    refine congrArg (table.find _ >>= ·) (funext fun definition => ?_)
    split <;> rfl

theorem defineModule_eq (name : String) :
    table.defineModule name =
      if (table.named? name).isSome then .error (.duplicateName name)
      else .ok (table.push name .moduleScope none []) := by
  unfold defineModule Edit.defineModule
  rw [Edit.ensureUnused, Edit.commit_consult_bind]
  split <;> rfl

theorem includeModule_eq (scope included : ScopeId) :
    table.includeModule scope included = (do
      let moduleDefinition ← table.find included
      if moduleDefinition.kind = .moduleScope then
        let definition ← table.find scope
        pure (table.update scope (definition.including included))
      else .error (.notModule moduleDefinition.name)) := by
  unfold includeModule Edit.includeModule
  rw [Edit.find, Edit.commit_consult_bind]
  cases table.find included with
  | error error => rfl
  | ok moduleDefinition =>
      change ((if _ then _ else _ : Edit Unit).commit table >>= _) = if _ then _ else _
      by_cases hkind : moduleDefinition.kind = .moduleScope
      · rw [if_pos hkind, if_pos hkind, Edit.find, Edit.commit_consult_bind]
        cases table.find scope <;> rfl
      · rw [if_neg hkind, if_neg hkind]
        rfl

theorem singletonOf_eq (attached : Attachment) :
    table.singletonOf attached =
      (match table.existingSingleton? attached with
      | some id => .ok (id, table)
      | none => do
          let name ← table.singletonName attached
          pure (table.push name (.singleton attached) none [])) := by
  unfold singletonOf Edit.singletonOf
  rw [Edit.commit_consult_bind]
  cases table.existingSingleton? attached with
  | some id => rfl
  | none => exact Edit.commit_consult_bind table _ _

/-! ### Edits that write last -/

namespace Edit

/-- Wherever the edit fails, it leaves the table as it was. -/
def IsAtomic (edit : Edit α) : Prop :=
  ∀ table error after, edit.run table = (.error error, after) → after = table

theorem isAtomic_pure (result : α) : IsAtomic (pure result) :=
  nofun

theorem isAtomic_throw (error : ScopeError) : IsAtomic (throw error : Edit α) := by
  rintro table _ _ ⟨⟩
  rfl

theorem isAtomic_push (name : String) (kind : ScopeKind) (superclass : Option ScopeId) :
    (push name kind superclass).IsAtomic :=
  nofun

theorem isAtomic_modify (write : ScopeTable → ScopeTable) : IsAtomic (modify write) :=
  nofun

/-- A question can come before an edit, since it writes nothing. -/
theorem IsAtomic.afterConsult
    (question : ScopeTable → Except ScopeError α) {next : α → Edit β}
    (hnext : ∀ answer, (next answer).IsAtomic) : (consult question >>= next).IsAtomic := by
  intro table error after hrun
  rw [run_bind_in_place] at hrun
  unfold consult at hrun
  rw [ExceptT.run_mk] at hrun
  cases hanswer : question table with
  | ok answer =>
      rw [hanswer] at hrun
      exact hnext answer table error after hrun
  | error refusal =>
      rw [hanswer] at hrun
      cases hrun
      rfl

theorem defineClass_isAtomic (name : String) (superclass : Option ScopeId) :
    (defineClass name superclass).IsAtomic := by
  apply IsAtomic.afterConsult
  intro unused
  apply IsAtomic.afterConsult
  intro definition
  split
  · exact isAtomic_push name .classScope _
  · exact isAtomic_throw _

theorem defineModule_isAtomic (name : String) : (defineModule name).IsAtomic :=
  .afterConsult _ fun _ => isAtomic_push name .moduleScope none

theorem includeModule_isAtomic (scope included : ScopeId) :
    (includeModule scope included).IsAtomic := by
  apply IsAtomic.afterConsult
  intro moduleDefinition
  split
  · exact .afterConsult _ fun definition => isAtomic_modify _
  · exact isAtomic_throw _

theorem singletonOf_isAtomic (attached : Attachment) : (singletonOf attached).IsAtomic := by
  apply IsAtomic.afterConsult
  intro existing
  cases existing with
  | some id => exact isAtomic_pure id
  | none => exact .afterConsult _ fun name => isAtomic_push name _ none

/-- An edit that writes last leaves the table as it was, or it can be committed. -/
theorem IsAtomic.keeps_or_commits {edit : Edit α} (h : edit.IsAtomic) (table : ScopeTable) :
    (edit.run table).2 = table ∨
      ∃ result, edit.commit table = .ok (result, (edit.run table).2) := by
  unfold commit
  rcases hrun : edit.run table with ⟨outcome, after⟩
  cases outcome with
  | ok result => exact .inr ⟨result, rfl⟩
  | error error => exact .inl (h table error after hrun)

end Edit

end ScopeTable

end CallContract
