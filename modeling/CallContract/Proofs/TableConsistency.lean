import CallContract.Proofs.ScopeHierarchy

/-!
# Requests on the table of scopes

A table takes requests for classes, modules and singletons, and for modules to
be included.  Every edit writes last, so a request that is refused has written
nothing.  A request that is granted is one of the changes that keep a table well
formed.
-/

namespace CallContract.ScopeTable

/-! ### Requests -/

inductive Request
  | defineClass (name : String) (superclass : Option ScopeId)
  | defineModule (name : String)
  | includeModule (scope included : ScopeId)
  | singletonOf (attached : Attachment)

def Request.Answer : Request → Type
  | .includeModule .. => Unit
  | _ => ScopeId

def Request.edit : (request : Request) → Edit request.Answer
  | .defineClass name superclass => Edit.defineClass name superclass
  | .defineModule name => Edit.defineModule name
  | .includeModule scope included => Edit.includeModule scope included
  | .singletonOf attached => Edit.singletonOf attached

/-- The table after some requests, whether they are granted or refused. -/
def afterAll (table : ScopeTable) (requests : List Request) : ScopeTable :=
  requests.foldl (fun table request => (request.edit.run table).2) table

theorem Request.isAtomic (request : Request) : request.edit.IsAtomic := by
  cases request with
  | defineClass name superclass => exact Edit.defineClass_isAtomic name superclass
  | defineModule name => exact Edit.defineModule_isAtomic name
  | includeModule scope included => exact Edit.includeModule_isAtomic scope included
  | singletonOf attached => exact Edit.singletonOf_isAtomic attached

variable {table : ScopeTable}

theorem Request.change_of_commit
    {request : Request} {answer : request.Answer} {after : ScopeTable}
    (h : request.edit.commit table = .ok (answer, after)) : table.Change after := by
  cases request with
  | defineClass name superclass => exact .defineClass h
  | defineModule name => exact .defineModule h
  | includeModule scope included =>
      have hcommitted : table.includeModule scope included = .ok after :=
        bind_eq_ok_iff.mpr ⟨_, h, rfl⟩
      exact .includeModule hcommitted
  | singletonOf attached => exact .singletonOf h

theorem WellFormed.request (hformed : table.WellFormed) (request : Request) :
    (request.edit.run table).2.WellFormed := by
  rcases request.isAtomic.keeps_or_commits table with hkept | ⟨answer, hcommit⟩
  · rw [hkept]
    exact hformed
  · exact hformed.change (Request.change_of_commit hcommit)

theorem WellFormed.afterAll (hformed : table.WellFormed) (requests : List Request) :
    (table.afterAll requests).WellFormed := by
  induction requests generalizing table with
  | nil => exact hformed
  | cons request rest ih => exact ih (hformed.request request)

/-- Whatever has been requested of the table that all start with, it is well
formed, and a request that it refuses leaves it as it was. -/
theorem requests_keep_tables_consistent (requests : List Request) :
    (initial.afterAll requests).WellFormed ∧
      ∀ (request : Request) (error : ScopeError) (after : ScopeTable),
        request.edit.run (initial.afterAll requests) = (.error error, after) →
          after = initial.afterAll requests :=
  ⟨initial_wellFormed.afterAll requests, fun request error after hrefused =>
    request.isAtomic _ error after hrefused⟩

end CallContract.ScopeTable
