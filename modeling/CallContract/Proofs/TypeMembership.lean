import CallContract.Proofs.AncestorOrder
import CallContract.Proofs.AppliedContracts
import CallContract.Proofs.CallDecision
import CallContract.Proofs.DeclarationOrder

/-!
# Types of a value and scopes that are searched for its members

The test whether a value is an instance of a scope asks for one singleton after
the other and then for a subtype of the class, which the class itself is at once.
The search for members lists scopes instead.  Both meet the same scopes, and so a
value is an instance of whatever owns a member that is found for it: a body may
call the protected members of its own receiver as if it sent for them.
-/

namespace CallContract

namespace ScopeTable

variable {table : ScopeTable} {value : Value} {scope : ScopeId}

/-- Whether a scope is met among the singletons of a value, which are asked for
one after the other. -/
def meetsSingleton (table : ScopeTable) : Value → ScopeId → Bool
  | .object reference, scope => table.existingSingleton? (.object reference.id) == some scope
  | .scope id, scope =>
      (table.superclassChain id).any fun ancestor =>
        table.existingSingleton? (.scope ancestor) == some scope
  | _, _ => false

theorem meetsSingleton_iff :
    table.meetsSingleton value scope = true ↔ scope ∈ table.singletonsOf value := by
  cases value with
  | object reference =>
      rw [meetsSingleton, beq_iff_eq]
      exact Option.mem_toList.symm
  | scope id => simp [meetsSingleton, List.mem_filterMap]
  | _ => exact iff_of_false Bool.false_ne_true List.not_mem_nil

theorem isInstanceOf_eq_meets (table : ScopeTable) (value : Value) (scope : ScopeId) :
    table.isInstanceOf value scope =
      (table.meetsSingleton value scope || table.isSubtype (table.classOf value) scope) := by
  have hmeets : table.meetsSingleton value scope = (table.singletonsOf value).contains scope := by
    rw [Bool.eq_iff_iff, meetsSingleton_iff, List.contains_iff_mem]
  rw [hmeets, isInstanceOf]

/-- A class is met by the search as well as by the test, since it comes first
among its own ancestors. -/
theorem isInstanceOf_iff_mem_lookupChain (hclass : table.Has (table.classOf value)) :
    table.isInstanceOf value scope = true ↔ scope ∈ table.lookupChain value := by
  have hsubtype : table.isSubtype (table.classOf value) scope = true ↔
      scope ∈ table.ancestors (table.classOf value) := by
    rw [isSubtype, Bool.or_eq_true, beq_iff_eq, List.contains_iff_mem]
    constructor
    · rintro (rfl | hancestor)
      · exact self_mem_ancestors hclass
      · exact hancestor
    · exact .inr
  rw [isInstanceOf_eq_meets, Bool.or_eq_true, meetsSingleton_iff, hsubtype]
  exact List.mem_append.symm

theorem has_of_mem_lookupChain (hformed : table.WellFormed) (h : scope ∈ table.lookupChain value) :
    table.Has scope := by
  rcases List.mem_append.mp h with hsingleton | hancestor
  · obtain ⟨attached, hkind⟩ := kind?_of_mem_singletonsOf hformed hsingleton
    exact has_of_kind? hkind
  · exact has_of_mem_ancestors hformed hancestor

end ScopeTable

namespace ObjectSpace

variable {space : ObjectSpace} {value : Value} {name : Symbol} {found : Resolution}

theorem WellScoped.owner_mem_lookupChain
    (h : space.WellScoped) (hfound : space.resolve? value name = some found) :
    found.member.definition.owner ∈ space.scopes.lookupChain value := by
  obtain ⟨member, checkers⟩ := found
  obtain ⟨_, hfinds, -⟩ := resolve?_eq_some_iff.mp hfound
  obtain ⟨skipped, owner, rest, hchain, -, -, hown⟩ := hfinds
  rw [(h.owned owner name member hown).1, hchain]
  exact List.mem_append_right skipped List.mem_cons_self

/-- Where a member is open to a mode, calling it is as good as sending for it. -/
theorem dispatchAt_eq_send
    {mode : CallMode} (hfound : space.resolve? value name = some found)
    (hreach : space.mayReach found.member.definition mode = true)
    (reentries depth : Nat) (arguments : Arguments) :
    (dispatchAt (callFromOutside reentries) depth mode value name arguments).run space =
      (dispatchAt (callFromOutside reentries) depth .selfSend value name arguments).run space := by
  have hresolve : space.resolveCall mode value name arguments =
      space.resolveCall .selfSend value name arguments := by
    have hself : space.mayReach found.member.definition .selfSend = true := rfl
    simp only [resolveCall, hfound, hreach, hself]
  rw [dispatchAt_run, dispatchAt_run, hresolve]

/-- A value is an instance of exactly the scopes that are searched for its
members, each of which exists and is searched once.  So it is an instance of the
owner of each of its members, and its bodies reach those that are not private. -/
theorem types_are_what_is_searched
    (hspace : space.IsReachable) (hclass : space.HasClass value) :
    (∀ scope,
      (space.scopes.isInstanceOf value scope = true ↔ scope ∈ space.scopes.lookupChain value) ∧
        space.scopes.isInstanceOf value scope =
          (space.scopes.meetsSingleton value scope ||
            space.scopes.isSubtype (space.scopes.classOf value) scope)) ∧
      (space.scopes.lookupChain value).Nodup ∧
        (∀ scope ∈ space.scopes.lookupChain value, space.scopes.Has scope) ∧
          ∀ name found, space.resolve? value name = some found →
            space.scopes.isInstanceOf value found.member.definition.owner = true ∧
              (found.member.definition.visibility ≠ .privateAccess →
                space.mayReach found.member.definition (.nested value) = true ∧
                  ∀ reentries depth (frame : Frame) arguments next, frame.receiver = value →
                    ((Program.call value name arguments next).run
                      (.below reentries depth) frame).run space =
                        ((Program.send name arguments next).run
                          (.below reentries depth) frame).run space) := by
  have hwell := hspace.wellScoped
  have hkind := hwell.kind?_classOf hclass
  have hinstance : ∀ scope, space.scopes.isInstanceOf value scope = true ↔
      scope ∈ space.scopes.lookupChain value :=
    fun _ => ScopeTable.isInstanceOf_iff_mem_lookupChain (ScopeTable.has_of_kind? hkind)
  refine ⟨fun scope => ⟨hinstance scope, ScopeTable.isInstanceOf_eq_meets _ _ _⟩,
    ScopeTable.lookupChain_nodup hwell.formed hkind,
    fun _ => ScopeTable.has_of_mem_lookupChain hwell.formed, ?_⟩
  intro name found hfound
  have howner := (hinstance _).mpr (hwell.owner_mem_lookupChain hfound)
  refine ⟨howner, fun hopen => ?_⟩
  have hreach : space.mayReach found.member.definition (.nested value) = true := by
    cases hvisibility : found.member.definition.visibility with
    | publicAccess => simp [mayReach, hvisibility]
    | protectedAccess => simpa [mayReach, hvisibility] using howner
    | privateAccess => exact (hopen hvisibility).elim
  refine ⟨hreach, ?_⟩
  rintro reentries depth frame arguments next rfl
  simp only [Program.run, Action.run_handle, Reentry.below]
  rw [dispatchAt_eq_send hfound hreach]

/-- An object with a singleton of its own, whose class has a protected member. -/
def sheltering : List Operation :=
  [.defineClass "Vault" none,
    .defineMember ⟨17⟩ ⟨"code"⟩ .protectedAccess .none (.builtin .itself), .newObject ⟨17⟩,
    .singleton (.object ⟨⟨1⟩, ⟨17⟩⟩)]

theorem types_are_what_is_searched_for_a_sheltered_member :
    ∃ (space : ObjectSpace) (value : Value) (found : Resolution),
      space.IsReachable ∧ space.HasClass value ∧
        space.scopes.lookupChain value = [⟨18⟩, ⟨17⟩, .object, .kernel, .basicObject] ∧
          space.scopes.isInstanceOf value ⟨18⟩ = true ∧
            space.resolve? value ⟨"code"⟩ = some found ∧
              found.member.definition.visibility = .protectedAccess ∧
                space.mayReach found.member.definition (.nested value) = true := by
  let start := (ObjectSpace.initial ⟨0⟩ .standard []).withRegistry []
  let space := start.afterAll sheltering
  let value : Value := .object ⟨⟨1⟩, ⟨17⟩⟩
  have hstart : start.IsReachable := ⟨[.standard], [], 0, start, rfl, .refl⟩
  have hspace : space.IsReachable := hstart.reaches (start.reaches_afterAll _)
  have hclass : space.HasClass value := by
    intro reference hreference
    obtain rfl := Value.object.inj hreference
    decide +kernel
  have hchain : space.scopes.lookupChain value = [⟨18⟩, ⟨17⟩, .object, .kernel, .basicObject] := by
    decide +kernel
  obtain ⟨hinstance, -, -, hmembers⟩ := types_are_what_is_searched hspace hclass
  have hsingleton : space.scopes.isInstanceOf value ⟨18⟩ = true := by
    rw [(hinstance ⟨18⟩).1, hchain]
    exact List.mem_cons_self
  obtain ⟨found, hfound⟩ := Option.isSome_iff_exists.mp
    (show (space.resolve? value ⟨"code"⟩).isSome = true by decide +kernel)
  have hvisibility : (space.resolve? value ⟨"code"⟩).map
      (·.member.definition.visibility) = some .protectedAccess := by
    decide +kernel
  rw [hfound, Option.map_some] at hvisibility
  have hprotected := Option.some.inj hvisibility
  have hopen : found.member.definition.visibility ≠ .privateAccess := by
    rw [hprotected]
    nofun
  exact ⟨space, value, found, hspace, hclass, hchain, hsingleton, hfound, hprotected,
    ((hmembers _ found hfound).2 hopen).1⟩

end ObjectSpace

end CallContract
