import CallContract.Proofs.AppliedContracts
import CallContract.Proofs.CallEntry

/-!
# What is told of a member is true of its calls

Introspection looks for the nearest signature among the scopes that intercept a
member; a call takes the signatures of all of them.  Both stop at the same
definition, and layers list exactly what the registry holds, so the signature
that is told is the one that is asked first, and none is told exactly if none is
asked.
-/

namespace CallContract.ObjectSpace

variable {space : ObjectSpace} {receiver : Value} {name : Symbol} {way : List ScopeId}
  {found : Member} {info : MemberInfo}

/-! ### The nearest contract -/

/-- Every scope that intercepts a member has a contract for it. -/
theorem FollowsRegistrations.contractsOn_scopes
    (h : space.FollowsRegistrations) (name : Symbol) (way : List ScopeId) :
    (space.contractsOn name way).map Prod.fst = space.checkersOn name way := by
  rw [h.contractsOn_eq]
  induction way with
  | nil => rfl
  | cons scope rest ih =>
      rw [checkersOn_cons, h.intercepts_eq, ← ih]
      unfold contractAt?
      cases hsignature : space.signature? scope name <;> simp [hsignature]

theorem findSome?_signature? (name : Symbol) (scopes : List ScopeId) :
    (scopes.findSome? fun scope => space.signature? scope name) =
      (space.signaturesFor name scopes).head?.map Prod.snd := by
  induction scopes with
  | nil => rfl
  | cons scope rest ih =>
      unfold signaturesFor at ih ⊢
      cases hsignature : space.signature? scope name with
      | none => simpa [hsignature] using ih
      | some signature => simp [hsignature]

theorem memberInfo?_eq_none_iff :
    space.memberInfo? receiver name = none ↔ space.resolve? receiver name = none := by
  unfold memberInfo?
  rw [Option.map_eq_none_iff]

/-- Information about a member: the definition that a search finds at the end of its
way, and the contract of the nearest scope that intercepts it. -/
structure MemberInfo.Describes
    (info : MemberInfo)
    (space : ObjectSpace)
    (receiver : Value)
    (name : Symbol)
    (way : List ScopeId)
    (found : Member) : Prop where
  finds : space.Finds receiver name way found
  named : info.name = name
  owner : info.owner = found.definition.owner
  ends : way.getLast? = some info.owner
  visibility : info.visibility = found.definition.visibility
  nearest : (space.checkersOn name way).head? = (space.contractsOn name way).head?.map Prod.fst
  signature : info.signature = (space.contractsOn name way).head?.map Prod.snd

theorem describes_of_memberInfo?
    (hspace : space.IsReachable) (hinfo : space.memberInfo? receiver name = some info) :
    ∃ way found, info.Describes space receiver name way found := by
  obtain ⟨⟨found, checkers⟩, hresolve, rfl⟩ := Option.map_eq_some_iff.mp hinfo
  obtain ⟨way, hfinds, rfl⟩ := resolve?_eq_some_iff.mp hresolve
  have hends : way.getLast? = some found.definition.owner := by
    obtain ⟨skipped, owner, rest, -, rfl, -, howner⟩ := hfinds
    rw [(hspace.wellScoped.owned _ _ _ howner).1, List.getLast?_concat]
  have hnearest : (space.checkersOn name way).head? =
      (space.contractsOn name way).head?.map Prod.fst := by
    rw [← hspace.followsRegistrations.contractsOn_scopes, List.head?_map]
  exact ⟨way, found, {
    finds := hfinds
    named := rfl
    owner := rfl
    ends := hends
    visibility := rfl
    nearest := hnearest
    signature := findSome?_signature? name _ }⟩

namespace MemberInfo.Describes

variable (hdescribes : info.Describes space receiver name way found)

include hdescribes

theorem isTyped_iff : info.isTyped = true ↔ space.contractsOn name way ≠ [] := by
  unfold isTyped
  rw [hdescribes.signature]
  cases space.contractsOn name way <;> simp

theorem checkersOn_of_not_isTyped (huntyped : info.isTyped = false) :
    space.checkersOn name way = [] := by
  have hnone : space.contractsOn name way = [] := by
    by_contra hsome
    rw [hdescribes.isTyped_iff.mpr hsome] at huntyped
    cases huntyped
  have hnearest := hdescribes.nearest
  rw [hnone] at hnearest
  exact List.head?_eq_none_iff.mp hnearest

theorem contractsOn_of_signature {signature : Signature} (h : info.signature = some signature) :
    ∃ scope farther, space.contractsOn name way = (scope, signature) :: farther ∧
      (space.checkersOn name way).head? = some scope := by
  have hsignature := hdescribes.signature
  have hnearest := hdescribes.nearest
  cases hcontracts : space.contractsOn name way with
  | nil =>
      rw [hcontracts, h] at hsignature
      cases hsignature
  | cons contract farther =>
      rw [hcontracts, h] at hsignature
      rw [hcontracts] at hnearest
      cases hsignature
      exact ⟨contract.1, farther, rfl, hnearest⟩

end MemberInfo.Describes

/-! ### Calls of the member -/

/-- What information about a member says of one of its calls.  The visibility that
is told decides whether the call is refused, and the body of the definition is what
it begins, under a contract exactly if one is told.  The signature that is told is
asked first; without one the call is nothing but its body. -/
structure MemberInfo.HoldsOf
    (info : MemberInfo)
    (space : ObjectSpace)
    (way : List ScopeId)
    (found : Member)
    (reentries depth : Nat)
    (invocation : Invocation) : Prop where
  access :
    space.FailsAtOnce reentries depth invocation
        (.inaccessible found.definition.name info.visibility
          (space.describe invocation.receiver)) ↔
      space.mayReach found.definition invocation.mode = false
  runs : ∀ activation program after,
    space.BeginsBody reentries depth invocation activation program after →
      program = (found.body.begin activation.frame space).1 ∧
      after = (found.body.begin activation.frame space).2 ∧
      (∀ contract ∈ activation.contracts, space.checkArguments contract.1 invocation.member
        contract.2 activation.frame.arguments = .ok ()) ∧
      (info.isTyped = true ↔ activation.contracts ≠ [])
  first : ∀ signature, info.signature = some signature →
    ∃ scope, (space.checkersOn invocation.member way).head? = some scope ∧
      ∀ bound violation,
        space.Admits depth invocation.mode invocation.receiver invocation.member
          invocation.arguments way found bound →
        space.checkArguments scope invocation.member signature bound = .error violation →
          ((invocation.dispatchAt reentries depth).run space).1 =
            .error (.argumentType violation)
  untyped : info.isTyped = false →
    ∀ bound,
      space.Admits depth invocation.mode invocation.receiver invocation.member
        invocation.arguments way found bound →
      (invocation.dispatchAt reentries depth).run space =
        (found.body.run (.below reentries depth)
          ⟨invocation.receiver, invocation.member, bound, depth + 1⟩).run space

theorem MemberInfo.Describes.holdsOf
    {invocation : Invocation} {depth : Nat}
    (hdescribes : info.Describes space invocation.receiver invocation.member way found)
    (hshallow : depth < space.settings.maxCallDepth) (reentries : Nat) :
    info.HoldsOf space way found reentries depth invocation where
  access := by
    rw [hdescribes.visibility]
    exact failsAtOnce_inaccessible_iff hshallow hdescribes.finds
  runs := by
    intro activation program after hbegins
    obtain ⟨otherWay, other, bound, hpasses, rfl, rfl, rfl⟩ := beginsBody_iff.mp hbegins
    obtain ⟨rfl, rfl⟩ := hdescribes.finds.unique hpasses.admits.finds
    exact ⟨rfl, rfl, hpasses.arguments, hdescribes.isTyped_iff⟩
  first := by
    intro signature hsignature
    obtain ⟨scope, farther, hcontracts, hhead⟩ := hdescribes.contractsOn_of_signature hsignature
    refine ⟨scope, hhead, fun bound violation hadmits hrefused => ?_⟩
    have hfirst : FirstFailure
        (fun contract => space.checkArguments contract.1 invocation.member contract.2 bound)
        (space.contractsOn invocation.member way) violation :=
      ⟨[], (scope, signature), farther, hcontracts, by simp, hrefused⟩
    exact congrArg Prod.fst (CallDecision.argumentRefused hadmits hfirst).run_eq
  untyped := by
    intro huntyped bound hadmits
    rw [Invocation.dispatchAt, dispatchAt_of_admits hadmits,
      hdescribes.checkersOn_of_not_isTyped huntyped, runChecked_nil]

/-- Information about a member is true of every call of it that is not too deep.
There is none exactly if calls fail for want of a method; otherwise owner and
visibility are those of the definition that calls are admitted to and whose body they
run, and the signature is the one that they are checked against first.  A call whose
body is reached is checked exactly if a signature is told, and else has the outcome
of its body. -/
theorem memberInfo?_tells_of_calls
    (hspace : space.IsReachable) (receiver : Value) (name : Symbol) :
    (∀ reentries depth mode arguments, depth < space.settings.maxCallDepth →
      (space.memberInfo? receiver name = none ↔
        space.FailsAtOnce reentries depth ⟨mode, receiver, name, arguments⟩
          (.noMethod name (space.describe receiver)))) ∧
    (∀ info, space.memberInfo? receiver name = some info →
      ∃ way found, info.Describes space receiver name way found ∧
        ∀ reentries depth mode arguments, depth < space.settings.maxCallDepth →
          info.HoldsOf space way found reentries depth ⟨mode, receiver, name, arguments⟩) := by
  constructor
  · intro reentries depth mode arguments hshallow
    exact memberInfo?_eq_none_iff.trans
      (failsAtOnce_noMethod_iff hshallow reentries ⟨mode, receiver, name, arguments⟩).symm
  · intro info hinfo
    obtain ⟨way, found, hdescribes⟩ := describes_of_memberInfo? hspace hinfo
    exact ⟨way, found, hdescribes, fun reentries depth mode arguments hshallow =>
      hdescribes.holdsOf hshallow reentries⟩

/-- A private member that is under contract both for a class and where it is defined. -/
def gate : List Operation :=
  [.defineClass "Gate" none, .newObject ⟨17⟩,
    .defineMember .object ⟨"open"⟩ .privateAccess .none (.reader "open"),
    .contract .object ⟨"open"⟩ (.spec (.list []) .any),
    .contract ⟨17⟩ ⟨"open"⟩ (.spec (.list []) .nil)]

theorem memberInfo?_tells_of_calls_to_a_gate :
    ∃ (space : ObjectSpace) (info : MemberInfo) (found : Member) (receiver : Value),
      space.memberInfo? receiver ⟨"open"⟩ = some info ∧
      (info.owner, info.visibility, info.isTyped) = (.object, .privateAccess, true) ∧
      info.Describes space receiver ⟨"open"⟩ [⟨17⟩, .object] found ∧
      space.FailsAtOnce 0 0 ⟨.external, receiver, ⟨"open"⟩, ⟨[], []⟩⟩
        (.inaccessible found.definition.name .privateAccess (space.describe receiver)) ∧
      space.FailsAtOnce 0 0 ⟨.external, receiver, ⟨"close"⟩, ⟨[], []⟩⟩
        (.noMethod ⟨"close"⟩ (space.describe receiver)) := by
  let start := (ObjectSpace.initial ⟨0⟩ .standard []).withRegistry []
  let space := start.afterAll gate
  let receiver : Value := .object ⟨⟨1⟩, ⟨17⟩⟩
  have hspace : space.IsReachable := ⟨[.standard], [], 0, start, rfl, start.reaches_afterAll _⟩
  have hshallow : 0 < space.settings.maxCallDepth := by decide +kernel
  have hmissing : space.memberInfo? receiver ⟨"close"⟩ = none :=
    Option.isNone_iff_eq_none.mp (by decide +kernel)
  have htold : (space.memberInfo? receiver ⟨"open"⟩).map
      (fun info => (info.owner, info.visibility, info.isTyped)) =
        some (.object, .privateAccess, true) := by decide +kernel
  have hchain : space.scopes.lookupChain receiver = [⟨17⟩, .object, .kernel, .basicObject] := by
    decide +kernel
  have hskipped : (space.ownMember? ⟨17⟩ ⟨"open"⟩).isNone = true := by decide +kernel
  have hown : (space.ownMember? .object ⟨"open"⟩).isSome = true := by decide +kernel
  clear_value space receiver
  obtain ⟨hclose, -⟩ := memberInfo?_tells_of_calls hspace receiver ⟨"close"⟩
  obtain ⟨-, hopen⟩ := memberInfo?_tells_of_calls hspace receiver ⟨"open"⟩
  obtain ⟨info, hinfo, htells⟩ := Option.map_eq_some_iff.mp htold
  obtain ⟨way, found, hdescribes, hcalls⟩ := hopen info hinfo
  have hway : way = [⟨17⟩, .object] := by
    obtain ⟨member, hmember⟩ := Option.isSome_iff_exists.mp hown
    have hfinds : space.Finds receiver ⟨"open"⟩ [⟨17⟩, .object] member := by
      refine ⟨[⟨17⟩], .object, [.kernel, .basicObject], hchain, rfl,
        fun scope hscope => ?_, hmember⟩
      rw [List.mem_singleton.mp hscope]
      exact Option.isNone_iff_eq_none.mp hskipped
    exact (hfinds.unique hdescribes.finds).1
  subst hway
  have hvisibility : info.visibility = .privateAccess := congrArg (·.2.1) htells
  have hreach : space.mayReach found.definition .external = false := by
    rw [ObjectSpace.mayReach, ← hdescribes.visibility, hvisibility]
    rfl
  have hrefused := (hcalls 0 0 .external ⟨[], []⟩ hshallow).access.mpr hreach
  rw [hvisibility] at hrefused
  exact ⟨space, info, found, receiver, hinfo, htells, hdescribes, hrefused,
    (hclose 0 0 .external ⟨[], []⟩ hshallow).mp hmissing⟩

end CallContract.ObjectSpace
