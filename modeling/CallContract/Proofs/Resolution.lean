import CallContract.ObjectSpace.Dispatch

/-!
# The way to a member

A search for a member goes along the lookup chain of the receiver and ends at
the first scope that defines it.  The way is the part of the chain up to and
including that scope; the contracts of a call are those of the scopes on the
way whose layers list the member, nearest first.
-/

namespace CallContract.ObjectSpace

/-- The way along a chain to the first scope that defines a member. -/
def FindsAlong
    (space : ObjectSpace)
    (name : Symbol)
    (chain way : List ScopeId)
    (member : Member) : Prop :=
  ∃ skipped owner rest,
    chain = skipped ++ owner :: rest ∧ way = skipped ++ [owner] ∧
      (∀ scope ∈ skipped, space.ownMember? scope name = none) ∧
        space.ownMember? owner name = some member

/-- The way from a receiver to the definition of a member. -/
def Finds
    (space : ObjectSpace)
    (receiver : Value)
    (name : Symbol)
    (way : List ScopeId)
    (member : Member) : Prop :=
  space.FindsAlong name (space.scopes.lookupChain receiver) way member

/-- The scopes on a way that check a member, nearest first. -/
def checkersOn (space : ObjectSpace) (name : Symbol) (way : List ScopeId) : List ScopeId :=
  way.filter fun scope => space.intercepts scope name

/-- The contracts that a call passes on its way, nearest first. -/
def contractsOn
    (space : ObjectSpace)
    (name : Symbol)
    (way : List ScopeId) : List (ScopeId × Signature) :=
  space.signaturesFor name (space.checkersOn name way)

variable {space : ObjectSpace} {name : Symbol}

theorem checkersOn_cons (scope : ScopeId) (way : List ScopeId) :
    space.checkersOn name (scope :: way) =
      (if space.intercepts scope name then [scope] else []) ++ space.checkersOn name way := by
  unfold checkersOn
  rw [List.filter_cons]
  split <;> rfl

theorem checkersOn_singleton (scope : ScopeId) :
    space.checkersOn name [scope] = if space.intercepts scope name then [scope] else [] := by
  rw [checkersOn_cons]
  exact List.append_nil _

theorem findsAlong_cons_of_some
    {scope : ScopeId} {chain way : List ScopeId} {own member : Member}
    (hown : space.ownMember? scope name = some own) :
    space.FindsAlong name (scope :: chain) way member ↔ way = [scope] ∧ own = member := by
  constructor
  · rintro ⟨skipped, owner, rest, hchain, hway, hskipped, howner⟩
    cases skipped with
    | nil =>
        obtain ⟨rfl, rfl⟩ := List.cons.inj hchain
        rw [hown, Option.some.injEq] at howner
        exact ⟨hway, howner⟩
    | cons first skipped =>
        obtain ⟨rfl, -⟩ := List.cons.inj hchain
        have hnone := hskipped scope List.mem_cons_self
        rw [hown] at hnone
        cases hnone
  · rintro ⟨rfl, rfl⟩
    exact ⟨[], scope, chain, rfl, rfl, by simp, hown⟩

theorem findsAlong_cons_of_none
    {scope : ScopeId} {chain way : List ScopeId} {member : Member}
    (hown : space.ownMember? scope name = none) :
    space.FindsAlong name (scope :: chain) way member ↔
      ∃ rest, way = scope :: rest ∧ space.FindsAlong name chain rest member := by
  constructor
  · rintro ⟨skipped, owner, rest, hchain, rfl, hskipped, howner⟩
    cases skipped with
    | nil =>
        obtain ⟨rfl, -⟩ := List.cons.inj hchain
        rw [hown] at howner
        cases howner
    | cons first skipped =>
        obtain ⟨rfl, rfl⟩ := List.cons.inj hchain
        exact ⟨skipped ++ [owner], rfl, skipped, owner, rest, rfl, rfl,
          fun other hother => hskipped other (List.mem_cons_of_mem _ hother), howner⟩
  · rintro ⟨-, rfl, skipped, owner, rest, rfl, rfl, hskipped, howner⟩
    refine ⟨scope :: skipped, owner, rest, rfl, rfl, ?_, howner⟩
    intro other hother
    rcases List.mem_cons.mp hother with rfl | hlater
    · exact hown
    · exact hskipped other hlater

/-- A search ends in one place. -/
theorem FindsAlong.unique
    {chain way otherWay : List ScopeId} {member other : Member}
    (h : space.FindsAlong name chain way member)
    (hother : space.FindsAlong name chain otherWay other) : otherWay = way ∧ other = member := by
  induction chain generalizing way otherWay with
  | nil =>
      obtain ⟨skipped, owner, rest, hchain, -⟩ := h
      exact absurd hchain (by simp)
  | cons scope chain ih =>
      cases hown : space.ownMember? scope name with
      | some own =>
          obtain ⟨rfl, rfl⟩ := (findsAlong_cons_of_some hown).mp h
          obtain ⟨rfl, rfl⟩ := (findsAlong_cons_of_some hown).mp hother
          exact ⟨rfl, rfl⟩
      | none =>
          obtain ⟨rest, rfl, hrest⟩ := (findsAlong_cons_of_none hown).mp h
          obtain ⟨others, rfl, hothers⟩ := (findsAlong_cons_of_none hown).mp hother
          obtain ⟨rfl, rfl⟩ := ih hrest hothers
          exact ⟨rfl, rfl⟩

theorem Finds.unique
    {receiver : Value} {way otherWay : List ScopeId} {member other : Member}
    (h : space.Finds receiver name way member)
    (hother : space.Finds receiver name otherWay other) : otherWay = way ∧ other = member :=
  FindsAlong.unique h hother

theorem resolveAlong_eq_none_iff {chain : List ScopeId} :
    space.resolveAlong name chain = none ↔
      ∀ scope ∈ chain, space.ownMember? scope name = none := by
  induction chain with
  | nil => simp [resolveAlong]
  | cons scope chain ih =>
      cases hown : space.ownMember? scope name with
      | some member => simp [resolveAlong, hown]
      | none => simp [resolveAlong, hown, ih]

/-- A search finds the member at the end of the way, and the scopes on the way
that check it. -/
theorem resolveAlong_eq_some_iff
    {chain checkers : List ScopeId} {member : Member} :
    space.resolveAlong name chain = some ⟨member, checkers⟩ ↔
      ∃ way, space.FindsAlong name chain way member ∧
        checkers = space.checkersOn name way := by
  induction chain generalizing checkers with
  | nil => simp [resolveAlong, FindsAlong]
  | cons scope chain ih =>
      cases hown : space.ownMember? scope name with
      | some own =>
          simp only [findsAlong_cons_of_some hown, resolveAlong, hown, Option.some.injEq,
            Resolution.mk.injEq]
          constructor
          · rintro ⟨rfl, rfl⟩
            exact ⟨[scope], ⟨rfl, rfl⟩, (checkersOn_singleton scope).symm⟩
          · rintro ⟨-, ⟨rfl, rfl⟩, rfl⟩
            exact ⟨rfl, (checkersOn_singleton scope).symm⟩
      | none =>
          simp only [findsAlong_cons_of_none hown, resolveAlong, hown, Option.map_eq_some_iff]
          constructor
          · rintro ⟨⟨found, others⟩, hfound, hsame⟩
            obtain ⟨rfl, rfl⟩ := Resolution.mk.inj hsame
            obtain ⟨way, hway, rfl⟩ := ih.mp hfound
            exact ⟨scope :: way, ⟨way, rfl, hway⟩, (checkersOn_cons scope way).symm⟩
          · rintro ⟨-, ⟨way, rfl, hway⟩, rfl⟩
            exact ⟨⟨member, space.checkersOn name way⟩, ih.mpr ⟨way, hway, rfl⟩,
              by rw [checkersOn_cons]⟩

/-- A search depends on nothing but the members and layers of the scopes that it
may pass. -/
theorem resolveAlong_congr
    {after : ObjectSpace} {chain : List ScopeId}
    (hown : ∀ scope ∈ chain, after.ownMember? scope name = space.ownMember? scope name)
    (hintercepts : ∀ scope ∈ chain, after.intercepts scope name = space.intercepts scope name) :
    after.resolveAlong name chain = space.resolveAlong name chain := by
  induction chain with
  | nil => rfl
  | cons scope rest ih =>
      have hrest := ih (fun other hother => hown other (List.mem_cons_of_mem _ hother))
        fun other hother => hintercepts other (List.mem_cons_of_mem _ hother)
      unfold resolveAlong
      rw [hown scope List.mem_cons_self, hintercepts scope List.mem_cons_self, hrest]

theorem resolve?_eq_none_iff {receiver : Value} :
    space.resolve? receiver name = none ↔
      ∀ scope ∈ space.scopes.lookupChain receiver, space.ownMember? scope name = none :=
  resolveAlong_eq_none_iff

theorem resolve?_eq_some_iff
    {receiver : Value} {checkers : List ScopeId} {member : Member} :
    space.resolve? receiver name = some ⟨member, checkers⟩ ↔
      ∃ way, space.Finds receiver name way member ∧ checkers = space.checkersOn name way :=
  resolveAlong_eq_some_iff

theorem resolve?_of_finds
    {receiver : Value} {way : List ScopeId} {member : Member}
    (hfinds : space.Finds receiver name way member) :
    space.resolve? receiver name = some ⟨member, space.checkersOn name way⟩ :=
  resolve?_eq_some_iff.mpr ⟨way, hfinds, rfl⟩

/-- A call is admitted exactly if a member is found that may be reached and takes
the arguments. -/
theorem resolveCall_eq_ok_iff
    {mode : CallMode} {receiver : Value} {arguments bound : Arguments} {found : Resolution} :
    space.resolveCall mode receiver name arguments = .ok (found, bound) ↔
      ∃ way, space.Finds receiver name way found.member ∧
        found.interceptors = space.checkersOn name way ∧
        space.mayReach found.member.definition mode = true ∧
        found.member.definition.parameters.bind arguments = .ok bound := by
  obtain ⟨member, interceptors⟩ := found
  constructor
  · intro hresolve
    unfold resolveCall at hresolve
    cases hfound : space.resolve? receiver name with
    | none => simp [hfound] at hresolve
    | some resolution =>
        simp only [hfound] at hresolve
        split at hresolve
        next hreach =>
          split at hresolve
          next hbind =>
            cases hresolve
            obtain ⟨way, hfinds, hinterceptors⟩ := resolve?_eq_some_iff.mp hfound
            exact ⟨way, hfinds, hinterceptors, hreach, hbind⟩
          next => cases hresolve
        next => cases hresolve
  · rintro ⟨way, hfinds, hinterceptors, hreach, hbind⟩
    change interceptors = _ at hinterceptors
    subst hinterceptors
    simp [resolveCall, resolve?_of_finds hfinds, hreach, hbind]

/-- What is called has been found on some scope. -/
theorem exists_ownMember?_of_resolveCall
    {mode : CallMode} {receiver : Value} {arguments bound : Arguments} {found : Resolution}
    (hresolve : space.resolveCall mode receiver name arguments = .ok (found, bound)) :
    ∃ scope, space.ownMember? scope name = some found.member := by
  obtain ⟨_, ⟨_, owner, _, -, -, -, howner⟩, -⟩ := resolveCall_eq_ok_iff.mp hresolve
  exact ⟨owner, howner⟩

/-! ### What is found, whatever is checked -/

/-- The member that a receiver answers with. -/
def found? (space : ObjectSpace) (receiver : Value) (name : Symbol) : Option Member :=
  (space.scopes.lookupChain receiver).findSome? fun scope => space.ownMember? scope name

theorem resolveAlong_member (chain : List ScopeId) :
    (space.resolveAlong name chain).map (·.member) =
      chain.findSome? fun scope => space.ownMember? scope name := by
  induction chain with
  | nil => rfl
  | cons scope chain ih =>
      cases hown : space.ownMember? scope name with
      | some member => simp [resolveAlong, hown]
      | none =>
          have hfunction : (fun found : Resolution => found.member) ∘ (fun found : Resolution =>
              { found with interceptors :=
                  (if space.intercepts scope name then [scope] else []) ++ found.interceptors }) =
              fun found => found.member := rfl
          simp only [resolveAlong, hown, Option.map_map, hfunction, ih, List.findSome?_cons]

theorem resolve?_member (receiver : Value) :
    (space.resolve? receiver name).map (·.member) = space.found? receiver name :=
  resolveAlong_member _

theorem respondsTo_eq_found? (receiver : Value) (name : Symbol) :
    space.respondsTo receiver name =
      (space.found? receiver name).any fun member =>
        member.definition.visibility == .publicAccess := by
  rw [← resolve?_member, Option.any_map]
  rfl

theorem resolve?_eq_none_iff_found? {receiver : Value} :
    space.resolve? receiver name = none ↔ space.found? receiver name = none := by
  rw [← resolve?_member, Option.map_eq_none_iff]

end CallContract.ObjectSpace
