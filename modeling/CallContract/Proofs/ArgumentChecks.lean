import CallContract.ObjectSpace.Checking
import CallContract.ObjectSpace.Builtin
import CallContract.Proofs.ArgumentBinding
import Mathlib.Data.List.Basic

/-!
# Which arguments a signature refuses

A signature checks the slots for which it has a descriptor and the call a value.
Positions come first, from the left, and then keywords in the order in which the
signature has them.  The first of these slots whose value does not match is the one
that is reported, and what has no partner on the other side takes no part.
-/

namespace CallContract

/-- A slot with the descriptor and the value that meet in it. -/
inductive Signature.Checks (signature : Signature) (arguments : Arguments) :
    Slot → Descriptor → Value → Prop
  | position {index : Nat} {descriptor : Descriptor} {value : Value}
      (hdescriptor : signature.positional[index]? = some descriptor)
      (hvalue : arguments.positional[index]? = some value) :
      Checks signature arguments (.position index) descriptor value
  | keyword {name : Symbol} {descriptor : Descriptor} {value : Value}
      (hdescriptor : (name, descriptor) ∈ signature.keywords)
      (hvalue : arguments.keyword? name = some value) :
      Checks signature arguments (.keyword name) descriptor value

/-- The keywords of a signature that a call supplies, in the order of the signature. -/
def Signature.suppliedKeywords
    (signature : Signature)
    (arguments : Arguments) : List (Symbol × Descriptor) :=
  signature.keywords.filter fun keyword => arguments.keywords.contains keyword.1

namespace ObjectSpace

/-- The value at a position matches the descriptor there, if there are both. -/
def MatchesAt
    (space : ObjectSpace)
    (descriptors : List Descriptor)
    (values : List Value)
    (index : Nat) : Prop :=
  ∀ descriptor ∈ descriptors[index]?, ∀ value ∈ values[index]?,
    space.accepts descriptor value = true

/-- The value of a keyword matches the descriptor for it, if it is supplied. -/
def MatchesKeyword
    (space : ObjectSpace)
    (arguments : Arguments)
    (keyword : Symbol × Descriptor) : Prop :=
  ∀ value ∈ arguments.keyword? keyword.1, space.accepts keyword.2 value = true

/-- The least position at which a value does not match its descriptor. -/
structure MismatchesFirstAt
    (space : ObjectSpace)
    (descriptors : List Descriptor)
    (values : List Value)
    (index : Nat)
    (descriptor : Descriptor)
    (value : Value) : Prop where
  described : descriptors[index]? = some descriptor
  supplied : values[index]? = some value
  mismatch : space.accepts descriptor value = false
  before : ∀ earlier < index, space.MatchesAt descriptors values earlier

/-- The mismatch that is reported: the one at the least position, or, where all
positions match, the one of the first keyword in the order of the signature. -/
inductive FirstMismatch (space : ObjectSpace) (signature : Signature) (arguments : Arguments) :
    Slot → Descriptor → Value → Prop
  | position {index : Nat} {descriptor : Descriptor} {value : Value}
      (hfirst : space.MismatchesFirstAt signature.positional arguments.positional index
        descriptor value) :
      FirstMismatch space signature arguments (.position index) descriptor value
  | keyword {name : Symbol} {descriptor : Descriptor} {value : Value}
      (hpositions : ∀ index, space.MatchesAt signature.positional arguments.positional index)
      (hfirst : FirstWithout (space.MatchesKeyword arguments) signature.keywords
        (name, descriptor))
      (hvalue : arguments.keyword? name = some value) :
      FirstMismatch space signature arguments (.keyword name) descriptor value

variable {space : ObjectSpace} {slot : Slot} {descriptor : Descriptor} {value : Value}

/-! ### Positions -/

section Positions

variable {descriptors : List Descriptor} {values : List Value} {first : Descriptor} {given : Value}
  {start index : Nat}

theorem matchesAt_cons_zero :
    space.MatchesAt (first :: descriptors) (given :: values) 0 ↔
      space.accepts first given = true := by
  simp [MatchesAt]

theorem matchesAt_cons_succ :
    space.MatchesAt (first :: descriptors) (given :: values) (index + 1) ↔
      space.MatchesAt descriptors values index := by
  simp [MatchesAt]

theorem mismatchesFirstAt_cons_succ (haccepts : space.accepts first given = true) :
    space.MismatchesFirstAt (first :: descriptors) (given :: values) (index + 1)
        descriptor value ↔
      space.MismatchesFirstAt descriptors values index descriptor value := by
  constructor
  · intro h
    refine ⟨h.described, h.supplied, h.mismatch, fun earlier hearlier => ?_⟩
    exact matchesAt_cons_succ.mp (h.before (earlier + 1) (Nat.succ_lt_succ hearlier))
  · intro h
    refine ⟨h.described, h.supplied, h.mismatch, fun earlier hearlier => ?_⟩
    cases earlier with
    | zero => exact matchesAt_cons_zero.mpr haccepts
    | succ earlier =>
        exact matchesAt_cons_succ.mpr (h.before earlier (Nat.lt_of_succ_lt_succ hearlier))

theorem mismatchesFirstAt_cons_of_refused (hrefused : ¬ space.accepts first given = true) :
    space.MismatchesFirstAt (first :: descriptors) (given :: values) index descriptor value ↔
      index = 0 ∧ first = descriptor ∧ given = value := by
  constructor
  · intro h
    cases index with
    | zero => exact ⟨rfl, Option.some.inj h.described, Option.some.inj h.supplied⟩
    | succ index => exact absurd (matchesAt_cons_zero.mp (h.before 0 index.succ_pos)) hrefused
  · rintro ⟨rfl, rfl, rfl⟩
    exact ⟨rfl, rfl, by simpa using hrefused, nofun⟩

theorem firstMismatch?_eq_none_iff :
    space.firstMismatch? start descriptors values = none ↔
      ∀ index, space.MatchesAt descriptors values index := by
  induction descriptors generalizing start values with
  | nil => simp [firstMismatch?, MatchesAt]
  | cons first descriptors ih =>
      cases values with
      | nil => simp [firstMismatch?, MatchesAt]
      | cons given values =>
          by_cases haccepts : space.accepts first given = true
          · rw [firstMismatch?, if_pos haccepts, ih]
            constructor
            · intro h index
              cases index with
              | zero => exact matchesAt_cons_zero.mpr haccepts
              | succ index => exact matchesAt_cons_succ.mpr (h index)
            · intro h index
              exact matchesAt_cons_succ.mp (h (index + 1))
          · rw [firstMismatch?, if_neg haccepts]
            exact ⟨nofun, fun h => absurd (matchesAt_cons_zero.mp (h 0)) haccepts⟩

/-- The search counts positions from the one that it starts with. -/
theorem firstMismatch?_eq_some_iff :
    space.firstMismatch? start descriptors values = some (slot, descriptor, value) ↔
      ∃ index, slot = .position (start + index) ∧
        space.MismatchesFirstAt descriptors values index descriptor value := by
  induction descriptors generalizing start values with
  | nil =>
      simp only [firstMismatch?, reduceCtorEq, false_iff]
      rintro ⟨index, -, h⟩
      cases h.described
  | cons first descriptors ih =>
      cases values with
      | nil =>
          simp only [firstMismatch?, reduceCtorEq, false_iff]
          rintro ⟨index, -, h⟩
          cases h.supplied
      | cons given values =>
          by_cases haccepts : space.accepts first given = true
          · rw [firstMismatch?, if_pos haccepts, ih]
            constructor
            · rintro ⟨index, rfl, h⟩
              refine ⟨index + 1, ?_, (mismatchesFirstAt_cons_succ haccepts).mpr h⟩
              rw [Nat.add_assoc, Nat.add_comm 1]
            · rintro ⟨index, rfl, h⟩
              cases index with
              | zero =>
                  have hmismatch := h.mismatch
                  cases h.described
                  cases h.supplied
                  rw [haccepts] at hmismatch
                  cases hmismatch
              | succ index =>
                  refine ⟨index, ?_, (mismatchesFirstAt_cons_succ haccepts).mp h⟩
                  rw [Nat.add_assoc, Nat.add_comm 1]
          · simp only [firstMismatch?, if_neg haccepts, Option.some.injEq, Prod.mk.injEq,
              mismatchesFirstAt_cons_of_refused haccepts]
            constructor
            · rintro ⟨rfl, rfl, rfl⟩
              exact ⟨0, rfl, rfl, rfl, rfl⟩
            · rintro ⟨index, rfl, rfl, rfl, rfl⟩
              exact ⟨rfl, rfl, rfl⟩

end Positions

/-! ### Keywords -/

variable {signature : Signature} {arguments : Arguments}

theorem keywordMismatch?_eq_none_iff {keyword : Symbol × Descriptor} :
    space.keywordMismatch? arguments keyword = none ↔
      space.MatchesKeyword arguments keyword := by
  unfold keywordMismatch? MatchesKeyword
  cases arguments.keyword? keyword.1 <;> simp

theorem keywordMismatch?_eq_some_iff {keyword : Symbol × Descriptor} :
    space.keywordMismatch? arguments keyword = some (slot, descriptor, value) ↔
      (slot = .keyword keyword.1 ∧ descriptor = keyword.2 ∧
        arguments.keyword? keyword.1 = some value) ∧ ¬ space.MatchesKeyword arguments keyword := by
  unfold keywordMismatch? MatchesKeyword
  cases hvalue : arguments.keyword? keyword.1 with
  | none => simp
  | some given =>
      by_cases haccepts : space.accepts keyword.2 given = true
      · simp [haccepts]
      · simp only [haccepts, Option.mem_def, Option.some.injEq, Prod.mk.injEq, forall_eq', eq_comm,
          Bool.false_eq_true, if_false, not_false_eq_true, and_true]

/-- Keywords that are not supplied are passed over. -/
theorem findSome?_keywordMismatch? :
    signature.keywords.findSome? (space.keywordMismatch? arguments) =
      ((signature.suppliedKeywords arguments).filterMap
        (space.keywordMismatch? arguments)).head? := by
  rw [← List.head?_filterMap, Signature.suppliedKeywords, List.filterMap_filter]
  congr 1
  apply List.filterMap_congr
  intro keyword _
  unfold keywordMismatch? Table.contains Arguments.keyword?
  cases arguments.keywords.get? keyword.1 <;> rfl

/-! ### The violation that is reported -/

theorem argumentMismatch?_eq_none_iff :
    space.argumentMismatch? signature arguments = none ↔
      (∀ index, space.MatchesAt signature.positional arguments.positional index) ∧
        ∀ keyword ∈ signature.keywords, space.MatchesKeyword arguments keyword := by
  simp only [argumentMismatch?, Option.or_eq_none_iff, firstMismatch?_eq_none_iff,
    List.findSome?_eq_none_iff, keywordMismatch?_eq_none_iff]

theorem argumentMismatch?_eq_some_iff :
    space.argumentMismatch? signature arguments = some (slot, descriptor, value) ↔
      space.FirstMismatch signature arguments slot descriptor value := by
  simp only [argumentMismatch?, Option.or_eq_some_iff, firstMismatch?_eq_none_iff,
    firstMismatch?_eq_some_iff, List.findSome?_eq_some_iff, keywordMismatch?_eq_none_iff,
    keywordMismatch?_eq_some_iff, Nat.zero_add]
  constructor
  · intro h
    cases h with
    | inl hposition =>
        obtain ⟨index, rfl, hfirst⟩ := hposition
        exact .position hfirst
    | inr hkeyword =>
        obtain ⟨hpositions, before, keyword, after, hsplit, ⟨⟨rfl, rfl, hvalue⟩, hmismatch⟩,
          hbefore⟩ := hkeyword
        exact .keyword hpositions ⟨before, after, hsplit, hbefore, hmismatch⟩ hvalue
  · intro h
    cases h with
    | position hfirst => exact .inl ⟨_, rfl, hfirst⟩
    | keyword hpositions hfirst hvalue =>
        obtain ⟨before, after, hsplit, hbefore, hmismatch⟩ := hfirst
        exact .inr ⟨hpositions, before, _, after, hsplit, ⟨⟨rfl, rfl, hvalue⟩, hmismatch⟩, hbefore⟩

/-- All slots match exactly if positions and keywords do. -/
theorem checks_match_iff :
    (∀ slot descriptor value, signature.Checks arguments slot descriptor value →
      space.accepts descriptor value = true) ↔
      (∀ index, space.MatchesAt signature.positional arguments.positional index) ∧
        ∀ keyword ∈ signature.keywords, space.MatchesKeyword arguments keyword := by
  constructor
  · intro h
    refine ⟨fun index descriptor hdescriptor value hvalue => ?_,
      fun keyword hkeyword value hvalue => ?_⟩
    · exact h _ _ _ (.position hdescriptor hvalue)
    · exact h _ _ _ (.keyword hkeyword hvalue)
  · rintro ⟨hpositions, hkeywords⟩ slot descriptor value hchecks
    cases hchecks with
    | position hdescriptor hvalue => exact hpositions _ _ hdescriptor _ hvalue
    | keyword hkeyword hvalue => exact hkeywords _ hkeyword _ hvalue

/-! ### What takes no part -/

theorem checks_position_iff {index : Nat} :
    signature.Checks arguments (.position index) descriptor value ↔
      signature.positional[index]? = some descriptor ∧
        arguments.positional[index]? = some value := by
  constructor
  · intro h
    cases h with
    | position hdescriptor hvalue => exact ⟨hdescriptor, hvalue⟩
  · exact fun h => .position h.1 h.2

theorem matchesAt_iff_checks {index : Nat} :
    space.MatchesAt signature.positional arguments.positional index ↔
      ∀ descriptor value, signature.Checks arguments (.position index) descriptor value →
        space.accepts descriptor value = true := by
  simp only [MatchesAt, Option.mem_def, checks_position_iff, and_imp]
  exact ⟨fun h descriptor value hdescriptor => h descriptor hdescriptor value,
    fun h descriptor hdescriptor value => h descriptor value hdescriptor⟩

theorem mismatchesFirstAt_iff_checks {index : Nat} :
    space.MismatchesFirstAt signature.positional arguments.positional index descriptor value ↔
      signature.Checks arguments (.position index) descriptor value ∧
        space.accepts descriptor value = false ∧
        ∀ earlier < index, ∀ descriptor value,
          signature.Checks arguments (.position earlier) descriptor value →
            space.accepts descriptor value = true := by
  constructor
  · intro h
    exact ⟨.position h.described h.supplied, h.mismatch, fun earlier hearlier =>
      matchesAt_iff_checks.mp (h.before earlier hearlier)⟩
  · rintro ⟨hchecks, hmismatch, hbefore⟩
    obtain ⟨hdescriptor, hvalue⟩ := checks_position_iff.mp hchecks
    exact ⟨hdescriptor, hvalue, hmismatch, fun earlier hearlier =>
      matchesAt_iff_checks.mpr (hbefore earlier hearlier)⟩

/-- Checking asks for nothing but the slots where a descriptor meets a value, with
keywords in the order of the signature. -/
theorem argumentMismatch?_of_same_checks
    {other : Signature} {others : Arguments}
    (hsame : ∀ slot descriptor value, other.Checks others slot descriptor value ↔
      signature.Checks arguments slot descriptor value)
    (hkeywords : other.suppliedKeywords others = signature.suppliedKeywords arguments) :
    space.argumentMismatch? other others = space.argumentMismatch? signature arguments := by
  have hpositions : space.firstMismatch? 0 other.positional others.positional =
      space.firstMismatch? 0 signature.positional arguments.positional := by
    apply Option.ext
    rintro ⟨slot, descriptor, value⟩
    simp only [firstMismatch?_eq_some_iff, mismatchesFirstAt_iff_checks, hsame]
  have hmismatch : ∀ keyword ∈ signature.suppliedKeywords arguments,
      space.keywordMismatch? others keyword = space.keywordMismatch? arguments keyword := by
    intro keyword hkeyword
    obtain ⟨hlisted, hsupplied⟩ := List.mem_filter.mp hkeyword
    obtain ⟨value, hvalue⟩ := Option.isSome_iff_exists.mp hsupplied
    have hothers : others.keyword? keyword.1 = some value := by
      cases (hsame _ _ _).mpr (.keyword hlisted hvalue) with
      | keyword _ hvalue => exact hvalue
    change arguments.keyword? keyword.1 = some value at hvalue
    simp only [keywordMismatch?, hothers, hvalue]
  simp only [argumentMismatch?, hpositions, findSome?_keywordMismatch?, hkeywords,
    List.filterMap_congr hmismatch]

/-- Checking succeeds exactly if every descriptor that meets a value is matched by it.
Otherwise it reports the first mismatch, by position or else in the order of the
keywords of the signature.  Descriptors and values that meet nothing make no
difference, so that a signature without descriptors accepts all arguments. -/
theorem checkArguments_reports_the_first_mismatch
    (space : ObjectSpace) (scope : ScopeId) (member : Symbol)
    (signature : Signature) (arguments : Arguments) :
    (space.checkArguments scope member signature arguments = .ok () ↔
      ∀ slot descriptor value, signature.Checks arguments slot descriptor value →
        space.accepts descriptor value = true) ∧
    (∀ violation, space.checkArguments scope member signature arguments = .error violation ↔
      ∃ slot descriptor value, space.FirstMismatch signature arguments slot descriptor value ∧
        violation =
          ⟨space.scopeName scope, member, slot, descriptor.text, space.describe value⟩) ∧
    (∀ (other : Signature) (others : Arguments),
      (∀ slot descriptor value, other.Checks others slot descriptor value ↔
        signature.Checks arguments slot descriptor value) →
      other.suppliedKeywords others = signature.suppliedKeywords arguments →
        space.checkArguments scope member other others =
          space.checkArguments scope member signature arguments) ∧
    (signature.positional = [] → signature.keywords = [] →
      space.checkArguments scope member signature arguments = .ok ()) := by
  have hok : space.checkArguments scope member signature arguments = .ok () ↔
      ∀ slot descriptor value, signature.Checks arguments slot descriptor value →
        space.accepts descriptor value = true := by
    rw [checks_match_iff, ← argumentMismatch?_eq_none_iff, checkArguments]
    cases space.argumentMismatch? signature arguments <;> simp
  refine ⟨hok, fun violation => ?_, fun other others hsame hkeywords => ?_,
    fun hnone hnoKeywords => ?_⟩
  · simp only [← argumentMismatch?_eq_some_iff, checkArguments]
    cases space.argumentMismatch? signature arguments with
    | none => simp
    | some mismatch =>
        obtain ⟨slot, descriptor, value⟩ := mismatch
        simp only [Except.error.injEq, Option.some.injEq, Prod.mk.injEq]
        constructor
        · rintro rfl
          exact ⟨slot, descriptor, value, ⟨rfl, rfl, rfl⟩, rfl⟩
        · rintro ⟨_, _, _, ⟨rfl, rfl, rfl⟩, rfl⟩
          rfl
  · unfold checkArguments
    rw [argumentMismatch?_of_same_checks hsame hkeywords]
  · rw [hok]
    intro slot descriptor value hchecks
    cases hchecks with
    | position hdescriptor => simp [hnone] at hdescriptor
    | keyword hdescriptor => simp [hnoKeywords] at hdescriptor

/-- Two keywords that do not match, in an order other than that of the caller, and
values that nothing describes. -/
theorem checkArguments_reports_the_first_mismatch_among_keywords :
    let space := ObjectSpace.initial ⟨0⟩ .standard []
    let signature : Signature := ⟨[.truthy], [(⟨"size"⟩, .absent), (⟨"mode"⟩, .falsy)], .anything⟩
    let arguments : Arguments :=
      ⟨[.int 1, .int 2], [(⟨"mode"⟩, .int 3), (⟨"size"⟩, .int 4), (⟨"name"⟩, .int 5)]⟩
    let others : Arguments := ⟨[.int 1], [(⟨"mode"⟩, .int 3), (⟨"size"⟩, .int 4)]⟩
    let violation : ArgumentViolation :=
      ⟨"Object", ⟨"open"⟩, .keyword ⟨"size"⟩, "nil", "4"⟩
    space.FirstMismatch signature arguments (.keyword ⟨"size"⟩) .absent (.int 4) ∧
      space.checkArguments .object ⟨"open"⟩ signature arguments = .error violation ∧
      space.checkArguments .object ⟨"open"⟩ signature others = .error violation := by
  intro space signature arguments others violation
  have hpositions : ∀ index, space.MatchesAt signature.positional arguments.positional index := by
    intro index
    cases index with
    | zero => exact matchesAt_cons_zero.mpr rfl
    | succ index => simp [MatchesAt, signature]
  have hrefused : ¬ space.MatchesKeyword arguments (⟨"size"⟩, .absent) :=
    fun h => Bool.false_ne_true (h (.int 4) rfl)
  have hfirst : space.FirstMismatch signature arguments (.keyword ⟨"size"⟩) .absent (.int 4) :=
    .keyword hpositions ⟨[], [(⟨"mode"⟩, .falsy)], rfl, by simp, hrefused⟩ rfl
  have hreport : violation = ⟨space.scopeName .object, ⟨"open"⟩, .keyword ⟨"size"⟩,
      Descriptor.absent.text, space.describe (.int 4)⟩ := by decide +kernel
  have hsame : ∀ slot descriptor value, signature.Checks others slot descriptor value ↔
      signature.Checks arguments slot descriptor value := by
    have hpositional : ∀ (index : Nat) (descriptor : Descriptor),
        signature.positional[index]? = some descriptor →
          others.positional[index]? = arguments.positional[index]? := by
      intro index descriptor h
      cases index with
      | zero => rfl
      | succ index => simp [signature] at h
    have hkeyword : ∀ name descriptor, (name, descriptor) ∈ signature.keywords →
        others.keyword? name = arguments.keyword? name := by
      intro name descriptor h
      simp only [signature, List.mem_cons, List.not_mem_nil, or_false, Prod.mk.injEq] at h
      cases h with
      | inl hsize =>
          rw [hsize.1]
          rfl
      | inr hmode =>
          rw [hmode.1]
          rfl
    intro slot descriptor value
    constructor
    · intro h
      cases h with
      | position hdescriptor hvalue =>
          exact .position hdescriptor ((hpositional _ _ hdescriptor).symm.trans hvalue)
      | keyword hdescriptor hvalue =>
          exact .keyword hdescriptor ((hkeyword _ _ hdescriptor).symm.trans hvalue)
    · intro h
      cases h with
      | position hdescriptor hvalue =>
          exact .position hdescriptor ((hpositional _ _ hdescriptor).trans hvalue)
      | keyword hdescriptor hvalue =>
          exact .keyword hdescriptor ((hkeyword _ _ hdescriptor).trans hvalue)
  obtain ⟨-, herror, hirrelevant, -⟩ :=
    checkArguments_reports_the_first_mismatch space .object ⟨"open"⟩ signature arguments
  have hchecked := (herror violation).mpr ⟨_, _, _, hfirst, hreport⟩
  exact ⟨hfirst, hchecked, (hirrelevant signature others hsame rfl).trans hchecked⟩

end ObjectSpace

end CallContract
