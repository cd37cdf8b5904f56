import CallContract.Member.Parameters

/-!
# The calls that a declaration of parameters accepts

Binding asks for the number of positional arguments first, then for every keyword
that the caller supplies, and last for every keyword that is required.  Each of
the three ends at its own first fault, and only behind the ones before it.
Arguments that pass them all are bound as they are.
-/

namespace CallContract

/-- The first item of a list of which something does not hold. -/
def FirstWithout (holds : α → Prop) (items : List α) (item : α) : Prop :=
  ∃ before after,
    items = before ++ item :: after ∧ (∀ earlier ∈ before, holds earlier) ∧ ¬ holds item

section Search

variable {holds : α → Prop} {test : α → Bool} {items : List α} {item : α}
  (htest : ∀ item, test item = true ↔ ¬ holds item)

include htest

theorem find?_eq_none_iff_all : items.find? test = none ↔ ∀ item ∈ items, holds item := by
  simp [List.find?_eq_none, htest]

theorem find?_eq_some_iff_firstWithout :
    items.find? test = some item ↔ FirstWithout holds items item := by
  have hpass : ∀ item, (!test item) = true ↔ holds item := by
    intro item
    rw [Bool.not_eq_true', ← Bool.not_eq_true, htest, Classical.not_not]
  simp only [List.find?_eq_some_iff_append, FirstWithout, htest, hpass]
  constructor
  · rintro ⟨hfails, before, after, hsplit, hbefore⟩
    exact ⟨before, after, hsplit, hbefore, hfails⟩
  · rintro ⟨before, after, hsplit, hbefore, hfails⟩
    exact ⟨hfails, before, after, hsplit, hbefore⟩

theorem exists_firstWithout (hsome : ¬ ∀ item ∈ items, holds item) :
    ∃ item, FirstWithout holds items item := by
  cases hfound : items.find? test with
  | none => exact absurd ((find?_eq_none_iff_all htest).mp hfound) hsome
  | some item => exact ⟨item, (find?_eq_some_iff_firstWithout htest).mp hfound⟩

end Search

namespace Parameters

/-! ### Declared calls -/

/-- The number of positional arguments is within the declared bounds; a parameter that
collects the rest removes the upper one. -/
def TakesCount (parameters : Parameters) (given : Nat) : Prop :=
  parameters.required.length ≤ given ∧
    (parameters.rest = .none → given ≤ parameters.required.length + parameters.optional.length)

/-- Some parameter declares the keyword, whether it is the only one or not. -/
def Knows (parameters : Parameters) (keyword : Symbol) : Prop :=
  ∃ parameter ∈ parameters.keywords, parameter.name = keyword

end Parameters

/-- The keyword of a parameter is supplied, unless it need not be. -/
def Arguments.Provide (arguments : Arguments) (parameter : KeywordParameter) : Prop :=
  parameter.isRequired = true → parameter.name ∈ arguments.keywords.keys

namespace Parameters

/-- A call is as it is declared. -/
structure Accepts (parameters : Parameters) (arguments : Arguments) : Prop where
  count : parameters.TakesCount arguments.positional.length
  known : ∀ keyword ∈ arguments.keywords.keys, parameters.Knows keyword
  provided : ∀ parameter ∈ parameters.keywords, arguments.Provide parameter

/-- A call is not as it is declared, with the fault that counts: a wrong number, else
the first unknown keyword in the order of the caller, else the first missing one in
the order of declaration. -/
inductive Refuses (parameters : Parameters) (arguments : Arguments) : BindError → Prop
  | wrongArity (hcount : ¬ parameters.TakesCount arguments.positional.length) :
      Refuses parameters arguments
        (.wrongArity arguments.positional.length parameters.expectedCount)
  | unknownKeyword {keyword : Symbol}
      (hcount : parameters.TakesCount arguments.positional.length)
      (hfirst : FirstWithout parameters.Knows arguments.keywords.keys keyword) :
      Refuses parameters arguments (.unknownKeyword keyword)
  | missingKeyword {parameter : KeywordParameter}
      (hcount : parameters.TakesCount arguments.positional.length)
      (hknown : ∀ keyword ∈ arguments.keywords.keys, parameters.Knows keyword)
      (hfirst : FirstWithout arguments.Provide parameters.keywords parameter) :
      Refuses parameters arguments (.missingKeyword parameter.name)

variable {parameters : Parameters} {arguments : Arguments}

/-! ### What the tests of binding mean -/

theorem acceptsCount_iff {given : Nat} :
    parameters.acceptsCount given = true ↔ parameters.TakesCount given := by
  unfold acceptsCount maxPositional? TakesCount
  cases parameters.rest <;> simp

theorem isUnknown_iff (keyword : Symbol) :
    (!parameters.declares keyword) = true ↔ ¬ parameters.Knows keyword := by
  simp [declares, Knows]

theorem isMissing_iff (parameter : KeywordParameter) :
    (parameter.isRequired && (arguments.keyword? parameter.name).isNone) = true ↔
      ¬ arguments.Provide parameter := by
  have hsupplied := arguments.keywords.contains_iff_mem_keys parameter.name
  unfold Arguments.Provide
  rw [← hsupplied, Bool.and_eq_true, Classical.not_imp, Bool.not_eq_true, Table.contains,
    Option.isSome_eq_false_iff]
  rfl

/-- Binding searches the keywords of the caller by their names. -/
theorem find?_unknown_keyword (parameters : Parameters) (arguments : Arguments) :
    (arguments.keywords.find? fun keyword => !parameters.declares keyword.1).map Prod.fst =
      arguments.keywords.keys.find? fun keyword => !parameters.declares keyword := by
  unfold Table.keys
  rw [List.find?_map]
  rfl

/-! ### Binding decides -/

theorem bind_of_accepts (h : parameters.Accepts arguments) :
    parameters.bind arguments = .ok arguments := by
  have hknown := (find?_eq_none_iff_all isUnknown_iff).mpr h.known
  have hprovided := (find?_eq_none_iff_all isMissing_iff).mpr h.provided
  rw [← find?_unknown_keyword, Option.map_eq_none_iff] at hknown
  simp [bind, acceptsCount_iff.mpr h.count, hknown, hprovided]

theorem bind_of_refuses {error : BindError} (h : parameters.Refuses arguments error) :
    parameters.bind arguments = .error error := by
  cases h with
  | wrongArity hcount => simp [bind, mt acceptsCount_iff.mp hcount]
  | unknownKeyword hcount hfirst =>
      have hfound := (find?_eq_some_iff_firstWithout isUnknown_iff).mpr hfirst
      rw [← find?_unknown_keyword] at hfound
      obtain ⟨keyword, hkeyword, rfl⟩ := Option.map_eq_some_iff.mp hfound
      simp [bind, acceptsCount_iff.mpr hcount, hkeyword]
  | missingKeyword hcount hknown hfirst =>
      have hnone := (find?_eq_none_iff_all isUnknown_iff).mpr hknown
      have hfound := (find?_eq_some_iff_firstWithout isMissing_iff).mpr hfirst
      rw [← find?_unknown_keyword, Option.map_eq_none_iff] at hnone
      simp [bind, acceptsCount_iff.mpr hcount, hnone, hfound]

theorem accepts_or_refuses (parameters : Parameters) (arguments : Arguments) :
    parameters.Accepts arguments ∨ ∃ error, parameters.Refuses arguments error := by
  by_cases hcount : parameters.TakesCount arguments.positional.length
  · by_cases hknown : ∀ keyword ∈ arguments.keywords.keys, parameters.Knows keyword
    · by_cases hprovided : ∀ parameter ∈ parameters.keywords, arguments.Provide parameter
      · exact .inl ⟨hcount, hknown, hprovided⟩
      · obtain ⟨parameter, hfirst⟩ := exists_firstWithout isMissing_iff hprovided
        exact .inr ⟨_, .missingKeyword hcount hknown hfirst⟩
    · obtain ⟨keyword, hfirst⟩ := exists_firstWithout isUnknown_iff hknown
      exact .inr ⟨_, .unknownKeyword hcount hfirst⟩
  · exact .inr ⟨_, .wrongArity hcount⟩

/-- Binding succeeds exactly on the calls that are declared, with the arguments that
were supplied, and reports of every other call the fault that counts. -/
theorem bind_accepts_declared_calls (parameters : Parameters) (arguments : Arguments) :
    (∀ bound, parameters.bind arguments = .ok bound ↔
      parameters.Accepts arguments ∧ bound = arguments) ∧
    (∀ error, parameters.bind arguments = .error error ↔ parameters.Refuses arguments error) := by
  cases accepts_or_refuses parameters arguments with
  | inl haccepts =>
      have hbind := bind_of_accepts haccepts
      refine ⟨fun bound => ?_, fun error => ?_⟩
      · rw [hbind, Except.ok.injEq]
        exact ⟨fun hsame => ⟨haccepts, hsame.symm⟩, fun h => h.2.symm⟩
      · rw [hbind]
        refine ⟨nofun, fun hrefuses => ?_⟩
        rw [← hbind, bind_of_refuses hrefuses]
  | inr hfault =>
      obtain ⟨fault, hrefuses⟩ := hfault
      have hbind := bind_of_refuses hrefuses
      refine ⟨fun bound => ?_, fun error => ?_⟩
      · rw [hbind]
        refine ⟨nofun, fun h => ?_⟩
        rw [← hbind, bind_of_accepts h.1, h.2]
      · rw [hbind, Except.error.injEq]
        constructor
        · rintro rfl
          exact hrefuses
        · intro hother
          have hsame := hbind.symm.trans (bind_of_refuses hother)
          exact Except.error.inj hsame

/-- A keyword that is declared twice is known by the first declaration and required by
the other. -/
example :
    Parameters.bind ⟨[], [], .none, [⟨⟨"mode"⟩, false⟩, ⟨⟨"mode"⟩, true⟩]⟩ ⟨[], []⟩ =
      .error (.missingKeyword ⟨"mode"⟩) :=
  rfl

end Parameters

end CallContract
