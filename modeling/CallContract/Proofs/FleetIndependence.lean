import CallContract.Proofs.Locality

/-!
# Object spaces that share a registry

Operations on one space of a fleet change nothing for another, apart from
contracts in the registry that are not its own.  So what a space answers and
what it becomes does not depend on the operations on others, in whatever order
they come in between.
-/

namespace CallContract

namespace Fleet

def Distinct (fleet : Fleet) : Prop :=
  ∀ index other space another,
    fleet.space? index = some space → fleet.space? other = some another →
      space.id = another.id → index = other

theorem distinct_ofSettings (settings : List Settings) : (ofSettings settings).Distinct := by
  intro index other space another hspace hanother hid
  have hid_of : ∀ {index space}, (ofSettings settings).space? index = some space →
      space.id = ⟨index⟩ := by
    intro index space hspace
    obtain ⟨own, rfl⟩ := space?_ofSettings hspace
    obtain ⟨members, hinitial⟩ := ObjectSpace.initial_eq ⟨index⟩ own []
    rw [hinitial]
  rw [hid_of hspace, hid_of hanother] at hid
  exact SpaceId.mk.inj hid

theorem id_of_space?_perform
    {fleet : Fleet} {target index : Nat} {operation : Operation} {after : ObjectSpace}
    (h : (fleet.perform target operation).2.space? index = some after) :
    ∃ before, fleet.space? index = some before ∧ after.id = before.id := by
  cases htarget : fleet.space? target with
  | none =>
      rw [perform_of_no_space operation htarget] at h
      exact ⟨after, h, rfl⟩
  | some acting =>
      rw [space?_perform operation htarget] at h
      split at h
      next hsame =>
        subst hsame
        cases h
        exact ⟨acting, htarget, (acting.perform_reaches operation).fixed.1⟩
      next =>
        obtain ⟨before, hbefore, rfl⟩ := Option.map_eq_some_iff.mp h
        exact ⟨before, hbefore, rfl⟩

theorem Distinct.perform
    {fleet : Fleet} (h : fleet.Distinct) (target : Nat) (operation : Operation) :
    (fleet.perform target operation).2.Distinct := by
  intro index other space another hspace hanother hid
  obtain ⟨before, hbefore, hsame⟩ := id_of_space?_perform hspace
  obtain ⟨anotherBefore, hanotherBefore, hanotherSame⟩ := id_of_space?_perform hanother
  apply h index other before anotherBefore hbefore hanotherBefore
  rw [← hsame, ← hanotherSame, hid]

/-- A space of a fleet without the contracts of others. -/
def alone? (fleet : Fleet) (index : Nat) : Option ObjectSpace :=
  (fleet.space? index).map ObjectSpace.alone

theorem alone?_perform_of_other
    {fleet : Fleet} (hdistinct : fleet.Distinct) {target index : Nat} (hother : target ≠ index)
    (operation : Operation) :
    (fleet.perform target operation).2.alone? index = fleet.alone? index := by
  cases htarget : fleet.space? target with
  | none => rw [perform_of_no_space operation htarget]
  | some acting =>
      unfold alone?
      rw [space?_perform operation htarget, if_neg hother]
      cases hindex : fleet.space? index with
      | none => rfl
      | some space =>
          have hforeign : acting.id ≠ space.id := by
            intro hid
            exact hother (hdistinct target index acting space htarget hindex hid)
          have howned := (acting.perform_reaches operation).ownedBy_of_others hforeign
          rw [registry_of_space? htarget, ← registry_of_space? hindex] at howned
          change some (space.withRegistry
            ((acting.perform operation).2.registry.ownedBy space.id)) = some space.alone
          rw [howned]
          rfl

/-- An operation does the same in two fleets to spaces that are the same alone. -/
theorem perform_of_alone?_eq
    {fleet fewer : Fleet} {index : Nat} (hsame : fleet.alone? index = fewer.alone? index)
    (operation : Operation) :
    (fleet.perform index operation).1 = (fewer.perform index operation).1 ∧
      (fleet.perform index operation).2.alone? index =
        (fewer.perform index operation).2.alone? index := by
  cases hspace : fleet.space? index with
  | none =>
      have hfewer : fewer.space? index = none := by
        unfold alone? at hsame
        rw [hspace, Option.map_none] at hsame
        exact Option.map_eq_none_iff.mp hsame.symm
      rw [perform_of_no_space operation hspace, perform_of_no_space operation hfewer]
      exact ⟨rfl, hsame⟩
  | some space =>
      unfold alone? at hsame
      rw [hspace] at hsame
      obtain ⟨other, hother, halone⟩ := Option.map_eq_some_iff.mp hsame.symm
      have hperformed := other.perform_alone operation
      rw [halone, space.perform_alone operation] at hperformed
      obtain ⟨houtcome, hafter⟩ := Prod.mk.inj hperformed
      constructor
      · unfold perform
        rw [hspace, hother]
        exact congrArg some houtcome
      · unfold alone?
        rw [space?_perform operation hspace, space?_perform operation hother, if_pos rfl,
          if_pos rfl]
        exact congrArg some hafter

/-- Two fleets in which the spaces that are kept are the same alone. -/
def SameKept (keep : Nat → Bool) (fleet fewer : Fleet) : Prop :=
  ∀ index, keep index = true → fleet.alone? index = fewer.alone? index

variable {keep : Nat → Bool} {fleet fewer : Fleet}

theorem SameKept.perform
    (h : SameKept keep fleet fewer) (hfleet : fleet.Distinct) (hfewer : fewer.Distinct)
    (target : Nat) (operation : Operation) :
    SameKept keep (fleet.perform target operation).2 (fewer.perform target operation).2 := by
  intro index hkeep
  by_cases htarget : target = index
  · subst htarget
    exact (perform_of_alone?_eq (h target hkeep) operation).2
  · rw [alone?_perform_of_other hfleet htarget, alone?_perform_of_other hfewer htarget]
    exact h index hkeep

theorem SameKept.perform_dropped
    (h : SameKept keep fleet fewer) (hfleet : fleet.Distinct)
    {target : Nat} (hdropped : keep target = false) (operation : Operation) :
    SameKept keep (fleet.perform target operation).2 fewer := by
  intro index hkeep
  have hother : target ≠ index := by
    rintro rfl
    rw [hkeep] at hdropped
    cases hdropped
  rw [alone?_perform_of_other hfleet hother]
  exact h index hkeep

/-- Leaving out operations on other spaces is not noticed, by induction on the
operations. -/
theorem SameKept.after
    (h : SameKept keep fleet fewer) (hfleet : fleet.Distinct) (hfewer : fewer.Distinct)
    (steps : List (Nat × Operation)) {index : Nat} (hkeep : keep index = true) :
    fleet.outcomesOf index steps =
        fewer.outcomesOf index (steps.filter fun step => keep step.1) ∧
      (fleet.after steps).alone? index =
        (fewer.after (steps.filter fun step => keep step.1)).alone? index := by
  induction steps generalizing fleet fewer with
  | nil => exact ⟨rfl, h index hkeep⟩
  | cons step rest ih =>
      obtain ⟨target, operation⟩ := step
      cases htarget : keep target with
      | true =>
          obtain ⟨houtcomes, hafter⟩ :=
            ih (h.perform hfleet hfewer target operation) (hfleet.perform target operation)
              (hfewer.perform target operation)
          have hfilter : ((target, operation) :: rest).filter (fun step => keep step.1) =
              (target, operation) :: rest.filter fun step => keep step.1 :=
            List.filter_cons_of_pos htarget
          rw [hfilter]
          refine ⟨?_, hafter⟩
          unfold outcomesOf
          by_cases hindex : target = index
          · subst hindex
            simp only [if_true]
            rw [(perform_of_alone?_eq (h target hkeep) operation).1, houtcomes]
          · simp only [if_neg hindex]
            exact houtcomes
      | false =>
          obtain ⟨houtcomes, hafter⟩ :=
            ih (h.perform_dropped hfleet htarget operation) (hfleet.perform target operation)
              hfewer
          have hindex : target ≠ index := by
            rintro rfl
            rw [hkeep] at htarget
            cases htarget
          rw [List.filter_cons_of_neg (by simp [htarget])]
          refine ⟨?_, hafter⟩
          rw [outcomesOf]
          simp only [if_neg hindex]
          exact houtcomes

/-- Whatever operations on other spaces are left out, a space answers all of
its own operations in the same way and becomes the same: in its trace, in the
contracts of its members, and in everything else that is its own. -/
theorem spaces_independent
    (hdistinct : fleet.Distinct) (steps : List (Nat × Operation)) {index : Nat}
    (hkeep : keep index = true) :
    fleet.outcomesOf index steps =
        fleet.outcomesOf index (steps.filter fun step => keep step.1) ∧
      ∀ space, (fleet.after steps).space? index = some space →
        ∃ without,
          (fleet.after (steps.filter fun step => keep step.1)).space? index = some without ∧
          space.trace = without.trace ∧
          (∀ scope member, space.signature? scope member = without.signature? scope member) ∧
          (∀ scope member, space.isChecked scope member = without.isChecked scope member) ∧
          (∀ scope, space.registry.membersOf space.id scope =
            without.registry.membersOf without.id scope) ∧
          space.alone = without.alone := by
  obtain ⟨houtcomes, hafter⟩ :=
    SameKept.after (fun _ _ => rfl) hdistinct hdistinct steps hkeep
  refine ⟨houtcomes, ?_⟩
  intro space hspace
  unfold alone? at hafter
  rw [hspace] at hafter
  obtain ⟨without, hwithout, halone⟩ := Option.map_eq_some_iff.mp hafter.symm
  refine ⟨without, hwithout, ?_, ?_, ?_, ?_, halone.symm⟩
  · rw [← space.alone_trace, ← halone]
    rfl
  · intro scope member
    rw [← space.signature?_alone, ← halone, ObjectSpace.signature?_alone]
  · intro scope member
    rw [ObjectSpace.isChecked_eq, ObjectSpace.isChecked_eq, ← space.signature?_alone, ← halone,
      ObjectSpace.signature?_alone]
  · intro scope
    have hid : without.id = space.id := congrArg (fun alone => alone.id) halone
    rw [← space.membersOf_alone, ← halone, ← hid, ObjectSpace.membersOf_alone]

theorem spaces_independent_of_a_foreign_contract :
    (ofSettings [.standard, .standard]).outcomesOf 0
        [(1, .contract .object ⟨"run"⟩ (.spec (.list []) .any)),
          (0, .call .nil ⟨"run"⟩ ⟨[], []⟩)] =
      (ofSettings [.standard, .standard]).outcomesOf 0 [(0, .call .nil ⟨"run"⟩ ⟨[], []⟩)] :=
  (@spaces_independent (fun target => target == 0) _
    (distinct_ofSettings [.standard, .standard])
    [(1, .contract .object ⟨"run"⟩ (.spec (.list []) .any)),
      (0, .call .nil ⟨"run"⟩ ⟨[], []⟩)] 0 rfl).1

end Fleet

end CallContract
