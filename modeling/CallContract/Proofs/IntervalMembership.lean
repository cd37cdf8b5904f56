import CallContract.Proofs.BoundedMatching
import CallContract.Proofs.ExactOrder

/-!
# Intervals are convex

What an interval contains depends only on the order of values.  A value between
two members is a member, whatever bounds there are and whatever kinds they are
of: both bounds are compared along a chain, and such a chain stays among the
numbers or among the texts.  Two values that are equal in the order stand on
either side of each other, so an interval that contains one of them contains the
other.  Bounds that are not comparable leave no room for a value between them.
-/

namespace CallContract

namespace Value

/-- The first value is below the second one in the order, or equal to it. -/
def IsAtMost (a b : Value) : Prop :=
  a.compare? b = some .lt ∨ a.compare? b = some .eq

variable {a b c : Value}

theorem isAtMost_iff : a.IsAtMost b ↔ ∃ order, a.compare? b = some order ∧ order ≠ .gt := by
  constructor
  · rintro (h | h)
    · exact ⟨.lt, h, by decide⟩
    · exact ⟨.eq, h, by decide⟩
  · rintro ⟨order, h, hgreater⟩
    cases order with
    | lt => exact .inl h
    | eq => exact .inr h
    | gt => exact absurd rfl hgreater

theorem isAtMost_of_swap (h : b.compare? a = some .gt ∨ b.compare? a = some .eq) :
    a.IsAtMost b := by
  unfold IsAtMost
  rw [compare?_swap b a]
  rcases h with h | h
  · exact .inl (by rw [h]; rfl)
  · exact .inr (by rw [h]; rfl)

theorem IsAtMost.swap (h : a.IsAtMost b) :
    b.compare? a = some .gt ∨ b.compare? a = some .eq := by
  rw [compare?_swap a b]
  rcases h with h | h
  · exact .inl (by rw [h]; rfl)
  · exact .inr (by rw [h]; rfl)

/-- One strict step makes a chain strict. -/
theorem IsAtMost.trans_below (hab : a.IsAtMost b) (hbc : b.compare? c = some .lt) :
    a.compare? c = some .lt := by
  obtain ⟨first, hfirst, hgreater⟩ := isAtMost_iff.mp hab
  rw [compare?_eq_some_iff] at hfirst hbc ⊢
  have hchain := hfirst.trans hbc hgreater (by decide)
  rwa [if_pos (.inr rfl)] at hchain

theorem IsAtMost.trans (hab : a.IsAtMost b) (hbc : b.IsAtMost c) : a.IsAtMost c := by
  rcases hbc with hbelow | hequal
  · exact .inl (hab.trans_below hbelow)
  · obtain ⟨first, hfirst, hgreater⟩ := isAtMost_iff.mp hab
    rw [compare?_eq_some_iff] at hfirst hequal
    have hchain := compare?_eq_some_iff.mpr (hfirst.trans hequal hgreater (by decide))
    split at hchain
    next => exact .inl hchain
    next => exact .inr hchain

theorem IsAtMost.exists_compare?_self (h : a.IsAtMost b) : ∃ order, b.compare? b = some order := by
  obtain ⟨order, hcompare, -⟩ := isAtMost_iff.mp h
  cases compare?_eq_some_iff.mp hcompare with
  | numbers _ hb => exact ⟨_, compare?_of_numbers hb hb⟩
  | texts s t => exact ⟨_, rfl⟩

end Value

namespace Interval

variable {interval : Interval} {a b c value bound : Value}

theorem Holds.start_isAtMost (h : interval.Holds value) (hbound : bound ∈ interval.start) :
    bound.IsAtMost value :=
  Value.isAtMost_of_swap (h.start bound hbound)

theorem Holds.isAtMost_stop (h : interval.Holds value) (hbound : bound ∈ interval.stop) :
    value.IsAtMost bound :=
  (h.stop bound hbound).imp_right And.left

/-- What lies between two members is a member. -/
theorem Holds.between
    (ha : interval.Holds a) (hc : interval.Holds c) (hab : a.IsAtMost b) (hbc : b.IsAtMost c) :
    interval.Holds b where
  start bound hbound := ((ha.start_isAtMost hbound).trans hab).swap
  stop bound hbound := by
    rcases hc.stop bound hbound with hbelow | ⟨hequal, hincluded⟩
    · exact .inl (hbc.trans_below hbelow)
    · exact (hbc.trans (.inr hequal)).imp_right fun h => ⟨h, hincluded⟩
  ordered _ _ := hab.exists_compare?_self

theorem holds_congr (h : a.compare? b = some .eq) : interval.Holds a ↔ interval.Holds b := by
  have hab : a.IsAtMost b := .inr h
  have hba : b.IsAtMost a := Value.isAtMost_of_swap (.inr h)
  exact ⟨fun ha => ha.between ha hab hba, fun hb => hb.between hb hba hab⟩

/-- Without its end an interval has lost the members that are equal to the end. -/
theorem holds_excluding_iff (start stop : Option Value) (value : Value) :
    (mk start stop true).Holds value ↔
      (mk start stop false).Holds value ∧ ∀ bound ∈ stop, value.compare? bound ≠ some .eq := by
  constructor
  · intro h
    have hbelow : ∀ bound ∈ stop, value.compare? bound = some .lt := fun bound hbound =>
      (h.stop bound hbound).resolve_right nofun
    refine ⟨⟨h.start, fun bound hbound => .inl (hbelow bound hbound), h.ordered⟩, ?_⟩
    intro bound hbound hequal
    rw [hbelow bound hbound] at hequal
    cases hequal
  · rintro ⟨h, hunequal⟩
    refine ⟨h.start, fun bound hbound => ?_, h.ordered⟩
    exact .inl ((h.stop bound hbound).resolve_right fun hequal => hunequal bound hbound hequal.1)

theorem not_holds_of_incomparable
    {start stop : Value} (hstart : start ∈ interval.start) (hstop : stop ∈ interval.stop)
    (hbounds : start.compare? stop = none) : ¬ interval.Holds value := by
  intro h
  rcases (h.start_isAtMost hstart).trans (h.isAtMost_stop hstop) with hbelow | hequal
  · cases hbounds.symm.trans hbelow
  · cases hbounds.symm.trans hequal

/-- An interval contains what lies between its members, and with a value all
values that are equal to it in the order.  Excluding the end takes away exactly
the members that are equal to the end, if there is one.  Between bounds that are
not comparable there is nothing. -/
theorem membership_follows_the_order (interval : Interval) :
    (∀ a b c : Value, a.IsAtMost b → b.IsAtMost c →
      interval.contains a = true → interval.contains c = true → interval.contains b = true) ∧
    (∀ a b : Value, a.compare? b = some .eq → interval.contains a = interval.contains b) ∧
    (∀ value : Value, { interval with excludesStop := true }.contains value = true ↔
      { interval with excludesStop := false }.contains value = true ∧
        ∀ stop ∈ interval.stop, value.compare? stop ≠ some .eq) ∧
    (∀ start ∈ interval.start, ∀ stop ∈ interval.stop, start.compare? stop = none →
      ∀ value : Value, interval.contains value = false) := by
  refine ⟨?_, ?_, ?_, ?_⟩
  · intro a b c hab hbc ha hc
    rw [contains_iff] at ha hc ⊢
    exact ha.between hc hab hbc
  · intro a b h
    rw [Bool.eq_iff_iff, contains_iff, contains_iff]
    exact holds_congr h
  · intro value
    rw [contains_iff, contains_iff]
    exact holds_excluding_iff interval.start interval.stop value
  · intro start hstart stop hstop hbounds value
    rw [← Bool.not_eq_true, contains_iff]
    exact not_holds_of_incomparable hstart hstop hbounds

/-- An interval of both kinds of numbers holds an integer and the float of the
same number, and one from a number to a text holds nothing. -/
theorem membership_follows_the_order_of_mixed_bounds :
    let mixed : Interval := ⟨some (.int 1), some (.float (.finite false 0x4004000000000000)), true⟩
    let two : Value := .float (.finite false 0x4000000000000000)
    let lettered : Interval := ⟨some (.int 1), some (.text "m"), false⟩
    (Value.int 1).IsAtMost two ∧ two.IsAtMost (.int 2) ∧ (Value.int 2).compare? two = some .eq ∧
      mixed.contains (.int 1) = true ∧ mixed.contains (.int 2) = true ∧
      mixed.contains two = true ∧ mixed.contains (.int 2) = mixed.contains two ∧
      (Value.int 1).compare? (.text "m") = none ∧ lettered.contains (.text "a") = false := by
  intro mixed two lettered
  have hfirst : (Value.int 1).IsAtMost two := .inl (by decide +kernel)
  have hlast : two.IsAtMost (.int 2) := .inr (by decide +kernel)
  have hsame : (Value.int 2).compare? two = some .eq := by decide +kernel
  have hone : mixed.contains (.int 1) = true := by decide +kernel
  have htwo : mixed.contains (.int 2) = true := by decide +kernel
  obtain ⟨hconvex, hequal, -, -⟩ := membership_follows_the_order mixed
  obtain ⟨-, -, -, hnothing⟩ := membership_follows_the_order lettered
  exact ⟨hfirst, hlast, hsame, hone, htwo, hconvex _ _ _ hfirst hlast hone htwo,
    hequal _ _ hsame, rfl, hnothing _ rfl _ rfl rfl _⟩

end Interval

end CallContract
