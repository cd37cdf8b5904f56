import CallContract.Contract.Matching

/-!
# What bounded matching decides

A descriptor describes a value, or does not, whatever the depth to which tuples
are followed.  Matching to a depth decides this for the descriptors whose tuples
are nested no deeper, and it accepts nothing for all others: a tuple that is out
of reach makes the whole match fail, wherever it stands.
-/

namespace CallContract

/-! ### Intervals -/

/-- The value lies between the bounds, of which the start belongs to the
interval.  Without bounds it has to have a place in the order. -/
structure Interval.Holds (interval : Interval) (value : Value) : Prop where
  start : ∀ bound ∈ interval.start,
    value.compare? bound = some .gt ∨ value.compare? bound = some .eq
  stop : ∀ bound ∈ interval.stop,
    value.compare? bound = some .lt ∨
      value.compare? bound = some .eq ∧ interval.excludesStop = false
  ordered : interval.start = none → interval.stop = none →
    ∃ order, value.compare? value = some order

theorem Interval.admitsFrom_iff (start value : Value) :
    admitsFrom start value = true ↔
      value.compare? start = some .gt ∨ value.compare? start = some .eq := by
  unfold admitsFrom
  split <;> simp_all

theorem Interval.admitsUpTo_iff (excludesStop : Bool) (stop value : Value) :
    admitsUpTo excludesStop stop value = true ↔
      value.compare? stop = some .lt ∨
        value.compare? stop = some .eq ∧ excludesStop = false := by
  unfold admitsUpTo
  split <;> simp_all

theorem Interval.contains_iff (interval : Interval) (value : Value) :
    interval.contains value = true ↔ interval.Holds value := by
  obtain ⟨start, stop, excludesStop⟩ := interval
  cases start with
  | none =>
      cases stop with
      | none =>
          rw [contains, Option.isSome_iff_exists]
          exact ⟨fun h => ⟨nofun, nofun, fun _ _ => h⟩, fun h => h.ordered rfl rfl⟩
      | some stop =>
          simp only [contains, Option.all_none, Option.all_some, Bool.true_and, admitsUpTo_iff]
          exact ⟨fun h => ⟨nofun, by rintro _ ⟨⟩; exact h, nofun⟩, fun h => h.stop stop rfl⟩
  | some start =>
      cases stop with
      | none =>
          simp only [contains, Option.all_none, Option.all_some, Bool.and_true, admitsFrom_iff]
          exact ⟨fun h => ⟨by rintro _ ⟨⟩; exact h, nofun, nofun⟩, fun h => h.start start rfl⟩
      | some stop =>
          simp only [contains, Option.all_some, Bool.and_eq_true, admitsFrom_iff, admitsUpTo_iff]
          exact ⟨fun h => ⟨by rintro _ ⟨⟩; exact h.1, by rintro _ ⟨⟩; exact h.2, nofun⟩,
            fun h => ⟨h.start start rfl, h.stop stop rfl⟩⟩

/-! ### Descriptors -/

namespace Descriptor

/-- What a descriptor says of a value, with no bound on the depth of tuples.  A
predicate that ends in a fault, or does not end properly, says nothing of it. -/
inductive Describes (environment : TypeEnvironment) : Descriptor → Value → Prop
  | instanceOf {type : TypeRef} {value : Value}
      (h : environment.isInstanceOf value type.id = true) :
      Describes environment (.instanceOf type) value
  | respondsTo {member : Symbol} {value : Value}
      (h : environment.respondsTo value member = true) :
      Describes environment (.respondsTo member) value
  | textMatches {pattern : Pattern} {value : Value} {text : String}
      (htext : environment.text? value = some text) (hoccurs : pattern.occursIn text = true) :
      Describes environment (.textMatches pattern) value
  | within {interval : Interval} {value : Value} (h : interval.Holds value) :
      Describes environment (.within interval) value
  | tuple {items : List Descriptor} {elements : List Value}
      (hlength : items.length = elements.length)
      (hitems : ∀ pair ∈ items.zip elements, Describes environment pair.1 pair.2) :
      Describes environment (.tuple items) (.array elements)
  | passes {predicate : Predicate} {value : Value} (h : predicate.run value = .answer true) :
      Describes environment (.passes predicate) value
  | truthy {value : Value} (hnil : value ≠ .nil) (hfalse : value ≠ .bool false) :
      Describes environment .truthy value
  | falsy {value : Value} (h : value = .nil ∨ value = .bool false) :
      Describes environment .falsy value
  | absent : Describes environment .absent .nil
  | anything (value : Value) : Describes environment .anything value

mutual

/-- How deeply tuples are nested; an empty tuple is one level. -/
def nesting : Descriptor → Nat
  | .tuple items => 1 + nestingOfItems items
  | _ => 0

def nestingOfItems : List Descriptor → Nat
  | [] => 0
  | item :: rest => max item.nesting (nestingOfItems rest)

end

theorem nestingOfItems_le_iff (items : List Descriptor) (depth : Nat) :
    nestingOfItems items ≤ depth ↔ ∀ item ∈ items, item.nesting ≤ depth := by
  induction items with
  | nil => simp [nestingOfItems]
  | cons item rest ih => rw [nestingOfItems, Nat.max_le, ih, List.forall_mem_cons]

theorem nesting_tuple_le_iff (items : List Descriptor) (depth : Nat) :
    (tuple items).nesting ≤ depth ↔
      ∃ below, depth = below + 1 ∧ ∀ item ∈ items, item.nesting ≤ below := by
  simp only [nesting, ← nestingOfItems_le_iff]
  constructor
  · intro h
    exact ⟨depth - 1, by omega, by omega⟩
  · rintro ⟨below, rfl, h⟩
    omega

variable {environment : TypeEnvironment}

theorem describes_tuple_iff (items : List Descriptor) (value : Value) :
    Describes environment (.tuple items) value ↔
      ∃ elements, value = .array elements ∧ items.length = elements.length ∧
        ∀ pair ∈ items.zip elements, pair.1.Describes environment pair.2 := by
  constructor
  · rintro (_ | _ | _ | _ | ⟨hlength, hitems⟩)
    exact ⟨_, rfl, hlength, hitems⟩
  · rintro ⟨elements, rfl, hlength, hitems⟩
    exact .tuple hlength hitems

theorem acceptsAll_iff (depth : Nat) (items : List Descriptor) (elements : List Value) :
    acceptsAll environment depth items elements = true ↔
      items.length = elements.length ∧
        ∀ pair ∈ items.zip elements, pair.1.accepts environment depth pair.2 = true := by
  induction items generalizing elements with
  | nil => cases elements <;> simp [acceptsAll]
  | cons item items ih =>
      cases elements with
      | nil => simp [acceptsAll]
      | cons element elements =>
          rw [acceptsAll, Bool.and_eq_true, ih, List.zip_cons_cons, List.forall_mem_cons,
            List.length_cons, List.length_cons, Nat.add_right_cancel_iff]
          exact and_left_comm

theorem accepts_tuple_iff (depth : Nat) (items : List Descriptor) (value : Value) :
    (tuple items).accepts environment depth value = true ↔
      ∃ below elements, depth = below + 1 ∧ value = .array elements ∧
        items.length = elements.length ∧
          ∀ pair ∈ items.zip elements, pair.1.accepts environment below pair.2 = true := by
  constructor
  · intro h
    cases depth with
    | zero => cases h
    | succ below =>
        cases value with
        | array elements => exact ⟨below, elements, rfl, rfl, (acceptsAll_iff _ _ _).mp h⟩
        | _ => cases h
  · rintro ⟨below, elements, rfl, rfl, h⟩
    exact (acceptsAll_iff _ _ _).mpr h

/-- The depth only matters for tuples. -/
theorem accepts_iff_describes_of_not_tuple
    {descriptor : Descriptor} (hleaf : ∀ items, descriptor ≠ .tuple items) (depth : Nat)
    (value : Value) :
    descriptor.accepts environment depth value = true ↔ descriptor.Describes environment value := by
  cases descriptor with
  | instanceOf type => rw [accepts]; exact ⟨.instanceOf, fun | .instanceOf h => h⟩
  | respondsTo member => rw [accepts]; exact ⟨.respondsTo, fun | .respondsTo h => h⟩
  | textMatches pattern =>
      rw [accepts, Option.any_eq_true]
      exact ⟨fun ⟨_, htext, hoccurs⟩ => .textMatches htext hoccurs,
        fun | .textMatches htext hoccurs => ⟨_, htext, hoccurs⟩⟩
  | within interval =>
      rw [accepts, Interval.contains_iff]
      exact ⟨.within, fun | .within h => h⟩
  | tuple items => exact absurd rfl (hleaf items)
  | passes predicate =>
      have hanswer : predicate.passes value = true ↔ predicate.run value = .answer true := by
        unfold Predicate.passes PredicateOutcome.passes
        split <;> simp_all
      rw [accepts, hanswer]
      exact ⟨.passes, fun | .passes h => h⟩
  | truthy =>
      have htruthy : value.truthy = true ↔ value ≠ .nil ∧ value ≠ .bool false := by
        unfold Value.truthy
        split <;> simp_all
      rw [accepts, htruthy]
      exact ⟨fun h => .truthy h.1 h.2, fun | .truthy hnil hfalse => ⟨hnil, hfalse⟩⟩
  | falsy =>
      have hfalsy : (!value.truthy) = true ↔ value = .nil ∨ value = .bool false := by
        unfold Value.truthy
        split <;> simp_all
      rw [accepts, hfalsy]
      exact ⟨.falsy, fun | .falsy h => h⟩
  | absent => cases value <;> simp [accepts, Value.isNil] <;> first | exact .absent | exact nofun
  | anything => exact ⟨fun _ => .anything value, fun _ => rfl⟩

theorem nesting_of_not_tuple
    {descriptor : Descriptor} (hleaf : ∀ items, descriptor ≠ .tuple items) :
    descriptor.nesting = 0 := by
  cases descriptor with
  | tuple items => exact absurd rfl (hleaf items)
  | _ => rfl

theorem tuple_or_not_tuple (descriptor : Descriptor) :
    (∃ items, descriptor = .tuple items) ∨ ∀ items, descriptor ≠ .tuple items := by
  cases descriptor with
  | tuple items => exact .inl ⟨items, rfl⟩
  | _ => exact .inr nofun

/-- A tuple that is out of reach makes the match fail, wherever it stands. -/
theorem nesting_le_of_accepts
    {depth : Nat} {descriptor : Descriptor} {value : Value}
    (h : descriptor.accepts environment depth value = true) : descriptor.nesting ≤ depth := by
  induction depth using Nat.strongRecOn generalizing descriptor value with
  | ind depth ih =>
    rcases descriptor.tuple_or_not_tuple with ⟨items, rfl⟩ | hleaf
    · obtain ⟨below, elements, rfl, rfl, hlength, hitems⟩ := (accepts_tuple_iff _ _ _).mp h
      rw [nesting_tuple_le_iff]
      refine ⟨below, rfl, fun item hitem => ?_⟩
      -- every item has an element to be matched with, so none escapes the bound
      rw [← List.map_fst_zip (Nat.le_of_eq hlength)] at hitem
      obtain ⟨pair, hpair, rfl⟩ := List.mem_map.mp hitem
      exact ih below (Nat.lt_succ_self below) (hitems pair hpair)
    · rw [nesting_of_not_tuple hleaf]
      exact Nat.zero_le depth

/-- Within the bound, matching decides what the descriptor says. -/
theorem accepts_iff_describes
    {depth : Nat} {descriptor : Descriptor} (hnesting : descriptor.nesting ≤ depth)
    (value : Value) :
    descriptor.accepts environment depth value = true ↔ descriptor.Describes environment value := by
  induction depth using Nat.strongRecOn generalizing descriptor value with
  | ind depth ih =>
    rcases descriptor.tuple_or_not_tuple with ⟨items, rfl⟩ | hleaf
    · obtain ⟨below, rfl, hbelow⟩ := (nesting_tuple_le_iff _ _).mp hnesting
      have hpairs : ∀ elements : List Value, ∀ pair ∈ items.zip elements,
          (pair.1.accepts environment below pair.2 = true ↔ pair.1.Describes environment pair.2) :=
        fun elements pair hpair =>
          ih below (Nat.lt_succ_self below) (hbelow _ (List.of_mem_zip hpair).1) _
      rw [accepts_tuple_iff, describes_tuple_iff]
      constructor
      · rintro ⟨_, elements, ⟨⟩, rfl, hlength, hitems⟩
        exact ⟨elements, rfl, hlength, fun pair hpair =>
          (hpairs elements pair hpair).mp (hitems pair hpair)⟩
      · rintro ⟨elements, rfl, hlength, hitems⟩
        exact ⟨below, elements, rfl, rfl, hlength, fun pair hpair =>
          (hpairs elements pair hpair).mpr (hitems pair hpair)⟩
    · exact accepts_iff_describes_of_not_tuple hleaf depth value

/-- Matching to a depth accepts the values that a descriptor describes if its
tuples are nested no deeper, and none otherwise. -/
theorem accepts_iff_reaches_and_describes
    (environment : TypeEnvironment) (depth : Nat) (descriptor : Descriptor) (value : Value) :
    descriptor.accepts environment depth value = true ↔
      descriptor.nesting ≤ depth ∧ descriptor.Describes environment value := by
  constructor
  · intro h
    have hnesting := nesting_le_of_accepts h
    exact ⟨hnesting, (accepts_iff_describes hnesting value).mp h⟩
  · rintro ⟨hnesting, h⟩
    exact (accepts_iff_describes hnesting value).mpr h

end Descriptor

end CallContract
