import CallContract.Contract.Compilation
import CallContract.ObjectSpace.Action

/-!
# Terms of signatures

A descriptor was written as one term, and a signature has a term of its own:
the keywords are the last item of the arguments, or the arguments if there are
no positions.  Other ways of writing an argument side, such as a list that
holds only a map, denote a signature whose own term is the shorter one.
-/

namespace CallContract

/-! ### Terms of descriptors -/

mutual

def Descriptor.term : Descriptor → Term
  | .instanceOf type => .scope type
  | .respondsTo member => .symbol member
  | .textMatches pattern => .pattern pattern
  | .within interval => .interval interval
  | .tuple items => .list (descriptorTerms items)
  | .passes predicate => .predicate predicate
  | .truthy => .bool true
  | .falsy => .bool false
  | .absent => .nil
  | .anything => .any

def descriptorTerms : List Descriptor → List Term
  | [] => []
  | item :: rest => item.term :: descriptorTerms rest

end

theorem descriptorTerms_eq_map (items : List Descriptor) :
    descriptorTerms items = items.map Descriptor.term := by
  induction items with
  | nil => rfl
  | cons item rest ih => rw [descriptorTerms, ih, List.map_cons]

mutual

theorem term_of_descriptorAt
    {side : Side} {slot : Slot} {depth : Nat} {descriptor : Descriptor} :
    (term : Term) → term.descriptorAt side slot depth = .ok descriptor → term = descriptor.term
  | .list items, h => by
      rw [Term.descriptorAt] at h
      split at h
      · cases h
      · obtain ⟨descriptors, hitems, rfl⟩ := map_eq_ok_iff.mp h
        rw [Descriptor.term, ← terms_of_itemDescriptors items hitems]
  | .scope _, h | .symbol _, h | .pattern _, h | .interval _, h | .predicate _, h
  | .bool true, h | .bool false, h | .any, h => by
      unfold Term.descriptorAt at h
      split at h <;> cases h
      rfl
  | .nil, h => by
      unfold Term.descriptorAt at h
      dsimp only at h
      split at h
      · cases h
      · split at h
        · cases h
        · split at h <;> cases h
          rfl
  | .map _, h | .int _, h | .float _, h | .quoted _, h => by
      unfold Term.descriptorAt at h
      split at h <;> cases h

theorem terms_of_itemDescriptors
    {side : Side} {slot : Slot} {depth : Nat} {descriptors : List Descriptor} :
    (items : List Term) → itemDescriptors side slot depth items = .ok descriptors →
      items = descriptorTerms descriptors
  | [], h => by
      cases h
      rfl
  | item :: rest, h => by
      obtain ⟨first, hfirst, hothers⟩ := bind_eq_ok_iff.mp h
      obtain ⟨others, hrest, hboth⟩ := bind_eq_ok_iff.mp hothers
      cases hboth
      rw [descriptorTerms, ← term_of_descriptorAt item hfirst,
        ← terms_of_itemDescriptors rest hrest]

end

theorem term_of_descriptor
    {term : Term} {side : Side} {slot : Slot} {descriptor : Descriptor}
    (h : term.descriptor side slot = .ok descriptor) : term = descriptor.term :=
  term_of_descriptorAt term h

mutual

/-- A descriptor can be told from its term. -/
theorem Descriptor.eq_of_term_eq (first second : Descriptor) (h : first.term = second.term) :
    first = second := by
  cases first with
  | tuple items =>
      cases second with
      | tuple others => rw [eq_of_descriptorTerms_eq items others (Term.list.inj h)]
      | _ => cases h
  | _ =>
      cases second <;> cases h
      rfl

theorem eq_of_descriptorTerms_eq
    (first second : List Descriptor) (h : descriptorTerms first = descriptorTerms second) :
    first = second := by
  cases first with
  | nil =>
      cases second with
      | nil => rfl
      | cons other others => cases h
  | cons item rest =>
      cases second with
      | nil => cases h
      | cons other others =>
          obtain ⟨hitem, hrest⟩ := List.cons.inj h
          rw [Descriptor.eq_of_term_eq item other hitem, eq_of_descriptorTerms_eq rest others hrest]

end

theorem descriptor_term_ne_map (descriptor : Descriptor) (entries : List (Key × Term)) :
    descriptor.term ≠ .map entries := by
  intro h
  cases descriptor <;> simp only [Descriptor.term, reduceCtorEq] at h

/-! ### Positions and keywords -/

theorem terms_of_positionalDescriptors
    {index : Nat} {items : List Term} {descriptors : List Descriptor}
    (h : positionalDescriptors index items = .ok descriptors) :
    items = descriptors.map Descriptor.term := by
  induction items generalizing index descriptors with
  | nil =>
      cases h
      rfl
  | cons item rest ih =>
      unfold positionalDescriptors at h
      split at h
      next hnil => cases hnil
      next => cases h
      next hcons =>
        cases hcons
        obtain ⟨first, hfirst, hothers⟩ := bind_eq_ok_iff.mp h
        obtain ⟨others, hrest, hboth⟩ := bind_eq_ok_iff.mp hothers
        cases hboth
        rw [List.map_cons, ← ih hrest, ← term_of_descriptor hfirst]

def keywordEntry (keyword : Symbol × Descriptor) : Key × Term :=
  (.symbol keyword.1, keyword.2.term)

theorem entries_of_keywordDescriptors
    {earlier keywords : Table Symbol Descriptor} {entries : List (Key × Term)}
    (h : keywordDescriptors earlier entries = .ok keywords) :
    ∃ later, keywords = earlier ++ later ∧ entries = later.map keywordEntry := by
  induction entries generalizing earlier with
  | nil =>
      cases h
      exact ⟨[], (List.append_nil _).symm, rfl⟩
  | cons entry rest ih =>
      unfold keywordDescriptors at h
      split at h
      next hnil => cases hnil
      next name term _ hcons =>
        cases hcons
        obtain ⟨descriptor, hdescriptor, hothers⟩ := bind_eq_ok_iff.mp h
        split at hothers
        · cases hothers
        · obtain ⟨later, hkeywords, hrest⟩ := ih hothers
          refine ⟨(name, descriptor) :: later, ?_, ?_⟩
          · rw [hkeywords, List.append_assoc, List.singleton_append]
          · rw [List.map_cons, keywordEntry, ← hrest, ← term_of_descriptor hdescriptor]
      next => cases h

/-! ### Argument sides -/

def Signature.keywordEntries (signature : Signature) : List (Key × Term) :=
  signature.keywords.map keywordEntry

def Signature.positionalTerms (signature : Signature) : List Term :=
  signature.positional.map Descriptor.term

def Signature.argumentTerm (signature : Signature) : Term :=
  match signature.positional, signature.keywords with
  | [], _ :: _ => .map signature.keywordEntries
  | _, [] => .list signature.positionalTerms
  | _, _ :: _ => .list (signature.positionalTerms ++ [.map signature.keywordEntries])

def Signature.term (signature : Signature) : Term :=
  .spec signature.argumentTerm signature.result.term

theorem splitKeywords_append (items : List Term) (entries : List (Key × Term)) :
    splitKeywords (items ++ [.map entries]) = (items, entries) := by
  simp [splitKeywords]

theorem splitKeywords_terms (descriptors : List Descriptor) :
    splitKeywords (descriptors.map Descriptor.term) = (descriptors.map Descriptor.term, []) := by
  unfold splitKeywords
  split
  next entries hlast =>
    rw [List.getLast?_map] at hlast
    obtain ⟨descriptor, -, hmap⟩ := Option.map_eq_some_iff.mp hlast
    exact absurd hmap (descriptor_term_ne_map descriptor entries)
  next => rfl

/-- The descriptors of a signature are those of the terms they were written as. -/
structure Signature.IsCompiled (signature : Signature) : Prop where
  positional :
    positionalDescriptors 0 signature.positionalTerms = .ok signature.positional
  keywords : keywordDescriptors [] signature.keywordEntries = .ok signature.keywords
  result : signature.result.term.descriptor .result .result = .ok signature.result

theorem Signature.IsCompiled.argumentSide
    {signature : Signature} (h : signature.IsCompiled) :
    signature.argumentTerm.argumentSide = .ok (signature.positional, signature.keywords) := by
  have hkeywords := h.keywords
  have hsplit : splitKeywords signature.positionalTerms = (signature.positionalTerms, []) :=
    splitKeywords_terms signature.positional
  unfold Signature.argumentTerm
  split
  next hpositional _ =>
    rw [Term.argumentSide, hkeywords, hpositional]
    rfl
  next hnone =>
    rw [Signature.keywordEntries, hnone] at hkeywords
    rw [Term.argumentSide, hsplit, hnone]
    simp only [h.positional]
    rfl
  next =>
    rw [Term.argumentSide, splitKeywords_append]
    simp only [h.positional, hkeywords]
    rfl

theorem Signature.IsCompiled.signature_term
    {signature : Signature} (h : signature.IsCompiled) :
    signature.term.signature = .ok signature := by
  simp only [Signature.term, Term.spec, Term.signature, h.argumentSide, h.result]
  rfl

theorem argumentSide_eq_ok
    {arguments : Term} {positional : List Descriptor} {keywords : Table Symbol Descriptor}
    (h : arguments.argumentSide = .ok (positional, keywords)) :
    ∃ items entries,
      (arguments = .list items ∧ entries = [] ∨
        arguments = .list (items ++ [.map entries]) ∨
        arguments = .map entries ∧ items = []) ∧
      positionalDescriptors 0 items = .ok positional ∧
      keywordDescriptors [] entries = .ok keywords := by
  cases arguments
  case list items =>
    obtain ⟨first, hpositional, hrest⟩ := bind_eq_ok_iff.mp h
    obtain ⟨second, hkeywords, hboth⟩ := bind_eq_ok_iff.mp hrest
    cases hboth
    refine ⟨(splitKeywords items).1, (splitKeywords items).2, ?_, hpositional, hkeywords⟩
    unfold splitKeywords
    split
    next entries hlast =>
      obtain ⟨front, rfl⟩ := List.getLast?_eq_some_iff.mp hlast
      rw [List.dropLast_concat]
      exact .inr (.inl rfl)
    next => exact .inl ⟨rfl, rfl⟩
  case map entries =>
    obtain ⟨second, hkeywords, hboth⟩ := bind_eq_ok_iff.mp h
    cases hboth
    exact ⟨[], entries, .inr (.inr ⟨rfl, rfl⟩), rfl, hkeywords⟩
  all_goals cases h

/-- The ways of writing the argument side of a signature. -/
def Signature.HasArguments (signature : Signature) (arguments : Term) : Prop :=
  arguments = .list signature.positionalTerms ∧ signature.keywords = [] ∨
    arguments = .list (signature.positionalTerms ++ [.map signature.keywordEntries]) ∨
    arguments = .map signature.keywordEntries ∧ signature.positional = []

theorem signature_eq_ok
    {term : Term} {signature : Signature} (h : term.signature = .ok signature) :
    signature.IsCompiled ∧
      ∃ arguments, term = .spec arguments signature.result.term ∧
        signature.HasArguments arguments := by
  unfold Term.signature at h
  split at h
  next arguments result =>
    obtain ⟨⟨positional, keywords⟩, hside, hrest⟩ := bind_eq_ok_iff.mp h
    obtain ⟨descriptor, hresult, hsignature⟩ := bind_eq_ok_iff.mp hrest
    cases hsignature
    obtain ⟨items, entries, harguments, hpositional, hkeywords⟩ := argumentSide_eq_ok hside
    obtain ⟨later, rfl, rfl⟩ := entries_of_keywordDescriptors hkeywords
    obtain rfl := terms_of_positionalDescriptors hpositional
    obtain rfl := term_of_descriptor hresult
    refine ⟨⟨hpositional, hkeywords, hresult⟩, arguments, rfl, ?_⟩
    rcases harguments with ⟨rfl, hnone⟩ | rfl | ⟨rfl, hnone⟩
    · exact .inl ⟨rfl, List.map_eq_nil_iff.mp hnone⟩
    · exact .inr (.inl rfl)
    · exact .inr (.inr ⟨rfl, List.map_eq_nil_iff.mp hnone⟩)
  next => cases h
  next => cases h

end CallContract
