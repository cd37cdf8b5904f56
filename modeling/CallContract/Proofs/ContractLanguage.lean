import CallContract.Proofs.ContractTerms

/-!
# The language of contracts

A term is a contract if it is a map from one argument side to a result, and all
of its parts are descriptions: terms made of a few kinds of nodes, none of them
inside too many lists.  Compilation accepts exactly these terms.  It translates
them part by part, and of a term that is no contract it reports what is wrong
with the first part, in the order of writing, that has a fault.
-/

namespace CallContract

/-! ### Faults of outcomes -/

/-- The error that an outcome ends in, if it ends in one. -/
def faultOf : Except ε α → Option ε
  | .ok _ => none
  | .error error => some error

theorem faultOf_eq_none_iff {outcome : Except ε α} :
    faultOf outcome = none ↔ ∃ result, outcome = .ok result := by
  cases outcome <;> simp [faultOf]

theorem faultOf_eq_some_iff {outcome : Except ε α} {error : ε} :
    faultOf outcome = some error ↔ outcome = .error error := by
  cases outcome <;> simp [faultOf]

theorem faultOf_map (outcome : Except ε α) (f : α → β) :
    faultOf (outcome.map f) = faultOf outcome := by
  cases outcome <;> rfl

/-- The fault of two steps is that of the first, or else that of the second. -/
theorem faultOf_bind
    {first : Except ε α} {next : α → Except ε β} {later : Option ε}
    (hnext : ∀ intermediate, first = .ok intermediate → faultOf (next intermediate) = later) :
    faultOf (first >>= next) = (faultOf first).or later := by
  cases first with
  | ok intermediate => exact hnext intermediate rfl
  | error error => rfl

theorem faultOf_bind_pure (outcome : Except ε α) (f : α → β) :
    faultOf (outcome >>= fun result => pure (f result)) = faultOf outcome := by
  cases outcome <;> rfl

theorem findSome?_cons_eq_or (f : α → Option β) (first : α) (rest : List α) :
    (first :: rest).findSome? f = (f first).or (rest.findSome? f) := by
  rw [List.findSome?_cons]
  cases f first <;> rfl

/-! ### Descriptions -/

mutual

/-- The nodes of a term in the order of writing, each with the number of lists
that it is inside. -/
def Term.nodes (depth : Nat) : Term → List (Nat × Term)
  | .list items => (depth, .list items) :: nodesOfItems (depth + 1) items
  | term => [(depth, term)]

def nodesOfItems (depth : Nat) : List Term → List (Nat × Term)
  | [] => []
  | item :: rest => item.nodes depth ++ nodesOfItems depth rest

end

/-- The kinds of terms that descriptions are made of. -/
def Term.IsBuildingBlock : Term → Prop
  | .scope _ | .symbol _ | .pattern _ | .interval _ | .predicate _ | .bool _ | .any
  | .list _ => True
  | .nil | .map _ | .int _ | .float _ | .quoted _ => False

def Term.IsDescription (term : Term) : Prop :=
  ∀ node ∈ term.nodes 0, node.2.IsBuildingBlock ∧ node.1 ≤ maxNesting

/-- What is wrong with a node that is inside a number of lists. -/
def nodeFault? (side : Side) (slot : Slot) (node : Nat × Term) : Option SignatureError :=
  if maxNesting < node.1 then some (.tooDeep maxNesting slot)
  else
    match node.2 with
    | .nil =>
        if side = .argument then some (.absentInArguments slot)
        else if node.1 = 0 then none
        else some (.invalidBehavior node.2.text slot)
    | .map _ | .int _ | .float _ | .quoted _ => some (.invalidBehavior node.2.text slot)
    | _ => none

/-- What is wrong with the first node of a term that has a fault. -/
def Term.fault? (term : Term) (side : Side) (slot : Slot) : Option SignatureError :=
  (term.nodes 0).findSome? (nodeFault? side slot)

mutual

theorem faultOf_descriptorAt (side : Side) (slot : Slot) (depth : Nat) :
    (term : Term) → faultOf (term.descriptorAt side slot depth) =
      (term.nodes depth).findSome? (nodeFault? side slot)
  | .list items => by
      rw [Term.descriptorAt, Term.nodes, List.findSome?_cons, nodeFault?]
      split
      · rfl
      · rw [faultOf_map, faultOf_itemDescriptors side slot (depth + 1) items]
  | .nil => by
      unfold Term.descriptorAt
      rw [Term.nodes, List.findSome?_singleton, nodeFault?]
      · split
        · rfl
        · dsimp only
          split
          · rfl
          · split <;> rfl
      · exact nofun
  | .scope _ | .symbol _ | .pattern _ | .interval _ | .predicate _ | .bool true | .bool false
  | .any | .map _ | .int _ | .float _ | .quoted _ => by
      unfold Term.descriptorAt
      rw [Term.nodes, List.findSome?_singleton, nodeFault?]
      · split <;> rfl
      · exact nofun

theorem faultOf_itemDescriptors (side : Side) (slot : Slot) (depth : Nat) :
    (items : List Term) → faultOf (itemDescriptors side slot depth items) =
      (nodesOfItems depth items).findSome? (nodeFault? side slot)
  | [] => rfl
  | item :: rest => by
      rw [nodesOfItems, List.findSome?_append, ← faultOf_descriptorAt side slot depth item,
        ← faultOf_itemDescriptors side slot depth rest]
      exact faultOf_bind fun descriptor _ => faultOf_bind_pure _ _

end

theorem nodeFault?_eq_none_iff {side : Side} {slot : Slot} {node : Nat × Term} :
    nodeFault? side slot node = none ↔
      node.1 ≤ maxNesting ∧
        (node.2.IsBuildingBlock ∨ node.2 = .nil ∧ side = .result ∧ node.1 = 0) := by
  obtain ⟨depth, node⟩ := node
  unfold nodeFault?
  split
  next hdepth => exact ⟨nofun, fun h => absurd h.1 (Nat.not_le_of_lt hdepth)⟩
  next hdepth =>
    have hreach : depth ≤ maxNesting := Nat.le_of_not_lt hdepth
    cases node <;> cases side <;> simp [Term.IsBuildingBlock, hreach]

/-! ### Nodes -/

theorem self_mem_nodes (term : Term) (depth : Nat) : (depth, term) ∈ term.nodes depth := by
  cases term <;> simp [Term.nodes]

theorem mem_nodesOfItems_iff {items : List Term} {depth : Nat} {node : Nat × Term} :
    node ∈ nodesOfItems depth items ↔ ∃ item ∈ items, node ∈ item.nodes depth := by
  induction items with
  | nil => simp [nodesOfItems]
  | cons item rest ih => simp [nodesOfItems, ih]

mutual

theorem depth_le_of_mem_nodes {depth : Nat} {node : Nat × Term} :
    (term : Term) → node ∈ term.nodes depth → depth ≤ node.1
  | .list items, h => by
      rw [Term.nodes] at h
      rcases List.mem_cons.mp h with rfl | hinside
      · exact Nat.le_refl depth
      · exact Nat.le_of_succ_le (depth_le_of_mem_nodesOfItems items hinside)
  | .scope _, h | .symbol _, h | .pattern _, h | .interval _, h | .predicate _, h | .bool _, h
  | .any, h | .map _, h | .int _, h | .float _, h | .quoted _, h | .nil, h => by
      simp only [Term.nodes, List.mem_singleton] at h
      exact Nat.le_of_eq (congrArg Prod.fst h).symm

theorem depth_le_of_mem_nodesOfItems {depth : Nat} {node : Nat × Term} :
    (items : List Term) → node ∈ nodesOfItems depth items → depth ≤ node.1
  | [], h => nomatch h
  | item :: rest, h => by
      rcases List.mem_append.mp h with hitem | hrest
      · exact depth_le_of_mem_nodes item hitem
      · exact depth_le_of_mem_nodesOfItems rest hrest

end

/-- The only node of a term that is inside no list is the term itself. -/
theorem eq_of_mem_nodes {term node : Term} (h : (0, node) ∈ term.nodes 0) : node = term := by
  cases term with
  | list items =>
      rw [Term.nodes] at h
      rcases List.mem_cons.mp h with hself | hinside
      · exact (Prod.mk.inj hself).2
      · exact absurd (depth_le_of_mem_nodesOfItems items hinside) (Nat.not_succ_le_zero 0)
  | _ =>
      simp only [Term.nodes, List.mem_singleton] at h
      exact (Prod.mk.inj h).2

variable {term : Term} {slot : Slot}

theorem fault?_argument_eq_none_iff : term.fault? .argument slot = none ↔ term.IsDescription := by
  unfold Term.fault? Term.IsDescription
  rw [List.findSome?_eq_none_iff]
  refine forall₂_congr fun node _ => ?_
  rw [nodeFault?_eq_none_iff]
  simp [and_comm]

theorem fault?_result_eq_none_iff :
    term.fault? .result slot = none ↔ term.IsDescription ∨ term = .nil := by
  unfold Term.fault? Term.IsDescription
  rw [List.findSome?_eq_none_iff]
  constructor
  · intro h
    by_cases hnil : term = .nil
    · exact .inr hnil
    · refine .inl fun node hnode => ?_
      obtain ⟨hdepth, hblock | ⟨hnode', -, houter⟩⟩ := nodeFault?_eq_none_iff.mp (h node hnode)
      · exact ⟨hblock, hdepth⟩
      · obtain ⟨depth, found⟩ := node
        obtain rfl : depth = 0 := houter
        obtain rfl : found = .nil := hnode'
        exact absurd (eq_of_mem_nodes hnode).symm hnil
  · rintro (h | rfl) node hnode
    · exact nodeFault?_eq_none_iff.mpr ⟨(h node hnode).2, .inl (h node hnode).1⟩
    · obtain rfl := List.mem_singleton.mp hnode
      rfl

/-! ### Parts of a contract -/

/-- The ways in which positions and keywords are written on the argument side. -/
inductive Term.Splits : Term → List Term → List (Key × Term) → Prop
  | keywords (entries : List (Key × Term)) : Splits (.map entries) [] entries
  | positions {items : List Term} (hlast : ∀ entries, items.getLast? ≠ some (.map entries)) :
      Splits (.list items) items []
  | both (items : List Term) (entries : List (Key × Term)) :
      Splits (.list (items ++ [.map entries])) items entries

/-- A part of a contract with its place: the index of a position, and the
keywords before a keyword. -/
inductive ContractPart
  | position (index : Nat) (term : Term)
  | keyword (earlier : List Symbol) (key : Key) (term : Term)
  | result (term : Term)

/-- What is wrong with a part: first its key, then its term, then that the
keyword has been used before. -/
def ContractPart.fault? : ContractPart → Option SignatureError
  | .position index (.map _) => some (.misplacedKeywords index)
  | .position index term => term.fault? .argument (.position index)
  | .keyword earlier (.symbol name) term =>
      (term.fault? .argument (.keyword name)).or
        (if name ∈ earlier then some (.duplicateKeyword name) else none)
  | .keyword _ key _ => some (.nonSymbolKeyword key.text)
  | .result term => term.fault? .result .result

def positionParts (index : Nat) (items : List Term) : List ContractPart :=
  (items.zipIdx index).map fun item => .position item.2 item.1

def keywordParts (earlier : List Symbol) : List (Key × Term) → List ContractPart
  | [] => []
  | (.symbol name, term) :: rest =>
      .keyword earlier (.symbol name) term :: keywordParts (earlier ++ [name]) rest
  | (key, term) :: rest => .keyword earlier key term :: keywordParts earlier rest

/-- The parts of a contract in the order of writing. -/
def contractParts (items : List Term) (entries : List (Key × Term)) (result : Term) :
    List ContractPart :=
  positionParts 0 items ++ keywordParts [] entries ++ [.result result]

theorem faultOf_descriptor (term : Term) (side : Side) (slot : Slot) :
    faultOf (term.descriptor side slot) = term.fault? side slot :=
  faultOf_descriptorAt side slot 0 term

theorem faultOf_positionalDescriptors (index : Nat) (items : List Term) :
    faultOf (positionalDescriptors index items) =
      (positionParts index items).findSome? ContractPart.fault? := by
  induction items generalizing index with
  | nil => rfl
  | cons item rest ih =>
      rw [positionParts, List.zipIdx_cons, List.map_cons, ← positionParts, findSome?_cons_eq_or,
        ← ih (index + 1)]
      cases item with
      | map entries => rfl
      | _ =>
          refine (faultOf_bind fun descriptor _ => faultOf_bind_pure _ _).trans ?_
          rw [faultOf_descriptor]
          rfl

theorem faultOf_keywordDescriptors
    (earlier : Table Symbol Descriptor) (entries : List (Key × Term)) :
    faultOf (keywordDescriptors earlier entries) =
      (keywordParts earlier.keys entries).findSome? ContractPart.fault? := by
  induction entries generalizing earlier with
  | nil => rfl
  | cons entry rest ih =>
      obtain ⟨key, term⟩ := entry
      cases key with
      | symbol name =>
          rw [keywordParts, findSome?_cons_eq_or, ContractPart.fault?, Option.or_assoc,
            ← faultOf_descriptor]
          apply faultOf_bind
          intro descriptor _
          have hkeys : (earlier ++ [(name, descriptor)]).keys = earlier.keys ++ [name] :=
            List.map_append
          by_cases hrepeated : name ∈ earlier.keys
          · rw [if_pos ((earlier.contains_iff_mem_keys name).mpr hrepeated), if_pos hrepeated]
            rfl
          · rw [if_neg (mt (earlier.contains_iff_mem_keys name).mp hrepeated), if_neg hrepeated,
              ih, hkeys, Option.none_or]
      | _ => rfl

theorem argumentSide_of_splits
    {arguments : Term} {items : List Term} {entries : List (Key × Term)}
    (h : arguments.Splits items entries) :
    arguments.argumentSide = (do
      let positional ← positionalDescriptors 0 items
      let keywords ← keywordDescriptors [] entries
      pure (positional, keywords)) := by
  cases h with
  | keywords => rfl
  | positions hlast =>
      have hsplit : splitKeywords items = (items, []) := by
        unfold splitKeywords
        split
        next entries hmap => exact absurd hmap (hlast entries)
        next => rfl
      rw [Term.argumentSide, hsplit]
  | both => rw [Term.argumentSide, splitKeywords_append]

theorem splits_or_argumentSide (arguments : Term) :
    (∃ items entries, arguments.Splits items entries) ∨
      (∀ items entries, ¬ arguments.Splits items entries) ∧
        arguments.argumentSide = .error (.invalidArgumentSide arguments.text) := by
  cases arguments with
  | list items =>
      left
      by_cases hlast : ∃ entries, items.getLast? = some (.map entries)
      · obtain ⟨entries, hmap⟩ := hlast
        obtain ⟨front, rfl⟩ := List.getLast?_eq_some_iff.mp hmap
        exact ⟨front, entries, .both front entries⟩
      · exact ⟨items, [], .positions fun entries hmap => hlast ⟨entries, hmap⟩⟩
  | map entries => exact .inl ⟨[], entries, .keywords entries⟩
  | _ => exact .inr ⟨nofun, rfl⟩

/-- Compilation stops at the first part that has a fault. -/
theorem faultOf_signature
    {arguments result : Term} {items : List Term} {entries : List (Key × Term)}
    (h : arguments.Splits items entries) :
    faultOf (Term.spec arguments result).signature =
      (contractParts items entries result).findSome? ContractPart.fault? := by
  have hside : faultOf arguments.argumentSide =
      ((positionParts 0 items).findSome? ContractPart.fault?).or
        ((keywordParts [] entries).findSome? ContractPart.fault?) := by
    rw [argumentSide_of_splits h, ← faultOf_positionalDescriptors]
    exact faultOf_bind fun positional _ =>
      (faultOf_bind_pure _ _).trans (faultOf_keywordDescriptors [] entries)
  have hresult : faultOf (result.descriptor .result .result) =
      [ContractPart.result result].findSome? ContractPart.fault? := by
    rw [faultOf_descriptor, List.findSome?_singleton, ContractPart.fault?]
  rw [contractParts, List.findSome?_append, List.findSome?_append, ← hside, ← hresult]
  exact faultOf_bind fun side _ => faultOf_bind_pure _ _

/-! ### Contracts -/

/-- The keys are symbols, no two of them the same, and stand before descriptions. -/
structure AreKeywords (entries : List (Key × Term)) : Prop where
  symbols : ∀ entry ∈ entries, ∃ name, entry.1 = .symbol name
  distinct : (entries.map Prod.fst).Nodup
  descriptions : ∀ entry ∈ entries, entry.2.IsDescription

theorem areKeywords_nil : AreKeywords [] :=
  ⟨List.forall_mem_nil _, List.nodup_nil, List.forall_mem_nil _⟩

/-- A map with one entry, from a list of descriptions that may end in a map of
keywords, or from such a map alone, to a description or `nil`. -/
def Term.IsContract (term : Term) : Prop :=
  ∃ arguments result items entries,
    term = .spec arguments result ∧ arguments.Splits items entries ∧
      (∀ item ∈ items, item.IsDescription) ∧ AreKeywords entries ∧
      (result.IsDescription ∨ result = .nil)

theorem fault?_position_eq_none_iff {index : Nat} :
    (ContractPart.position index term).fault? = none ↔ term.IsDescription := by
  cases term with
  | map entries =>
      constructor
      · exact nofun
      · intro h
        exact (h _ (self_mem_nodes (.map entries) 0)).1.elim
  | _ => exact fault?_argument_eq_none_iff

theorem positionParts_without_fault (index : Nat) (items : List Term) :
    (positionParts index items).findSome? ContractPart.fault? = none ↔
      ∀ item ∈ items, item.IsDescription := by
  induction items generalizing index with
  | nil => exact ⟨fun _ => nofun, fun _ => rfl⟩
  | cons item rest ih =>
      rw [positionParts, List.zipIdx_cons, List.map_cons, ← positionParts, findSome?_cons_eq_or,
        Option.or_eq_none_iff, fault?_position_eq_none_iff, ih, List.forall_mem_cons]

theorem areKeywords_cons {name : Symbol} {rest : List (Key × Term)} :
    AreKeywords ((.symbol name, term) :: rest) ↔
      term.IsDescription ∧ Key.symbol name ∉ rest.map Prod.fst ∧ AreKeywords rest := by
  constructor
  · rintro ⟨hsymbols, hdistinct, hdescriptions⟩
    obtain ⟨hnew, hrest⟩ := List.nodup_cons.mp hdistinct
    obtain ⟨hterm, hterms⟩ := List.forall_mem_cons.mp hdescriptions
    exact ⟨hterm, hnew, (List.forall_mem_cons.mp hsymbols).2, hrest, hterms⟩
  · rintro ⟨hterm, hnew, hsymbols, hrest, hterms⟩
    exact ⟨List.forall_mem_cons.mpr ⟨⟨name, rfl⟩, hsymbols⟩, List.nodup_cons.mpr ⟨hnew, hrest⟩,
      List.forall_mem_cons.mpr ⟨hterm, hterms⟩⟩

theorem fault?_keyword_eq_none_iff {earlier : List Symbol} {name : Symbol} :
    (ContractPart.keyword earlier (.symbol name) term).fault? = none ↔
      term.IsDescription ∧ name ∉ earlier := by
  rw [ContractPart.fault?, Option.or_eq_none_iff, fault?_argument_eq_none_iff]
  by_cases hrepeated : name ∈ earlier <;> simp [hrepeated]

theorem keywordParts_without_fault (earlier : List Symbol) (entries : List (Key × Term)) :
    (keywordParts earlier entries).findSome? ContractPart.fault? = none ↔
      AreKeywords entries ∧ ∀ name ∈ earlier, Key.symbol name ∉ entries.map Prod.fst := by
  induction entries generalizing earlier with
  | nil => exact ⟨fun _ => ⟨areKeywords_nil, fun _ _ => nofun⟩, fun _ => rfl⟩
  | cons entry rest ih =>
      obtain ⟨key, term⟩ := entry
      cases key with
      | symbol name =>
          rw [keywordParts, findSome?_cons_eq_or, Option.or_eq_none_iff,
            fault?_keyword_eq_none_iff, ih, areKeywords_cons]
          simp only [List.forall_mem_append, List.map_cons, List.mem_cons,
            Key.symbol.injEq, not_or]
          grind
      | _ =>
          refine ⟨nofun, fun h => ?_⟩
          obtain ⟨name, hname⟩ := h.1.symbols _ List.mem_cons_self
          cases hname

theorem contractParts_without_fault
    (items : List Term) (entries : List (Key × Term)) (result : Term) :
    (contractParts items entries result).findSome? ContractPart.fault? = none ↔
      (∀ item ∈ items, item.IsDescription) ∧ AreKeywords entries ∧
        (result.IsDescription ∨ result = .nil) := by
  rw [contractParts, List.findSome?_append, List.findSome?_append, Option.or_eq_none_iff,
    Option.or_eq_none_iff, positionParts_without_fault, keywordParts_without_fault,
    List.findSome?_singleton, ContractPart.fault?, fault?_result_eq_none_iff]
  simp [and_assoc]

theorem signature_of_not_splits
    {arguments : Term} (h : ∀ items entries, ¬ arguments.Splits items entries) (result : Term) :
    (Term.spec arguments result).signature = .error (.invalidArgumentSide arguments.text) := by
  rcases splits_or_argumentSide arguments with ⟨items, entries, hsplit⟩ | ⟨-, hside⟩
  · exact absurd hsplit (h items entries)
  · unfold Term.spec Term.signature
    simp only [hside]
    rfl

theorem exists_signature_iff : (∃ signature, term.signature = .ok signature) ↔ term.IsContract := by
  constructor
  · rintro ⟨signature, hsignature⟩
    obtain ⟨-, arguments, rfl, -⟩ := signature_eq_ok hsignature
    rcases splits_or_argumentSide arguments with ⟨items, entries, hsplit⟩ | ⟨hnone, -⟩
    · have hparts := contractParts_without_fault items entries signature.result.term
      rw [← faultOf_signature hsplit, hsignature] at hparts
      exact ⟨arguments, _, items, entries, rfl, hsplit, hparts.mp rfl⟩
    · rw [signature_of_not_splits hnone] at hsignature
      cases hsignature
  · rintro ⟨arguments, result, items, entries, rfl, hsplit, hparts⟩
    rw [← faultOf_eq_none_iff, faultOf_signature hsplit]
    exact (contractParts_without_fault items entries result).mpr hparts

/-! ### Faults of terms that are no contracts -/

/-- What is reported of a term: that it has not the form of a contract, or what
is wrong with the first of its parts that has a fault. -/
inductive Term.Reports : Term → SignatureError → Prop
  | form {term : Term} (h : ∀ key result, term ≠ .map [(key, result)]) :
      Reports term (.invalidForm term.text)
  | key {key : Key} {result : Term} (h : ∀ arguments, key ≠ .term arguments) :
      Reports (.map [(key, result)]) (.invalidArgumentSide key.text)
  | arguments {arguments result : Term}
      (h : ∀ items entries, ¬ arguments.Splits items entries) :
      Reports (.spec arguments result) (.invalidArgumentSide arguments.text)
  | part {arguments result : Term} {items : List Term} {entries : List (Key × Term)}
      {before after : List ContractPart} {part : ContractPart} {error : SignatureError}
      (hsplit : arguments.Splits items entries)
      (hparts : contractParts items entries result = before ++ part :: after)
      (hbefore : ∀ earlier ∈ before, earlier.fault? = none) (hpart : part.fault? = some error) :
      Reports (.spec arguments result) error

theorem signature_eq_error_iff {error : SignatureError} :
    term.signature = .error error ↔ term.Reports error := by
  constructor
  · intro h
    unfold Term.signature at h
    split at h
    next arguments result =>
      have hfault : faultOf (Term.spec arguments result).signature = some error :=
        faultOf_eq_some_iff.mpr h
      rcases splits_or_argumentSide arguments with ⟨items, entries, hsplit⟩ | ⟨hnone, -⟩
      · rw [faultOf_signature hsplit, List.findSome?_eq_some_iff] at hfault
        obtain ⟨before, part, after, hparts, hpart, hbefore⟩ := hfault
        exact .part hsplit hparts hbefore hpart
      · rw [signature_of_not_splits hnone] at hfault
        cases hfault
        exact .arguments hnone
    next key _ hkey =>
      cases h
      exact .key fun arguments hterm => hkey arguments hterm
    next hpair hform =>
      cases h
      exact .form fun key result hmap => hform key result hmap
  · intro h
    cases h with
    | form h =>
        unfold Term.signature
        split
        next => exact absurd rfl (h _ _)
        next => exact absurd rfl (h _ _)
        next => rfl
    | @key key result h =>
        cases key with
        | term arguments => exact absurd rfl (h arguments)
        | _ => rfl
    | arguments h => exact signature_of_not_splits h _
    | part hsplit hparts hbefore hpart =>
        rw [← faultOf_eq_some_iff, faultOf_signature hsplit, List.findSome?_eq_some_iff]
        exact ⟨_, _, _, hparts, hpart, hbefore⟩

/-! ### Translations -/

/-- A descriptor is another one, or stands somewhere inside its tuples. -/
inductive Descriptor.OccursIn (node : Descriptor) : Descriptor → Prop
  | here : OccursIn node node
  | item {item : Descriptor} {items : List Descriptor} (hitem : item ∈ items)
      (h : OccursIn node item) : OccursIn node (.tuple items)

theorem Descriptor.OccursIn.mem_nodes
    {node descriptor : Descriptor} (h : node.OccursIn descriptor) (depth : Nat) :
    ∃ inside, (inside, node.term) ∈ descriptor.term.nodes depth := by
  induction h generalizing depth with
  | here => exact ⟨depth, self_mem_nodes _ depth⟩
  | item hitem _ ih =>
      obtain ⟨inside, hnode⟩ := ih (depth + 1)
      refine ⟨inside, ?_⟩
      rw [Descriptor.term, Term.nodes, descriptorTerms_eq_map]
      exact List.mem_cons_of_mem _
        (mem_nodesOfItems_iff.mpr ⟨_, List.mem_map_of_mem hitem, hnode⟩)

theorem not_absent_of_isDescription
    {descriptor : Descriptor} (h : descriptor.term.IsDescription) :
    ¬ Descriptor.absent.OccursIn descriptor := by
  intro habsent
  obtain ⟨inside, hnode⟩ := habsent.mem_nodes 0
  exact (h _ hnode).1

/-- The parts of the signature are those of the term, one by one and in the same
order, and `absent` stands for nothing but a whole result. -/
structure Signature.Translates (signature : Signature) (term : Term) : Prop where
  parts : ∃ arguments, term = .spec arguments signature.result.term ∧
    signature.HasArguments arguments
  positional : ∀ descriptor ∈ signature.positional, ¬ Descriptor.absent.OccursIn descriptor
  keywords : ∀ keyword ∈ signature.keywords, ¬ Descriptor.absent.OccursIn keyword.2
  result : Descriptor.absent.OccursIn signature.result → signature.result = .absent

theorem isDescription_of_positionalDescriptors
    {index : Nat} {items : List Term} {descriptors : List Descriptor}
    (h : positionalDescriptors index items = .ok descriptors) :
    ∀ item ∈ items, item.IsDescription := by
  have hfault := faultOf_positionalDescriptors index items
  rw [h] at hfault
  exact (positionParts_without_fault index items).mp hfault.symm

theorem areKeywords_of_keywordDescriptors
    {entries : List (Key × Term)} {keywords : Table Symbol Descriptor}
    (h : keywordDescriptors [] entries = .ok keywords) : AreKeywords entries := by
  have hfault := faultOf_keywordDescriptors [] entries
  rw [h] at hfault
  exact ((keywordParts_without_fault [] entries).mp hfault.symm).1

theorem isDescription_or_nil_of_descriptor
    {descriptor : Descriptor} (h : term.descriptor .result .result = .ok descriptor) :
    term.IsDescription ∨ term = .nil := by
  rw [← fault?_result_eq_none_iff, ← faultOf_descriptor, h]
  rfl

theorem eq_absent_of_term_eq_nil {descriptor : Descriptor} (h : descriptor.term = .nil) :
    descriptor = .absent := by
  cases descriptor <;> first | rfl | cases h

theorem translates_of_signature
    {signature : Signature} (h : term.signature = .ok signature) : signature.Translates term := by
  obtain ⟨hcompiled, hparts⟩ := signature_eq_ok h
  have hpositional := isDescription_of_positionalDescriptors hcompiled.positional
  have hkeywords := areKeywords_of_keywordDescriptors hcompiled.keywords
  refine ⟨hparts, fun descriptor hdescriptor => ?_, fun keyword hkeyword => ?_, fun habsent => ?_⟩
  · exact not_absent_of_isDescription (hpositional _ (List.mem_map_of_mem hdescriptor))
  · exact not_absent_of_isDescription (hkeywords.descriptions _ (List.mem_map_of_mem hkeyword))
  · rcases isDescription_or_nil_of_descriptor hcompiled.result with hdescription | hnil
    · exact absurd habsent (not_absent_of_isDescription hdescription)
    · exact eq_absent_of_term_eq_nil hnil

/-- Compilation accepts the contracts and nothing else, translates what it
accepts part by part, and reports of anything else the first fault. -/
theorem compilation_decides_contracts (term : Term) :
    ((∃ signature, term.signature = .ok signature) ↔ term.IsContract) ∧
      (∀ signature, term.signature = .ok signature → signature.Translates term) ∧
      ∀ error, term.signature = .error error ↔ term.Reports error :=
  ⟨exists_signature_iff, fun _ => translates_of_signature, fun _ => signature_eq_error_iff⟩

end CallContract
