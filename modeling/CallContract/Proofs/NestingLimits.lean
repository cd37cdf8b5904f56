import CallContract.ObjectSpace.State
import CallContract.Proofs.BoundedMatching
import CallContract.Proofs.ContractLanguage
import CallContract.Proofs.Grammar

/-!
# Limits of nesting

Three limits bound how deeply lists are nested, and each of them counts in its
own way.  The notation counts the brackets that are open, matching counts the
tuples that it goes into, and compilation counts the lists around each node of a
term.  The first two count an empty list as a level, the third does not, as
nothing stands inside it.  So compilation accepts terms that are nested deeper
than its limit by one level of empty lists.  Matching has a limit of its own,
which is lower where nothing else is configured: contracts that are nested deeper
are compiled, and no value satisfies them.
-/

namespace CallContract

open Notation

/-! ### Lists inside lists -/

mutual

/-- How deeply lists are nested; an empty list is one level. -/
def Term.nesting : Term → Nat
  | .list items => 1 + nestingOfTerms items
  | _ => 0

def nestingOfTerms : List Term → Nat
  | [] => 0
  | item :: rest => max item.nesting (nestingOfTerms rest)

end

theorem nestingOfTerms_le_iff (items : List Term) (limit : Nat) :
    nestingOfTerms items ≤ limit ↔ ∀ item ∈ items, item.nesting ≤ limit := by
  induction items with
  | nil => simp [nestingOfTerms]
  | cons item rest ih => rw [nestingOfTerms, Nat.max_le, ih, List.forall_mem_cons]

theorem Term.nesting_list_le_iff (items : List Term) (limit : Nat) :
    (Term.list items).nesting ≤ limit ↔
      ∃ below, limit = below + 1 ∧ ∀ item ∈ items, item.nesting ≤ below := by
  simp only [nesting, ← nestingOfTerms_le_iff]
  constructor
  · intro h
    exact ⟨limit - 1, by omega, by omega⟩
  · rintro ⟨below, rfl, h⟩
    omega

mutual

theorem Descriptor.nesting_term : (descriptor : Descriptor) →
    descriptor.term.nesting = descriptor.nesting
  | .tuple items => by
      rw [Descriptor.term, Term.nesting, Descriptor.nesting, nestingOfTerms_descriptorTerms items]
  | .instanceOf _ | .respondsTo _ | .textMatches _ | .within _ | .passes _ | .truthy | .falsy
  | .absent | .anything => rfl

theorem nestingOfTerms_descriptorTerms : (items : List Descriptor) →
    nestingOfTerms (descriptorTerms items) = Descriptor.nestingOfItems items
  | [] => rfl
  | item :: rest => by
      rw [descriptorTerms, nestingOfTerms, Descriptor.nestingOfItems, item.nesting_term,
        nestingOfTerms_descriptorTerms rest]

end

/-- A node stands inside a number of lists of a term. -/
inductive Term.IsInside (node : Term) : Nat → Term → Prop
  | here : IsInside node 0 node
  | item {count : Nat} {item : Term} {items : List Term} (hitem : item ∈ items)
      (h : IsInside node count item) : IsInside node (count + 1) (.list items)

theorem Term.IsInside.item_of_list
    {term item : Term} {items : List Term} {count : Nat} (h : (Term.list items).IsInside count term)
    (hitem : item ∈ items) : item.IsInside (count + 1) term := by
  induction h with
  | here => exact .item hitem .here
  | item hother _ ih => exact .item hother ih

theorem Term.IsInside.add_nesting_le
    {node term : Term} {count : Nat} (h : node.IsInside count term) :
    count + node.nesting ≤ term.nesting := by
  induction h with
  | here => exact Nat.le_of_eq (Nat.zero_add _)
  | @item count item items hitem _ ih =>
      have hitems := (nestingOfTerms_le_iff items _).mp (Nat.le_refl _) item hitem
      rw [nesting]
      omega

/-- Where lists are nested deeper than a number of levels, a list stands inside
as many lists. -/
theorem Term.exists_list_inside
    {count : Nat} {term : Term} (h : count < term.nesting) :
    ∃ items, (Term.list items).IsInside count term := by
  induction count generalizing term with
  | zero =>
      cases term with
      | list items => exact ⟨items, .here⟩
      | _ => cases h
  | succ count ih =>
      cases term with
      | list items =>
          have hdeeper : ∃ item ∈ items, count < item.nesting := by
            by_contra hnone
            push Not at hnone
            have hitems := (nestingOfTerms_le_iff items count).mpr hnone
            rw [nesting] at h
            omega
          obtain ⟨item, hitem, hcount⟩ := hdeeper
          obtain ⟨inner, hinner⟩ := ih hcount
          exact ⟨inner, .item hitem hinner⟩
      | _ => cases h

mutual

theorem isInside_of_mem_nodes {depth : Nat} {node : Nat × Term} :
    (term : Term) → node ∈ term.nodes depth →
      ∃ count, node.1 = depth + count ∧ node.2.IsInside count term
  | .list items, h => by
      rw [Term.nodes] at h
      rcases List.mem_cons.mp h with rfl | hinside
      · exact ⟨0, rfl, .here⟩
      · obtain ⟨count, hplace, item, hitem, hnode⟩ := isInside_of_mem_nodesOfItems items hinside
        exact ⟨count + 1, by omega, .item hitem hnode⟩
  | .scope _, h | .symbol _, h | .pattern _, h | .interval _, h | .predicate _, h | .bool _, h
  | .any, h | .map _, h | .int _, h | .float _, h | .quoted _, h | .nil, h => by
      simp only [Term.nodes, List.mem_singleton] at h
      subst h
      exact ⟨0, rfl, .here⟩

theorem isInside_of_mem_nodesOfItems {depth : Nat} {node : Nat × Term} :
    (items : List Term) → node ∈ nodesOfItems depth items →
      ∃ count, node.1 = depth + count ∧ ∃ item ∈ items, node.2.IsInside count item
  | [], h => nomatch h
  | item :: rest, h => by
      rcases List.mem_append.mp h with hitem | hrest
      · obtain ⟨count, hplace, hnode⟩ := isInside_of_mem_nodes item hitem
        exact ⟨count, hplace, item, List.mem_cons_self, hnode⟩
      · obtain ⟨count, hplace, other, hother, hnode⟩ := isInside_of_mem_nodesOfItems rest hrest
        exact ⟨count, hplace, other, List.mem_cons_of_mem _ hother, hnode⟩

end

theorem Term.IsInside.mem_nodes
    {node term : Term} {count : Nat} (h : node.IsInside count term) (depth : Nat) :
    (depth + count, node) ∈ term.nodes depth := by
  induction h generalizing depth with
  | here => exact self_mem_nodes _ depth
  | @item count item items hitem _ ih =>
      have hnode := ih (depth + 1)
      rw [Nat.add_assoc, Nat.add_comm 1 count] at hnode
      rw [Term.nodes]
      exact List.mem_cons_of_mem _ (mem_nodesOfItems_iff.mpr ⟨item, hitem, hnode⟩)

/-! ### The limit of compilation -/

variable {term node : Term} {side : Side} {slot : Slot} {descriptor : Descriptor} {count : Nat}

theorem inside_le_of_descriptor
    (h : term.descriptor side slot = .ok descriptor) (hnode : node.IsInside count term) :
    count ≤ maxNesting := by
  have hfault : term.fault? side slot = none := by
    rw [← faultOf_descriptor, h]
    rfl
  have hmem := hnode.mem_nodes 0
  rw [Nat.zero_add] at hmem
  exact (nodeFault?_eq_none_iff.mp (List.findSome?_eq_none_iff.mp hfault _ hmem)).1

/-- Only what stands inside more lists than the limit is reported as too deep. -/
theorem exists_inside_of_tooDeep
    {limit : Nat} {found : Slot} (h : term.descriptor side slot = .error (.tooDeep limit found)) :
    limit = maxNesting ∧ found = slot ∧
      ∃ (node : Term) (count : Nat), maxNesting < count ∧ node.IsInside count term := by
  have hfault : term.fault? side slot = some (.tooDeep limit found) := by
    rw [← faultOf_descriptor, h]
    rfl
  obtain ⟨before, ⟨place, node⟩, after, hnodes, hnode, -⟩ := List.findSome?_eq_some_iff.mp hfault
  unfold nodeFault? at hnode
  split at hnode
  next hdeep =>
    cases hnode
    have hmem : (place, node) ∈ term.nodes 0 := by
      rw [hnodes]
      exact List.mem_append_right before List.mem_cons_self
    obtain ⟨count, hcount, hinside⟩ := isInside_of_mem_nodes term hmem
    exact ⟨rfl, rfl, node, count, by omega, hinside⟩
  next =>
    dsimp only at hnode
    split at hnode
    · split at hnode
      · cases hnode
      · split at hnode <;> cases hnode
    all_goals cases hnode

theorem nesting_le_of_descriptor (h : term.descriptor side slot = .ok descriptor) :
    term.nesting ≤ maxNesting + 1 := by
  by_contra hdeep
  obtain ⟨items, hinside⟩ := Term.exists_list_inside (Nat.not_le.mp hdeep)
  have hreach := inside_le_of_descriptor h hinside
  omega

/-- Compilation exceeds its limit only where an empty list stands as deep as
anything may stand. -/
theorem maxNesting_lt_nesting_iff (h : term.descriptor side slot = .ok descriptor) :
    maxNesting < term.nesting ↔ (Term.list []).IsInside maxNesting term := by
  constructor
  · intro hdeep
    obtain ⟨items, hinside⟩ := Term.exists_list_inside hdeep
    cases items with
    | nil => exact hinside
    | cons item rest =>
        have hreach := inside_le_of_descriptor h (hinside.item_of_list List.mem_cons_self)
        omega
  · intro hinside
    have hcounted := hinside.add_nesting_le
    rw [Term.nesting] at hcounted
    omega

/-- Lists around a term are compiled to tuples around its descriptor. -/
theorem descriptorAt_iterate_list
    (levels : Nat) {depth : Nat} (hdepth : depth + levels ≤ maxNesting + 1) :
    ((Term.list [·])^[levels] term).descriptorAt side slot depth =
      (term.descriptorAt side slot (depth + levels)).map (Descriptor.tuple [·])^[levels] := by
  induction levels generalizing depth with
  | zero => exact (congrFun Except.map_id _).symm
  | succ levels ih =>
      rw [Function.iterate_succ_apply', Term.descriptorAt, if_neg (by omega), itemDescriptors,
        ih (by omega), Nat.add_right_comm]
      cases term.descriptorAt side slot (depth + levels + 1) with
      | ok descriptor => rw [Function.iterate_succ']; rfl
      | error error => rfl

/-! ### The limit of the notation -/

variable {engine : Pattern.Engine} {resolve : Resolver} {limit : Nat} {source : String}
  {tokens : List Token}

/-- Tokens open at least as many brackets as the lists they derive are nested. -/
theorem nesting_le_of_nestsWithin
    (h : IsTerm engine resolve tokens term) (hnests : NestsWithin limit tokens) :
    term.nesting ≤ limit := by
  induction limit using Nat.strongRecOn generalizing tokens term with
  | ind limit ih =>
    cases h with
    | list h =>
        obtain ⟨below, rfl, hinside⟩ :=
          (nestsWithin_enclosed ⟨rfl, rfl⟩ ⟨rfl, rfl⟩ (terms_isBalanced h)).mp hnests
        have hitems := (within_sequence_iff fun _ _ hitem => hitem.isBalanced).mp ⟨h, hinside⟩
        rw [Term.nesting_list_le_iff]
        refine ⟨below, rfl, fun item hitem => ?_⟩
        obtain ⟨itemTokens, hterm, hwithin⟩ := hitems.exists_of_mem hitem
        exact ih below (Nat.lt_succ_self below) hterm hwithin
    | literal h => cases h <;> exact Nat.zero_le limit
    | _ => exact Nat.zero_le limit

/-- A term that is neither a list nor a map is written without brackets. -/
theorem nestsWithin_of_leaf
    (h : IsTerm engine resolve tokens term) (hlist : ∀ items, term ≠ .list items)
    (hmap : ∀ entries, term ≠ .map entries) : NestsWithin limit tokens := by
  have hnone : NestsWithin limit [] := nestsWithin_of_plain nofun
  cases h with
  | list => exact absurd rfl (hlist _)
  | map => exact absurd rfl (hmap _)
  | upTo _ hstop =>
      exact (nestsWithin_cons ⟨rfl, rfl⟩).mpr ((nestsWithin_cons hstop.isPlain).mpr hnone)
  | literal h => exact (nestsWithin_cons h.isPlain).mpr hnone
  | between _ hstart hstop =>
      rw [nestsWithin_cons hstart.isPlain, nestsWithin_cons ⟨rfl, rfl⟩,
        nestsWithin_cons hstop.isPlain]
      exact hnone
  | startingAt _ hstart =>
      exact (nestsWithin_cons hstart.isPlain).mpr ((nestsWithin_cons ⟨rfl, rfl⟩).mpr hnone)
  | _ => exact (nestsWithin_cons ⟨rfl, rfl⟩).mpr hnone

/-- No other brackets are opened for a descriptor than those of its tuples. -/
theorem nestsWithin_of_nesting_le
    (h : IsTerm engine resolve tokens descriptor.term) (hnesting : descriptor.nesting ≤ limit) :
    NestsWithin limit tokens := by
  induction limit using Nat.strongRecOn generalizing tokens descriptor with
  | ind limit ih =>
    rcases descriptor.tuple_or_not_tuple with ⟨items, rfl⟩ | hleaf
    · obtain ⟨below, rfl, hbelow⟩ := (Descriptor.nesting_tuple_le_iff _ _).mp hnesting
      rw [Descriptor.term] at h
      cases h with
      | list h =>
          have hitems : ∀ item ∈ descriptorTerms items, ∀ tokens,
              IsTerm engine resolve tokens item → NestsWithin below tokens := by
            rw [descriptorTerms_eq_map]
            intro item hitem tokens hterm
            obtain ⟨inner, hinner, rfl⟩ := List.mem_map.mp hitem
            exact ih below (Nat.lt_succ_self below) hterm (hbelow inner hinner)
          have hinside := (within_sequence_iff fun _ _ hitem => hitem.isBalanced).mpr
            (h.within hitems)
          exact (nestsWithin_enclosed ⟨rfl, rfl⟩ ⟨rfl, rfl⟩ (terms_isBalanced h)).mpr
            ⟨below, rfl, hinside.2⟩
      | literal h => cases h
    · apply nestsWithin_of_leaf h
      · intro items hitems
        cases descriptor with
        | tuple others => exact hleaf others rfl
        | _ => cases hitems
      · intro entries hentries
        cases descriptor <;> cases hentries

theorem nesting_le_of_parseSpec (h : parseSpec engine resolve source = .ok term) :
    term.nesting ≤ maxNesting := by
  obtain ⟨placed, -, hread⟩ := bind_eq_ok_iff.mp h
  obtain ⟨front, rest, -, hspec, hnests⟩ := derived_of_readSpec hread
  cases hspec with
  | term hterm => exact nesting_le_of_nestsWithin hterm hnests
  | contract => exact Nat.zero_le maxNesting

/-- Of a term that is compiled, the notation refuses nothing but its depth. -/
theorem parseSpec_iff_nesting_le
    {placed : Tokens} (hcompiled : term.descriptor side slot = .ok descriptor)
    (hplaced : Notation.tokens source = .ok placed)
    (htokens : placed.map Prod.snd = tokens ++ [.finish])
    (hterm : IsTerm engine resolve tokens term) :
    parseSpec engine resolve source = .ok term ↔ term.nesting ≤ maxNesting := by
  constructor
  · exact nesting_le_of_parseSpec
  · intro hnesting
    obtain rfl := term_of_descriptor hcompiled
    rw [descriptor.nesting_term] at hnesting
    unfold parseSpec
    rw [hplaced]
    exact readSpec_derived ⟨.term hterm, nestsWithin_of_nesting_le hterm hnesting⟩ htokens

/-! ### Compilation beside the notation -/

/-- What compilation accepts is nested to its limit, or by one level deeper
exactly where an empty list stands inside as many lists as the limit says; the
notation refuses that level.  What compilation reports as too deep is nested
deeper than the limit that is reported, and the notation refuses it as well. -/
theorem compilation_limits_what_stands_inside_lists (term : Term) (side : Side) (slot : Slot) :
    (∀ descriptor, term.descriptor side slot = .ok descriptor →
      descriptor.nesting = term.nesting ∧ descriptor.nesting ≤ maxNesting + 1 ∧
        (maxNesting < descriptor.nesting ↔ (Term.list []).IsInside maxNesting term) ∧
        ∀ engine resolve source placed body, Notation.tokens source = .ok placed →
          placed.map Prod.snd = body ++ [.finish] → IsTerm engine resolve body term →
          (parseSpec engine resolve source = .ok term ↔ descriptor.nesting ≤ maxNesting)) ∧
      ∀ limit found, term.descriptor side slot = .error (.tooDeep limit found) →
        limit = maxNesting ∧ found = slot ∧ limit < term.nesting ∧
          ∀ engine resolve source, parseSpec engine resolve source ≠ .ok term := by
  constructor
  · intro descriptor hcompiled
    have hsame : descriptor.nesting = term.nesting := by
      rw [term_of_descriptor hcompiled, descriptor.nesting_term]
    rw [hsame]
    exact ⟨rfl, nesting_le_of_descriptor hcompiled, maxNesting_lt_nesting_iff hcompiled,
      fun _ _ _ _ _ hplaced hbody hterm => parseSpec_iff_nesting_le hcompiled hplaced hbody hterm⟩
  · intro limit found hdeep
    obtain ⟨rfl, rfl, node, count, hcount, hinside⟩ := exists_inside_of_tooDeep hdeep
    have hnesting : maxNesting < term.nesting := by
      have hcounted := hinside.add_nesting_le
      omega
    refine ⟨rfl, rfl, hnesting, fun engine resolve source hparse => ?_⟩
    exact absurd (nesting_le_of_parseSpec hparse) (Nat.not_le_of_lt hnesting)

/-- Lists around an empty list can be written, however many they are. -/
theorem exists_derivation_of_brackets (levels : Nat) :
    ∃ tokens, Lexes (("[" ++ · ++ "]")^[levels] "[]") tokens ∧
      ∀ engine resolve, IsTerm engine resolve tokens ((Term.list [·])^[levels] (.list [])) := by
  induction levels with
  | zero =>
      have hnone : Lexes "" [] := fun rest _ => .here rest
      exact ⟨_, hnone.brackets, fun _ _ => .list .empty⟩
  | succ levels ih =>
      obtain ⟨tokens, hlexes, hterm⟩ := ih
      rw [Function.iterate_succ_apply', Function.iterate_succ_apply']
      exact ⟨_, hlexes.brackets, fun engine resolve => .list (.last (hterm engine resolve))⟩

/-- An empty list inside as many lists as compilation allows is compiled, and
the notation refuses its brackets; any node inside one list more is too deep. -/
theorem compilation_limits_what_stands_inside_lists_of_an_empty_list :
    ∃ (accepted refused : Term) (descriptor : Descriptor) (source : String) (placed : Tokens)
      (body : List Token),
      (accepted.descriptor .result .result = .ok descriptor ∧ maxNesting < descriptor.nesting) ∧
        (Notation.tokens source = .ok placed ∧ placed.map Prod.snd = body ++ [.finish] ∧
          ∀ engine resolve, IsTerm engine resolve body accepted ∧
            parseSpec engine resolve source ≠ .ok accepted) ∧
        refused.descriptor .result .result = .error (.tooDeep maxNesting .result) ∧
        maxNesting < refused.nesting := by
  let accepted := (Term.list [·])^[64] (.list [])
  let refused := (Term.list [·])^[65] .any
  let descriptor := (Descriptor.tuple [·])^[64] (.tuple [])
  let source := ("[" ++ · ++ "]")^[64] "[]"
  have haccepted : accepted.descriptor .result .result = .ok descriptor :=
    descriptorAt_iterate_list 64 (by decide)
  have hrefused : refused.descriptor .result .result = .error (.tooDeep maxNesting .result) :=
    descriptorAt_iterate_list 65 (by decide)
  obtain ⟨body, hlexes, hterm⟩ := exists_derivation_of_brackets 64
  have hcuts := hlexes [] nofun
  rw [List.append_nil] at hcuts
  obtain ⟨placed, hplaced, hbody⟩ := tokens_of_cuts hcuts
  obtain ⟨-, -, -, hparse⟩ :=
    (compilation_limits_what_stands_inside_lists accepted .result .result).1 descriptor haccepted
  obtain ⟨-, -, hdeep, -⟩ :=
    (compilation_limits_what_stands_inside_lists refused .result .result).2 _ _ hrefused
  have hnesting : maxNesting < descriptor.nesting := by decide +kernel
  have hunread : ∀ engine resolve, parseSpec engine resolve source ≠ .ok accepted :=
    fun engine resolve hread =>
      absurd ((hparse _ _ _ _ _ hplaced hbody (hterm engine resolve)).mp hread)
        (Nat.not_le_of_lt hnesting)
  exact ⟨accepted, refused, descriptor, source, placed, body, ⟨haccepted, hnesting⟩,
    ⟨hplaced, hbody, fun engine resolve => ⟨hterm engine resolve, hunread engine resolve⟩⟩,
    hrefused, hdeep⟩

/-- Compilation does not keep to the limit that it reports. -/
theorem compilation_may_exceed_the_reported_limit :
    ¬ ∀ (term : Term) (side : Side) (slot : Slot),
      (∀ descriptor, term.descriptor side slot = .ok descriptor →
        descriptor.nesting ≤ maxNesting) ∧
      ∀ limit found, term.descriptor side slot = .error (.tooDeep limit found) →
        maxNesting < term.nesting := by
  intro h
  have hcompiled : ((Term.list [·])^[64] (.list [])).descriptor .result .result =
      .ok ((Descriptor.tuple [·])^[64] (.tuple [])) := descriptorAt_iterate_list 64 (by decide)
  exact absurd ((h _ .result .result).1 _ hcompiled) (by decide +kernel)

/-! ### The limit of matching -/

namespace ObjectSpace

variable {space : ObjectSpace}

/-- With the settings that are standard, contracts whose lists are nested to the
depth of matching are decided as they read.  Deeper contracts are compiled as
well, and no value satisfies them. -/
theorem standard_settings_decide_by_nesting
    (hsettings : space.settings = .standard)
    (hcompiled : term.descriptor side slot = .ok descriptor) :
    (term.nesting ≤ defaultMatchDepth → ∀ value,
      (space.accepts descriptor value = true ↔
        descriptor.Describes space.environment value)) ∧
      (defaultMatchDepth < term.nesting → ∀ value, space.accepts descriptor value = false) := by
  have hdepth : space.settings.maxMatchDepth = defaultMatchDepth := by
    rw [hsettings]
    rfl
  rw [term_of_descriptor hcompiled, descriptor.nesting_term]
  unfold accepts
  rw [hdepth]
  constructor
  · intro hnesting value
    exact Descriptor.accepts_iff_describes hnesting value
  · intro hdeep value
    rw [← Bool.not_eq_true]
    exact fun haccepted =>
      absurd (Descriptor.nesting_le_of_accepts haccepted) (Nat.not_le_of_lt hdeep)

/-- Both sides of the depth of matching are compiled. -/
theorem standard_settings_decide_by_nesting_of_any :
    ∃ (space : ObjectSpace) (shallow deep : Descriptor),
      space.settings = .standard ∧
        ((Term.list [·])^[32] .any).descriptor .argument (.position 0) = .ok shallow ∧
        ((Term.list [·])^[33] .any).descriptor .argument (.position 0) = .ok deep ∧
        (∀ value, space.accepts shallow value = true ↔
          shallow.Describes space.environment value) ∧
        ∀ value, space.accepts deep value = false := by
  let space : ObjectSpace := .initial ⟨0⟩ .standard []
  have hsettings : space.settings = .standard := rfl
  let shallow := (Descriptor.tuple [·])^[32] .anything
  let deep := (Descriptor.tuple [·])^[33] .anything
  have hshallow : ((Term.list [·])^[32] .any).descriptor .argument (.position 0) = .ok shallow :=
    descriptorAt_iterate_list 32 (by decide)
  have hdeep : ((Term.list [·])^[33] .any).descriptor .argument (.position 0) = .ok deep :=
    descriptorAt_iterate_list 33 (by decide)
  exact ⟨space, shallow, deep, hsettings, hshallow, hdeep,
    (standard_settings_decide_by_nesting hsettings hshallow).1 (by decide +kernel),
    (standard_settings_decide_by_nesting hsettings hdeep).2 (by decide +kernel)⟩

/-- A contract that is compiled may refuse what it describes. -/
theorem standard_settings_may_refuse_what_is_described :
    ¬ ∀ (space : ObjectSpace) (term : Term) (side : Side) (slot : Slot) (descriptor : Descriptor)
        (value : Value), space.settings = .standard → term.descriptor side slot = .ok descriptor →
      (space.accepts descriptor value = true ↔ descriptor.Describes space.environment value) := by
  intro h
  let space : ObjectSpace := .initial ⟨0⟩ .standard []
  let descriptor := (Descriptor.tuple [·])^[33] .anything
  let value := (Value.array [·])^[33] (.int 1)
  have hcompiled : ((Term.list [·])^[33] .any).descriptor .argument (.position 0) =
      .ok descriptor := descriptorAt_iterate_list 33 (by decide)
  have hreached : descriptor.nesting ≤ 33 := by decide +kernel
  have hdescribed : descriptor.Describes space.environment value :=
    (Descriptor.accepts_iff_describes hreached value).mp rfl
  have hrefused : space.accepts descriptor value = false := rfl
  have haccepted := (h space _ _ _ descriptor value rfl hcompiled).mpr hdescribed
  rw [hrefused] at haccepted
  cases haccepted

end ObjectSpace

end CallContract
