import CallContract.Proofs.ReadBack

/-!
# Values in the notation

A value is described by its literal form, which the notation reads as well.
Values that hold no object are read back from their description if their texts
need no other escapes than those of the notation, their numbers are finite, and
their symbols and scopes have names that it can spell.  Between the key and the
value of a pair stands an arrow without blanks, and no name takes the equals sign
of it: a name that ends in one has its own before the arrow.
-/

namespace CallContract

open Notation

/-- The notation can write the value with brackets of a number of levels. -/
inductive Value.IsNotated (scopeName : ScopeId → String) : Nat → Value → Prop
  | nil {levels : Nat} : IsNotated scopeName levels .nil
  | bool {levels : Nat} (truth : Bool) : IsNotated scopeName levels (.bool truth)
  | int {levels : Nat} (number : Int64) : IsNotated scopeName levels (.int number)
  | float {levels : Nat} (negative : Bool) (rank : Fin 0x7FF0000000000000) :
      IsNotated scopeName levels (.float (.finite negative rank))
  | text {levels : Nat} {content : String} (hplain : IsPlainlyQuoted content.toList) :
      IsNotated scopeName levels (.text content)
  | symbol {levels : Nat} {name : Symbol} (hname : IsName name.name.toList) :
      IsNotated scopeName levels (.symbol name)
  | scope {levels : Nat} {id : ScopeId} (hname : IsName (scopeName id).toList)
      (hcapital : startsWithCapital (scopeName id) = true) :
      IsNotated scopeName levels (.scope id)
  | array {levels : Nat} {items : List Value}
      (hitems : ∀ item ∈ items, IsNotated scopeName levels item) :
      IsNotated scopeName (levels + 1) (.array items)
  | hash {levels : Nat} {pairs : List (Value × Value)}
      (hkeys : ∀ pair ∈ pairs, IsNotated scopeName levels pair.1)
      (hvalues : ∀ pair ∈ pairs, IsNotated scopeName levels pair.2) :
      IsNotated scopeName (levels + 1) (.hash pairs)

variable {scopeName : ScopeId → String} {levels : Nat} {value : Value}

/-! ### Tokens of values -/

mutual

def Value.tokens (scopeName : ScopeId → String) : Value → List Token
  | .nil => [.word "nil"]
  | .bool truth => [.word (Value.truthText truth)]
  | .int number => [.int number]
  | .float number => [.float number]
  | .text content => [.string content]
  | .symbol name => [.symbol name.name]
  | .array items => bracketed (valueTokens scopeName items)
  | .hash pairs => .openBrace :: (separated (pairTokens scopeName pairs) ++ [.closeBrace])
  | .object _ => []
  | .scope id => [.word (scopeName id)]

def valueTokens (scopeName : ScopeId → String) : List Value → List (List Token)
  | [] => []
  | item :: rest => item.tokens scopeName :: valueTokens scopeName rest

def pairTokens (scopeName : ScopeId → String) : List (Value × Value) → List (List Token)
  | [] => []
  | (key, value) :: rest =>
      (key.tokens scopeName ++ .arrow :: value.tokens scopeName) :: pairTokens scopeName rest

end

theorem valueTokens_eq_map (items : List Value) :
    valueTokens scopeName items = items.map (Value.tokens scopeName) := by
  induction items with
  | nil => rfl
  | cons item rest ih => rw [valueTokens, ih, List.map_cons]

theorem pairTokens_eq_map (pairs : List (Value × Value)) :
    pairTokens scopeName pairs =
      pairs.map fun pair => pair.1.tokens scopeName ++ .arrow :: pair.2.tokens scopeName := by
  induction pairs with
  | nil => rfl
  | cons pair rest ih => rw [pairTokens, ih, List.map_cons]

theorem describeItems_eq_map (items : List Value) :
    Value.describeItems scopeName items = items.map (Value.describe scopeName) := by
  induction items with
  | nil => rfl
  | cons item rest ih => rw [Value.describeItems, ih, List.map_cons]

theorem describePairs_eq_map (pairs : List (Value × Value)) :
    Value.describePairs scopeName pairs = pairs.map fun pair =>
      Value.pairLiteral (pair.1.describe scopeName) (pair.2.describe scopeName) := by
  induction pairs with
  | nil => rfl
  | cons pair rest ih => rw [Value.describePairs, ih, List.map_cons]

/-! ### Descriptions fall into tokens -/

/-- Between a key and its value stands an arrow without blanks. -/
theorem lexes_pair
    {key value : String} {keyTokens valueTokens : List Token} (hkey : LexesValue key keyTokens)
    (hvalue : LexesValue value valueTokens) :
    Lexes (Value.pairLiteral key value) (keyTokens ++ .arrow :: valueTokens) := by
  intro rest hrest
  rw [Value.pairLiteral, String.toList_append, String.toList_append, List.append_assoc,
    List.append_assoc]
  exact (hkey _ (.inr ⟨_, rfl⟩)).append (cuts_arrow (hvalue rest (.inl hrest)))

theorem lexesValue_describe
    (h : value.IsNotated scopeName levels) :
    LexesValue (value.describe scopeName) (value.tokens scopeName) := by
  induction h with
  | nil => exact lexesValue_nil
  | bool truth => exact lexesValue_truth truth
  | int number => exact fun rest hrest => cuts_int number hrest.endsFraction hrest.readFraction?_eq
  | float negative rank => exact fun rest hrest => cuts_float negative rank hrest.endsFraction
  | @text _ content hplain =>
      intro rest _
      have hcuts := cuts_string content rest
      rwa [(readBack_eq_iff content).mpr hplain] at hcuts
  | symbol hname => exact lexesValue_symbol hname
  | scope hname hcapital => exact lexesValue_word hname (startsName_of_capital hcapital)
  | array _ ih =>
      rw [Value.describe, Value.tokens, describeItems_eq_map, valueTokens_eq_map]
      have hitems := lexes_commaSeparated fun item hitem => (ih item hitem).lexes
      exact fun rest _ => hitems.cuts_brackets rest
  | hash _ _ ihkeys ihvalues =>
      rw [Value.describe, Value.tokens, describePairs_eq_map, pairTokens_eq_map]
      have hpairs := lexes_commaSeparated fun pair hpair =>
        lexes_pair (ihkeys pair hpair) (ihvalues pair hpair)
      exact fun rest _ => hpairs.cuts_braces rest

/-! ### Tokens of values are read -/

variable {resolve : Resolver} {close : Token}

theorem readValue_eq (resolve : Resolver) (levels : Nat) :
    ∃ inner, readValue resolve levels = readValueUsing resolve inner := by
  cases levels with
  | zero => exact ⟨none, rfl⟩
  | succ levels => exact ⟨some (readValue resolve levels), rfl⟩

theorem refuses_readValue (hclose : close.EndsTerm) : Refuses (readValue resolve levels) close := by
  obtain ⟨inner, hinner⟩ := readValue_eq resolve levels
  intro offset more result h
  rw [hinner] at h
  cases close <;> first | exact hclose.elim | cases h

theorem reads_singleValue
    {token : Token}
    (h : ∀ inner offset more,
      readValueUsing resolve inner ((offset, token) :: more) = .ok (value, more)) :
    Reads (readValue resolve levels) [token] value := by
  obtain ⟨inner, hinner⟩ := readValue_eq resolve levels
  rw [hinner]
  exact reads_token (h inner)

/-- No word for a value starts with a capital letter. -/
theorem lookup_valueWords_eq_none {name : String} (hcapital : startsWithCapital name = true) :
    valueWords.lookup name = none := by
  cases hlookup : valueWords.lookup name with
  | none => rfl
  | some found =>
      have hword := Table.mem_of_get? hlookup
      simp only [valueWords, List.mem_cons, Prod.mk.injEq, List.not_mem_nil, or_false] at hword
      rcases hword with ⟨rfl, -⟩ | ⟨rfl, -⟩ | ⟨rfl, -⟩
      all_goals exact absurd hcapital (by decide)

theorem reads_scopeValue
    {name : String} {id : ScopeId} (hcapital : startsWithCapital name = true)
    (hresolve : resolve name = some id) :
    Reads (readValue resolve levels) [.word name] (.scope id) := by
  refine reads_singleValue fun inner offset more => ?_
  rw [readValueUsing]
  simp only [readName?, lookup_valueWords_eq_none hcapital, if_pos hcapital, hresolve]
  rfl

theorem reads_array
    {inside : List Token} {items : List Value}
    (h : Sequence (Reads (readValue resolve levels)) inside items) :
    Reads (readValue resolve (levels + 1)) (.openBracket :: (inside ++ [.closeBracket]))
      (.array items) := by
  have hrefuses : Refuses (id (readValue resolve levels)) .closeBracket := refuses_readValue trivial
  intro placed offset ending more hplaced _
  obtain ⟨place, behind, rfl, hitems⟩ :=
    readNested_sequence hrefuses trivial (by decide) h hplaced
  rw [List.cons_append, readValue, readValueUsing]
  simp only [hitems]
  rfl

theorem readPair_keyed
    {reader : Reader Value} {place : Nat} {first : Token} {rest : Tokens}
    (hfirst : ∀ name, first ≠ .label name) :
    readPair reader ((place, first) :: rest) = (do
      let (key, rest) ← reader ((place, first) :: rest)
      let rest ← expect .arrow rest
      let (value, rest) ← reader rest
      pure ((key, value), rest)) := by
  unfold readPair
  split
  next hlabel =>
    cases hlabel
    exact absurd rfl (hfirst _)
  next => rfl

theorem refuses_readPair
    {reader : Reader Value} (hreader : Refuses reader close) (hclose : close.EndsTerm) :
    Refuses (readPair reader) close := by
  intro offset more result h
  rw [readPair_keyed (by rintro name rfl; exact hclose)] at h
  obtain ⟨key, hkey, -⟩ := bind_eq_ok_iff.mp h
  exact hreader _ _ _ hkey

theorem reads_pair
    {reader : Reader Value} {keyTokens tokens : List Token} {key value : Value}
    (hkey : Reads reader keyTokens key) (hvalue : Reads reader tokens value)
    (hfirst : ∃ first rest, keyTokens = first :: rest ∧ ∀ name, first ≠ .label name) :
    Reads (readPair reader) (keyTokens ++ .arrow :: tokens) (key, value) :=
  reads_paired Prod.mk (fun _ _ _ => readPair_keyed) hkey hvalue hfirst

theorem reads_hash
    {inside : List Token} {pairs : List (Value × Value)}
    (h : Sequence (Reads (readPair (readValue resolve levels))) inside pairs) :
    Reads (readValue resolve (levels + 1)) (.openBrace :: (inside ++ [.closeBrace]))
      (.hash pairs) := by
  have hrefuses : Refuses (readPair (readValue resolve levels)) .closeBrace :=
    refuses_readPair (refuses_readValue trivial) trivial
  intro placed offset ending more hplaced _
  obtain ⟨place, behind, rfl, hpairs⟩ :=
    readNested_sequence hrefuses trivial (by decide) h hplaced
  rw [List.cons_append, readValue, readValueUsing]
  simp only [hpairs]
  rfl

theorem Value.IsNotated.exists_first (h : value.IsNotated scopeName levels) :
    ∃ first rest, value.tokens scopeName = first :: rest ∧ ∀ name, first ≠ .label name := by
  cases h <;> exact ⟨_, _, rfl, nofun⟩

/-- The tokens of a value are read as the value, if the names of its scopes are
looked up as those scopes. -/
theorem reads_value
    (hresolve : ∀ id, IsName (scopeName id).toList → startsWithCapital (scopeName id) = true →
      resolve (scopeName id) = some id)
    (h : value.IsNotated scopeName levels) :
    Reads (readValue resolve levels) (value.tokens scopeName) value := by
  induction h with
  | bool truth => cases truth <;> exact reads_singleValue fun _ _ _ => rfl
  | scope hname hcapital => exact reads_scopeValue hcapital (hresolve _ hname hcapital)
  | array _ ih =>
      rw [Value.tokens, valueTokens_eq_map]
      have hitems := reads_array (sequence_separated ih)
      rwa [List.map_id'] at hitems
  | hash hkeys _ ihkeys ihvalues =>
      rw [Value.tokens, pairTokens_eq_map]
      have hpairs := reads_hash (sequence_separated fun pair hpair =>
        reads_pair (ihkeys pair hpair) (ihvalues pair hpair) (hkeys pair hpair).exists_first)
      rwa [List.map_id'] at hpairs
  | _ => exact reads_singleValue fun _ _ _ => rfl

theorem parseValue_of_cuts
    {source : String} {tokens : List Token} (hcuts : Cuts source.toList tokens [])
    (hreads : Reads (readValue resolve maxNesting) tokens value) :
    Notation.parseValue resolve source = .ok value := by
  obtain ⟨placed, hplaced, htokens⟩ := tokens_of_cuts hcuts
  obtain ⟨before, last, rfl, hbefore, hlast⟩ := List.map_eq_append_iff.mp htokens
  obtain ⟨⟨ending, _⟩, rfl, rfl⟩ := List.map_eq_singleton_iff.mp hlast
  unfold Notation.parseValue
  rw [hplaced]
  simp only [bind, Except.bind, hreads before ending .finish [] hbefore trivial]
  rfl

/-! ### Names of scopes -/

namespace ScopeTable

/-- The name of a singleton starts with a mark that no name of the notation has. -/
def MarksSingletons (table : ScopeTable) : Prop :=
  ∀ id definition attached, table.get? id = some definition →
    definition.kind = .singleton attached → definition.name.toList.head? = some '#'

theorem initial_marksSingletons : initial.MarksSingletons := by
  have hplain : ∀ definition ∈ initial.definitions.toList, definition.kind.isSingleton = false := by
    decide
  intro id definition attached hget hkind
  have hmem := hplain definition (Array.mem_toList_iff.mpr (Array.mem_of_getElem? hget))
  rw [hkind] at hmem
  cases hmem

theorem MarksSingletons.change
    {table after : ScopeTable} (h : table.MarksSingletons) (hchange : table.Change after) :
    after.MarksSingletons := by
  rcases hchange.eq_or_push_or_update with
    rfl | ⟨name, kind, superclass, hadmits, rfl⟩ | ⟨scope, old, included, hold, -, rfl⟩
  · exact h
  · intro id definition attached hget hkind
    rw [get?_push] at hget
    split at hget
    · cases hget
      exact hadmits.marked attached hkind
    · exact h id definition attached hget hkind
  · intro id definition attached hget hkind
    rw [get?_update hold] at hget
    split at hget
    · cases hget
      rw [(ScopeDefinition.including_fields old included).2.1] at hkind
      rw [ScopeDefinition.including_name]
      exact h scope old attached hold hkind
    · exact h id definition attached hget hkind

/-- A scope whose name starts with a capital letter is a class or a module, and is
found by that name. -/
theorem named?_name
    {table : ScopeTable} (hformed : table.WellFormed) (hmarks : table.MarksSingletons)
    {id : ScopeId} (hcapital : startsWithCapital (table.name id) = true) :
    table.named? (table.name id) = some id := by
  unfold ScopeTable.name at hcapital ⊢
  cases hget : table.get? id with
  | none =>
      rw [hget] at hcapital
      cases hcapital
  | some definition =>
      rw [hget] at hcapital
      refine (hformed.named _ id).mpr ⟨definition, hget, ?_, rfl⟩
      cases hkind : definition.kind with
      | singleton attached =>
          obtain ⟨rest, hname⟩ :=
            List.head?_eq_some_iff.mp (hmarks id definition attached hget hkind)
          unfold startsWithCapital at hcapital
          simp only [hname] at hcapital
          cases hcapital
      | classScope => rfl
      | moduleScope => rfl

end ScopeTable

/-! ### Object spaces -/

namespace ObjectSpace

variable {space after : ObjectSpace}

theorem Change.marksSingletons (h : space.Change after) (hmarks : space.scopes.MarksSingletons) :
    after.scopes.MarksSingletons := by
  cases h with
  | scopes htable => exact hmarks.change htable
  | defineMember member =>
      rw [consumePending_scopes]
      exact hmarks
  | _ => exact hmarks

theorem IsReachable.marksSingletons (h : space.IsReachable) : space.scopes.MarksSingletons :=
  have hinitial : ∀ id settings, (initial id settings []).scopes.MarksSingletons :=
    fun _ _ => ScopeTable.initial_marksSingletons
  h.induction (fun _ _ hmarks hchange => hchange.marksSingletons hmarks)
    (fun _ _ hmarks => hmarks) hinitial

/-- What describes a value that the notation can write is read as that value, in
the same object space, at once or after anything has happened to it. -/
theorem described_value_reads_back
    (hspace : space.IsReachable) (hvalue : value.IsNotated space.scopeName maxNesting)
    (hafter : space.Reaches after) :
    after.parseValue (space.describe value) = .ok value := by
  have hlexes := lexesValue_describe hvalue [] (.inl nofun)
  rw [List.append_nil] at hlexes
  refine parseValue_of_cuts hlexes (reads_value (fun id _ hcapital => ?_) hvalue)
  exact hafter.named?
    (ScopeTable.named?_name hspace.wellScoped.formed hspace.marksSingletons hcapital)

/-- A symbol that ends in an equals sign keeps it before an arrow. -/
theorem described_value_reads_back_with_marked_keys :
    ∃ (space after : ObjectSpace) (value : Value),
      space.IsReachable ∧ value.IsNotated space.scopeName maxNesting ∧ space.Reaches after ∧
        space.describe value = "\x7b:size==>[nil, 0.5, -1], Integer=>\x7b\"\\n\"=>:ok?\x7d\x7d" ∧
        after.parseValue (space.describe value) = .ok value := by
  let space : ObjectSpace := .initial ⟨0⟩ .standard []
  let half : Value := .float (.finite false ⟨0x3FE0000000000000, by decide⟩)
  let value : Value :=
    .hash [(.symbol ⟨"size="⟩, .array [.nil, half, .int (-1)]),
      (.scope .integer, .hash [(.text "\n", .symbol ⟨"ok?"⟩)])]
  have hspace : space.IsReachable := ⟨[.standard], [], 0, space, rfl, .refl⟩
  have hafter := space.perform_reaches (.defineModule "Shape")
  have hsize : IsName "size=".toList :=
    ⟨['s', 'i', 'z', 'e'], ['='], rfl, nofun, List.all_eq_true.mp rfl, .inr (.inr (.inr rfl))⟩
  have hok : IsName "ok?".toList :=
    ⟨['o', 'k'], ['?'], rfl, nofun, List.all_eq_true.mp rfl, .inr (.inl rfl)⟩
  have hinteger : space.scopeName .integer = "Integer" := by decide +kernel
  have hscope : (Value.scope .integer).IsNotated space.scopeName 63 :=
    .scope (hinteger ▸ isName_of_nameChars (by decide) (by decide)) (hinteger ▸ rfl)
  have hfeed : IsPlainlyQuoted "\n".toList :=
    List.forall_mem_singleton.mpr (.inr (.inr (.inl rfl)))
  have hitems : ∀ item ∈ [.nil, half, .int (-1)], item.IsNotated space.scopeName 62 :=
    List.forall_mem_cons.mpr ⟨.nil, List.forall_mem_cons.mpr ⟨.float false _,
      List.forall_mem_singleton.mpr (.int _)⟩⟩
  have hinner : (Value.hash [(.text "\n", .symbol ⟨"ok?"⟩)]).IsNotated space.scopeName 63 :=
    .hash (List.forall_mem_singleton.mpr (.text hfeed))
      (List.forall_mem_singleton.mpr (.symbol hok))
  have hvalue : value.IsNotated space.scopeName maxNesting :=
    .hash
      (List.forall_mem_cons.mpr
        ⟨.symbol hsize, List.forall_mem_singleton.mpr hscope⟩)
      (List.forall_mem_cons.mpr ⟨.array hitems, List.forall_mem_singleton.mpr hinner⟩)
  exact ⟨space, _, value, hspace, hvalue, hafter, by decide +kernel,
    described_value_reads_back hspace hvalue hafter⟩

end ObjectSpace

end CallContract
