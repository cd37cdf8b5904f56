import CallContract.ObjectSpace.Builtin

/-!
# Literals and descriptions

A literal is written without the names of scopes, so a value that mentions an
object or a scope anywhere has none.  A description is written with the names of
an object space, by a recursion of its own.  Where there is a literal, it is the
description in every object space, and the text in which patterns are searched is
the same with and without names.  No part of a description is ever missing, so
the empty text that would stand for it never does.
-/

namespace CallContract

namespace Value

/-- An object or a scope is mentioned, at any depth. -/
inductive NeedsNames : Value → Prop
  | object (reference : ObjectRef) : NeedsNames (.object reference)
  | scope (id : ScopeId) : NeedsNames (.scope id)
  | item {items : List Value} {item : Value} (hitem : item ∈ items) (h : NeedsNames item) :
      NeedsNames (.array items)
  | key {pairs : List (Value × Value)} {pair : Value × Value} (hpair : pair ∈ pairs)
      (h : NeedsNames pair.1) : NeedsNames (.hash pairs)
  | content {pairs : List (Value × Value)} {pair : Value × Value} (hpair : pair ∈ pairs)
      (h : NeedsNames pair.2) : NeedsNames (.hash pairs)

theorem needsNames_array_iff {items : List Value} :
    (Value.array items).NeedsNames ↔ ∃ item ∈ items, item.NeedsNames := by
  constructor
  · rintro ⟨⟩
    exact ⟨_, ‹_›, ‹_›⟩
  · rintro ⟨item, hitem, h⟩
    exact .item hitem h

theorem needsNames_hash_iff {pairs : List (Value × Value)} :
    (Value.hash pairs).NeedsNames ↔ ∃ pair ∈ pairs, pair.1.NeedsNames ∨ pair.2.NeedsNames := by
  constructor
  · rintro (_ | _ | _ | ⟨hpair, h⟩ | ⟨hpair, h⟩)
    · exact ⟨_, hpair, .inl h⟩
    · exact ⟨_, hpair, .inr h⟩
  · rintro ⟨pair, hpair, h | h⟩
    · exact .key hpair h
    · exact .content hpair h

/-! ### Values without a literal -/

mutual

theorem literal?_eq_none_iff : (value : Value) → (value.literal? = none ↔ value.NeedsNames)
  | .array items => by
      rw [literal?, Option.map_eq_none_iff, itemLiterals?_eq_none_iff items, needsNames_array_iff]
  | .hash pairs => by
      rw [literal?, Option.map_eq_none_iff, pairLiterals?_eq_none_iff pairs, needsNames_hash_iff]
  | .object reference => iff_of_true rfl (.object reference)
  | .scope id => iff_of_true rfl (.scope id)
  | .nil | .bool _ | .int _ | .float _ | .text _ | .symbol _ => iff_of_false nofun nofun

theorem itemLiterals?_eq_none_iff : (items : List Value) →
    (itemLiterals? items = none ↔ ∃ item ∈ items, item.NeedsNames)
  | [] => iff_of_false nofun nofun
  | item :: rest => by
      simp only [List.mem_cons, exists_eq_or_imp]
      rw [← item.literal?_eq_none_iff, ← itemLiterals?_eq_none_iff rest, itemLiterals?]
      cases item.literal? <;> cases itemLiterals? rest <;> simp

theorem pairLiterals?_eq_none_iff : (pairs : List (Value × Value)) →
    (pairLiterals? pairs = none ↔ ∃ pair ∈ pairs, pair.1.NeedsNames ∨ pair.2.NeedsNames)
  | [] => iff_of_false nofun nofun
  | (key, value) :: rest => by
      simp only [List.mem_cons, exists_eq_or_imp]
      rw [← key.literal?_eq_none_iff, ← value.literal?_eq_none_iff,
        ← pairLiterals?_eq_none_iff rest, pairLiterals?]
      cases key.literal? <;> cases value.literal? <;> cases pairLiterals? rest <;> simp

end

theorem plainText?_eq_none_iff (value : Value) : value.plainText? = none ↔ value.NeedsNames := by
  rw [← literal?_eq_none_iff]
  cases value <;> first | rfl | exact iff_of_false nofun nofun

/-! ### Literals are descriptions -/

variable (scopeName : ScopeId → String)

mutual

theorem describe_of_literal? : (value : Value) → {text : String} →
    value.literal? = some text → value.describe scopeName = text
  | .array items, _, h => by
      obtain ⟨texts, htexts, rfl⟩ := Option.map_eq_some_iff.mp h
      rw [describe, describeItems_of_itemLiterals? items htexts]
  | .hash pairs, _, h => by
      obtain ⟨texts, htexts, rfl⟩ := Option.map_eq_some_iff.mp h
      rw [describe, describePairs_of_pairLiterals? pairs htexts]
  | .nil, _, h | .bool _, _, h | .int _, _, h | .float _, _, h | .text _, _, h
  | .symbol _, _, h => Option.some.inj h

theorem describeItems_of_itemLiterals? : (items : List Value) → {texts : List String} →
    itemLiterals? items = some texts → describeItems scopeName items = texts
  | [], _, h => Option.some.inj h
  | item :: rest, _, h => by
      rw [itemLiterals?] at h
      split at h
      next hitem hrest =>
        cases h
        rw [describeItems, item.describe_of_literal? hitem,
          describeItems_of_itemLiterals? rest hrest]
      next => cases h

theorem describePairs_of_pairLiterals? : (pairs : List (Value × Value)) → {texts : List String} →
    pairLiterals? pairs = some texts → describePairs scopeName pairs = texts
  | [], _, h => Option.some.inj h
  | (key, value) :: rest, _, h => by
      rw [pairLiterals?] at h
      split at h
      next hkey hvalue hrest =>
        cases h
        rw [describePairs, key.describe_of_literal? hkey, value.describe_of_literal? hvalue,
          describePairs_of_pairLiterals? rest hrest]
      next => cases h

end

theorem searchText?_of_plainText?
    {value : Value} {text : String} (h : value.plainText? = some text) :
    value.searchText? scopeName = some text := by
  cases value with
  | array items => exact congrArg some (describe_of_literal? scopeName _ h)
  | hash pairs => exact congrArg some (describe_of_literal? scopeName _ h)
  | object reference => cases h
  | scope id => cases h
  | nil | bool truth | int number | float number | text content | symbol name => exact h

/-! ### Descriptions without a default -/

mutual

/-- The description of a value, unless a part of it has no text. -/
def description? : Value → Option String
  | .object reference => some ("#<" ++ scopeName reference.ofClass ++ ">")
  | .scope id => some (scopeName id)
  | .array items => (itemDescriptions? items).map arrayLiteral
  | .hash pairs => (pairDescriptions? pairs).map hashLiteral
  | value => value.literal?

def itemDescriptions? : List Value → Option (List String)
  | [] => some []
  | item :: rest => do
      let first ← item.description?
      let others ← itemDescriptions? rest
      pure (first :: others)

def pairDescriptions? : List (Value × Value) → Option (List String)
  | [] => some []
  | (key, value) :: rest => do
      let keyText ← key.description?
      let valueText ← value.description?
      let others ← pairDescriptions? rest
      pure (pairLiteral keyText valueText :: others)

end

mutual

theorem description?_eq : (value : Value) →
    value.description? scopeName = some (value.describe scopeName)
  | .array items => by
      rw [description?, itemDescriptions?_eq items, describe, Option.map_some]
  | .hash pairs => by
      rw [description?, pairDescriptions?_eq pairs, describe, Option.map_some]
  | .nil | .bool _ | .int _ | .float _ | .text _ | .symbol _ | .object _ | .scope _ => rfl

theorem itemDescriptions?_eq : (items : List Value) →
    itemDescriptions? scopeName items = some (describeItems scopeName items)
  | [] => rfl
  | item :: rest => by
      rw [itemDescriptions?, item.description?_eq, itemDescriptions?_eq rest]
      rfl

theorem pairDescriptions?_eq : (pairs : List (Value × Value)) →
    pairDescriptions? scopeName pairs = some (describePairs scopeName pairs)
  | [] => rfl
  | (key, value) :: rest => by
      rw [pairDescriptions?, key.description?_eq, value.description?_eq, pairDescriptions?_eq rest]
      rfl

end

theorem exists_searchText (value : Value) : ∃ text, value.searchText? scopeName = some text := by
  cases value <;> exact ⟨_, rfl⟩

end Value

namespace ObjectSpace

/-- The two ways to write a value agree: a literal and a plain text are missing
exactly where names are needed, and are the description and the text that is
searched in every object space otherwise; there nothing is replaced by the empty
text. -/
theorem texts_agree_with_and_without_names (space : ObjectSpace) (value : Value) :
    (value.literal? = none ↔ value.NeedsNames) ∧
      (value.plainText? = none ↔ value.NeedsNames) ∧
      (∀ text, value.literal? = some text → space.describe value = text) ∧
      (∀ text, value.plainText? = some text → space.environment.text? value = some text) ∧
      value.description? space.scopeName = some (space.describe value) ∧
      ∃ text, space.environment.text? value = some text ∧
        ∀ frame : Frame, Builtin.run space { frame with receiver := value } .textOf =
          .ok (.text text) := by
  obtain ⟨text, htext⟩ := value.exists_searchText space.scopeName
  have hanswer : ∀ frame : Frame,
      Builtin.run space { frame with receiver := value } .textOf = .ok (.text text) := by
    intro frame
    change Except.ok (Value.text ((value.searchText? space.scopeName).getD "")) = _
    rw [htext, Option.getD_some]
  exact ⟨value.literal?_eq_none_iff, value.plainText?_eq_none_iff,
    fun _ => value.describe_of_literal? space.scopeName,
    fun _ => Value.searchText?_of_plainText? space.scopeName,
    value.description?_eq space.scopeName, text, htext, hanswer⟩

/-- A hash that has a literal, and a list that needs the name of a scope inside a hash. -/
theorem texts_agree_with_and_without_names_inside_containers :
    ∃ (space : ObjectSpace) (value named : Value),
      value.literal? = some "\x7b\"a\\n\"=>[nil, :ok?]\x7d" ∧
        space.describe value = "\x7b\"a\\n\"=>[nil, :ok?]\x7d" ∧
        space.environment.text? value = some "\x7b\"a\\n\"=>[nil, :ok?]\x7d" ∧
        named.NeedsNames ∧ named.literal? = none ∧ named.plainText? = none ∧
        space.describe named = "[\x7b:of=>Integer\x7d]" := by
  let space : ObjectSpace := .initial ⟨0⟩ .standard []
  let value : Value := .hash [(.text "a\n", .array [.nil, .symbol ⟨"ok?"⟩])]
  let named : Value := .array [.hash [(.symbol ⟨"of"⟩, .scope .integer)]]
  have hliteral : value.literal? = some "\x7b\"a\\n\"=>[nil, :ok?]\x7d" := by decide +kernel
  have hnamed : named.NeedsNames :=
    .item List.mem_cons_self (.content List.mem_cons_self (.scope .integer))
  obtain ⟨-, -, hdescribe, hsearch, -⟩ := texts_agree_with_and_without_names space value
  obtain ⟨hmissing, hplain, -⟩ := texts_agree_with_and_without_names space named
  exact ⟨space, value, named, hliteral, hdescribe _ hliteral, hsearch _ hliteral, hnamed,
    hmissing.mpr hnamed, hplain.mpr hnamed, by decide +kernel⟩

end ObjectSpace

end CallContract
