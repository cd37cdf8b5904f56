import CallContract.Proofs.DataTexts
import CallContract.Value.DataFormat
import Mathlib.Logic.Function.Iterate

/-!
# Values are read back from data texts

Each kind of value has a shape of its own in a data text, in which lists, pairs
and the object around them are levels.  A value without floats is read back from
its data text exactly if its text has no more levels than reading follows; the
whole range of integers, all texts and symbols, and the numbers of objects and
scopes are kept.
-/

namespace CallContract

open Json (nestingOfItems)

namespace Value

variable {value : Value} {items : List Value} {pairs : List (Value × Value)} {room : Nat}

theorem itemsToJson_eq_map (items : List Value) : itemsToJson items = items.map toJson := by
  induction items with
  | nil => rfl
  | cons item rest ih => rw [itemsToJson, ih, List.map_cons]

theorem pairsToJson_eq_map (pairs : List (Value × Value)) :
    pairsToJson pairs = pairs.map fun pair => .array [pair.1.toJson, pair.2.toJson] := by
  induction pairs with
  | nil => rfl
  | cons pair rest ih => rw [pairsToJson, ih, List.map_cons]

/-! ### The text of a value -/

theorem isExact_tagged {kind : String} {content : Json} (h : content.IsExact) :
    (tagged kind content).IsExact :=
  .object (List.forall_mem_singleton.mpr h)

theorem isExact_number {number : Nat} (h : number < 0x100000000) :
    (Json.integer number).IsExact :=
  .integer (by omega) (by omega)

theorem IsPortable.isExact (h : value.IsPortable) : value.toJson.IsExact := by
  induction h with
  | nil => exact .string "Nil"
  | bool truth => exact isExact_tagged (.bool truth)
  | int number =>
      have hlow := Int64.minValue_le_toInt number
      have hhigh := Int64.toInt_lt number
      rw [Int64.toInt_minValue] at hlow
      exact isExact_tagged (.integer (by omega) (by omega))
  | text content => exact isExact_tagged (.string content)
  | symbol name => exact isExact_tagged (.string name.name)
  | array _ ih =>
      refine isExact_tagged (.array ?_)
      rw [itemsToJson_eq_map]
      exact List.forall_mem_map.mpr ih
  | hash _ _ ihkeys ihvalues =>
      refine isExact_tagged (.array ?_)
      rw [pairsToJson_eq_map]
      exact List.forall_mem_map.mpr fun pair hpair =>
        .array (List.forall_mem_cons.mpr
          ⟨ihkeys pair hpair, List.forall_mem_singleton.mpr (ihvalues pair hpair)⟩)
  | object hid hclass =>
      exact isExact_tagged (.object (List.forall_mem_cons.mpr
        ⟨isExact_number hid, List.forall_mem_singleton.mpr (isExact_number hclass)⟩))
  | scope hid => exact isExact_tagged (isExact_number hid)

/-! ### Reading with a number of levels -/

/-- The value is read from its tree exactly if there is room for the levels of it. -/
def ReadsWithin (value : Value) : Prop :=
  ∀ room, ofJsonWithin room value.toJson =
    if value.toJson.nesting ≤ room then some value else none

theorem readsWithin_of_content
    {kind : String} {content : Json} (hjson : value.toJson = tagged kind content)
    (h : ∀ room, contentWithin room kind content =
      if content.nesting ≤ room then some value else none) :
    value.ReadsWithin := by
  intro room
  rw [hjson]
  have hnesting : (tagged kind content).nesting = 1 + content.nesting := by
    rw [tagged, Json.nesting, Json.nestingOfFields, Json.nestingOfFields, Nat.max_zero]
  rw [hnesting]
  cases room with
  | zero => rw [if_neg (by omega)]; rfl
  | succ room =>
      rw [tagged, ofJsonWithin, h]
      simp only [Nat.add_comm 1, Nat.add_le_add_iff_right]

theorem number32?_integer {number : Nat} (h : number < 0x100000000) :
    number32? (.integer number) = some number := by
  rw [number32?, if_pos ⟨Int.natCast_nonneg number, by omega⟩, Int.toNat_natCast]

theorem intContent?_toInt (number : Int64) :
    intContent? (.integer number.toInt) = some (.int number) := by
  rw [intContent?, if_pos ⟨Int64.minValue_le_toInt number, Int64.toInt_le number⟩,
    Int64.ofInt_toInt]

theorem itemsWithin_itemsToJson (h : ∀ item ∈ items, item.ReadsWithin) :
    itemsWithin room (itemsToJson items) =
      if nestingOfItems (itemsToJson items) ≤ room then some items else none := by
  induction items with
  | nil => rfl
  | cons item rest ih =>
      obtain ⟨hitem, hrest⟩ := List.forall_mem_cons.mp h
      simp only [itemsToJson, itemsWithin, hitem room, ih hrest, nestingOfItems, Nat.max_le]
      by_cases hfirst : item.toJson.nesting ≤ room
      · by_cases hothers : nestingOfItems (itemsToJson rest) ≤ room
        · simp only [hfirst, hothers, and_self, if_true]
        · simp only [hfirst, hothers, and_false, if_true, if_false]
      · simp only [hfirst, false_and, if_false]

theorem nesting_pair (key value : Json) :
    (Json.array [key, value]).nesting = 1 + max key.nesting value.nesting := by
  rw [Json.nesting, nestingOfItems, nestingOfItems, nestingOfItems, Nat.max_zero]

theorem pairsWithin_pairsToJson
    (hkeys : ∀ pair ∈ pairs, pair.1.ReadsWithin) (hvalues : ∀ pair ∈ pairs, pair.2.ReadsWithin) :
    pairsWithin room (pairsToJson pairs) =
      if nestingOfItems (pairsToJson pairs) ≤ room then some pairs else none := by
  induction pairs with
  | nil => cases room <;> rfl
  | cons pair rest ih =>
      obtain ⟨hkey, hkeysRest⟩ := List.forall_mem_cons.mp hkeys
      obtain ⟨hvalue, hvaluesRest⟩ := List.forall_mem_cons.mp hvalues
      simp only [pairsToJson, nestingOfItems, nesting_pair, Nat.max_le]
      cases room with
      | zero =>
          rw [if_neg (by omega)]
          rfl
      | succ room =>
          have hpair : 1 + max pair.1.toJson.nesting pair.2.toJson.nesting ≤ room + 1 ↔
              pair.1.toJson.nesting ≤ room ∧ pair.2.toJson.nesting ≤ room := by omega
          simp only [pairsWithin, hkey room, hvalue room, ih hkeysRest hvaluesRest, hpair]
          by_cases hfirst : pair.1.toJson.nesting ≤ room
          · by_cases hsecond : pair.2.toJson.nesting ≤ room
            · by_cases hothers : nestingOfItems (pairsToJson rest) ≤ room + 1
              · simp only [hfirst, hsecond, hothers, and_self, if_true]
              · simp only [hfirst, hsecond, hothers, and_false, if_true, if_false]
            · simp only [hfirst, hsecond, and_false, false_and, if_true, if_false]
          · simp only [hfirst, false_and, if_false]

/-- The list that holds the items or the pairs is a level around them. -/
theorem map_of_list
    {α : Type} {read : Option α} {content : List Json} {result : α} (wrap : α → Value)
    (h : read = if nestingOfItems content ≤ room then some result else none) :
    read.map wrap =
      if (Json.array content).nesting ≤ room + 1 then some (wrap result) else none := by
  simp only [h, Json.nesting, Nat.add_comm 1, Nat.add_le_add_iff_right]
  split <;> rfl

theorem nesting_array_pos (content : List Json) : ¬ (Json.array content).nesting ≤ 0 := by
  rw [Json.nesting]
  omega

theorem reference?_fields (id ofClass : Json) :
    reference? (.object [("id", id), ("class", ofClass)]) =
      (number32? id).bind fun id => (number32? ofClass).map fun ofClass => ⟨⟨id⟩, ⟨ofClass⟩⟩ := by
  change ((number32? id).bind fun id => (number32? ofClass).bind fun ofClass =>
    some (ObjectRef.mk ⟨id⟩ ⟨ofClass⟩)) = _
  simp only [Option.map_eq_bind]
  rfl

theorem contentWithin_scope (room : Nat) (content : Json) :
    contentWithin room "Scope" content = (number32? content).map fun id => .scope ⟨id⟩ := by
  rw [contentWithin.eq_def]
  rfl

theorem contentWithin_object (room : Nat) (content : Json) :
    contentWithin (room + 1) "Object" content = (reference? content).map .object := by
  rw [contentWithin.eq_def]
  rfl

theorem IsPortable.readsWithin (h : value.IsPortable) : value.ReadsWithin := by
  induction h with
  | nil => exact fun room => by rfl
  | bool truth => exact readsWithin_of_content rfl fun _ => rfl
  | int number => exact readsWithin_of_content rfl fun _ => intContent?_toInt number
  | text content => exact readsWithin_of_content rfl fun _ => rfl
  | symbol name => exact readsWithin_of_content rfl fun _ => rfl
  | array _ ih =>
      refine readsWithin_of_content rfl fun room => ?_
      cases room with
      | zero => exact (if_neg (nesting_array_pos _)).symm
      | succ room => exact map_of_list .array (itemsWithin_itemsToJson ih)
  | hash _ _ ihkeys ihvalues =>
      refine readsWithin_of_content rfl fun room => ?_
      cases room with
      | zero => exact (if_neg (nesting_array_pos _)).symm
      | succ room => exact map_of_list .hash (pairsWithin_pairsToJson ihkeys ihvalues)
  | object hid hclass =>
      refine readsWithin_of_content rfl fun room => ?_
      cases room with
      | zero => rfl
      | succ room =>
          rw [contentWithin_object, referenceJson, reference?_fields, number32?_integer hid,
            number32?_integer hclass]
          exact (if_pos (Nat.le_add_left 1 room)).symm
  | scope hid =>
      refine readsWithin_of_content rfl fun room => ?_
      rw [contentWithin_scope, number32?_integer hid]
      exact (if_pos (Nat.zero_le room)).symm

/-- A value without floats is read back from its data text in any format, unless
more lists and objects are open in the text at once than reading follows. -/
theorem data_texts_read_back (format : DataFormat) (h : value.IsPortable) :
    format.read? (format.write value) =
      if value.toJson.nesting ≤ maxDataNesting then some value else none := by
  have htext : Json.ofText? (format.write value) = some value.toJson := by
    rw [format.write_eq_compactText h, h.isExact.ofText?_compactText]
  rw [format.read?_eq_ofJson? htext h.isExact, ofJson?]
  exact h.readsWithin maxDataNesting

theorem IsPortable.iterate_array (h : value.IsPortable) (count : Nat) :
    ((fun item => Value.array [item])^[count] value).IsPortable := by
  induction count with
  | zero => exact h
  | succ count ih =>
      rw [Function.iterate_succ_apply']
      exact .array (List.forall_mem_singleton.mpr ih)

/-- A hash inside lists that leave no level unused, and in one list more. -/
theorem data_texts_read_back_at_the_last_level :
    ∃ value : Value, value.IsPortable ∧ value.toJson.nesting = maxDataNesting ∧
      DataFormat.standard.read? (DataFormat.standard.write value) = some value ∧
      DataFormat.standard.read? (DataFormat.standard.write (.array [value])) = none := by
  let key : Value := .object ⟨⟨1⟩, ⟨17⟩⟩
  let content : Value := .text "\"\\\u0001é"
  let inner : Value := .hash [(key, content), (.symbol ⟨"a b"⟩, .int Int64.minValue), (.nil, .nil)]
  let value : Value := (fun item => Value.array [item])^[61] inner
  have hinner : inner.IsPortable := by
    refine .hash ?_ ?_
    · simp only [List.forall_mem_cons]
      exact ⟨.object (by decide) (by decide), .symbol _, .nil, nofun⟩
    · simp only [List.forall_mem_cons]
      exact ⟨.text _, .int _, .nil, nofun⟩
  have hvalue : value.IsPortable := hinner.iterate_array 61
  have hnesting : value.toJson.nesting = maxDataNesting := by decide +kernel
  have hdeeper : ¬ (Value.array [value]).toJson.nesting ≤ maxDataNesting := by decide +kernel
  have hread := data_texts_read_back .standard hvalue
  have hrefused := data_texts_read_back .standard (.array (List.forall_mem_singleton.mpr hvalue))
  rw [if_pos (Nat.le_of_eq hnesting)] at hread
  rw [if_neg hdeeper] at hrefused
  exact ⟨value, hvalue, hnesting, hread, hrefused⟩

end Value

end CallContract
