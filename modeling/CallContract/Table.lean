/-!
# Tables in order of insertion

A table lists keys with their values.  Putting a value under a key that is
listed replaces the value in its place, and a new key goes to the end.
-/

namespace CallContract

abbrev Table (κ α : Type) : Type :=
  List (κ × α)

namespace Table

variable {κ α : Type} [DecidableEq κ]

def get? (table : Table κ α) (key : κ) : Option α :=
  List.lookup key table

def contains (table : Table κ α) (key : κ) : Bool :=
  (table.get? key).isSome

def put (table : Table κ α) (key : κ) (value : α) : Table κ α :=
  match table with
  | [] => [(key, value)]
  | (other, old) :: rest =>
      if other = key then (key, value) :: rest else (other, old) :: put rest key value

def erase (table : Table κ α) (key : κ) : Table κ α :=
  table.filter fun entry => entry.1 ≠ key

def keys (table : Table κ α) : List κ :=
  table.map Prod.fst

def ofEntries (entries : List (κ × α)) : Table κ α :=
  entries.foldl (fun table entry => put table entry.1 entry.2) []

@[simp] theorem get?_nil
    (key : κ) :
    get? ([] : Table κ α) key = none :=
  rfl

theorem get?_cons
    (other key : κ)
    (value : α)
    (rest : Table κ α) :
    get? ((other, value) :: rest) key = if other = key then some value else get? rest key := by
  by_cases h : other = key
  · simp [get?, h]
  · have hne : (key == other) = false := by simpa using Ne.symm h
    simp [get?, List.lookup_cons, h, hne]

theorem contains_iff_mem_keys (table : Table κ α) (key : κ) :
    table.contains key = true ↔ key ∈ table.keys := by
  induction table with
  | nil => simp [contains, keys]
  | cons entry rest ih =>
      unfold contains keys at ih ⊢
      rw [get?_cons, List.map_cons, List.mem_cons, ← ih]
      split
      next hsame => simp [hsame]
      next hother => simp [Ne.symm hother]

theorem mem_of_get?
    {table : Table κ α}
    {key : κ}
    {value : α}
    (h : table.get? key = some value) :
    (key, value) ∈ table := by
  obtain ⟨front, back, hsplit, -⟩ := List.lookup_eq_some_iff.mp h
  rw [hsplit]
  exact List.mem_append_right front List.mem_cons_self

/-- The table after a put maps the key to the new value and all others as before. -/
theorem get?_put
    (table : Table κ α)
    (key other : κ)
    (value : α) :
    (table.put key value).get? other =
      if key = other then some value else table.get? other := by
  induction table with
  | nil => simp [put, get?_cons]
  | cons entry rest ih =>
      obtain ⟨first, old⟩ := entry
      by_cases hfirst : first = key
      · subst hfirst
        by_cases h : first = other <;> simp [put, get?_cons, h]
      · by_cases h : key = other
        · subst h
          simp [put, get?_cons, hfirst, ih]
        · simp [put, get?_cons, hfirst, ih, h]

/-- What holds of all entries and of a new one holds of all after the put. -/
theorem of_get?_put
    {table : Table κ α}
    {holds : κ → α → Prop}
    (hold : ∀ key value, table.get? key = some value → holds key value)
    {key other : κ}
    {value found : α}
    (hnew : holds key value)
    (hfound : (table.put key value).get? other = some found) :
    holds other found := by
  rw [get?_put] at hfound
  split at hfound
  next hsame =>
    subst hsame
    cases hfound
    exact hnew
  next => exact hold other found hfound

theorem get?_filter
    (table : Table κ α)
    (own : κ → Bool)
    {key : κ}
    (hown : own key = true) :
    get? (table.filter fun entry => own entry.1) key = table.get? key := by
  induction table with
  | nil => rfl
  | cons entry rest ih =>
      obtain ⟨first, value⟩ := entry
      by_cases hfirst : own first = true
      · simp [hfirst, get?_cons, ih]
      · have hother : first ≠ key := by
          rintro rfl
          exact hfirst hown
        simp [hfirst, get?_cons, hother, ih]

theorem get?_erase (table : Table κ α) (key other : κ) :
    (table.erase key).get? other = if key = other then none else table.get? other := by
  unfold erase
  by_cases h : key = other
  · subst h
    rw [if_pos rfl]
    cases hfound : get? (table.filter fun entry => entry.1 ≠ key) key with
    | none => rfl
    | some value =>
        have hmem := mem_of_get? hfound
        simp at hmem
  · rw [if_neg h]
    exact get?_filter table (fun first => decide (first ≠ key)) (decide_eq_true (Ne.symm h))

theorem filter_put_of_own
    (table : Table κ α)
    (own : κ → Bool)
    {key : κ}
    (hown : own key = true)
    (value : α) :
    (table.put key value).filter (fun entry => own entry.1) =
      put (table.filter fun entry => own entry.1) key value := by
  induction table with
  | nil => simp [put, hown]
  | cons entry rest ih =>
      obtain ⟨first, old⟩ := entry
      by_cases hsame : first = key
      · subst hsame
        simp [put, hown]
      · by_cases hfirst : own first = true
        · simp [put, hsame, hfirst, ih]
        · simp [put, hsame, hfirst, ih]

theorem filter_put_of_foreign
    (table : Table κ α)
    (own : κ → Bool)
    {key : κ}
    (hforeign : own key = false)
    (value : α) :
    (table.put key value).filter (fun entry => own entry.1) =
      table.filter fun entry => own entry.1 := by
  induction table with
  | nil => simp [put, hforeign]
  | cons entry rest ih =>
      obtain ⟨first, old⟩ := entry
      by_cases hsame : first = key
      · subst hsame
        simp [put, hforeign]
      · simp only [put, if_neg hsame, List.filter_cons, ih]

end Table

end CallContract
