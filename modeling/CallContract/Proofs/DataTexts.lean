import CallContract.Json.Reading
import CallContract.Json.Writing
import CallContract.Proofs.Lexing

/-!
# Data texts are read back

A tree without floats whose integers fit into 64 bits is read from the text that
is written for it.  Scalars are read up to what stands behind them: integers have
no zero before other digits and end where neither a digit nor a fraction nor an
exponent follows, and every escape of a text denotes the character it was made
from.  Lists and objects are read item by item, with a level for each of them.
-/

namespace CallContract.Json

open Notation (takeWhile_dropWhile_run)

variable {chars rest : List Char}

/-! ### Texts -/

theorem hexadecimalValue?_digit : ∀ n < 16, hexadecimalValue? (hexadecimalDigit n) = some n := by
  decide

theorem readUnits_numberEscape {c : Char} (h : c.toNat < 0x20) :
    readUnits (numberEscape c ++ chars) = consUnit? (some (.char c)) (readUnits chars) := by
  have hzero : hexadecimalValue? '0' = some 0 := rfl
  have hfirst := hexadecimalValue?_digit (c.toNat / 16) (by omega)
  have hsecond := hexadecimalValue?_digit (c.toNat % 16) (by omega)
  have hnumber : ((0 * 16 + 0) * 16 + c.toNat / 16) * 16 + c.toNat % 16 = c.toNat := by omega
  have hunit : unitOfNumber c.toNat = .char c := by
    unfold unitOfNumber isFirstHalf isSecondHalf
    rw [if_neg (by simp; omega), Char.ofNat_toNat]
  have hread : readUnit? '0' '0' (hexadecimalDigit (c.toNat / 16))
      (hexadecimalDigit (c.toNat % 16)) = some (.char c) := by
    unfold readUnit?
    rw [hzero, hfirst, hsecond]
    change some (unitOfNumber (((0 * 16 + 0) * 16 + c.toNat / 16) * 16 + c.toNat % 16)) = _
    rw [hnumber, hunit]
  change readUnits ('\\' :: 'u' :: '0' :: '0' :: hexadecimalDigit (c.toNat / 16) ::
    hexadecimalDigit (c.toNat % 16) :: chars) = _
  rw [readUnits, hread]

theorem readUnits_plain
    {c : Char} (hquote : c ≠ '"') (hescape : c ≠ '\\') (h : 0x20 ≤ c.toNat) :
    readUnits (c :: chars) = consUnit? (some (.char c)) (readUnits chars) := by
  rw [readUnits, if_neg (Nat.not_lt.mpr h)]
  all_goals simp_all

theorem readUnits_mark
    {mark c : Char} (h : escapedChar? mark = some c) :
    readUnits ('\\' :: mark :: chars) = consUnit? (some (.char c)) (readUnits chars) := by
  have hmark : mark ≠ 'u' := by
    rintro rfl
    cases h
  rw [readUnits, h, Option.map_some]
  exact fun _ _ _ _ _ hnumber _ => hmark hnumber

theorem readUnits_escapeChar (c : Char) :
    readUnits (escapeChar c ++ chars) = consUnit? (some (.char c)) (readUnits chars) := by
  unfold escapeChar
  split_ifs with hquote hescape hbackspace hform hfeed hreturn htab hcontrol
  case pos => exact readUnits_mark (by rw [hquote]; rfl)
  case pos => exact readUnits_mark (by rw [hescape]; rfl)
  case pos => exact readUnits_mark (by rw [hbackspace]; rfl)
  case pos => exact readUnits_mark (by rw [hform]; rfl)
  case pos => exact readUnits_mark (by rw [hfeed]; rfl)
  case pos => exact readUnits_mark (by rw [hreturn]; rfl)
  case pos => exact readUnits_mark (by rw [htab]; rfl)
  case pos => exact readUnits_numberEscape hcontrol
  case neg => exact readUnits_plain hquote hescape (Nat.not_lt.mp hcontrol)

theorem readUnits_escaped (content : List Char) :
    readUnits (content.flatMap escapeChar ++ '"' :: rest) = some (content.map .char, rest) := by
  induction content with
  | nil => rfl
  | cons c content ih =>
      rw [List.flatMap_cons, List.append_assoc, readUnits_escapeChar, ih]
      rfl

theorem joinUnits?_chars (content : List Char) : joinUnits? (content.map .char) = some content := by
  induction content with
  | nil => rfl
  | cons c content ih =>
      rw [List.map_cons, joinUnits?, ih]
      rfl

theorem readText_escaped (content : String) :
    readText (content.toList.flatMap escapeChar ++ '"' :: rest) = some (some content, rest) := by
  rw [readText, readUnits_escaped, Option.map_some]
  dsimp only
  rw [joinUnits?_chars, Option.map_some, String.ofList_toList]

/-! ### Integers -/

/-- The rest does not go on with a number. -/
def EndsNumber (rest : List Char) : Prop :=
  ∀ c ∈ rest.head?, c.isDigit = false ∧ c ≠ '.' ∧ c ≠ 'e' ∧ c ≠ 'E'

/-- No digits of a number start with a zero before another one. -/
theorem head?_digitChars_ne_zero {n : Nat} (h : 0 < n) :
    (Binary64.digitChars n).head? ≠ some '0' := by
  have hdigits : ∀ digit < 10, 0 < digit → Nat.digitChar digit ≠ '0' := by decide
  unfold Binary64.digitChars
  induction n using Nat.strongRecOn with
  | ind n ih =>
      by_cases hsmall : n < 10
      · rw [Nat.toDigits_of_lt_base hsmall, List.head?_cons, ne_eq, Option.some.injEq]
        exact hdigits n hsmall h
      · obtain ⟨c, others, hfront⟩ :=
          List.exists_cons_of_ne_nil (Binary64.digitChars_ne_nil (n / 10))
        have hne := ih (n / 10) (by omega) (by omega)
        unfold Binary64.digitChars at hfront
        rw [Nat.toDigits_of_base_le (by decide) (by omega), hfront]
        rwa [hfront] at hne

theorem digitChars_ne_zero_cons (n : Nat) (c : Char) (others : List Char) :
    Binary64.digitChars n ≠ '0' :: c :: others := by
  intro hdigits
  rcases Nat.eq_zero_or_pos n with rfl | hpos
  · cases hdigits
  · exact head?_digitChars_ne_zero hpos (by rw [hdigits]; rfl)

theorem readWhole_digitChars (n : Nat) (h : EndsNumber rest) :
    readWhole (Binary64.digitChars n ++ rest) = some (Binary64.digitChars n, rest) := by
  obtain ⟨htake, hdrop⟩ := takeWhile_dropWhile_run
    (fun c => Binary64.isDigit_of_mem_digitChars (n := n) (c := c)) fun c hc => (h c hc).1
  unfold readWhole takeDigits
  rw [htake, hdrop]
  split
  next heq => exact absurd (congrArg Prod.fst heq) (Binary64.digitChars_ne_nil n)
  next heq => exact absurd (congrArg Prod.fst heq) (digitChars_ne_zero_cons n _ _)
  next heq =>
    cases heq
    rfl

theorem EndsNumber.readFraction_eq (h : EndsNumber rest) : readFraction rest = some ([], rest) := by
  unfold readFraction
  split
  next => exact absurd rfl (h _ rfl).2.1
  next => rfl

theorem EndsNumber.readExponent_eq (h : EndsNumber rest) :
    readExponent rest = some (none, rest) := by
  cases rest with
  | nil => rfl
  | cons c rest =>
      obtain ⟨-, -, hlower, hupper⟩ := h c rfl
      rw [readExponent, if_neg (by simp [hlower, hupper])]

theorem le_foldl_digits (digits : List Char) (significand : Nat) :
    significand ≤
      digits.foldl (fun value c => 10 * value + Binary64.digitValue c) significand := by
  induction digits generalizing significand with
  | nil => exact Nat.le_refl significand
  | cons c digits ih =>
      have hnext := ih (10 * significand + Binary64.digitValue c)
      rw [List.foldl_cons]
      omega

theorem collectDigits_eq
    {digits : List Char} {significand : Nat}
    (h : digits.foldl (fun value c => 10 * value + Binary64.digitValue c) significand <
      0x10000000000000000) :
    collectDigits significand digits =
      (digits.foldl (fun value c => 10 * value + Binary64.digitValue c) significand, []) := by
  induction digits generalizing significand with
  | nil => rfl
  | cons c digits ih =>
      rw [List.foldl_cons] at h ⊢
      have hnext := Nat.lt_of_le_of_lt (le_foldl_digits digits _) h
      rw [collectDigits, if_pos hnext, ih h]

theorem toJson_whole {negative : Bool} {n : Nat} (h : n < 0x10000000000000000) :
    (NumberText.mk negative (Binary64.digitChars n) [] none).toJson =
      integerOrFloat negative n := by
  have hvalue : (Binary64.digitChars n).foldl
      (fun value c => 10 * value + Binary64.digitValue c) 0 = n := Binary64.readDigits_digitChars n
  have hcollected := collectDigits_eq (by rw [hvalue]; exact h)
  rw [hvalue] at hcollected
  unfold NumberText.toJson
  dsimp only
  rw [hcollected]
  rfl

theorem writeInteger_eq (number : Int) :
    writeInteger number =
      Binary64.signChars (decide (number < 0)) ++ Binary64.digitChars number.natAbs := by
  unfold writeInteger
  by_cases hnegative : number < 0
  · rw [if_pos hnegative, decide_eq_true hnegative]
    rfl
  · rw [if_neg hnegative, decide_eq_false hnegative]
    rfl

theorem splitMinus_signed (negative : Bool) (n : Nat) :
    splitMinus (Binary64.signChars negative ++ Binary64.digitChars n ++ rest) =
      (negative, Binary64.digitChars n ++ rest) := by
  cases negative with
  | true => rfl
  | false =>
      obtain ⟨c, others, hdigits⟩ := List.exists_cons_of_ne_nil (Binary64.digitChars_ne_nil n)
      have hc : c.isDigit = true :=
        Binary64.isDigit_of_mem_digitChars (n := n) (by rw [hdigits]; exact List.mem_cons_self)
      change splitMinus (Binary64.digitChars n ++ rest) = _
      rw [hdigits, List.cons_append]
      unfold splitMinus
      split
      next heq =>
        cases heq
        exact absurd hc (by decide)
      next => rfl

theorem readNumberText_signed (negative : Bool) (n : Nat) (h : EndsNumber rest) :
    readNumberText (Binary64.signChars negative ++ Binary64.digitChars n ++ rest) =
      some (⟨negative, Binary64.digitChars n, [], none⟩, rest) := by
  unfold readNumberText
  rw [splitMinus_signed]
  dsimp only
  rw [readWhole_digitChars n h]
  change (readFraction rest).bind _ = _
  rw [h.readFraction_eq]
  change (readExponent rest).bind _ = _
  rw [h.readExponent_eq]
  rfl

theorem readNumber_writeInteger
    {number : Int} (hlow : -0x8000000000000000 ≤ number) (hhigh : number < 0x10000000000000000)
    (h : EndsNumber rest) :
    readNumber (writeInteger number ++ rest) = some (.integer number, rest) := by
  rw [readNumber, writeInteger_eq, readNumberText_signed _ _ h, Option.map_some]
  dsimp only
  rw [toJson_whole (by omega)]
  unfold integerOrFloat
  by_cases hnegative : number < 0
  · rw [decide_eq_true hnegative, if_pos rfl, if_pos (by omega)]
    have hnumber : -(number.natAbs : Int) = number := by omega
    rw [hnumber]
  · rw [decide_eq_false hnegative, if_neg Bool.false_ne_true]
    have hnumber : (number.natAbs : Int) = number := by omega
    rw [hnumber]

/-! ### Items -/

variable {α β : Type} {item : Reader α} {write : β → List Char} {meaning : β → α} {close : Char}

/-- What stands behind the first of some items, up to the closing character. -/
def separatedBehind (write : β → List Char) (close : Char) : List β → List Char
  | [] => [close]
  | item :: others => ',' :: (write item ++ separatedBehind write close others)

/-- What stands behind an opening character. -/
def enclosed (write : β → List Char) (close : Char) : List β → List Char
  | [] => [close]
  | first :: others => write first ++ separatedBehind write close others

/-- The reader takes the text up to a rest that does not go on with a number. -/
def Reads (reader : Reader α) (text : List Char) (value : α) : Prop :=
  ∀ rest, EndsNumber rest → reader (text ++ rest) = some (value, rest)

/-- The text starts neither with a blank nor with what closes a list or an object. -/
def StartsItem (text : List Char) : Prop :=
  ∃ c more, text = c :: more ∧ isBlank c = false ∧ c ≠ ']' ∧ c ≠ '\x7d'

def IsClosing (close : Char) : Prop :=
  close = ']' ∨ close = '\x7d'

theorem endsNumber_separatedBehind (hclose : IsClosing close) (others : List β) :
    EndsNumber (separatedBehind write close others ++ rest) := by
  cases others with
  | nil =>
      rintro _ ⟨⟩
      rcases hclose with rfl | rfl <;> decide
  | cons item others =>
      rintro _ ⟨⟩
      decide

theorem readSeparated_eq
    (hclose : IsClosing close) {first : β} {others : List β} {steps : Nat}
    (hsteps : others.length < steps)
    (hread : ∀ other ∈ first :: others, Reads item (write other) (meaning other)) :
    readSeparated item close steps (write first ++ (separatedBehind write close others ++ rest)) =
      some ((first :: others).map meaning, rest) := by
  induction others generalizing first steps with
  | nil =>
      obtain ⟨left, rfl⟩ := Nat.exists_eq_succ_of_ne_zero (Nat.ne_zero_of_lt hsteps)
      rw [readSeparated, hread first List.mem_cons_self _ (endsNumber_separatedBehind hclose [])]
      rcases hclose with rfl | rfl <;> rfl
  | cons next others ih =>
      obtain ⟨left, rfl⟩ := Nat.exists_eq_succ_of_ne_zero (Nat.ne_zero_of_lt hsteps)
      have hothers := ih (Nat.lt_of_succ_lt_succ hsteps)
        fun other (hother : other ∈ next :: others) => hread other (List.mem_cons_of_mem _ hother)
      rw [readSeparated,
        hread first List.mem_cons_self _ (endsNumber_separatedBehind hclose (next :: others))]
      change (readSeparated item close left (write next ++ separatedBehind write close others ++
        rest)).bind _ = _
      rw [List.append_assoc, hothers]
      rfl

theorem length_lt_separatedBehind (write : β → List Char) (close : Char) (others : List β) :
    others.length < (separatedBehind write close others).length := by
  induction others with
  | nil => exact Nat.one_pos
  | cons next others ih =>
      rw [separatedBehind, List.length_cons, List.length_cons, List.length_append]
      omega

theorem readEnclosed_eq
    (hclose : IsClosing close) {items : List β}
    (hstart : ∀ other ∈ items, StartsItem (write other))
    (hread : ∀ other ∈ items, Reads item (write other) (meaning other)) :
    readEnclosed item close (enclosed write close items ++ rest) =
      some (items.map meaning, rest) := by
  cases items with
  | nil => rcases hclose with rfl | rfl <;> rfl
  | cons first others =>
      obtain ⟨c, more, hfirst, hblank, hbracket, hbrace⟩ := hstart first List.mem_cons_self
      have hsteps : others.length <
          (write first ++ (separatedBehind write close others ++ rest)).length := by
        have hbehind := length_lt_separatedBehind write close others
        rw [List.length_append, List.length_append]
        omega
      have hskip : skipBlank (write first ++ (separatedBehind write close others ++ rest)) =
          c :: (more ++ (separatedBehind write close others ++ rest)) := by
        rw [hfirst, List.cons_append, skipBlank, List.dropWhile_cons_of_neg (by simp [hblank])]
      have hopen : c ≠ close := by
        rcases hclose with rfl | rfl
        · exact hbracket
        · exact hbrace
      rw [enclosed, List.append_assoc, readEnclosed, hskip]
      dsimp only
      rw [if_neg hopen, readSeparated_eq hclose hsteps hread]

theorem length_lt_enclosed
    (write : β → List Char) (close : Char) {items : List β} {other : β} (h : other ∈ items) :
    (write other).length < (enclosed write close items).length := by
  have hbehind : ∀ others : List β, other ∈ others →
      (write other).length < (separatedBehind write close others).length := by
    intro others hother
    induction others with
    | nil => cases hother
    | cons next others ih =>
        rw [separatedBehind, List.length_cons, List.length_append]
        rcases List.mem_cons.mp hother with rfl | hlater
        · omega
        · have := ih hlater
          omega
  cases items with
  | nil => cases h
  | cons first others =>
      rw [enclosed, List.length_append]
      rcases List.mem_cons.mp h with rfl | hlater
      · have := length_lt_separatedBehind write close others
        omega
      · have := hbehind others hlater
        omega

theorem enclosed_length_pos (write : β → List Char) (close : Char) (items : List β) :
    0 < (enclosed write close items).length := by
  cases items with
  | nil => exact Nat.one_pos
  | cons first others =>
      have hbehind := length_lt_separatedBehind write close others
      rw [enclosed, List.length_append]
      omega

/-! ### Trees -/

def compactField (field : String × Json) : List Char :=
  writeText field.1 ++ ':' :: field.2.compact

theorem compactItems_eq (items : List Json) :
    compactItems items = separatedBehind compact ']' items := by
  induction items with
  | nil => rfl
  | cons item rest ih => rw [compactItems, ih, separatedBehind]

theorem compactFields_eq (fields : List (String × Json)) :
    compactFields fields = separatedBehind compactField '\x7d' fields := by
  induction fields with
  | nil => rfl
  | cons field rest ih =>
      rw [compactFields, ih, separatedBehind, compactField, List.append_assoc]
      rfl

theorem compact_array (items : List Json) :
    (Json.array items).compact = '[' :: enclosed compact ']' items := by
  cases items with
  | nil => rfl
  | cons item rest => rw [compact, compactItems_eq, enclosed]

theorem compact_object (fields : List (String × Json)) :
    (Json.object fields).compact = '\x7b' :: enclosed compactField '\x7d' fields := by
  cases fields with
  | nil => rfl
  | cons field rest =>
      rw [compact, compactFields_eq, enclosed, compactField, List.append_assoc]
      rfl

mutual

/-- How deeply lists and objects are nested: the brackets and braces that are open
at once in the text. -/
def nesting : Json → Nat
  | .array items => 1 + nestingOfItems items
  | .object fields => 1 + nestingOfFields fields
  | _ => 0

def nestingOfItems : List Json → Nat
  | [] => 0
  | item :: rest => max item.nesting (nestingOfItems rest)

def nestingOfFields : List (String × Json) → Nat
  | [] => 0
  | field :: rest => max field.2.nesting (nestingOfFields rest)

end

theorem nestingOfItems_le_iff (items : List Json) (limit : Nat) :
    nestingOfItems items ≤ limit ↔ ∀ item ∈ items, item.nesting ≤ limit := by
  induction items with
  | nil => simp [nestingOfItems]
  | cons item rest ih => rw [nestingOfItems, Nat.max_le, ih, List.forall_mem_cons]

theorem nestingOfFields_le_iff (fields : List (String × Json)) (limit : Nat) :
    nestingOfFields fields ≤ limit ↔ ∀ field ∈ fields, field.2.nesting ≤ limit := by
  induction fields with
  | nil => simp [nestingOfFields]
  | cons field rest ih => rw [nestingOfFields, Nat.max_le, ih, List.forall_mem_cons]

theorem nesting_array_le_iff (items : List Json) (limit : Nat) :
    (Json.array items).nesting ≤ limit ↔
      ∃ below, limit = below + 1 ∧ ∀ item ∈ items, item.nesting ≤ below := by
  simp only [nesting, ← nestingOfItems_le_iff]
  constructor
  · intro h
    exact ⟨limit - 1, by omega, by omega⟩
  · rintro ⟨below, rfl, h⟩
    omega

theorem nesting_object_le_iff (fields : List (String × Json)) (limit : Nat) :
    (Json.object fields).nesting ≤ limit ↔
      ∃ below, limit = below + 1 ∧ ∀ field ∈ fields, field.2.nesting ≤ below := by
  simp only [nesting, ← nestingOfFields_le_iff]
  constructor
  · intro h
    exact ⟨limit - 1, by omega, by omega⟩
  · rintro ⟨below, rfl, h⟩
    omega

theorem startsItem_of_isDigit {c : Char} (h : c.isDigit = true) (more : List Char) :
    StartsItem (c :: more) := by
  have hbounds := Notation.isDigit_iff.mp h
  refine ⟨c, more, rfl, ?_, ?_, ?_⟩
  · unfold isBlank
    simp only [Bool.or_eq_false_iff, beq_eq_false_iff_ne]
    refine ⟨⟨⟨?_, ?_⟩, ?_⟩, ?_⟩ <;> rintro rfl <;> exact absurd h (by decide)
  · rintro rfl
    exact absurd h (by decide)
  · rintro rfl
    exact absurd h (by decide)

theorem exists_writeInteger (number : Int) :
    ∃ c more, writeInteger number = c :: more ∧ (c.isDigit = true ∨ c = '-') := by
  obtain ⟨c, more, hdigits⟩ :=
    List.exists_cons_of_ne_nil (Binary64.digitChars_ne_nil number.natAbs)
  rw [writeInteger_eq, hdigits]
  cases decide (number < 0) with
  | true => exact ⟨'-', c :: more, rfl, .inr rfl⟩
  | false =>
      refine ⟨c, more, rfl, .inl (Binary64.isDigit_of_mem_digitChars (n := number.natAbs) ?_)⟩
      rw [hdigits]
      exact List.mem_cons_self

theorem IsExact.startsItem {json : Json} (h : json.IsExact) : StartsItem json.compact := by
  cases h with
  | null => exact ⟨'n', _, rfl, rfl, by decide, by decide⟩
  | bool truth =>
      cases truth with
      | true => exact ⟨'t', _, rfl, rfl, by decide, by decide⟩
      | false => exact ⟨'f', _, rfl, rfl, by decide, by decide⟩
  | @integer number =>
      obtain ⟨c, more, hwritten, hdigit | rfl⟩ := exists_writeInteger number
      · rw [compact, hwritten]
        exact startsItem_of_isDigit hdigit more
      · rw [compact, hwritten]
        exact ⟨'-', more, rfl, rfl, by decide, by decide⟩
  | string content => exact ⟨'"', _, rfl, rfl, by decide, by decide⟩
  | array =>
      rw [compact_array]
      exact ⟨'[', _, rfl, rfl, by decide, by decide⟩
  | object =>
      rw [compact_object]
      exact ⟨'\x7b', _, rfl, rfl, by decide, by decide⟩

theorem StartsItem.length_pos {text : List Char} (h : StartsItem text) : 0 < text.length := by
  obtain ⟨c, more, rfl, -⟩ := h
  exact Nat.succ_pos _

theorem IsExact.length_pos {json : Json} (h : json.IsExact) : 0 < json.compact.length := by
  obtain ⟨c, more, hwritten, -⟩ := h.startsItem
  rw [hwritten]
  exact Nat.succ_pos _

/-- Every level has a character of its own, and a scalar has another one. -/
theorem IsExact.nesting_lt_length {json : Json} (h : json.IsExact) :
    json.nesting < json.compact.length := by
  induction h with
  | null => decide
  | bool truth => cases truth <;> decide
  | integer hlow hhigh => exact (IsExact.integer hlow hhigh).length_pos
  | string content => exact (IsExact.string content).length_pos
  | @array items _ ih =>
      rw [compact_array, List.length_cons]
      refine Nat.lt_succ_of_le ((nesting_array_le_iff items _).mpr ?_)
      have hnonempty := enclosed_length_pos compact ']' items
      refine ⟨(enclosed compact ']' items).length - 1, by omega, fun item hitem => ?_⟩
      have hinside := ih item hitem
      have hshorter := length_lt_enclosed compact ']' hitem
      omega
  | @object fields _ ih =>
      rw [compact_object, List.length_cons]
      refine Nat.lt_succ_of_le ((nesting_object_le_iff fields _).mpr ?_)
      have hnonempty := enclosed_length_pos compactField '\x7d' fields
      refine ⟨(enclosed compactField '\x7d' fields).length - 1, by omega, fun field hfield => ?_⟩
      have hinside := ih field hfield
      have hcontent : field.2.compact.length < (compactField field).length := by
        rw [compactField, List.length_append, List.length_cons]
        omega
      have hshorter := length_lt_enclosed compactField '\x7d' hfield
      omega

/-! ### Reading trees -/

variable {inner : Reader Json}

theorem readUsing_number
    {c : Char} (h : c.isDigit = true ∨ c = '-') (more : List Char) :
    readUsing inner (c :: more) = readNumber (c :: more) := by
  have hskip : skipBlank (c :: more) = c :: more := by
    rcases h with hdigit | rfl
    · obtain ⟨_, _, heq, hblank, -⟩ := startsItem_of_isDigit hdigit more
      cases heq
      rw [skipBlank, List.dropWhile_cons_of_neg (by simp [hblank])]
    · rfl
  unfold readUsing
  rw [hskip]
  dsimp only
  split
  all_goals first
    | rfl
    | exact absurd h (by decide)

theorem reads_integer
    {number : Int} (hlow : -0x8000000000000000 ≤ number) (hhigh : number < 0x10000000000000000) :
    Reads (readUsing inner) (Json.integer number).compact (.integer number) := by
  intro rest hrest
  obtain ⟨c, more, hwritten, hc⟩ := exists_writeInteger number
  have hread := readNumber_writeInteger hlow hhigh hrest
  rw [hwritten] at hread
  rw [compact, hwritten, List.cons_append, readUsing_number hc]
  exact hread

theorem reads_string (content : String) :
    Reads (readUsing inner) (Json.string content).compact (.string content) := by
  intro rest _
  change (readText (content.toList.flatMap escapeChar ++ ['"'] ++ rest)).map _ = _
  rw [List.append_assoc]
  change (readText (content.toList.flatMap escapeChar ++ '"' :: rest)).map _ = _
  rw [readText_escaped]
  rfl

theorem reads_array
    {items : List Json} (hitems : ∀ item ∈ items, IsExact item)
    (hread : ∀ item ∈ items, Reads inner item.compact item) :
    Reads (readUsing inner) (Json.array items).compact (.array items) := by
  intro rest _
  have henclosed : readEnclosed inner ']' (enclosed compact ']' items ++ rest) =
      some (items.map id, rest) :=
    readEnclosed_eq (.inl rfl) (fun item hitem => (hitems item hitem).startsItem) hread
  rw [compact_array]
  change (readEnclosed inner ']' (enclosed compact ']' items ++ rest)).map _ = _
  rw [henclosed, List.map_id]
  rfl

theorem reads_field
    {field : String × Json} (h : Reads inner field.2.compact field.2) :
    Reads (readField inner) (compactField field) (some field.1, field.2) := by
  intro rest hrest
  have htext : compactField field ++ rest =
      '"' :: (field.1.toList.flatMap escapeChar ++ '"' :: ':' :: (field.2.compact ++ rest)) := by
    rw [compactField, writeText, List.cons_append, List.cons_append, List.append_assoc,
      List.append_assoc]
    rfl
  rw [htext]
  change (readText (field.1.toList.flatMap escapeChar ++
    '"' :: ':' :: (field.2.compact ++ rest))).bind _ = _
  rw [readText_escaped]
  change (inner (field.2.compact ++ rest)).bind _ = _
  rw [h rest hrest]
  rfl

theorem objectOfFields_readable (fields : List (String × Json)) :
    objectOfFields (fields.map fun field => (some field.1, field.2)) = .object fields := by
  have hfields : (fields.map fun field => (some field.1, field.2)).mapM nameField? =
      some fields := by
    induction fields with
    | nil => rfl
    | cons field rest ih =>
        rw [List.map_cons, List.mapM_cons, ih]
        rfl
  rw [objectOfFields, hfields]

theorem reads_object
    {fields : List (String × Json)}
    (hread : ∀ field ∈ fields, Reads inner field.2.compact field.2) :
    Reads (readUsing inner) (Json.object fields).compact (.object fields) := by
  intro rest _
  have henclosed : readEnclosed (readField inner) '\x7d'
      (enclosed compactField '\x7d' fields ++ rest) =
        some (fields.map fun field => (some field.1, field.2), rest) :=
    readEnclosed_eq (.inr rfl) (fun field _ => ⟨'"', _, rfl, rfl, by decide, by decide⟩)
      fun field hfield => reads_field (hread field hfield)
  rw [compact_object]
  change (readEnclosed (readField inner) '\x7d'
    (enclosed compactField '\x7d' fields ++ rest)).map _ = _
  rw [henclosed]
  change some (objectOfFields (fields.map fun field => (some field.1, field.2)), rest) = _
  rw [objectOfFields_readable]

/-- A tree is read from its text with a level for every list and object around a
scalar, and one for the scalar. -/
theorem IsExact.reads
    {json : Json} (h : json.IsExact) {levels : Nat} (hlevels : json.nesting ≤ levels) :
    Reads (readValue (levels + 1)) json.compact json := by
  induction h generalizing levels with
  | null => exact fun _ _ => rfl
  | bool truth => cases truth <;> exact fun _ _ => rfl
  | integer hlow hhigh => exact reads_integer hlow hhigh
  | string content => exact reads_string content
  | array hitems ih =>
      obtain ⟨below, rfl, hinside⟩ := (nesting_array_le_iff _ levels).mp hlevels
      exact reads_array hitems fun item hitem => ih item hitem (hinside item hitem)
  | object _ ih =>
      obtain ⟨below, rfl, hinside⟩ := (nesting_object_le_iff _ levels).mp hlevels
      exact reads_object fun field hfield => ih field hfield (hinside field hfield)

/-- A tree is read back from its text on one line. -/
theorem IsExact.ofText?_compactText {json : Json} (h : json.IsExact) :
    ofText? json.compactText = some json := by
  obtain ⟨levels, hlevels⟩ := Nat.exists_eq_succ_of_ne_zero (Nat.ne_zero_of_lt h.length_pos)
  have hnesting := h.nesting_lt_length
  have henough : json.nesting ≤ levels := by omega
  have hread := h.reads henough [] nofun
  rw [List.append_nil] at hread
  rw [ofText?, compactText, String.toList_ofList, ofChars?, hlevels, hread]
  rfl

end CallContract.Json
