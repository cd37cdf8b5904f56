import CallContract.Proofs.CallDecision
import CallContract.Proofs.Lexing
import Mathlib.Data.List.Induction
import Mathlib.Data.Nat.Digits.Defs

/-!
# Integers at the start of texts

Behind blanks a text may start with an integer: digits, with a sign before them
or without one, up to the first character that is no digit.  Reading it yields
that integer, whatever follows, if its magnitude is that of a positive integer of
64 bits.  The magnitude is read before the sign is applied, so the least integer
of 64 bits is read as zero like those that do not fit, although its own text
starts with it.
-/

namespace CallContract

/-! ### The integer that a text starts with -/

/-- What digits denote, the last of them being that of the ones. -/
def decimalValue (digits : List Char) : Nat :=
  Nat.ofDigits 10 (digits.reverse.map Binary64.digitValue)

inductive IsSign : Bool → List Char → Prop
  | absent : IsSign false []
  | plus : IsSign false ['+']
  | minus : IsSign true ['-']

/-- Behind blanks stand digits that denote a number with the sign before them;
they go on as far as there are digits. -/
inductive LeadsWith : List Char → Int → Prop
  | behind {blanks sign digits rest : List Char} {negative : Bool}
      (hblanks : ∀ c ∈ blanks, Text.isBlank c = true) (hsign : IsSign negative sign)
      (hnonempty : digits ≠ []) (hdigits : ∀ c ∈ digits, c.isDigit = true)
      (hstop : ∀ c ∈ rest.head?, c.isDigit = false) :
      LeadsWith (blanks ++ (sign ++ (digits ++ rest)))
        (Binary64.signed negative (decimalValue digits))

theorem readDigits_eq_decimalValue (digits : List Char) :
    Binary64.readDigits digits = decimalValue digits := by
  unfold decimalValue
  induction digits using List.reverseRecOn with
  | nil => rfl
  | append_singleton digits last ih =>
      rw [List.reverse_append, List.reverse_singleton, List.singleton_append, List.map_cons,
        Nat.ofDigits_cons, ← ih, Nat.add_comm]
      unfold Binary64.readDigits
      rw [List.foldl_append]
      rfl

theorem natAbs_signed (negative : Bool) (magnitude : Nat) :
    (Binary64.signed negative magnitude).natAbs = magnitude := by
  unfold Binary64.signed
  cases negative with
  | false => exact Int.natAbs_natCast magnitude
  | true => exact (Int.natAbs_neg _).trans (Int.natAbs_natCast magnitude)

/-! ### Signs and blanks -/

variable {sign digits rest chars : List Char} {negative : Bool} {number : Int}

theorem IsSign.splitSign_eq
    {first : Char} (h : IsSign negative sign) (hfirst : rest.head? = some first)
    (hdigit : first.isDigit = true) : Binary64.splitSign (sign ++ rest) = (negative, rest) := by
  cases h with
  | plus => rfl
  | minus => rfl
  | absent =>
      obtain ⟨others, rfl⟩ := List.head?_eq_some_iff.mp hfirst
      rw [List.nil_append]
      unfold Binary64.splitSign
      split
      next heq =>
        cases heq
        exact absurd hdigit (by decide)
      next heq =>
        cases heq
        exact absurd hdigit (by decide)
      next => rfl

theorem exists_sign (chars : List Char) :
    ∃ sign, IsSign (Binary64.splitSign chars).1 sign ∧
      chars = sign ++ (Binary64.splitSign chars).2 := by
  unfold Binary64.splitSign
  split
  · exact ⟨['-'], .minus, rfl⟩
  · exact ⟨['+'], .plus, rfl⟩
  · exact ⟨[], .absent, rfl⟩

theorem isBlank_of_isDigit {c : Char} (h : c.isDigit = true) : Text.isBlank c = false := by
  have hbounds := Notation.isDigit_iff.mp h
  exact Notation.isBlank_of_visible (by omega) (by omega)

theorem IsSign.isBlank_head
    {first : Char} (h : IsSign negative sign) (hfirst : rest.head? = some first)
    (hdigit : first.isDigit = true) : ∀ c ∈ (sign ++ rest).head?, Text.isBlank c = false := by
  cases h with
  | absent =>
      intro c hc
      obtain rfl := Option.some.inj (hfirst.symm.trans hc)
      exact isBlank_of_isDigit hdigit
  | plus =>
      rintro _ ⟨⟩
      rfl
  | minus =>
      rintro _ ⟨⟩
      rfl

/-! ### Reading -/

theorem leadingInteger_of_leadsWith {text : String} (h : LeadsWith text.toList number) :
    leadingInteger text = if number.natAbs < 0x8000000000000000 then Int64.ofInt number else 0 := by
  generalize hchars : text.toList = chars at h
  cases h with
  | @behind blanks sign digits rest negative hblanks hsign hnonempty hdigits hstop =>
      obtain ⟨first, hfirst, hdigit⟩ :
          ∃ first, (digits ++ rest).head? = some first ∧ first.isDigit = true := by
        obtain ⟨first, others, rfl⟩ := List.exists_cons_of_ne_nil hnonempty
        exact ⟨first, rfl, hdigits first List.mem_cons_self⟩
      have htrim : Text.trimStart text.toList = sign ++ (digits ++ rest) := by
        rw [hchars]
        exact (Notation.takeWhile_dropWhile_run hblanks (hsign.isBlank_head hfirst hdigit)).2
      have hrun := (Notation.takeWhile_dropWhile_run hdigits hstop).1
      unfold leadingInteger
      rw [htrim, hsign.splitSign_eq hfirst hdigit]
      dsimp only
      rw [hrun, readDigits_eq_decimalValue, natAbs_signed]
      split
      next hlarge => rw [if_neg (Nat.not_lt.mpr hlarge)]
      next hsmall => rw [if_pos (Nat.not_le.mp hsmall)]

theorem exists_leadsWith
    (hnonempty : (Binary64.splitSign (Text.trimStart chars)).2.takeWhile Char.isDigit ≠ []) :
    ∃ number, LeadsWith chars number := by
  obtain ⟨sign, hsign, hrest⟩ := exists_sign (Text.trimStart chars)
  generalize (Binary64.splitSign (Text.trimStart chars)).2 = rest at hnonempty hrest
  have hstop : ∀ c ∈ (rest.dropWhile Char.isDigit).head?, c.isDigit = false := by
    intro c hc
    have hnot := List.head?_dropWhile_not Char.isDigit rest
    rw [Option.mem_def.mp hc] at hnot
    exact hnot
  have hparts : chars = chars.takeWhile Text.isBlank ++
      (sign ++ (rest.takeWhile Char.isDigit ++ rest.dropWhile Char.isDigit)) := by
    rw [List.takeWhile_append_dropWhile, ← hrest]
    exact List.takeWhile_append_dropWhile.symm
  rw [hparts]
  exact ⟨_, .behind (List.all_eq_true.mp List.all_takeWhile) hsign hnonempty
    (List.all_eq_true.mp List.all_takeWhile) hstop⟩

/-- Without digits behind the blanks and the sign there is nothing to read. -/
theorem leadingInteger_of_no_leadsWith
    {text : String} (h : ∀ number, ¬ LeadsWith text.toList number) : leadingInteger text = 0 := by
  have hnone : (Binary64.splitSign (Text.trimStart text.toList)).2.takeWhile Char.isDigit = [] := by
    by_contra hnonempty
    obtain ⟨number, hleads⟩ := exists_leadsWith hnonempty
    exact h number hleads
  unfold leadingInteger
  dsimp only
  rw [hnone]
  cases (Binary64.splitSign (Text.trimStart text.toList)).1 <;> rfl

theorem leadsWith_intText (number : Int64) :
    LeadsWith (Value.intText number).toList number.toInt := by
  obtain ⟨negative, size, htext, hvalue⟩ := Notation.intText_eq_signed_digits number
  have hsign : IsSign negative (Binary64.signChars negative) := by
    cases negative
    · exact .absent
    · exact .minus
  have hleads : LeadsWith ([] ++ (Binary64.signChars negative ++ (Binary64.digitChars size ++ [])))
      (Binary64.signed negative (decimalValue (Binary64.digitChars size))) :=
    .behind nofun hsign (Binary64.digitChars_ne_nil size)
      (fun _ => Binary64.isDigit_of_mem_digitChars) nofun
  rw [← readDigits_eq_decimalValue, Binary64.readDigits_digitChars, hvalue, List.append_nil,
    List.nil_append, ← htext] at hleads
  exact hleads

/-- What is read from a text that starts with a number. -/
theorem toInt_leadingInteger {text : String} (h : LeadsWith text.toList number) :
    (leadingInteger text).toInt = if -2 ^ 63 < number ∧ number < 2 ^ 63 then number else 0 := by
  rw [leadingInteger_of_leadsWith h]
  by_cases hsmall : number.natAbs < 0x8000000000000000
  · rw [if_pos hsmall, if_pos (by omega)]
    exact Int64.toInt_ofInt_of_le (by omega) (by omega)
  · rw [if_neg hsmall, if_neg (by omega)]
    rfl

/-- The least integer is the only one that is not read from its own text. -/
theorem leadingInteger_intText (number : Int64) :
    leadingInteger (Value.intText number) = if number = Int64.minValue then 0 else number := by
  rw [← Int64.toInt_inj, toInt_leadingInteger (leadsWith_intText number)]
  have hlow := Int64.minValue_le_toInt number
  have hhigh := Int64.toInt_lt number
  rw [Int64.toInt_minValue] at hlow
  by_cases hleast : number = Int64.minValue
  · rw [if_pos hleast, if_neg (by rw [hleast, Int64.toInt_minValue]; omega)]
    rfl
  · have hnot : number.toInt ≠ -2 ^ 63 := by
      rwa [← Int64.toInt_minValue, ne_eq, Int64.toInt_inj]
    rw [if_neg hleast, if_pos ⟨by omega, hhigh⟩]

namespace ObjectSpace

/-! ### Calls -/

/-- A call of a name without arguments is left to a built-in member that is under
no contract. -/
structure LeavesToBuiltin
    (space : ObjectSpace)
    (receiver : Value)
    (name : Symbol)
    (operation : Builtin) : Prop where
  shallow : 0 < space.settings.maxCallDepth
  finds : ∃ way owner,
    space.Finds receiver name way
        ⟨⟨name, owner, .publicAccess, .none⟩, .builtin operation⟩ ∧
      space.checkersOn name way = []

theorem LeavesToBuiltin.perform_call
    {space : ObjectSpace} {receiver value : Value} {name : Symbol} {operation : Builtin}
    (h : space.LeavesToBuiltin receiver name operation)
    (hrun : operation.run space ⟨receiver, name, ⟨[], []⟩, 1⟩ = .ok value) :
    space.perform (.call receiver name ⟨[], []⟩) = (.ok (.value value), space) := by
  obtain ⟨way, owner, hfinds, hcheckers⟩ := h.finds
  have hcontracts : space.contractsOn name way = [] := by
    rw [contractsOn, hcheckers]
    rfl
  have hadmits : space.Admits 0 .external receiver name ⟨[], []⟩ way
      ⟨⟨name, owner, .publicAccess, .none⟩, .builtin operation⟩ ⟨[], []⟩ :=
    ⟨h.shallow, hfinds, rfl, rfl⟩
  have hpass : space.ArgumentsPass name way ⟨[], []⟩ := by
    rw [ArgumentsPass, hcontracts]
    nofun
  have hbody : ((Body.builtin operation).run (.below maxReentries 0)
      ⟨receiver, name, ⟨[], []⟩, 1⟩).run space = (.ok value, space) :=
    Action.run_step_eq_ok_iff.mpr (by rw [hrun]; rfl)
  have hcalled := perform_call_of_returned (CallDecision.returned hadmits hpass hbody
    (by rw [hcontracts]; nofun))
  rw [hcheckers, recordOutcome_nil] at hcalled
  exact hcalled

theorem LeavesToBuiltin.reads_text
    {space : ObjectSpace} {text : String}
    (h : space.LeavesToBuiltin (.text text) ⟨"to_i"⟩ .stringToInteger) :
    space.perform (.call (.text text) ⟨"to_i"⟩ ⟨[], []⟩) =
      (.ok (.value (.int (leadingInteger text))), space) :=
  h.perform_call rfl

/-- A new object space leaves these calls to its built-in members. -/
theorem initial_leavesToBuiltin :
    (∀ text, (initial ⟨0⟩ .standard []).LeavesToBuiltin (.text text) ⟨"to_i"⟩ .stringToInteger) ∧
      ∀ number, (initial ⟨0⟩ .standard []).LeavesToBuiltin (.int number) ⟨"to_s"⟩ .textOf := by
  constructor
  · intro text
    exact ⟨by decide, [.string], .string, ⟨[], .string, _, rfl, rfl, nofun, rfl⟩, rfl⟩
  · intro number
    refine ⟨by decide, [.integer, .numeric, .comparable, .object, .kernel], .kernel,
      ⟨[.integer, .numeric, .comparable, .object], .kernel, _, rfl, rfl, ?_, rfl⟩, rfl⟩
    simp only [List.forall_mem_cons]
    exact ⟨rfl, rfl, rfl, rfl, nofun⟩

/-- Where the built-in members for texts and integers are called, a text is read
as the integer that it starts with if its magnitude is that of a positive one, and
as zero otherwise.  So an integer is read from its own text unless it is the least. -/
theorem leading_integers_are_read_but_the_least
    {space : ObjectSpace}
    (hread : ∀ text, space.LeavesToBuiltin (.text text) ⟨"to_i"⟩ .stringToInteger)
    (hwrite : ∀ number, space.LeavesToBuiltin (.int number) ⟨"to_s"⟩ .textOf) :
    (∀ text number, LeadsWith text.toList number →
      ∃ read : Int64, read.toInt = (if -2 ^ 63 < number ∧ number < 2 ^ 63 then number else 0) ∧
        space.perform (.call (.text text) ⟨"to_i"⟩ ⟨[], []⟩) = (.ok (.value (.int read)), space)) ∧
      (∀ text, (∀ number, ¬ LeadsWith text.toList number) →
        space.perform (.call (.text text) ⟨"to_i"⟩ ⟨[], []⟩) = (.ok (.value (.int 0)), space)) ∧
      ∀ number : Int64,
        space.perform (.call (.int number) ⟨"to_s"⟩ ⟨[], []⟩) =
            (.ok (.value (.text (Value.intText number))), space) ∧
          space.perform (.call (.text (Value.intText number)) ⟨"to_i"⟩ ⟨[], []⟩) =
            (.ok (.value (.int (if number = Int64.minValue then 0 else number))), space) := by
  refine ⟨fun text number hleads => ⟨_, toInt_leadingInteger hleads, (hread text).reads_text⟩,
    ?_, ?_⟩
  · intro text hnone
    rw [(hread text).reads_text, leadingInteger_of_no_leadsWith hnone]
  · intro number
    refine ⟨(hwrite number).perform_call rfl, ?_⟩
    rw [(hread _).reads_text, leadingInteger_intText]

/-- Blanks, a sign and zeros before an integer, and more digits after it behind a mark. -/
theorem leading_integers_are_read_but_the_least_behind_a_sign :
    ∃ space : ObjectSpace,
      (∀ text, space.LeavesToBuiltin (.text text) ⟨"to_i"⟩ .stringToInteger) ∧
        (∀ number, space.LeavesToBuiltin (.int number) ⟨"to_s"⟩ .textOf) ∧
        LeadsWith "\u3000\n-0012_7é".toList (-12) ∧
        space.perform (.call (.text "\u3000\n-0012_7é") ⟨"to_i"⟩ ⟨[], []⟩) =
          (.ok (.value (.int (-12))), space) ∧
        space.perform (.call (.text (Value.intText Int64.maxValue)) ⟨"to_i"⟩ ⟨[], []⟩) =
          (.ok (.value (.int Int64.maxValue)), space) := by
  obtain ⟨hread, hwrite⟩ := initial_leavesToBuiltin
  have hleads : LeadsWith "\u3000\n-0012_7é".toList (-12) := by
    have hblanks : ∀ c ∈ ['\u3000', '\n'], Text.isBlank c = true := List.all_eq_true.mp rfl
    have hdigits : ∀ c ∈ ['0', '0', '1', '2'], c.isDigit = true := List.all_eq_true.mp rfl
    have hstop : ∀ c ∈ ['_', '7', 'é'].head?, c.isDigit = false := by
      rintro _ ⟨⟩
      rfl
    exact .behind hblanks .minus (List.cons_ne_nil _ _) hdigits hstop
  obtain ⟨hnumber, -, hown⟩ := leading_integers_are_read_but_the_least hread hwrite
  obtain ⟨read, hvalue, hcall⟩ := hnumber _ _ hleads
  obtain rfl : read = -12 := Int64.toInt_inj.mp hvalue
  exact ⟨_, hread, hwrite, hleads, hcall, (hown Int64.maxValue).2⟩

/-- The text of the least integer starts with it, and is read as zero. -/
theorem least_integer_is_read_as_zero :
    ∃ space : ObjectSpace,
      LeadsWith (Value.intText Int64.minValue).toList Int64.minValue.toInt ∧
        space.perform (.call (.int Int64.minValue) ⟨"to_s"⟩ ⟨[], []⟩) =
          (.ok (.value (.text (Value.intText Int64.minValue))), space) ∧
        space.perform (.call (.text (Value.intText Int64.minValue)) ⟨"to_i"⟩ ⟨[], []⟩) =
          (.ok (.value (.int 0)), space) ∧
        (0 : Int64) ≠ Int64.minValue := by
  obtain ⟨hread, hwrite⟩ := initial_leavesToBuiltin
  have hcall := (hread (Value.intText Int64.minValue)).reads_text
  rw [leadingInteger_intText, if_pos rfl] at hcall
  exact ⟨_, leadsWith_intText _, (hwrite Int64.minValue).perform_call rfl, hcall, by decide⟩

end ObjectSpace

end CallContract
