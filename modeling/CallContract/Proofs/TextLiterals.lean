import CallContract.Proofs.Lexing

/-!
# Literals of texts

Between the quotes of a literal four escapes stand for a character each, and a
backslash before any other character stands for itself.  A text is quoted with
more escapes than these, so what is read from a quoted text keeps the others as
they are written.  It is the text that was quoted exactly if none of the others
was needed, and it is read back as it is from then on.
-/

namespace CallContract.Notation

/-- The text is quoted by escaping the quote, the backslash, the line feed and
the tab at most. -/
def IsPlainlyQuoted (content : List Char) : Prop :=
  ∀ c ∈ content, c = '"' ∨ c = '\\' ∨ c = '\n' ∨ c = '\t' ∨ Text.quoteChar c = [c]

instance (content : List Char) : Decidable (IsPlainlyQuoted content) :=
  List.decidableBAll _ content

/-- What the notation reads from the quoted form of a character: it has four of
the escapes, and keeps the others as they are written. -/
def readBackChar (c : Char) : List Char :=
  if c = '"' ∨ c = '\\' ∨ c = '\n' ∨ c = '\t' then [c] else Text.quoteChar c

/-- What the notation reads from the quoted form of a text. -/
def readBack (content : String) : String :=
  String.ofList (content.toList.flatMap readBackChar)

variable {literal content : List Char}

theorem SpellsText.plainly
    {run : List Char} (hrun : ∀ c ∈ run, c ≠ '"' ∧ c ≠ '\\') (h : SpellsText literal content) :
    SpellsText (run ++ literal) (run ++ content) := by
  induction run with
  | nil => exact h
  | cons c run ih =>
      obtain ⟨hc, hothers⟩ := List.forall_mem_cons.mp hrun
      exact .plain hc.1 hc.2 (ih hothers)

theorem exists_digit_of_mem_hexadecimal {n : Nat} {c : Char} (h : c ∈ Text.hexadecimal n) :
    ∃ digit < 16, c = Nat.digitChar digit := by
  unfold Text.hexadecimal at h
  induction n using Nat.strongRecOn with
  | ind n ih =>
    rw [Nat.toDigits_eq_if (Nat.one_lt_succ_succ 14)] at h
    split at h
    next hsmall => exact ⟨n, hsmall, List.mem_singleton.mp h⟩
    next hlarge =>
      rcases List.mem_append.mp h with hfront | hlast
      · exact ih (n / 16) (by omega) hfront
      · exact ⟨n % 16, Nat.mod_lt n (by decide), List.mem_singleton.mp hlast⟩

theorem plain_of_mem_hexadecimal {n : Nat} {c : Char} (h : c ∈ Text.hexadecimal n) :
    c ≠ '"' ∧ c ≠ '\\' := by
  have hdigits : ∀ digit < 16, Nat.digitChar digit ≠ '"' ∧ Nat.digitChar digit ≠ '\\' := by
    decide
  obtain ⟨digit, hdigit, rfl⟩ := exists_digit_of_mem_hexadecimal h
  exact hdigits digit hdigit

theorem SpellsText.quoteChar (c : Char) (h : SpellsText literal content) :
    SpellsText (Text.quoteChar c ++ literal) (readBackChar c ++ content) := by
  by_cases hknown : c = '"' ∨ c = '\\' ∨ c = '\n' ∨ c = '\t'
  · rw [readBackChar, if_pos hknown]
    rcases hknown with rfl | rfl | rfl | rfl
    all_goals exact .escape _ h
  · rw [readBackChar, if_neg hknown]
    unfold Text.quoteChar
    split_ifs with hquote hescape hfeed hreturn htab hnull
    · exact absurd (.inl hquote) hknown
    · exact absurd (.inr (.inl hescape)) hknown
    · exact absurd (.inr (.inr (.inl hfeed))) hknown
    · exact .escape 'r' h
    · exact absurd (.inr (.inr (.inr htab))) hknown
    · exact .escape '0' h
    · exact .plain hquote hescape h
    · -- the braces and the digits between them are read as they stand
      have hrun : ∀ other ∈ '\x7b' :: (Text.hexadecimal c.toNat ++ ['\x7d']),
          other ≠ '"' ∧ other ≠ '\\' := by
        simp only [List.forall_mem_cons, List.forall_mem_append]
        exact ⟨by decide, fun _ => plain_of_mem_hexadecimal, by decide, nofun⟩
      exact .escape 'u' (h.plainly hrun)

theorem spellsText_quoted (content : List Char) :
    SpellsText (content.flatMap Text.quoteChar) (content.flatMap readBackChar) := by
  induction content with
  | nil => exact .nil
  | cons c content ih => exact ih.quoteChar c

theorem readBackChar_eq_or_length (c : Char) :
    readBackChar c = [c] ∨ 2 ≤ (readBackChar c).length := by
  unfold readBackChar Text.quoteChar
  split_ifs
  case neg =>
    simp only [Text.codePointEscape, List.length_append, List.length_cons]
    omega
  all_goals first
    | exact .inl rfl
    | exact .inr (Nat.le_refl 2)

theorem readBackChar_eq_iff (c : Char) :
    readBackChar c = [c] ↔
      c = '"' ∨ c = '\\' ∨ c = '\n' ∨ c = '\t' ∨ Text.quoteChar c = [c] := by
  unfold readBackChar
  split <;> tauto

theorem length_le_flatMap_readBackChar (content : List Char) :
    content.length ≤ (content.flatMap readBackChar).length := by
  induction content with
  | nil => exact Nat.le_refl 0
  | cons c content ih =>
      rw [List.flatMap_cons, List.length_append, List.length_cons]
      rcases readBackChar_eq_or_length c with hsame | hlonger
      · rw [hsame, List.length_singleton]
        omega
      · omega

/-- A kept escape is longer than its character, so a text is read back as it is
only if no escape is kept. -/
theorem readBack_eq_iff (content : String) :
    readBack content = content ↔ IsPlainlyQuoted content.toList := by
  rw [readBack, ← String.toList_inj, String.toList_ofList]
  generalize content.toList = chars
  induction chars with
  | nil => exact iff_of_true rfl nofun
  | cons c chars ih =>
      have hrest := length_le_flatMap_readBackChar chars
      rw [IsPlainlyQuoted, List.forall_mem_cons, ← readBackChar_eq_iff, List.flatMap_cons]
      refine Iff.trans ?_ (and_congr_right fun _ => ih)
      rcases readBackChar_eq_or_length c with hsame | hlonger
      · rw [hsame, List.singleton_append, List.cons.injEq]
        exact and_congr_left fun _ => iff_of_true rfl rfl
      · constructor
        · intro hboth
          have hlength := congrArg List.length hboth
          rw [List.length_append, List.length_cons] at hlength
          omega
        · rintro ⟨hsame, -⟩
          rw [hsame, List.length_singleton] at hlonger
          omega

/-- Every character of an escape is shown as it is, or is escaped in a way that
the notation knows. -/
theorem isPlainlyQuoted_readBackChar (c : Char) : IsPlainlyQuoted (readBackChar c) := by
  by_cases hplain : readBackChar c = [c]
  · rw [hplain, IsPlainlyQuoted, List.forall_mem_singleton]
    exact (readBackChar_eq_iff c).mp hplain
  · have hdigits : ∀ digit < 16, Text.quoteChar (Nat.digitChar digit) = [Nat.digitChar digit] := by
      decide
    have hopening : IsPlainlyQuoted ['\\', 'u', '\x7b'] := by decide
    have hclosing : IsPlainlyQuoted ['\x7d'] := by decide
    revert hplain
    unfold readBackChar Text.quoteChar
    split_ifs
    case neg =>
      refine fun _ => List.forall_mem_append.mpr
        ⟨List.forall_mem_append.mpr ⟨hopening, fun other hother => ?_⟩, hclosing⟩
      obtain ⟨digit, hdigit, rfl⟩ := exists_digit_of_mem_hexadecimal hother
      exact .inr (.inr (.inr (.inr (hdigits digit hdigit))))
    all_goals first
      | exact fun hself => absurd rfl hself
      | exact fun _ => by decide

/-- A text that has been read back is read back as it is. -/
theorem readBack_readBack (content : String) : readBack (readBack content) = readBack content := by
  rw [readBack_eq_iff]
  intro c hc
  rw [readBack, String.toList_ofList, List.mem_flatMap] at hc
  obtain ⟨original, -, hc⟩ := hc
  exact isPlainlyQuoted_readBackChar original c hc

theorem cuts_string (content : String) (rest : List Char) :
    Cuts ((Text.quote content).toList ++ rest) [.string (readBack content)] rest := by
  have hspells : SpellsText (content.toList.flatMap Text.quoteChar) (readBack content).toList := by
    rw [readBack, String.toList_ofList]
    exact spellsText_quoted content.toList
  rw [Text.quote, String.toList_ofList, Text.quoteChars, List.cons_append, List.append_assoc]
  exact cuts_textLiteral hspells rest

end CallContract.Notation
