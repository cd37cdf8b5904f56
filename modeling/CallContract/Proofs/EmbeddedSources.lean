import CallContract.Proofs.Grammar

/-!
# Sources inside sources

A source can stand inside another one where an item can: what follows an item
does not go on with any lexeme, so every lexeme of the source is read there as
it is read at the end.  So a source that falls into tokens on its own falls into
them between braces as well.
-/

namespace CallContract.Notation

variable {c : Char} {chars rest more : List Char} {token : Token} {width : Nat}

/-! ### Runs and names -/

theorem takeWhile_dropWhile_append
    {kind : Char → Bool} (hstop : ∀ c ∈ more.head?, kind c = false) (chars : List Char) :
    (chars ++ more).takeWhile kind = chars.takeWhile kind ∧
      (chars ++ more).dropWhile kind = chars.dropWhile kind ++ more := by
  induction chars with
  | nil => exact takeWhile_dropWhile_run nofun hstop
  | cons c chars ih =>
      rw [List.cons_append, List.takeWhile_cons, List.takeWhile_cons, List.dropWhile_cons,
        List.dropWhile_cons]
      split
      · exact ⟨by rw [ih.1], ih.2⟩
      · exact ⟨rfl, rfl⟩

theorem nameMark_cons (c : Char) (rest : List Char) :
    nameMark (c :: rest) =
      if c = '?' ∨ c = '!' ∨ (c = '=' ∧ rest.head? ≠ some '>') then [c] else [] := by
  unfold nameMark
  split
  next heq =>
    cases heq
    rfl
  next heq =>
    cases heq
    rfl
  next heq =>
    cases heq
    rfl
  next hgreater heq =>
    cases heq
    have hhead : rest.head? ≠ some '>' := fun hhead =>
      have ⟨others, hothers⟩ := List.head?_eq_some_iff.mp hhead
      hgreater others hothers
    rw [if_pos (.inr (.inr ⟨rfl, hhead⟩))]
  next hquestion hexclamation _ hequals =>
    refine (if_neg ?_).symm
    rintro (rfl | rfl | ⟨rfl, -⟩)
    · exact hquestion rest rfl
    · exact hexclamation rest rfl
    · exact hequals rest rfl

theorem head?_append_eq_some_iff
    {mark : Char} (hmark : ∀ c ∈ more.head?, c ≠ mark) (rest : List Char) :
    (rest ++ more).head? = some mark ↔ rest.head? = some mark := by
  cases rest with
  | nil => exact iff_of_false (fun hhead => hmark mark hhead rfl) nofun
  | cons => rfl

theorem head?_append_of_delimits
    (h : Delimits more) {mark : Char} (hmark : mark ∉ [',', ']', '\x7d', ' ']) (rest : List Char) :
    (rest ++ more).head? = some mark ↔ rest.head? = some mark := by
  refine head?_append_eq_some_iff (fun c hc => ?_) rest
  rintro rfl
  exact hmark (by simpa using h c hc)

theorem nameMark_append (hends : EndsName more) (rest : List Char) :
    nameMark (rest ++ more) = nameMark rest := by
  cases rest with
  | nil => exact hends.leavesName.mark [] (.inl rfl)
  | cons c rest =>
      have hgreater := head?_append_eq_some_iff (fun c hc => (hends c hc).2.2.2.2) rest
      simp only [List.cons_append, nameMark_cons, ne_eq, hgreater]

theorem nameMark_length_le (rest : List Char) : (nameMark rest).length ≤ rest.length := by
  unfold nameMark
  split <;> simp

theorem readName_suffix (chars : List Char) :
    (readName chars).2 <:+ chars.dropWhile isNameChar := by
  unfold readName
  dsimp only
  split
  · exact List.suffix_refl _
  · exact List.drop_suffix _ _

theorem readName_append (hends : EndsName more) (chars : List Char) :
    readName (chars ++ more) = ((readName chars).1, (readName chars).2 ++ more) := by
  obtain ⟨htake, hdrop⟩ := takeWhile_dropWhile_append (fun c hc => (hends c hc).1) chars
  unfold readName
  dsimp only
  rw [htake, hdrop, nameMark_append hends]
  split
  · rfl
  · rw [List.drop_append_of_le_length (nameMark_length_le _)]

theorem isLabelColon_cons_iff (c : Char) (rest : List Char) :
    isLabelColon (c :: rest) = true ↔ c = ':' ∧ rest.head? ≠ some ':' := by
  unfold isLabelColon
  split
  next heq =>
    cases heq
    exact iff_of_false nofun fun hcolon => hcolon.2 rfl
  next hcolon heq =>
    cases heq
    refine iff_of_true rfl ⟨rfl, fun hhead => ?_⟩
    obtain ⟨others, hothers⟩ := List.head?_eq_some_iff.mp hhead
    exact hcolon others hothers
  next hcolon =>
    refine iff_of_false nofun ?_
    rintro ⟨rfl, -⟩
    exact hcolon rest rfl

theorem isLabelColon_append (hdelimits : Delimits more) (rest : List Char) :
    isLabelColon (rest ++ more) = isLabelColon rest := by
  cases rest with
  | nil => exact hdelimits.isLabelColon_eq
  | cons c rest =>
      rw [Bool.eq_iff_iff, List.cons_append, isLabelColon_cons_iff, isLabelColon_cons_iff, ne_eq,
        ne_eq, head?_append_of_delimits hdelimits (by decide)]

/-! ### Numbers -/

theorem startsWithDigit_append (hends : EndsFraction more) (rest : List Char) :
    startsWithDigit (rest ++ more) = startsWithDigit rest := by
  cases rest with
  | cons => rfl
  | nil =>
      cases more with
      | nil => rfl
      | cons c more =>
          have hc := hends c rfl
          unfold isDigitOrGap at hc
          exact (Bool.or_eq_false_iff.mp hc).1

theorem readFraction?_append (hdelimits : Delimits more) (rest : List Char) :
    readFraction? (rest ++ more) =
      (readFraction? rest).map fun found => (found.1, found.2 ++ more) := by
  cases rest with
  | nil => exact hdelimits.readFraction?_eq
  | cons c rest =>
      obtain ⟨htake, hdrop⟩ := takeWhile_dropWhile_append hdelimits.endsFraction rest
      by_cases hpoint : c = '.'
      · subst hpoint
        simp only [List.cons_append, readFraction?, startsWithDigit_append hdelimits.endsFraction,
          htake, hdrop]
        split <;> rfl
      · unfold readFraction?
        split <;> simp_all

theorem readFraction?_suffix
    {fraction behind : List Char} (h : readFraction? rest = some (fraction, behind)) :
    behind <:+ rest := by
  unfold readFraction? at h
  split at h
  next others =>
    split at h <;> cases h
    exact (List.dropWhile_suffix _).trans (List.suffix_cons '.' others)
  next => cases h

/-- A number takes a part of what it is read from, and the same part before what
may stand behind an item. -/
theorem readNumber_takes
    {negative : Bool} (h : readNumber negative chars = .ok (token, width, rest)) :
    rest <:+ chars.dropWhile isDigitOrGap ∧
      ∀ more, Delimits more →
        readNumber negative (chars ++ more) = .ok (token, width, rest ++ more) := by
  have hmore : ∀ more, Delimits more →
      (chars ++ more).takeWhile isDigitOrGap = chars.takeWhile isDigitOrGap ∧
        (chars ++ more).dropWhile isDigitOrGap = chars.dropWhile isDigitOrGap ++ more :=
    fun more hdelimits => takeWhile_dropWhile_append hdelimits.endsFraction chars
  unfold readNumber at h ⊢
  dsimp only at h ⊢
  split at h
  next fraction behind hfraction =>
    cases h
    refine ⟨readFraction?_suffix hfraction, fun more hdelimits => ?_⟩
    obtain ⟨htake, hdrop⟩ := hmore more hdelimits
    simp only [htake, hdrop, readFraction?_append hdelimits, hfraction, Option.map_some]
  next hfraction =>
    obtain ⟨found, hfound, hall⟩ := bind_eq_ok_iff.mp h
    cases hall
    refine ⟨List.suffix_refl _, fun more hdelimits => ?_⟩
    obtain ⟨htake, hdrop⟩ := hmore more hdelimits
    simp only [htake, hdrop, readFraction?_append hdelimits, hfraction, Option.map_none, hfound]
    rfl

/-! ### Lexemes -/

theorem readWord_takes
    (hstart : isNameStart c = true) (h : readWord (c :: chars) = (token, width, rest)) :
    rest <:+ chars ∧
      ∀ more, Delimits more → readWord (c :: (chars ++ more)) = (token, width, rest ++ more) := by
  have hsuffix : (readName (c :: chars)).2 <:+ chars := by
    have hname := readName_suffix (c :: chars)
    rw [List.dropWhile_cons_of_pos (isNameChar_of_isNameStart hstart)] at hname
    exact hname.trans (List.dropWhile_suffix _)
  have hmore : ∀ more, Delimits more → readName (c :: (chars ++ more)) =
      ((readName (c :: chars)).1, (readName (c :: chars)).2 ++ more) :=
    fun more hdelimits => readName_append hdelimits.endsName (c :: chars)
  unfold readWord at h ⊢
  dsimp only at h
  split at h
  next hcolon =>
    cases h
    refine ⟨(List.drop_suffix 1 _).trans hsuffix, fun more hdelimits => ?_⟩
    have hnonempty : 1 ≤ (readName (c :: chars)).2.length := by
      by_contra hnone
      rw [List.length_eq_zero_iff.mp (by omega : (readName (c :: chars)).2.length = 0)] at hcolon
      cases hcolon
    simp only [hmore more hdelimits, isLabelColon_append hdelimits, if_pos hcolon,
      List.drop_append_of_le_length hnonempty]
  next hcolon =>
    cases h
    refine ⟨hsuffix, fun more hdelimits => ?_⟩
    simp only [hmore more hdelimits, isLabelColon_append hdelimits, if_neg hcolon]

/-- A lexeme takes a part of what it is read from, and the same part before what
may stand behind an item. -/
theorem readLexeme_takes
    (h : readLexeme c chars = .ok (token, width, rest)) :
    rest <:+ chars ∧
      ∀ more, Delimits more →
        ∃ width, readLexeme c (chars ++ more) = .ok (token, width, rest ++ more) := by
  unfold readLexeme at h
  split at h
  -- an arrow and dots; two dots are read only if no third one follows
  case h_6 =>
    cases h
    exact ⟨List.suffix_cons _ _, fun _ _ => ⟨_, rfl⟩⟩
  case h_7 =>
    cases h
    exact ⟨(List.suffix_cons _ _).trans (List.suffix_cons _ _), fun _ _ => ⟨_, rfl⟩⟩
  case h_8 behind hpoint =>
    cases h
    refine ⟨List.suffix_cons '.' rest, fun more hdelimits => ⟨_, readLexeme_twoDots ?_⟩⟩
    rintro _ hc rfl
    obtain ⟨others, hothers⟩ :=
      List.head?_eq_some_iff.mp ((head?_append_of_delimits hdelimits (by decide) rest).mp hc)
    exact hpoint others hothers
  -- a symbol
  case h_9 =>
    dsimp only at h
    split at h
    next => cases h
    next hname =>
      cases h
      refine ⟨(readName_suffix chars).trans (List.dropWhile_suffix _), fun more hdelimits => ?_⟩
      simp only [readLexeme, readName_append hdelimits.endsName, if_neg hname]
      exact ⟨_, rfl⟩
  -- a text and a pattern
  case h_10 =>
    split at h
    next hread =>
      cases h
      obtain ⟨literal, rfl, hspells⟩ := readString_eq_some_iff.mp ⟨_, hread⟩
      refine ⟨(List.suffix_cons '"' rest).trans (List.suffix_append _ _), fun more _ => ?_⟩
      obtain ⟨size, hmore⟩ := hspells.exists_readString (rest ++ more)
      simp only [readLexeme, List.append_assoc, List.cons_append, hmore]
      exact ⟨_, rfl⟩
    next => cases h
  case h_11 =>
    split at h
    next hread =>
      cases h
      obtain ⟨literal, rfl, hspells⟩ := readRegexp_eq_some_iff.mp ⟨_, hread⟩
      refine ⟨(List.suffix_cons '/' rest).trans (List.suffix_append _ _), fun more _ => ?_⟩
      obtain ⟨size, hmore⟩ := hspells.exists_readRegexp (rest ++ more)
      simp only [readLexeme, List.append_assoc, List.cons_append, hmore]
      exact ⟨_, rfl⟩
    next => cases h
  -- a number without a sign, one with a sign, and a word
  case h_12 =>
    split at h
    next hdigit =>
      obtain ⟨hsuffix, hmore⟩ := readNumber_takes h
      rw [List.dropWhile_cons_of_pos (isDigitOrGap_of_isDigit hdigit)] at hsuffix
      refine ⟨hsuffix.trans (List.dropWhile_suffix _), fun more hdelimits => ⟨width, ?_⟩⟩
      rw [readLexeme_of_isDigit hdigit]
      exact hmore more hdelimits
    next =>
      split at h
      next hminus =>
        obtain ⟨rfl, hdigit⟩ := hminus
        obtain ⟨⟨found, size, after⟩, hread, hall⟩ := bind_eq_ok_iff.mp h
        cases hall
        obtain ⟨hsuffix, hmore⟩ := readNumber_takes hread
        refine ⟨hsuffix.trans (List.dropWhile_suffix _), fun more hdelimits => ⟨1 + size, ?_⟩⟩
        rw [readLexeme_minus (by rwa [startsWithDigit_append hdelimits.endsFraction]),
          hmore more hdelimits]
        rfl
      next =>
        split at h
        next hstart =>
          obtain ⟨hsuffix, hmore⟩ := readWord_takes hstart (Except.ok.inj h)
          refine ⟨hsuffix, fun more hdelimits => ⟨width, ?_⟩⟩
          rw [readLexeme_of_isNameStart hstart, hmore more hdelimits]
        next => cases h
  all_goals
    cases h
    exact ⟨List.suffix_refl _, fun _ _ => ⟨_, rfl⟩⟩

/-! ### Sources -/

/-- What falls into tokens up to a rest does so wherever the rest is followed by
what may stand behind an item. -/
theorem Cuts.extend
    {tokens : List Token} (h : Cuts chars tokens rest) (hdelimits : Delimits more) :
    Cuts (chars ++ more) tokens (rest ++ more) := by
  induction h with
  | here rest => exact .here (rest ++ more)
  | blank hblank _ ih => exact .blank hblank ih
  | @lexeme c inner behind rest token width tokens hsolid hread hshorter _ ih =>
      obtain ⟨size, hextended⟩ := (readLexeme_takes hread).2 more hdelimits
      have hlength : (behind ++ more).length ≤ (inner ++ more).length := by
        rw [List.length_append, List.length_append]
        exact Nat.add_le_add_right hshorter more.length
      exact .lexeme hsolid hextended hlength ih

theorem Cuts.exists_token
    {c : Char} {tokens : List Token} (h : Cuts (c :: chars) tokens [])
    (hsolid : Text.isBlank c = false) :
    ∃ token width more others, tokens = token :: others ∧
      readLexeme c chars = .ok (token, width, more) ∧ Cuts more others [] := by
  cases h with
  | blank hblank => exact absurd hblank (by simp [hsolid])
  | lexeme _ hread _ h => exact ⟨_, _, _, _, rfl, hread, h⟩

/-- Without tokens there are only blanks. -/
theorem Cuts.isBlank_of_no_token
    (h : Cuts chars [] []) : ∀ c ∈ chars, Text.isBlank c = true := by
  generalize htokens : ([] : List Token) = tokens at h
  generalize hrest : ([] : List Char) = rest at h
  induction h with
  | here => exact hrest ▸ nofun
  | blank hblank _ ih => exact List.forall_mem_cons.mpr ⟨hblank, ih htokens hrest⟩
  | lexeme => cases htokens

theorem cuts_of_tokensFrom
    {steps offset : Nat} {placed : Tokens} {body : List Token} (hsteps : chars.length ≤ steps)
    (h : tokensFrom steps offset chars = .ok placed)
    (hbody : placed.map Prod.snd = body ++ [.finish]) : Cuts chars body [] := by
  induction steps generalizing offset chars placed body with
  | zero =>
      obtain rfl := List.length_eq_zero_iff.mp (Nat.le_zero.mp hsteps)
      cases h
      obtain rfl := List.self_eq_append_left.mp hbody
      exact .here []
  | succ steps ih =>
      cases chars with
      | nil =>
          cases h
          obtain rfl := List.self_eq_append_left.mp hbody
          exact .here []
      | cons c chars =>
          rw [tokensFrom] at h
          split at h
          next hblank => exact .blank hblank (ih (Nat.le_of_succ_le_succ hsteps) h hbody)
          next hsolid =>
            split at h
            next => cases h
            next token width rest hread =>
              obtain ⟨others, hothers, hall⟩ := bind_eq_ok_iff.mp h
              cases hall
              have hshorter := (readLexeme_takes hread).1.length_le
              have hleft := hshorter.trans (Nat.le_of_succ_le_succ hsteps)
              cases body with
              | nil =>
                  obtain ⟨rfl, -⟩ := List.cons_eq_cons.mp hbody
                  exact absurd hread readLexeme_ne_finish
              | cons first body =>
                  obtain ⟨rfl, hrest⟩ := List.cons_eq_cons.mp hbody
                  exact .lexeme (Bool.eq_false_iff.mpr hsolid) hread hshorter
                    (ih hleft hothers hrest)

/-- The tokens of the source, without the end behind them. -/
def HasTokens (source : String) (body : List Token) : Prop :=
  ∃ placed, tokens source = .ok placed ∧ placed.map Prod.snd = body ++ [.finish]

variable {source : String} {body : List Token}

theorem hasTokens_iff_cuts : HasTokens source body ↔ Cuts source.toList body [] := by
  constructor
  · rintro ⟨placed, hplaced, hbody⟩
    exact cuts_of_tokensFrom (Nat.le_refl _) hplaced hbody
  · exact tokens_of_cuts

/-- What is enclosed in braces keeps its tokens. -/
theorem HasTokens.braces (h : HasTokens source body) :
    HasTokens ("\x7b" ++ source ++ "\x7d") (.openBrace :: (body ++ [.closeBrace])) := by
  have hlexes : Lexes source body := fun _ hrest => (hasTokens_iff_cuts.mp h).extend hrest
  have hbraces := hlexes.cuts_braces []
  rw [List.append_nil] at hbraces
  exact hasTokens_iff_cuts.mpr hbraces

theorem HasTokens.unique
    {other : List Token} (h : HasTokens source body) (hother : HasTokens source other) :
    body = other := by
  obtain ⟨placed, hplaced, hbody⟩ := h
  obtain ⟨_, hagain, hends⟩ := hother
  cases hplaced.symm.trans hagain
  exact List.append_cancel_right (hbody.symm.trans hends)

theorem derived_of_parseSpec
    {engine : Pattern.Engine} {resolve : Resolver} {term : Term}
    (h : parseSpec engine resolve source = .ok term) :
    ∃ body, HasTokens source body ∧ Within maxNesting (IsSpec engine resolve) body term := by
  obtain ⟨placed, hplaced, hread⟩ := bind_eq_ok_iff.mp h
  obtain ⟨body, hbody, hnot⟩ := tokensFrom_ends hplaced
  obtain ⟨front, rest, hfront, hderived⟩ := derived_of_readSpec hread
  -- the end of the source that was read is the only one
  obtain ⟨rfl, -⟩ := (List.append_cons_inj_of_notMem hnot List.not_mem_nil).mp
    (hbody.symm.trans hfront)
  exact ⟨body, ⟨placed, hplaced, hbody⟩, hderived⟩

/-- A source denotes the terms that its tokens derive. -/
theorem HasTokens.parseSpec_iff
    {engine : Pattern.Engine} {resolve : Resolver} {term : Term} (h : HasTokens source body) :
    parseSpec engine resolve source = .ok term ↔
      Within maxNesting (IsSpec engine resolve) body term := by
  constructor
  · intro hparse
    obtain ⟨own, hown, hderived⟩ := derived_of_parseSpec hparse
    rwa [← hown.unique h]
  · intro hderived
    obtain ⟨placed, hplaced, hbody⟩ := h
    unfold parseSpec
    rw [hplaced]
    exact readSpec_derived hderived hbody

end CallContract.Notation
