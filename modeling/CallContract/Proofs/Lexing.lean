import CallContract.Notation.Lexeme
import CallContract.Proofs.FloatText

/-!
# How texts are cut into lexemes

A lexeme ends where the next one cannot go on with it, so what follows decides
whether it is read as it was written.  Every kind of lexeme is read back if
what follows does not start with a character of its kind; commas, closing
brackets, blanks and the end of the source never do.
-/

namespace CallContract.Notation

/-! ### Cutting a source -/

/-- A source falls into tokens up to a rest. -/
inductive Cuts : List Char → List Token → List Char → Prop
  | here (rest : List Char) : Cuts rest [] rest
  | blank {c : Char} {chars rest : List Char} {tokens : List Token}
      (hblank : Text.isBlank c = true) (h : Cuts chars tokens rest) :
      Cuts (c :: chars) tokens rest
  | lexeme {c : Char} {chars more rest : List Char} {token : Token} {width : Nat}
      {tokens : List Token} (hsolid : Text.isBlank c = false)
      (hread : readLexeme c chars = .ok (token, width, more))
      (hshorter : more.length ≤ chars.length) (h : Cuts more tokens rest) :
      Cuts (c :: chars) (token :: tokens) rest

theorem Cuts.append
    {first middle last : List Char} {before after : List Token}
    (hbefore : Cuts first before middle) (hafter : Cuts middle after last) :
    Cuts first (before ++ after) last := by
  induction hbefore with
  | here => exact hafter
  | blank hblank _ ih => exact .blank hblank (ih hafter)
  | lexeme hsolid hread hshorter _ ih => exact .lexeme hsolid hread hshorter (ih hafter)

/-- Every step takes a character, so the steps suffice. -/
theorem tokensFrom_of_cuts
    {chars : List Char} {tokens : List Token} (h : Cuts chars tokens []) {steps : Nat}
    (hsteps : chars.length ≤ steps) (offset : Nat) :
    ∃ placed, tokensFrom steps offset chars = .ok placed ∧
      placed.map Prod.snd = tokens ++ [.finish] := by
  generalize hrest : ([] : List Char) = rest at h
  induction h generalizing steps offset with
  | here =>
      subst hrest
      cases steps <;> exact ⟨[(offset, .finish)], rfl, rfl⟩
  | @blank c chars _ _ hblank _ ih =>
      cases steps with
      | zero => exact absurd hsteps (Nat.not_succ_le_zero _)
      | succ left =>
          obtain ⟨placed, hplaced, htokens⟩ :=
            ih (Nat.le_of_succ_le_succ hsteps) (offset + c.utf8Size) hrest
          refine ⟨placed, ?_, htokens⟩
          rw [tokensFrom, if_pos hblank]
          exact hplaced
  | @lexeme c chars more _ token width _ hsolid hread hshorter _ ih =>
      cases steps with
      | zero => exact absurd hsteps (Nat.not_succ_le_zero _)
      | succ left =>
          have hleft := hshorter.trans (Nat.le_of_succ_le_succ hsteps)
          obtain ⟨placed, hplaced, htokens⟩ := ih hleft (offset + width) hrest
          refine ⟨(offset, token) :: placed, ?_, by rw [List.map_cons, htokens]; rfl⟩
          rw [tokensFrom, if_neg (by simp [hsolid])]
          simp only [hread, hplaced]
          rfl

theorem tokens_of_cuts
    {source : String} {cut : List Token} (h : Cuts source.toList cut []) :
    ∃ placed, tokens source = .ok placed ∧ placed.map Prod.snd = cut ++ [.finish] :=
  tokensFrom_of_cuts h (Nat.le_refl _) 0

/-! ### Characters -/

theorem isBlank_of_visible {c : Char} (hlow : 0x21 ≤ c.toNat) (hhigh : c.toNat < 0x7F) :
    Text.isBlank c = false := by
  unfold Text.isBlank
  simp only [Bool.or_eq_false_iff, Bool.and_eq_false_iff, decide_eq_false_iff_not,
    beq_eq_false_iff_ne]
  omega

theorem isDigit_iff {c : Char} : c.isDigit = true ↔ 0x30 ≤ c.toNat ∧ c.toNat ≤ 0x39 := by
  simp only [Char.isDigit, Bool.and_eq_true, decide_eq_true_eq, ge_iff_le, UInt32.le_iff_toNat_le]
  rfl

theorem isNameStart_bounds {c : Char} (h : isNameStart c = true) :
    0x41 ≤ c.toNat ∧ c.toNat ≤ 0x7A := by
  delta isNameStart Char.isAlpha Char.isUpper Char.isLower at h
  simp only [Bool.or_eq_true, Bool.and_eq_true, decide_eq_true_eq, ge_iff_le,
    UInt32.le_iff_toNat_le, beq_iff_eq] at h
  rcases h with (⟨hlow, hhigh⟩ | ⟨hlow, hhigh⟩) | rfl
  · change 0x41 ≤ c.toNat at hlow
    change c.toNat ≤ 0x5A at hhigh
    omega
  · change 0x61 ≤ c.toNat at hlow
    change c.toNat ≤ 0x7A at hhigh
    omega
  · decide

theorem isNameChar_of_isNameStart {c : Char} (h : isNameStart c = true) : isNameChar c = true := by
  unfold isNameChar Char.isAlphanum
  rcases Bool.or_eq_true_iff.mp h with halpha | hunderscore
  · rw [halpha, Bool.true_or, Bool.true_or]
  · rw [hunderscore, Bool.or_true]

theorem isDigit_or_isNameStart_of_isNameChar {c : Char} (h : isNameChar c = true) :
    c.isDigit = true ∨ isNameStart c = true := by
  unfold isNameChar Char.isAlphanum at h
  unfold isNameStart
  rcases Bool.or_eq_true_iff.mp h with halphanum | hunderscore
  · rcases Bool.or_eq_true_iff.mp halphanum with halpha | hdigit
    · exact .inr (by rw [halpha, Bool.true_or])
    · exact .inl hdigit
  · exact .inr (by rw [hunderscore, Bool.or_true])

theorem isDigitOrGap_of_isDigit {c : Char} (h : c.isDigit = true) : isDigitOrGap c = true := by
  simp only [isDigitOrGap, h, Bool.true_or]

/-- A run is taken whole if what follows does not start with one of its kind. -/
theorem takeWhile_dropWhile_run
    {kind : Char → Bool} {run rest : List Char}
    (hrun : ∀ c ∈ run, kind c = true) (hstop : ∀ c ∈ rest.head?, kind c = false) :
    (run ++ rest).takeWhile kind = run ∧ (run ++ rest).dropWhile kind = rest := by
  rw [List.takeWhile_append_of_pos hrun, List.dropWhile_append_of_pos hrun]
  cases rest with
  | nil => simp
  | cons c rest => simp [hstop c rfl]

/-! ### Lexemes by their first character -/

theorem readLexeme_of_isDigit
    {c : Char} (h : c.isDigit = true) (rest : List Char) :
    readLexeme c rest = readNumber false (c :: rest) := by
  unfold readLexeme
  split
  all_goals first
    | rw [if_pos h]
    | exact absurd h (by decide)

theorem readLexeme_of_isNameStart
    {c : Char} (h : isNameStart c = true) (rest : List Char) :
    readLexeme c rest = .ok (readWord (c :: rest)) := by
  have hbounds := isNameStart_bounds h
  have hdigit : ¬ c.isDigit = true := by
    rw [isDigit_iff]
    omega
  have hminus : c ≠ '-' := by
    rintro rfl
    exact absurd h (by decide)
  unfold readLexeme
  split
  all_goals first
    | rw [if_neg hdigit, if_neg (fun hsign => hminus hsign.1), if_pos h]
    | exact absurd h (by decide)

theorem readLexeme_minus
    {rest : List Char} (h : startsWithDigit rest = true) :
    readLexeme '-' rest = (do
      let (token, width, rest) ← readNumber true rest
      pure (token, 1 + width, rest)) := by
  change (if ('-' : Char).isDigit then readNumber false ('-' :: rest)
    else if '-' = '-' ∧ startsWithDigit rest then _ else _) = _
  rw [if_neg (by decide), if_pos ⟨rfl, h⟩]

/-! ### Names -/

def IsName (chars : List Char) : Prop :=
  ∃ stem mark, chars = stem ++ mark ∧ stem ≠ [] ∧ (∀ c ∈ stem, isNameChar c = true) ∧
    (mark = [] ∨ mark = ['?'] ∨ mark = ['!'] ∨ mark = ['='])

def StartsName (chars : List Char) : Prop :=
  ∃ c rest, chars = c :: rest ∧ isNameStart c = true

/-- The rest does not go on with a name. -/
def EndsName (rest : List Char) : Prop :=
  ∀ c ∈ rest.head?, isNameChar c = false ∧ c ≠ '?' ∧ c ≠ '!' ∧ c ≠ '=' ∧ c ≠ '>'

/-- A name before the rest is read with the mark that it has, and no other. -/
structure LeavesName (rest : List Char) : Prop where
  stem : ∀ c ∈ rest.head?, isNameChar c = false
  mark : ∀ mark, mark = [] ∨ mark = ['?'] ∨ mark = ['!'] ∨ mark = ['='] →
    nameMark (mark ++ rest) = mark

theorem EndsName.leavesName {rest : List Char} (h : EndsName rest) : LeavesName rest where
  stem := fun c hc => (h c hc).1
  mark := by
    intro mark hmark
    cases rest with
    | nil => rcases hmark with rfl | rfl | rfl | rfl <;> rfl
    | cons c rest =>
        -- before a greater sign an equals sign would belong to an arrow
        obtain ⟨-, hquestion, hexclamation, hequals, hgreater⟩ := h c rfl
        rcases hmark with rfl | rfl | rfl | rfl
        all_goals simp [nameMark, hquestion, hexclamation, hequals, hgreater]

/-- An arrow leaves a name before it its own equals sign, and takes no other. -/
theorem leavesName_arrow (rest : List Char) : LeavesName ('=' :: '>' :: rest) where
  stem := by
    rintro _ ⟨⟩
    rfl
  mark := by
    rintro mark (rfl | rfl | rfl | rfl)
    all_goals rfl

theorem readName_of_isName
    {name rest : List Char} (hname : IsName name) (hleaves : LeavesName rest) :
    readName (name ++ rest) = (name, rest) := by
  obtain ⟨stem, mark, rfl, hstem, hchars, hmark⟩ := hname
  have hstop : ∀ c ∈ (mark ++ rest).head?, isNameChar c = false := by
    rcases hmark with rfl | rfl | rfl | rfl
    · exact hleaves.stem
    all_goals
      intro c hc
      obtain rfl := Option.some.inj hc
      rfl
  obtain ⟨htake, hdrop⟩ := takeWhile_dropWhile_run hchars hstop
  unfold readName
  rw [List.append_assoc, htake, hdrop, if_neg hstem, hleaves.mark mark hmark, List.drop_left]

variable {name chars rest : List Char} {tokens : List Token}

theorem cuts_word
    (hname : IsName name) (hstart : StartsName name) (hleaves : LeavesName rest)
    (hcolon : isLabelColon rest = false) :
    Cuts (name ++ rest) [.word (String.ofList name)] rest := by
  obtain ⟨c, others, rfl, hc⟩ := hstart
  have hbounds := isNameStart_bounds hc
  have hread : readLexeme c (others ++ rest) =
      .ok (.word (String.ofList (c :: others)), (c :: others).length, rest) := by
    rw [readLexeme_of_isNameStart hc, ← List.cons_append]
    simp only [readWord, readName_of_isName hname hleaves, hcolon]
    rfl
  exact .lexeme (isBlank_of_visible (by omega) (by omega)) hread
    (List.suffix_append others rest).length_le (.here rest)

theorem cuts_label
    (hname : IsName name) (hstart : StartsName name) (h : Cuts chars tokens rest) :
    Cuts (name ++ ':' :: ' ' :: chars) (.label (String.ofList name) :: tokens) rest := by
  obtain ⟨c, others, rfl, hc⟩ := hstart
  have hbounds := isNameStart_bounds hc
  have hends : EndsName (':' :: ' ' :: chars) := by
    intro c hc
    obtain rfl := Option.some.inj hc
    decide
  have hread : readLexeme c (others ++ ':' :: ' ' :: chars) =
      .ok (.label (String.ofList (c :: others)), (c :: others).length + 1, ' ' :: chars) := by
    rw [readLexeme_of_isNameStart hc, ← List.cons_append]
    simp only [readWord, readName_of_isName hname hends.leavesName]
    rfl
  exact .lexeme (isBlank_of_visible (by omega) (by omega)) hread
    ((List.suffix_cons ':' _).trans (List.suffix_append others _)).length_le (.blank rfl h)

theorem cuts_symbol
    (hname : IsName name) (hleaves : LeavesName rest) :
    Cuts (':' :: name ++ rest) [.symbol (String.ofList name)] rest := by
  have hnonempty : name ≠ [] := by
    obtain ⟨stem, mark, rfl, hstem, -⟩ := hname
    exact List.append_ne_nil_of_left_ne_nil hstem mark
  have hread : readLexeme ':' (name ++ rest) =
      .ok (.symbol (String.ofList name), 1 + name.length, rest) := by
    simp only [readLexeme, readName_of_isName hname hleaves, if_neg hnonempty]
  exact .lexeme rfl hread (List.suffix_append name rest).length_le (.here rest)

/-! ### Marks -/

theorem Cuts.mark
    {c : Char} {token : Token} (hread : ∀ chars, readLexeme c chars = .ok (token, 1, chars))
    (hsolid : Text.isBlank c = false) (h : Cuts chars tokens rest) :
    Cuts (c :: chars) (token :: tokens) rest :=
  .lexeme hsolid (hread chars) (Nat.le_refl _) h

theorem cuts_comma (h : Cuts chars tokens rest) :
    Cuts (',' :: ' ' :: chars) (.comma :: tokens) rest :=
  .mark (fun _ => rfl) rfl (.blank rfl h)

theorem cuts_arrow (h : Cuts chars tokens rest) :
    Cuts ('=' :: '>' :: chars) (.arrow :: tokens) rest :=
  .lexeme rfl rfl (Nat.le_succ _) h

theorem cuts_spacedArrow (h : Cuts chars tokens rest) :
    Cuts (' ' :: '=' :: '>' :: ' ' :: chars) (.arrow :: tokens) rest :=
  .blank rfl (cuts_arrow (.blank rfl h))

theorem readLexeme_twoDots (hpoint : ∀ c ∈ chars.head?, c ≠ '.') :
    readLexeme '.' ('.' :: chars) = .ok (.dots false, 2, chars) := by
  cases chars with
  | nil => rfl
  | cons c chars =>
      unfold readLexeme
      split <;> simp_all

theorem cuts_dots
    (excludesStop : Bool) (hpoint : ∀ c ∈ chars.head?, c ≠ '.') (h : Cuts chars tokens rest) :
    Cuts ((if excludesStop then "..." else "..").toList ++ chars)
      (.dots excludesStop :: tokens) rest := by
  cases excludesStop with
  | true =>
      exact .lexeme rfl rfl ((List.suffix_cons '.' _).trans (List.suffix_cons '.' _)).length_le h
  | false => exact .lexeme rfl (readLexeme_twoDots hpoint) (Nat.le_succ _) h

/-! ### Quoted texts and patterns -/

/-- What stands between the quotes of a literal, and the text it denotes. -/
inductive SpellsText : List Char → List Char → Prop
  | nil : SpellsText [] []
  | escape {literal content : List Char} (c : Char) (h : SpellsText literal content) :
      SpellsText ('\\' :: c :: literal) (unescape c ++ content)
  | plain {c : Char} {literal content : List Char} (hquote : c ≠ '"') (hescape : c ≠ '\\')
      (h : SpellsText literal content) : SpellsText (c :: literal) (c :: content)

variable {literal content : List Char}

theorem readString_escape
    {width : Nat} (c : Char) (h : readString chars = some (content, width, rest)) :
    readString ('\\' :: c :: chars) =
      some (unescape c ++ content, 1 + c.utf8Size + width, rest) := by
  simp only [readString, h]

theorem readString_plain
    {width : Nat} {c : Char} (hquote : c ≠ '"') (hescape : c ≠ '\\')
    (h : readString chars = some (content, width, rest)) :
    readString (c :: chars) = some (c :: content, c.utf8Size + width, rest) := by
  rw [readString]
  · simp only [h]
  · exact hquote
  · exact fun _ _ hc _ => hescape hc
  · exact fun hc _ => hescape hc

/-- The reader takes the characters up to the first quote that is not escaped,
and yields the text that they spell. -/
theorem readString_eq_some_iff :
    (∃ width, readString chars = some (content, width, rest)) ↔
      ∃ literal, chars = literal ++ '"' :: rest ∧ SpellsText literal content := by
  constructor
  · rintro ⟨width, h⟩
    fun_induction readString chars generalizing content width rest with
    | case1 => cases h
    | case2 =>
        cases h
        exact ⟨[], rfl, .nil⟩
    | case3 c _ _ _ _ hread ih =>
        cases h
        obtain ⟨literal, rfl, hspells⟩ := ih _ hread
        exact ⟨_, rfl, .escape c hspells⟩
    | case4 => cases h
    | case5 => cases h
    | case6 c others hquote hpair hlast _ _ _ hread ih =>
        cases h
        obtain ⟨literal, rfl, hspells⟩ := ih _ hread
        refine ⟨_, rfl, .plain hquote ?_ hspells⟩
        rintro rfl
        cases literal with
        | nil => exact hpair _ _ rfl rfl
        | cons next literal => exact hpair _ _ rfl rfl
    | case7 => cases h
  · rintro ⟨literal, rfl, hspells⟩
    induction hspells with
    | nil => exact ⟨1, rfl⟩
    | escape c _ ih => exact ih.imp' _ fun _ => readString_escape c
    | plain hquote hescape _ ih => exact ih.imp' _ fun _ => readString_plain hquote hescape

theorem SpellsText.exists_readString
    (h : SpellsText literal content) (rest : List Char) :
    ∃ width, readString (literal ++ '"' :: rest) = some (content, width, rest) :=
  readString_eq_some_iff.mpr ⟨literal, rfl, h⟩

theorem cuts_textLiteral
    {content : String} (h : SpellsText literal content.toList) (rest : List Char) :
    Cuts ('"' :: (literal ++ '"' :: rest)) [.string content] rest := by
  obtain ⟨width, hstring⟩ := h.exists_readString rest
  have hread : readLexeme '"' (literal ++ '"' :: rest) =
      .ok (.string content, 1 + width, rest) := by
    simp only [readLexeme, hstring, String.ofList_toList]
  exact .lexeme rfl hread
    ((List.suffix_cons '"' rest).trans (List.suffix_append _ _)).length_le (.here rest)

/-- Every backslash has a character behind it that it belongs to. -/
inductive IsEscaped : List Char → Prop
  | nil : IsEscaped []
  | escape {chars : List Char} (c : Char) (h : IsEscaped chars) : IsEscaped ('\\' :: c :: chars)
  | plain {c : Char} {chars : List Char} (hc : c ≠ '\\') (h : IsEscaped chars) :
      IsEscaped (c :: chars)

/-- What stands between the slashes of a literal, and the source it denotes. -/
inductive SpellsPattern : List Char → List Char → Prop
  | nil : SpellsPattern [] []
  | slash {literal source : List Char} (h : SpellsPattern literal source) :
      SpellsPattern ('\\' :: '/' :: literal) ('/' :: source)
  | escape {c : Char} {literal source : List Char} (hslash : c ≠ '/')
      (h : SpellsPattern literal source) :
      SpellsPattern ('\\' :: c :: literal) ('\\' :: c :: source)
  | plain {c : Char} {literal source : List Char} (hslash : c ≠ '/') (hescape : c ≠ '\\')
      (h : SpellsPattern literal source) : SpellsPattern (c :: literal) (c :: source)

variable {source : List Char}

theorem readRegexp_slash {width : Nat} (h : readRegexp chars = some (source, width, rest)) :
    readRegexp ('\\' :: '/' :: chars) = some ('/' :: source, 2 + width, rest) := by
  simp only [readRegexp, h]
  rfl

theorem readRegexp_escape
    {width : Nat} {c : Char} (hslash : c ≠ '/')
    (h : readRegexp chars = some (source, width, rest)) :
    readRegexp ('\\' :: c :: chars) = some ('\\' :: c :: source, 1 + c.utf8Size + width, rest) := by
  simp only [readRegexp, h, if_neg hslash]
  rfl

theorem readRegexp_plain
    {width : Nat} {c : Char} (hslash : c ≠ '/') (hescape : c ≠ '\\')
    (h : readRegexp chars = some (source, width, rest)) :
    readRegexp (c :: chars) = some (c :: source, c.utf8Size + width, rest) := by
  rw [readRegexp]
  · simp only [h]
  · exact hslash
  · exact fun _ _ hc _ => hescape hc
  · exact fun hc _ => hescape hc

/-- The reader takes the characters up to the first slash that is not escaped,
and yields the source that they spell. -/
theorem readRegexp_eq_some_iff :
    (∃ width, readRegexp chars = some (source, width, rest)) ↔
      ∃ literal, chars = literal ++ '/' :: rest ∧ SpellsPattern literal source := by
  constructor
  · rintro ⟨width, h⟩
    fun_induction readRegexp chars generalizing source width rest with
    | case1 => cases h
    | case2 =>
        cases h
        exact ⟨[], rfl, .nil⟩
    | case3 c _ _ _ _ hread ih =>
        cases h
        obtain ⟨literal, rfl, hspells⟩ := ih _ hread
        split
        next hslash =>
          subst hslash
          exact ⟨_, rfl, .slash hspells⟩
        next hslash => exact ⟨_, rfl, .escape hslash hspells⟩
    | case4 => cases h
    | case5 => cases h
    | case6 c others hslash hpair hlast _ _ _ hread ih =>
        cases h
        obtain ⟨literal, rfl, hspells⟩ := ih _ hread
        refine ⟨_, rfl, .plain hslash ?_ hspells⟩
        rintro rfl
        cases literal with
        | nil => exact hpair _ _ rfl rfl
        | cons next literal => exact hpair _ _ rfl rfl
    | case7 => cases h
  · rintro ⟨literal, rfl, hspells⟩
    induction hspells with
    | nil => exact ⟨1, rfl⟩
    | slash _ ih => exact ih.imp' _ fun _ => readRegexp_slash
    | escape hslash _ ih => exact ih.imp' _ fun _ => readRegexp_escape hslash
    | plain hslash hescape _ ih => exact ih.imp' _ fun _ => readRegexp_plain hslash hescape

theorem SpellsPattern.exists_readRegexp
    (h : SpellsPattern literal source) (rest : List Char) :
    ∃ width, readRegexp (literal ++ '/' :: rest) = some (source, width, rest) :=
  readRegexp_eq_some_iff.mpr ⟨literal, rfl, h⟩

theorem SpellsPattern.isEscaped (h : SpellsPattern literal source) : IsEscaped source := by
  induction h with
  | nil => exact .nil
  -- a slash that has lost its backslash
  | slash _ ih => exact .plain (by decide) ih
  | escape _ _ ih => exact .escape _ ih
  | plain _ hescape _ ih => exact .plain hescape ih

theorem SpellsPattern.of_isEscaped
    (h : IsEscaped source) (hslash : '/' ∉ source) : SpellsPattern source source := by
  induction h with
  | nil => exact .nil
  | escape c _ ih =>
      exact .escape (fun h => hslash (by simp [h])) (ih fun h => hslash (by simp [h]))
  | plain hc _ ih =>
      exact .plain (fun h => hslash (by simp [h])) hc (ih fun h => hslash (by simp [h]))

theorem cuts_literal
    {source : String} (h : SpellsPattern literal source.toList) (rest : List Char) :
    Cuts ('/' :: (literal ++ '/' :: rest)) [.regexp source] rest := by
  obtain ⟨width, hregexp⟩ := h.exists_readRegexp rest
  have hread : readLexeme '/' (literal ++ '/' :: rest) = .ok (.regexp source, 1 + width, rest) := by
    simp only [readLexeme, hregexp, String.ofList_toList]
  exact .lexeme rfl hread
    ((List.suffix_cons '/' rest).trans (List.suffix_append _ _)).length_le (.here rest)

theorem cuts_regexp
    {source : String} (hescaped : IsEscaped source.toList) (hslash : '/' ∉ source.toList)
    (rest : List Char) :
    Cuts (("/" ++ source ++ "/").toList ++ rest) [.regexp source] rest := by
  rw [String.toList_append, String.toList_append, List.append_assoc, List.append_assoc]
  exact cuts_literal (.of_isEscaped hescaped hslash) rest

/-! ### Numbers -/

/-- The rest does not go on with a fraction. -/
def EndsFraction (rest : List Char) : Prop :=
  ∀ c ∈ rest.head?, isDigitOrGap c = false

theorem withoutGaps_of_digits
    {digits : List Char} (h : ∀ c ∈ digits, c.isDigit = true) : withoutGaps digits = digits := by
  refine List.filter_eq_self.mpr fun c hc => ?_
  have hdigit := h c hc
  refine bne_iff_ne.mpr ?_
  rintro rfl
  exact absurd hdigit (by decide)

theorem readNumber_whole
    {digits : List Char} (hdigits : ∀ c ∈ digits, c.isDigit = true)
    (hends : EndsFraction rest) (hpoint : readFraction? rest = none) (negative : Bool) :
    readNumber negative (digits ++ rest) =
      (integerToken (Binary64.signed negative (Binary64.readDigits digits))).map
        fun token => (token, digits.length, rest) := by
  obtain ⟨htake, hdrop⟩ := takeWhile_dropWhile_run
    (fun c hc => isDigitOrGap_of_isDigit (hdigits c hc)) hends
  unfold readNumber
  simp only [htake, hdrop, hpoint, withoutGaps_of_digits hdigits]
  cases integerToken (Binary64.signed negative (Binary64.readDigits digits)) <;> rfl

theorem readNumber_fraction
    {whole fraction : List Char} (hwhole : ∀ c ∈ whole, c.isDigit = true)
    (hnonempty : fraction ≠ []) (hfraction : ∀ c ∈ fraction, c.isDigit = true)
    (hends : EndsFraction rest) (negative : Bool) :
    readNumber negative (whole ++ '.' :: (fraction ++ rest)) =
      .ok (.float (Binary64.ofDecimal negative
          ⟨Binary64.readDigits (whole ++ fraction), -fraction.length⟩),
        whole.length + 1 + fraction.length, rest) := by
  have hstop : ∀ c ∈ ('.' :: (fraction ++ rest)).head?, isDigitOrGap c = false := by
    intro c hc
    obtain rfl := Option.some.inj hc
    rfl
  obtain ⟨htake, hdrop⟩ := takeWhile_dropWhile_run
    (fun c hc => isDigitOrGap_of_isDigit (hwhole c hc)) hstop
  obtain ⟨htakeFraction, hdropFraction⟩ := takeWhile_dropWhile_run
    (fun c hc => isDigitOrGap_of_isDigit (hfraction c hc)) hends
  have hdigit : startsWithDigit (fraction ++ rest) = true := by
    cases fraction with
    | nil => exact absurd rfl hnonempty
    | cons c fraction => exact hfraction c List.mem_cons_self
  unfold readNumber
  simp only [htake, hdrop, readFraction?, if_pos hdigit, htakeFraction, hdropFraction,
    withoutGaps_of_digits hwhole, withoutGaps_of_digits hfraction]

theorem cuts_of_readNumber
    {negative : Bool} {token : Token} {width : Nat} (hdigit : startsWithDigit chars = true)
    (hread : readNumber negative (chars ++ rest) = .ok (token, width, rest)) :
    Cuts (Binary64.signChars negative ++ chars ++ rest) [token] rest := by
  cases chars with
  | nil => exact absurd hdigit (by decide)
  | cons c chars =>
      have hc : c.isDigit = true := hdigit
      cases negative with
      | false =>
          have hbounds := isDigit_iff.mp hc
          have hlexeme : readLexeme c (chars ++ rest) = .ok (token, width, rest) := by
            rw [readLexeme_of_isDigit hc]
            exact hread
          exact .lexeme (isBlank_of_visible (by omega) (by omega)) hlexeme
            (List.suffix_append chars rest).length_le (.here rest)
      | true =>
          have hstart : startsWithDigit (c :: chars ++ rest) = true := hc
          have hlexeme : readLexeme '-' (c :: chars ++ rest) = .ok (token, 1 + width, rest) := by
            rw [readLexeme_minus hstart, hread]
            rfl
          exact .lexeme rfl hlexeme (List.suffix_append (c :: chars) rest).length_le (.here rest)

theorem integerToken_toInt (number : Int64) : integerToken number.toInt = .ok (.int number) := by
  unfold integerToken
  rw [if_neg (Int.not_lt.mpr (Int64.minValue_le_toInt number)),
    if_neg (Int.not_lt.mpr (Int64.toInt_le number)), Int64.ofInt_toInt]

/-- The text of an integer is a sign, if it is negative, and digits. -/
theorem intText_eq_signed_digits (number : Int64) :
    ∃ negative size,
      (Value.intText number).toList = Binary64.signChars negative ++ Binary64.digitChars size ∧
        Binary64.signed negative size = number.toInt := by
  unfold Value.intText
  cases number.toInt with
  | ofNat size =>
      refine ⟨false, size, ?_, rfl⟩
      change (Nat.repr size).toList = _
      rw [Nat.repr_eq_ofList_toDigits, String.toList_ofList]
      rfl
  | negSucc size =>
      refine ⟨true, size + 1, ?_, rfl⟩
      change ("-" ++ Nat.repr (size + 1)).toList = _
      rw [Nat.repr_eq_ofList_toDigits, String.toList_append, String.toList_ofList,
        String.toList_ofList]
      rfl

theorem cuts_int
    (number : Int64) (hends : EndsFraction rest) (hpoint : readFraction? rest = none) :
    Cuts ((Value.intText number).toList ++ rest) [.int number] rest := by
  obtain ⟨negative, size, htext, hvalue⟩ := intText_eq_signed_digits number
  have hdigits : ∀ c ∈ Binary64.digitChars size, c.isDigit = true :=
    fun _ => Binary64.isDigit_of_mem_digitChars
  have hread : readNumber negative (Binary64.digitChars size ++ rest) =
      .ok (.int number, (Binary64.digitChars size).length, rest) := by
    rw [readNumber_whole hdigits hends hpoint, Binary64.readDigits_digitChars, hvalue,
      integerToken_toInt]
    rfl
  have hstart : startsWithDigit (Binary64.digitChars size) = true := by
    obtain ⟨c, digits, hc⟩ := List.exists_cons_of_ne_nil (Binary64.digitChars_ne_nil size)
    rw [hc] at hdigits ⊢
    exact hdigits c List.mem_cons_self
  rw [htext]
  exact cuts_of_readNumber hstart hread

theorem cuts_float
    (negative : Bool) (rank : Fin 0x7FF0000000000000) (hends : EndsFraction rest) :
    Cuts ((Value.floatText (.finite negative rank)).toList ++ rest)
      [.float (.finite negative rank)] rest := by
  obtain ⟨_, htext, whole, fraction, rfl, hwhole, hfraction, hdigits, hvalue⟩ :=
    Binary64.valueText_writesDecimal negative rank
  have hwholeDigits : ∀ c ∈ whole, c.isDigit = true := fun c hc => hdigits c (by simp [hc])
  have hfractionDigits : ∀ c ∈ fraction, c.isDigit = true := fun c hc => hdigits c (by simp [hc])
  have hread := readNumber_fraction hwholeDigits hfraction hfractionDigits hends negative
  rw [hvalue] at hread
  have hstart : startsWithDigit (whole ++ '.' :: fraction) = true := by
    cases whole with
    | nil => exact absurd rfl hwhole
    | cons c whole => exact hwholeDigits c List.mem_cons_self
  rw [Value.floatText, String.toList_ofList, htext]
  exact cuts_of_readNumber hstart (by rw [List.append_assoc]; exact hread)

end CallContract.Notation
