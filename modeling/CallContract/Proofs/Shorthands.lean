import CallContract.Proofs.EmbeddedSources

/-!
# Shorthands of maps

An arrow outside all brackets and braces stands for the map with that one entry,
so braces around such a source change neither the contract that it denotes nor
the fault that it has.  Only a level of nesting is needed for them.

A keyword may be written as a symbol before an arrow, or as a label, which is how
it is printed.  Both denote the same entry if the name starts like a word.  A
symbol may start with a digit, and such a name is no label, as what stands before
the colon is read as a number.
-/

namespace CallContract

open Notation

namespace Notation

variable {engine : Pattern.Engine} {resolve : Resolver} {tokens body : List Token} {term : Term}
  {source name : String}

/-! ### Arrows outside brackets -/

/-- An arrow stands outside all brackets and braces. -/
def HasTopArrow (tokens : List Token) : Prop :=
  ∃ front back, tokens = front ++ .arrow :: back ∧ IsBalanced front

theorem not_isBalanced_inside
    {opening closing : Token} {inside front back : List Token}
    (hopening : opening.opens = true ∧ opening.closes = false)
    (hclosing : closing.opens = false ∧ closing.closes = true) (hinside : IsMatched inside)
    (hsplit : opening :: (inside ++ [closing]) = front ++ .arrow :: back) :
    ¬ IsBalanced front := by
  intro hfront
  rcases List.cons_eq_append_iff.mp hsplit with ⟨rfl, harrow⟩ | ⟨more, rfl, hmore⟩
  · obtain ⟨rfl, -⟩ := List.cons_eq_cons.mp harrow
    cases hopening.1
  · rcases List.append_eq_append_iff.mp hmore with ⟨last, rfl, hlast⟩ | ⟨last, hlast, -⟩
    · cases last with
      | nil =>
          obtain ⟨rfl, -⟩ := List.cons_eq_cons.mp hlast
          cases hclosing.2
      | cons first others =>
          obtain ⟨-, hothers⟩ := List.cons_eq_cons.mp hlast
          cases others <;> cases hothers
    · -- what was opened first is not closed before the arrow
      have hopen := hinside.closes_le_opens hlast
      unfold IsBalanced at hfront
      simp only [List.countP_cons, hopening, if_true, Bool.false_eq_true, if_false] at hfront
      omega

theorem IsTerm.not_hasTopArrow (h : IsTerm engine resolve tokens term) : ¬ HasTopArrow tokens := by
  rintro ⟨front, back, hsplit, hfront⟩
  have hmem : Token.arrow ∈ tokens := hsplit ▸ List.mem_append_right front List.mem_cons_self
  cases h with
  | list h =>
      exact not_isBalanced_inside ⟨rfl, rfl⟩ ⟨rfl, rfl⟩ (terms_isMatched h) hsplit hfront
  | map h =>
      exact not_isBalanced_inside ⟨rfl, rfl⟩ ⟨rfl, rfl⟩ (entries_isMatched h) hsplit hfront
  | upTo _ h | literal h | startingAt _ h => cases h <;> simp at hmem
  | between _ hstart hstop => cases hstart <;> cases hstop <;> simp at hmem
  | _ => simp at hmem

theorem contract_of_hasTopArrow
    (h : IsSpec engine resolve tokens term) (harrow : HasTopArrow tokens) :
    ∃ arguments result, term = .spec arguments result ∧
      IsEntry engine resolve tokens (keyOf arguments, result) := by
  cases h with
  | term h => exact absurd harrow h.not_hasTopArrow
  | contract harguments hresult => exact ⟨_, _, rfl, .keyed harguments hresult⟩

theorem isTerm_of_not_hasTopArrow
    (h : IsSpec engine resolve tokens term) (harrow : ¬ HasTopArrow tokens) :
    IsTerm engine resolve tokens term := by
  cases h with
  | term h => exact h
  | contract harguments => exact absurd ⟨_, _, rfl, harguments.isBalanced⟩ harrow

/-! ### Braces around an entry -/

/-- What derives an entry denotes the map of it between braces, if a level is
left for them. -/
theorem parseSpec_braces_iff
    {entry : Key × Term} (htokens : HasTokens source tokens)
    (hentry : IsEntry engine resolve tokens entry) (braced : Term) :
    parseSpec engine resolve ("\x7b" ++ source ++ "\x7d") = .ok braced ↔
      braced = .map [entry] ∧ ∃ limit < maxNesting, NestsWithin limit tokens := by
  have hnests : NestsWithin maxNesting (.openBrace :: (tokens ++ [.closeBrace])) ↔
      ∃ limit < maxNesting, NestsWithin limit tokens := by
    rw [nestsWithin_enclosed ⟨rfl, rfl⟩ ⟨rfl, rfl⟩ hentry.isBalanced]
    constructor
    · rintro ⟨below, hbelow, h⟩
      exact ⟨below, by omega, h⟩
    · rintro ⟨limit, hlimit, h⟩
      exact ⟨maxNesting - 1, rfl, h.mono (Nat.le_sub_one_of_lt hlimit)⟩
  have hderived : IsSpec engine resolve (.openBrace :: (tokens ++ [.closeBrace])) (.map [entry]) :=
    .term (.map (.last hentry))
  constructor
  · intro h
    have hlevels := (htokens.braces.parseSpec_iff.mp h).2
    have hown := htokens.braces.parseSpec_iff.mpr ⟨hderived, hlevels⟩
    exact ⟨Except.ok.inj (h.symm.trans hown), hnests.mp hlevels⟩
  · rintro ⟨rfl, hlevels⟩
    exact htokens.braces.parseSpec_iff.mpr ⟨hderived, hnests.mpr hlevels⟩

/-- The key of an entry is no list and no map where the arguments are none, and
is named by the same text. -/
theorem signature_map_keyOf (arguments result : Term) :
    (Term.map [(keyOf arguments, result)]).signature = (Term.spec arguments result).signature := by
  cases arguments <;> rfl

/-- Braces around an arrow that stands outside all brackets are accepted if they
leave the source within the levels of nesting, and denote what the source
denotes without them: the same signature, or the same fault. -/
theorem arrow_is_short_for_braces
    (hparse : parseSpec engine resolve source = .ok term) (htokens : HasTokens source body)
    (harrow : HasTopArrow body) :
    ((∃ braced, parseSpec engine resolve ("\x7b" ++ source ++ "\x7d") = .ok braced) ↔
        ∃ limit < maxNesting, NestsWithin limit body) ∧
      ∀ braced, parseSpec engine resolve ("\x7b" ++ source ++ "\x7d") = .ok braced →
        braced.signature = term.signature := by
  obtain ⟨hspec, -⟩ := htokens.parseSpec_iff.mp hparse
  obtain ⟨arguments, result, rfl, hentry⟩ := contract_of_hasTopArrow hspec harrow
  have hbraces := parseSpec_braces_iff htokens hentry
  constructor
  · constructor
    · rintro ⟨braced, hbraced⟩
      exact ((hbraces braced).mp hbraced).2
    · exact fun hnests => ⟨_, (hbraces _).mpr ⟨rfl, hnests⟩⟩
  · intro braced hbraced
    rw [((hbraces braced).mp hbraced).1, signature_map_keyOf]

/-- A symbol is no argument side, with braces and without. -/
theorem arrow_behind_a_symbol_is_short_for_braces :
    ∃ (engine : Pattern.Engine) (source : String) (body : List Token) (term braced : Term),
      parseSpec engine (fun _ => none) source = .ok term ∧ HasTokens source body ∧
        HasTopArrow body ∧
        parseSpec engine (fun _ => none) ("\x7b" ++ source ++ "\x7d") = .ok braced ∧
        (∃ limit < maxNesting, NestsWithin limit body) ∧
        term.signature = .error (.invalidArgumentSide ":size") ∧
        braced.signature = term.signature := by
  have hparse : parseSpec .ofExpressions (fun _ => none) ":size => [1...]" =
      .ok (.spec (.symbol ⟨"size"⟩) (.list [.interval ⟨some (.int 1), none, false⟩])) := by
    cbv
  have htokens : HasTokens ":size => [1...]"
      [.symbol "size", .arrow, .openBracket, .int 1, .dots true, .closeBracket] :=
    ⟨_, by cbv, rfl⟩
  have harrow : HasTopArrow
      [.symbol "size", .arrow, .openBracket, .int 1, .dots true, .closeBracket] :=
    ⟨[.symbol "size"], _, rfl, rfl⟩
  have hbraced : parseSpec .ofExpressions (fun _ => none)
      ("\x7b" ++ ":size => [1...]" ++ "\x7d") =
        .ok (.map [(.symbol ⟨"size"⟩, .list [.interval ⟨some (.int 1), none, false⟩])]) := by
    cbv
  obtain ⟨haccepted, hsame⟩ := arrow_is_short_for_braces hparse htokens harrow
  exact ⟨_, _, _, _, _, hparse, htokens, harrow, hbraced, haccepted.mp ⟨_, hbraced⟩, rfl,
    hsame _ hbraced⟩

/-! ### Keywords -/

theorem forall_mem_of_isName {chars : List Char} (h : IsName chars) :
    ∀ c ∈ chars, isNameChar c = true ∨ c = '?' ∨ c = '!' ∨ c = '=' := by
  obtain ⟨stem, mark, rfl, -, hstem, hmark⟩ := h
  refine List.forall_mem_append.mpr ⟨fun c hc => .inl (hstem c hc), ?_⟩
  rcases hmark with rfl | rfl | rfl | rfl <;> simp

/-- A name that does not start like a word starts with a digit. -/
theorem exists_digit_of_not_startsName
    {chars : List Char} (hname : IsName chars) (hstart : ¬ StartsName chars) :
    ∃ c others, chars = c :: others ∧ c.isDigit = true := by
  obtain ⟨stem, mark, rfl, hstem, hchars, -⟩ := hname
  obtain ⟨c, others, rfl⟩ := List.exists_cons_of_ne_nil hstem
  refine ⟨c, others ++ mark, rfl, ?_⟩
  have hc := isDigit_or_isNameStart_of_isNameChar (hchars c List.mem_cons_self)
  exact hc.resolve_right fun hname => hstart ⟨c, others ++ mark, rfl, hname⟩

theorem hasTokens_labelled
    (hname : IsName name.toList) (hstart : StartsName name.toList) (h : HasTokens source body) :
    HasTokens (name ++ ": " ++ source) (.label name :: body) := by
  have hcuts := cuts_label hname hstart (hasTokens_iff_cuts.mp h)
  rw [String.ofList_toList] at hcuts
  rw [hasTokens_iff_cuts, String.toList_append, String.toList_append, List.append_assoc]
  exact hcuts

theorem hasTokens_arrow
    (hname : IsName name.toList) (h : HasTokens source body) :
    HasTokens (":" ++ name ++ " => " ++ source) (.symbol name :: .arrow :: body) := by
  have harrow := cuts_spacedArrow (hasTokens_iff_cuts.mp h)
  have hends : EndsName (" => ".toList ++ source.toList) := by
    rintro _ ⟨⟩
    decide
  have hcuts := (cuts_symbol hname hends.leavesName).append harrow
  rw [String.ofList_toList] at hcuts
  rw [hasTokens_iff_cuts, String.toList_append, String.toList_append, String.toList_append,
    List.append_assoc]
  exact hcuts

/-- A word or a label. -/
def Token.IsNamed (token : Token) : Prop :=
  ∃ name, token = .word name ∨ token = .label name

theorem isNamed_of_readLexeme
    {c : Char} {chars rest : List Char} {token : Token} {width : Nat} (hc : isNameStart c = true)
    (h : readLexeme c chars = .ok (token, width, rest)) : token.IsNamed := by
  rw [readLexeme_of_isNameStart hc] at h
  have hword := Except.ok.inj h
  unfold readWord at hword
  dsimp only at hword
  split at hword <;> cases hword
  · exact ⟨_, .inr rfl⟩
  · exact ⟨_, .inl rfl⟩

theorem readLexeme_equals_ne_ok
    {chars : List Char} (h : ∀ c ∈ chars.head?, c ≠ '>') (result : Token × Nat × List Char) :
    readLexeme '=' chars ≠ .ok result := by
  intro hread
  unfold readLexeme at hread
  split at hread
  case h_6 => exact h _ rfl rfl
  case h_12 => cases hread
  all_goals exact absurd ‹ '=' = _ › (by decide)

/-- What is left of a name behind digits is a word or a label, if anything is read
there before a colon. -/
theorem Cuts.exists_named
    {others behind : List Char} (h : Cuts (others ++ ':' :: ' ' :: behind) tokens [])
    (hchars : ∀ c ∈ others, isNameChar c = true ∨ c = '?' ∨ c = '!' ∨ c = '=')
    (hdigit : ∀ c ∈ others.head?, isDigitOrGap c = false) :
    ∃ token more, tokens = token :: more ∧ token.IsNamed := by
  cases others with
  | nil =>
      obtain ⟨_, _, _, _, -, hread, -⟩ := h.exists_token rfl
      cases hread
  | cons c others =>
      obtain ⟨hc, hothers⟩ := List.forall_mem_cons.mp hchars
      rcases hc with hname | rfl | rfl | rfl
      · have hnot : c.isDigit ≠ true := fun hc =>
          Bool.false_ne_true ((hdigit c rfl).symm.trans (isDigitOrGap_of_isDigit hc))
        have hstart := (isDigit_or_isNameStart_of_isNameChar hname).resolve_left hnot
        have hbounds := isNameStart_bounds hstart
        obtain ⟨token, _, _, more, rfl, hread, -⟩ :=
          h.exists_token (isBlank_of_visible (by omega) (by omega))
        exact ⟨token, more, rfl, isNamed_of_readLexeme hstart hread⟩
      · obtain ⟨_, _, _, _, -, hread, -⟩ := h.exists_token rfl
        cases hread
      · obtain ⟨_, _, _, _, -, hread, -⟩ := h.exists_token rfl
        cases hread
      · obtain ⟨_, _, _, _, -, hread, -⟩ := h.exists_token rfl
        refine absurd hread (readLexeme_equals_ne_ok ?_ _)
        rintro _ hc rfl
        cases others with
        | nil => cases hc
        | cons next others =>
            cases hc
            exact absurd (hothers '>' List.mem_cons_self) (by decide)

theorem exists_int_of_readNumber
    {name behind rest : List Char} {token : Token} {width : Nat}
    (hname : ∀ c ∈ name, isNameChar c = true ∨ c = '?' ∨ c = '!' ∨ c = '=')
    (h : readNumber false (name ++ ':' :: behind) = .ok (token, width, rest)) :
    (∃ number, token = .int number) ∧ rest = name.dropWhile isDigitOrGap ++ ':' :: behind := by
  have hstop : ∀ c ∈ (':' :: behind).head?, isDigitOrGap c = false := by
    rintro _ ⟨⟩
    rfl
  obtain ⟨-, hdrop⟩ := takeWhile_dropWhile_append hstop name
  unfold readNumber at h
  dsimp only at h
  rw [hdrop] at h
  split at h
  next hfraction =>
    -- no point stands in a name or is the colon behind it
    exfalso
    unfold readFraction? at hfraction
    split at hfraction
    next hpoint =>
      cases hleft : name.dropWhile isDigitOrGap with
      | nil =>
          rw [hleft] at hpoint
          cases hpoint
      | cons c others =>
          rw [hleft] at hpoint
          obtain ⟨rfl, -⟩ := List.cons_eq_cons.mp hpoint
          have hmem : '.' ∈ name := (List.dropWhile_suffix _).subset (hleft ▸ List.mem_cons_self)
          exact absurd (hname '.' hmem) (by decide)
    next => cases hfraction
  next =>
    obtain ⟨found, hfound, hall⟩ := bind_eq_ok_iff.mp h
    cases hall
    refine ⟨?_, rfl⟩
    unfold integerToken at hfound
    split_ifs at hfound
    cases hfound
    exact ⟨_, rfl⟩

/-- Where a word or a label follows a number, no entry of a map starts. -/
theorem readSpec_ne_ok_of_number
    {first second third : Nat} {number : Int64} {token : Token} {more : Tokens}
    (htoken : token.IsNamed) :
    readSpec engine resolve
      ((first, .openBrace) :: (second, .int number) :: (third, token) :: more) ≠ .ok term := by
  obtain ⟨name, rfl | rfl⟩ := htoken
  all_goals exact nofun

/-- A name that starts with a digit is no label, whatever stands behind it. -/
theorem parseSpec_label_ne_ok
    (hname : IsName name.toList) (hstart : ¬ StartsName name.toList) (source : String) :
    parseSpec engine resolve ("\x7b" ++ (name ++ ": " ++ source) ++ "\x7d") ≠ .ok term := by
  intro h
  obtain ⟨placed, hplaced, hspec⟩ := bind_eq_ok_iff.mp h
  obtain ⟨body, hbody, -⟩ := tokensFrom_ends hplaced
  have hchars : ("\x7b" ++ (name ++ ": " ++ source) ++ "\x7d").toList =
      '\x7b' :: (name.toList ++ ':' :: ' ' :: (source.toList ++ ['\x7d'])) := by
    simp
  have hcuts := hasTokens_iff_cuts.mp ⟨placed, hplaced, hbody⟩
  rw [hchars] at hcuts
  obtain ⟨_, _, _, afterBrace, rfl, hbrace, hcutsName⟩ := hcuts.exists_token rfl
  cases hbrace
  obtain ⟨c, others, hdigits, hdigit⟩ := exists_digit_of_not_startsName hname hstart
  have hbounds := isDigit_iff.mp hdigit
  rw [hdigits, List.cons_append] at hcutsName
  obtain ⟨_, _, behind, afterNumber, rfl, hnumber, hcutsRest⟩ :=
    hcutsName.exists_token (isBlank_of_visible (by omega) (by omega))
  rw [readLexeme_of_isDigit hdigit, ← List.cons_append, ← hdigits] at hnumber
  have hmem := forall_mem_of_isName hname
  obtain ⟨⟨number, rfl⟩, rfl⟩ := exists_int_of_readNumber hmem hnumber
  have hgap : ∀ c ∈ (name.toList.dropWhile isDigitOrGap).head?, isDigitOrGap c = false := by
    intro c hc
    have hhead := List.head?_dropWhile_not isDigitOrGap name.toList
    rwa [Option.mem_def.mp hc] at hhead
  obtain ⟨token, more, rfl, hnamed⟩ := hcutsRest.exists_named
    (fun c hc => hmem c ((List.dropWhile_suffix _).subset hc)) hgap
  obtain ⟨⟨first, _⟩, placedBehind, rfl, rfl, hbehind⟩ := List.map_eq_cons_iff.mp hbody
  obtain ⟨⟨second, _⟩, placedMore, rfl, rfl, hmore⟩ := List.map_eq_cons_iff.mp hbehind
  obtain ⟨⟨third, _⟩, placedRest, rfl, rfl, -⟩ := List.map_eq_cons_iff.mp hmore
  exact readSpec_ne_ok_of_number hnamed hspec

/-- A symbol before an arrow and a label denote the same keyword if the name
starts like a word.  Any other name that a symbol may have is no label, and what
is printed for such a keyword is not accepted. -/
theorem keyword_spellings_agree_for_words
    {width limit : Nat} (hname : readLexeme ':' name.toList = .ok (.symbol name, width, []))
    (hparse : parseSpec engine resolve source = .ok term) (htokens : HasTokens source body)
    (harrow : ¬ HasTopArrow body) (hlimit : limit < maxNesting) (hnests : NestsWithin limit body) :
    parseSpec engine resolve ("\x7b" ++ (":" ++ name ++ " => " ++ source) ++ "\x7d") =
        .ok (.map [(.symbol ⟨name⟩, term)]) ∧
      (∀ other,
        parseSpec engine resolve ("\x7b" ++ (name ++ ": " ++ source) ++ "\x7d") = .ok other ↔
          other = .map [(.symbol ⟨name⟩, term)] ∧ StartsName name.toList) ∧
      ∀ (signature : Signature) (descriptor : Descriptor), descriptor.text = source →
        signature.keywords = [(⟨name⟩, descriptor)] →
          ∀ other, parseSpec engine resolve signature.keywordsText = .ok other ↔
            other = .map [(.symbol ⟨name⟩, term)] ∧ StartsName name.toList := by
  have hown : IsName name.toList := isSpelt_of_readLexeme hname
  have hterm := isTerm_of_not_hasTopArrow (htokens.parseSpec_iff.mp hparse).1 harrow
  have hlabel : ∀ other,
      parseSpec engine resolve ("\x7b" ++ (name ++ ": " ++ source) ++ "\x7d") = .ok other ↔
        other = .map [(.symbol ⟨name⟩, term)] ∧ StartsName name.toList := by
    intro other
    by_cases hstart : StartsName name.toList
    · have hentry : IsEntry engine resolve (.label name :: body) (.symbol ⟨name⟩, term) :=
        .labelled hterm
      have hlevels : NestsWithin limit (.label name :: body) :=
        (nestsWithin_cons ⟨rfl, rfl⟩).mpr hnests
      rw [parseSpec_braces_iff (hasTokens_labelled hown hstart htokens) hentry]
      exact and_congr_right fun _ => iff_of_true ⟨limit, hlimit, hlevels⟩ hstart
    · exact iff_of_false (parseSpec_label_ne_ok hown hstart source) fun hboth => hstart hboth.2
  refine ⟨?_, hlabel, ?_⟩
  · have hentry : IsEntry engine resolve (.symbol name :: .arrow :: body) (.symbol ⟨name⟩, term) :=
      .keyed (.symbol name) hterm
    have hlevels : NestsWithin limit (.symbol name :: .arrow :: body) :=
      (nestsWithin_cons ⟨rfl, rfl⟩).mpr ((nestsWithin_cons ⟨rfl, rfl⟩).mpr hnests)
    exact (parseSpec_braces_iff (hasTokens_arrow hown htokens) hentry _).mpr
      ⟨rfl, limit, hlimit, hlevels⟩
  · rintro signature descriptor rfl hkeywords
    rw [Signature.keywordsText, hkeywords]
    exact hlabel

/-- The name of a symbol may end in a mark, and so may a label. -/
theorem keyword_spellings_agree_for_words_with_a_mark :
    ∃ (engine : Pattern.Engine) (name source : String) (width limit : Nat) (body : List Token)
      (term : Term),
      readLexeme ':' name.toList = .ok (.symbol name, width, []) ∧
        parseSpec engine (fun _ => none) source = .ok term ∧ HasTokens source body ∧
        ¬ HasTopArrow body ∧ limit < maxNesting ∧ NestsWithin limit body ∧
        StartsName name.toList ∧
        ∀ spelling ∈ ["\x7b" ++ (":" ++ name ++ " => " ++ source) ++ "\x7d",
            "\x7b" ++ (name ++ ": " ++ source) ++ "\x7d"],
          parseSpec engine (fun _ => none) spelling = .ok (.map [(.symbol ⟨name⟩, term)]) := by
  have hname : readLexeme ':' "ready?".toList = .ok (.symbol "ready?", 7, []) := by
    cbv
  have hparse : parseSpec .ofExpressions (fun _ => none) "true" = .ok (.bool true) := by
    cbv
  have htokens : HasTokens "true" [.word "true"] :=
    ⟨_, by cbv, rfl⟩
  have hterm : IsTerm .ofExpressions (fun _ => none) [.word "true"] (.bool true) := .wordTrue
  have hnests : NestsWithin 0 [.word "true"] :=
    nestsWithin_of_plain (List.forall_mem_singleton.mpr ⟨rfl, rfl⟩)
  have hstart : StartsName "ready?".toList := ⟨'r', _, rfl, rfl⟩
  obtain ⟨hsymbol, hlabel, -⟩ := keyword_spellings_agree_for_words hname hparse htokens
    hterm.not_hasTopArrow (by decide) hnests
  exact ⟨_, "ready?", "true", 7, 0, _, _, hname, hparse, htokens, hterm.not_hasTopArrow,
    by decide, hnests, hstart, List.forall_mem_cons.mpr
      ⟨hsymbol, List.forall_mem_singleton.mpr ((hlabel _).mpr ⟨rfl, hstart⟩)⟩⟩

/-- The name of a symbol may be a digit, and no label is.  So a contract with such
a keyword is printed as what is not accepted. -/
theorem keyword_spellings_differ_for_a_digit :
    ∃ (name source : String) (width : Nat) (body : List Token) (term : Term)
      (signature : Signature),
      readLexeme ':' name.toList = .ok (.symbol name, width, []) ∧ HasTokens source body ∧
        ¬ HasTopArrow body ∧ NestsWithin 0 body ∧
        (Term.spec (.map [(.symbol ⟨name⟩, term)]) term).signature = .ok signature ∧
        ∀ engine : Pattern.Engine,
          parseSpec engine (fun _ => none) source = .ok term ∧
            parseSpec engine (fun _ => none)
              ("\x7b" ++ (":" ++ name ++ " => " ++ source) ++ "\x7d") =
                .ok (.map [(.symbol ⟨name⟩, term)]) ∧
            parseSpec engine (fun _ => none) ("\x7b" ++ (name ++ ": " ++ source) ++ "\x7d") =
              .error ⟨2, .missingSymbolName⟩ ∧
            parseSpec engine (fun _ => none) signature.text = .error ⟨2, .missingSymbolName⟩ := by
  have hterm : IsTerm .ofExpressions (fun _ => none) [.word "Any"] .any := .wordAny
  have hnests : NestsWithin 0 [.word "Any"] :=
    nestsWithin_of_plain (List.forall_mem_singleton.mpr ⟨rfl, rfl⟩)
  exact ⟨"1", "Any", 2, [.word "Any"], .any, ⟨[], [(⟨"1"⟩, .anything)], .anything⟩, by cbv,
    ⟨_, by cbv, rfl⟩, hterm.not_hasTopArrow, hnests, rfl,
    fun _ => ⟨by cbv, by cbv, by cbv, by cbv⟩⟩

end Notation

end CallContract
