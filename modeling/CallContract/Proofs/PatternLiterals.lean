import CallContract.Proofs.EmbeddedSources

/-!
# Literals of patterns

Between the slashes of a literal an escaped slash stands for a slash, and every
other escape stands for itself, as it belongs to the pattern.  So a source has
one spelling at most, and it is spelt like itself exactly if there is no slash in
it.  A pattern is printed as its source between slashes.  This is the literal that
denotes it if there is no slash in the source; otherwise the printed text denotes
no pattern at all.  Of the engine that makes patterns of sources nothing matters but
that it makes the same one of the same source.
-/

namespace CallContract

namespace Notation

/-! ### Spellings -/

variable {literal other source chars rest : List Char}

theorem SpellsPattern.unique
    (h : SpellsPattern literal source) (hother : SpellsPattern other source) : literal = other := by
  induction h generalizing other with
  | nil =>
      cases hother
      rfl
  | slash _ ih =>
      cases hother with
      | slash hother => rw [ih hother]
      | plain hslash => exact absurd rfl hslash
  | escape _ _ ih =>
      cases hother with
      | escape _ hother => rw [ih hother]
      | plain _ hescape => exact absurd rfl hescape
  | plain hslash hescape _ ih =>
      cases hother with
      | slash => exact absurd rfl hslash
      | escape => exact absurd rfl hescape
      | plain _ _ hother => rw [ih hother]

/-- A source that has a spelling and no slash is its own spelling. -/
theorem SpellsPattern.self
    (h : SpellsPattern literal source) (hslash : '/' ∉ source) : SpellsPattern source source :=
  .of_isEscaped h.isEscaped hslash

/-- Where a source is a spelling of something, its slashes would be escaped, and
no source with a spelling has an escaped slash. -/
theorem SpellsPattern.slash_not_mem
    (h : SpellsPattern literal source) (hagain : SpellsPattern source other) : '/' ∉ source := by
  induction h generalizing other with
  | nil => exact List.not_mem_nil
  | slash =>
      cases hagain with
      | plain hslash => exact absurd rfl hslash
  | escape hc _ ih =>
      cases hagain with
      | slash => exact absurd rfl hc
      | escape _ hagain => simp [ih hagain, hc.symm]
      | plain _ hescape => exact absurd rfl hescape
  | plain hc hescape _ ih =>
      cases hagain with
      | slash | escape => exact absurd rfl hescape
      | plain _ _ hagain => simp [ih hagain, hc.symm]

theorem SpellsPattern.source_eq_iff (h : SpellsPattern literal source) :
    source = literal ↔ '/' ∉ source := by
  constructor
  · rintro rfl
    exact h.slash_not_mem h
  · exact fun hslash => (h.self hslash).unique h

theorem SpellsPattern.source_unique
    (h : SpellsPattern literal source) (hother : SpellsPattern literal other) : source = other := by
  obtain ⟨width, hread⟩ := h.exists_readRegexp []
  obtain ⟨_, hreadOther⟩ := hother.exists_readRegexp []
  cases hread.symm.trans hreadOther
  rfl

/-- The source of a pattern spells no other source than itself. -/
theorem SpellsPattern.again_iff (h : SpellsPattern literal source) :
    SpellsPattern source other ↔ other = source ∧ '/' ∉ source := by
  constructor
  · intro hagain
    have hslash := h.slash_not_mem hagain
    exact ⟨hagain.source_unique (h.self hslash), hslash⟩
  · rintro ⟨rfl, hslash⟩
    exact h.self hslash

/-! ### Reading a literal -/

/-- A lexeme that starts with a slash is a literal. -/
theorem literal_of_readLexeme
    {token : Token} {width : Nat} (h : readLexeme '/' chars = .ok (token, width, rest)) :
    ∃ literal source, chars = literal ++ '/' :: rest ∧ SpellsPattern literal source ∧
      token = .regexp (String.ofList source) := by
  simp only [readLexeme] at h
  split at h
  next source size after hread =>
    cases h
    obtain ⟨literal, hchars, hspells⟩ := readRegexp_eq_some_iff.mp ⟨_, hread⟩
    exact ⟨literal, source, hchars, hspells, rfl⟩
  next => cases h

/-- If a pattern is all that stands between slashes, they are its own. -/
theorem spells_of_cuts
    {source : String} (h : Cuts ('/' :: (literal ++ ['/'])) [.regexp source] []) :
    SpellsPattern literal source.toList := by
  have hsolid : Text.isBlank '/' = false := rfl
  obtain ⟨token, width, rest, others, htokens, hread, hrest⟩ := h.exists_token hsolid
  obtain ⟨rfl, rfl⟩ := List.cons_eq_cons.mp htokens
  obtain ⟨own, source', hown, hspells, htoken⟩ := literal_of_readLexeme hread
  cases htoken
  rw [String.toList_ofList]
  -- the last slash is no blank, so nothing stands behind it
  rcases List.eq_nil_or_concat rest with rfl | ⟨front, last, rfl⟩
  · rwa [List.append_cancel_right hown]
  · have hends : literal ++ ['/'] = (own ++ '/' :: front) ++ [last] := by simpa using hown
    obtain ⟨-, hlast⟩ := List.append_inj' hends rfl
    cases hlast
    exact absurd (hrest.isBlank_of_no_token '/' (by simp)) (by simp [hsolid])

/-- Between slashes, only a spelling of its source is read as a pattern, and only as
the one that the engine makes of the source. -/
theorem parseSpec_pattern_iff
    (engine : Pattern.Engine) (resolve : Resolver) (between : String) (searched : Pattern) :
    parseSpec engine resolve ("/" ++ between ++ "/") = .ok (.pattern searched) ↔
      engine.compile searched.source = .ok searched ∧
        SpellsPattern between.toList searched.source.toList := by
  have hsource : ("/" ++ between ++ "/").toList = '/' :: (between.toList ++ ['/']) := by
    rw [String.toList_append, String.toList_append]
    rfl
  constructor
  · intro h
    obtain ⟨body, hbody, hderived, -⟩ := derived_of_parseSpec h
    have hcuts := hasTokens_iff_cuts.mp hbody
    rw [hsource] at hcuts
    cases hderived with
    | term hterm =>
        cases hterm with
        | regexp hsearched =>
            obtain rfl := engine.source_of_compile hsearched
            exact ⟨hsearched, spells_of_cuts hcuts⟩
        | literal hliteral => cases hliteral
  · rintro ⟨hsearched, hspells⟩
    have hcuts := cuts_literal hspells []
    rw [← hsource] at hcuts
    have hplain : ∀ token ∈ [Token.regexp searched.source], token.IsPlain :=
      List.forall_mem_singleton.mpr ⟨rfl, rfl⟩
    exact (hasTokens_iff_cuts.mpr hcuts).parseSpec_iff.mpr
      ⟨.term (.regexp hsearched), nestsWithin_of_plain hplain⟩

end Notation

open Notation

/-! ### Printed patterns -/

/-- A literal that is read and whose source is a pattern is the only text between
slashes that denotes the pattern.  The pattern is printed with its source between
slashes, as a term and when it is compiled.  So the printed text is the literal,
and denotes the pattern, if the source has no slash; otherwise it denotes neither
this pattern nor another. -/
theorem printed_pattern_denotes_itself_without_slashes
    {engine : Pattern.Engine} {chars rest : List Char} {source : String} {width : Nat}
    {searched : Pattern} (hread : readLexeme '/' chars = .ok (.regexp source, width, rest))
    (hsearched : engine.compile source = .ok searched) :
    searched.source = source ∧
      (∀ side slot, (Term.pattern searched).descriptor side slot = .ok (.textMatches searched)) ∧
      (∀ printed ∈ [(Term.pattern searched).text, (Descriptor.textMatches searched).text],
        ∀ resolve other, parseSpec engine resolve printed = .ok (.pattern other) ↔
          other = searched ∧ '/' ∉ source.toList) ∧
      ∃ literal, chars = literal ++ '/' :: rest ∧
        (∀ resolve between,
          parseSpec engine resolve ("/" ++ between ++ "/") = .ok (.pattern searched) ↔
            between.toList = literal) ∧
        (source.toList = literal ↔ '/' ∉ source.toList) := by
  obtain rfl := engine.source_of_compile hsearched
  obtain ⟨literal, spelled, hchars, hspells, htoken⟩ := literal_of_readLexeme hread
  obtain rfl : spelled = searched.source.toList := by
    rw [Token.regexp.inj htoken, String.toList_ofList]
  have hprinted : ∀ resolve other,
      parseSpec engine resolve ("/" ++ searched.source ++ "/") = .ok (.pattern other) ↔
        other = searched ∧ '/' ∉ searched.source.toList := by
    intro resolve other
    rw [parseSpec_pattern_iff, hspells.again_iff, String.toList_inj]
    constructor
    · rintro ⟨hother, hsource, hslash⟩
      rw [hsource, hsearched] at hother
      exact ⟨(Except.ok.inj hother).symm, hslash⟩
    · rintro ⟨rfl, hslash⟩
      exact ⟨hsearched, rfl, hslash⟩
  refine ⟨rfl, fun _ _ => rfl, ?_, literal, hchars, fun resolve between => ?_,
    hspells.source_eq_iff⟩
  · exact List.forall_mem_cons.mpr ⟨hprinted, List.forall_mem_singleton.mpr hprinted⟩
  · rw [parseSpec_pattern_iff]
    exact ⟨fun hbetween => hbetween.2.unique hspells,
      fun hbetween => ⟨hsearched, hbetween ▸ hspells⟩⟩

theorem exists_pattern_with_slash :
    ∃ searched, readLexeme '/' ['a', '\\', '/', 'b', '/'] = .ok (.regexp "a/b", 6, []) ∧
      Pattern.Engine.ofExpressions.compile "a/b" = .ok searched := by
  have hread : readLexeme '/' ['a', '\\', '/', 'b', '/'] = .ok (.regexp "a/b", 6, []) := rfl
  have hsome : (Pattern.Expression.ofSource? "a/b").isSome = true := by decide +kernel
  obtain ⟨expression, hexpression⟩ := Option.isSome_iff_exists.mp hsome
  refine ⟨expression.pattern "a/b", hread, ?_⟩
  simp only [Pattern.Engine.ofExpressions, hexpression]

/-- A slash is not printed as it is written. -/
theorem printed_pattern_denotes_itself_without_slashes_unlike_one_with :
    ∃ (engine : Pattern.Engine) (searched : Pattern) (width : Nat),
      readLexeme '/' ['a', '\\', '/', 'b', '/'] = .ok (.regexp "a/b", width, []) ∧
        engine.compile "a/b" = .ok searched ∧ (Term.pattern searched).text = "/a/b/" ∧
        ∀ resolve, parseSpec engine resolve "/a\\/b/" = .ok (.pattern searched) ∧
          parseSpec engine resolve "/a/b/" ≠ .ok (.pattern searched) := by
  obtain ⟨searched, hread, hsearched⟩ := exists_pattern_with_slash
  obtain ⟨hsource, -, hprinted, literal, hchars, hbetween, -⟩ :=
    printed_pattern_denotes_itself_without_slashes hread hsearched
  have hliteral : ['a', '\\', '/', 'b'] = literal := List.append_cancel_right hchars
  have htext : (Term.pattern searched).text = "/a/b/" := by
    rw [Term.text, hsource]
    rfl
  refine ⟨_, searched, _, hread, hsearched, htext, fun resolve => ⟨?_, fun hagain => ?_⟩⟩
  · exact (hbetween resolve "a\\/b").mpr hliteral
  · rw [← htext] at hagain
    have hslash := ((hprinted _ List.mem_cons_self resolve searched).mp hagain).2
    exact hslash (by decide)

/-- A pattern may be printed as a text that denotes no pattern. -/
theorem printed_pattern_may_denote_no_pattern :
    ¬ ∀ (chars rest : List Char) (source : String) (width : Nat) (searched : Pattern),
      readLexeme '/' chars = .ok (.regexp source, width, rest) →
      Pattern.Engine.ofExpressions.compile source = .ok searched →
      ∀ resolve, ∃ other,
        parseSpec .ofExpressions resolve (Term.pattern searched).text = .ok (.pattern other) ∧
          other.source = source := by
  intro h
  obtain ⟨searched, hread, hsearched⟩ := exists_pattern_with_slash
  obtain ⟨other, hparse, -⟩ := h _ _ _ _ searched hread hsearched fun _ => none
  -- the slash in the source would have to be escaped in what is printed
  have hspells := ((parseSpec_pattern_iff _ _ searched.source other).mp hparse).2
  have hspelled : SpellsPattern ['a', '\\', '/', 'b'] searched.source.toList := by
    rw [Pattern.Engine.source_of_compile _ hsearched]
    exact .plain (by decide) (by decide) (.slash (.plain (by decide) (by decide) .nil))
  have hslash := hspelled.slash_not_mem hspells
  rw [Pattern.Engine.source_of_compile _ hsearched] at hslash
  exact hslash (by decide)

end CallContract
