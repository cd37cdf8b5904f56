import CallContract.Pattern.ExpressionEngine
import CallContract.Proofs.TokenPlaces

/-!
# Where faults are noticed

A reader takes tokens from the front and never the end of the source, so there is
always a token to point at, and a fault is noticed at one of the tokens that were
to be read.  Every item takes a token, so the loop over the items of a bracket ends
before the steps that are counted for it are used up.  Faults of cutting and
of reading therefore point at a lexeme, or at the end of the source.
-/

namespace CallContract.Notation

variable {α β γ : Type}

section Reading

variable {tokens rest more : Tokens}

/-! ### Tokens that are left -/

/-- A reader leaves a rest of the tokens, with the end of the source in it. -/
structure Leaves (tokens rest : Tokens) : Prop where
  suffix : rest <:+ tokens
  ends : EndsInput rest

/-- What is left is less than there was. -/
structure LeavesLess (tokens rest : Tokens) : Prop extends Leaves tokens rest where
  shorter : rest.length < tokens.length

theorem Leaves.refl (h : EndsInput tokens) : Leaves tokens tokens :=
  ⟨List.suffix_refl tokens, h⟩

theorem Leaves.trans (h : Leaves tokens rest) (hmore : Leaves rest more) : Leaves tokens more :=
  ⟨hmore.suffix.trans h.suffix, hmore.ends⟩

theorem Leaves.less (h : Leaves tokens rest) (hmore : LeavesLess rest more) :
    LeavesLess tokens more :=
  ⟨h.trans hmore.toLeaves, Nat.lt_of_lt_of_le hmore.shorter h.suffix.length_le⟩

theorem EndsInput.exists_cons (h : EndsInput tokens) :
    ∃ first others, tokens = first :: others := by
  cases h with
  | last offset => exact ⟨(offset, .finish), [], rfl⟩
  | before first h => exact ⟨first, _, rfl⟩

theorem EndsInput.length_pos (h : EndsInput tokens) : 0 < tokens.length := by
  obtain ⟨first, others, rfl⟩ := h.exists_cons
  exact Nat.succ_pos _

/-- Behind a token that is not the end of the source, the end is still to come. -/
theorem EndsInput.leavesLess
    {placed : Placed} (h : EndsInput (placed :: rest)) (hnot : placed.2 ≠ .finish) :
    LeavesLess (placed :: rest) rest := by
  cases h with
  | last => exact absurd rfl hnot
  | before placed h => exact ⟨⟨List.suffix_cons placed rest, h⟩, Nat.lt_succ_self _⟩

theorem LeavesLess.before (h : LeavesLess tokens rest) (hmore : Leaves rest more) :
    LeavesLess tokens more :=
  ⟨h.toLeaves.trans hmore, Nat.lt_of_le_of_lt hmore.suffix.length_le h.shorter⟩

theorem leavesLess_of_eat?
    {wanted : Token} (hends : EndsInput tokens) (hwanted : wanted ≠ .finish)
    (h : eat? wanted tokens = some rest) : LeavesLess tokens rest := by
  obtain ⟨place, rfl⟩ := eat?_eq_some_iff.mp h
  exact hends.leavesLess hwanted

theorem LeavesLess.eat
    {wanted : Token} (h : LeavesLess tokens rest) (hwanted : wanted ≠ .finish)
    (hmore : eat? wanted rest = some more) : LeavesLess tokens more :=
  h.before (leavesLess_of_eat? h.ends hwanted hmore).toLeaves

theorem leaves_readBound (hends : EndsInput tokens) : Leaves tokens (readBound tokens).2 := by
  unfold readBound
  split
  next => exact .refl hends
  next offset token rest =>
    split
    next hbound =>
      refine (hends.leavesLess ?_).toLeaves
      rintro rfl
      cases hbound
    next => exact .refl hends

theorem LeavesLess.readInterval
    (start : Value) (literal : Term) (h : LeavesLess tokens rest) :
    LeavesLess tokens (readInterval start literal rest).2 := by
  unfold Notation.readInterval
  split
  next excludesStop behind =>
    have hbehind := (h.ends.leavesLess (by simp)).toLeaves
    exact h.before (hbehind.trans (leaves_readBound hbehind.ends))
  next => exact h

/-! ### Results and faults -/

/-- A result has a property, or the fault was noticed at one of the tokens. -/
def EndsWithin (tokens : Tokens) (property : α → Prop) : Except Error α → Prop
  | .ok result => property result
  | .error error => ∃ token, (error.offset, token) ∈ tokens

theorem EndsWithin.bind
    {first : Except Error α} {next : α → Except Error β} {property : α → Prop}
    {after : β → Prop} (hfirst : EndsWithin tokens property first)
    (hnext : ∀ result, property result → EndsWithin tokens after (next result)) :
    EndsWithin tokens after (first >>= next) := by
  cases first with
  | ok result => exact hnext result hfirst
  | error => exact hfirst

theorem EndsWithin.before
    {result : Except Error α} {property after : α → Prop} (h : EndsWithin rest property result)
    (hrest : rest <:+ tokens) (hafter : ∀ value, property value → after value) :
    EndsWithin tokens after result := by
  cases result with
  | ok value => exact hafter value h
  | error error =>
      obtain ⟨token, hmem⟩ := h
      exact ⟨token, hrest.mem hmem⟩

theorem failAt_endsWithin
    {property : α → Prop} (h : Leaves tokens rest) (fault : Token → Fault) :
    EndsWithin tokens property (failAt rest fault) := by
  obtain ⟨first, others, rfl⟩ := h.ends.exists_cons
  exact ⟨first.2, h.suffix.mem List.mem_cons_self⟩

theorem expect_endsWithin
    {wanted : Token} (h : Leaves tokens rest) (hwanted : wanted ≠ .finish) :
    EndsWithin tokens (LeavesLess tokens) (expect wanted rest) := by
  unfold expect
  split
  next heat => exact h.less (leavesLess_of_eat? h.ends hwanted heat)
  next => exact failAt_endsWithin h _

theorem finishAt_endsWithin
    (h : Leaves tokens rest) : EndsWithin tokens (fun _ => True) (finishAt rest) := by
  have hfailed : EndsWithin tokens (fun _ : Unit => True) (failAt rest (.expected .finish)) :=
    failAt_endsWithin h _
  unfold finishAt expect
  split
  next => trivial
  next => exact hfailed

theorem readName?_endsWithin
    {resolve : Resolver} {words : List (String × α)} {ofScope : ScopeId → α} {offset : Nat}
    {name : String} {token : Token} (hmem : (offset, token) ∈ tokens) :
    EndsWithin tokens (fun _ => True) (readName? resolve words ofScope offset name) := by
  unfold readName?
  split
  · trivial
  · split
    · split
      · trivial
      · exact ⟨token, hmem⟩
    · exact ⟨token, hmem⟩

/-! ### Readers -/

/-- On tokens that end with the end of the source, the reader takes at least one
of them, or notices a fault at one of them. -/
def Advances (reader : Reader α) : Prop :=
  ∀ tokens, EndsInput tokens →
    EndsWithin tokens (fun read => LeavesLess tokens read.2) (reader tokens)

variable {reader item : Reader α} {close : Token}

theorem Advances.behind
    (h : Advances reader) (hrest : Leaves tokens rest) :
    EndsWithin tokens (fun read => LeavesLess tokens read.2) (reader rest) :=
  (h rest hrest.ends).before hrest.suffix fun _ hless => hrest.less hless

theorem Advances.readItems
    (hitem : Advances item) (hclose : close ≠ .finish) (steps : Nat) :
    Advances (readItems item close steps) := by
  induction steps with
  | zero =>
      intro tokens hends
      exact (expect_endsWithin (.refl hends) hclose).bind fun rest hrest => hrest
  | succ steps ih =>
      intro tokens hends
      rw [Notation.readItems]
      split
      next heat => exact leavesLess_of_eat? hends hclose heat
      next =>
        refine (hitem tokens hends).bind ?_
        rintro ⟨value, rest⟩ hrest
        dsimp only
        split
        next heat =>
          have hbehind := hrest.eat (by simp) heat
          exact (ih.behind hbehind.toLeaves).bind fun read hread => hread
        next => exact (expect_endsWithin hrest.toLeaves hclose).bind fun after hafter => hafter

/-- What is inside a bracket is read on, and the bracket is pointed at if no level is left. -/
theorem readNested_endsWithin
    {inner : Option (Reader α)} {entry : Reader α → Reader β}
    (hinner : ∀ reader ∈ inner, Advances reader)
    (hentry : ∀ {reader}, Advances reader → Advances (entry reader)) (hclose : close ≠ .finish)
    {placed : Placed} (hends : EndsInput (placed :: rest)) (hopening : placed.2 ≠ .finish)
    (wrap : List β → γ) :
    EndsWithin (placed :: rest) (fun read => LeavesLess (placed :: rest) read.2) (do
      let (items, rest) ← readNested inner entry placed.1 close rest
      pure (wrap items, rest)) := by
  unfold readNested
  split
  next => exact ⟨placed.2, List.mem_cons_self⟩
  next reader =>
    have hitems := (hentry (hinner reader rfl)).readItems hclose rest.length
    have hrest := (hends.leavesLess hopening).toLeaves
    exact (hitems.behind hrest).bind fun read hread => hread

/-- A key and a value with an arrow between them. -/
theorem Advances.keyed
    (h : Advances reader) (combine : α → α → β) (hends : EndsInput tokens) :
    EndsWithin tokens (fun read => LeavesLess tokens read.2) (do
      let (key, rest) ← reader tokens
      let rest ← expect .arrow rest
      let (value, rest) ← reader rest
      pure (combine key value, rest)) := by
  refine (h tokens hends).bind ?_
  rintro ⟨key, rest⟩ hrest
  refine (expect_endsWithin hrest.toLeaves (by simp)).bind fun after hafter => ?_
  exact (h.behind hafter.toLeaves).bind fun read hread => hread

theorem Advances.readEntry
    {reader : Reader Term} (h : Advances reader) : Advances (readEntry reader) := by
  intro tokens hends
  unfold Notation.readEntry
  split
  next => exact (h.behind (hends.leavesLess (by simp)).toLeaves).bind fun read hread => hread
  next => exact h.keyed (fun key term => (keyOf key, term)) hends

theorem Advances.readPair
    {reader : Reader Value} (h : Advances reader) : Advances (readPair reader) := by
  intro tokens hends
  unfold Notation.readPair
  split
  next => exact (h.behind (hends.leavesLess (by simp)).toLeaves).bind fun read hread => hread
  next => exact h.keyed _ hends

variable {engine : Pattern.Engine} {resolve : Resolver}

theorem readIntervalWithoutStart_endsWithin
    (excludesStop : Bool) (h : LeavesLess tokens rest) :
    EndsWithin tokens (fun read => LeavesLess tokens read.2)
      (readIntervalWithoutStart excludesStop rest) := by
  have hbound := leaves_readBound h.ends
  unfold readIntervalWithoutStart
  split
  next hread =>
    rw [hread] at hbound
    exact h.before hbound
  next hread =>
    rw [hread] at hbound
    exact failAt_endsWithin (h.toLeaves.trans hbound) _

/-- A reader goes on behind the token that it starts with, or notices a fault there. -/
theorem Advances.readTermUsing
    {inner : Option (Reader Term)} (hinner : ∀ reader ∈ inner, Advances reader) :
    Advances (readTermUsing engine resolve inner) := by
  intro tokens hends
  unfold Notation.readTermUsing
  split
  next => exact failAt_endsWithin (.refl hends) _
  next offset token rest =>
    have hmem : (offset, token) ∈ (offset, token) :: rest := List.mem_cons_self
    split
    -- brackets and braces
    next => exact readNested_endsWithin hinner (fun h => h) (by simp) hends (by simp) Term.list
    next => exact readNested_endsWithin hinner readEntry (by simp) hends (by simp) Term.map
    -- a symbol and a pattern
    next => exact hends.leavesLess (by simp)
    next =>
      split
      next => exact hends.leavesLess (by simp)
      next => exact ⟨_, hmem⟩
    -- intervals, and literals that may start one
    next => exact readIntervalWithoutStart_endsWithin _ (hends.leavesLess (by simp))
    next => exact (hends.leavesLess (by simp)).readInterval _ _
    next => exact (hends.leavesLess (by simp)).readInterval _ _
    next => exact (hends.leavesLess (by simp)).readInterval _ _
    -- a name, and what starts no term
    next => exact (readName?_endsWithin hmem).bind fun _ _ => hends.leavesLess (by simp)
    next => exact ⟨_, hmem⟩

theorem Advances.readValueUsing
    {inner : Option (Reader Value)} (hinner : ∀ reader ∈ inner, Advances reader) :
    Advances (readValueUsing resolve inner) := by
  intro tokens hends
  unfold Notation.readValueUsing
  split
  next => exact failAt_endsWithin (.refl hends) _
  next offset token rest =>
    have hmem : (offset, token) ∈ (offset, token) :: rest := List.mem_cons_self
    split
    -- brackets and braces
    next => exact readNested_endsWithin hinner (fun h => h) (by simp) hends (by simp) Value.array
    next => exact readNested_endsWithin hinner readPair (by simp) hends (by simp) Value.hash
    -- literals
    next => exact hends.leavesLess (by simp)
    next => exact hends.leavesLess (by simp)
    next => exact hends.leavesLess (by simp)
    next => exact hends.leavesLess (by simp)
    -- a name, and what starts no value
    next => exact (readName?_endsWithin hmem).bind fun _ _ => hends.leavesLess (by simp)
    next => exact ⟨_, hmem⟩

theorem advances_readTerm (levels : Nat) : Advances (readTerm engine resolve levels) := by
  induction levels with
  | zero => exact Advances.readTermUsing nofun
  | succ levels ih =>
      refine Advances.readTermUsing ?_
      rintro _ ⟨⟩
      exact ih

theorem advances_readValue (levels : Nat) : Advances (readValue resolve levels) := by
  induction levels with
  | zero => exact Advances.readValueUsing nofun
  | succ levels ih =>
      refine Advances.readValueUsing ?_
      rintro _ ⟨⟩
      exact ih

theorem readSpec_endsWithin (hends : EndsInput tokens) :
    EndsWithin tokens (fun _ => True) (readSpec engine resolve tokens) := by
  refine (advances_readTerm maxNesting tokens hends).bind ?_
  rintro ⟨first, rest⟩ hrest
  dsimp only
  split
  next heat =>
    have hbehind := hrest.eat (by simp) heat
    refine ((advances_readTerm maxNesting).behind hbehind.toLeaves).bind fun read hread => ?_
    exact (finishAt_endsWithin hread.toLeaves).bind fun _ _ => trivial
  next => exact (finishAt_endsWithin hrest.toLeaves).bind fun _ _ => trivial

theorem readWholeValue_endsWithin (hends : EndsInput tokens) :
    EndsWithin tokens (fun _ => True) (do
      let (value, rest) ← readValue resolve maxNesting tokens
      finishAt rest
      pure value) := by
  refine (advances_readValue maxNesting tokens hends).bind fun read hread => ?_
  exact (finishAt_endsWithin hread.toLeaves).bind fun _ _ => trivial

/-! ### Items without counting steps -/

/-- What the loop over the items of a bracket comes to, however often it is gone through. -/
inductive Collects (item : Reader α) (close : Token) :
    Tokens → Except Error (List α × Tokens) → Prop
  | closed {tokens rest : Tokens} (hclose : eat? close tokens = some rest) :
      Collects item close tokens (.ok ([], rest))
  | refused {tokens : Tokens} {error : Error} (hopen : eat? close tokens = none)
      (hitem : item tokens = .error error) : Collects item close tokens (.error error)
  | last {tokens rest : Tokens} {value : α} (hopen : eat? close tokens = none)
      (hitem : item tokens = .ok (value, rest)) (hcomma : eat? .comma rest = none) :
      Collects item close tokens ((expect close rest).map ([value], ·))
  | more {tokens rest behind : Tokens} {value : α} {result : Except Error (List α × Tokens)}
      (hopen : eat? close tokens = none) (hitem : item tokens = .ok (value, rest))
      (hcomma : eat? .comma rest = some behind) (h : Collects item close behind result) :
      Collects item close tokens (result.map fun read => (value :: read.1, read.2))

/-- Every item takes a token, so the steps suffice to come to the closing token. -/
theorem Advances.collects
    (hitem : Advances item) {steps : Nat} (hends : EndsInput tokens)
    (hsteps : tokens.length ≤ steps) :
    Collects item close tokens (Notation.readItems item close steps tokens) := by
  induction steps generalizing tokens with
  | zero =>
      have hpos := hends.length_pos
      omega
  | succ steps ih =>
      have hread := hitem tokens hends
      rw [Notation.readItems]
      split
      next heat => exact .closed heat
      next hopen =>
        cases hfound : item tokens with
        | error error => exact .refused hopen hfound
        | ok read =>
            rw [hfound] at hread
            dsimp only [bind, Except.bind]
            split
            next behind hcomma =>
              have hbehind := hread.eat (by simp) hcomma
              have hleft := Nat.le_of_lt_succ (Nat.lt_of_lt_of_le hbehind.shorter hsteps)
              exact .more hopen hfound hcomma (ih hbehind.ends hleft)
            next hcomma => exact .last hopen hfound hcomma

/-- Reading what is inside brackets and braces comes to what the loops come to.  How
deeply they are nested is limited by the levels, so there is nothing else to count. -/
def LoopsEnd (reader : Reader α) (entry : Reader α → Reader β) : Prop :=
  ∀ tokens offset, EndsInput tokens →
    Collects reader .closeBracket tokens
        (readNested (some reader) id offset .closeBracket tokens) ∧
      Collects (entry reader) .closeBrace tokens
        (readNested (some reader) entry offset .closeBrace tokens)

theorem Advances.loopsEnd
    {entry : Reader α → Reader β} (h : Advances reader) (hentry : Advances (entry reader)) :
    LoopsEnd reader entry := fun _ _ hends =>
  ⟨h.collects hends (Nat.le_refl _), hentry.collects hends (Nat.le_refl _)⟩

end Reading

/-! ### Faults of a source -/

/-- A token starts at the offset, or a lexeme that cannot be read, or the source
ends there. -/
inductive PointsAt (source : String) (offset : Nat) : Prop
  | token {placed : Tokens} {c : Char} {rest more : List Char} {token : Token} {width : Nat}
      (htokens : tokens source = .ok placed) (hmem : (offset, token) ∈ placed)
      (hstart : StartsLexeme source.toList offset c rest)
      (hread : readLexeme c rest = .ok (token, width, more))
  | refused {c : Char} {rest : List Char} {fault : Fault}
      (htokens : tokens source = .error ⟨offset, fault⟩)
      (hstart : StartsLexeme source.toList offset c rest)
      (hread : readLexeme c rest = .error fault)
  | finish (hend : offset = source.utf8ByteSize)

variable {source : String} {offset : Nat}

theorem PointsAt.exists_startsAt
    (h : PointsAt source offset) : ∃ rest, StartsAt source.toList offset rest := by
  cases h with
  | token _ _ hstart => exact ⟨_, hstart.start⟩
  | refused _ hstart => exact ⟨_, hstart.start⟩
  | finish hend => exact ⟨[], hend ▸ startsAt_end source⟩

/-- A fault is one of cutting the source, or was noticed at one of its tokens. -/
theorem pointsAt_of_fault
    {read : Tokens → Except Error α} {error : Error}
    (hread : ∀ {placed}, EndsInput placed → EndsWithin placed (fun _ => True) (read placed))
    (h : (tokens source >>= read) = .error error) : PointsAt source error.offset := by
  have hscanned := isScanned_tokens source
  cases htokens : tokens source with
  | error fault =>
      rw [htokens] at h hscanned
      cases h
      obtain ⟨c, rest, hstart, hrefused⟩ := hscanned
      exact .refused htokens hstart hrefused
  | ok placed =>
      have hwithin := hread ((scans_tokens source).endsInput htokens)
      rw [htokens] at h hscanned
      change read placed = .error error at h
      rw [h] at hwithin
      obtain ⟨token, hmem⟩ := hwithin
      -- only the end of the source is placed where no lexeme starts
      rcases hscanned _ hmem with ⟨-, hend⟩ | ⟨c, rest, width, more, hstart, hlexeme⟩
      · exact .finish (hend.unique (startsAt_end source))
      · exact .token htokens hmem hstart hlexeme

/-- Cutting a source and reading its tokens come to an end, the tokens are placed one
behind the other, and a fault is reported where a character or the end of the source
stands: at the start of a token, or of the lexeme that cannot be read, or at the end. -/
theorem faults_point_at_lexemes
    (engine : Pattern.Engine) (resolve : Resolver) (source : String) :
    Scans 0 source.toList (tokens source) ∧
      (∀ levels, LoopsEnd (readTerm engine resolve levels) readEntry ∧
        LoopsEnd (readValue resolve levels) readPair) ∧
      (∀ placed, tokens source = .ok placed →
        EndsInput placed ∧ (placed.map Prod.fst).Pairwise (· < ·)) ∧
      ∀ error, parseSpec engine resolve source = .error error ∨
          parseValue resolve source = .error error →
        error.offset ≤ source.utf8ByteSize ∧
          (⟨error.offset⟩ : String.Pos.Raw).IsValid source ∧ PointsAt source error.offset := by
  refine ⟨scans_tokens source, fun levels => ⟨?_, ?_⟩, fun placed hplaced => ?_,
    fun error herror => ?_⟩
  · exact (advances_readTerm levels).loopsEnd (advances_readTerm levels).readEntry
  · exact (advances_readValue levels).loopsEnd (advances_readValue levels).readPair
  · exact ⟨(scans_tokens source).endsInput hplaced, places_increase hplaced⟩
  · have hpoints : PointsAt source error.offset := by
      rcases herror with hspec | hvalue
      · exact pointsAt_of_fault readSpec_endsWithin hspec
      · exact pointsAt_of_fault readWholeValue_endsWithin hvalue
    obtain ⟨rest, hstart⟩ := hpoints.exists_startsAt
    exact ⟨hstart.isValid.le_utf8ByteSize, hstart.isValid, hpoints⟩

/-- A text without an end, an arrow and the end of a source, behind characters of two and
three bytes. -/
theorem faults_point_at_lexemes_behind_wide_characters :
    ∃ (engine : Pattern.Engine) (resolve : Resolver),
      (parseSpec engine resolve "\"é\" \"ü" = .error ⟨5, .unterminatedString⟩ ∧
        PointsAt "\"é\" \"ü" 5) ∧
      (parseValue resolve "[\"é\" => 1]" = .error ⟨6, .expected .closeBracket .arrow⟩ ∧
        PointsAt "[\"é\" => 1]" 6) ∧
      parseSpec engine resolve "\u3000[1, \"é\"" =
          .error ⟨11, .expected .closeBracket .finish⟩ ∧
        PointsAt "\u3000[1, \"é\"" 11 := by
  have hlexeme : parseSpec .ofExpressions (fun _ => none) "\"é\" \"ü" =
      .error ⟨5, .unterminatedString⟩ := by cbv
  have hvalue : parseValue (fun _ => none) "[\"é\" => 1]" =
      .error ⟨6, .expected .closeBracket .arrow⟩ := by cbv
  have hend : parseSpec .ofExpressions (fun _ => none) "\u3000[1, \"é\"" =
      .error ⟨11, .expected .closeBracket .finish⟩ := by cbv
  exact ⟨.ofExpressions, fun _ => none,
    ⟨hlexeme, ((faults_point_at_lexemes _ _ _).2.2.2 _ (.inl hlexeme)).2.2⟩,
    ⟨hvalue, ((faults_point_at_lexemes .ofExpressions _ _).2.2.2 _ (.inr hvalue)).2.2⟩,
    hend, ((faults_point_at_lexemes _ _ _).2.2.2 _ (.inl hend)).2.2⟩

end CallContract.Notation
