import CallContract.Proofs.EmbeddedSources

/-!
# Where tokens stand

A token is placed at the byte where its lexeme starts, and a lexeme is as wide
as its characters are together, however many bytes each of them has.  So every
place is the start of a character, and the places of the tokens increase.  A
lexeme takes at least one character, so cutting a source ends with its last one,
and the steps that are counted are never used up before.
-/

namespace CallContract.Notation

variable {c : Char} {chars source rest more : List Char} {offset width : Nat} {token : Token}

/-! ### Places -/

/-- The rest of a source starts at an offset, counted in bytes. -/
def StartsAt (source : List Char) (offset : Nat) (rest : List Char) : Prop :=
  ∃ before : String, source = before.toList ++ rest ∧ before.utf8ByteSize = offset

theorem StartsAt.here (rest : List Char) : StartsAt rest 0 rest :=
  ⟨"", rfl, rfl⟩

theorem startsAt_behind (c : Char) (rest : List Char) : StartsAt (c :: rest) c.utf8Size rest :=
  ⟨String.singleton c, by rw [String.toList_singleton]; rfl, String.utf8ByteSize_singleton⟩

theorem startsAt_end (source : String) : StartsAt source.toList source.utf8ByteSize [] :=
  ⟨source, (List.append_nil _).symm, rfl⟩

theorem StartsAt.trans
    (h : StartsAt source offset rest) (hmore : StartsAt rest width more) :
    StartsAt source (offset + width) more := by
  obtain ⟨before, rfl, rfl⟩ := h
  obtain ⟨between, rfl, rfl⟩ := hmore
  refine ⟨before ++ between, ?_, String.utf8ByteSize_append⟩
  rw [String.toList_append, List.append_assoc]

theorem StartsAt.cons
    (h : StartsAt chars width rest) (c : Char) : StartsAt (c :: chars) (c.utf8Size + width) rest :=
  (startsAt_behind c chars).trans h

theorem StartsAt.unique
    {other : Nat} (h : StartsAt source offset rest) (hother : StartsAt source other rest) :
    offset = other := by
  obtain ⟨before, rfl, rfl⟩ := h
  obtain ⟨again, hsame, rfl⟩ := hother
  rw [String.toList_inj.mp (List.append_cancel_right hsame)]

/-- What starts behind a character starts at a later offset. -/
theorem StartsAt.pos
    (h : StartsAt (c :: chars) width rest) (hrest : rest <:+ chars) : 0 < width := by
  obtain ⟨before, hsource, rfl⟩ := h
  refine Nat.pos_of_ne_zero fun hzero => ?_
  rw [String.utf8ByteSize_eq_zero_iff.mp hzero] at hsource
  have hlonger := congrArg List.length hsource
  have hshorter := hrest.length_le
  simp only [String.toList_empty, List.nil_append, List.length_cons] at hlonger
  omega

theorem StartsAt.isValid
    {source : String} (h : StartsAt source.toList offset rest) :
    (⟨offset⟩ : String.Pos.Raw).IsValid source := by
  obtain ⟨before, hsource, rfl⟩ := h
  refine String.Pos.Raw.isValid_iff_exists_append.mpr ⟨before, String.ofList rest, ?_, rfl⟩
  rw [← String.toList_inj, String.toList_append, String.toList_ofList, hsource]

/-! ### Lexemes of ASCII -/

theorem utf8Size_of_ascii (h : c.toNat ≤ 0x7F) : c.utf8Size = 1 :=
  Char.utf8Size_eq_one_iff.mpr (UInt32.le_iff_toNat_le.mpr h)

theorem isDigitOrGap_ascii (h : isDigitOrGap c = true) : c.toNat ≤ 0x7F := by
  rcases Bool.or_eq_true_iff.mp h with hdigit | hgap
  · have hbounds := isDigit_iff.mp hdigit
    omega
  · obtain rfl := beq_iff_eq.mp hgap
    decide

theorem isNameChar_ascii (h : isNameChar c = true) : c.toNat ≤ 0x7F := by
  rcases isDigit_or_isNameStart_of_isNameChar h with hdigit | hstart
  · have hbounds := isDigit_iff.mp hdigit
    omega
  · have hbounds := isNameStart_bounds hstart
    omega

/-- A run of ASCII is as wide as it is long. -/
theorem startsAt_dropWhile
    {kind : Char → Bool} (hascii : ∀ {c}, kind c = true → c.toNat ≤ 0x7F) (chars : List Char) :
    StartsAt chars (chars.takeWhile kind).length (chars.dropWhile kind) := by
  induction chars with
  | nil => exact .here []
  | cons c chars ih =>
      rw [List.takeWhile_cons, List.dropWhile_cons]
      split
      next hkind =>
        have hbehind := ih.cons c
        rwa [utf8Size_of_ascii (hascii hkind), Nat.add_comm] at hbehind
      next => exact .here _

theorem startsAt_nameMark (chars : List Char) :
    StartsAt chars (nameMark chars).length (chars.drop (nameMark chars).length) := by
  cases chars with
  | nil => exact .here []
  | cons c chars =>
      rw [nameMark_cons]
      split
      next hmark =>
        have hascii : c.toNat ≤ 0x7F := by
          rcases hmark with rfl | rfl | ⟨rfl, -⟩ <;> decide
        have hbehind := startsAt_behind c chars
        rwa [utf8Size_of_ascii hascii] at hbehind
      next => exact .here _

theorem startsAt_readName (chars : List Char) :
    StartsAt chars (readName chars).1.length (readName chars).2 := by
  have hstem := startsAt_dropWhile isNameChar_ascii chars
  unfold readName
  dsimp only
  split
  next hnone =>
    rw [hnone] at hstem
    exact hstem
  next =>
    rw [List.length_append]
    exact hstem.trans (startsAt_nameMark _)

theorem startsAt_readWord
    (h : readWord chars = (token, width, rest)) : StartsAt chars width rest := by
  have hname := startsAt_readName chars
  unfold readWord at h
  dsimp only at h
  split at h
  next hcolon =>
    cases h
    generalize (readName chars).2 = behind at hname hcolon
    cases behind with
    | nil => cases hcolon
    | cons c behind =>
        obtain ⟨rfl, -⟩ := (isLabelColon_cons_iff c behind).mp hcolon
        exact hname.trans (startsAt_behind ':' behind)
  next =>
    cases h
    exact hname

theorem startsAt_readFraction?
    {fraction behind : List Char} (h : readFraction? chars = some (fraction, behind)) :
    StartsAt chars (1 + fraction.length) behind := by
  unfold readFraction? at h
  split at h
  next others =>
    split at h <;> cases h
    exact (startsAt_dropWhile isDigitOrGap_ascii others).cons '.'
  next => cases h

theorem startsAt_readNumber
    {negative : Bool} (h : readNumber negative chars = .ok (token, width, rest)) :
    StartsAt chars width rest := by
  have hwhole := startsAt_dropWhile isDigitOrGap_ascii chars
  unfold readNumber at h
  dsimp only at h
  split at h
  next hfraction =>
    cases h
    rw [Nat.add_assoc]
    exact hwhole.trans (startsAt_readFraction? hfraction)
  next =>
    obtain ⟨found, -, hall⟩ := bind_eq_ok_iff.mp h
    cases hall
    exact hwhole

/-! ### Lexemes of any characters -/

theorem startsAt_readString
    {content : List Char} (h : readString chars = some (content, width, rest)) :
    StartsAt chars width rest := by
  fun_induction readString chars generalizing content width rest with
  | case1 => cases h
  | case2 =>
      cases h
      exact startsAt_behind '"' _
  | case3 c _ _ _ _ hread ih =>
      cases h
      rw [Nat.add_assoc]
      exact ((ih hread).cons c).cons '\\'
  | case4 => cases h
  | case5 => cases h
  | case6 c _ _ _ _ _ _ _ hread ih =>
      cases h
      exact (ih hread).cons c
  | case7 => cases h

theorem startsAt_readRegexp
    {content : List Char} (h : readRegexp chars = some (content, width, rest)) :
    StartsAt chars width rest := by
  fun_induction readRegexp chars generalizing content width rest with
  | case1 => cases h
  | case2 =>
      cases h
      exact startsAt_behind '/' _
  | case3 c _ _ _ _ hread ih =>
      cases h
      rw [Nat.add_assoc]
      exact ((ih hread).cons c).cons '\\'
  | case4 => cases h
  | case5 => cases h
  | case6 c _ _ _ _ _ _ _ hread ih =>
      cases h
      exact (ih hread).cons c
  | case7 => cases h

/-- The width of a lexeme leads to what stands behind it. -/
theorem startsAt_readLexeme
    (h : readLexeme c chars = .ok (token, width, rest)) : StartsAt (c :: chars) width rest := by
  unfold readLexeme at h
  split at h
  -- an arrow and dots
  case h_6 =>
    cases h
    exact (startsAt_behind '>' rest).cons '='
  case h_7 =>
    cases h
    exact ((startsAt_behind '.' rest).cons '.').cons '.'
  case h_8 =>
    cases h
    exact (startsAt_behind '.' rest).cons '.'
  -- a symbol
  case h_9 =>
    dsimp only at h
    split at h <;> cases h
    exact (startsAt_readName chars).cons ':'
  -- a text and a pattern
  case h_10 =>
    split at h <;> cases h
    next hread => exact (startsAt_readString hread).cons '"'
  case h_11 =>
    split at h <;> cases h
    next hread => exact (startsAt_readRegexp hread).cons '/'
  -- a number without a sign, one with a sign, and a word
  case h_12 =>
    split at h
    next => exact startsAt_readNumber h
    next =>
      split at h
      next hminus =>
        obtain ⟨rfl, -⟩ := hminus
        obtain ⟨⟨found, size, after⟩, hread, hall⟩ := bind_eq_ok_iff.mp h
        cases hall
        exact (startsAt_readNumber hread).cons '-'
      next =>
        split at h
        next => exact startsAt_readWord (Except.ok.inj h)
        next => cases h
  all_goals
    cases h
    exact startsAt_behind _ _

theorem width_pos_of_readLexeme
    (h : readLexeme c chars = .ok (token, width, rest)) : 0 < width :=
  (startsAt_readLexeme h).pos (readLexeme_takes h).1

/-! ### Cutting without counting steps -/

/-- What cutting a source comes to from an offset on, however many steps it takes. -/
inductive Scans : Nat → List Char → Except Error Tokens → Prop
  | finish (offset : Nat) : Scans offset [] (.ok [(offset, .finish)])
  | blank {offset : Nat} {c : Char} {rest : List Char} {result : Except Error Tokens}
      (hblank : Text.isBlank c = true) (h : Scans (offset + c.utf8Size) rest result) :
      Scans offset (c :: rest) result
  | refused {offset : Nat} {c : Char} {rest : List Char} {fault : Fault}
      (hsolid : Text.isBlank c = false) (hread : readLexeme c rest = .error fault) :
      Scans offset (c :: rest) (.error ⟨offset, fault⟩)
  | lexeme {offset width : Nat} {c : Char} {rest more : List Char} {token : Token}
      {result : Except Error Tokens} (hsolid : Text.isBlank c = false)
      (hread : readLexeme c rest = .ok (token, width, more))
      (h : Scans (offset + width) more result) :
      Scans offset (c :: rest) (result.map ((offset, token) :: ·))

/-- Every step takes a character, so the steps suffice to come to the end. -/
theorem scans_tokensFrom
    {steps : Nat} (hsteps : chars.length ≤ steps) (offset : Nat) :
    Scans offset chars (tokensFrom steps offset chars) := by
  induction steps generalizing offset chars with
  | zero =>
      obtain rfl := List.length_eq_zero_iff.mp (Nat.le_zero.mp hsteps)
      exact .finish offset
  | succ steps ih =>
      cases chars with
      | nil => exact .finish offset
      | cons c chars =>
          have hleft : chars.length ≤ steps := Nat.le_of_succ_le_succ hsteps
          rw [tokensFrom]
          split
          next hblank => exact .blank hblank (ih hleft _)
          next hsolid =>
            have hsolid := Bool.eq_false_iff.mpr hsolid
            split
            next hread => exact .refused hsolid hread
            next hread =>
              have hshorter := (readLexeme_takes hread).1.length_le
              exact .lexeme hsolid hread (ih (hshorter.trans hleft) _)

theorem scans_tokens (source : String) : Scans 0 source.toList (tokens source) :=
  scans_tokensFrom (Nat.le_refl _) 0

/-! ### Tokens and faults -/

/-- A lexeme starts at an offset of a source, behind some tokens. -/
structure StartsLexeme (source : List Char) (offset : Nat) (c : Char) (rest : List Char) :
    Prop where
  start : StartsAt source offset (c :: rest)
  cut : ∃ before, Cuts source before (c :: rest)
  solid : Text.isBlank c = false

/-- The token is that of the lexeme which starts where the token is placed, or
the end of the source where the source ends. -/
def IsPlaced (source : List Char) (placed : Placed) : Prop :=
  (placed.2 = .finish ∧ StartsAt source placed.1 []) ∨
    ∃ c rest width more, StartsLexeme source placed.1 c rest ∧
      readLexeme c rest = .ok (placed.2, width, more)

/-- The fault is that of a lexeme which starts where the fault was noticed. -/
def IsRefused (source : List Char) (error : Error) : Prop :=
  ∃ c rest, StartsLexeme source error.offset c rest ∧ readLexeme c rest = .error error.fault

def IsScanned (source : List Char) : Except Error Tokens → Prop
  | .ok placed => ∀ found ∈ placed, IsPlaced source found
  | .error error => IsRefused source error

theorem Scans.isScanned
    {before : List Token} {result : Except Error Tokens} (h : Scans offset rest result)
    (hstart : StartsAt source offset rest) (hcut : Cuts source before rest) :
    IsScanned source result := by
  induction h generalizing before with
  | finish => exact List.forall_mem_singleton.mpr (.inl ⟨rfl, hstart⟩)
  | @blank offset c rest _ hblank _ ih =>
      have hbehind := hcut.append (.blank hblank (.here rest))
      exact ih (hstart.trans (startsAt_behind c rest)) hbehind
  | refused hsolid hread => exact ⟨_, _, ⟨hstart, ⟨_, hcut⟩, hsolid⟩, hread⟩
  | @lexeme offset _ _ _ more token result hsolid hread _ ih =>
      have hshorter := (readLexeme_takes hread).1.length_le
      have hbehind := hcut.append (.lexeme hsolid hread hshorter (.here more))
      have hresult := ih (hstart.trans (startsAt_readLexeme hread)) hbehind
      cases result with
      | ok placed =>
          have hfirst : IsPlaced source (offset, token) :=
            .inr ⟨_, _, _, _, ⟨hstart, ⟨_, hcut⟩, hsolid⟩, hread⟩
          exact List.forall_mem_cons.mpr ⟨hfirst, hresult⟩
      | error => exact hresult

/-- Every token is placed where its lexeme starts, and a source that does not fall
into tokens is refused where the lexeme starts that cannot be read. -/
theorem isScanned_tokens (source : String) : IsScanned source.toList (tokens source) :=
  (scans_tokens source).isScanned (.here _) (.here _)

/-- Tokens are placed from an offset on, each of them behind the ones before it. -/
def Increase (offset : Nat) (placed : Tokens) : Prop :=
  (placed.map Prod.fst).Pairwise (· < ·) ∧ ∀ found ∈ placed, offset ≤ found.1

theorem Scans.increase
    {result : Except Error Tokens} {placed : Tokens} (h : Scans offset rest result)
    (hplaced : result = .ok placed) : Increase offset placed := by
  induction h generalizing placed with
  | finish offset =>
      cases hplaced
      exact ⟨List.pairwise_singleton _ _, List.forall_mem_singleton.mpr (Nat.le_refl _)⟩
  | blank _ _ ih =>
      obtain ⟨hincrease, hbehind⟩ := ih hplaced
      exact ⟨hincrease, fun found hfound => (Nat.le_add_right _ _).trans (hbehind found hfound)⟩
  | refused => cases hplaced
  | lexeme _ hread _ ih =>
      obtain ⟨others, hothers, rfl⟩ := map_eq_ok_iff.mp hplaced
      obtain ⟨hincrease, hbehind⟩ := ih hothers
      have hlater := fun found hfound => Nat.lt_of_lt_of_le
        (Nat.lt_add_of_pos_right (width_pos_of_readLexeme hread)) (hbehind found hfound)
      refine ⟨List.pairwise_cons.mpr ⟨List.forall_mem_map.mpr hlater, hincrease⟩, ?_⟩
      exact List.forall_mem_cons.mpr
        ⟨Nat.le_refl _, fun found hfound => Nat.le_of_lt (hlater found hfound)⟩

theorem places_increase
    {source : String} {placed : Tokens} (h : tokens source = .ok placed) :
    (placed.map Prod.fst).Pairwise (· < ·) :=
  ((scans_tokens source).increase h).1

/-- The last of the tokens is the end of the source. -/
inductive EndsInput : Tokens → Prop
  | last (offset : Nat) : EndsInput [(offset, .finish)]
  | before (first : Placed) {rest : Tokens} (h : EndsInput rest) : EndsInput (first :: rest)

theorem Scans.endsInput
    {result : Except Error Tokens} {placed : Tokens} (h : Scans offset rest result)
    (hplaced : result = .ok placed) : EndsInput placed := by
  induction h generalizing placed with
  | finish offset =>
      cases hplaced
      exact .last offset
  | blank _ _ ih => exact ih hplaced
  | refused => cases hplaced
  | lexeme _ _ _ ih =>
      obtain ⟨others, hothers, rfl⟩ := map_eq_ok_iff.mp hplaced
      exact .before _ (ih hothers)

end CallContract.Notation
