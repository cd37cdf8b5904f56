import CallContract.Notation.Reading
import CallContract.ObjectSpace.Action
import CallContract.Proofs.Lexing

/-!
# What sources can spell

Names and patterns that come from a source have a form that a source can have:
names are names of the notation, and every backslash of a pattern stands before
the character it escapes.  Terms are made of such names and patterns, and they
are nested no deeper than their brackets.
-/

namespace CallContract.Notation

/-! ### Tokens -/

def Token.IsSpelt : Token → Prop
  | .word name | .label name | .symbol name => IsName name.toList
  | .regexp source => IsEscaped source.toList
  | _ => True

variable {chars name rest : List Char} {token : Token} {width : Nat}

theorem nameMark_cases (chars : List Char) :
    nameMark chars = [] ∨ nameMark chars = ['?'] ∨ nameMark chars = ['!'] ∨
      nameMark chars = ['='] := by
  unfold nameMark
  split <;> simp

theorem isName_of_readName
    (h : readName chars = (name, rest)) (hname : name ≠ []) : IsName name := by
  unfold readName at h
  dsimp only at h
  split at h
  · cases h
    exact absurd rfl hname
  next hstem =>
    cases h
    exact ⟨_, _, rfl, hstem, List.all_eq_true.mp List.all_takeWhile, nameMark_cases _⟩

theorem isEscaped_of_readRegexp
    {source : List Char} (h : readRegexp chars = some (source, width, rest)) :
    IsEscaped source := by
  obtain ⟨_, -, hspells⟩ := readRegexp_eq_some_iff.mp ⟨width, h⟩
  exact hspells.isEscaped

theorem isSpelt_of_readNumber
    {negative : Bool} (h : readNumber negative chars = .ok (token, width, rest)) :
    token.IsSpelt := by
  unfold readNumber at h
  dsimp only at h
  split at h
  · cases h
    trivial
  · obtain ⟨found, hfound, hrest⟩ := bind_eq_ok_iff.mp h
    cases hrest
    unfold integerToken at hfound
    split at hfound
    · cases hfound
    · split at hfound <;> cases hfound
      trivial

theorem isSpelt_of_readWord
    {c : Char} (hc : isNameStart c = true) (chars : List Char) :
    (readWord (c :: chars)).1.IsSpelt := by
  have hstart := isNameChar_of_isNameStart hc
  obtain ⟨found, after, hread⟩ : ∃ found after, readName (c :: chars) = (found, after) :=
    ⟨_, _, rfl⟩
  have hname : IsName found := by
    refine isName_of_readName hread ?_
    rintro rfl
    unfold readName at hread
    simp [hstart] at hread
  unfold readWord
  simp only [hread]
  split
  all_goals
    change IsName (String.ofList found).toList
    rw [String.toList_ofList]
    exact hname

theorem isSpelt_of_readLexeme
    {c : Char} (h : readLexeme c chars = .ok (token, width, rest)) : token.IsSpelt := by
  unfold readLexeme at h
  split at h
  case h_9 =>
    dsimp only at h
    split at h
    · cases h
    next hname =>
      cases h
      change IsName (String.ofList _).toList
      rw [String.toList_ofList]
      exact isName_of_readName rfl hname
  case h_10 =>
    split at h <;> cases h
    trivial
  case h_11 =>
    split at h
    next hread =>
      cases h
      change IsEscaped (String.ofList _).toList
      rw [String.toList_ofList]
      exact isEscaped_of_readRegexp hread
    next => cases h
  case h_12 =>
    split at h
    · exact isSpelt_of_readNumber h
    · split at h
      · obtain ⟨⟨found, size, after⟩, hread, hfound⟩ := bind_eq_ok_iff.mp h
        cases hfound
        exact isSpelt_of_readNumber hread
      · split at h
        next hstart =>
          have hword := isSpelt_of_readWord hstart chars
          rw [Except.ok.inj h] at hword
          exact hword
        next => cases h
  all_goals
    cases h
    trivial

def AllSpelt (tokens : Tokens) : Prop :=
  ∀ placed ∈ tokens, placed.2.IsSpelt

theorem allSpelt_cons {offset : Nat} {tokens : Tokens} :
    AllSpelt ((offset, token) :: tokens) ↔ token.IsSpelt ∧ AllSpelt tokens :=
  List.forall_mem_cons

theorem allSpelt_of_tokensFrom
    {steps offset : Nat} {placed : Tokens} (h : tokensFrom steps offset chars = .ok placed) :
    AllSpelt placed := by
  induction steps generalizing offset chars placed with
  | zero =>
      cases h
      exact allSpelt_cons.mpr ⟨trivial, nofun⟩
  | succ steps ih =>
      cases chars with
      | nil =>
          cases h
          exact allSpelt_cons.mpr ⟨trivial, nofun⟩
      | cons c chars =>
          rw [tokensFrom] at h
          split at h
          · exact ih h
          · split at h
            next => cases h
            next hread =>
              obtain ⟨others, hothers, hall⟩ := bind_eq_ok_iff.mp h
              cases hall
              exact allSpelt_cons.mpr ⟨isSpelt_of_readLexeme hread, ih hothers⟩

theorem allSpelt_of_tokens
    {source : String} {placed : Tokens} (h : tokens source = .ok placed) : AllSpelt placed :=
  allSpelt_of_tokensFrom h

/-! ### Readers -/

/-- What the reader yields from spelt tokens has a property, and the tokens
that it leaves are spelt. -/
def Yields (reader : Reader α) (property : α → Prop) : Prop :=
  ∀ tokens value rest, AllSpelt tokens → reader tokens = .ok (value, rest) →
    property value ∧ AllSpelt rest

theorem allSpelt_of_eat?
    {wanted : Token} {tokens rest : Tokens} (hspelt : AllSpelt tokens)
    (h : eat? wanted tokens = some rest) : AllSpelt rest := by
  unfold eat? at h
  split at h
  next => cases h
  next =>
    split at h <;> cases h
    exact (allSpelt_cons.mp hspelt).2

theorem allSpelt_of_expect
    {wanted : Token} {tokens rest : Tokens} (hspelt : AllSpelt tokens)
    (h : expect wanted tokens = .ok rest) : AllSpelt rest := by
  unfold expect at h
  split at h
  next heat =>
    cases h
    exact allSpelt_of_eat? hspelt heat
  next => cases h

variable {α β : Type} {item reader : Reader α} {property : α → Prop} {close : Token}

theorem Yields.readItems
    (hitem : Yields item property) (steps : Nat) :
    Yields (readItems item close steps) (∀ value ∈ ·, property value) := by
  induction steps with
  | zero =>
      intro tokens values rest hspelt h
      obtain ⟨after, hclose, hvalues⟩ := bind_eq_ok_iff.mp h
      cases hvalues
      exact ⟨nofun, allSpelt_of_expect hspelt hclose⟩
  | succ steps ih =>
      intro tokens values rest hspelt h
      rw [Notation.readItems] at h
      split at h
      next heat =>
        cases h
        exact ⟨nofun, allSpelt_of_eat? hspelt heat⟩
      next =>
        obtain ⟨⟨first, behind⟩, hfirst, hmore⟩ := bind_eq_ok_iff.mp h
        obtain ⟨hproperty, hbehind⟩ := hitem _ _ _ hspelt hfirst
        dsimp only at hmore
        split at hmore
        next heat =>
          obtain ⟨⟨others, after⟩, hothers, hvalues⟩ := bind_eq_ok_iff.mp hmore
          cases hvalues
          obtain ⟨hall, hafter⟩ := ih _ _ _ (allSpelt_of_eat? hbehind heat) hothers
          exact ⟨List.forall_mem_cons.mpr ⟨hproperty, hall⟩, hafter⟩
        next =>
          obtain ⟨after, hclose, hvalues⟩ := bind_eq_ok_iff.mp hmore
          cases hvalues
          exact ⟨List.forall_mem_singleton.mpr hproperty, allSpelt_of_expect hbehind hclose⟩

/-! ### Terms -/

def IsBound (bound : Value) : Prop :=
  ∃ token, boundValue? token = some bound

/-- A term that a source can spell with brackets of a number of levels. -/
inductive IsWritten (engine : Pattern.Engine) (resolve : Resolver) : Nat → Term → Prop
  | scope {levels : Nat} {id : ScopeId} {name : String} (hname : IsName name.toList)
      (hword : termWords.lookup name = none) (hcapital : startsWithCapital name = true)
      (hresolve : resolve name = some id) : IsWritten engine resolve levels (.scope ⟨id, name⟩)
  | symbol {levels : Nat} {name : Symbol} (hname : IsName name.name.toList) :
      IsWritten engine resolve levels (.symbol name)
  | pattern {levels : Nat} {searched : Pattern} (hescaped : IsEscaped searched.source.toList)
      (hcompiled : engine.compile searched.source = .ok searched) :
      IsWritten engine resolve levels (.pattern searched)
  | interval {levels : Nat} {range : Interval} (hstart : ∀ bound ∈ range.start, IsBound bound)
      (hstop : ∀ bound ∈ range.stop, IsBound bound)
      (hbounded : range.start.isSome ∨ range.stop.isSome)
      (hexcludes : range.excludesStop = true → range.stop.isSome) :
      IsWritten engine resolve levels (.interval range)
  | list {levels : Nat} {items : List Term}
      (hitems : ∀ item ∈ items, IsWritten engine resolve levels item) :
      IsWritten engine resolve (levels + 1) (.list items)
  | map {levels : Nat} {entries : List (Key × Term)}
      (hnames : ∀ name term, (.symbol name, term) ∈ entries → IsName name.name.toList)
      (hcontents : ∀ content term, (.term content, term) ∈ entries →
        IsWritten engine resolve levels content)
      (hterms : ∀ entry ∈ entries, IsWritten engine resolve levels entry.2) :
      IsWritten engine resolve (levels + 1) (.map entries)
  | bool {levels : Nat} (truth : Bool) : IsWritten engine resolve levels (.bool truth)
  | nil {levels : Nat} : IsWritten engine resolve levels .nil
  | any {levels : Nat} : IsWritten engine resolve levels .any
  | int {levels : Nat} (number : Int64) : IsWritten engine resolve levels (.int number)
  | float {levels : Nat} (number : Binary64) : IsWritten engine resolve levels (.float number)
  | quoted {levels : Nat} (content : String) : IsWritten engine resolve levels (.quoted content)

variable {engine : Pattern.Engine} {resolve : Resolver} {levels : Nat} {term : Term}

/-- More names and more levels do not take a term away. -/
theorem IsWritten.mono
    {other : Resolver} {more : Nat}
    (hother : ∀ name id, resolve name = some id → other name = some id) (hlevels : levels ≤ more)
    (h : IsWritten engine resolve levels term) : IsWritten engine other more term := by
  induction h generalizing more with
  | scope hname hword hcapital hresolve =>
      exact .scope hname hword hcapital (hother _ _ hresolve)
  | symbol hname => exact .symbol hname
  | pattern hescaped hcompiled => exact .pattern hescaped hcompiled
  | interval hstart hstop hbounded hexcludes => exact .interval hstart hstop hbounded hexcludes
  | list _ ih =>
      cases more with
      | zero => exact absurd hlevels (Nat.not_succ_le_zero _)
      | succ left => exact .list fun item hitem => ih item hitem (Nat.le_of_succ_le_succ hlevels)
  | map hnames _ _ ihcontents ihterms =>
      cases more with
      | zero => exact absurd hlevels (Nat.not_succ_le_zero _)
      | succ left =>
          have hleft := Nat.le_of_succ_le_succ hlevels
          exact .map hnames (fun content term hentry => ihcontents content term hentry hleft)
            (fun entry hentry => ihterms entry hentry hleft)
  | bool truth => exact .bool truth
  | nil => exact .nil
  | any => exact .any
  | int number => exact .int number
  | float number => exact .float number
  | quoted content => exact .quoted content

theorem IsWritten.succ (h : IsWritten engine resolve levels term) :
    IsWritten engine resolve (levels + 1) term :=
  h.mono (fun _ _ hname => hname) (Nat.le_succ levels)

theorem isBound_of_readBound
    {tokens rest : Tokens} {bound : Option Value} (hspelt : AllSpelt tokens)
    (h : readBound tokens = (bound, rest)) :
    (∀ value ∈ bound, IsBound value) ∧ AllSpelt rest := by
  unfold readBound at h
  split at h
  next =>
    cases h
    exact ⟨nofun, nofun⟩
  next =>
    split at h
    next hvalue =>
      cases h
      refine ⟨?_, (allSpelt_cons.mp hspelt).2⟩
      rintro _ ⟨⟩
      exact ⟨_, hvalue⟩
    next =>
      cases h
      exact ⟨nofun, hspelt⟩

theorem isWritten_of_readInterval
    {start : Value} {literal : Term} {tokens rest : Tokens} (hstart : IsBound start)
    (hliteral : IsWritten engine resolve levels literal) (hspelt : AllSpelt tokens)
    (h : readInterval start literal tokens = (term, rest)) :
    IsWritten engine resolve levels term ∧ AllSpelt rest := by
  unfold readInterval at h
  split at h
  next excludesStop after =>
    have hafter := (allSpelt_cons.mp hspelt).2
    obtain ⟨hstop, hrest⟩ := isBound_of_readBound hafter rfl
    cases h
    refine ⟨.interval ?_ hstop (.inl rfl) fun hexcludes => (Bool.and_eq_true_iff.mp hexcludes).2,
      hrest⟩
    rintro _ ⟨⟩
    exact hstart
  next =>
    cases h
    exact ⟨hliteral, hspelt⟩

theorem yields_readIntervalWithoutStart (excludesStop : Bool) :
    Yields (readIntervalWithoutStart excludesStop) (IsWritten engine resolve levels) := by
  intro tokens term rest hspelt h
  unfold readIntervalWithoutStart at h
  split at h
  next stop after hread =>
    obtain ⟨hstop, hrest⟩ := isBound_of_readBound hspelt hread
    cases h
    exact ⟨.interval nofun hstop (.inr rfl) fun _ => rfl, hrest⟩
  next => cases h

theorem termWords_lookup_cases {name : String} (h : termWords.lookup name = some term) :
    term = .any ∨ term = .nil ∨ term = .bool true ∨ term = .bool false := by
  simp only [termWords, List.lookup_cons, List.lookup_nil] at h
  grind

theorem isWritten_of_readName?
    {offset : Nat} {name : String} (hname : IsName name.toList)
    (h : readName? resolve termWords (fun id => .scope ⟨id, name⟩) offset name = .ok term) :
    IsWritten engine resolve levels term := by
  unfold readName? at h
  split at h
  next meaning hlookup =>
    cases h
    rcases termWords_lookup_cases hlookup with rfl | rfl | rfl | rfl
    · exact .any
    · exact .nil
    · exact .bool true
    · exact .bool false
  next hword =>
    split at h
    next hcapital =>
      split at h
      next hresolve =>
        cases h
        exact .scope hname hword hcapital hresolve
      next => cases h
    next => cases h

/-- What a reader for entries yields of an entry. -/
def EntryIsWritten
    (engine : Pattern.Engine) (resolve : Resolver) (levels : Nat) (entry : Key × Term) : Prop :=
  (∀ name, entry.1 = .symbol name → IsName name.name.toList) ∧
    (∀ content, entry.1 = .term content → IsWritten engine resolve levels content) ∧
    IsWritten engine resolve levels entry.2

theorem Yields.readEntry
    {reader : Reader Term} (hreader : Yields reader (IsWritten engine resolve levels)) :
    Yields (readEntry reader) (EntryIsWritten engine resolve levels) := by
  intro tokens entry rest hspelt h
  unfold Notation.readEntry at h
  split at h
  next name behind =>
    obtain ⟨hname, hbehind⟩ := allSpelt_cons.mp hspelt
    obtain ⟨⟨term, after⟩, hread, hentry⟩ := bind_eq_ok_iff.mp h
    cases hentry
    obtain ⟨hterm, hafter⟩ := hreader _ _ _ hbehind hread
    refine ⟨⟨?_, nofun, hterm⟩, hafter⟩
    rintro _ ⟨⟩
    exact hname
  next =>
    obtain ⟨⟨key, behind⟩, hkey, hmore⟩ := bind_eq_ok_iff.mp h
    obtain ⟨hwritten, hbehind⟩ := hreader _ _ _ hspelt hkey
    obtain ⟨behindArrow, harrow, hlast⟩ := bind_eq_ok_iff.mp hmore
    obtain ⟨⟨term, after⟩, hread, hentry⟩ := bind_eq_ok_iff.mp hlast
    cases hentry
    obtain ⟨hterm, hafter⟩ := hreader _ _ _ (allSpelt_of_expect hbehind harrow) hread
    refine ⟨⟨?_, ?_, hterm⟩, hafter⟩
    · intro name hname
      dsimp only at hname
      split at hname <;> cases hname
      cases hwritten with
      | symbol hspelling => exact hspelling
    · intro content hcontent
      dsimp only at hcontent
      split at hcontent <;> cases hcontent
      exact hwritten

theorem Yields.readTermUsing
    {inner : Option (Reader Term)}
    (hinner : ∀ reader ∈ inner, ∃ below, levels = below + 1 ∧
      Yields reader (IsWritten engine resolve below)) :
    Yields (readTermUsing engine resolve inner) (IsWritten engine resolve levels) := by
  intro tokens term rest hspelt h
  unfold Notation.readTermUsing at h
  split at h
  next => cases h
  next offset token behind =>
    obtain ⟨htoken, hbehind⟩ := allSpelt_cons.mp hspelt
    split at h
    next =>
      obtain ⟨⟨items, after⟩, hitems, hterm⟩ := bind_eq_ok_iff.mp h
      cases hterm
      unfold readNested at hitems
      split at hitems
      next => cases hitems
      next reader =>
        obtain ⟨below, rfl, hreader⟩ := hinner reader rfl
        obtain ⟨hall, hafter⟩ := hreader.readItems _ _ _ _ hbehind hitems
        exact ⟨.list hall, hafter⟩
    next =>
      obtain ⟨⟨entries, after⟩, hentries, hterm⟩ := bind_eq_ok_iff.mp h
      cases hterm
      unfold readNested at hentries
      split at hentries
      next => cases hentries
      next reader =>
        obtain ⟨below, rfl, hreader⟩ := hinner reader rfl
        obtain ⟨hall, hafter⟩ := hreader.readEntry.readItems _ _ _ _ hbehind hentries
        exact ⟨.map (fun name term hmem => (hall _ hmem).1 name rfl)
          (fun content term hmem => (hall _ hmem).2.1 content rfl)
          (fun entry hmem => (hall entry hmem).2.2), hafter⟩
    next =>
      cases h
      exact ⟨.symbol htoken, hbehind⟩
    next =>
      split at h
      next hpattern =>
        cases h
        obtain rfl := engine.source_of_compile hpattern
        exact ⟨.pattern htoken hpattern, hbehind⟩
      next => cases h
    next => exact yields_readIntervalWithoutStart _ _ _ _ hbehind h
    next number =>
      exact isWritten_of_readInterval ⟨.int number, rfl⟩ (.int number) hbehind (Except.ok.inj h)
    next number =>
      exact isWritten_of_readInterval ⟨.float number, rfl⟩ (.float number) hbehind
        (Except.ok.inj h)
    next content =>
      exact isWritten_of_readInterval ⟨.string content, rfl⟩ (.quoted content) hbehind
        (Except.ok.inj h)
    next name =>
      obtain ⟨found, hfound, hterm⟩ := bind_eq_ok_iff.mp h
      cases hterm
      exact ⟨isWritten_of_readName? htoken hfound, hbehind⟩
    next => cases h

/-- Terms that are read are written, with no more levels than the reader has. -/
theorem yields_readTerm (levels : Nat) :
    Yields (readTerm engine resolve levels) (IsWritten engine resolve levels) := by
  induction levels with
  | zero => exact Yields.readTermUsing nofun
  | succ levels ih =>
      refine Yields.readTermUsing ?_
      rintro _ ⟨⟩
      exact ⟨levels, rfl, ih⟩

theorem isWritten_of_parseSpec
    {source : String} {arguments result : Term}
    (h : parseSpec engine resolve source = .ok (.spec arguments result)) :
    IsWritten engine resolve maxNesting arguments ∧ IsWritten engine resolve maxNesting result := by
  obtain ⟨placed, hplaced, hread⟩ := bind_eq_ok_iff.mp h
  obtain ⟨⟨first, rest⟩, hfirst, hmore⟩ := bind_eq_ok_iff.mp hread
  obtain ⟨hwritten, hrest⟩ := yields_readTerm maxNesting _ _ _ (allSpelt_of_tokens hplaced) hfirst
  dsimp only at hmore
  split at hmore
  next heat =>
    obtain ⟨⟨second, after⟩, hsecond, hlast⟩ := bind_eq_ok_iff.mp hmore
    obtain ⟨-, -, hspec⟩ := bind_eq_ok_iff.mp hlast
    cases hspec
    obtain ⟨hresult, -⟩ := yields_readTerm maxNesting _ _ _ (allSpelt_of_eat? hrest heat) hsecond
    exact ⟨hwritten, hresult⟩
  next =>
    obtain ⟨-, -, hspec⟩ := bind_eq_ok_iff.mp hmore
    cases hspec
    -- the contract was written as a map with braces, and both sides stand inside them
    cases hwritten with
    | map _ hcontents hterms =>
        exact ⟨(hcontents arguments result List.mem_cons_self).succ,
          (hterms _ List.mem_cons_self).succ⟩

end CallContract.Notation
