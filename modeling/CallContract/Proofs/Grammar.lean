import CallContract.Proofs.ReadBack

/-!
# The grammar of contracts

A grammar says which tokens derive which term, apart from how they are read.
Reading a source succeeds exactly if its tokens derive a term with brackets and
braces that are nested no deeper than allowed, and then it yields that term.
One direction follows the reader, and says that it takes tokens that derive what
it yields.  The other follows the derivation: a reader with enough levels takes
exactly the derived tokens if no term goes on with the token behind them.
-/

namespace CallContract.Notation

variable {α β : Type}

/-! ### Derivations -/

/-- The key that a term before an arrow stands for. -/
def keyOf : Term → Key
  | .symbol name => .symbol name
  | .quoted content => .quoted content
  | term => .term term

mutual

/-- The tokens derive the term. -/
inductive IsTerm (engine : Pattern.Engine) (resolve : Resolver) : List Token → Term → Prop
  | list {tokens : List Token} {items : List Term}
      (h : Sequence (IsTerm engine resolve) tokens items) :
      IsTerm engine resolve (.openBracket :: (tokens ++ [.closeBracket])) (.list items)
  | map {tokens : List Token} {entries : List (Key × Term)}
      (h : Sequence (IsEntry engine resolve) tokens entries) :
      IsTerm engine resolve (.openBrace :: (tokens ++ [.closeBrace])) (.map entries)
  | symbol (name : String) : IsTerm engine resolve [.symbol name] (.symbol ⟨name⟩)
  | regexp {source : String} {searched : Pattern}
      (h : engine.compile source = .ok searched) :
      IsTerm engine resolve [.regexp source] (.pattern searched)
  | upTo {token : Token} {stop : Value} {literal : Term} (excludesStop : Bool)
      (hstop : IsLiteral token stop literal) :
      IsTerm engine resolve [.dots excludesStop, token] (.interval ⟨none, some stop, excludesStop⟩)
  | literal {token : Token} {bound : Value} {literal : Term} (h : IsLiteral token bound literal) :
      IsTerm engine resolve [token] literal
  | between {first last : Token} {start stop : Value} {firstLiteral lastLiteral : Term}
      (excludesStop : Bool) (hstart : IsLiteral first start firstLiteral)
      (hstop : IsLiteral last stop lastLiteral) :
      IsTerm engine resolve [first, .dots excludesStop, last]
        (.interval ⟨some start, some stop, excludesStop⟩)
  -- without an end there is nothing to exclude, however the dots are written
  | startingAt {token : Token} {start : Value} {literal : Term} (excludesStop : Bool)
      (hstart : IsLiteral token start literal) :
      IsTerm engine resolve [token, .dots excludesStop] (.interval ⟨some start, none, false⟩)
  | wordAny : IsTerm engine resolve [.word "Any"] .any
  | wordNil : IsTerm engine resolve [.word "nil"] .nil
  | wordTrue : IsTerm engine resolve [.word "true"] (.bool true)
  | wordFalse : IsTerm engine resolve [.word "false"] (.bool false)
  | scope {name : String} {id : ScopeId} (hany : name ≠ "Any")
      (hcapital : startsWithCapital name = true) (hresolve : resolve name = some id) :
      IsTerm engine resolve [.word name] (.scope ⟨id, name⟩)

/-- The tokens derive the entry of a map. -/
inductive IsEntry (engine : Pattern.Engine) (resolve : Resolver) : List Token → Key × Term → Prop
  | labelled {name : String} {tokens : List Token} {term : Term}
      (h : IsTerm engine resolve tokens term) :
      IsEntry engine resolve (.label name :: tokens) (.symbol ⟨name⟩, term)
  | keyed {keyTokens tokens : List Token} {key term : Term}
      (hkey : IsTerm engine resolve keyTokens key)
      (h : IsTerm engine resolve tokens term) :
      IsEntry engine resolve (keyTokens ++ .arrow :: tokens) (keyOf key, term)

end

/-- The tokens derive a whole source: a term, or a contract of two. -/
inductive IsSpec (engine : Pattern.Engine) (resolve : Resolver) : List Token → Term → Prop
  | term {tokens : List Token} {term : Term} (h : IsTerm engine resolve tokens term) :
      IsSpec engine resolve tokens term
  | contract {front back : List Token} {arguments result : Term}
      (harguments : IsTerm engine resolve front arguments)
      (hresult : IsTerm engine resolve back result) :
      IsSpec engine resolve (front ++ .arrow :: back) (.spec arguments result)

/-! ### Nesting -/

def Token.opens : Token → Bool
  | .openBracket | .openBrace => true
  | _ => false

def Token.closes : Token → Bool
  | .closeBracket | .closeBrace => true
  | _ => false

/-- Nowhere are more brackets and braces open than allowed. -/
def NestsWithin (limit : Nat) (tokens : List Token) : Prop :=
  ∀ front back, tokens = front ++ back →
    front.countP Token.opens ≤ front.countP Token.closes + limit

def IsBalanced (tokens : List Token) : Prop :=
  tokens.countP Token.opens = tokens.countP Token.closes

/-- The token is neither a bracket nor a brace. -/
def Token.IsPlain (token : Token) : Prop :=
  token.opens = false ∧ token.closes = false

/-- Every bracket and brace is closed behind what it encloses. -/
inductive IsMatched : List Token → Prop
  | empty : IsMatched []
  | plain {token : Token} {tokens : List Token} (htoken : token.IsPlain)
      (h : IsMatched tokens) : IsMatched (token :: tokens)
  | enclosed {opening closing : Token} {inside rest : List Token}
      (hopening : opening.opens = true ∧ opening.closes = false)
      (hclosing : closing.opens = false ∧ closing.closes = true) (hinside : IsMatched inside)
      (hrest : IsMatched rest) : IsMatched (opening :: (inside ++ closing :: rest))

theorem IsMatched.append
    {front back : List Token} (hfront : IsMatched front) (hback : IsMatched back) :
    IsMatched (front ++ back) := by
  induction hfront with
  | empty => exact hback
  | plain htoken _ ih => exact .plain htoken ih
  | enclosed hopening hclosing hinside _ _ ih =>
      rw [List.cons_append, List.append_assoc, List.cons_append]
      exact .enclosed hopening hclosing hinside ih

theorem IsMatched.isBalanced {tokens : List Token} (h : IsMatched tokens) : IsBalanced tokens := by
  induction h with
  | empty => rfl
  | plain htoken _ ih =>
      unfold IsBalanced at *
      simp [htoken.1, htoken.2, ih]
  | enclosed hopening hclosing _ _ ihinside ihrest =>
      unfold IsBalanced at *
      simp only [List.countP_cons, List.countP_append, hopening, hclosing, ihinside, ihrest,
        if_true, Bool.false_eq_true, if_false]
      omega

/-- Nothing is closed that was not opened before. -/
theorem IsMatched.closes_le_opens
    {tokens front back : List Token} (h : IsMatched tokens) (hsplit : tokens = front ++ back) :
    front.countP Token.closes ≤ front.countP Token.opens := by
  induction h generalizing front back with
  | empty =>
      obtain ⟨rfl, -⟩ := List.append_eq_nil_iff.mp hsplit.symm
      exact Nat.le_refl 0
  | plain htoken _ ih =>
      rcases List.cons_eq_append_iff.mp hsplit with ⟨rfl, -⟩ | ⟨more, rfl, hmore⟩
      · exact Nat.le_refl 0
      · have hbehind := ih hmore
        simpa [htoken.1, htoken.2] using hbehind
  | enclosed hopening hclosing hinside _ ihinside ihrest =>
      rcases List.cons_eq_append_iff.mp hsplit with ⟨rfl, -⟩ | ⟨more, rfl, hmore⟩
      · exact Nat.le_refl 0
      · simp only [List.countP_cons, hopening, if_true, Bool.false_eq_true, if_false]
        rcases List.append_eq_append_iff.mp hmore with ⟨last, rfl, hlast⟩ | ⟨last, hlast, -⟩
        · have hbalanced := hinside.isBalanced
          unfold IsBalanced at hbalanced
          rw [List.countP_append, List.countP_append, hbalanced]
          rcases List.cons_eq_append_iff.mp hlast with ⟨rfl, -⟩ | ⟨others, rfl, hothers⟩
          · exact Nat.le_succ _
          · have hbehind := ihrest hothers
            simp only [List.countP_cons, hclosing, if_true, Bool.false_eq_true, if_false]
            omega
        · exact (ihinside hlast).trans (Nat.le_succ _)

theorem Sequence.isMatched
    {Item : List Token → α → Prop} {tokens : List Token} {values : List α}
    (hitem : ∀ tokens value, Item tokens value → IsMatched tokens)
    (h : Sequence Item tokens values) : IsMatched tokens := by
  induction h with
  | empty => exact .empty
  | last h => exact hitem _ _ h
  | more h _ ih => exact (hitem _ _ h).append (.plain ⟨rfl, rfl⟩ ih)

variable {engine : Pattern.Engine} {resolve : Resolver}

theorem IsLiteral.isPlain
    {token : Token} {bound : Value} {literal : Term} (h : IsLiteral token bound literal) :
    token.IsPlain := by
  cases h <;> exact ⟨rfl, rfl⟩

mutual

theorem IsTerm.isMatched : {tokens : List Token} → {term : Term} →
    IsTerm engine resolve tokens term → IsMatched tokens
  | _, _, .list h => .enclosed ⟨rfl, rfl⟩ ⟨rfl, rfl⟩ (terms_isMatched h) .empty
  | _, _, .map h => .enclosed ⟨rfl, rfl⟩ ⟨rfl, rfl⟩ (entries_isMatched h) .empty
  | _, _, .upTo _ hstop => .plain ⟨rfl, rfl⟩ (.plain hstop.isPlain .empty)
  | _, _, .literal h => .plain h.isPlain .empty
  | _, _, .between _ hstart hstop =>
      .plain hstart.isPlain (.plain ⟨rfl, rfl⟩ (.plain hstop.isPlain .empty))
  | _, _, .startingAt _ hstart => .plain hstart.isPlain (.plain ⟨rfl, rfl⟩ .empty)
  | _, _, .symbol _ | _, _, .regexp _ | _, _, .wordAny | _, _, .wordNil | _, _, .wordTrue
  | _, _, .wordFalse | _, _, .scope .. => .plain ⟨rfl, rfl⟩ .empty

theorem terms_isMatched : {tokens : List Token} → {items : List Term} →
    Sequence (IsTerm engine resolve) tokens items → IsMatched tokens
  | _, _, .empty => .empty
  | _, _, .last h => h.isMatched
  | _, _, .more h hrest => h.isMatched.append (.plain ⟨rfl, rfl⟩ (terms_isMatched hrest))

theorem IsEntry.isMatched : {tokens : List Token} → {entry : Key × Term} →
    IsEntry engine resolve tokens entry → IsMatched tokens
  | _, _, .labelled h => .plain ⟨rfl, rfl⟩ h.isMatched
  | _, _, .keyed hkey h => hkey.isMatched.append (.plain ⟨rfl, rfl⟩ h.isMatched)

theorem entries_isMatched : {tokens : List Token} → {entries : List (Key × Term)} →
    Sequence (IsEntry engine resolve) tokens entries → IsMatched tokens
  | _, _, .empty => .empty
  | _, _, .last h => h.isMatched
  | _, _, .more h hrest => h.isMatched.append (.plain ⟨rfl, rfl⟩ (entries_isMatched hrest))

end

theorem IsTerm.isBalanced
    {tokens : List Token} {term : Term} (h : IsTerm engine resolve tokens term) :
    IsBalanced tokens :=
  h.isMatched.isBalanced

theorem IsEntry.isBalanced
    {tokens : List Token} {entry : Key × Term} (h : IsEntry engine resolve tokens entry) :
    IsBalanced tokens :=
  h.isMatched.isBalanced

theorem terms_isBalanced
    {tokens : List Token} {items : List Term} (h : Sequence (IsTerm engine resolve) tokens items) :
    IsBalanced tokens :=
  (terms_isMatched h).isBalanced

theorem entries_isBalanced
    {tokens : List Token} {entries : List (Key × Term)}
    (h : Sequence (IsEntry engine resolve) tokens entries) : IsBalanced tokens :=
  (entries_isMatched h).isBalanced

/-- Behind balanced tokens as many brackets are left as before them. -/
theorem nestsWithin_append
    {limit : Nat} {front back : List Token} (hfront : IsBalanced front) :
    NestsWithin limit (front ++ back) ↔ NestsWithin limit front ∧ NestsWithin limit back := by
  unfold IsBalanced at hfront
  constructor
  · refine fun h => ⟨fun some rest hsome => h some (rest ++ back) ?_, fun some rest hsome => ?_⟩
    · rw [hsome, List.append_assoc]
    · have hboth := h (front ++ some) rest (by rw [hsome, List.append_assoc])
      rw [List.countP_append, List.countP_append, hfront] at hboth
      omega
  · rintro ⟨hin, hbehind⟩ some rest hsome
    rcases List.append_eq_append_iff.mp hsome with ⟨more, rfl, hmore⟩ | ⟨more, hmore, -⟩
    · have hafter := hbehind more rest hmore
      rw [List.countP_append, List.countP_append, hfront]
      omega
    · exact hin some more hmore

theorem NestsWithin.mono
    {limit more : Nat} {tokens : List Token} (h : NestsWithin limit tokens) (hmore : limit ≤ more) :
    NestsWithin more tokens := fun front back hsplit =>
  (h front back hsplit).trans (Nat.add_le_add_left hmore _)

theorem nestsWithin_of_plain
    {limit : Nat} {tokens : List Token} (h : ∀ token ∈ tokens, token.IsPlain) :
    NestsWithin limit tokens := by
  intro front back hsplit
  have hnone : front.countP Token.opens = 0 := by
    rw [List.countP_eq_zero]
    intro token htoken
    rw [(h token (hsplit ▸ List.mem_append_left back htoken)).1]
    exact Bool.false_ne_true
  omega

theorem nestsWithin_cons
    {limit : Nat} {mark : Token} (hmark : mark.IsPlain) {tokens : List Token} :
    NestsWithin limit (mark :: tokens) ↔ NestsWithin limit tokens := by
  have hplain : NestsWithin limit [mark] :=
    nestsWithin_of_plain (List.forall_mem_singleton.mpr hmark)
  have hbalanced : IsBalanced [mark] := (IsMatched.plain hmark .empty).isBalanced
  rw [← List.singleton_append, nestsWithin_append hbalanced]
  exact and_iff_right hplain

theorem nestsWithin_separated
    {limit : Nat} {front back : List Token} (hfront : IsBalanced front) {mark : Token}
    (hmark : mark.IsPlain) :
    NestsWithin limit (front ++ mark :: back) ↔
      NestsWithin limit front ∧ NestsWithin limit back := by
  rw [nestsWithin_append hfront, nestsWithin_cons hmark]

/-- What is enclosed has one level less. -/
theorem nestsWithin_enclosed
    {limit : Nat} {opening closing : Token}
    (hopening : opening.opens = true ∧ opening.closes = false)
    (hclosing : closing.opens = false ∧ closing.closes = true) {inside : List Token}
    (hinside : IsBalanced inside) :
    NestsWithin limit (opening :: (inside ++ [closing])) ↔
      ∃ below, limit = below + 1 ∧ NestsWithin below inside := by
  constructor
  · intro h
    have hfirst := h [opening] (inside ++ [closing]) rfl
    simp only [List.countP_singleton, hopening, if_true, Bool.false_eq_true, if_false] at hfirst
    refine ⟨limit - 1, by omega, fun some rest hsome => ?_⟩
    have hall := h (opening :: some) (rest ++ [closing]) (by rw [hsome]; simp)
    simp only [List.countP_cons, hopening, if_true, Bool.false_eq_true, if_false] at hall
    omega
  · rintro ⟨below, rfl, h⟩ front back hsplit
    unfold IsBalanced at hinside
    rcases List.cons_eq_append_iff.mp hsplit with ⟨rfl, -⟩ | ⟨some, rfl, hrest⟩
    · exact Nat.zero_le _
    · simp only [List.countP_cons, hopening, if_true, Bool.false_eq_true, if_false]
      rcases List.append_eq_append_iff.mp hrest with ⟨more, rfl, hlast⟩ | ⟨more, hmore, -⟩
      · -- only what closes can stand behind the inside
        have hnone : more.countP Token.opens = 0 := by
          rw [List.countP_eq_zero]
          intro token htoken
          obtain rfl := List.mem_singleton.mp (hlast ▸ List.mem_append_left back htoken)
          rw [hclosing.1]
          exact Bool.false_ne_true
        rw [List.countP_append, List.countP_append, hinside]
        omega
      · have hinner := h some more hmore
        omega

/-- The tokens derive the value and are nested no deeper than to a limit. -/
def Within
    (limit : Nat)
    (Item : List Token → α → Prop)
    (tokens : List Token)
    (value : α) : Prop :=
  Item tokens value ∧ NestsWithin limit tokens

theorem within_sequence_iff
    {Item : List Token → α → Prop} (hitem : ∀ tokens value, Item tokens value → IsBalanced tokens)
    {limit : Nat} {tokens : List Token} {values : List α} :
    Within limit (Sequence Item) tokens values ↔
      Sequence (Within limit Item) tokens values := by
  constructor
  · rintro ⟨h, hnests⟩
    induction h with
    | empty => exact .empty
    | last h => exact .last ⟨h, hnests⟩
    | more h _ ih =>
        obtain ⟨hfirst, hrest⟩ := (nestsWithin_separated (hitem _ _ h) ⟨rfl, rfl⟩).mp hnests
        exact .more ⟨h, hfirst⟩ (ih hrest)
  · intro h
    refine ⟨h.imp fun _ _ hboth => hboth.1, ?_⟩
    induction h with
    | empty => exact nestsWithin_of_plain nofun
    | last h => exact h.2
    | more h _ ih => exact (nestsWithin_separated (hitem _ _ h.1) ⟨rfl, rfl⟩).mpr ⟨h.2, ih⟩

theorem Sequence.exists_of_mem
    {Item : List Token → α → Prop} {tokens : List Token} {values : List α} {value : α}
    (h : Sequence Item tokens values) (hvalue : value ∈ values) : ∃ tokens, Item tokens value := by
  induction h with
  | empty => cases hvalue
  | last h =>
      obtain rfl := List.mem_singleton.mp hvalue
      exact ⟨_, h⟩
  | more h _ ih =>
      rcases List.mem_cons.mp hvalue with rfl | hrest
      · exact ⟨_, h⟩
      · exact ih hrest

theorem Sequence.within
    {Item : List Token → α → Prop} {limit : Nat} {tokens : List Token} {values : List α}
    (h : Sequence Item tokens values)
    (hitems : ∀ value ∈ values, ∀ tokens, Item tokens value → NestsWithin limit tokens) :
    Sequence (Within limit Item) tokens values := by
  induction h with
  | empty => exact .empty
  | last h => exact .last ⟨h, hitems _ List.mem_cons_self _ h⟩
  | more h _ ih =>
      obtain ⟨hfirst, hrest⟩ := List.forall_mem_cons.mp hitems
      exact .more ⟨h, hfirst _ h⟩ (ih hrest)

/-! ### Derived tokens are read -/

variable {levels : Nat} {token : Token} {bound : Value} {literal : Term}

/-- No other word of the notation starts with a capital letter. -/
theorem lookup_termWords_eq_none
    {name : String} (hany : name ≠ "Any") (hcapital : startsWithCapital name = true) :
    termWords.lookup name = none := by
  cases hlookup : termWords.lookup name with
  | none => rfl
  | some term =>
      have hword := Table.mem_of_get? hlookup
      simp only [termWords, List.mem_cons, Prod.mk.injEq, List.not_mem_nil, or_false] at hword
      rcases hword with ⟨rfl, -⟩ | ⟨rfl, -⟩ | ⟨rfl, -⟩ | ⟨rfl, -⟩
      · exact absurd rfl hany
      all_goals exact absurd hcapital (by decide)

theorem IsTerm.exists_cons
    {tokens : List Token} {term : Term} (h : IsTerm engine resolve tokens term) :
    ∃ first rest, tokens = first :: rest ∧ ∀ name, first ≠ .label name := by
  cases h with
  | literal h => cases h <;> exact ⟨_, _, rfl, nofun⟩
  | between _ hstart | startingAt _ hstart => cases hstart <;> exact ⟨_, _, rfl, nofun⟩
  | _ => exact ⟨_, _, rfl, nofun⟩

theorem readEntry_keyed
    {reader : Reader Term} {place : Nat} {first : Token} {rest : Tokens}
    (hfirst : ∀ name, first ≠ .label name) :
    readEntry reader ((place, first) :: rest) = (do
      let (key, rest) ← reader ((place, first) :: rest)
      let rest ← expect .arrow rest
      let (term, rest) ← reader rest
      pure ((keyOf key, term), rest)) := by
  unfold readEntry
  split
  next hlabel =>
    cases hlabel
    exact absurd rfl (hfirst _)
  next => rfl

theorem reads_keyed
    {reader : Reader Term} {keyTokens tokens : List Token} {key term : Term}
    (hkey : Reads reader keyTokens key) (hterm : Reads reader tokens term)
    (hfirst : ∃ first rest, keyTokens = first :: rest ∧ ∀ name, first ≠ .label name) :
    Reads (readEntry reader) (keyTokens ++ .arrow :: tokens) (keyOf key, term) :=
  reads_paired (fun key term => (keyOf key, term)) (fun _ _ _ => readEntry_keyed) hkey hterm hfirst

theorem reads_entry
    {reader : Reader Term} {tokens : List Token} {entry : Key × Term}
    (hreads : ∀ tokens term, Within levels (IsTerm engine resolve) tokens term →
      Reads reader tokens term)
    (h : Within levels (IsEntry engine resolve) tokens entry) :
    Reads (readEntry reader) tokens entry := by
  obtain ⟨hentry, hnests⟩ := h
  cases hentry with
  | @labelled name _ _ hterm =>
      have hinside := (nestsWithin_cons ⟨rfl, rfl⟩).mp hnests
      exact reads_labelled (hreads _ _ ⟨hterm, hinside⟩) name
  | keyed hkey hterm =>
      obtain ⟨hnestsKey, hnestsTerm⟩ := (nestsWithin_separated hkey.isBalanced ⟨rfl, rfl⟩).mp hnests
      exact reads_keyed (hreads _ _ ⟨hkey, hnestsKey⟩) (hreads _ _ ⟨hterm, hnestsTerm⟩)
        hkey.exists_cons

/-- A reader takes the derived tokens if it has as many levels as they need. -/
theorem reads_derived (levels : Nat) {tokens : List Token} {term : Term}
    (h : Within levels (IsTerm engine resolve) tokens term) :
    Reads (readTerm engine resolve levels) tokens term := by
  induction levels using Nat.strongRecOn generalizing tokens term with
  | ind levels ih =>
    obtain ⟨hterm, hnests⟩ := h
    cases hterm with
    | list h =>
        have hbalanced := terms_isBalanced h
        obtain ⟨below, rfl, hinside⟩ :=
          (nestsWithin_enclosed ⟨rfl, rfl⟩ ⟨rfl, rfl⟩ hbalanced).mp hnests
        have hitems := (within_sequence_iff fun _ _ hitem => hitem.isBalanced).mp ⟨h, hinside⟩
        exact reads_brackets (hitems.imp fun _ _ hitem =>
          ih below (Nat.lt_succ_self below) hitem)
    | map h =>
        have hbalanced := entries_isBalanced h
        obtain ⟨below, rfl, hinside⟩ :=
          (nestsWithin_enclosed ⟨rfl, rfl⟩ ⟨rfl, rfl⟩ hbalanced).mp hnests
        have hentries := (within_sequence_iff fun _ _ hentry => hentry.isBalanced).mp ⟨h, hinside⟩
        exact reads_braces (hentries.imp fun _ _ hentry =>
          reads_entry (fun _ _ => ih below (Nat.lt_succ_self below)) hentry)
    | symbol name => exact reads_single fun _ _ _ => rfl
    | regexp h =>
        refine reads_single fun inner offset more => ?_
        rw [readTermUsing]
        simp only [h]
    | upTo excludesStop hstop => exact reads_upTo excludesStop hstop
    | literal h => exact reads_literal h
    | between excludesStop hstart hstop => exact reads_between excludesStop hstart hstop
    | startingAt excludesStop hstart => exact reads_startingAt excludesStop hstart
    | wordAny | wordNil | wordTrue | wordFalse => exact reads_single fun _ _ _ => rfl
    | scope hany hcapital hresolve =>
        exact reads_scope (lookup_termWords_eq_none hany hcapital) hcapital hresolve

theorem readSpec_derived
    {tokens : List Token} {term : Term} (h : Within maxNesting (IsSpec engine resolve) tokens term)
    {placed : Tokens} (hplaced : placed.map Prod.snd = tokens ++ [.finish]) :
    readSpec engine resolve placed = .ok term := by
  obtain ⟨hspec, hnests⟩ := h
  cases hspec with
  | term h =>
      obtain ⟨before, last, rfl, hbefore, hlast⟩ := List.map_eq_append_iff.mp hplaced
      obtain ⟨⟨ending, _⟩, rfl, rfl⟩ := List.map_eq_singleton_iff.mp hlast
      rw [readSpec, reads_derived maxNesting ⟨h, hnests⟩ before ending .finish [] hbefore trivial]
      rfl
  | contract harguments hresult =>
      obtain ⟨hfirst, hsecond⟩ :=
        (nestsWithin_separated harguments.isBalanced ⟨rfl, rfl⟩).mp hnests
      exact readSpec_contract (reads_derived maxNesting ⟨harguments, hfirst⟩)
        (reads_derived maxNesting ⟨hresult, hsecond⟩) hplaced

/-! ### Read tokens are derived -/

/-- Wherever the reader yields a value, the tokens that it takes are related to
the value. -/
def Takes (reader : Reader α) (relation : List Token → α → Prop) : Prop :=
  ∀ placed value rest, reader placed = .ok (value, rest) →
    ∃ front, placed = front ++ rest ∧ relation (front.map Prod.snd) value

theorem eat?_eq_some_iff {wanted : Token} {placed rest : Tokens} :
    eat? wanted placed = some rest ↔ ∃ place, placed = (place, wanted) :: rest := by
  constructor
  · intro h
    unfold eat? at h
    split at h
    next => cases h
    next place token behind =>
      split at h <;> cases h
      next htoken => exact ⟨place, by rw [htoken]⟩
  · rintro ⟨place, rfl⟩
    exact eat?_eq_some wanted place rest

theorem exists_cons_of_expect {wanted : Token} {placed rest : Tokens}
    (h : expect wanted placed = .ok rest) : ∃ place, placed = (place, wanted) :: rest := by
  unfold expect at h
  split at h
  next heat =>
    cases h
    exact eat?_eq_some_iff.mp heat
  next => cases h

/-- The tokens are a sequence of items and the closing token. -/
def Closed (close : Token) (Item : List Token → α → Prop) (tokens : List Token)
    (values : List α) : Prop :=
  ∃ inside, tokens = inside ++ [close] ∧ Sequence Item inside values

theorem Takes.readItems
    {item : Reader α} {close : Token} {Item : List Token → α → Prop} (hitem : Takes item Item)
    (steps : Nat) : Takes (readItems item close steps) (Closed close Item) := by
  induction steps with
  | zero =>
      intro placed values rest h
      obtain ⟨after, hclose, hvalues⟩ := bind_eq_ok_iff.mp h
      cases hvalues
      obtain ⟨place, rfl⟩ := exists_cons_of_expect hclose
      exact ⟨[(place, close)], rfl, [], rfl, .empty⟩
  | succ steps ih =>
      intro placed values rest h
      rw [Notation.readItems] at h
      split at h
      next heat =>
        cases h
        obtain ⟨place, rfl⟩ := eat?_eq_some_iff.mp heat
        exact ⟨[(place, close)], rfl, [], rfl, .empty⟩
      next =>
        obtain ⟨⟨first, behind⟩, hfirst, hmore⟩ := bind_eq_ok_iff.mp h
        obtain ⟨front, rfl, hfront⟩ := hitem _ _ _ hfirst
        dsimp only at hmore
        split at hmore
        next heat =>
          obtain ⟨place, rfl⟩ := eat?_eq_some_iff.mp heat
          obtain ⟨⟨others, after⟩, hothers, hvalues⟩ := bind_eq_ok_iff.mp hmore
          cases hvalues
          obtain ⟨back, rfl, inside, hinside, hsequence⟩ := ih _ _ _ hothers
          refine ⟨front ++ (place, .comma) :: back, by simp, ?_⟩
          refine ⟨front.map Prod.snd ++ .comma :: inside, ?_, .more hfront hsequence⟩
          simp [hinside]
        next =>
          obtain ⟨after, hclose, hvalues⟩ := bind_eq_ok_iff.mp hmore
          cases hvalues
          obtain ⟨place, rfl⟩ := exists_cons_of_expect hclose
          refine ⟨front ++ [(place, close)], by simp, front.map Prod.snd, ?_, .last hfront⟩
          simp

/-- A bound is taken if there is one, and nothing otherwise. -/
theorem readBound_cases
    {placed rest : Tokens} {found : Option Value} (h : readBound placed = (found, rest)) :
    (found = none ∧ placed = rest) ∨
      ∃ place token stop literal, found = some stop ∧ placed = (place, token) :: rest ∧
        IsLiteral token stop literal := by
  unfold readBound at h
  split at h
  next =>
    cases h
    exact .inl ⟨rfl, rfl⟩
  next place token behind =>
    split at h
    next hvalue =>
      cases h
      obtain ⟨literal, hliteral⟩ := isLiteral_of_boundValue? hvalue
      exact .inr ⟨place, token, _, literal, rfl, rfl, hliteral⟩
    next =>
      cases h
      exact .inl ⟨rfl, rfl⟩

theorem takes_readIntervalWithoutStart (excludesStop : Bool) :
    Takes (readIntervalWithoutStart excludesStop) fun tokens term =>
      Within levels (IsTerm engine resolve) (.dots excludesStop :: tokens) term := by
  intro placed term rest h
  unfold readIntervalWithoutStart at h
  split at h
  next stop after hread =>
    cases h
    rcases readBound_cases hread with ⟨hnone, -⟩ | ⟨place, token, _, literal, hfound, rfl, hliteral⟩
    · cases hnone
    · cases hfound
      exact ⟨[(place, token)], rfl, .upTo excludesStop hliteral,
        (nestsWithin_cons ⟨rfl, rfl⟩).mpr
          (nestsWithin_of_plain (List.forall_mem_singleton.mpr hliteral.isPlain))⟩
  next => cases h

theorem takes_readInterval
    (hstart : IsLiteral token bound literal) {placed rest : Tokens} {term : Term}
    (h : readInterval bound literal placed = (term, rest)) :
    ∃ front, placed = front ++ rest ∧
      Within levels (IsTerm engine resolve) (token :: front.map Prod.snd) term := by
  unfold readInterval at h
  split at h
  next place excludesStop behind =>
    obtain ⟨stop, after, hread⟩ : ∃ stop after, readBound behind = (stop, after) := ⟨_, _, rfl⟩
    rw [hread] at h
    cases h
    rcases readBound_cases hread with
      ⟨rfl, rfl⟩ | ⟨middle, last, stop, lastLiteral, rfl, rfl, hstop⟩
    · rw [Option.isSome_none, Bool.and_false]
      refine ⟨[(place, .dots excludesStop)], rfl, .startingAt excludesStop hstart, ?_⟩
      rw [nestsWithin_cons hstart.isPlain]
      exact nestsWithin_of_plain (List.forall_mem_singleton.mpr ⟨rfl, rfl⟩)
    · rw [Option.isSome_some, Bool.and_true]
      refine ⟨[(place, .dots excludesStop), (middle, last)], rfl,
        .between excludesStop hstart hstop, ?_⟩
      rw [nestsWithin_cons hstart.isPlain]
      refine (nestsWithin_cons ⟨rfl, rfl⟩).mpr ?_
      exact nestsWithin_of_plain (List.forall_mem_singleton.mpr hstop.isPlain)
  next =>
    cases h
    exact ⟨[], rfl, .literal hstart,
      nestsWithin_of_plain (List.forall_mem_singleton.mpr hstart.isPlain)⟩

theorem isTerm_of_readName?
    {offset : Nat} {name : String} {term : Term}
    (h : readName? resolve termWords (fun id => .scope ⟨id, name⟩) offset name = .ok term) :
    IsTerm engine resolve [.word name] term := by
  unfold readName? at h
  split at h
  next meaning hlookup =>
    cases h
    have hword := Table.mem_of_get? hlookup
    simp only [termWords, List.mem_cons, Prod.mk.injEq, List.not_mem_nil, or_false] at hword
    rcases hword with ⟨rfl, rfl⟩ | ⟨rfl, rfl⟩ | ⟨rfl, rfl⟩ | ⟨rfl, rfl⟩
    · exact .wordAny
    · exact .wordNil
    · exact .wordTrue
    · exact .wordFalse
  next hlookup =>
    split at h
    next hcapital =>
      split at h
      next hresolve =>
        cases h
        refine .scope ?_ hcapital hresolve
        rintro rfl
        exact absurd hlookup (by decide)
      next => cases h
    next => cases h

theorem Takes.readEntry
    {reader : Reader Term} (hreader : Takes reader (Within levels (IsTerm engine resolve))) :
    Takes (readEntry reader) (Within levels (IsEntry engine resolve)) := by
  intro placed entry rest h
  unfold Notation.readEntry at h
  split at h
  next place name behind =>
    obtain ⟨⟨term, after⟩, hread, hentry⟩ := bind_eq_ok_iff.mp h
    cases hentry
    obtain ⟨front, rfl, hterm, hnests⟩ := hreader _ _ _ hread
    exact ⟨(place, .label name) :: front, rfl, .labelled hterm,
      (nestsWithin_cons ⟨rfl, rfl⟩).mpr hnests⟩
  next =>
    obtain ⟨⟨key, behind⟩, hkey, hmore⟩ := bind_eq_ok_iff.mp h
    obtain ⟨front, rfl, hkeyTerm, hkeyNests⟩ := hreader _ _ _ hkey
    obtain ⟨behindArrow, harrow, hlast⟩ := bind_eq_ok_iff.mp hmore
    obtain ⟨place, rfl⟩ := exists_cons_of_expect harrow
    obtain ⟨⟨term, after⟩, hread, hentry⟩ := bind_eq_ok_iff.mp hlast
    obtain ⟨back, rfl, hterm, hnests⟩ := hreader _ _ _ hread
    cases hentry
    refine ⟨front ++ (place, .arrow) :: back, by simp, ?_⟩
    rw [List.map_append, List.map_cons]
    exact ⟨.keyed hkeyTerm hterm,
      (nestsWithin_separated hkeyTerm.isBalanced ⟨rfl, rfl⟩).mpr ⟨hkeyNests, hnests⟩⟩

/-- What is read inside a bracket is one level further inside. -/
theorem takes_readNested
    {inner : Option (Reader α)} {entry : Reader α → Reader β} {Item : List Token → β → Prop}
    (hmatched : ∀ tokens value, Item tokens value → IsMatched tokens)
    (hinner : ∀ reader ∈ inner, ∃ below, levels = below + 1 ∧
      Takes (entry reader) (Within below Item))
    (opening close : Token) (hopening : opening.opens = true ∧ opening.closes = false)
    (hclosing : close.opens = false ∧ close.closes = true) (offset : Nat) :
    Takes (readNested inner entry offset close) fun tokens values =>
      ∃ inside, tokens = inside ++ [close] ∧ Sequence Item inside values ∧
        NestsWithin levels (opening :: (inside ++ [close])) := by
  intro placed values rest h
  unfold Notation.readNested at h
  split at h
  next => cases h
  next reader =>
    obtain ⟨below, rfl, hitem⟩ := hinner reader rfl
    obtain ⟨front, hfront, inside, hinside, hitems⟩ := hitem.readItems _ _ _ _ h
    obtain ⟨hsequence, hnests⟩ :=
      (within_sequence_iff fun _ _ h => (hmatched _ _ h).isBalanced).mpr hitems
    have henclosed := (nestsWithin_enclosed hopening hclosing
      (hsequence.isMatched hmatched).isBalanced).mpr ⟨below, rfl, hnests⟩
    exact ⟨front, hfront, inside, hinside, hsequence, henclosed⟩

theorem Takes.readTermUsing
    {inner : Option (Reader Term)}
    (hinner : ∀ reader ∈ inner, ∃ below, levels = below + 1 ∧
      Takes reader (Within below (IsTerm engine resolve))) :
    Takes (readTermUsing engine resolve inner) (Within levels (IsTerm engine resolve)) := by
  intro placed term rest h
  unfold Notation.readTermUsing at h
  split at h
  next => cases h
  next offset token behind =>
    have hplain : ∀ {single : Token}, single.IsPlain → NestsWithin levels [single] :=
      fun hsingle => nestsWithin_of_plain (List.forall_mem_singleton.mpr hsingle)
    split at h
    next =>
      obtain ⟨⟨items, after⟩, hitems, hterm⟩ := bind_eq_ok_iff.mp h
      cases hterm
      have htakes := takes_readNested (fun _ _ hitem => hitem.isMatched) hinner
        .openBracket .closeBracket ⟨rfl, rfl⟩ ⟨rfl, rfl⟩ offset
      obtain ⟨front, rfl, inside, hinside, hsequence, hnests⟩ := htakes _ _ _ hitems
      refine ⟨(offset, .openBracket) :: front, rfl, ?_⟩
      rw [List.map_cons, hinside]
      exact ⟨.list hsequence, hnests⟩
    next =>
      obtain ⟨⟨entries, after⟩, hentries, hterm⟩ := bind_eq_ok_iff.mp h
      cases hterm
      have hentry : ∀ reader ∈ inner, ∃ below, levels = below + 1 ∧
          Takes (Notation.readEntry reader) (Within below (IsEntry engine resolve)) :=
        fun reader hreader =>
        (hinner reader hreader).imp fun _ hbelow => ⟨hbelow.1, hbelow.2.readEntry⟩
      have htakes := takes_readNested (fun _ _ hitem => hitem.isMatched) hentry
        .openBrace .closeBrace ⟨rfl, rfl⟩ ⟨rfl, rfl⟩ offset
      obtain ⟨front, rfl, inside, hinside, hsequence, hnests⟩ := htakes _ _ _ hentries
      refine ⟨(offset, .openBrace) :: front, rfl, ?_⟩
      rw [List.map_cons, hinside]
      exact ⟨.map hsequence, hnests⟩
    next name =>
      cases h
      exact ⟨[(offset, .symbol name)], rfl, .symbol name, hplain ⟨rfl, rfl⟩⟩
    next source =>
      split at h
      next hpattern =>
        cases h
        exact ⟨[(offset, .regexp source)], rfl, .regexp hpattern, hplain ⟨rfl, rfl⟩⟩
      next => cases h
    next excludesStop =>
      obtain ⟨front, rfl, hfront⟩ := takes_readIntervalWithoutStart excludesStop _ _ _ h
      exact ⟨(offset, .dots excludesStop) :: front, rfl, hfront⟩
    next number =>
      obtain ⟨front, rfl, hfront⟩ := takes_readInterval (.int number) (Except.ok.inj h)
      exact ⟨(offset, .int number) :: front, rfl, hfront⟩
    next number =>
      obtain ⟨front, rfl, hfront⟩ := takes_readInterval (.float number) (Except.ok.inj h)
      exact ⟨(offset, .float number) :: front, rfl, hfront⟩
    next content =>
      obtain ⟨front, rfl, hfront⟩ := takes_readInterval (.string content) (Except.ok.inj h)
      exact ⟨(offset, .string content) :: front, rfl, hfront⟩
    next name =>
      obtain ⟨found, hfound, hterm⟩ := bind_eq_ok_iff.mp h
      cases hterm
      exact ⟨[(offset, .word name)], rfl, isTerm_of_readName? hfound, hplain ⟨rfl, rfl⟩⟩
    next => cases h

/-- A reader takes tokens that derive the term it yields, with no more levels
than it has. -/
theorem takes_readTerm (levels : Nat) :
    Takes (readTerm engine resolve levels) (Within levels (IsTerm engine resolve)) := by
  induction levels with
  | zero => exact Takes.readTermUsing nofun
  | succ levels ih =>
      refine Takes.readTermUsing ?_
      rintro _ ⟨⟩
      exact ⟨levels, rfl, ih⟩

theorem exists_of_finishAt {placed : Tokens} {result : Unit} (h : finishAt placed = .ok result) :
    ∃ place rest, placed = (place, .finish) :: rest := by
  obtain ⟨rest, hfinish, -⟩ := bind_eq_ok_iff.mp h
  obtain ⟨place, rfl⟩ := exists_cons_of_expect hfinish
  exact ⟨place, rest, rfl⟩

theorem derived_of_readSpec
    {placed : Tokens} {term : Term} (h : readSpec engine resolve placed = .ok term) :
    ∃ front rest, placed.map Prod.snd = front ++ .finish :: rest ∧
      Within maxNesting (IsSpec engine resolve) front term := by
  obtain ⟨⟨first, behind⟩, hfirst, hmore⟩ := bind_eq_ok_iff.mp h
  obtain ⟨front, rfl, hfront, hfrontNests⟩ := takes_readTerm maxNesting _ _ _ hfirst
  dsimp only at hmore
  split at hmore
  next heat =>
    obtain ⟨place, rfl⟩ := eat?_eq_some_iff.mp heat
    obtain ⟨⟨second, after⟩, hsecond, hlast⟩ := bind_eq_ok_iff.mp hmore
    obtain ⟨back, rfl, hback, hbackNests⟩ := takes_readTerm maxNesting _ _ _ hsecond
    obtain ⟨_, hfinish, hspec⟩ := bind_eq_ok_iff.mp hlast
    obtain ⟨last, rest, rfl⟩ := exists_of_finishAt hfinish
    cases hspec
    refine ⟨front.map Prod.snd ++ .arrow :: back.map Prod.snd, rest.map Prod.snd, by simp,
      .contract hfront hback, ?_⟩
    exact (nestsWithin_separated hfront.isBalanced ⟨rfl, rfl⟩).mpr ⟨hfrontNests, hbackNests⟩
  next =>
    obtain ⟨_, hfinish, hspec⟩ := bind_eq_ok_iff.mp hmore
    obtain ⟨last, rest, rfl⟩ := exists_of_finishAt hfinish
    cases hspec
    exact ⟨front.map Prod.snd, rest.map Prod.snd, by simp, .term hfront, hfrontNests⟩

/-! ### Sources -/

theorem readNumber_ne_finish
    {negative : Bool} {chars rest : List Char} {width : Nat} :
    readNumber negative chars ≠ .ok (.finish, width, rest) := by
  intro h
  unfold readNumber at h
  dsimp only at h
  split at h
  · cases h
  · obtain ⟨found, hfound, hrest⟩ := bind_eq_ok_iff.mp h
    cases hrest
    unfold integerToken at hfound
    split at hfound
    · cases hfound
    · split at hfound <;> cases hfound

/-- No lexeme is the end of the source. -/
theorem readLexeme_ne_finish
    {c : Char} {chars rest : List Char} {width : Nat} :
    readLexeme c chars ≠ .ok (.finish, width, rest) := by
  intro h
  unfold readLexeme at h
  split at h
  case h_9 =>
    dsimp only at h
    split at h <;> cases h
  case h_10 => split at h <;> cases h
  case h_11 => split at h <;> cases h
  case h_12 =>
    split at h
    · exact readNumber_ne_finish h
    · split at h
      · obtain ⟨⟨found, size, after⟩, hread, hfound⟩ := bind_eq_ok_iff.mp h
        cases hfound
        exact readNumber_ne_finish hread
      · split at h
        · have hword := Except.ok.inj h
          unfold readWord at hword
          dsimp only at hword
          split at hword <;> cases hword
        · cases h
  all_goals cases h

theorem tokensFrom_ends
    {steps offset : Nat} {chars : List Char} {placed : Tokens}
    (h : tokensFrom steps offset chars = .ok placed) :
    ∃ body, placed.map Prod.snd = body ++ [.finish] ∧ .finish ∉ body := by
  induction steps generalizing offset chars placed with
  | zero =>
      cases h
      exact ⟨[], rfl, nofun⟩
  | succ steps ih =>
      cases chars with
      | nil =>
          cases h
          exact ⟨[], rfl, nofun⟩
      | cons c chars =>
          rw [tokensFrom] at h
          split at h
          · exact ih h
          · split at h
            next => cases h
            next token width rest hread =>
              obtain ⟨others, hothers, hall⟩ := bind_eq_ok_iff.mp h
              cases hall
              obtain ⟨body, hbody, hnot⟩ := ih hothers
              refine ⟨token :: body, by rw [List.map_cons, hbody]; rfl, ?_⟩
              rintro (_ | ⟨_, hmem⟩)
              · exact readLexeme_ne_finish hread
              · exact hnot hmem

/-- Reading a source yields a term if its tokens, without the end of the source,
derive the term with brackets and braces that are nested as deep as allowed, and
in no other case. -/
theorem parsed_iff_derived
    (engine : Pattern.Engine) (resolve : Resolver) (source : String) (term : Term) :
    parseSpec engine resolve source = .ok term ↔
      ∃ placed body, tokens source = .ok placed ∧ placed.map Prod.snd = body ++ [.finish] ∧
        IsSpec engine resolve body term ∧ NestsWithin maxNesting body := by
  constructor
  · intro h
    obtain ⟨placed, hplaced, hread⟩ := bind_eq_ok_iff.mp h
    obtain ⟨body, hbody, hnot⟩ := tokensFrom_ends hplaced
    obtain ⟨front, rest, hfront, hspec⟩ := derived_of_readSpec hread
    have hsplit : body ++ [.finish] = front ++ .finish :: rest := hbody.symm.trans hfront
    -- the end of the source that was read is the only one
    have hsame : front = body := by
      rcases List.append_eq_append_iff.mp hsplit with ⟨more, rfl, hmore⟩ | ⟨more, rfl, hmore⟩
      · cases more with
        | nil => exact List.append_nil body
        | cons first others =>
            obtain ⟨-, hothers⟩ := List.cons_eq_cons.mp hmore
            cases others <;> cases hothers
      · cases more with
        | nil => exact (List.append_nil front).symm
        | cons first others =>
            obtain ⟨rfl, -⟩ := List.cons_eq_cons.mp hmore
            exact absurd (List.mem_append_right front List.mem_cons_self) hnot
    exact ⟨placed, body, hplaced, hbody, hsame ▸ hspec⟩
  · rintro ⟨placed, body, hplaced, hbody, hspec⟩
    unfold parseSpec
    rw [hplaced]
    exact readSpec_derived hspec hbody

end CallContract.Notation
