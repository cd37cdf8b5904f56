import CallContract.Proofs.ContractTerms
import CallContract.Proofs.Spelling
import CallContract.Proofs.TextLiterals

/-!
# Tokens of printed contracts

The text of a signature falls into the tokens of its parts: of a descriptor
that a source can spell, and that does not hold a slash in a pattern or a bound
that is not finite.  A text among the bounds is read back as the notation reads
its quoted form, which is another text if that form needs escapes that the
notation does not have.  Items are followed by a comma, a blank, or a closing
bracket or brace, none of which any lexeme goes on with.
-/

namespace CallContract

open Notation

/-! ### Printable signatures -/

/-- A text is printed with no escapes other than those the notation knows, and
a number is finite. -/
def Value.IsPrintableBound : Value → Prop
  | .float number => ∃ negative rank, number = .finite negative rank
  | .text content => IsPlainlyQuoted content.toList
  | _ => True

mutual

def Descriptor.IsPrintable : Descriptor → Prop
  | .textMatches pattern => '/' ∉ pattern.source.toList
  | .within interval =>
      (∀ bound ∈ interval.start, bound.IsPrintableBound) ∧
        ∀ bound ∈ interval.stop, bound.IsPrintableBound
  | .tuple items => ItemsArePrintable items
  | _ => True

def ItemsArePrintable : List Descriptor → Prop
  | [] => True
  | item :: rest => item.IsPrintable ∧ ItemsArePrintable rest

end

/-- Keywords have names that can stand before a colon. -/
structure Signature.IsPrintable (signature : Signature) : Prop where
  positional : ∀ descriptor ∈ signature.positional, descriptor.IsPrintable
  names : ∀ keyword ∈ signature.keywords, StartsName keyword.1.name.toList
  keywords : ∀ keyword ∈ signature.keywords, keyword.2.IsPrintable
  result : signature.result.IsPrintable

/-! ### What is read from printed texts -/

def Value.readBack : Value → Value
  | .text content => .text (Notation.readBack content)
  | value => value

def Interval.readBack (interval : Interval) : Interval :=
  { interval with
    start := interval.start.map Value.readBack
    stop := interval.stop.map Value.readBack }

mutual

def Descriptor.readBack : Descriptor → Descriptor
  | .within interval => .within interval.readBack
  | .tuple items => .tuple (readBackItems items)
  | descriptor => descriptor

def readBackItems : List Descriptor → List Descriptor
  | [] => []
  | item :: rest => item.readBack :: readBackItems rest

end

def readBackKeyword (keyword : Symbol × Descriptor) : Symbol × Descriptor :=
  (keyword.1, keyword.2.readBack)

/-- The signature with each text among its bounds as it is read back. -/
def Signature.readBack (signature : Signature) : Signature where
  positional := signature.positional.map Descriptor.readBack
  keywords := signature.keywords.map readBackKeyword
  result := signature.result.readBack

theorem readBackItems_eq_map (items : List Descriptor) :
    readBackItems items = items.map Descriptor.readBack := by
  induction items with
  | nil => rfl
  | cons item rest ih => rw [readBackItems, ih, List.map_cons]

theorem Value.IsPrintableBound.readBack_eq {bound : Value} (h : bound.IsPrintableBound) :
    bound.readBack = bound := by
  cases bound with
  | text content => rw [readBack, (readBack_eq_iff content).mpr h]
  | _ => rfl

theorem map_readBack_of_isPrintableBound
    {bound : Option Value} (h : ∀ value ∈ bound, value.IsPrintableBound) :
    bound.map Value.readBack = bound := by
  cases bound with
  | none => rfl
  | some value => rw [Option.map_some, (h value rfl).readBack_eq]

mutual

theorem Descriptor.IsPrintable.readBack_eq :
    {descriptor : Descriptor} → descriptor.IsPrintable → descriptor.readBack = descriptor
  | .within interval, ⟨hstart, hstop⟩ => by
      rw [Descriptor.readBack, Interval.readBack, map_readBack_of_isPrintableBound hstart,
        map_readBack_of_isPrintableBound hstop]
  | .tuple items, h => by rw [Descriptor.readBack, readBackItems_of_arePrintable items h]
  | .instanceOf _, _ | .respondsTo _, _ | .textMatches _, _ | .passes _, _ | .truthy, _
  | .falsy, _ | .absent, _ | .anything, _ => rfl

theorem readBackItems_of_arePrintable :
    (items : List Descriptor) → ItemsArePrintable items → readBackItems items = items
  | [], _ => rfl
  | item :: rest, ⟨hitem, hrest⟩ => by
      rw [readBackItems, hitem.readBack_eq,
        readBackItems_of_arePrintable rest hrest]

end

/-- A printable signature is read back as it is. -/
theorem Signature.IsPrintable.readBack_eq {signature : Signature} (h : signature.IsPrintable) :
    signature.readBack = signature := by
  have hpositional : signature.positional.map Descriptor.readBack = signature.positional.map id :=
    List.map_congr_left fun descriptor hdescriptor =>
      (h.positional descriptor hdescriptor).readBack_eq
  have hkeywords : signature.keywords.map readBackKeyword = signature.keywords.map id := by
    refine List.map_congr_left fun keyword hkeyword => ?_
    rw [readBackKeyword, (h.keywords keyword hkeyword).readBack_eq]
    rfl
  rw [Signature.readBack, hpositional, hkeywords, h.result.readBack_eq, List.map_id, List.map_id]

/-! ### Tokens of signatures -/

def separated : List (List Token) → List Token
  | [] => []
  | [item] => item
  | item :: rest => item ++ .comma :: separated rest

def bracketed (items : List (List Token)) : List Token :=
  .openBracket :: (separated items ++ [.closeBracket])

def boundTokens : Option Value → List Token
  | some (.int number) => [.int number]
  | some (.float number) => [.float number]
  | some (.text content) => [.string content]
  | _ => []

mutual

def Descriptor.tokens : Descriptor → List Token
  | .instanceOf type => [.word type.name]
  | .respondsTo member => [.symbol member.name]
  | .textMatches pattern => [.regexp pattern.source]
  | .within interval =>
      boundTokens interval.start ++ .dots interval.excludesStop :: boundTokens interval.stop
  | .tuple items => bracketed (itemTokens items)
  | .passes _ => []
  | .truthy => [.word "true"]
  | .falsy => [.word "false"]
  | .absent => [.word "nil"]
  | .anything => [.word "Any"]

def itemTokens : List Descriptor → List (List Token)
  | [] => []
  | item :: rest => item.tokens :: itemTokens rest

end

theorem itemTokens_eq_map (items : List Descriptor) :
    itemTokens items = items.map Descriptor.tokens := by
  induction items with
  | nil => rfl
  | cons item rest ih => rw [itemTokens, ih, List.map_cons]

theorem texts_eq_map (items : List Descriptor) :
    Descriptor.texts items = items.map Descriptor.text := by
  induction items with
  | nil => rfl
  | cons item rest ih => rw [Descriptor.texts, ih, List.map_cons]

def keywordTokens (keyword : Symbol × Descriptor) : List Token :=
  .label keyword.1.name :: keyword.2.tokens

def Signature.keywordsTokens (signature : Signature) : List Token :=
  .openBrace :: (separated (signature.keywords.map keywordTokens) ++ [.closeBrace])

def Signature.argumentTokens (signature : Signature) : List Token :=
  match signature.positional, signature.keywords with
  | [], _ :: _ => signature.keywordsTokens
  | positional, [] => bracketed (positional.map Descriptor.tokens)
  | positional, _ :: _ =>
      bracketed (positional.map Descriptor.tokens ++ [signature.keywordsTokens])

def Signature.tokens (signature : Signature) : List Token :=
  signature.argumentTokens ++ .arrow :: signature.result.tokens

/-! ### Delimiters -/

/-- The rest starts with what may stand behind an item. -/
def Delimits (rest : List Char) : Prop :=
  ∀ c ∈ rest.head?, c = ',' ∨ c = ']' ∨ c = '\x7d' ∨ c = ' '

variable {rest : List Char}

theorem Delimits.endsName (h : Delimits rest) : EndsName rest := by
  intro c hc
  rcases h c hc with rfl | rfl | rfl | rfl <;> decide

theorem Delimits.endsFraction (h : Delimits rest) : EndsFraction rest := by
  intro c hc
  rcases h c hc with rfl | rfl | rfl | rfl <;> rfl

theorem Delimits.isLabelColon_eq (h : Delimits rest) : isLabelColon rest = false := by
  cases rest with
  | nil => rfl
  | cons c rest => rcases h c rfl with rfl | rfl | rfl | rfl <;> rfl

theorem Delimits.readFraction?_eq (h : Delimits rest) : readFraction? rest = none := by
  cases rest with
  | nil => rfl
  | cons c rest => rcases h c rfl with rfl | rfl | rfl | rfl <;> rfl

/-- The rest starts with what may stand behind a value, which may be a key. -/
def EndsValue (rest : List Char) : Prop :=
  Delimits rest ∨ ∃ more, rest = '=' :: '>' :: more

theorem EndsValue.leavesName (h : EndsValue rest) : LeavesName rest := by
  obtain hdelimits | ⟨more, rfl⟩ := h
  · exact hdelimits.endsName.leavesName
  · exact leavesName_arrow more

theorem EndsValue.isLabelColon_eq (h : EndsValue rest) : isLabelColon rest = false := by
  obtain hdelimits | ⟨more, rfl⟩ := h
  · exact hdelimits.isLabelColon_eq
  · rfl

theorem EndsValue.endsFraction (h : EndsValue rest) : EndsFraction rest := by
  obtain hdelimits | ⟨more, rfl⟩ := h
  · exact hdelimits.endsFraction
  · rintro _ ⟨⟩
    rfl

theorem EndsValue.readFraction?_eq (h : EndsValue rest) : readFraction? rest = none := by
  obtain hdelimits | ⟨more, rfl⟩ := h
  · exact hdelimits.readFraction?_eq
  · rfl

/-- The text falls into the tokens wherever it stands as an item. -/
def Lexes (text : String) (tokens : List Token) : Prop :=
  ∀ rest, Delimits rest → Cuts (text.toList ++ rest) tokens rest

/-- The text falls into the tokens wherever it stands as a value or a key. -/
def LexesValue (text : String) (tokens : List Token) : Prop :=
  ∀ rest, EndsValue rest → Cuts (text.toList ++ rest) tokens rest

theorem LexesValue.lexes {text : String} {tokens : List Token} (h : LexesValue text tokens) :
    Lexes text tokens := fun rest hrest => h rest (.inl hrest)

theorem lexes_commaSeparated
    {α : Type} {text : α → String} {tokens : α → List Token} {items : List α}
    (h : ∀ item ∈ items, Lexes (text item) (tokens item)) :
    Lexes (Text.commaSeparated (items.map text)) (separated (items.map tokens)) := by
  induction items with
  | nil => exact fun rest _ => .here rest
  | cons first others ih =>
      obtain ⟨hfirst, hothers⟩ := List.forall_mem_cons.mp h
      cases others with
      | nil => exact hfirst
      | cons second others =>
          intro rest hrest
          have hbehind := ih hothers rest hrest
          simp only [List.map_cons] at hbehind ⊢
          rw [Text.commaSeparated_cons_cons, String.toList_append, String.toList_append,
            List.append_assoc, List.append_assoc]
          refine (hfirst _ ?_).append (cuts_comma hbehind)
          rintro _ ⟨⟩
          exact .inl rfl

theorem Lexes.cuts_enclosed
    {inner : String} {tokens : List Token} (h : Lexes inner tokens)
    {opening closing : Char} {first last : Token}
    (hopening : ∀ chars, readLexeme opening chars = .ok (first, 1, chars))
    (hclosing : ∀ chars, readLexeme closing chars = .ok (last, 1, chars))
    (hopeningSolid : Text.isBlank opening = false) (hclosingSolid : Text.isBlank closing = false)
    (hdelimits : Delimits (closing :: rest)) :
    Cuts (opening :: (inner.toList ++ closing :: rest)) (first :: (tokens ++ [last])) rest :=
  .mark hopening hopeningSolid
    ((h _ hdelimits).append (.mark hclosing hclosingSolid (.here rest)))

theorem Lexes.cuts_brackets
    {inner : String} {tokens : List Token} (h : Lexes inner tokens) (rest : List Char) :
    Cuts (("[" ++ inner ++ "]").toList ++ rest) (.openBracket :: (tokens ++ [.closeBracket]))
      rest := by
  have hdelimits : Delimits (']' :: rest) := by
    rintro _ ⟨⟩
    exact .inr (.inl rfl)
  rw [String.toList_append, String.toList_append, List.append_assoc, List.append_assoc]
  exact h.cuts_enclosed (fun _ => rfl) (fun _ => rfl) rfl rfl hdelimits

theorem Lexes.cuts_braces
    {inner : String} {tokens : List Token} (h : Lexes inner tokens) (rest : List Char) :
    Cuts (("\x7b" ++ inner ++ "\x7d").toList ++ rest) (.openBrace :: (tokens ++ [.closeBrace]))
      rest := by
  have hdelimits : Delimits ('\x7d' :: rest) := by
    rintro _ ⟨⟩
    exact .inr (.inr (.inl rfl))
  rw [String.toList_append, String.toList_append, List.append_assoc, List.append_assoc]
  exact h.cuts_enclosed (fun _ => rfl) (fun _ => rfl) rfl rfl hdelimits

theorem Lexes.brackets
    {inner : String} {tokens : List Token} (h : Lexes inner tokens) :
    Lexes ("[" ++ inner ++ "]") (.openBracket :: (tokens ++ [.closeBracket])) :=
  fun rest _ => h.cuts_brackets rest

theorem Lexes.braces
    {inner : String} {tokens : List Token} (h : Lexes inner tokens) :
    Lexes ("\x7b" ++ inner ++ "\x7d") (.openBrace :: (tokens ++ [.closeBrace])) :=
  fun rest _ => h.cuts_braces rest

theorem lexesValue_word
    {name : String} (hname : IsName name.toList) (hstart : StartsName name.toList) :
    LexesValue name [.word name] := by
  intro rest hrest
  have hcuts := cuts_word hname hstart hrest.leavesName hrest.isLabelColon_eq
  rwa [String.ofList_toList] at hcuts

theorem isName_of_nameChars
    {name : List Char} (hnonempty : name ≠ []) (hchars : name.all isNameChar = true) :
    IsName name :=
  ⟨name, [], (List.append_nil name).symm, hnonempty, List.all_eq_true.mp hchars, .inl rfl⟩

theorem lexesValue_nil : LexesValue "nil" [.word "nil"] :=
  lexesValue_word (isName_of_nameChars (by decide) (by decide)) ⟨'n', ['i', 'l'], rfl, rfl⟩

theorem lexesValue_truth (truth : Bool) :
    LexesValue (Value.truthText truth) [.word (Value.truthText truth)] := by
  cases truth with
  | true =>
      exact lexesValue_word (isName_of_nameChars (by decide) (by decide))
        ⟨'t', ['r', 'u', 'e'], rfl, rfl⟩
  | false =>
      exact lexesValue_word (isName_of_nameChars (by decide) (by decide))
        ⟨'f', ['a', 'l', 's', 'e'], rfl, rfl⟩

theorem lexesValue_symbol {name : Symbol} (hname : IsName name.name.toList) :
    LexesValue name.literal [.symbol name.name] := by
  intro rest hrest
  have hcuts := cuts_symbol hname hrest.leavesName
  rw [String.ofList_toList] at hcuts
  rw [Symbol.literal, String.toList_append]
  exact hcuts

theorem startsName_of_capital {name : String} (h : startsWithCapital name = true) :
    StartsName name.toList := by
  unfold startsWithCapital at h
  split at h
  next c others hchars =>
    have halpha : c.isAlpha = true := Bool.or_eq_true_iff.mpr (.inl h)
    refine ⟨c, others, hchars, ?_⟩
    simp only [isNameStart, halpha, Bool.true_or]
  next => cases h

/-! ### Intervals -/

theorem cuts_bound
    {bound : Option Value} (hbound : ∀ value ∈ bound, IsBound value)
    (hprintable : ∀ value ∈ bound.map Value.readBack, value.IsPrintableBound)
    (hends : EndsFraction rest) (hpoint : readFraction? rest = none) :
    Cuts ((Interval.boundText bound).toList ++ rest) (boundTokens (bound.map Value.readBack))
      rest := by
  cases bound with
  | none => exact .here rest
  | some value =>
      obtain ⟨token, htoken⟩ := hbound value rfl
      have hshown := hprintable value.readBack rfl
      unfold boundValue? at htoken
      split at htoken <;> cases htoken
      next number => exact cuts_int number hends hpoint
      next number =>
        obtain ⟨negative, rank, rfl⟩ := hshown
        exact cuts_float negative rank hends
      next content => exact cuts_string content rest

theorem dots_of_cuts_point
    {chars : List Char} {token : Token} {tokens : List Token}
    (h : Cuts ('.' :: chars) (token :: tokens) rest) :
    ∃ excludesStop, token = .dots excludesStop := by
  cases h with
  | blank hblank => exact absurd hblank (by decide)
  | lexeme hsolid hread =>
      unfold readLexeme at hread
      split at hread
      case h_7 =>
        cases hread
        exact ⟨true, rfl⟩
      case h_8 =>
        cases hread
        exact ⟨false, rfl⟩
      case h_12 => cases hread
      all_goals exact absurd ‹ '.' = _ › (by decide)

/-- No bound starts with a point, so dots that stand before it are read whole. -/
theorem head_boundText_ne_point
    {bound : Option Value} (hbound : ∀ value ∈ bound, IsBound value)
    (hprintable : ∀ value ∈ bound.map Value.readBack, value.IsPrintableBound)
    (hrest : Delimits rest) :
    ∀ c ∈ ((Interval.boundText bound).toList ++ rest).head?, c ≠ '.' := by
  rintro c hc rfl
  cases bound with
  | none =>
      have hpoint := hrest '.' hc
      revert hpoint
      decide
  | some value =>
      have hcuts := cuts_bound hbound hprintable hrest.endsFraction hrest.readFraction?_eq
      obtain ⟨chars, hchars⟩ := List.head?_eq_some_iff.mp hc
      obtain ⟨token, htoken⟩ := hbound value rfl
      rw [hchars] at hcuts
      unfold boundValue? at htoken
      split at htoken <;> cases htoken
      all_goals
        obtain ⟨excludesStop, hdots⟩ := dots_of_cuts_point hcuts
        cases hdots

theorem lexes_interval
    {interval : Interval} (hstart : ∀ bound ∈ interval.start, IsBound bound)
    (hstop : ∀ bound ∈ interval.stop, IsBound bound)
    (hprintable : (Descriptor.within interval.readBack).IsPrintable) :
    Lexes interval.text (Descriptor.within interval.readBack).tokens := by
  intro rest hrest
  have hbehind : Cuts ((Interval.boundText interval.stop).toList ++ rest)
      (boundTokens interval.readBack.stop) rest :=
    cuts_bound hstop hprintable.2 hrest.endsFraction hrest.readFraction?_eq
  have hdots := cuts_dots interval.excludesStop
    (head_boundText_ne_point hstop hprintable.2 hrest) hbehind
  have hends : EndsFraction ((if interval.excludesStop then "..." else "..").toList ++
      ((Interval.boundText interval.stop).toList ++ rest)) := by
    cases interval.excludesStop
    all_goals
      rintro _ ⟨⟩
      rfl
  have hpoint : readFraction? ((if interval.excludesStop then "..." else "..").toList ++
      ((Interval.boundText interval.stop).toList ++ rest)) = none := by
    cases interval.excludesStop <;> rfl
  rw [Interval.text, String.toList_append, String.toList_append, List.append_assoc,
    List.append_assoc]
  exact (cuts_bound hstart hprintable.1 hends hpoint).append hdots

/-! ### Descriptors and signatures -/

variable {engine : Pattern.Engine} {resolve : Resolver}

mutual

theorem lexes_descriptor :
    (descriptor : Descriptor) → {levels : Nat} → IsWritten engine resolve levels descriptor.term →
      descriptor.readBack.IsPrintable → Lexes descriptor.text descriptor.readBack.tokens
  | .instanceOf _, _, .scope hname _ hcapital _, _ =>
      (lexesValue_word hname (startsName_of_capital hcapital)).lexes
  | .respondsTo _, _, .symbol hname, _ => (lexesValue_symbol hname).lexes
  | .textMatches _, _, .pattern hescaped _, hslash =>
      fun rest _ => cuts_regexp hescaped hslash rest
  | .within _, _, .interval hstart hstop _ _, hprintable =>
      lexes_interval hstart hstop hprintable
  | .tuple items, _, .list hitems, hprintable => by
      have hall := lexes_items items hitems hprintable
      rw [Descriptor.text, Descriptor.readBack, Descriptor.tokens, texts_eq_map,
        readBackItems_eq_map, itemTokens_eq_map, List.map_map]
      exact (lexes_commaSeparated hall).brackets
  | .passes _, _, hwritten, _ => nomatch hwritten
  | .truthy, _, _, _ => (lexesValue_truth true).lexes
  | .falsy, _, _, _ => (lexesValue_truth false).lexes
  | .absent, _, _, _ => lexesValue_nil.lexes
  | .anything, _, _, _ =>
      have hname : IsName "Any".toList := isName_of_nameChars (by decide) (by decide)
      (lexesValue_word hname ⟨'A', ['n', 'y'], rfl, rfl⟩).lexes

theorem lexes_items :
    (items : List Descriptor) → {levels : Nat} →
      (∀ term ∈ descriptorTerms items, IsWritten engine resolve levels term) →
      ItemsArePrintable (readBackItems items) →
      ∀ item ∈ items, Lexes item.text item.readBack.tokens
  | [], _, _, _ => nofun
  | item :: rest, _, hitems, ⟨hprintable, hothers⟩ => by
      obtain ⟨hwritten, hrest⟩ := List.forall_mem_cons.mp hitems
      exact List.forall_mem_cons.mpr
        ⟨lexes_descriptor item hwritten hprintable, lexes_items rest hrest hothers⟩

end

variable {signature : Signature} {levels : Nat}

theorem keywords_of_isWritten_map
    (h : IsWritten engine resolve levels (.map signature.keywordEntries)) :
    ∀ keyword ∈ signature.keywords,
      IsName keyword.1.name.toList ∧ ∃ below, IsWritten engine resolve below keyword.2.term := by
  intro keyword hkeyword
  have hentry : keywordEntry keyword ∈ signature.keywordEntries :=
    List.mem_map_of_mem hkeyword
  cases h with
  | map hnames _ hterms => exact ⟨hnames _ _ hentry, _, hterms _ hentry⟩

theorem items_of_isWritten_list
    {items : List Term} (h : IsWritten engine resolve levels (.list items)) :
    ∀ item ∈ items, ∃ below, IsWritten engine resolve below item := by
  cases h with
  | list hitems => exact fun item hitem => ⟨_, hitems item hitem⟩

theorem lexes_keyword
    {keyword : Symbol × Descriptor} (hname : IsName keyword.1.name.toList)
    (hstart : StartsName keyword.1.name.toList)
    (hlexes : Lexes keyword.2.text keyword.2.readBack.tokens) :
    Lexes (Signature.keywordText keyword) (keywordTokens (readBackKeyword keyword)) := by
  intro rest hrest
  have hcuts := cuts_label hname hstart (hlexes rest hrest)
  rw [String.ofList_toList] at hcuts
  rw [Signature.keywordText, String.toList_append, String.toList_append, List.append_assoc,
    List.append_assoc]
  exact hcuts

theorem lexes_keywords
    (h : IsWritten engine resolve levels (.map signature.keywordEntries))
    (hprintable : signature.readBack.IsPrintable) :
    Lexes signature.keywordsText signature.readBack.keywordsTokens := by
  rw [Signature.keywordsTokens, Signature.readBack, List.map_map]
  refine (lexes_commaSeparated fun keyword hkeyword => ?_).braces
  obtain ⟨hname, below, hwritten⟩ := keywords_of_isWritten_map h keyword hkeyword
  have hmem : readBackKeyword keyword ∈ signature.readBack.keywords := List.mem_map_of_mem hkeyword
  have hstart : StartsName keyword.1.name.toList := hprintable.names (readBackKeyword keyword) hmem
  exact lexes_keyword hname hstart
    (lexes_descriptor keyword.2 hwritten (hprintable.keywords _ hmem))

theorem lexes_positional
    (h : ∀ term ∈ signature.positionalTerms, ∃ below, IsWritten engine resolve below term)
    (hprintable : signature.readBack.IsPrintable) :
    ∀ descriptor ∈ signature.positional, Lexes descriptor.text descriptor.readBack.tokens := by
  intro descriptor hdescriptor
  obtain ⟨below, hwritten⟩ := h _ (List.mem_map_of_mem hdescriptor)
  exact lexes_descriptor descriptor hwritten
    (hprintable.positional _ (List.mem_map_of_mem hdescriptor))

/-- The argument side is a map, a list of descriptors, or a list with a map last;
what is read back has the same form. -/
theorem argument_cases (signature : Signature) :
    (signature.argumentTerm = .map signature.keywordEntries ∧
        signature.argumentText = signature.keywordsText ∧
        signature.argumentTokens = signature.keywordsTokens ∧
        signature.readBack.argumentTokens = signature.readBack.keywordsTokens) ∨
      (signature.argumentTerm = .list signature.positionalTerms ∧
        signature.argumentText =
          "[" ++ Text.commaSeparated (signature.positional.map Descriptor.text) ++ "]" ∧
        signature.argumentTokens = bracketed (signature.positional.map Descriptor.tokens) ∧
        signature.readBack.argumentTokens =
          bracketed (signature.readBack.positional.map Descriptor.tokens)) ∨
      (signature.argumentTerm =
          .list (signature.positionalTerms ++ [.map signature.keywordEntries]) ∧
        signature.argumentText = "[" ++ Text.commaSeparated
          (signature.positional.map Descriptor.text ++ [signature.keywordsText]) ++ "]" ∧
        signature.argumentTokens = bracketed
          (signature.positional.map Descriptor.tokens ++ [signature.keywordsTokens]) ∧
        signature.readBack.argumentTokens = bracketed
          (signature.readBack.positional.map Descriptor.tokens ++
            [signature.readBack.keywordsTokens])) := by
  obtain ⟨positional, keywords, result⟩ := signature
  simp only [← texts_eq_map]
  cases keywords with
  | nil => cases positional <;> exact .inr (.inl ⟨rfl, rfl, rfl, rfl⟩)
  | cons keyword keywords =>
      cases positional with
      | nil => exact .inl ⟨rfl, rfl, rfl, rfl⟩
      | cons first others => exact .inr (.inr ⟨rfl, rfl, rfl, rfl⟩)

theorem lexes_arguments
    (h : IsWritten engine resolve levels signature.argumentTerm)
    (hprintable : signature.readBack.IsPrintable) :
    Lexes signature.argumentText signature.readBack.argumentTokens := by
  have hitem : signature.readBack.positional.map Descriptor.tokens =
      signature.positional.map fun descriptor => descriptor.readBack.tokens :=
    List.map_map
  rcases argument_cases signature with
    ⟨hterm, htext, -, htokens⟩ | ⟨hterm, htext, -, htokens⟩ | ⟨hterm, htext, -, htokens⟩
  all_goals rw [hterm] at h; rw [htext, htokens]
  · exact lexes_keywords h hprintable
  · rw [hitem]
    exact (lexes_commaSeparated (lexes_positional (items_of_isWritten_list h) hprintable)).brackets
  · have hitems := List.forall_mem_append.mp (items_of_isWritten_list h)
    obtain ⟨below, hmap⟩ := hitems.2 _ List.mem_cons_self
    have hpieces : ∀ piece ∈
        signature.positional.map
            (fun descriptor => (descriptor.text, descriptor.readBack.tokens)) ++
          [(signature.keywordsText, signature.readBack.keywordsTokens)],
        Lexes piece.1 piece.2 := by
      refine List.forall_mem_append.mpr ⟨?_, ?_⟩
      · exact List.forall_mem_map.mpr (lexes_positional hitems.1 hprintable)
      · exact List.forall_mem_singleton.mpr (lexes_keywords hmap hprintable)
    have hlexes := lexes_commaSeparated hpieces
    simp only [List.map_append, List.map_map, List.map_cons, List.map_nil] at hlexes
    rw [hitem]
    exact hlexes.brackets

/-- The text of a signature falls into the tokens of what is read back from it,
if that is printable. -/
theorem cuts_signature
    (harguments : IsWritten engine resolve levels signature.argumentTerm)
    (hresult : IsWritten engine resolve levels signature.result.term)
    (hprintable : signature.readBack.IsPrintable) :
    Cuts signature.text.toList signature.readBack.tokens [] := by
  have hbehind := lexes_descriptor signature.result hresult hprintable.result [] nofun
  rw [List.append_nil] at hbehind
  rw [Signature.text, String.toList_append, String.toList_append, List.append_assoc]
  refine (lexes_arguments harguments hprintable _ ?_).append (cuts_spacedArrow hbehind)
  rintro _ ⟨⟩
  exact .inr (.inr (.inr rfl))

end CallContract
