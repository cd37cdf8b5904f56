import CallContract.Pattern.ExpressionEngine
import CallContract.Proofs.PrintedTokens
import CallContract.Proofs.ScopeHierarchy
import Mathlib

/-!
# Printed contracts are read back

Reading the tokens of a descriptor yields its term if a token follows that no
term goes on with, and reading the tokens of a signature yields the signature's
own term.  What is read back from a printed contract may have other texts among
its bounds, and the notation can spell it all the same.  If it has none, its term
compiles to the signature, so a printed contract denotes the contract it was
printed from, whatever has happened to the object space since: names of scopes
keep their meaning.
-/

namespace CallContract

open Notation

/-! ### Readers -/

/-- No term goes on with the token. -/
def Notation.Token.EndsTerm : Token → Prop
  | .comma | .closeBracket | .closeBrace | .arrow | .finish => True
  | _ => False

/-- Wherever the tokens stand before one that ends a term, the reader takes
exactly them, and yields the value. -/
def Reads (reader : Reader α) (tokens : List Token) (value : α) : Prop :=
  ∀ (placed : Tokens) (offset : Nat) (token : Token) (more : Tokens),
    placed.map Prod.snd = tokens → token.EndsTerm →
      reader (placed ++ (offset, token) :: more) = .ok (value, (offset, token) :: more)

/-- The reader does not yield anything from tokens that start with a token. -/
def Refuses (reader : Reader α) (token : Token) : Prop :=
  ∀ offset more result, reader ((offset, token) :: more) ≠ .ok result

variable {α β γ : Type} {item : Reader α} {close : Token}

theorem eat?_eq_some (token : Token) (offset : Nat) (more : Tokens) :
    eat? token ((offset, token) :: more) = some more :=
  if_pos rfl

theorem eat?_eq_none {wanted token : Token} (h : token ≠ wanted) (offset : Nat) (more : Tokens) :
    eat? wanted ((offset, token) :: more) = none :=
  if_neg h

theorem expect_eq_ok (token : Token) (offset : Nat) (more : Tokens) :
    expect token ((offset, token) :: more) = .ok more := by
  unfold expect
  rw [eat?_eq_some]

theorem Reads.exists_cons
    {tokens : List Token} {value : α} (h : Reads item tokens value) (hrefuses : Refuses item close)
    (hends : close.EndsTerm) : ∃ first rest, tokens = first :: rest ∧ first ≠ close := by
  cases tokens with
  | nil => exact absurd (h [] 0 close [] rfl hends) (hrefuses 0 [] _)
  | cons first rest =>
      refine ⟨first, rest, rfl, ?_⟩
      rintro rfl
      have hread := h ((first :: rest).map (Prod.mk 0)) 0 first [] (by simp) hends
      exact hrefuses _ _ _ hread

/-- The first item is read, and the token behind it decides how reading goes on. -/
theorem readItems_first
    {tokens : List Token} {value : α} (hread : Reads item tokens value)
    (hrefuses : Refuses item close) (hclose : close.EndsTerm) {placed : Tokens}
    (hplaced : placed.map Prod.snd = tokens) {token : Token} (htoken : token.EndsTerm)
    (offset : Nat) (more : Tokens) (steps : Nat) :
    readItems item close (steps + 1) (placed ++ (offset, token) :: more) =
      (match eat? .comma ((offset, token) :: more) with
      | some rest => do
          let (values, rest) ← readItems item close steps rest
          pure (value :: values, rest)
      | none => do
          let rest ← expect close ((offset, token) :: more)
          pure ([value], rest)) := by
  obtain ⟨first, rest, rfl, hfirst⟩ := hread.exists_cons hrefuses hclose
  obtain ⟨⟨place, _⟩, others, rfl, rfl, -⟩ := List.map_eq_cons_iff.mp hplaced
  have hvalue := hread _ offset token more hplaced htoken
  rw [List.cons_append] at hvalue ⊢
  rw [readItems, eat?_eq_none hfirst, hvalue]
  rfl

theorem reads_token
    {token : Token} {value : α}
    (h : ∀ offset more, item ((offset, token) :: more) = .ok (value, more)) :
    Reads item [token] value := by
  intro placed offset ending more hplaced _
  obtain ⟨⟨place, _⟩, rfl, rfl⟩ := List.map_eq_singleton_iff.mp hplaced
  exact h place _

/-- A key, an arrow and what the key stands for are read as a pair if no label
comes first. -/
theorem reads_paired
    (make : α → α → β) {reader : Reader α} {pair : Reader β}
    (hpair : ∀ place first rest, (∀ name, first ≠ .label name) →
      pair ((place, first) :: rest) = (do
        let (key, rest) ← reader ((place, first) :: rest)
        let rest ← expect .arrow rest
        let (value, rest) ← reader rest
        pure (make key value, rest)))
    {keyTokens tokens : List Token} {key value : α} (hkey : Reads reader keyTokens key)
    (hvalue : Reads reader tokens value)
    (hfirst : ∃ first rest, keyTokens = first :: rest ∧ ∀ name, first ≠ .label name) :
    Reads pair (keyTokens ++ .arrow :: tokens) (make key value) := by
  intro placed offset ending more hplaced hends
  obtain ⟨front, back, rfl, hfront, hback⟩ := List.map_eq_append_iff.mp hplaced
  obtain ⟨⟨middle, _⟩, behind, rfl, rfl, hbehind⟩ := List.map_eq_cons_iff.mp hback
  have hreadKey := hkey front middle .arrow (behind ++ (offset, ending) :: more) hfront trivial
  have hreadValue := hvalue behind offset ending more hbehind hends
  obtain ⟨first, others, rfl, hlabel⟩ := hfirst
  obtain ⟨⟨place, _⟩, others, rfl, rfl, -⟩ := List.map_eq_cons_iff.mp hfront
  rw [List.append_assoc, List.cons_append, List.cons_append, hpair _ _ _ hlabel,
    ← List.cons_append, hreadKey]
  simp only [bind, Except.bind, expect_eq_ok, hreadValue]
  rfl

/-! ### Sequences -/

/-- Items with commas between them, and maybe one behind the last. -/
inductive Notation.Sequence (Item : List Token → α → Prop) : List Token → List α → Prop
  | empty : Sequence Item [] []
  | last {tokens : List Token} {value : α} (h : Item tokens value) :
      Sequence Item tokens [value]
  | more {tokens rest : List Token} {value : α} {values : List α} (h : Item tokens value)
      (hrest : Sequence Item rest values) :
      Sequence Item (tokens ++ .comma :: rest) (value :: values)

theorem Notation.Sequence.imp
    {Item Other : List Token → α → Prop} {tokens : List Token} {values : List α}
    (himp : ∀ tokens value, Item tokens value → Other tokens value)
    (h : Sequence Item tokens values) : Sequence Other tokens values := by
  induction h with
  | empty => exact .empty
  | last h => exact .last (himp _ _ h)
  | more h _ ih => exact .more (himp _ _ h) ih

theorem sequence_separated
    {Item : List Token → α → Prop} {tokens : γ → List Token} {value : γ → α} {pieces : List γ}
    (hpieces : ∀ piece ∈ pieces, Item (tokens piece) (value piece)) :
    Sequence Item (separated (pieces.map tokens)) (pieces.map value) := by
  induction pieces with
  | nil => exact .empty
  | cons piece pieces ih =>
      obtain ⟨hpiece, hothers⟩ := List.forall_mem_cons.mp hpieces
      cases pieces with
      | nil => exact .last hpiece
      | cons second pieces => exact .more hpiece (ih hothers)

/-- An item takes at least one token, so there are no more items than tokens. -/
theorem Notation.Sequence.length_le
    (hrefuses : Refuses item close) (hclose : close.EndsTerm) {tokens : List Token}
    {values : List α} (h : Sequence (Reads item) tokens values) :
    values.length ≤ tokens.length := by
  induction h with
  | empty => exact Nat.le_refl 0
  | last h =>
      obtain ⟨first, rest, rfl, -⟩ := h.exists_cons hrefuses hclose
      simp
  | more h _ ih =>
      simp only [List.length_cons, List.length_append]
      omega

/-- The items of a sequence are read up to the closing token. -/
theorem readItems_sequence
    (hrefuses : Refuses item close) (hclose : close.EndsTerm) (hcomma : close ≠ .comma)
    {tokens : List Token} {values : List α} (h : Sequence (Reads item) tokens values)
    {placed : Tokens} (hplaced : placed.map Prod.snd = tokens)
    {steps : Nat} (hsteps : values.length ≤ steps) (offset : Nat) (more : Tokens) :
    readItems item close steps (placed ++ (offset, close) :: more) = .ok (values, more) := by
  induction h generalizing placed steps with
  | empty =>
      obtain rfl := List.map_eq_nil_iff.mp hplaced
      cases steps with
      | zero =>
          rw [List.nil_append, readItems, expect_eq_ok]
          rfl
      | succ steps =>
          rw [List.nil_append, readItems, eat?_eq_some]
  | last h =>
      obtain ⟨left, rfl⟩ := Nat.exists_eq_add_of_le' hsteps
      rw [List.length_singleton, readItems_first h hrefuses hclose hplaced hclose,
        eat?_eq_none hcomma, expect_eq_ok]
      rfl
  | more h _ ih =>
      obtain ⟨left, rfl⟩ := Nat.exists_eq_add_of_le' hsteps
      obtain ⟨front, back, rfl, hfront, hback⟩ := List.map_eq_append_iff.mp hplaced
      obtain ⟨⟨place, _⟩, behind, rfl, rfl, hbehind⟩ := List.map_eq_cons_iff.mp hback
      have hends : Token.EndsTerm .comma := trivial
      rw [List.append_assoc, List.cons_append, List.length_cons, ← Nat.add_assoc,
        readItems_first h hrefuses hclose hfront hends, eat?_eq_some]
      simp only [ih hbehind (Nat.le_add_left _ left)]
      rfl

/-- Reading goes on inside a bracket and comes back behind it. -/
theorem readNested_sequence
    {reader : Reader α} {entry : Reader α → Reader β} (hrefuses : Refuses (entry reader) close)
    (hclose : close.EndsTerm) (hcomma : close ≠ .comma) {inside : List Token} {values : List β}
    (h : Sequence (Reads (entry reader)) inside values) {placed : Tokens} {opening : Token}
    (hplaced : placed.map Prod.snd = opening :: (inside ++ [close])) :
    ∃ place behind, placed = (place, opening) :: behind ∧ ∀ offset more,
      readNested (some reader) entry offset close (behind ++ more) = .ok (values, more) := by
  obtain ⟨⟨place, _⟩, behind, rfl, rfl, hbehind⟩ := List.map_eq_cons_iff.mp hplaced
  obtain ⟨front, last, rfl, hfront, hlast⟩ := List.map_eq_append_iff.mp hbehind
  obtain ⟨⟨closing, _⟩, rfl, rfl⟩ := List.map_eq_singleton_iff.mp hlast
  refine ⟨place, _, rfl, fun offset more => ?_⟩
  have hlength := h.length_le hrefuses hclose
  rw [← hfront, List.length_map] at hlength
  rw [List.append_assoc, List.singleton_append]
  refine readItems_sequence hrefuses hclose hcomma h hfront ?_ closing more
  rw [List.length_append]
  omega

/-! ### Terms -/

variable {engine : Pattern.Engine} {resolve : Resolver} {levels : Nat}

theorem readTerm_eq (engine : Pattern.Engine) (resolve : Resolver) (levels : Nat) :
    ∃ inner, readTerm engine resolve levels = readTermUsing engine resolve inner := by
  cases levels with
  | zero => exact ⟨none, rfl⟩
  | succ levels => exact ⟨some (readTerm engine resolve levels), rfl⟩

theorem refuses_readTerm (hclose : close.EndsTerm) :
    Refuses (readTerm engine resolve levels) close := by
  obtain ⟨inner, hinner⟩ := readTerm_eq engine resolve levels
  intro offset more result h
  rw [hinner] at h
  cases close <;> first | exact hclose.elim | cases h

theorem reads_single
    {token : Token} {term : Term}
    (h : ∀ inner offset more,
      readTermUsing engine resolve inner ((offset, token) :: more) = .ok (term, more)) :
    Reads (readTerm engine resolve levels) [token] term := by
  obtain ⟨inner, hinner⟩ := readTerm_eq engine resolve levels
  rw [hinner]
  exact reads_token (h inner)

theorem reads_scope
    {id : ScopeId} {name : String} (hword : termWords.lookup name = none)
    (hcapital : startsWithCapital name = true) (hresolve : resolve name = some id) :
    Reads (readTerm engine resolve levels) [.word name] (.scope ⟨id, name⟩) := by
  refine reads_single fun inner offset more => ?_
  rw [readTermUsing]
  simp only [readName?, hword, if_pos hcapital, hresolve]
  rfl

/-! ### Literals and intervals -/

/-- A literal with the bound and the term that it denotes. -/
inductive Notation.IsLiteral : Token → Value → Term → Prop
  | int (number : Int64) : IsLiteral (.int number) (.int number) (.int number)
  | float (number : Binary64) : IsLiteral (.float number) (.float number) (.float number)
  | string (content : String) : IsLiteral (.string content) (.text content) (.quoted content)

variable {token : Token} {bound : Value} {literal : Term}

theorem isLiteral_of_boundValue? (h : boundValue? token = some bound) :
    ∃ literal, IsLiteral token bound literal := by
  unfold boundValue? at h
  split at h <;> cases h
  · exact ⟨_, .int _⟩
  · exact ⟨_, .float _⟩
  · exact ⟨_, .string _⟩

theorem isLiteral_of_isBound (h : IsBound bound) :
    ∃ token literal, IsLiteral token bound literal ∧ boundTokens (some bound) = [token] := by
  obtain ⟨token, htoken⟩ := h
  obtain ⟨literal, hliteral⟩ := isLiteral_of_boundValue? htoken
  exact ⟨token, literal, hliteral, by cases hliteral <;> rfl⟩

theorem readBound_literal (h : IsLiteral token bound literal) (place : Nat) (rest : Tokens) :
    readBound ((place, token) :: rest) = (some bound, rest) := by
  cases h <;> rfl

theorem readBound_endsTerm (h : token.EndsTerm) (place : Nat) (rest : Tokens) :
    readBound ((place, token) :: rest) = (none, (place, token) :: rest) := by
  cases token <;> first | exact h.elim | rfl

theorem readTermUsing_literal
    (h : IsLiteral token bound literal) (inner : Option (Reader Term)) (place : Nat)
    (rest : Tokens) :
    readTermUsing engine resolve inner ((place, token) :: rest) =
      .ok (readInterval bound literal rest) := by
  cases h <;> rfl

theorem readInterval_endsTerm (h : token.EndsTerm) (place : Nat) (rest : Tokens) :
    readInterval bound literal ((place, token) :: rest) = (literal, (place, token) :: rest) := by
  cases token <;> first | exact h.elim | rfl

theorem reads_upTo (excludesStop : Bool) (h : IsLiteral token bound literal) :
    Reads (readTerm engine resolve levels) [.dots excludesStop, token]
      (.interval ⟨none, some bound, excludesStop⟩) := by
  obtain ⟨inner, hinner⟩ := readTerm_eq engine resolve levels
  intro placed offset ending more hplaced _
  obtain ⟨⟨place, _⟩, back, rfl, rfl, hback⟩ := List.map_eq_cons_iff.mp hplaced
  obtain ⟨⟨behind, last⟩, rfl, hlast⟩ := List.map_eq_singleton_iff.mp hback
  obtain rfl : last = token := hlast
  rw [hinner, List.cons_append, List.singleton_append, readTermUsing]
  simp only [readIntervalWithoutStart, readBound_literal h]

theorem reads_literal (h : IsLiteral token bound literal) :
    Reads (readTerm engine resolve levels) [token] literal := by
  obtain ⟨inner, hinner⟩ := readTerm_eq engine resolve levels
  intro placed offset ending more hplaced hends
  obtain ⟨⟨place, first⟩, rfl, hfirst⟩ := List.map_eq_singleton_iff.mp hplaced
  obtain rfl : first = token := hfirst
  rw [hinner, List.singleton_append, readTermUsing_literal h, readInterval_endsTerm hends]

theorem reads_between
    {last : Token} {stop : Value} {lastLiteral : Term} (excludesStop : Bool)
    (hstart : IsLiteral token bound literal) (hstop : IsLiteral last stop lastLiteral) :
    Reads (readTerm engine resolve levels) [token, .dots excludesStop, last]
      (.interval ⟨some bound, some stop, excludesStop⟩) := by
  obtain ⟨inner, hinner⟩ := readTerm_eq engine resolve levels
  intro placed offset ending more hplaced _
  obtain ⟨⟨place, first⟩, back, rfl, hfirst, hback⟩ := List.map_eq_cons_iff.mp hplaced
  obtain ⟨⟨middle, _⟩, rest, rfl, rfl, hrest⟩ := List.map_eq_cons_iff.mp hback
  obtain ⟨⟨behind, final⟩, rfl, hfinal⟩ := List.map_eq_singleton_iff.mp hrest
  obtain rfl : first = token := hfirst
  obtain rfl : final = last := hfinal
  rw [hinner, List.cons_append, List.cons_append, List.singleton_append,
    readTermUsing_literal hstart]
  simp only [readInterval, readBound_literal hstop, Option.isSome_some, Bool.and_true]

theorem reads_startingAt (excludesStop : Bool) (hstart : IsLiteral token bound literal) :
    Reads (readTerm engine resolve levels) [token, .dots excludesStop]
      (.interval ⟨some bound, none, false⟩) := by
  obtain ⟨inner, hinner⟩ := readTerm_eq engine resolve levels
  intro placed offset ending more hplaced hends
  obtain ⟨⟨place, first⟩, back, rfl, hfirst, hback⟩ := List.map_eq_cons_iff.mp hplaced
  obtain ⟨⟨middle, _⟩, rfl, rfl⟩ := List.map_eq_singleton_iff.mp hback
  obtain rfl : first = token := hfirst
  rw [hinner, List.cons_append, List.singleton_append, readTermUsing_literal hstart]
  simp only [readInterval, readBound_endsTerm hends, Option.isSome_none, Bool.and_false]

theorem reads_interval
    {interval : Interval} (hstart : ∀ bound ∈ interval.start, IsBound bound)
    (hstop : ∀ bound ∈ interval.stop, IsBound bound)
    (hbounded : interval.start.isSome ∨ interval.stop.isSome)
    (hexcludes : interval.excludesStop = true → interval.stop.isSome) :
    Reads (readTerm engine resolve levels)
      (boundTokens interval.start ++ .dots interval.excludesStop :: boundTokens interval.stop)
      (.interval interval) := by
  obtain ⟨start, stop, excludesStop⟩ := interval
  cases stop with
  | none =>
      obtain ⟨value, rfl⟩ := Option.isSome_iff_exists.mp (hbounded.resolve_right nofun)
      obtain ⟨token, literal, hliteral, htokens⟩ := isLiteral_of_isBound (hstart value rfl)
      cases excludesStop with
      | true => cases hexcludes rfl
      | false =>
          rw [htokens]
          exact reads_startingAt false hliteral
  | some stop =>
      obtain ⟨last, lastLiteral, hlast, htokens⟩ := isLiteral_of_isBound (hstop stop rfl)
      rw [htokens]
      cases start with
      | none => exact reads_upTo excludesStop hlast
      | some value =>
          obtain ⟨token, literal, hliteral, hfirst⟩ := isLiteral_of_isBound (hstart value rfl)
          rw [hfirst]
          exact reads_between excludesStop hliteral hlast

/-! ### Brackets and braces -/

theorem refuses_readEntry
    {reader : Reader Term} (hreader : Refuses reader close) (hclose : close.EndsTerm) :
    Refuses (readEntry reader) close := by
  intro offset more result h
  unfold readEntry at h
  split at h
  next hlabel =>
    cases hlabel
    exact hclose
  next =>
    obtain ⟨key, hkey, -⟩ := bind_eq_ok_iff.mp h
    exact hreader _ _ _ hkey

theorem reads_labelled
    {reader : Reader Term} {tokens : List Token} {term : Term} (h : Reads reader tokens term)
    (name : String) : Reads (readEntry reader) (.label name :: tokens) (.symbol ⟨name⟩, term) := by
  intro placed offset ending more hplaced hends
  obtain ⟨⟨place, _⟩, behind, rfl, rfl, hbehind⟩ := List.map_eq_cons_iff.mp hplaced
  rw [List.cons_append, readEntry]
  simp only [h behind offset ending more hbehind hends]
  rfl

theorem reads_brackets
    {inside : List Token} {items : List Term}
    (h : Sequence (Reads (readTerm engine resolve levels)) inside items) :
    Reads (readTerm engine resolve (levels + 1)) (.openBracket :: (inside ++ [.closeBracket]))
      (.list items) := by
  have hrefuses : Refuses (id (readTerm engine resolve levels)) .closeBracket :=
    refuses_readTerm trivial
  intro placed offset ending more hplaced _
  obtain ⟨place, behind, rfl, hitems⟩ :=
    readNested_sequence hrefuses trivial (by decide) h hplaced
  rw [List.cons_append, readTerm, readTermUsing]
  simp only [hitems]
  rfl

theorem reads_braces
    {inside : List Token} {entries : List (Key × Term)}
    (h : Sequence (Reads (readEntry (readTerm engine resolve levels))) inside entries) :
    Reads (readTerm engine resolve (levels + 1)) (.openBrace :: (inside ++ [.closeBrace]))
      (.map entries) := by
  have hrefuses : Refuses (readEntry (readTerm engine resolve levels)) .closeBrace :=
    refuses_readEntry (refuses_readTerm trivial) trivial
  intro placed offset ending more hplaced _
  obtain ⟨place, behind, rfl, hentries⟩ :=
    readNested_sequence hrefuses trivial (by decide) h hplaced
  rw [List.cons_append, readTerm, readTermUsing]
  simp only [hentries]
  rfl

/-! ### Descriptors -/

mutual

/-- The tokens of a descriptor are read as its term, by a reader with as many
levels as its brackets need. -/
theorem reads_descriptor :
    (descriptor : Descriptor) → {levels : Nat} → IsWritten engine resolve levels descriptor.term →
      Reads (readTerm engine resolve levels) descriptor.tokens descriptor.term
  | .instanceOf _, _, .scope _ hword hcapital hresolve => reads_scope hword hcapital hresolve
  | .respondsTo _, _, _ => reads_single fun _ _ _ => rfl
  | .textMatches pattern, _, .pattern _ hcompiled => by
      refine reads_single fun inner offset more => ?_
      rw [readTermUsing]
      simp only [hcompiled, Descriptor.term]
  | .within _, _, .interval hstart hstop hbounded hexcludes =>
      reads_interval hstart hstop hbounded hexcludes
  | .tuple items, _, .list hitems => by
      have hall := reads_items items hitems
      rw [Descriptor.tokens, Descriptor.term, itemTokens_eq_map, descriptorTerms_eq_map]
      exact reads_brackets (sequence_separated hall)
  -- no source spells a predicate
  | .passes _, _, hwritten => nomatch hwritten
  | .truthy, _, _ => reads_single fun _ _ _ => rfl
  | .falsy, _, _ => reads_single fun _ _ _ => rfl
  | .absent, _, _ => reads_single fun _ _ _ => rfl
  | .anything, _, _ => reads_single fun _ _ _ => rfl

theorem reads_items :
    (items : List Descriptor) → {levels : Nat} →
      (∀ term ∈ descriptorTerms items, IsWritten engine resolve levels term) →
      ∀ item ∈ items, Reads (readTerm engine resolve levels) item.tokens item.term
  | [], _, _ => nofun
  | item :: rest, _, hitems => by
      obtain ⟨hwritten, hrest⟩ := List.forall_mem_cons.mp hitems
      exact List.forall_mem_cons.mpr ⟨reads_descriptor item hwritten, reads_items rest hrest⟩

end

/-! ### Signatures -/

variable {signature : Signature}

theorem reads_keywords (h : IsWritten engine resolve levels (.map signature.keywordEntries)) :
    Reads (readTerm engine resolve levels) signature.keywordsTokens
      (.map signature.keywordEntries) := by
  cases h with
  | @map below _ _ _ hterms =>
      have hkeywords : ∀ keyword ∈ signature.keywords,
          Reads (readEntry (readTerm engine resolve below)) (keywordTokens keyword)
            (keywordEntry keyword) := fun keyword hkeyword =>
        reads_labelled (reads_descriptor keyword.2 (hterms _ (List.mem_map_of_mem hkeyword)))
          keyword.1.name
      exact reads_braces (sequence_separated hkeywords)

theorem reads_arguments (h : IsWritten engine resolve levels signature.argumentTerm) :
    Reads (readTerm engine resolve levels) signature.argumentTokens signature.argumentTerm := by
  rcases argument_cases signature with
    ⟨hterm, -, htokens, -⟩ | ⟨hterm, -, htokens, -⟩ | ⟨hterm, -, htokens, -⟩
  all_goals rw [hterm] at h ⊢; rw [htokens]
  · exact reads_keywords h
  · cases h with
    | list hitems =>
        exact reads_brackets (sequence_separated fun descriptor hdescriptor =>
          reads_descriptor descriptor (hitems _ (List.mem_map_of_mem hdescriptor)))
  · cases h with
    | @list below _ hitems =>
        obtain ⟨hpositional, hkeywords⟩ := List.forall_mem_append.mp hitems
        have hpieces : ∀ piece ∈
            signature.positional.map (fun descriptor => (descriptor.tokens, descriptor.term)) ++
              [(signature.keywordsTokens, Term.map signature.keywordEntries)],
            Reads (readTerm engine resolve below) piece.1 piece.2 := by
          refine List.forall_mem_append.mpr ⟨List.forall_mem_map.mpr ?_, ?_⟩
          · exact fun descriptor hdescriptor =>
              reads_descriptor descriptor (hpositional _ (List.mem_map_of_mem hdescriptor))
          · exact List.forall_mem_singleton.mpr (reads_keywords (hkeywords _ List.mem_cons_self))
        have hreads := reads_brackets (sequence_separated hpieces)
        simp only [List.map_append, List.map_map, List.map_cons, List.map_nil] at hreads
        exact hreads

theorem readSpec_contract
    {front back : List Token} {arguments result : Term}
    (hfront : Reads (readTerm engine resolve maxNesting) front arguments)
    (hback : Reads (readTerm engine resolve maxNesting) back result)
    {placed : Tokens} (hplaced : placed.map Prod.snd = front ++ .arrow :: back ++ [.finish]) :
    readSpec engine resolve placed = .ok (.spec arguments result) := by
  obtain ⟨before, last, rfl, hbefore, hlast⟩ := List.map_eq_append_iff.mp hplaced
  obtain ⟨⟨ending, _⟩, rfl, rfl⟩ := List.map_eq_singleton_iff.mp hlast
  obtain ⟨first, others, rfl, hfirst, hothers⟩ := List.map_eq_append_iff.mp hbefore
  obtain ⟨⟨place, _⟩, second, rfl, rfl, hsecond⟩ := List.map_eq_cons_iff.mp hothers
  have hrest : eat? .arrow ((place, .arrow) :: (second ++ [(ending, Token.finish)])) =
      some (second ++ [(ending, .finish)]) := eat?_eq_some _ _ _
  rw [List.append_assoc, List.cons_append, readSpec, hfront first place .arrow _ hfirst trivial]
  simp only [bind, Except.bind, hrest, hback second ending .finish [] hsecond trivial]
  rfl

/-- The signature's own argument side needs no more levels than the one it was
written with. -/
theorem isWritten_argumentTerm
    {arguments : Term} (hform : signature.HasArguments arguments)
    (h : IsWritten engine resolve levels arguments) :
    IsWritten engine resolve levels signature.argumentTerm := by
  obtain ⟨positional, keywords, result⟩ := signature
  rcases hform with ⟨rfl, hnone⟩ | rfl | ⟨rfl, hnone⟩
  · obtain rfl : keywords = [] := hnone
    cases positional <;> exact h
  · cases h with
    | list hitems =>
        obtain ⟨hpositional, hkeywords⟩ := List.forall_mem_append.mp hitems
        cases keywords with
        | nil => cases positional <;> exact .list hpositional
        | cons keyword keywords =>
            cases positional with
            -- the list held only the map, which is a level further out on its own
            | nil => exact (hkeywords _ List.mem_cons_self).succ
            | cons first others => exact .list hitems
  · obtain rfl : positional = [] := hnone
    cases keywords with
    | nil =>
        cases h with
        | map => exact .list nofun
    | cons keyword keywords => exact h

/-! ### What is read back -/

theorem IsBound.map_readBack
    {bound : Option Value} (h : ∀ value ∈ bound, IsBound value) :
    ∀ value ∈ bound.map Value.readBack, IsBound value := by
  intro value hvalue
  obtain ⟨written, hwritten, rfl⟩ := Option.map_eq_some_iff.mp hvalue
  obtain ⟨token, htoken⟩ := h written hwritten
  unfold boundValue? at htoken
  split at htoken <;> cases htoken
  · exact ⟨.int _, rfl⟩
  · exact ⟨.float _, rfl⟩
  · exact ⟨.string _, rfl⟩

mutual

/-- Another text between quotes is spelt as well, so what is read back needs no
other words and levels than what was written. -/
theorem isWritten_readBack :
    (descriptor : Descriptor) → {levels : Nat} → IsWritten engine resolve levels descriptor.term →
      IsWritten engine resolve levels descriptor.readBack.term
  | .within interval, _, .interval hstart hstop hbounded hexcludes => by
      refine .interval (IsBound.map_readBack hstart) (IsBound.map_readBack hstop) ?_ ?_
      · rwa [Interval.readBack, Option.isSome_map, Option.isSome_map]
      · rwa [Interval.readBack, Option.isSome_map]
  | .tuple items, _, .list hitems => by
      rw [Descriptor.readBack, Descriptor.term]
      exact .list (isWritten_readBackItems items hitems)
  | .instanceOf _, _, h | .respondsTo _, _, h | .textMatches _, _, h | .passes _, _, h
  | .truthy, _, h | .falsy, _, h | .absent, _, h | .anything, _, h => h

theorem isWritten_readBackItems :
    (items : List Descriptor) → {levels : Nat} →
      (∀ term ∈ descriptorTerms items, IsWritten engine resolve levels term) →
      ∀ term ∈ descriptorTerms (readBackItems items), IsWritten engine resolve levels term
  | [], _, _ => nofun
  | item :: rest, _, hitems => by
      obtain ⟨hitem, hrest⟩ := List.forall_mem_cons.mp hitems
      exact List.forall_mem_cons.mpr
        ⟨isWritten_readBack item hitem, isWritten_readBackItems rest hrest⟩

end

theorem isWritten_readBack_positional
    {positional : List Descriptor}
    (h : ∀ term ∈ positional.map Descriptor.term, IsWritten engine resolve levels term) :
    ∀ term ∈ (positional.map Descriptor.readBack).map Descriptor.term,
      IsWritten engine resolve levels term := by
  refine List.forall_mem_map.mpr (List.forall_mem_map.mpr fun descriptor hdescriptor => ?_)
  exact isWritten_readBack descriptor (h _ (List.mem_map_of_mem hdescriptor))

theorem isWritten_readBack_keywords
    (h : IsWritten engine resolve levels (.map signature.keywordEntries)) :
    IsWritten engine resolve levels (.map signature.readBack.keywordEntries) := by
  cases h with
  | map hnames hcontents hterms =>
      refine .map ?_ ?_ ?_
      · intro name term hentry
        obtain ⟨_, hkeyword, heq⟩ := List.mem_map.mp hentry
        obtain ⟨keyword, hwritten, rfl⟩ := List.mem_map.mp hkeyword
        cases heq
        have hown : keywordEntry keyword ∈ signature.keywordEntries := List.mem_map_of_mem hwritten
        exact hnames _ _ hown
      · intro content term hentry
        obtain ⟨_, -, heq⟩ := List.mem_map.mp hentry
        cases heq
      · refine List.forall_mem_map.mpr (List.forall_mem_map.mpr fun keyword hkeyword => ?_)
        exact isWritten_readBack keyword.2 (hterms _ (List.mem_map_of_mem hkeyword))

theorem isWritten_readBack_argumentTerm
    (h : IsWritten engine resolve levels signature.argumentTerm) :
    IsWritten engine resolve levels signature.readBack.argumentTerm := by
  obtain ⟨positional, keywords, result⟩ := signature
  cases keywords with
  | nil =>
      cases positional
      all_goals
        cases h with
        | list hitems => exact .list (isWritten_readBack_positional hitems)
  | cons keyword keywords =>
      cases positional with
      | nil => exact isWritten_readBack_keywords h
      | cons first others =>
          cases h with
          | list hitems =>
              obtain ⟨hpositional, hkeywords⟩ := List.forall_mem_append.mp hitems
              refine .list (List.forall_mem_append.mpr ⟨?_, ?_⟩)
              · exact isWritten_readBack_positional hpositional
              · exact List.forall_mem_singleton.mpr
                  (isWritten_readBack_keywords (hkeywords _ List.mem_cons_self))

/-! ### Object spaces -/

/-- The text of a signature is read as what is read back from it, if that is
printable. -/
theorem parseSpec_signature_readBack
    {other : Resolver} (hother : ∀ name id, resolve name = some id → other name = some id)
    {source : String} {term : Term} (hparse : Notation.parseSpec engine resolve source = .ok term)
    (hsignature : term.signature = .ok signature)
    (hprintable : signature.readBack.IsPrintable) :
    Notation.parseSpec engine other signature.text = .ok signature.readBack.term := by
  obtain ⟨-, arguments, rfl, hform⟩ := signature_eq_ok hsignature
  obtain ⟨harguments, hresult⟩ := isWritten_of_parseSpec hparse
  have hown := (isWritten_argumentTerm hform harguments).mono hother (Nat.le_refl _)
  have hresultOwn := hresult.mono hother (Nat.le_refl _)
  obtain ⟨placed, hplaced, htokens⟩ := tokens_of_cuts (cuts_signature hown hresultOwn hprintable)
  unfold Notation.parseSpec
  rw [hplaced]
  exact readSpec_contract (reads_arguments (isWritten_readBack_argumentTerm hown))
    (reads_descriptor _ (isWritten_readBack signature.result hresultOwn)) htokens

theorem parseSpec_signature_text
    {other : Resolver} (hother : ∀ name id, resolve name = some id → other name = some id)
    {source : String} {term : Term} (hparse : Notation.parseSpec engine resolve source = .ok term)
    (hsignature : term.signature = .ok signature) (hprintable : signature.IsPrintable) :
    Notation.parseSpec engine other signature.text = .ok signature.term := by
  have hown := hprintable.readBack_eq
  have hread := parseSpec_signature_readBack hother hparse hsignature (hown.symm ▸ hprintable)
  rwa [hown] at hread

namespace ObjectSpace

theorem Change.named?
    {space after : ObjectSpace} (h : space.Change after) {name : String} {id : ScopeId}
    (hname : space.scopes.named? name = some id) : after.scopes.named? name = some id := by
  cases h with
  | scopes h => exact h.named? hname
  | defineMember member h =>
      rw [consumePending_scopes]
      exact hname
  | _ => exact hname

theorem Reaches.named?
    {space after : ObjectSpace} (h : space.Reaches after) {name : String} {id : ScopeId}
    (hname : space.scopes.named? name = some id) : after.scopes.named? name = some id :=
  h.induction (fun _ _ hbefore hchange => hchange.named? hbefore) hname

/-- A printed contract can be read in the same object space, at once or after
anything has happened to it, and it compiles to the contract that was printed. -/
theorem printed_contract_reads_back
    {engine : Pattern.Engine} {space after : ObjectSpace} {source : String} {term : Term}
    {signature : Signature} (hparse : space.parseSpec engine source = .ok term)
    (hsignature : term.signature = .ok signature) (hprintable : signature.IsPrintable)
    (hafter : space.Reaches after) :
    ∃ printed, after.parseSpec engine signature.text = .ok printed ∧
      printed.signature = .ok signature := by
  have hnames : ∀ name id, space.scopes.named? name = some id →
      after.scopes.named? name = some id := fun name id hname =>
    hafter.induction (fun _ _ hbefore hchange => hchange.named? hbefore) hname
  exact ⟨signature.term, parseSpec_signature_text hnames hparse hsignature hprintable,
    (signature_eq_ok hsignature).1.signature_term⟩

/-- The list around the keywords and the mark that an absent end is excluded are
not printed, and the printed contract is the same. -/
theorem printed_contract_reads_back_from_its_shorter_form :
    ∃ (engine : Pattern.Engine) (space after : ObjectSpace) (term : Term) (signature : Signature),
      space.parseSpec engine "[\x7bfrom: Integer, to: 1...\x7d] => [:each?, ...\"\\\"\"]" =
          .ok term ∧
        term.signature = .ok signature ∧ signature.IsPrintable ∧ space.Reaches after ∧
        signature.text = "\x7bfrom: Integer, to: 1..\x7d => [:each?, ...\"\\\"\"]" ∧
        ∃ printed, after.parseSpec engine signature.text = .ok printed ∧
          printed.signature = .ok signature := by
  let space : ObjectSpace := .initial ⟨0⟩ .standard []
  let signature : Signature :=
    ⟨[], [(⟨"from"⟩, .instanceOf ⟨.integer, "Integer"⟩),
      (⟨"to"⟩, .within ⟨some (.int 1), none, false⟩)],
      .tuple [.respondsTo ⟨"each?"⟩, .within ⟨none, some (.text "\""), true⟩]⟩
  have hnames : ∀ keyword ∈ signature.keywords, StartsName keyword.1.name.toList :=
    List.forall_mem_cons.mpr ⟨⟨'f', ['r', 'o', 'm'], rfl, rfl⟩,
      List.forall_mem_singleton.mpr ⟨'t', ['o'], rfl, rfl⟩⟩
  have hkeywords : ∀ keyword ∈ signature.keywords, keyword.2.IsPrintable := by
    refine List.forall_mem_cons.mpr ⟨trivial, List.forall_mem_singleton.mpr ⟨?_, nofun⟩⟩
    rintro _ ⟨⟩
    trivial
  have hresult : signature.result.IsPrintable := by
    refine ⟨trivial, ⟨nofun, ?_⟩, trivial⟩
    rintro _ ⟨⟩
    exact List.forall_mem_singleton.mpr (.inl rfl)
  have hprintable : signature.IsPrintable := ⟨nofun, hnames, hkeywords, hresult⟩
  have hafter := space.perform_reaches (.defineModule "Shape")
  have hparse : space.parseSpec .ofExpressions
      "[\x7bfrom: Integer, to: 1...\x7d] => [:each?, ...\"\\\"\"]" = .ok (.spec
        (.list [.map [(.symbol ⟨"from"⟩, .scope ⟨.integer, "Integer"⟩),
          (.symbol ⟨"to"⟩, .interval ⟨some (.int 1), none, false⟩)]])
        (.list [.symbol ⟨"each?"⟩, .interval ⟨none, some (.text "\""), true⟩])) := by
    cbv
  exact ⟨.ofExpressions, space, _, _, signature, hparse, rfl, hprintable, hafter,
    by decide +kernel, printed_contract_reads_back hparse rfl hprintable hafter⟩

end ObjectSpace

end CallContract
