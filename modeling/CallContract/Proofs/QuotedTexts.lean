import CallContract.Proofs.ValueNotation

/-!
# Quoted texts

A text is described in quotes, and a bound of an interval that is a text is
printed in them.  Either is read back with the escapes that the notation does not
have left as they are written.  So it is the text that was quoted exactly if no
such escape was needed, and what has been read back once stays as it is.
-/

namespace CallContract

open Notation

variable {signature : Signature}

/-! ### Signatures that are read back -/

/-- What is read back from quotes needs no other escapes than the notation has. -/
theorem isPrintableBound_readBack (content : String) :
    (Value.text (readBack content)).IsPrintableBound :=
  (readBack_eq_iff _).mp (readBack_readBack content)

theorem map_readBack_of_map_term_eq
    {descriptors : List Descriptor}
    (h : (descriptors.map Descriptor.readBack).map Descriptor.term =
      descriptors.map Descriptor.term) : descriptors.map Descriptor.readBack = descriptors := by
  rw [List.map_map, List.map_inj_left] at h
  have hsame : descriptors.map Descriptor.readBack = descriptors.map id :=
    List.map_congr_left fun descriptor hdescriptor =>
      descriptor.readBack.eq_of_term_eq descriptor (h descriptor hdescriptor)
  rwa [List.map_id] at hsame

theorem map_readBack_of_map_entry_eq
    {keywords : Table Symbol Descriptor}
    (h : (keywords.map readBackKeyword).map keywordEntry = keywords.map keywordEntry) :
    keywords.map readBackKeyword = keywords := by
  rw [List.map_map, List.map_inj_left] at h
  have hsame : keywords.map readBackKeyword = keywords.map id := by
    refine List.map_congr_left fun keyword hkeyword => Prod.ext rfl ?_
    exact Descriptor.eq_of_term_eq _ _ (Prod.mk.inj (h keyword hkeyword)).2
  rwa [List.map_id] at hsame

/-- A signature is what is read back from it if their terms are the same, as both
have the same form. -/
theorem readBack_eq_of_term_eq (h : signature.readBack.term = signature.term) :
    signature.readBack = signature := by
  obtain ⟨positional, keywords, result⟩ := signature
  simp only [Signature.term, Term.spec, Term.map.injEq, List.cons.injEq, Prod.mk.injEq,
    Key.term.injEq, and_true] at h
  obtain ⟨harguments, hresult⟩ := h
  have hparts : positional.map Descriptor.readBack = positional ∧
      keywords.map readBackKeyword = keywords := by
    cases keywords with
    | nil =>
        cases positional with
        | nil => exact ⟨rfl, rfl⟩
        | cons first others => exact ⟨map_readBack_of_map_term_eq (Term.list.inj harguments), rfl⟩
    | cons keyword keywords =>
        cases positional with
        | nil => exact ⟨rfl, map_readBack_of_map_entry_eq (Term.map.inj harguments)⟩
        | cons first others =>
            obtain ⟨hpositional, hkeywords⟩ := List.append_inj' (Term.list.inj harguments) rfl
            exact ⟨map_readBack_of_map_term_eq hpositional,
              map_readBack_of_map_entry_eq (Term.map.inj (List.cons.inj hkeywords).1)⟩
  have hown : result.readBack = result := Descriptor.eq_of_term_eq _ _ hresult
  simp only [Signature.readBack, hparts, hown]

/-- What is read back from a signature is that signature exactly if it is
printable itself. -/
theorem readBack_eq_iff_isPrintable (hprintable : signature.readBack.IsPrintable) :
    signature.readBack = signature ↔ signature.IsPrintable :=
  ⟨fun hsame => hsame ▸ hprintable, Signature.IsPrintable.readBack_eq⟩

namespace ObjectSpace

theorem parseValue_describe_text (space : ObjectSpace) (content : String) :
    space.parseValue (space.describe (.text content)) = .ok (.text (readBack content)) := by
  have hcuts := cuts_string content []
  rw [List.append_nil] at hcuts
  exact parseValue_of_cuts hcuts (reads_singleValue fun _ _ _ => rfl)

/-- A described text and a printed bound are read back with the escapes that the
notation does not have as they are written.  So they are read back as they were
exactly if they needed none of these, as what was read back before does. -/
theorem quoted_texts_read_back (space : ObjectSpace) :
    (∀ content,
      space.parseValue (space.describe (.text content)) = .ok (.text (readBack content)) ∧
        (readBack content = content ↔ IsPlainlyQuoted content.toList) ∧
        readBack (readBack content) = readBack content) ∧
      ∀ (engine : Pattern.Engine) (source : String) (term : Term) (signature : Signature)
          (after : ObjectSpace),
        space.parseSpec engine source = .ok term → term.signature = .ok signature →
          signature.readBack.IsPrintable → space.Reaches after →
            after.parseSpec engine signature.text = .ok signature.readBack.term ∧
              (signature.readBack.term = signature.term ↔ signature.IsPrintable) := by
  refine ⟨fun content => ⟨space.parseValue_describe_text content, readBack_eq_iff content,
    readBack_readBack content⟩, ?_⟩
  intro engine source term signature after hparse hsignature hprintable hafter
  refine ⟨parseSpec_signature_readBack (fun _ _ => hafter.named?) hparse hsignature hprintable, ?_⟩
  rw [← readBack_eq_iff_isPrintable hprintable]
  exact ⟨readBack_eq_of_term_eq, congrArg Signature.term⟩

/-- A null character is printed with an escape that the notation does not have,
and the tab before it with one that it has. -/
theorem quoted_texts_read_back_with_a_tab_and_a_null :
    ∃ (engine : Pattern.Engine) (space after : ObjectSpace) (source : String) (term : Term)
      (signature : Signature),
      space.parseSpec engine source = .ok term ∧ term.signature = .ok signature ∧
        signature.readBack.IsPrintable ∧ space.Reaches after ∧
        signature.text = "[..\"\\t\\0\"] => Any" ∧
        after.parseSpec engine signature.text =
          .ok (.spec (.list [.interval ⟨none, some (.text "\t\\0"), false⟩]) .any) := by
  let space : ObjectSpace := .initial ⟨0⟩ .standard []
  let signature : Signature :=
    ⟨[.within ⟨none, some (.text "\t\x00"), false⟩], [], .anything⟩
  have hparse : space.parseSpec .ofExpressions "[..\"\t\x00\"] => Any" =
      .ok (.spec (.list [.interval ⟨none, some (.text "\t\x00"), false⟩]) .any) := by
    cbv
  have hbound : ∀ bound ∈ some (Value.text (readBack "\t\x00")), bound.IsPrintableBound := by
    rintro _ ⟨⟩
    exact isPrintableBound_readBack _
  have hprintable : signature.readBack.IsPrintable :=
    ⟨List.forall_mem_singleton.mpr ⟨fun _ hnone => absurd hnone (Option.not_mem_none _), hbound⟩,
      List.forall_mem_nil _, List.forall_mem_nil _, trivial⟩
  have hafter := space.perform_reaches (.defineModule "Shape")
  obtain ⟨-, hcontracts⟩ := space.quoted_texts_read_back
  exact ⟨_, space, _, _, _, signature, hparse, rfl, hprintable, hafter, by decide +kernel,
    (hcontracts _ _ _ _ _ hparse rfl hprintable hafter).1⟩

/-- A carriage return is described as an escape that is read as two characters. -/
theorem quoted_return_is_read_as_two_characters :
    ∃ (space : ObjectSpace) (content : String) (bound : Value),
      space.IsReachable ∧ content = "\r" ∧ bound = .text content ∧
        space.parseValue (space.describe (.text content)) = .ok (.text "\\r") ∧
        (∀ engine, space.parseSpec engine
          ("[" ++ (Descriptor.within ⟨none, some bound, false⟩).text ++ "] => Any") =
            .ok (.spec (.list [.interval ⟨none, some (.text "\\r"), false⟩]) .any)) ∧
        "\\r" ≠ content := by
  let space : ObjectSpace := .initial ⟨0⟩ .standard []
  exact ⟨space, _, _, ⟨[.standard], [], 0, space, rfl, .refl⟩, rfl, rfl, by cbv,
    fun _ => by cbv, by decide⟩

end ObjectSpace

end CallContract
