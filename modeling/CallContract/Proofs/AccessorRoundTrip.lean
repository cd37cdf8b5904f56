import CallContract.Proofs.AccessorMembers
import CallContract.Proofs.AnnotationFates

/-!
# What typed accessors write and read

An accessor for both reading and writing is compiled twice, into a signature
whose result is described and into one whose argument is described, and the two
descriptions are the same.  If the reader and the writer of a name are those that
the accessor made, then what a writer accepts is stored and returned, the reader
returns it afterwards, and no other instance variable is touched; what the writer
does not accept is not stored.
-/

namespace CallContract.ObjectSpace

variable {space middle after : ObjectSpace} {owner scope : ScopeId} {names : List String}
  {behavior : Term} {descriptor : Descriptor} {signature : Signature} {name : String}
  {member : Symbol}

/-! ### Two signatures of one behavior -/

theorem eq_of_readerSignature (h : readerSignature behavior = .ok signature) :
    ∃ descriptor, behavior.descriptor .result .result = .ok descriptor ∧
      signature = ⟨[], [], descriptor⟩ := by
  obtain ⟨hcompiled, arguments, hterm, hwritten⟩ := signature_eq_ok (mapError_eq_ok_iff.mp h)
  obtain ⟨rfl, rfl⟩ : .list [] = arguments ∧ behavior = signature.result.term := by
    simpa [Term.spec] using hterm
  refine ⟨signature.result, hcompiled.result, ?_⟩
  rcases hwritten with ⟨hnone, hplain⟩ | hkeywords | ⟨hmap, -⟩
  · have hpositional : signature.positional = [] := by
      simpa [Signature.positionalTerms] using (Term.list.inj hnone).symm
    rw [← hpositional, ← hplain]
  · simp at hkeywords
  · cases hmap

/-- A behavior that describes a result describes an argument in the same way. -/
theorem eq_of_writerSignature
    (hbehavior : behavior.descriptor .result .result = .ok descriptor)
    (h : writerSignature behavior = .ok signature) :
    signature = ⟨[descriptor], [], .anything⟩ := by
  obtain ⟨hcompiled, arguments, hterm, hwritten⟩ := signature_eq_ok (mapError_eq_ok_iff.mp h)
  obtain ⟨rfl, hany⟩ : .list [behavior] = arguments ∧ .any = signature.result.term := by
    simpa [Term.spec] using hterm
  obtain rfl := term_of_descriptor hbehavior
  have hresult : signature.result = .anything := Descriptor.eq_of_term_eq _ .anything hany.symm
  rcases hwritten with ⟨hone, hplain⟩ | hkeywords | ⟨hmap, -⟩
  · have hpositional : signature.positional = [descriptor] := by
      obtain ⟨other, hother, hsame⟩ := List.map_eq_singleton_iff.mp (Term.list.inj hone).symm
      rw [hother, Descriptor.eq_of_term_eq other descriptor hsame]
    rw [← hpositional, ← hplain, ← hresult]
  · -- The only argument is read as keywords if it is a map, which no description is.
    have hsingle := Term.list.inj hkeywords
    rw [eq_comm, List.append_eq_singleton_iff] at hsingle
    rcases hsingle with ⟨-, hmap⟩ | ⟨-, hnever⟩
    · exact (descriptor_term_ne_map _ _ (List.cons.inj hmap).1.symm).elim
    · cases hnever
  · cases hmap

/-! ### The accessors of a name -/

/-- A scope has the reader and the writer of a name, under the contracts that go
with a description. -/
structure HasAccessorPair
    (space : ObjectSpace)
    (owner : ScopeId)
    (name : String)
    (descriptor : Descriptor) : Prop where
  reader : space.ownMember? owner ⟨name⟩ =
    some ⟨⟨⟨name⟩, owner, .publicAccess, .none⟩, .reader name⟩
  writer : space.ownMember? owner (Symbol.setter ⟨name⟩) =
    some ⟨⟨Symbol.setter ⟨name⟩, owner, .publicAccess, ⟨[⟨"value"⟩], [], none, []⟩⟩, .writer name⟩
  reading : space.signature? owner ⟨name⟩ = some ⟨[], [], descriptor⟩
  writing : space.signature? owner (Symbol.setter ⟨name⟩) = some ⟨[descriptor], [], .anything⟩

theorem symbol_injective : Symbol.mk.Injective :=
  fun _ _ hsame => Symbol.mk.inj hsame

theorem setter_injective : (fun name : String => Symbol.setter ⟨name⟩).Injective := by
  intro first second hsame
  simpa [Symbol.setter] using hsame

/-- No name is that of the writer of another. -/
def AreApart (names : List String) : Prop :=
  ∀ name ∈ names, ∀ other ∈ names, name ≠ other ++ "="

theorem hasAccessorPair_of_perform
    (hformed : space.scopes.WellFormed) (hapart : AreApart names)
    (hundefined : ∀ member ∈ AccessorKind.both.symbols names,
      space.definesMember owner member = false)
    {response : Response}
    (hperform : space.perform (.typedAccessors .both false owner names behavior) =
      (.ok response, after)) :
    ∃ descriptor, behavior.descriptor .result .result = .ok descriptor ∧
      ∀ name ∈ names, after.HasAccessorPair owner name descriptor := by
  obtain ⟨carrying, hcarries, hcontracts⟩ := holdsAccessors_of_perform hperform
  obtain rfl : carrying = owner := hcarries
  obtain ⟨⟨⟩, hrun, -⟩ := Action.run_respond_eq_ok_iff.mp hperform
  obtain ⟨found, carrier, howner, hsupplies⟩ := supplies_of_typedAccessors hformed hrun
  obtain ⟨-, hfound, hcarrier⟩ := accessorOwner_eq_ok_iff.mp howner
  rw [hfound, hcarrier] at hsupplies
  have hreads : AccessorKind.both ≠ .writer := by simp
  have hwrites : AccessorKind.both ≠ .reader := by simp
  obtain ⟨_, -, hreaders, -⟩ := typedAccessors_gains hperform
  obtain ⟨signature, hreader, -⟩ := hreaders hreads
  obtain ⟨descriptor, hdescriptor, rfl⟩ := eq_of_readerSignature hreader
  refine ⟨descriptor, hdescriptor, ?_⟩
  intro name hname
  have hreaderApart : ¬ ∃ other ∈ names, Symbol.setter ⟨other⟩ = ⟨name⟩ := by
    rintro ⟨other, hother, hsame⟩
    exact hapart name hname other hother (Symbol.mk.inj hsame).symm
  have hnoReader : offered? (readersFor carrying names) (Symbol.setter ⟨name⟩) = none := by
    rw [← Option.not_isSome_iff_eq_none, offered?_isSome_iff, readersFor, accessorsFor_symbols]
    intro hlisted
    obtain ⟨other, hother, hsame⟩ := List.mem_map.mp hlisted
    exact hapart other hother name hname (Symbol.mk.inj hsame)
  constructor
  · have hlisted : (⟨name⟩ : Symbol) ∈ AccessorKind.both.symbols names :=
      List.mem_append_left _ (List.mem_map_of_mem hname)
    rw [hsupplies.taken _ (hundefined _ hlisted), AccessorKind.members, offered?_append,
      readersFor, offered?_accessorsFor symbol_injective hname]
    rfl
  · have hlisted : Symbol.setter ⟨name⟩ ∈ AccessorKind.both.symbols names :=
      List.mem_append_right _ (List.mem_map.mpr ⟨name, hname, rfl⟩)
    rw [hsupplies.taken _ (hundefined _ hlisted), AccessorKind.members, offered?_append,
      hnoReader, Option.none_or, writersFor]
    exact offered?_accessorsFor setter_injective hname
  · obtain ⟨own, hsignature, hreading | ⟨-, hwriter, -⟩⟩ := hcontracts.readers hreads name hname
    · rw [hsignature, Except.ok.inj (hreading.symm.trans hreader)]
    · exact (hreaderApart hwriter).elim
  · obtain ⟨own, hsignature, hwriting⟩ := hcontracts.writers hwrites name hname
    rw [hsignature, eq_of_writerSignature hdescriptor hwriting]

/-! ### Calls of objects without a singleton -/

/-- An object whose class comes first on its lookup chain, in a space where calls
are possible. -/
structure IsPlainObject (space : ObjectSpace) (reference : ObjectRef) : Prop where
  follows : space.FollowsRegistrations
  has : space.scopes.Has reference.ofClass
  plain : space.scopes.existingSingleton? (.object reference.id) = none
  shallow : 0 < space.settings.maxCallDepth

variable {reference : ObjectRef} {value : Value} {arguments bound : Arguments} {found : Member}

theorem IsPlainObject.admits
    (h : space.IsPlainObject reference)
    (hown : space.ownMember? reference.ofClass member = some found)
    (hpublic : found.definition.visibility = .publicAccess)
    (hbind : found.definition.parameters.bind arguments = .ok bound) :
    space.Admits 0 .external (.object reference) member arguments [reference.ofClass] found
      bound where
  shallow := h.shallow
  finds := by
    obtain ⟨rest, hrest⟩ := ScopeTable.ancestors_eq_cons h.has
    have hchain : space.scopes.lookupChain (.object reference) = reference.ofClass :: rest := by
      unfold ScopeTable.lookupChain
      rw [ScopeTable.singletonsOf_object, h.plain]
      exact hrest
    unfold Finds
    rw [hchain]
    exact (findsAlong_cons_of_some hown).mpr ⟨rfl, rfl⟩
  accessible := by
    rw [mayReach, hpublic]
    rfl
  binds := hbind

theorem IsPlainObject.contractsOn
    (h : space.IsPlainObject reference)
    (hsignature : space.signature? reference.ofClass member = some signature) :
    space.contractsOn member [reference.ofClass] = [(reference.ofClass, signature)] := by
  rw [h.follows.contractsOn_eq, List.filterMap_cons, contractAt?, hsignature]
  rfl

/-! ### Writing and reading -/

/-- Matching looks at scopes and members, but not at what is stored. -/
theorem accepts_of_stored
    (space : ObjectSpace) (values : Table VariableKey Value) (entries : List TraceEntry)
    (descriptor : Descriptor) (value : Value) :
    { space with variableValues := values, trace := entries }.accepts descriptor value =
      space.accepts descriptor value := by
  have hresponds : { space with variableValues := values, trace := entries }.respondsTo =
      space.respondsTo := by
    funext receiver name
    unfold respondsTo resolve?
    exact congrArg _ (resolveAlong_congr (fun _ _ => rfl) fun _ _ => rfl)
  unfold accepts environment
  rw [hresponds]
  rfl

theorem readVariable_of_stored
    (space : ObjectSpace) (holder : Attachment) (name : String) (value : Value)
    (entries : List TraceEntry) (other : Value) (variableName : String) :
    { space with
      variableValues := space.variableValues.put ⟨holder, name⟩ value
      trace := entries }.readVariable other variableName =
        if other.attachment? = some holder ∧ variableName = name then value
        else space.readVariable other variableName := by
  unfold readVariable
  cases other.attachment? with
  | none => simp
  | some attached =>
      simp only [Table.get?_put, VariableKey.mk.injEq, Option.some.injEq, eq_comm]
      split <;> rfl

theorem checkArguments_of_writer (scope : ScopeId) (member : Symbol) :
    space.checkArguments scope member ⟨[descriptor], [], .anything⟩ ⟨[value], []⟩ =
      if space.accepts descriptor value then .ok ()
      else .error ⟨space.scopeName scope, member, .position 0, descriptor.text,
        space.describe value⟩ := by
  unfold checkArguments argumentMismatch? firstMismatch?
  cases space.accepts descriptor value <;> rfl

section Calls

variable (h : space.IsPlainObject reference)
  (hholds : space.HasAccessorPair reference.ofClass name descriptor)

include h hholds

theorem IsPlainObject.admits_writer (value : Value) :
    space.Admits 0 .external (.object reference) (Symbol.setter ⟨name⟩) ⟨[value], []⟩
      [reference.ofClass]
      ⟨⟨Symbol.setter ⟨name⟩, reference.ofClass, .publicAccess, ⟨[⟨"value"⟩], [], none, []⟩⟩,
        .writer name⟩ ⟨[value], []⟩ :=
  h.admits hholds.writer rfl rfl

/-- What the writer accepts is stored and returned. -/
theorem IsPlainObject.call_writer (haccepts : space.accepts descriptor value = true) :
    ∃ entries, space.perform (.call (.object reference) (Symbol.setter ⟨name⟩) ⟨[value], []⟩) =
      (.ok (.value value), { space with
        variableValues := space.variableValues.put ⟨.object reference.id, name⟩ value
        trace := entries }) := by
  have hcontracts := h.contractsOn hholds.writing
  have hpass : space.ArgumentsPass (Symbol.setter ⟨name⟩) [reference.ofClass] ⟨[value], []⟩ := by
    intro contract hcontract
    rw [hcontracts, List.mem_singleton] at hcontract
    rw [hcontract, checkArguments_of_writer, if_pos haccepts]
  let stored : ObjectSpace := { space with
    variableValues := space.variableValues.put ⟨.object reference.id, name⟩ value }
  have haccepted : ∀ contract ∈ space.contractsOn (Symbol.setter ⟨name⟩) [reference.ofClass],
      stored.checkResult contract.1 (Symbol.setter ⟨name⟩) contract.2 value = .ok () := by
    intro contract hcontract
    rw [hcontracts, List.mem_singleton] at hcontract
    rw [hcontract, checkResult, accepts, Descriptor.accepts]
    rfl
  have hcalled := perform_call_of_returned
    (CallDecision.returned (h.admits_writer hholds value) hpass rfl haccepted)
  obtain ⟨entries, htraced⟩ := stored.recordOutcome_writes_trace
    (space.checkersOn (Symbol.setter ⟨name⟩) [reference.ofClass])
    ⟨.object reference, Symbol.setter ⟨name⟩, ⟨[value], []⟩, 1⟩ (some value) none
  rw [hcalled]
  exact ⟨entries, congrArg (Prod.mk _) htraced⟩

/-- What the writer does not accept is refused before anything is stored. -/
theorem IsPlainObject.call_writer_refused (hrefuses : space.accepts descriptor value = false) :
    ∃ violation entries,
      space.perform (.call (.object reference) (Symbol.setter ⟨name⟩) ⟨[value], []⟩) =
        (.error (.call (.argumentType violation)), { space with trace := entries }) := by
  have hcontracts := h.contractsOn hholds.writing
  have hrefused : FirstFailure (fun contract : ScopeId × Signature =>
      space.checkArguments contract.1 (Symbol.setter ⟨name⟩) contract.2 ⟨[value], []⟩)
      (space.contractsOn (Symbol.setter ⟨name⟩) [reference.ofClass])
      ⟨space.scopeName reference.ofClass, Symbol.setter ⟨name⟩, .position 0, descriptor.text,
        space.describe value⟩ := by
    refine ⟨[], _, [], hcontracts, by simp, ?_⟩
    change space.checkArguments reference.ofClass _ _ _ = _
    rw [checkArguments_of_writer, hrefuses]
    rfl
  have hcalled := perform_call_of_failed
    (CallDecision.argumentRefused (h.admits_writer hholds value) hrefused)
  obtain ⟨entries, htraced⟩ := space.recordOutcome_writes_trace
    (space.checkersOn (Symbol.setter ⟨name⟩) [reference.ofClass]) _ none _
  rw [hcalled]
  exact ⟨_, entries, congrArg (Prod.mk _) htraced⟩

/-- The reader returns what is stored, if that is as described. -/
theorem IsPlainObject.call_reader
    (haccepts : space.accepts descriptor (space.readVariable (.object reference) name) = true) :
    ∃ entries, space.perform (.call (.object reference) ⟨name⟩ ⟨[], []⟩) =
      (.ok (.value (space.readVariable (.object reference) name)),
        { space with trace := entries }) := by
  have hadmits : space.Admits 0 .external (.object reference) ⟨name⟩ ⟨[], []⟩ [reference.ofClass]
      ⟨⟨⟨name⟩, reference.ofClass, .publicAccess, .none⟩, .reader name⟩ ⟨[], []⟩ :=
    h.admits hholds.reader rfl rfl
  have hcontracts := h.contractsOn hholds.reading
  have hpass : space.ArgumentsPass ⟨name⟩ [reference.ofClass] ⟨[], []⟩ := by
    intro contract hcontract
    rw [hcontracts, List.mem_singleton] at hcontract
    rw [hcontract]
    rfl
  have haccepted : ∀ contract ∈ space.contractsOn ⟨name⟩ [reference.ofClass],
      space.checkResult contract.1 ⟨name⟩ contract.2
        (space.readVariable (.object reference) name) = .ok () := by
    intro contract hcontract
    rw [hcontracts, List.mem_singleton] at hcontract
    rw [hcontract, checkResult, if_pos haccepts]
  have hcalled := perform_call_of_returned (CallDecision.returned hadmits hpass rfl haccepted)
  obtain ⟨entries, htraced⟩ := space.recordOutcome_writes_trace
    (space.checkersOn ⟨name⟩ [reference.ofClass]) _ _ none
  rw [hcalled]
  exact ⟨entries, congrArg (Prod.mk _) htraced⟩

/-- What the writer accepts, the reader returns afterwards, and all other variables
are as they were. -/
theorem IsPlainObject.reads_what_was_written
    (haccepts : space.accepts descriptor value = true) :
    ∃ written read,
      space.perform (.call (.object reference) (Symbol.setter ⟨name⟩) ⟨[value], []⟩) =
          (.ok (.value value), written) ∧
        written.perform (.call (.object reference) ⟨name⟩ ⟨[], []⟩) =
          (.ok (.value value), read) ∧
        ∀ other variableName,
          ¬ (other.attachment? = some (.object reference.id) ∧ variableName = name) →
            written.readVariable other variableName = space.readVariable other variableName ∧
              read.readVariable other variableName = space.readVariable other variableName := by
  obtain ⟨entries, hwritten⟩ := h.call_writer hholds haccepts
  let written : ObjectSpace := { space with
    variableValues := space.variableValues.put ⟨.object reference.id, name⟩ value
    trace := entries }
  have hstored : ∀ other variableName, written.readVariable other variableName =
      if other.attachment? = some (.object reference.id) ∧ variableName = name then value
      else space.readVariable other variableName :=
    readVariable_of_stored space _ name value entries
  have hvalue : written.readVariable (.object reference) name = value := by
    rw [hstored]
    exact if_pos ⟨rfl, rfl⟩
  have hreference : written.IsPlainObject reference :=
    ⟨h.follows.of_sameContracts ⟨rfl, rfl, rfl, rfl⟩, h.has, h.plain, h.shallow⟩
  have hwrittenHolds : written.HasAccessorPair reference.ofClass name descriptor :=
    ⟨hholds.reader, hholds.writer, hholds.reading, hholds.writing⟩
  have hstillAccepts :
      written.accepts descriptor (written.readVariable (.object reference) name) = true := by
    rw [hvalue, accepts_of_stored, haccepts]
  obtain ⟨later, hread⟩ := hreference.call_reader hwrittenHolds hstillAccepts
  rw [hvalue] at hread
  refine ⟨written, _, hwritten, hread, ?_⟩
  intro other variableName hother
  have hkept : written.readVariable other variableName =
      space.readVariable other variableName := by
    rw [hstored, if_neg hother]
  exact ⟨hkept, hkept⟩

end Calls

/-- Where the reader and the writer of every name are those of the accessors, and
are under no other contract, each object of the class without a singleton stores
and gives back what the behavior accepts, and nothing else. -/
theorem accessors_round_trip
    (hspace : space.IsReachable) (hapart : AreApart names)
    (hundefined : ∀ member ∈ AccessorKind.both.symbols names,
      space.definesMember owner member = false)
    {response : Response}
    (hperform : space.perform (.typedAccessors .both false owner names behavior) =
      (.ok response, after))
    {current : ObjectSpace} (hreaches : after.Reaches current)
    (hkept : ∀ member ∈ AccessorKind.both.symbols names,
      current.ownMember? owner member = after.ownMember? owner member ∧
        current.signature? owner member = after.signature? owner member)
    {reference : ObjectRef} (hobject : reference.ofClass = owner)
    (hplain : current.scopes.existingSingleton? (.object reference.id) = none)
    (hdepth : 0 < current.settings.maxCallDepth) :
    ∃ descriptor, behavior.descriptor .result .result = .ok descriptor ∧
      ∀ name ∈ names, ∀ value,
        (current.accepts descriptor value = true → ∃ written read,
          current.perform (.call (.object reference) (Symbol.setter ⟨name⟩) ⟨[value], []⟩) =
              (.ok (.value value), written) ∧
            written.perform (.call (.object reference) ⟨name⟩ ⟨[], []⟩) =
              (.ok (.value value), read) ∧
            ∀ other variableName,
              ¬ (other.attachment? = some (.object reference.id) ∧ variableName = name) →
                written.readVariable other variableName =
                    current.readVariable other variableName ∧
                  read.readVariable other variableName =
                    current.readVariable other variableName) ∧
        (current.accepts descriptor value = false → ∃ violation refused,
          current.perform (.call (.object reference) (Symbol.setter ⟨name⟩) ⟨[value], []⟩) =
              (.error (.call (.argumentType violation)), refused) ∧
            refused.variableValues = current.variableValues) := by
  subst hobject
  have hformed := hspace.wellScoped.formed
  obtain ⟨descriptor, hdescriptor, hafter⟩ :=
    hasAccessorPair_of_perform hformed hapart hundefined hperform
  have hreached : space.Reaches current := by
    have hmade := space.perform_reaches
      (.typedAccessors .both false reference.ofClass names behavior)
    rw [hperform] at hmade
    exact hmade.trans hreaches
  have hcurrent := hspace.reaches hreached
  refine ⟨descriptor, hdescriptor, ?_⟩
  intro name hname value
  have hreaderKept := hkept ⟨name⟩ (List.mem_append_left _ (List.mem_map_of_mem hname))
  have hwriterKept := hkept (Symbol.setter ⟨name⟩)
    (List.mem_append_right _ (List.mem_map.mpr ⟨name, hname, rfl⟩))
  have hholds : current.HasAccessorPair reference.ofClass name descriptor :=
    ⟨hreaderKept.1.trans (hafter name hname).reader, hwriterKept.1.trans (hafter name hname).writer,
      hreaderKept.2.trans (hafter name hname).reading,
      hwriterKept.2.trans (hafter name hname).writing⟩
  have hreference : current.IsPlainObject reference :=
    ⟨hcurrent.followsRegistrations, (hcurrent.wellScoped.owned _ _ _ hholds.reader).2, hplain,
      hdepth⟩
  refine ⟨fun haccepts => hreference.reads_what_was_written hholds haccepts, ?_⟩
  intro hrefuses
  obtain ⟨violation, entries, hrefused⟩ := hreference.call_writer_refused hholds hrefuses
  exact ⟨violation, _, hrefused, rfl⟩

theorem accessors_round_trip_of_an_integer :
    ∃ (current written read refused : ObjectSpace) (violation : ArgumentViolation),
      current.perform (.call (.object ⟨⟨1⟩, ⟨17⟩⟩) (Symbol.setter ⟨"level"⟩) ⟨[.int 3], []⟩) =
          (.ok (.value (.int 3)), written) ∧
        written.perform (.call (.object ⟨⟨1⟩, ⟨17⟩⟩) ⟨"level"⟩ ⟨[], []⟩) =
          (.ok (.value (.int 3)), read) ∧
        current.perform (.call (.object ⟨⟨1⟩, ⟨17⟩⟩) (Symbol.setter ⟨"level"⟩) ⟨[.nil], []⟩) =
          (.error (.call (.argumentType violation)), refused) := by
  let start := (ObjectSpace.initial ⟨0⟩ .standard []).withRegistry []
  let space := start.afterAll [.defineClass "Gauge" none, .newObject ⟨17⟩]
  let behavior : Term := .scope ⟨.integer, "Integer"⟩
  let after := (space.perform (.typedAccessors .both false ⟨17⟩ ["level"] behavior)).2
  have hspace : space.IsReachable :=
    ⟨[.standard], [], 0, start, rfl, start.reaches_afterAll _⟩
  have hapart : AreApart ["level"] := by
    intro name hname other hother
    rw [List.mem_singleton.mp hname, List.mem_singleton.mp hother]
    decide
  have hundefined : ∀ member ∈ AccessorKind.both.symbols ["level"],
      space.definesMember ⟨17⟩ member = false := by decide +kernel
  have hgranted : (space.perform (.typedAccessors .both false ⟨17⟩ ["level"] behavior)).1.isOk =
      true := by decide +kernel
  obtain ⟨response, hperform⟩ : ∃ response,
      space.perform (.typedAccessors .both false ⟨17⟩ ["level"] behavior) =
        (.ok response, after) := perform_of_isOk hgranted
  let reference : ObjectRef := ⟨⟨1⟩, ⟨17⟩⟩
  have hplain : after.scopes.existingSingleton? (.object reference.id) = none := by
    decide +kernel
  have hdepth : 0 < after.settings.maxCallDepth := by decide +kernel
  have haccepts : after.accepts (.instanceOf ⟨.integer, "Integer"⟩) (.int 3) = true := by
    decide +kernel
  have hrefuses : after.accepts (.instanceOf ⟨.integer, "Integer"⟩) .nil = false := by
    decide +kernel
  clear_value after
  have hkept : ∀ member ∈ AccessorKind.both.symbols ["level"],
      after.ownMember? ⟨17⟩ member = after.ownMember? ⟨17⟩ member ∧
        after.signature? ⟨17⟩ member = after.signature? ⟨17⟩ member :=
    fun _ _ => ⟨rfl, rfl⟩
  have hclass : reference.ofClass = ⟨17⟩ := rfl
  obtain ⟨descriptor, hdescriptor, hcalls⟩ := accessors_round_trip hspace hapart hundefined
    hperform .refl hkept hclass hplain hdepth
  cases hdescriptor
  obtain ⟨written, read, hwritten, hread, -⟩ :=
    (hcalls "level" List.mem_cons_self (.int 3)).1 haccepts
  obtain ⟨violation, refused, hrefused, -⟩ := (hcalls "level" List.mem_cons_self .nil).2 hrefuses
  exact ⟨after, written, read, refused, violation, hwritten, hread, hrefused⟩

end CallContract.ObjectSpace
