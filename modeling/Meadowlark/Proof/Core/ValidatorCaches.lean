import Meadowlark.Construction.Core.SchemaValidation

namespace Meadowlark.Core

section Caches
variable [SchemaLibrary] {Reference : Type} (environment : ValidationEnvironment)
  (schemaAt : Reference → ResourceSchema)

/-- The validators of a resource for query parameters or for documents. -/
def validatorsFor (reference : Reference) (isQueryParameterValidator : Bool) :
    Except Exception ResourceSchemaValidators :=
  compileValidators (initializeAjv environment isQueryParameterValidator) (schemaAt reference)

/-- The call validates query parameters of the resource. -/
def ValidationCall.Queries (call : ValidationCall Reference) (reference : Reference) : Prop :=
  ∃ queryParameters, call = .query reference queryParameters

/-- A query of the resource has replaced the validators for its documents. -/
def Replaced (calls : List (ValidationCall Reference)) (reference : Reference) : Prop :=
  (∃ call ∈ calls, call.Queries reference) ∧
    ∃ resourceValidators, validatorsFor environment schemaAt reference true = .ok resourceValidators

variable {environment schemaAt} {reference : Reference} {calls : List (ValidationCall Reference)}

theorem replaced_append {call : ValidationCall Reference} (other : ¬ call.Queries reference) :
    Replaced environment schemaAt (calls ++ [call]) reference ↔
      Replaced environment schemaAt calls reference := by
  unfold Replaced
  simp [other]

theorem replaced_query {queryParameters : FrontendQueryParameters} :
    Replaced environment schemaAt (calls ++ [.query reference queryParameters]) reference ↔
      ∃ resourceValidators,
        validatorsFor environment schemaAt reference true = .ok resourceValidators := by
  unfold Replaced
  apply and_iff_right
  exact ⟨.query reference queryParameters, by simp, queryParameters, rfl⟩

variable (environment schemaAt) in
/-- What the caches hold after a sequence of calls. -/
structure CachesKnown (calls : List (ValidationCall Reference)) (caches : ValidatorCaches Reference) :
    Prop where
  queries (reference : Reference) : caches.queryValidatorCache reference = none
  replaced {reference : Reference} (before : Replaced environment schemaAt calls reference) :
    caches.validatorCache reference = (validatorsFor environment schemaAt reference true).toOption
  documents {reference : Reference} (before : ¬ Replaced environment schemaAt calls reference) :
    caches.validatorCache reference = none ∨
      caches.validatorCache reference = (validatorsFor environment schemaAt reference false).toOption

variable [DecidableEq Reference] {caches : ValidatorCaches Reference}

/-- Validators that compile are stored, and others are not. -/
def stored (cache : Reference → Option ResourceSchemaValidators) (reference : Reference)
    (outcome : Except Exception ResourceSchemaValidators) :
    Reference → Option ResourceSchemaValidators :=
  match outcome with
  | .ok resourceValidators => Function.update cache reference (some resourceValidators)
  | .error _ => cache

omit [SchemaLibrary] in
theorem stored_other {cache : Reference → Option ResourceSchemaValidators} {other : Reference}
    (different : other ≠ reference) (outcome : Except Exception ResourceSchemaValidators) :
    stored cache reference outcome other = cache other := by
  cases outcome with
  | ok resourceValidators => exact Function.update_of_ne different _ _
  | error error => rfl

omit [SchemaLibrary] in
theorem stored_same {cache : Reference → Option ResourceSchemaValidators}
    (outcome : Except Exception ResourceSchemaValidators) :
    stored cache reference outcome reference = outcome.toOption ∨
      (outcome.toOption = none ∧ stored cache reference outcome reference = cache reference) := by
  cases outcome with
  | ok resourceValidators => exact Or.inl (Function.update_self _ _ _)
  | error error => exact Or.inr ⟨rfl, rfl⟩

/-- A cached validator is returned, and nothing changes. -/
theorem getSchemaValidatorsFor_found {resourceValidators : ResourceSchemaValidators}
    (found : caches.validatorCache reference = some resourceValidators) :
    getSchemaValidatorsFor environment schemaAt reference false caches =
      (.ok resourceValidators, caches) := by
  unfold getSchemaValidatorsFor
  rw [if_neg Bool.false_ne_true]
  dsimp only
  rw [found]

/-- New validators are compiled and stored in the cache of the documents. -/
theorem getSchemaValidatorsFor_missed {isQueryParameterValidator : Bool}
    (missed : (if isQueryParameterValidator then caches.queryValidatorCache
      else caches.validatorCache) reference = none) :
    (getSchemaValidatorsFor environment schemaAt reference isQueryParameterValidator caches).1 =
        validatorsFor environment schemaAt reference isQueryParameterValidator ∧
      (getSchemaValidatorsFor environment schemaAt reference isQueryParameterValidator
          caches).2.queryValidatorCache = caches.queryValidatorCache ∧
      (getSchemaValidatorsFor environment schemaAt reference isQueryParameterValidator
          caches).2.validatorCache = stored caches.validatorCache reference
            (validatorsFor environment schemaAt reference isQueryParameterValidator) := by
  unfold getSchemaValidatorsFor validatorsFor
  simp only [missed]
  cases compileValidators (initializeAjv environment isQueryParameterValidator)
    (schemaAt reference) with
  | error error => exact ⟨rfl, rfl, rfl⟩
  | ok resourceValidators => exact ⟨rfl, rfl, rfl⟩

variable [NodeRuntime]

/-- A document call fills an empty entry only. -/
theorem CachesKnown.document (known : CachesKnown environment schemaAt calls caches)
    (reference : Reference) (body : Json) (isUpdate : Bool) :
    CachesKnown environment schemaAt (calls ++ [.document reference body isUpdate])
      (validate environment schemaAt (.document reference body isUpdate) caches).2 := by
  have quiet : ∀ other, ¬ (ValidationCall.document reference body isUpdate).Queries other := by
    rintro other ⟨_, ⟨⟩⟩
  change CachesKnown environment schemaAt _
    (getSchemaValidatorsFor environment schemaAt reference false caches).2
  cases held : caches.validatorCache reference with
  | some resourceValidators =>
      rw [getSchemaValidatorsFor_found held]
      exact ⟨known.queries, fun before => known.replaced ((replaced_append (quiet _)).mp before),
        fun before => known.documents fun replaced => before ((replaced_append (quiet _)).mpr replaced)⟩
  | none =>
      obtain ⟨-, queries, documents⟩ :=
        @getSchemaValidatorsFor_missed _ _ environment schemaAt reference _ caches false held
      refine ⟨fun other => (congrFun queries other).trans (known.queries other), ?_, ?_⟩
      · intro other before
        have earlier := known.replaced ((replaced_append (quiet other)).mp before)
        have different : other ≠ reference := by
          rintro rfl
          obtain ⟨-, resourceValidators, compiled⟩ := before
          rw [held, compiled] at earlier
          cases earlier
        rw [documents, stored_other different]
        exact earlier
      · intro other before
        rw [documents]
        by_cases same : other = reference
        · subst same
          rcases @stored_same _ other _ caches.validatorCache
            (validatorsFor environment schemaAt other false) with new | ⟨-, old⟩
          · exact Or.inr new
          · exact Or.inl (old.trans held)
        · rw [stored_other same]
          exact known.documents fun replaced => before ((replaced_append (quiet other)).mpr replaced)

/-- A query call replaces the entry of the documents. -/
theorem CachesKnown.query (known : CachesKnown environment schemaAt calls caches)
    (reference : Reference) (queryParameters : FrontendQueryParameters) :
    CachesKnown environment schemaAt (calls ++ [.query reference queryParameters])
      (validate environment schemaAt (.query reference queryParameters) caches).2 := by
  have quiet : ∀ other, other ≠ reference →
      ¬ (ValidationCall.query reference queryParameters).Queries other := by
    rintro other different ⟨_, ⟨⟩⟩
    exact different rfl
  obtain ⟨-, queries, documents⟩ :=
    @getSchemaValidatorsFor_missed _ _ environment schemaAt reference _ caches true
      (known.queries reference)
  change CachesKnown environment schemaAt _
    (getSchemaValidatorsFor environment schemaAt reference true caches).2
  refine ⟨fun other => (congrFun queries other).trans (known.queries other), ?_, ?_⟩
  · intro other before
    rw [documents]
    by_cases same : other = reference
    · subst same
      obtain ⟨resourceValidators, compiled⟩ := replaced_query.mp before
      rw [compiled]
      exact Function.update_self _ _ _
    · rw [stored_other same]
      exact known.replaced ((replaced_append (quiet other same)).mp before)
  · intro other before
    rw [documents]
    by_cases same : other = reference
    · subst same
      cases compiled : validatorsFor environment schemaAt other true with
      | ok resourceValidators => exact absurd (replaced_query.mpr ⟨_, compiled⟩) before
      | error error =>
          apply known.documents
          rintro ⟨-, resourceValidators, also⟩
          rw [compiled] at also
          cases also
    · rw [stored_other same]
      exact known.documents fun replaced =>
        before ((replaced_append (quiet other same)).mpr replaced)

/-- The caches are known after every sequence of calls. -/
theorem cachesKnown_after (calls : List (ValidationCall Reference)) :
    CachesKnown environment schemaAt calls (cachesAfter environment schemaAt calls) := by
  induction calls using List.reverseRecOn with
  | nil =>
      refine ⟨fun _ => rfl, ?_, fun _ => Or.inl rfl⟩
      rintro reference ⟨⟨call, inside, -⟩, -⟩
      cases inside
  | append_singleton calls call ih =>
      unfold cachesAfter at ih ⊢
      rw [List.foldl_append]
      cases call with
      | document reference body isUpdate => exact ih.document reference body isUpdate
      | query reference queryParameters => exact ih.query reference queryParameters

variable {body : Json} {isUpdate : Bool}

/-- After a query of its resource, a document is checked by the validators for queries. -/
theorem validateDocument_replaced (replaced : Replaced environment schemaAt calls reference) :
    (validateDocument environment schemaAt reference body isUpdate
        (cachesAfter environment schemaAt calls)).1 =
      (validatorsFor environment schemaAt reference true).map fun resourceValidators =>
        validateWith resourceValidators (schemaAt reference) body isUpdate := by
  have held := (cachesKnown_after calls).replaced replaced
  obtain ⟨-, resourceValidators, compiled⟩ := replaced
  rw [compiled] at held ⊢
  unfold validateDocument
  rw [getSchemaValidatorsFor_found held]

/-- Otherwise a document is checked by the validators for documents. -/
theorem validateDocument_kept (kept : ¬ Replaced environment schemaAt calls reference) :
    (validateDocument environment schemaAt reference body isUpdate
        (cachesAfter environment schemaAt calls)).1 =
      (validatorsFor environment schemaAt reference false).map fun resourceValidators =>
        validateWith resourceValidators (schemaAt reference) body isUpdate := by
  have missed (free : (cachesAfter environment schemaAt calls).validatorCache reference = none) :
      (validateDocument environment schemaAt reference body isUpdate
          (cachesAfter environment schemaAt calls)).1 =
        (validatorsFor environment schemaAt reference false).map fun resourceValidators =>
          validateWith resourceValidators (schemaAt reference) body isUpdate := by
    have compiled := (@getSchemaValidatorsFor_missed _ _ environment schemaAt reference _
      (cachesAfter environment schemaAt calls) false free).1
    unfold validateDocument
    dsimp only
    rw [compiled]
  rcases (cachesKnown_after calls).documents kept with free | held
  · exact missed free
  · cases compiled : validatorsFor environment schemaAt reference false with
    | error error =>
        rw [compiled] at held
        exact compiled ▸ missed held
    | ok resourceValidators =>
        rw [compiled] at held
        unfold validateDocument
        rw [getSchemaValidatorsFor_found held]

/-- A query is always checked by validators that are compiled for it. -/
theorem validateQueryParameters_after (queryParameters : FrontendQueryParameters) :
    (validateQueryParameters environment schemaAt reference queryParameters
        (cachesAfter environment schemaAt calls)).1 =
      (validatorsFor environment schemaAt reference true).bind fun resourceValidators =>
        validateQueryWith resourceValidators (schemaAt reference) queryParameters := by
  have compiled := (@getSchemaValidatorsFor_missed _ _ environment schemaAt reference _
    (cachesAfter environment schemaAt calls) true ((cachesKnown_after calls).queries reference)).1
  unfold validateQueryParameters
  dsimp only
  rw [compiled]

end Caches

section Claim
variable [SchemaLibrary] {Reference : Type} [DecidableEq Reference]
  (environment : ValidationEnvironment) (schemaAt : Reference → ResourceSchema)

/-- The validators of a resource for query parameters give a body the same verdict as the ones for
documents. -/
def TreatsAlike (reference : Reference) (body : Json) (isUpdate : Bool) : Prop :=
  ((validatorsFor environment schemaAt reference true).map fun resourceValidators =>
      validateWith resourceValidators (schemaAt reference) body isUpdate) =
    (validatorsFor environment schemaAt reference false).map fun resourceValidators =>
      validateWith resourceValidators (schemaAt reference) body isUpdate

omit [DecidableEq Reference] in
/-- Without overposting, all validators are compiled with the same options. -/
theorem validatorsFor_strict (strict : environment.allowOverposting = false) (reference : Reference) :
    validatorsFor environment schemaAt reference true =
      validatorsFor environment schemaAt reference false := by
  unfold validatorsFor initializeAjv
  simp [strict]

omit [SchemaLibrary] in
theorem map_document_inj {first second : Except Exception DocumentVerdict} :
    first.map ValidationVerdict.document = second.map ValidationVerdict.document ↔
      first = second := by
  constructor
  · intro same
    cases first with
    | error error =>
        cases second with
        | error other => exact congrArg Except.error (Except.error.inj same)
        | ok verdict => cases same
    | ok verdict =>
        cases second with
        | error error => cases same
        | ok other => exact congrArg Except.ok (ValidationVerdict.document.inj (Except.ok.inj same))
  · exact congrArg _

variable [NodeRuntime] in
/-- A call on the caches that earlier calls have left is answered as on empty caches, unless it is
for a document of a resource that was queried, overposting is allowed, and the validators differ. -/
theorem validation_transparent_iff (calls : List (ValidationCall Reference))
    (call : ValidationCall Reference) :
    (validate environment schemaAt call (cachesAfter environment schemaAt calls)).1 =
        (validate environment schemaAt call (.empty Reference)).1 ↔
      ∀ reference body isUpdate, call = .document reference body isUpdate →
        environment.allowOverposting = true → Replaced environment schemaAt calls reference →
          TreatsAlike environment schemaAt reference body isUpdate := by
  cases call with
  | query reference queryParameters =>
      have after := @validateQueryParameters_after _ _ environment schemaAt reference calls _ _
        queryParameters
      have first := @validateQueryParameters_after _ _ environment schemaAt reference [] _ _
        queryParameters
      have same : (validate environment schemaAt (.query reference queryParameters)
          (cachesAfter environment schemaAt calls)).1 =
          (validate environment schemaAt (.query reference queryParameters)
            (.empty Reference)).1 :=
        congrArg (Except.map ValidationVerdict.query) (after.trans first.symm)
      exact iff_of_true same fun _ _ _ other => nomatch other
  | document reference body isUpdate =>
      have fresh : ¬ Replaced environment schemaAt [] reference := by
        rintro ⟨⟨call, inside, -⟩, -⟩
        cases inside
      have first := @validateDocument_kept _ _ environment schemaAt reference [] _ _ body isUpdate
        fresh
      change Except.map ValidationVerdict.document (validateDocument environment schemaAt reference
          body isUpdate (cachesAfter environment schemaAt calls)).1 =
        Except.map ValidationVerdict.document (validateDocument environment schemaAt reference
          body isUpdate (cachesAfter environment schemaAt [])).1 ↔ _
      rw [map_document_inj, first]
      by_cases replaced : Replaced environment schemaAt calls reference
      · rw [validateDocument_replaced replaced]
        constructor
        · rintro same _ _ _ ⟨⟩ _ _
          exact same
        · intro alike
          by_cases allowed : environment.allowOverposting = true
          · exact alike reference body isUpdate rfl allowed replaced
          · rw [validatorsFor_strict environment schemaAt (by simpa using allowed)]
      · rw [validateDocument_kept replaced]
        apply iff_of_true rfl
        rintro _ _ _ ⟨⟩ _ other
        exact absurd other replaced

end Claim

section Examples

private def propertyNames (schema : Json) : List String :=
  ((schema.field? "properties").getD .null).entries.map Prod.fst

private def additionalError (field : String × Json) : ErrorObject :=
  ⟨"", "additionalProperties", some "must NOT have additional properties", some field.1⟩

/-- A validator of schemas that list their properties and may exclude other ones. -/
private def validateProperties (options : AjvOptions) (schema data : Json) : Validation :=
  let additional := data.entries.filter fun field => field.1 ∉ propertyNames schema
  if schema.field? "additionalProperties" ≠ some (.boolean false) ∨ additional = [] then
    ⟨true, none, data⟩
  else if options.removeAdditional then
    ⟨true, none, .object (data.entries.filter fun field => field.1 ∈ propertyNames schema)⟩
  else ⟨false, some (additional.map additionalError), data⟩

private def describedError (basePath : String) (error : ErrorObject) : Json :=
  .object
    [("message", .string ("'" ++ error.additionalProperty.getD "" ++
        "' property is not expected to be here")),
      ("suggestion", .string "Did you mean property 'name'?"),
      ("path", .string basePath),
      ("context", .object [("errorType", .string error.keyword)])]

private abbrev nameLibrary : SchemaLibrary where
  compile options schema := .ok (validateProperties options schema)
  betterAjvErrors _ _ errors basePath :=
    errors.map fun errors => .array (errors.map (describedError basePath))

private def text : Json := .object [("type", .string "string")]

private def schemaOf (properties : List (String × Json)) : Json :=
  .object [("type", .string "object"), ("additionalProperties", .boolean false),
    ("properties", .object properties)]

/-- A document has a name, and an update names the document by its id. -/
private def nameSchema : ResourceSchema where
  resourceName := "School"
  isDescriptor := false
  allowIdentityUpdates := false
  details := .object
    [("jsonSchemaForInsert", schemaOf [("name", text)]),
      ("jsonSchemaForUpdate", schemaOf [("id", text), ("name", text)]),
      ("jsonSchemaForQuery", schemaOf [("name", text)])]

private def overposted : Json := .object [("name", .string "one"), ("names", .string "two")]

private abbrev validateSchool (call : ValidationCall Unit) (caches : ValidatorCaches Unit) :=
  @validate Sample.runtime nameLibrary Unit _ ⟨true, false⟩ (fun _ => nameSchema) call caches

/-- A query makes the later documents of its resource fail that were accepted before. -/
theorem query_rejects_overposting :
    (validateSchool (.document () overposted false) (.empty Unit)).1.toOption =
        some (.document ⟨none, .object [("name", .string "one")]⟩) ∧
      (validateSchool (.document () overposted false)
        (validateSchool (.query () [("name", .string "one")]) (.empty Unit)).2).1.toOption =
        some (.document ⟨some (.object [("error", .array [describedError "\x7brequestBody\x7d"
          (additionalError ("names", .string "two"))])]), overposted⟩) := by
  decide +kernel

end Examples
end Meadowlark.Core
