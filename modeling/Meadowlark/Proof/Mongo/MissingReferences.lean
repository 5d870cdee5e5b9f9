import Meadowlark.Proof.Core.References
import Meadowlark.Proof.Mongo.ReferenceValidation
import Meadowlark.Proof.Mongo.SequentialWrites

namespace Meadowlark.Mongo
open Meadowlark.Core Systems

/-- No stored document is referenced by two of its aliases. -/
def SinglyReferenced (store : Store) (ids : List MeadowlarkId) : Prop :=
  ∀ document ∈ documents store, ∀ first ∈ ids, ∀ second ∈ ids,
    first ∈ document.aliasMeadowlarkIds → second ∈ document.aliasMeadowlarkIds → first = second

/-- A referenced alias is the id of its document. -/
def ReferencedById (store : Store) (ids : List MeadowlarkId) : Prop :=
  ∀ document ∈ documents store, ∀ id ∈ ids, id ∈ document.aliasMeadowlarkIds → id = document.id

section Reading
variable {store : Store} {ids : List MeadowlarkId} {projection : Projection}

/-- The documents that hold one of the ids. -/
def holders (store : Store) (ids : List MeadowlarkId) : List MeadowlarkDocument :=
  findDocuments store (.aliasMeadowlarkIds ids)

/-- The ids that a validation reads from the holders. -/
def readIds (store : Store) (projection : Projection) (ids : List MeadowlarkId) :
    List MeadowlarkId :=
  (holders store ids).map fun document =>
    reportedId (projection.apply (.aliasMeadowlarkIds ids) document)

theorem mem_holders {document : MeadowlarkDocument} :
    document ∈ holders store ids ↔
      document ∈ documents store ∧ ∃ id ∈ document.aliasMeadowlarkIds, id ∈ ids := by
  unfold holders
  rw [mem_findDocuments]
  simp [Filter.matches]

theorem documents_nodup (store : Store) : (documents store).Nodup := by
  apply List.Nodup.filterMap
  · intro first second document firstSame secondSame
    cases first with
    | document first =>
        cases second with
        | document second => cases firstSame; cases secondSame; rfl
        | concurrency second => cases secondSame
    | concurrency first => cases firstSame
  · exact List.Nodup.of_map _ store.unique

/-- The positional projection reads the first referenced alias of a holder. -/
theorem read_first {document : MeadowlarkDocument} (found : document ∈ holders store ids) :
    ∃ id ∈ ids, id ∈ document.aliasMeadowlarkIds ∧
      document.aliasMeadowlarkIds.find? (· ∈ ids) = some id ∧
      reportedId (Projection.onlyReturnAliasMeadowlarkId.apply (.aliasMeadowlarkIds ids) document) =
        id := by
  obtain ⟨-, held, listed, wanted⟩ := mem_holders.mp found
  cases first : document.aliasMeadowlarkIds.find? (· ∈ ids) with
  | none => exact absurd wanted (by simpa using List.find?_eq_none.mp first held listed)
  | some id =>
      refine ⟨id, by simpa using List.find?_some first, List.mem_of_find?_eq_some first, rfl, ?_⟩
      simp only [Projection.apply, reportedId, first]
      rfl

theorem readIds_alias_mem {id : MeadowlarkId}
    (read : id ∈ readIds store .onlyReturnAliasMeadowlarkId ids) :
    ∃ document ∈ documents store, id ∈ ids ∧ id ∈ document.aliasMeadowlarkIds ∧
      document.aliasMeadowlarkIds.find? (· ∈ ids) = some id := by
  obtain ⟨document, found, rfl⟩ := List.mem_map.mp read
  obtain ⟨id, wanted, held, first, same⟩ := read_first found
  rw [same]
  exact ⟨document, (mem_holders.mp found).1, wanted, held, first⟩

theorem readIds_id : readIds store .onlyReturnId ids = (holders store ids).map (·.id) := rfl

/-- The ids that are read are held. -/
theorem readIds_held (selfAliased : SelfAliased store) (validates : projection.Validates)
    {id : MeadowlarkId} (read : id ∈ readIds store projection ids) : Holds store id := by
  obtain ⟨document, found, rfl⟩ := List.mem_map.mp read
  exact reportedId_held selfAliased validates found

/-- No alias is read twice. -/
theorem readIds_alias_nodup (unique : AliasesUnique store) :
    (readIds store .onlyReturnAliasMeadowlarkId ids).Nodup := by
  have distinct : (holders store ids).Nodup := (documents_nodup store).filter _
  apply List.Nodup.map_on ?_ distinct
  intro first firstFound second secondFound same
  obtain ⟨id, -, firstHeld, -, firstRead⟩ := read_first firstFound
  obtain ⟨other, -, secondHeld, -, secondRead⟩ := read_first secondFound
  rw [firstRead, secondRead] at same
  subst same
  exact unique first (mem_holders.mp firstFound).1 second (mem_holders.mp secondFound).1 id
    firstHeld secondHeld

/-- As many holders as ids read every id. -/
theorem readIds_alias_covers (unique : AliasesUnique store)
    (counted : ids.length = (holders store ids).length) {id : MeadowlarkId} (inside : id ∈ ids) :
    id ∈ readIds store .onlyReturnAliasMeadowlarkId ids := by
  apply covers_of_length (readIds_alias_nodup unique) _ _ id inside
  · intro other read
    obtain ⟨-, -, wanted, -⟩ := readIds_alias_mem read
    exact wanted
  · unfold readIds
    rw [List.length_map, counted]

/-- Two aliases that are read from one document are the same. -/
theorem singly_of_read (unique : AliasesUnique store)
    (read : ∀ id ∈ ids, Holds store id → id ∈ readIds store .onlyReturnAliasMeadowlarkId ids) :
    SinglyReferenced store ids := by
  have firstOf : ∀ document ∈ documents store, ∀ id ∈ ids, id ∈ document.aliasMeadowlarkIds →
      document.aliasMeadowlarkIds.find? (· ∈ ids) = some id := by
    intro document stored id inside held
    obtain ⟨other, otherStored, -, otherHeld, first⟩ :=
      readIds_alias_mem (read id inside ⟨document, stored, held⟩)
    obtain rfl := unique document stored other otherStored id held otherHeld
    exact first
  intro document stored first firstInside second secondInside firstHeld secondHeld
  have same := firstOf document stored first firstInside firstHeld
  rw [firstOf document stored second secondInside secondHeld] at same
  exact (Option.some.inj same).symm

/-- The alias by which a document is referenced alone is read from it. -/
theorem read_of_singly (singly : SinglyReferenced store ids) {id : MeadowlarkId}
    (inside : id ∈ ids) (holds : Holds store id) :
    id ∈ readIds store .onlyReturnAliasMeadowlarkId ids := by
  obtain ⟨document, stored, held⟩ := holds
  have found : document ∈ holders store ids := mem_holders.mpr ⟨stored, id, held, inside⟩
  obtain ⟨other, otherInside, otherHeld, -, read⟩ := read_first found
  rw [singly document stored id inside other otherInside held otherHeld, ← read]
  exact List.mem_map_of_mem (f := fun document => reportedId
    (Projection.onlyReturnAliasMeadowlarkId.apply (.aliasMeadowlarkIds ids) document)) found

theorem read_of_referencedById (byId : ReferencedById store ids) {id : MeadowlarkId}
    (inside : id ∈ ids) (holds : Holds store id) : id ∈ readIds store .onlyReturnId ids := by
  obtain ⟨document, stored, held⟩ := holds
  rw [readIds_id, byId document stored id inside held]
  exact List.mem_map_of_mem (mem_holders.mpr ⟨stored, id, held, inside⟩)

theorem referencedById_of_read (unique : AliasesUnique store) (selfAliased : SelfAliased store)
    (read : ∀ id ∈ ids, Holds store id → id ∈ readIds store .onlyReturnId ids) :
    ReferencedById store ids := by
  intro document stored id inside held
  have named := read id inside ⟨document, stored, held⟩
  rw [readIds_id] at named
  obtain ⟨other, found, rfl⟩ := List.mem_map.mp named
  have otherStored := (mem_holders.mp found).1
  rw [unique document stored other otherStored other.id held (selfAliased other otherStored)]

end Reading

section Failures
variable [NodeRuntime] {store : Store} {projection : Projection}
  {references documentReferences descriptorReferences : List DocumentReference}

theorem missingFrom_eq (references : List DocumentReference) :
    missingFrom store projection references =
      if references.length ≠ (holders store
          (references.map getMeadowlarkIdForDocumentReference)).length then
        missingIdentities (· ∈ readIds store projection
          (references.map getMeadowlarkIdForDocumentReference)) references
      else [] := by
  have picked := @missingIdentities_pick _ (· ∈ readIds store projection
    (references.map getMeadowlarkIdForDocumentReference)) _ references
  rw [← picked]
  unfold missingFrom findMissingReferences readIds holders
  simp only [List.length_map, List.map_map]
  rfl

/-- The list reads every id that is held, unless its length alone answers. -/
def ReadsHeld (store : Store) (projection : Projection) (references : List DocumentReference) :
    Prop :=
  let ids := references.map getMeadowlarkIdForDocumentReference
  references.length = (holders store ids).length ∨
    ∀ id ∈ ids, Holds store id → id ∈ readIds store projection ids

/-- As many holders as references leave nothing missing. -/
theorem held_of_length (unique : AliasesUnique store)
    (counted : references.length =
      (holders store (references.map getMeadowlarkIdForDocumentReference)).length)
    {reference : DocumentReference} (inside : reference ∈ references) :
    Holds store (getMeadowlarkIdForDocumentReference reference) := by
  have read := readIds_alias_covers unique (by rw [List.length_map, counted])
    (List.mem_map_of_mem (f := getMeadowlarkIdForDocumentReference) inside)
  obtain ⟨document, stored, -, held, -⟩ := readIds_alias_mem read
  exact ⟨document, stored, held⟩

theorem missingFrom_length (unique : AliasesUnique store) (selfAliased : SelfAliased store)
    (validates : projection.Validates) :
    (missingIdentities (Holds store) references).length ≤
      (missingFrom store projection references).length := by
  rw [missingFrom_eq]
  split
  · exact missingIdentities_length_le fun id read => readIds_held selfAliased validates read
  · rename_i counted
    rw [not_not] at counted
    have complete : missingIdentities (Holds store) references = [] :=
      missingIdentities_nil_iff.mpr fun reference inside => held_of_length unique counted inside
    rw [complete]

/-- The check of one list is exact when it reads every id that is held. -/
theorem missingFrom_exact_iff (unique : AliasesUnique store) (selfAliased : SelfAliased store)
    (validates : projection.Validates) :
    missingFrom store projection references = missingIdentities (Holds store) references ↔
      ReadsHeld store projection references := by
  rw [missingFrom_eq]
  unfold ReadsHeld
  by_cases counted : references.length =
      (holders store (references.map getMeadowlarkIdForDocumentReference)).length
  · rw [if_neg (not_not.mpr counted)]
    refine iff_of_true ?_ (.inl counted)
    exact (missingIdentities_nil_iff.mpr fun reference inside =>
      held_of_length unique counted inside).symm
  · rw [if_pos counted]
    constructor
    · intro same
      right
      intro id inside holds
      obtain ⟨reference, listed, rfl⟩ := List.mem_map.mp inside
      exact @present_of_length _ (Holds store) _ references (· ∈ readIds store projection
        (references.map getMeadowlarkIdForDocumentReference)) _
        (fun id read => readIds_held selfAliased validates read)
        (congrArg List.length same) reference listed holds
    · rintro (same | reads)
      · exact absurd same counted
      · apply missingIdentities_congr
        intro reference inside
        exact ⟨readIds_held selfAliased validates,
          reads _ (List.mem_map_of_mem inside)⟩

/-- The two lists are checked exactly when no document is referenced by two of its aliases and
every descriptor by its own id. -/
def ChecksExactly (store : Store) (documentReferences descriptorReferences : List DocumentReference) :
    Prop :=
  SinglyReferenced store (documentReferences.map getMeadowlarkIdForDocumentReference) ∧
    (descriptorReferences.length = (holders store
        (descriptorReferences.map getMeadowlarkIdForDocumentReference)).length ∨
      ReferencedById store (descriptorReferences.map getMeadowlarkIdForDocumentReference))

theorem readsHeld_documents_iff (unique : AliasesUnique store) :
    ReadsHeld store .onlyReturnAliasMeadowlarkId references ↔
      SinglyReferenced store (references.map getMeadowlarkIdForDocumentReference) := by
  constructor
  · rintro (counted | reads)
    · apply singly_of_read unique
      intro id inside _
      exact readIds_alias_covers unique (by rw [List.length_map, counted]) inside
    · exact singly_of_read unique reads
  · intro singly
    exact .inr fun id inside holds => read_of_singly singly inside holds

theorem readsHeld_descriptors_iff (unique : AliasesUnique store) (selfAliased : SelfAliased store) :
    ReadsHeld store .onlyReturnId references ↔
      references.length =
          (holders store (references.map getMeadowlarkIdForDocumentReference)).length ∨
        ReferencedById store (references.map getMeadowlarkIdForDocumentReference) := by
  apply or_congr_right
  exact ⟨referencedById_of_read unique selfAliased,
    fun byId id inside holds => read_of_referencedById byId inside holds⟩

/-- The check reports the missing references, each id once, exactly when no document is referenced
by two of its aliases and every descriptor by its own id. -/
theorem validateReferences_exact_iff {committed : Store} (unique : AliasesUnique store)
    (selfAliased : SelfAliased store)
    (documentReferences descriptorReferences : List DocumentReference) :
    ∃ failures, run committed (validateReferences documentReferences descriptorReferences) store =
        .ok (failures, store) ∧
      (((failures = [] ↔ ∀ reference ∈ documentReferences ++ descriptorReferences,
            Holds store (getMeadowlarkIdForDocumentReference reference)) ∧
          failures = missingIdentities (Holds store) documentReferences ++
            missingIdentities (Holds store) descriptorReferences) ↔
        ChecksExactly store documentReferences descriptorReferences) := by
  refine ⟨missingFrom store .onlyReturnAliasMeadowlarkId documentReferences ++
    missingFrom store .onlyReturnId descriptorReferences, rfl, ?_⟩
  have complete : missingIdentities (Holds store) documentReferences ++
        missingIdentities (Holds store) descriptorReferences = [] ↔
      ∀ reference ∈ documentReferences ++ descriptorReferences,
        Holds store (getMeadowlarkIdForDocumentReference reference) := by
    rw [List.append_eq_nil_iff, missingIdentities_nil_iff, missingIdentities_nil_iff]
    simp only [List.forall_mem_append]
  have documentsExact := @missingFrom_exact_iff _ _ .onlyReturnAliasMeadowlarkId
    documentReferences unique selfAliased trivial
  have descriptorsExact := @missingFrom_exact_iff _ _ .onlyReturnId descriptorReferences unique
    selfAliased trivial
  unfold ChecksExactly
  rw [← readsHeld_documents_iff unique, ← readsHeld_descriptors_iff unique selfAliased,
    ← documentsExact, ← descriptorsExact]
  constructor
  · rintro ⟨-, same⟩
    have documentsCounted := @missingFrom_length _ _ .onlyReturnAliasMeadowlarkId
      documentReferences unique selfAliased trivial
    have descriptorsCounted := @missingFrom_length _ _ .onlyReturnId descriptorReferences unique
      selfAliased trivial
    have counted := congrArg List.length same
    rw [List.length_append, List.length_append] at counted
    exact List.append_inj same (by omega)
  · rintro ⟨sameDocuments, sameDescriptors⟩
    rw [sameDocuments, sameDescriptors]
    exact ⟨complete, rfl⟩

end Failures

section Sample
open Core.Sample

/-- A school holds its own id and the id of its superclass. -/
def storedSchool : MeadowlarkDocument :=
  @meadowlarkDocumentFrom runtime (resource "School")
    (upsertRequest (resource "School") "schoolId" "1" []
      (some (superclass "EducationOrganization" "educationOrganizationId" "1")) 1 "client").documentInfo
    (documentUuid "000000000001")
    (upsertRequest (resource "School") "schoolId" "1" [] none 1 "client").meadowlarkId
    (.object [("schoolId", .string "1")]) true "client" (some 1) 1

def oneSchool : Store := ⟨[.document storedSchool], List.nodup_singleton _⟩

def schoolReferences : List DocumentReference :=
  [reference "School" "schoolId" "1",
    reference "EducationOrganization" "educationOrganizationId" "1"]

theorem oneSchool_aliasesUnique : AliasesUnique oneSchool := by decide +kernel

theorem oneSchool_selfAliased : SelfAliased oneSchool := by
  unfold SelfAliased
  decide +kernel

/-- Both references of one school exist, but one of them is reported as missing. -/
theorem superclass_reference_reported :
    AliasesUnique oneSchool ∧ SelfAliased oneSchool ∧
      (∀ reference ∈ schoolReferences,
        Holds oneSchool (@getMeadowlarkIdForDocumentReference runtime reference)) ∧
      run oneSchool (@validateReferences runtime schoolReferences []) oneSchool =
        .ok ([⟨"EducationOrganization", [("educationOrganizationId", .string "1")]⟩], oneSchool) := by
  have held : ∀ reference ∈ schoolReferences,
      Holds oneSchool (@getMeadowlarkIdForDocumentReference runtime reference) := by
    decide +kernel
  have reported : @missingReferences runtime oneSchool
      { NoDocumentInfo with documentReferences := schoolReferences } =
        [⟨"EducationOrganization", [("educationOrganizationId", .string "1")]⟩] := by
    decide +kernel
  refine ⟨oneSchool_aliasesUnique, oneSchool_selfAliased, held, ?_⟩
  rw [← reported]
  rfl

/-- A school that is missing twice is named once. -/
theorem missing_school_named_once :
    ∃ failures, run oneSchool (@validateReferences runtime
        [reference "School" "schoolId" "1", reference "School" "schoolId" "2",
          reference "School" "schoolId" "2"] []) oneSchool = .ok (failures, oneSchool) ∧
      failures = [⟨"School", [("schoolId", .string "2")]⟩] := by
  obtain ⟨failures, done, checked⟩ := @validateReferences_exact_iff runtime oneSchool oneSchool
    oneSchool_aliasesUnique oneSchool_selfAliased
    [reference "School" "schoolId" "1", reference "School" "schoolId" "2",
      reference "School" "schoolId" "2"] []
  have condition : @ChecksExactly runtime oneSchool [reference "School" "schoolId" "1",
      reference "School" "schoolId" "2", reference "School" "schoolId" "2"] [] := by
    constructor
    · unfold SinglyReferenced
      decide +kernel
    · exact .inl rfl
  refine ⟨failures, done, ?_⟩
  rw [(checked.mpr condition).2]
  decide +kernel

example : @missingReferences runtime Database.empty NoDocumentInfo = [] := by decide +kernel

end Sample
end Meadowlark.Mongo
