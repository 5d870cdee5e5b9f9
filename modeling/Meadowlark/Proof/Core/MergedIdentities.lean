import Meadowlark.Construction.Core.Extraction
import Meadowlark.Proof.Core.JsonPaths
import Meadowlark.Systems.Selections
import Mathlib.Logic.Relation

namespace Meadowlark.Core.Extraction
open Systems

section Overwriting
variable {documentPathsMapping : Mapping String DocumentPaths}

/-- The keys of the identity properties with their paths; a key can have several paths. -/
def identityEntries (documentPathsMapping : Mapping String DocumentPaths)
    (identityFullnames : List String) : List (String × String) :=
  (identityFullnames.filterMap documentPathsMapping.get?).flatMap (·.base.paths.entries)

/-- Some paths overwrite others until every key has one of its own paths. -/
structure Overwrites (entries : List (String × String)) (winners : Mapping String String) :
    Prop where
  own : ∀ documentKey winner, winners.get? documentKey = some winner →
    (documentKey, winner) ∈ entries
  every : ∀ documentKey documentJsonPath, (documentKey, documentJsonPath) ∈ entries →
    ∃ winner, winners.get? documentKey = some winner

theorem Overwrites.setAll (entries : List (String × String)) :
    Overwrites entries (Mapping.empty.setAll entries) where
  own documentKey winner found := by
    rcases Mapping.get?_setAll found with inside | before
    · exact inside
    · cases before
  every _ documentJsonPath inside := Mapping.exists_get?_setAll (.inl ⟨documentJsonPath, inside⟩)

/-- Each path of a key can be the one that overwrites the others. -/
theorem Overwrites.set {entries : List (String × String)} {winners : Mapping String String}
    (overwrites : Overwrites entries winners) {documentKey documentJsonPath : String}
    (own : (documentKey, documentJsonPath) ∈ entries) :
    Overwrites entries (winners.set documentKey documentJsonPath) where
  own key winner found := by
    rw [Mapping.get?_set] at found
    split at found
    · rename_i same
      cases found
      exact same ▸ own
    · exact overwrites.own key winner found
  every key path inside := by
    rw [Mapping.get?_set]
    split
    · exact ⟨_, rfl⟩
    · exact overwrites.every key path inside

/-- The loop over the names assigns the paths of all properties one after another. -/
theorem overwritePaths_ok {identityFullnames : List String}
    (mapped : ∀ identityFullName ∈ identityFullnames,
      documentPathsMapping.get? identityFullName ≠ none) (start : Mapping String String) :
    identityFullnames.foldlM (overwritePaths documentPathsMapping) start =
      .ok (start.setAll (identityEntries documentPathsMapping identityFullnames)) := by
  induction identityFullnames generalizing start with
  | nil => rfl
  | cons identityFullName rest ih =>
      obtain ⟨documentPaths, found⟩ :=
        Option.ne_none_iff_exists'.mp (mapped identityFullName List.mem_cons_self)
      have first : overwritePaths documentPathsMapping start identityFullName =
          .ok (start.setAll documentPaths.base.paths.entries) := by
        unfold overwritePaths
        rw [found]
      rw [List.foldlM_cons, first]
      refine (ih (fun other inside => mapped other (List.mem_cons_of_mem _ inside)) _).trans ?_
      unfold identityEntries Mapping.setAll
      rw [List.filterMap_cons_some found, List.flatMap_cons, List.foldl_append]

/-- A name without paths stops the loop. -/
theorem overwritePaths_error {identityFullnames : List String} {identityFullName : String}
    (inside : identityFullName ∈ identityFullnames)
    (unmapped : documentPathsMapping.get? identityFullName = none) (start : Mapping String String) :
    identityFullnames.foldlM (overwritePaths documentPathsMapping) start =
      .error (undefinedProperty "paths") := by
  induction identityFullnames generalizing start with
  | nil => exact absurd inside List.not_mem_nil
  | cons first rest ih =>
      rw [List.foldlM_cons]
      cases found : documentPathsMapping.get? first with
      | none =>
          unfold overwritePaths
          rw [found]
          rfl
      | some documentPaths =>
          have later : identityFullName ∈ rest := by
            rcases List.mem_cons.mp inside with rfl | later
            · rw [unmapped] at found
              cases found
            · exact later
          unfold overwritePaths
          rw [found]
          exact ih later _

theorem mem_identityEntries_perm {first second : List String} (same : first.Perm second)
    {entry : String × String} :
    entry ∈ identityEntries documentPathsMapping first ↔
      entry ∈ identityEntries documentPathsMapping second := by
  unfold identityEntries
  exact ((same.filterMap _).flatMap_right _).mem_iff

theorem identityDocumentPaths_ok {resourceSchema : ResourceSchema}
    (mapped : ∀ identityFullName ∈ resourceSchema.identityFullnames,
      resourceSchema.documentPathsMapping.get? identityFullName ≠ none) :
    ∃ overwritten, identityDocumentPaths resourceSchema = .ok overwritten ∧
      Overwrites (identityEntries resourceSchema.documentPathsMapping
        resourceSchema.identityFullnames) overwritten :=
  ⟨_, overwritePaths_ok mapped Mapping.empty, Overwrites.setAll _⟩

end Overwriting

section Constraints
variable {resourceSchema : ResourceSchema}

/-- An equality constraint relates the two paths. -/
def Constrains (resourceSchema : ResourceSchema) (first second : String) : Prop :=
  ∃ constraint ∈ resourceSchema.equalityConstraints,
    (constraint.sourceJsonPath = first ∧ constraint.targetJsonPath = second) ∨
      (constraint.sourceJsonPath = second ∧ constraint.targetJsonPath = first)

theorem Constrains.symm {first second : String} (constrains : Constrains resourceSchema first second) :
    Constrains resourceSchema second first := by
  obtain ⟨constraint, listed, paths⟩ := constrains
  exact ⟨constraint, listed, paths.symm⟩

variable [JsonPathLibrary] {documentBody : Json}

/-- A chain of equality constraints whose paths are present in the document. -/
def LinkedIn (resourceSchema : ResourceSchema) (documentBody : Json) : String → String → Prop :=
  Relation.ReflTransGen fun first second => Constrains resourceSchema first second ∧
    JsonPathLibrary.flattened second documentBody ≠ []

/-- The path is present with a primitive value. -/
def HasPrimitive (documentBody : Json) (documentJsonPath : String) : Prop :=
  ∃ value, JsonPathLibrary.unwrapped documentJsonPath documentBody = some value ∧
    value.isPrimitive = true

omit [JsonPathLibrary] in
theorem allEqual_iff {values : List Json} :
    allEqual values = true ↔ ∀ first ∈ values, ∀ second ∈ values, first = second := by
  cases values with
  | nil => simp [allEqual]
  | cons first rest =>
      unfold allEqual
      rw [List.all_eq_true]
      constructor
      · intro equal value inside other otherInside
        have valueEqual := equal value inside
        have otherEqual := equal other otherInside
        rw [decide_eq_true_eq] at valueEqual otherEqual
        rw [valueEqual, otherEqual]
      · intro equal value inside
        rw [decide_eq_true_eq]
        exact equal value inside first List.mem_cons_self

/-- The values of constrained paths are all equal in a valid document. -/
theorem constrained_equal
    (valid : validateEqualityConstraints resourceSchema documentBody = []) {first second : String}
    (constrains : Constrains resourceSchema first second) {value other : Json}
    (value_inside : value ∈ JsonPathLibrary.flattened first documentBody)
    (other_inside : other ∈ JsonPathLibrary.flattened second documentBody) : other = value := by
  obtain ⟨constraint, listed, paths⟩ := constrains
  unfold validateEqualityConstraints at valid
  rw [List.filterMap_eq_nil_iff] at valid
  have passed := valid constraint listed
  unfold constraintFailure at passed
  dsimp only at passed
  split at passed
  · rename_i equal
    have same := allEqual_iff.mp equal
    rcases paths with ⟨rfl, rfl⟩ | ⟨rfl, rfl⟩
    · exact same other (List.mem_append_right _ other_inside) value
        (List.mem_append_left _ value_inside)
    · exact same other (List.mem_append_left _ other_inside) value
        (List.mem_append_right _ value_inside)
  · cases passed

/-- The value at the start of a chain is the only value of every path on the chain. -/
theorem linked_equal
    (valid : validateEqualityConstraints resourceSchema documentBody = []) {first last : String}
    {value : Json} (only : JsonPathLibrary.flattened first documentBody = [value])
    (linked : LinkedIn resourceSchema documentBody first last) :
    JsonPathLibrary.flattened last documentBody ≠ [] ∧
      ∀ other ∈ JsonPathLibrary.flattened last documentBody, other = value := by
  induction linked with
  | refl =>
      rw [only]
      exact ⟨List.cons_ne_nil _ _, fun other inside => List.mem_singleton.mp inside⟩
  | tail _ step ih =>
      obtain ⟨present, equal⟩ := ih
      obtain ⟨constrains, nextPresent⟩ := step
      obtain ⟨before, inside⟩ := List.exists_mem_of_ne_nil _ present
      refine ⟨nextPresent, ?_⟩
      intro other otherInside
      rw [constrained_equal valid constrains inside otherInside]
      exact equal before inside

/-- Linked paths with primitive values have the same value. -/
theorem linked_unwrapped [LawfulJsonPathLibrary]
    (valid : validateEqualityConstraints resourceSchema documentBody = []) {first second : String}
    (linked : LinkedIn resourceSchema documentBody first second)
    (firstPresent : HasPrimitive documentBody first)
    (secondPresent : HasPrimitive documentBody second) :
    JsonPathLibrary.unwrapped first documentBody =
      JsonPathLibrary.unwrapped second documentBody := by
  obtain ⟨value, found, primitive⟩ := firstPresent
  obtain ⟨other, otherFound, otherPrimitive⟩ := secondPresent
  have only := LawfulJsonPathLibrary.flattened_primitive first documentBody value found primitive
  have otherOnly :=
    LawfulJsonPathLibrary.flattened_primitive second documentBody other otherFound otherPrimitive
  have same := (linked_equal valid only linked).2 other (otherOnly ▸ List.mem_singleton_self _)
  rw [found, otherFound, same]

end Constraints

section Elements
variable [JsonPathLibrary] {resourceSchema : ResourceSchema} {documentBody : Json}
  {identityPaths : Mapping String String} {documentKey : String}

theorem identityElement_key {element : String × Json}
    (read : identityElement identityPaths documentBody documentKey = .ok element) :
    element.1 = documentKey := by
  unfold identityElement at read
  split at read
  · cases read
  · split at read
    · cases read
    · cases read
    · cases read
    · cases read
      rfl

theorem identityElement_value {element : String × Json}
    (read : identityElement identityPaths documentBody documentKey = .ok element) :
    element.2 ≠ .null := by
  unfold identityElement at read
  split at read
  · cases read
  · split at read
    · cases read
    · cases read
    · cases read
    · rename_i present _ documentValue absent _
      cases read
      exact absent

/-- The path leads to a value that can stand in an identity. -/
def Readable (documentBody : Json) (documentJsonPath : String) : Prop :=
  ∃ value, JsonPathLibrary.unwrapped documentJsonPath documentBody = some value ∧
    value ≠ .null ∧ ∀ values, value ≠ .array values

theorem HasPrimitive.readable {documentJsonPath : String}
    (present : HasPrimitive documentBody documentJsonPath) :
    Readable documentBody documentJsonPath := by
  obtain ⟨value, found, primitive⟩ := present
  refine ⟨value, found, ?_, ?_⟩
  · rintro rfl
    exact Bool.false_ne_true primitive
  · rintro values rfl
    exact Bool.false_ne_true primitive

theorem identityElement_ok {documentJsonPath : String} {value : Json}
    (kept : identityPaths.get? documentKey = some documentJsonPath)
    (found : JsonPathLibrary.unwrapped documentJsonPath documentBody = some value)
    (present : value ≠ .null) (single : ∀ values, value ≠ .array values) :
    identityElement identityPaths documentBody documentKey = .ok (documentKey, value) := by
  unfold identityElement
  rw [kept]
  dsimp only
  rw [found]
  cases value with
  | null => exact absurd rfl present
  | array values => exact absurd rfl (single values)
  | _ => rfl

/-- An element is read exactly when the path of its key can be read. -/
theorem identityElement_ok_iff :
    (∃ element, identityElement identityPaths documentBody documentKey = .ok element) ↔
      ∃ documentJsonPath, identityPaths.get? documentKey = some documentJsonPath ∧
        Readable documentBody documentJsonPath := by
  constructor
  · rintro ⟨element, read⟩
    unfold identityElement at read
    split at read
    · cases read
    · rename_i documentJsonPath kept
      refine ⟨documentJsonPath, kept, ?_⟩
      split at read
      · cases read
      · cases read
      · cases read
      · rename_i value single present found
        exact ⟨value, found, present, single⟩
  · rintro ⟨documentJsonPath, kept, value, found, present, single⟩
    exact ⟨_, identityElement_ok kept found present single⟩

/-- The elements of an identity are read one after another. -/
theorem identityAlong_read {identity : DocumentIdentity}
    (extracted : identityAlong identityPaths resourceSchema documentBody = .ok identity) :
    resourceSchema.identityPathOrder.mapM (identityElement identityPaths documentBody) =
      .ok identity := by
  unfold identityAlong at extracted
  cases read : resourceSchema.identityPathOrder.mapM
      (identityElement identityPaths documentBody) with
  | error error =>
      rw [read] at extracted
      cases extracted
  | ok elements =>
      rw [read] at extracted
      change (if elements.length > 0 then pure elements else throw _) = Except.ok identity at extracted
      split at extracted
      · cases extracted
        rfl
      · cases extracted

theorem identityAlong_ok {identity : DocumentIdentity}
    (keyed : documentKey ∈ resourceSchema.identityPathOrder)
    (read : resourceSchema.identityPathOrder.mapM (identityElement identityPaths documentBody) =
      .ok identity) :
    identityAlong identityPaths resourceSchema documentBody = .ok identity := by
  have filled : identity.length > 0 := by
    cases order : resourceSchema.identityPathOrder with
    | nil => exact absurd (order ▸ keyed) List.not_mem_nil
    | cons first rest =>
        rw [order] at read
        obtain ⟨element, later, -, -, rfl⟩ := mapM_cons_ok read
        exact Nat.zero_lt_succ _
  unfold identityAlong
  rw [read]
  exact if_pos filled

end Elements

section Identity
variable [JsonPathLibrary] {resourceSchema : ResourceSchema} {documentBody : Json}

/-- The path belongs to the key in an identity property. -/
def IsPathOf (resourceSchema : ResourceSchema) (documentKey documentJsonPath : String) : Prop :=
  (documentKey, documentJsonPath) ∈ identityEntries resourceSchema.documentPathsMapping
    resourceSchema.identityFullnames

/-- Every path that shares its key with another one is present with a primitive value. -/
def MergesPresent (resourceSchema : ResourceSchema) (documentBody : Json) : Prop :=
  ∀ documentKey first second, IsPathOf resourceSchema documentKey first →
    IsPathOf resourceSchema documentKey second → first ≠ second → HasPrimitive documentBody first

/-- Neither the order of the identity properties nor the path that overwrites the others matters. -/
structure Unambiguous (resourceSchema : ResourceSchema) (documentBody : Json) : Prop where
  reordered : ∀ identityFullnames : List String,
    identityFullnames.Perm resourceSchema.identityFullnames →
      extractDocumentIdentity { resourceSchema with identityFullnames := identityFullnames }
        documentBody = extractDocumentIdentity resourceSchema documentBody
  overwritten : resourceSchema.isDescriptor = false →
    resourceSchema.isSchoolYearEnumeration = false →
    ∀ overwritten winners, identityDocumentPaths resourceSchema = .ok overwritten →
      Overwrites (identityEntries resourceSchema.documentPathsMapping
        resourceSchema.identityFullnames) winners →
      identityAlong winners resourceSchema documentBody =
        identityAlong overwritten resourceSchema documentBody

/-- The identity is read along the paths of its properties, and each of its keys can be read. -/
structure ReadsKeys (resourceSchema : ResourceSchema) (documentBody : Json) : Prop where
  concrete : resourceSchema.isDescriptor = false
  regular : resourceSchema.isSchoolYearEnumeration = false
  mapped : ∀ identityFullName ∈ resourceSchema.identityFullnames,
    resourceSchema.documentPathsMapping.get? identityFullName ≠ none
  readable : ∀ documentKey ∈ resourceSchema.identityPathOrder,
    ∃ documentJsonPath, IsPathOf resourceSchema documentKey documentJsonPath ∧
      Readable documentBody documentJsonPath

/-- Two different paths of one key are linked, or they happen to have the same value. -/
def MergesAlike (resourceSchema : ResourceSchema) (documentBody : Json) : Prop :=
  ∀ documentKey ∈ resourceSchema.identityPathOrder, ∀ first second,
    IsPathOf resourceSchema documentKey first → IsPathOf resourceSchema documentKey second →
    first ≠ second → LinkedIn resourceSchema documentBody first second ∨
      JsonPathLibrary.unwrapped first documentBody = JsonPathLibrary.unwrapped second documentBody

/-- A key that some path can read is read along the path that it keeps. -/
theorem identityElement_reads (present : MergesPresent resourceSchema documentBody)
    {winners : Mapping String String}
    (overwrites : Overwrites (identityEntries resourceSchema.documentPathsMapping
      resourceSchema.identityFullnames) winners) {documentKey documentJsonPath : String}
    (own : IsPathOf resourceSchema documentKey documentJsonPath)
    (readable : Readable documentBody documentJsonPath) :
    ∃ element, identityElement winners documentBody documentKey = .ok element := by
  obtain ⟨winner, found⟩ := overwrites.every documentKey documentJsonPath own
  apply identityElement_ok_iff.mpr
  by_cases same : winner = documentJsonPath
  · exact ⟨winner, found, same ▸ readable⟩
  · exact ⟨winner, found,
      (present documentKey winner documentJsonPath (overwrites.own _ _ found) own same).readable⟩

section Winners
variable {first second : Mapping String String}
  (firstOverwrites : Overwrites (identityEntries resourceSchema.documentPathsMapping
    resourceSchema.identityFullnames) first)
  (secondOverwrites : Overwrites (identityEntries resourceSchema.documentPathsMapping
    resourceSchema.identityFullnames) second)
include firstOverwrites secondOverwrites

/-- A key keeps the same path, or both elements are read. -/
theorem identityElement_alike (present : MergesPresent resourceSchema documentBody)
    (documentKey : String) :
    identityElement first documentBody documentKey =
        identityElement second documentBody documentKey ∨
      ((∃ element, identityElement first documentBody documentKey = .ok element) ∧
        ∃ element, identityElement second documentBody documentKey = .ok element) := by
  cases firstFound : first.get? documentKey with
  | none =>
      left
      cases secondFound : second.get? documentKey with
      | none =>
          unfold identityElement
          rw [firstFound, secondFound]
      | some path =>
          obtain ⟨winner, found⟩ :=
            firstOverwrites.every documentKey path (secondOverwrites.own _ _ secondFound)
          rw [firstFound] at found
          cases found
  | some path =>
      have own := firstOverwrites.own _ _ firstFound
      obtain ⟨other, secondFound⟩ := secondOverwrites.every documentKey path own
      have otherOwn := secondOverwrites.own _ _ secondFound
      by_cases same : path = other
      · left
        unfold identityElement
        rw [firstFound, secondFound, same]
      · right
        exact ⟨identityElement_ok_iff.mpr
            ⟨path, firstFound, (present documentKey path other own otherOwn same).readable⟩,
          identityElement_ok_iff.mpr ⟨other, secondFound,
            (present documentKey other path otherOwn own (Ne.symm same)).readable⟩⟩

/-- It does not matter which of its paths a key keeps when all of them have the same value. -/
theorem identityElement_winners (present : MergesPresent resourceSchema documentBody)
    {documentKey : String}
    (alike : ∀ path other, IsPathOf resourceSchema documentKey path →
      IsPathOf resourceSchema documentKey other → path ≠ other →
      JsonPathLibrary.unwrapped path documentBody = JsonPathLibrary.unwrapped other documentBody) :
    identityElement first documentBody documentKey =
      identityElement second documentBody documentKey := by
  rcases identityElement_alike firstOverwrites secondOverwrites present documentKey with
    same | ⟨firstRead, secondRead⟩
  · exact same
  · obtain ⟨path, firstFound, value, found, valued, single⟩ := identityElement_ok_iff.mp firstRead
    obtain ⟨other, secondFound, -⟩ := identityElement_ok_iff.mp secondRead
    have otherFound : JsonPathLibrary.unwrapped other documentBody = some value := by
      by_cases same : path = other
      · rw [← same, found]
      · rw [← alike path other (firstOverwrites.own _ _ firstFound)
          (secondOverwrites.own _ _ secondFound) same, found]
    rw [identityElement_ok firstFound found valued single,
      identityElement_ok secondFound otherFound valued single]

end Winners

/-- Linked paths of a key have the same value in a valid document. -/
theorem MergesAlike.unwrapped [LawfulJsonPathLibrary]
    (valid : validateEqualityConstraints resourceSchema documentBody = [])
    (present : MergesPresent resourceSchema documentBody)
    (alike : MergesAlike resourceSchema documentBody) {documentKey : String}
    (keyed : documentKey ∈ resourceSchema.identityPathOrder) (path other : String)
    (own : IsPathOf resourceSchema documentKey path)
    (otherOwn : IsPathOf resourceSchema documentKey other) (different : path ≠ other) :
    JsonPathLibrary.unwrapped path documentBody = JsonPathLibrary.unwrapped other documentBody := by
  rcases alike documentKey keyed path other own otherOwn different with linked | same
  · exact linked_unwrapped valid linked (present documentKey path other own otherOwn different)
      (present documentKey other path otherOwn own (Ne.symm different))
  · exact same

/-- The paths that overwrite the others do not matter.
A key that cannot be read stops the extraction with the same error under all of them. -/
theorem identityAlong_winners [LawfulJsonPathLibrary]
    (valid : validateEqualityConstraints resourceSchema documentBody = [])
    (present : MergesPresent resourceSchema documentBody)
    (alike : (∀ documentKey ∈ resourceSchema.identityPathOrder,
      ∃ documentJsonPath, IsPathOf resourceSchema documentKey documentJsonPath ∧
        Readable documentBody documentJsonPath) → MergesAlike resourceSchema documentBody)
    {first second : Mapping String String}
    (firstOverwrites : Overwrites (identityEntries resourceSchema.documentPathsMapping
      resourceSchema.identityFullnames) first)
    (secondOverwrites : Overwrites (identityEntries resourceSchema.documentPathsMapping
      resourceSchema.identityFullnames) second) :
    identityAlong first resourceSchema documentBody =
      identityAlong second resourceSchema documentBody := by
  by_cases readable : ∀ documentKey ∈ resourceSchema.identityPathOrder,
      ∃ documentJsonPath, IsPathOf resourceSchema documentKey documentJsonPath ∧
        Readable documentBody documentJsonPath
  · have same : ∀ documentKey ∈ resourceSchema.identityPathOrder,
        identityElement first documentBody documentKey =
          identityElement second documentBody documentKey := fun documentKey keyed =>
      identityElement_winners firstOverwrites secondOverwrites present
        ((alike readable).unwrapped valid present keyed)
    unfold identityAlong
    rw [mapM_congr same]
  · push Not at readable
    obtain ⟨documentKey, keyed, unread⟩ := readable
    obtain ⟨error, firstStops, secondStops⟩ := mapM_stop
      (fun key _ => identityElement_alike firstOverwrites secondOverwrites present key)
      ⟨documentKey, keyed, by
        intro element read
        obtain ⟨path, kept, readable⟩ := identityElement_ok_iff.mp ⟨element, read⟩
        exact unread path (firstOverwrites.own _ _ kept) readable⟩
    unfold identityAlong
    rw [firstStops, secondStops]

/-- The identity properties can be listed in any order. -/
theorem extractDocumentIdentity_perm [LawfulJsonPathLibrary]
    (valid : validateEqualityConstraints resourceSchema documentBody = [])
    (present : MergesPresent resourceSchema documentBody)
    (alike : ReadsKeys resourceSchema documentBody → MergesAlike resourceSchema documentBody)
    {identityFullnames : List String}
    (reordered : identityFullnames.Perm resourceSchema.identityFullnames) :
    extractDocumentIdentity { resourceSchema with identityFullnames := identityFullnames }
        documentBody = extractDocumentIdentity resourceSchema documentBody := by
  unfold extractDocumentIdentity
  split
  · rfl
  rename_i concrete
  split
  · rfl
  rename_i regular
  by_cases mapped : ∀ identityFullName ∈ resourceSchema.identityFullnames,
      resourceSchema.documentPathsMapping.get? identityFullName ≠ none
  · obtain ⟨overwritten, done, overwrites⟩ := identityDocumentPaths_ok mapped
    obtain ⟨others, othersDone, othersOverwrite⟩ := @identityDocumentPaths_ok
      { resourceSchema with identityFullnames := identityFullnames }
      fun identityFullName inside => mapped identityFullName (reordered.mem_iff.mp inside)
    have sameEntries : Overwrites (identityEntries resourceSchema.documentPathsMapping
        resourceSchema.identityFullnames) others :=
      ⟨fun documentKey winner found =>
          (mem_identityEntries_perm reordered).mp (othersOverwrite.own documentKey winner found),
        fun documentKey path inside =>
          othersOverwrite.every documentKey path ((mem_identityEntries_perm reordered).mpr inside)⟩
    rw [done, othersDone]
    exact identityAlong_winners valid present
      (fun readable => alike ⟨Bool.not_eq_true _ ▸ concrete, Bool.not_eq_true _ ▸ regular, mapped,
        readable⟩) sameEntries overwrites
  · push Not at mapped
    obtain ⟨identityFullName, inside, unmapped⟩ := mapped
    unfold identityDocumentPaths
    rw [overwritePaths_error inside unmapped,
      overwritePaths_error (reordered.mem_iff.mpr inside) unmapped]
    rfl

/-- In an identity that does not depend on its winners, the paths of a key have the same value. -/
theorem Unambiguous.alike (present : MergesPresent resourceSchema documentBody)
    (unambiguous : Unambiguous resourceSchema documentBody)
    (reads : ReadsKeys resourceSchema documentBody) {documentKey first second : String}
    (keyed : documentKey ∈ resourceSchema.identityPathOrder)
    (firstOwn : IsPathOf resourceSchema documentKey first)
    (secondOwn : IsPathOf resourceSchema documentKey second) (different : first ≠ second) :
    JsonPathLibrary.unwrapped first documentBody =
      JsonPathLibrary.unwrapped second documentBody := by
  obtain ⟨overwritten, done, overwrites⟩ := identityDocumentPaths_ok reads.mapped
  have same := unambiguous.overwritten reads.concrete reads.regular overwritten
  have firstOverwrites := overwrites.set firstOwn
  have secondOverwrites := overwrites.set secondOwn
  -- Both extractions end, as every key can be read along each of its paths.
  obtain ⟨identity, read⟩ := exists_mapM_ok fun key inside => by
    obtain ⟨path, own, readable⟩ := reads.readable key inside
    exact identityElement_reads present firstOverwrites own readable
  have otherAlong := (same _ done secondOverwrites).trans (same _ done firstOverwrites).symm
  rw [identityAlong_ok keyed read] at otherAlong
  have agree := mapM_agree read (identityAlong_read otherAlong) documentKey keyed
  obtain ⟨value, found, valued, single⟩ :=
    (present documentKey first second firstOwn secondOwn different).readable
  obtain ⟨other, otherFound, otherValued, otherSingle⟩ :=
    (present documentKey second first secondOwn firstOwn (Ne.symm different)).readable
  have firstKept : (overwritten.set documentKey first).get? documentKey = some first := by simp
  have secondKept : (overwritten.set documentKey second).get? documentKey = some second := by simp
  rw [identityElement_ok firstKept found valued single,
    identityElement_ok secondKept otherFound otherValued otherSingle] at agree
  cases agree
  rw [found, otherFound]

/-- For a valid document with all merged paths, the identity depends neither on the order of the
identity properties nor on which path for a key overwrites the others, exactly when the constraints
link the paths of each key by paths that are present, or the document has the same value at them. -/
theorem merged_identity_unambiguous_iff [LawfulJsonPathLibrary]
    (valid : validateEqualityConstraints resourceSchema documentBody = [])
    (present : MergesPresent resourceSchema documentBody) :
    Unambiguous resourceSchema documentBody ↔
      (ReadsKeys resourceSchema documentBody → MergesAlike resourceSchema documentBody) := by
  constructor
  · intro unambiguous reads documentKey keyed first second firstOwn secondOwn different
    exact .inr (unambiguous.alike present reads keyed firstOwn secondOwn different)
  · intro alike
    refine ⟨fun _ reordered => extractDocumentIdentity_perm valid present alike reordered, ?_⟩
    intro concrete regular overwritten winners done overwrites
    have mapped : ∀ identityFullName ∈ resourceSchema.identityFullnames,
        resourceSchema.documentPathsMapping.get? identityFullName ≠ none := by
      intro identityFullName inside unmapped
      unfold identityDocumentPaths at done
      rw [overwritePaths_error inside unmapped] at done
      cases done
    obtain ⟨same, sameDone, sameOverwrites⟩ := identityDocumentPaths_ok mapped
    rw [sameDone] at done
    cases done
    exact identityAlong_winners valid present
      (fun readable => alike ⟨concrete, regular, mapped, readable⟩) overwrites sameOverwrites

end Identity

section Sample
open Core.Sample

/-- Two identity properties with a path to the school, linked by way of a third path. -/
def mergedSchema : ResourceSchema where
  resourceName := "Section"
  isDescriptor := false
  isSchoolYearEnumeration := false
  equalityConstraints :=
    [⟨"$.courseOfferingReference.schoolId", "$.sessionReference.schoolId"⟩,
      ⟨"$.sessionReference.schoolId", "$.locationReference.schoolId"⟩]
  identityFullnames := ["CourseOffering", "Location"]
  identityPathOrder := ["schoolId"]
  documentPathsMapping :=
    ⟨[("CourseOffering", .reference
        ⟨⟨[("schoolId", "$.courseOfferingReference.schoolId")], List.nodup_singleton _⟩,
          ["schoolId"]⟩ "Ed-Fi" "CourseOffering" false),
      ("Location", .reference
        ⟨⟨[("schoolId", "$.locationReference.schoolId")], List.nodup_singleton _⟩,
          ["schoolId"]⟩ "Ed-Fi" "Location" false)], by decide⟩
  subclass := none

def sectionBody (session : List (String × Json)) (location : String) : Json :=
  .object ([("courseOfferingReference", .object [("schoolId", .string "6")]),
    ("locationReference", .object [("schoolId", .string location)])] ++ session)

theorem mergedSchema_entries {documentKey path : String}
    (inside : (documentKey, path) ∈ identityEntries mergedSchema.documentPathsMapping
      mergedSchema.identityFullnames) :
    path = "$.courseOfferingReference.schoolId" ∨ path = "$.locationReference.schoolId" := by
  have listed : identityEntries mergedSchema.documentPathsMapping mergedSchema.identityFullnames =
      [("schoolId", "$.courseOfferingReference.schoolId"),
        ("schoolId", "$.locationReference.schoolId")] := by
    decide
  rw [listed] at inside
  rcases List.mem_cons.mp inside with same | later
  · exact .inl (Prod.mk.inj same).2
  · exact .inr (Prod.mk.inj (List.mem_singleton.mp later)).2

theorem mergedSchema_offering : Constrains mergedSchema "$.courseOfferingReference.schoolId"
    "$.sessionReference.schoolId" := ⟨_, List.mem_cons_self, .inl ⟨rfl, rfl⟩⟩

theorem mergedSchema_location : Constrains mergedSchema "$.sessionReference.schoolId"
    "$.locationReference.schoolId" :=
  ⟨_, List.mem_cons_of_mem _ List.mem_cons_self, .inl ⟨rfl, rfl⟩⟩

/-- Without the session the constraints hold, and the identity follows the last property. -/
theorem absent_link_separates :
    (∀ documentKey first second,
      (documentKey, first) ∈ identityEntries mergedSchema.documentPathsMapping
        mergedSchema.identityFullnames →
      (documentKey, second) ∈ identityEntries mergedSchema.documentPathsMapping
        mergedSchema.identityFullnames →
      Relation.ReflTransGen (Constrains mergedSchema) first second ∧
        @HasPrimitive jsonPaths (sectionBody [] "7") first) ∧
      @validateEqualityConstraints jsonPaths mergedSchema (sectionBody [] "7") = [] ∧
      @extractDocumentIdentity jsonPaths mergedSchema (sectionBody [] "7") =
        .ok [("schoolId", .string "7")] ∧
      @extractDocumentIdentity jsonPaths
          { mergedSchema with identityFullnames := ["Location", "CourseOffering"] }
          (sectionBody [] "7") = .ok [("schoolId", .string "6")] := by
  refine ⟨?_, by decide +kernel, by decide +kernel, by decide +kernel⟩
  intro documentKey first second firstInside secondInside
  have offering : @HasPrimitive jsonPaths (sectionBody [] "7")
      "$.courseOfferingReference.schoolId" := ⟨.string "6", rfl, rfl⟩
  have location : @HasPrimitive jsonPaths (sectionBody [] "7")
      "$.locationReference.schoolId" := ⟨.string "7", rfl, rfl⟩
  rcases mergedSchema_entries firstInside with rfl | rfl
  · refine ⟨?_, offering⟩
    rcases mergedSchema_entries secondInside with rfl | rfl
    · exact .refl
    · exact .tail (.single mergedSchema_offering) mergedSchema_location
  · refine ⟨?_, location⟩
    rcases mergedSchema_entries secondInside with rfl | rfl
    · exact .tail (.single mergedSchema_location.symm) mergedSchema_offering.symm
    · exact .refl

/-- With the session in between, the school is the same wherever it is read. -/
theorem linked_schools_agree :
    @extractDocumentIdentity jsonPaths
        { mergedSchema with identityFullnames := ["Location", "CourseOffering"] }
        (sectionBody [("sessionReference", .object [("schoolId", .string "6")])] "6") =
      .ok [("schoolId", .string "6")] := by
  have valid : @validateEqualityConstraints jsonPaths mergedSchema
      (sectionBody [("sessionReference", .object [("schoolId", .string "6")])] "6") = [] := by
    decide +kernel
  have present : ∀ path ∈ ["$.courseOfferingReference.schoolId", "$.sessionReference.schoolId",
      "$.locationReference.schoolId"], @JsonPathLibrary.flattened jsonPaths path
        (sectionBody [("sessionReference", .object [("schoolId", .string "6")])] "6") ≠ [] := by
    decide +kernel
  have unambiguous : @Unambiguous jsonPaths mergedSchema
      (sectionBody [("sessionReference", .object [("schoolId", .string "6")])] "6") := by
    refine (@merged_identity_unambiguous_iff jsonPaths mergedSchema _ jsonPaths_lawful valid ?_).mpr
      ?_
    · intro documentKey first second firstInside _ _
      rcases mergedSchema_entries firstInside with rfl | rfl
      · exact ⟨.string "6", rfl, rfl⟩
      · exact ⟨.string "6", rfl, rfl⟩
    · intro _ documentKey _ first second firstInside secondInside different
      left
      rcases mergedSchema_entries firstInside with rfl | rfl
      · rcases mergedSchema_entries secondInside with rfl | rfl
        · exact absurd rfl different
        · exact .tail (.single ⟨mergedSchema_offering, present _ (by decide)⟩)
            ⟨mergedSchema_location, present _ (by decide)⟩
      · rcases mergedSchema_entries secondInside with rfl | rfl
        · exact .tail (.single ⟨mergedSchema_location.symm, present _ (by decide)⟩)
            ⟨mergedSchema_offering.symm, present _ (by decide)⟩
        · exact absurd rfl different
  have swapped := @Unambiguous.reordered jsonPaths mergedSchema _ unambiguous
    ["Location", "CourseOffering"] (List.Perm.swap ..)
  exact swapped.trans (by decide +kernel)

end Sample
end Meadowlark.Core.Extraction
