import Meadowlark.Proof.Core.Sequences

namespace Meadowlark.Core
open Systems
variable [NodeRuntime] [DocumentProcessing]

section Confined
variable {Generated Contents View Memory : Type} {documentStore : Generated → DocumentStore Contents}
  {services : Services Memory} {contents : Contents} {memory : Memory} {entryPoint : EntryPoint}
  {frontendRequest : FrontendRequest} {document : StoredDocument}
  {queryHandler : QueryHandlerPlugin}

/-- The entry points whose path names one stored document. -/
def EntryPoint.addressed : EntryPoint → Bool
  | .getById => true
  | .update => true
  | .deleteIt => true
  | _ => false

/-- The uuid of the document that a write is for. -/
def WriteRequest.named : WriteRequest → Option DocumentUuid
  | .upsert _ => none
  | .update request => some request.documentUuid
  | .delete request => some request.documentUuid

omit [NodeRuntime] [DocumentProcessing] in
/-- The write of an addressed request is for the uuid of the path. -/
theorem plannedWrite_named [NodeRuntime] {validated : FrontendRequest} {write : WriteRequest}
    (addressed : entryPoint.addressed = true) (planned : plannedWrite entryPoint validated = some write) :
    ∃ documentUuid, validated.middleware.pathComponents.documentUuid = some documentUuid ∧
      write.named = some documentUuid := by
  cases entryPoint with
  | query => cases addressed
  | upsert => cases addressed
  | getById => cases planned
  | update =>
      unfold plannedWrite at planned
      dsimp only at planned
      split at planned
      · cases planned
      · rename_i documentUuid named
        split at planned
        · cases planned
          exact ⟨documentUuid, named, rfl⟩
        · cases planned
  | deleteIt =>
      unfold plannedWrite at planned
      dsimp only at planned
      split at planned
      · cases planned
      · rename_i documentUuid named
        cases planned
        exact ⟨documentUuid, named, rfl⟩

omit [NodeRuntime] [DocumentProcessing] in
instance decidablePermitted (createdBy : String) :
    Decidable (Permitted frontendRequest createdBy) :=
  inferInstanceAs (Decidable (_ ∨ _))

/-- The validated request, if the request is admitted. -/
def EntryPoint.admission (services : Services Memory) (entryPoint : EntryPoint)
    (frontendRequest : FrontendRequest) (memory : Memory) : Option FrontendRequest :=
  match Program.runState services.answer (entryPoint.identify
      ⟨{ frontendRequest with action := entryPoint.action }, none⟩) memory with
  | (.ok identified, _) =>
      match entryPoint.validate identified with
      | .ok ⟨validated, none⟩ => some validated
      | _ => none
  | _ => none

theorem EntryPoint.Admits.admission {validated : FrontendRequest} {following : Memory}
    (admitted : entryPoint.Admits services frontendRequest memory validated following) :
    validated ∈ entryPoint.admission services frontendRequest memory := by
  obtain ⟨identified, known, valid⟩ := admitted
  unfold EntryPoint.admission
  rw [known]
  dsimp only
  rw [valid]
  rfl

theorem EntryPoint.admits_of_admission {validated : FrontendRequest}
    (admission : entryPoint.admission services frontendRequest memory = some validated) :
    ∃ following, entryPoint.Admits services frontendRequest memory validated following := by
  unfold EntryPoint.admission at admission
  split at admission
  · rename_i identified following known
    split at admission
    · rename_i admitted valid
      obtain rfl := Option.some.inj admission
      obtain ⟨identified, response⟩ := identified
      cases response with
      | none => exact ⟨following, identified, known, valid⟩
      | some frontendResponse =>
          rw [validate_posted] at valid
          cases valid
    · cases admission
  · cases admission

/-- The document belongs to the resource. -/
def StoredDocument.BelongsTo (document : StoredDocument) (resourceInfo : ResourceInfo) : Prop :=
  document.projectName = resourceInfo.projectName ∧
    document.resourceName = resourceInfo.resourceName

/-- Every admitted request names a stored document, which belongs to another resource. -/
def Foreign (stored : DocumentUuid → Prop) (services : Services Memory) (entryPoint : EntryPoint)
    (frontendRequest : FrontendRequest) (memory : Memory) (document : StoredDocument) : Prop :=
  ∀ validated following, entryPoint.Admits services frontendRequest memory validated following →
    ¬ document.BelongsTo validated.middleware.resourceInfo ∧
      ∃ documentUuid, validated.middleware.pathComponents.documentUuid = some documentUuid ∧
        stored documentUuid

/-- The resource and the uuid that the path of a validated request names. -/
def target (validated : FrontendRequest) : (String × String) × Option DocumentUuid :=
  ((validated.middleware.resourceInfo.projectName, validated.middleware.resourceInfo.resourceName),
    validated.middleware.pathComponents.documentUuid)

theorem foreign_of_target {stored : DocumentUuid → Prop} {projectName resourceName : String}
    {documentUuid : DocumentUuid}
    (named : (entryPoint.admission services frontendRequest memory).map target =
      some ((projectName, resourceName), some documentUuid))
    (apart : (document.projectName, document.resourceName) ≠ (projectName, resourceName))
    (found : stored documentUuid) :
    Foreign stored services entryPoint frontendRequest memory document := by
  intro validated following admitted
  rw [Option.mem_def.mp admitted.admission] at named
  obtain ⟨resource, path⟩ := Prod.mk.inj (Option.some.inj named)
  refine ⟨?_, documentUuid, path, found⟩
  rintro ⟨project, name⟩
  exact apart ((Prod.ext project name).trans resource)

/-- The request comes to the document: it reads it, or its write is permitted and accepted. -/
def Acts (accepted : WriteRequest → Prop) (services : Services Memory) (entryPoint : EntryPoint)
    (frontendRequest : FrontendRequest) (memory : Memory) (document : StoredDocument) : Prop :=
  (entryPoint = .getById ∧ Reads services frontendRequest memory document) ∨
    ∃ validated write, entryPoint.Requests services frontendRequest memory validated write ∧
      Permitted validated document.createdBy ∧ accepted write

/-- A request for a document is confined for every generated value unless it comes to it. -/
theorem addressed_confined_iff [Nonempty Generated] {view : Contents → View}
    {accepted : WriteRequest → Prop} (addressed : entryPoint.addressed = true)
    (addresses : ∀ generated, Addresses (documentStore generated) contents services entryPoint
      frontendRequest memory document)
    (settled : ∀ generated validated write,
      entryPoint.Requests services frontendRequest memory validated write →
        (view (write.contents (documentStore generated) contents) = view contents ↔
          ¬ write.Succeeds (documentStore generated) contents))
    (accepts : ∀ write, (∃ generated, write.Succeeds (documentStore generated) contents) ↔
      accepted write) :
    (∀ generated, Confined view contents ((documentStore generated).run services
        (entryPoint.run queryHandler frontendRequest) (contents, memory))) ↔
      ¬ Acts accepted services entryPoint frontendRequest memory document := by
  by_cases writes : entryPoint.writes = true
  · have each := fun generated => @write_confined_iff _ _ _ _ _ (documentStore generated) services
      contents memory entryPoint frontendRequest document queryHandler view writes
      (addresses generated) (settled generated)
    constructor
    · rintro confined (⟨rfl, -⟩ | ⟨validated, write, requests, permitted, accept⟩)
      · cases writes
      · obtain ⟨generated, succeeds⟩ := (accepts write).mpr accept
        exact (each generated).mp (confined generated)
          ⟨validated, write, requests, permitted, succeeds⟩
    · intro quiet generated
      rw [each generated]
      rintro ⟨validated, write, requests, permitted, succeeds⟩
      exact quiet (.inr ⟨validated, write, requests, permitted,
        (accepts write).mp ⟨generated, succeeds⟩⟩)
  · obtain rfl : entryPoint = .getById := by
      cases entryPoint <;> simp_all [EntryPoint.writes, EntryPoint.addressed]
    have each := fun generated => @getById_confined_iff _ _ _ _ _ (documentStore generated) services
      contents memory frontendRequest document queryHandler view (addresses generated)
    constructor
    · rintro confined (⟨-, reads⟩ | ⟨validated, write, ⟨following, -, planned, -⟩, -⟩)
      · obtain ⟨generated⟩ := ‹Nonempty Generated›
        exact (each generated).mp (confined generated) reads
      · cases planned
    · intro quiet generated
      exact (each generated).mpr fun reads => quiet (.inl ⟨rfl, reads⟩)

end Confined

section Failing
variable {Contents View Memory : Type} {documentStore : DocumentStore Contents}
  {services : Services Memory} {contents : Contents} {memory : Memory} {entryPoint : EntryPoint}
  {frontendRequest : FrontendRequest} {queryHandler : QueryHandlerPlugin} {view : Contents → View}

omit [DocumentProcessing] in
/-- The document store answers no call with a success. -/
structure DocumentStore.Fails (documentStore : DocumentStore Contents) (view : Contents → View)
    (contents : Contents) : Prop where
  checked (validated : FrontendRequest) : (guardAnswer documentStore validated contents).2 = contents
  read (request : GetRequest) :
    documentStore.getDocumentById request contents = (.ok .unknownFailure, contents)
  kept (write : WriteRequest) : view (write.contents documentStore contents) = view contents
  failed (write : WriteRequest) : ¬ write.Succeeds documentStore contents

omit [DocumentProcessing] in
/-- A handler has no success to report. -/
theorem DocumentStore.Fails.handle (fails : documentStore.Fails view contents)
    (addressed : entryPoint.addressed = true) (validated : FrontendRequest) :
    Confined view contents (documentStore.run services
      (entryPoint.handle queryHandler validated) (contents, memory)) := by
  by_cases writes : entryPoint.writes = true
  · cases planned : plannedWrite entryPoint validated with
    | none =>
        rw [run_unplanned writes planned]
        exact confined_error view memory (unplannedResponse_error _ _)
    | some write =>
        have settled := iff_of_true (fails.kept write) (fails.failed write)
        rw [run_planned planned, confined_caught, WriteRequest.outcome_confined_iff settled]
        exact fun succeeded => fails.failed write succeeded.2
  · obtain rfl : entryPoint = .getById := by
      cases entryPoint <;> simp_all [EntryPoint.writes, EntryPoint.addressed]
    cases named : validated.middleware.pathComponents.documentUuid with
    | none =>
        unfold EntryPoint.handle GetById.getById
        dsimp only
        rw [named]
        exact confined_error view memory (by decide : 400 ≤ 404)
    | some documentUuid =>
        rw [run_getById named, fails.read, announced_confined_iff]
        rintro ⟨-, result, answered, -, built⟩
        cases answered
        obtain ⟨_, _, _, same, -⟩ := getResponse_success.mp built
        cases same

/-- Every request is confined while the document store fails. -/
theorem DocumentStore.Fails.confined (fails : documentStore.Fails view contents)
    (addressed : entryPoint.addressed = true) :
    Confined view contents (documentStore.run services
      (entryPoint.run queryHandler frontendRequest) (contents, memory)) := by
  by_cases admits : ∃ validated following,
      entryPoint.Admits services frontendRequest memory validated following
  · obtain ⟨validated, following, admitted⟩ := admits
    have guarded : entryPoint ≠ .query := by
      rintro rfl
      cases addressed
    have unchecked := fails.checked validated
    rw [run_admitted admitted, confined_caught, run_finish guarded]
    cases answered : guardAnswer documentStore validated contents with
    | mk answer checked =>
        rw [answered] at unchecked
        dsimp only at unchecked
        subst unchecked
        cases answer with
        | error error => exact ⟨rfl, fun _ responded => nomatch responded⟩
        | ok result =>
            dsimp only
            split
            · exact fails.handle addressed validated
            · exact confined_error view following (rejection_error result)
  · obtain ⟨frontendResponse, following, error, done⟩ := @run_dismissed _ _ services memory
      entryPoint frontendRequest _ queryHandler
      fun validated following admitted => admits ⟨validated, following, admitted⟩
    rw [done]
    exact confined_error view following error

end Failing

section Resources
variable {Generated Contents Memory Key Tag : Type}
  {documentStore : Generated → DocumentStore Contents} {services : Services Memory}
  {holds : Contents → Prop} {tagged : Contents → Key → Tag → Prop}
  {claims : Generated → Key → Prop} {keeps : Contents → WriteRequest → Prop}

/-- A request generates only fresh keys, and the write that it makes keeps the tag of its key. -/
structure KeepsTags (documentStore : Generated → DocumentStore Contents)
    (services : Services Memory) (claims : Generated → Key → Prop)
    (keeps : Contents → WriteRequest → Prop) (used : List Generated) (world : Contents × Memory)
    (turn : Turn Generated) : Prop where
  quiet : turn.entryPoint = .query → turn.queryHandler.Quiet
  fresh : ∀ key, claims turn.generated key → ∀ earlier ∈ used, ¬ claims earlier key
  kept : ∀ checked write, turn.Makes documentStore services world checked write →
    keeps checked write

/-- The check and the read tag nothing anew, and a write tags a generated key at most. -/
structure TagsKept (documentStore : Generated → DocumentStore Contents) (holds : Contents → Prop)
    (tagged : Contents → Key → Tag → Prop) (claims : Generated → Key → Prop)
    (keeps : Contents → WriteRequest → Prop) : Prop where
  checked {contents : Contents} (generated : Generated) (validated : FrontendRequest) :
    holds contents →
      holds (guardAnswer (documentStore generated) validated contents).2 ∧
        tagged (guardAnswer (documentStore generated) validated contents).2 = tagged contents
  read {contents : Contents} (generated : Generated) (request : GetRequest) : holds contents →
    holds ((documentStore generated).getDocumentById request contents).2 ∧
      tagged ((documentStore generated).getDocumentById request contents).2 = tagged contents
  written {contents : Contents} (generated : Generated) {write : WriteRequest} : holds contents →
    keeps contents write →
      holds (write.contents (documentStore generated) contents) ∧
        ∃ newTag, ∀ key tag, tagged (write.contents (documentStore generated) contents) key tag →
          tagged contents key tag ∨ ((key, tag) = newTag ∧ claims generated key)

/-- What holds for every part of a request holds for the request. -/
theorem TagsKept.tagsFresh [Nonempty Key] [Nonempty Tag]
    (kept : TagsKept documentStore holds tagged claims keeps) :
    TagsFresh documentStore services (KeepsTags documentStore services claims keeps) holds tagged
      claims := by
  have turns : ∀ {used : List Generated} {world : Contents × Memory} {turn : Turn Generated},
      holds world.1 → KeepsTags documentStore services claims keeps used world turn →
        holds (turn.take documentStore services world).1 ∧ ∃ newTag, ∀ key tag,
          tagged (turn.take documentStore services world).1 key tag →
            tagged world.1 key tag ∨ ((key, tag) = newTag ∧ claims turn.generated key) := by
    intro used world turn held keeping
    obtain ⟨key⟩ := ‹Nonempty Key›
    obtain ⟨tag⟩ := ‹Nonempty Tag›
    have leaves := @turn_leaves _ _ _ _ _ documentStore services turn keeping.quiet world
    generalize (turn.take documentStore services world).1 = left at leaves
    cases leaves with
    | found => exact ⟨held, (key, tag), fun _ _ old => .inl old⟩
    | checked validated =>
        obtain ⟨heldChecked, same⟩ := kept.checked turn.generated validated held
        refine ⟨heldChecked, (key, tag), fun _ _ old => .inl ?_⟩
        rw [same] at old
        exact old
    | read validated request =>
        obtain ⟨heldChecked, same⟩ := kept.checked turn.generated validated held
        obtain ⟨heldRead, sameRead⟩ := kept.read turn.generated request heldChecked
        refine ⟨heldRead, (key, tag), fun _ _ old => .inl ?_⟩
        rw [sameRead, same] at old
        exact old
    | @written checked write makes =>
        have keepsWrite := keeping.kept checked write makes
        obtain ⟨validated, result, -, answered, -⟩ := makes
        obtain ⟨heldChecked, same⟩ := kept.checked turn.generated validated held
        rw [answered] at heldChecked same
        have wrote := kept.written turn.generated heldChecked keepsWrite
        rw [same] at wrote
        exact wrote
  exact ⟨fun held keeping => (turns held keeping).1, fun held keeping => (turns held keeping).2,
    fun keeping claimed inside => keeping.fresh _ claimed _ inside⟩

end Resources
end Meadowlark.Core
