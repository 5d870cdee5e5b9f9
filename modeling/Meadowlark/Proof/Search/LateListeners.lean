import Meadowlark.Proof.Core.Reports
import Meadowlark.Proof.Search.Bodies
import Meadowlark.Proof.Search.Mirror
import Meadowlark.Systems.LateReports

namespace Meadowlark.Search
open Meadowlark.Core Systems

/-- What the search index has to show of a stored document, with its keys in the store. -/
structure SearchedDocument where
  documentUuid : DocumentUuid
  meadowlarkId : MeadowlarkId
  projectName : String
  resourceVersion : String
  resourceName : String
  edfiDoc : Json
  createdBy : String

namespace SearchedDocument

/-- The document is one of the resource. -/
def IsOf (document : SearchedDocument) (resourceInfo : ResourceInfo) : Prop :=
  document.projectName = resourceInfo.projectName ∧
    document.resourceVersion = resourceInfo.resourceVersion ∧
    document.resourceName = resourceInfo.resourceName

instance (document : SearchedDocument) (resourceInfo : ResourceInfo) :
    Decidable (document.IsOf resourceInfo) :=
  inferInstanceAs (Decidable (_ ∧ _))

/-- The document is the one that a request has deposited, in the form in which the store keeps it. -/
structure IsFor (kept : Json → Json) (document : SearchedDocument) (request : UpsertRequest) :
    Prop where
  resource : document.IsOf request.resourceInfo
  edfiDoc : document.edfiDoc = kept request.edfiDoc
  createdBy : document.createdBy = request.security.clientId

/-- The write is for the stored document: it names its uuid, or an upsert has its id. -/
def WrittenBy (document : SearchedDocument) : WriteRequest → Prop
  | .upsert request => document.meadowlarkId = request.meadowlarkId
  | .update request => document.documentUuid = request.documentUuid
  | .delete request => document.documentUuid = request.documentUuid

instance (document : SearchedDocument) :
    (write : WriteRequest) → Decidable (document.WrittenBy write)
  | .upsert request => inferInstanceAs (Decidable (_ = request.meadowlarkId))
  | .update request => inferInstanceAs (Decidable (_ = request.documentUuid))
  | .delete request => inferInstanceAs (Decidable (_ = request.documentUuid))

end SearchedDocument

/-- The entry shows the document: its creator, and its text with the id added. -/
def Shows (kept : Json → Json) (document : SearchedDocument) (entry : Json) : Prop :=
  entry.field? "createdBy" = some (.string document.createdBy) ∧
    ∃ edfiDoc, document.edfiDoc = kept edfiDoc ∧
      entry.field? "info" = some (.string (infoFrom document.documentUuid edfiDoc).stringify)

variable [NodeRuntime]

/-- The index of each resource holds its stored documents, each under its uuid, and nothing else. -/
def IndexesMirror (resources : Set ResourceInfo) (kept : Json → Json)
    (documents : List SearchedDocument) (contents : EngineContents) : Prop :=
  ∀ resourceInfo ∈ resources,
    (∀ documentUuid entry, contents ⟨indexFromResourceInfo resourceInfo, documentUuid⟩ = some entry →
      ∃ document ∈ documents, document.IsOf resourceInfo ∧ document.documentUuid = documentUuid ∧
        Shows kept document entry) ∧
    ∀ document ∈ documents, document.IsOf resourceInfo →
      (∃ entry, contents ⟨indexFromResourceInfo resourceInfo, document.documentUuid⟩ = some entry ∧
        Shows kept document entry) ∧
      ∀ other ∈ documents, other.documentUuid = document.documentUuid → other = document

/-- No two of the resources have one index. -/
def IndexesApart (resources : Set ResourceInfo) : Prop :=
  ∀ first ∈ resources, ∀ second ∈ resources,
    indexFromResourceInfo first = indexFromResourceInfo second →
      first.projectName = second.projectName ∧ first.resourceVersion = second.resourceVersion ∧
        first.resourceName = second.resourceName

/-- The write is for one of the resources, its document keeps the text of the entry free, and
its path names the resource of the document that it is for. -/
structure WritesShown (resources : Set ResourceInfo) (documents : List SearchedDocument)
    (write : WriteRequest) : Prop where
  listed : ∀ request, write.deposit = some request → request.resourceInfo ∈ resources
  plain : ∀ request, write.deposit = some request → request.edfiDoc.field? "info" = none
  named : ∀ document ∈ documents, document.WrittenBy write → document.IsOf write.resourceInfo

section Events

theorem index_of_isOf {document : SearchedDocument} {first second : ResourceInfo}
    (isFirst : document.IsOf first) (isSecond : document.IsOf second) :
    indexFromResourceInfo first = indexFromResourceInfo second := by
  obtain ⟨project, version, name⟩ := isFirst
  obtain ⟨otherProject, otherVersion, otherName⟩ := isSecond
  unfold indexFromResourceInfo
  rw [← project, ← version, ← name, otherProject, otherVersion, otherName]

/-- The contents of an engine after an event. -/
def entered (event : ListenerEvent) (contents : EngineContents) : EngineContents :=
  ((listener engineClient).hear event contents).2

/-- An event changes at most the entry of the document of which it tells. -/
theorem entered_cases (event : ListenerEvent) :
    (∀ contents, entered event contents = contents) ∨
      ∃ place entry, event.writtenUuid = some place.id ∧
        ∀ contents, entered event contents = Function.update contents place entry := by
  have deleted (request : EngineRequest) (contents : EngineContents) :
      (handled (engineClient.delete request contents)).2 =
        Function.update contents request none := by
    rw [handled_contents]
    exact engineClient_reaches.deleted request contents
  cases event with
  | afterUpsertDocument request result =>
      cases result with
      | insertSuccess newDocumentUuid => exact .inr ⟨_, _, rfl, fun _ => rfl⟩
      | updateSuccess existingDocumentUuid => exact .inr ⟨_, _, rfl, fun _ => rfl⟩
      | _ => exact .inl fun _ => rfl
  | afterUpdateDocumentById request result =>
      cases result with
      | updateSuccess => exact .inr ⟨_, _, rfl, fun _ => rfl⟩
      | _ => exact .inl fun _ => rfl
  | afterDeleteDocumentById request result =>
      cases result with
      | deleteSuccess =>
          exact .inr ⟨engineRequestFrom request.resourceInfo request.documentUuid, none, rfl,
            deleted _⟩
      | _ => exact .inl fun _ => rfl
  | _ => exact .inl fun _ => rfl

/-- Events that tell of different documents can be heard in either order. -/
theorem entered_commutes : Commutes ListenerEvent.writtenUuid entered := by
  intro first second contents apart
  rcases entered_cases first with kept | ⟨place, entry, tells, changed⟩
  · rw [kept, kept]
  · rcases entered_cases second with kept | ⟨other, row, tellsOther, changedOther⟩
    · rw [kept, kept]
    · rw [changed, changed, changedOther, changedOther]
      apply Function.update_comm
      rintro rfl
      exact apart _ tells tellsOther

theorem view_hear {Contents : Type} {client : Client Contents} {view : Contents → EngineContents}
    (reaches : client.Reaches view) (event : ListenerEvent) (contents : Contents) :
    view ((listener client).hear event contents).2 = entered event (view contents) := by
  have indexed (request : UpsertRequest) (documentUuid : DocumentUuid) :
      view (upsertToEngine client request documentUuid contents).2 =
        (upsertToEngine engineClient request documentUuid (view contents)).2 := by
    unfold upsertToEngine
    rw [handled_contents, handled_contents, reaches.indexed]
    rfl
  have deleted (request : EngineRequest) :
      view (handled (client.delete request contents)).2 =
        (handled (engineClient.delete request (view contents))).2 := by
    rw [handled_contents, handled_contents, reaches.deleted]
    exact (engineClient_reaches.deleted request (view contents)).symm
  cases event with
  | afterUpsertDocument request result => cases result <;> first | rfl | exact indexed _ _
  | afterUpdateDocumentById request result =>
      cases result <;> first | rfl | exact indexed request.toUpsertRequest _
  | afterDeleteDocumentById request result => cases result <;> first | rfl | exact deleted _
  | _ => rfl

/-- The report of a write names the index of its document when its resource does. -/
theorem tellsIndex_of_keeps {Contents : Type} {store : DocumentStore Contents} {contents : Contents}
    {write : WriteRequest} {deposits : Deposits}
    (keeps : ∀ event, write.report store contents = some event →
      ∀ documentUuid, event.writtenUuid = some documentUuid →
        KeepsIndex deposits documentUuid write.resourceInfo) :
    TellsIndex deposits (write.report store contents) := by
  intro event reported
  have named := keeps event reported
  rcases report_event reported with ⟨upsertRequest, result, rfl, -, rfl⟩ |
    ⟨updateRequest, result, rfl, -, rfl⟩ | ⟨deleteRequest, result, rfl, -, rfl⟩
  · cases result <;> first | trivial | exact named _ rfl
  · cases result <;> first | trivial | exact named _ rfl
  · cases result <;> first | trivial | exact named _ rfl

end Events

section Stores
variable {Generated Contents Engine : Type}
  {documentStore : Generated → DocumentStore Contents} {resources : Set ResourceInfo}
  {documents : Contents → List SearchedDocument} {kept : Json → Json}
  {permitted : Generated → Contents → WriteRequest → Prop} {holds : Contents → Deposits → Prop}

/-- A document store whose documents are the deposits, under permitted writes that the engine can
show. -/
structure Showable (documentStore : Generated → DocumentStore Contents)
    (resources : Set ResourceInfo) (documents : Contents → List SearchedDocument)
    (kept : Json → Json) (permitted : Generated → Contents → WriteRequest → Prop)
    (holds : Contents → Deposits → Prop) : Prop where
  requests : KeptByRequests documentStore depositsListener
    (fun generated contents _ write => permitted generated contents write) holds
  stored {contents : Contents} {deposits : Deposits} : holds contents deposits →
    ∀ document ∈ documents contents, ∃ request,
      deposits document.documentUuid = some request ∧ document.IsFor kept request
  present {contents : Contents} {deposits : Deposits} : holds contents deposits →
    ∀ documentUuid request, deposits documentUuid = some request →
      ∃ document ∈ documents contents, document.documentUuid = documentUuid
  unique {contents : Contents} {deposits : Deposits} : holds contents deposits →
    ∀ document ∈ documents contents, ∀ other ∈ documents contents,
      other.documentUuid = document.documentUuid → other = document
  shown {generated : Generated} {contents : Contents} {deposits : Deposits} {write : WriteRequest} :
    holds contents deposits → permitted generated contents write →
    write.Succeeds (documentStore generated) contents →
      WritesShown resources (documents contents) write
  upserted {generated : Generated} {contents : Contents} {deposits : Deposits}
    {request : UpsertRequest} {result : UpsertResult} {documentUuid : DocumentUuid} :
    holds contents deposits → permitted generated contents (.upsert request) →
    ((documentStore generated).upsertDocument request contents).1 = .ok result →
    (ListenerEvent.afterUpsertDocument request result).writtenUuid = some documentUuid →
    ∀ document ∈ documents contents, document.documentUuid = documentUuid →
      document.meadowlarkId = request.meadowlarkId

/-- Every deposit can be shown in the index of one of the resources. -/
def Presentable (resources : Set ResourceInfo) (deposits : Deposits) : Prop :=
  ∀ documentUuid request, deposits documentUuid = some request →
    request.resourceInfo ∈ resources ∧ request.edfiDoc.field? "info" = none

/-- The engine holds the deposits of the document store. -/
def Tracks (resources : Set ResourceInfo) (holds : Contents → Deposits → Prop) (contents : Contents)
    (view : EngineContents) : Prop :=
  ∃ deposits, holds contents deposits ∧ Indexed deposits view ∧ Presentable resources deposits

/-- The event of a write is about a document of its resource. -/
theorem Showable.keepsIndex
    (showable : Showable documentStore resources documents kept permitted holds)
    {generated : Generated} {contents : Contents} {deposits : Deposits} {write : WriteRequest}
    (held : holds contents deposits) (allowed : permitted generated contents write)
    {event : ListenerEvent} (reported : write.report (documentStore generated) contents = some event)
    {documentUuid : DocumentUuid} (written : event.writtenUuid = some documentUuid) :
    KeepsIndex deposits documentUuid write.resourceInfo := by
  intro deposit deposited
  obtain ⟨document, inside, named⟩ := showable.present held documentUuid deposit deposited
  obtain ⟨request, found, isFor⟩ := showable.stored held document inside
  rw [named, deposited, Option.some.injEq] at found
  subst found
  apply index_of_isOf isFor.resource
  have succeeds := succeeds_of_writtenUuid reported written
  apply (showable.shown held allowed succeeds).named document inside
  rcases report_event reported with ⟨upsertRequest, result, rfl, answered, rfl⟩ |
    ⟨updateRequest, result, rfl, -, rfl⟩ | ⟨deleteRequest, result, rfl, -, rfl⟩
  · exact showable.upserted held allowed answered written document inside named
  · cases result <;> cases written
    exact named
  · cases result <;> cases written
    exact named

/-- One request keeps the engine tracking the store, once it has heard of it. -/
theorem Showable.led (showable : Showable documentStore resources documents kept permitted holds)
    {contents next : Contents} {report : Option ListenerEvent} {view : EngineContents}
    (step : Leads documentStore permitted contents report next)
    (tracks : Tracks resources holds contents view) :
    Tracks resources holds next (caughtUp entered report.toList view) := by
  obtain ⟨deposits, held, indexed, presentable⟩ := tracks
  cases step with
  | checked generated validated =>
      exact ⟨deposits, showable.requests.checked generated validated held, indexed, presentable⟩
  | read generated request =>
      exact ⟨deposits, showable.requests.read generated request held, indexed, presentable⟩
  | @written generated write allowed =>
      have tells := tellsIndex_of_keeps fun event reported documentUuid written =>
        showable.keepsIndex held allowed reported written
      have followed := indexed_told engineClient_reaches _ deposits view indexed tells
      refine ⟨_, showable.requests.written held allowed, ?_, ?_⟩
      · cases reported : write.report (documentStore generated) contents with
        | none =>
            rw [reported] at followed
            exact followed
        | some event =>
            rw [reported] at followed
            exact followed
      · intro documentUuid request deposited
        cases reported : write.report (documentStore generated) contents with
        | none =>
            rw [reported] at deposited
            exact presentable documentUuid request deposited
        | some event =>
            rw [reported] at deposited
            change deposits.after event documentUuid = some request at deposited
            cases written : event.writtenUuid with
            | none =>
                rw [after_unwritten written] at deposited
                exact presentable documentUuid request deposited
            | some writtenUuid =>
                have shown := showable.shown held allowed (succeeds_of_writtenUuid reported written)
                rcases deposits_reported reported deposited with earlier | own
                · exact presentable documentUuid request earlier
                · exact ⟨shown.listed request own, shown.plain request own⟩

/-- An engine that holds the deposits shows the documents. -/
theorem Showable.mirror (showable : Showable documentStore resources documents kept permitted holds)
    (apart : IndexesApart resources) {contents : Contents} {view : EngineContents}
    (tracks : Tracks resources holds contents view) :
    IndexesMirror resources kept (documents contents) view := by
  obtain ⟨deposits, held, indexed, presentable⟩ := tracks
  have shows {document : SearchedDocument} {request : UpsertRequest}
      (deposited : deposits document.documentUuid = some request)
      (isFor : document.IsFor kept request) :
      Shows kept document (bodyFrom request document.documentUuid) := by
    constructor
    · rw [createdBy_bodyFrom, isFor.createdBy]
    · exact ⟨request.edfiDoc, isFor.edfiDoc, info_bodyFrom (presentable _ _ deposited).2 _⟩
  intro resourceInfo listed
  constructor
  · intro documentUuid entry entered
    obtain ⟨request, deposited, named, rfl⟩ := Mirrors.origin indexed entered
    obtain ⟨document, inside, rfl⟩ := showable.present held documentUuid request deposited
    obtain ⟨other, found, isFor⟩ := showable.stored held document inside
    obtain rfl : request = other := Option.some.inj (deposited.symm.trans found)
    obtain ⟨project, version, name⟩ := isFor.resource
    obtain ⟨sameProject, sameVersion, sameName⟩ :=
      apart _ (presentable _ _ deposited).1 _ listed named
    exact ⟨document, inside, ⟨project.trans sameProject, version.trans sameVersion,
      name.trans sameName⟩, rfl, shows deposited isFor⟩
  · intro document inside isOf
    obtain ⟨request, deposited, isFor⟩ := showable.stored held document inside
    refine ⟨⟨bodyFrom request document.documentUuid, ?_, shows deposited isFor⟩,
      showable.unique held document inside⟩
    rw [index_of_isOf isOf isFor.resource]
    exact Mirrors.found indexed deposited

/-- The states to which requests lead whose listeners run later, each in a turn that it may have. -/
abbrev Overlapped (documentStore : Generated → DocumentStore Contents)
    (permitted : Generated → Contents → WriteRequest → Prop) (client : Client Engine)
    (may : List ListenerEvent → ListenerEvent → Prop) (start : Contents × Engine) :
    Following Contents ListenerEvent Engine → Prop :=
  Following.Reached (Leads documentStore permitted)
    (fun event engine => ((listener client).hear event engine).2) may start

/-- Whenever the engine has heard of every write, in any order in which the writes of one document
are heard one after another, it shows the documents as they are stored. -/
theorem Showable.reached {client : Client Engine} {view : Engine → EngineContents}
    (showable : Showable documentStore resources documents kept permitted holds)
    (apart : IndexesApart resources) (reaches : client.Reaches view) {start : Contents × Engine}
    (begun : holds start.1 fun _ => none) (empty : view start.2 = fun _ => none)
    {contents : Contents} {engine : Engine}
    (reached : Overlapped documentStore permitted client (InTurn ListenerEvent.writtenUuid) start
      ⟨contents, [], engine⟩) :
    IndexesMirror resources kept (documents contents) (view engine) := by
  apply showable.mirror apart
  apply reached.tracked (view_hear reaches) entered_commutes
    (fun _ _ _ _ step tracks => showable.led step tracks)
  refine ⟨fun _ => none, begun, ?_, nofun⟩
  rw [empty]
  exact indexed_empty

end Stores
end Meadowlark.Search
