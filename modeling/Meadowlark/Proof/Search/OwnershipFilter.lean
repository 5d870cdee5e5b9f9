import Meadowlark.Construction.Search.Matching
import Meadowlark.Proof.Core.EntryPoint
import Meadowlark.Proof.Search.Bodies

namespace Meadowlark.Search
open Meadowlark.Core Systems

section Queries
variable [NodeRuntime] {State : Type} {answer : (call : Call) → State → call.Answer × State}
  {state : State} {analysis : Analysis} {search : SearchRequest → SearchAnswer} {clientId : String}

/-- The contents of an engine that has heard some events. -/
def heardContents (events : List ListenerEvent) : EngineContents :=
  events.foldl (fun contents event => ((listener engineClient).hear event contents).2) fun _ => none

/-- Every body has been written for an upsert request, in the index of its resource. -/
def Written (contents : EngineContents) : Prop :=
  ∀ index id body, contents ⟨index, id⟩ = some body →
    ∃ request : UpsertRequest, body = bodyFrom request id ∧
      index = indexFromResourceInfo request.resourceInfo

theorem written_upsert {contents : EngineContents} (written : Written contents)
    (request : UpsertRequest) (documentUuid : DocumentUuid) :
    Written (upsertToEngine engineClient request documentUuid contents).2 := by
  intro index id body stored
  change Function.update contents _ _ _ = _ at stored
  by_cases same : (⟨index, id⟩ : EngineRequest) =
      engineRequestFrom request.resourceInfo documentUuid
  · rw [same, Function.update_self] at stored
    cases same
    exact ⟨request, (Option.some.inj stored).symm, rfl⟩
  · rw [Function.update_of_ne same] at stored
    exact written index id body stored

theorem written_delete {contents : EngineContents} (written : Written contents)
    (request : EngineRequest) : Written (handled (engineClient.delete request contents)).2 := by
  intro index id body stored
  cases found : contents request with
  | none =>
      have kept : (handled (engineClient.delete request contents)).2 = contents := by
        unfold engineClient
        dsimp only
        rw [found]
        rfl
      rw [kept] at stored
      exact written index id body stored
  | some earlier =>
      have removed : (handled (engineClient.delete request contents)).2 =
          Function.update contents request none := by
        unfold engineClient
        dsimp only
        rw [found]
        rfl
      rw [removed] at stored
      by_cases same : (⟨index, id⟩ : EngineRequest) = request
      · rw [same, Function.update_self] at stored
        cases stored
      · rw [Function.update_of_ne same] at stored
        exact written index id body stored

/-- One event keeps the contents written. -/
theorem written_hear {contents : EngineContents} (written : Written contents)
    (event : ListenerEvent) : Written ((listener engineClient).hear event contents).2 := by
  cases event with
  | afterUpsertDocument request result =>
      cases result with
      | insertSuccess newDocumentUuid => exact written_upsert written _ _
      | updateSuccess existingDocumentUuid => exact written_upsert written _ _
      | _ => exact written
  | afterUpdateDocumentById request result =>
      cases result with
      | updateSuccess => exact written_upsert written _ _
      | _ => exact written
  | afterDeleteDocumentById request result =>
      cases result with
      | deleteSuccess => exact written_delete written _
      | _ => exact written
  | _ => exact written

theorem written_heardContents (events : List ListenerEvent) : Written (heardContents events) := by
  have kept : ∀ contents, Written contents → Written (events.foldl (fun contents event =>
      ((listener engineClient).hear event contents).2) contents) := by
    induction events with
    | nil => exact fun contents written => written
    | cons event rest ih => exact fun contents written => ih _ (written_hear written event)
  exact kept _ nofun

omit [NodeRuntime] in
theorem holds_createdBy (request : UpsertRequest) (documentUuid : DocumentUuid) :
    analysis.holds (bodyFrom request documentUuid) (.matchCreatedBy clientId) = true ↔
      analysis.Shares request.security.clientId clientId := by
  unfold Analysis.holds
  dsimp only
  rw [createdBy_bodyFrom]
  exact decide_eq_true_iff

section Ownership

/-- Every hit of a query for a client under the ownership strategy has been written for a request of
the client, unless descriptors are queried. -/
def ReturnsOwn (search : SearchRequest → SearchAnswer) (clientId : String) : Prop :=
  ∀ request : QueryRequest, request.security = ⟨.ownershipBased, clientId⟩ →
    request.resourceInfo.isDescriptor = false →
    ∀ source ∈ (search (searchRequestFrom request)).sources,
      ∃ (written : UpsertRequest) (documentUuid : DocumentUuid),
        source = bodyFrom written documentUuid ∧ written.security.clientId = clientId

/-- No other client whose id shares a token with the id of the client has a body in the index of a
resource that is no descriptor. -/
def Unmistakable (analysis : Analysis) (contents : EngineContents) (clientId : String) : Prop :=
  ∀ resourceInfo : ResourceInfo, resourceInfo.isDescriptor = false →
    ∀ (written : UpsertRequest) (documentUuid : DocumentUuid),
      contents ⟨indexFromResourceInfo resourceInfo, documentUuid⟩ =
        some (bodyFrom written documentUuid) →
      analysis.Shares written.security.clientId clientId → written.security.clientId = clientId

/-- An error of the search leaves no documents. -/
theorem documents_handleError (engine : Engine) (error : Exception) :
    (engine.handleError error).documents = [] := by
  have answered : (responseErrorResult error).documents = [] := by
    unfold responseErrorResult
    split
    · rfl
    · rfl
  cases engine with
  | elasticsearch =>
      change (handleElasticSearchError error).documents = []
      unfold handleElasticSearchError
      split
      · rfl
      · split
        · exact answered
        · rfl
  | opensearch =>
      change (handleOpenSearchError error).documents = []
      unfold handleOpenSearchError
      split
      · rfl
      · split
        · split
          · exact answered
          · split
            · unfold responseBodyResult
              split
              · rfl
              · dsimp only
                split <;> rfl
            · rfl
        · rfl

/-- The documents of a query are parsed from the hits of its search. -/
theorem documents_queryDocuments (engine : Engine) (request : QueryRequest) {found : SearchAnswer}
    {result : QueryResult}
    (searched : (answer (.search (searchRequestFrom request)) state).1 = .ok found)
    (done : (Program.runState answer (engine.queryHandler.queryDocuments request) state).1 =
      .ok result) :
    result.documents = [] ∨ found.sources.mapM documentFrom = .ok result.documents := by
  change (Program.runState answer (tryCatch _ _) state).1 = _ at done
  rw [Program.runState_tryCatch, Program.runState_bind, EntryPoint.runState_perform] at done
  cases outcome : answer (.search (searchRequestFrom request)) state with
  | mk first following =>
      rw [outcome] at searched done
      obtain rfl : first = .ok found := searched
      dsimp only at done
      rw [Program.runState_bind] at done
      by_cases hits : found.total > 0
      · cases parsed : found.sources.mapM documentFrom with
        | ok documents =>
            rw [if_pos hits, parsed] at done
            obtain rfl := Except.ok.inj done
            exact .inr rfl
        | error error =>
            rw [if_pos hits, parsed] at done
            obtain rfl := Except.ok.inj done
            exact .inl (documents_handleError engine error)
      · rw [if_neg hits] at done
        obtain rfl := Except.ok.inj done
        exact .inl rfl

theorem returnsOwn_iff {contents : EngineContents} (written : Written contents)
    (answers : Answers analysis contents search) :
    ReturnsOwn search clientId ↔ Unmistakable analysis contents clientId := by
  constructor
  · intro returns resourceInfo plain request documentUuid stored shares
    have clauses : ∀ clause ∈ (searchRequestFrom ⟨resourceInfo, [], ⟨none, none⟩, ⟨""⟩,
        ⟨.ownershipBased, clientId⟩⟩).must,
        analysis.holds (bodyFrom request documentUuid) clause = true := by
      intro clause inside
      unfold searchRequestFrom at inside
      rw [if_pos ⟨rfl, plain⟩] at inside
      obtain rfl := List.mem_singleton.mp inside
      exact (holds_createdBy request documentUuid).mpr shares
    obtain ⟨size, start, hit⟩ := answers.paged _ documentUuid _ stored clauses
    obtain ⟨other, otherUuid, same, own⟩ := returns
      ⟨resourceInfo, [], ⟨size, start⟩, ⟨""⟩, ⟨.ownershipBased, clientId⟩⟩ rfl plain _ hit
    have createdBy := congrArg (fun body => Json.field? body "createdBy") same
    rw [createdBy_bodyFrom, createdBy_bodyFrom, own] at createdBy
    exact Json.string.inj (Option.some.inj createdBy)
  · intro unmistakable request secured plain source hit
    obtain ⟨id, stored, clauses⟩ := answers.hit _ _ hit
    obtain ⟨earlier, rfl, -⟩ := written _ _ _ stored
    refine ⟨earlier, id, rfl, ?_⟩
    have filtered := clauses (.matchCreatedBy clientId) ?_
    · exact unmistakable request.resourceInfo plain earlier id stored
        ((holds_createdBy earlier id).mp filtered)
    · unfold searchRequestFrom
      rw [secured]
      dsimp only
      rw [if_pos ⟨rfl, plain⟩]
      exact List.mem_append_right _ (List.mem_singleton.mpr rfl)

/-- The documents that a query returns are parsed from its hits. For a client under the ownership
strategy the hits are its own exactly when no other client with a similar id has a body. -/
theorem owner_filter_iff (engine : Engine) (events : List ListenerEvent)
    (answers : Answers analysis (heardContents events) search) (clientId : String) :
    (∀ (answer : (call : Call) → State → call.Answer × State) state request result,
      (answer (.search (searchRequestFrom request)) state).1 =
        .ok (search (searchRequestFrom request)) →
      (Program.runState answer (engine.queryHandler.queryDocuments request) state).1 = .ok result →
      result.documents = [] ∨ (search (searchRequestFrom request)).sources.mapM documentFrom =
        .ok result.documents) ∧
    (ReturnsOwn search clientId ↔ Unmistakable analysis (heardContents events) clientId) :=
  ⟨fun _ _ request _ searched done => documents_queryDocuments engine request searched done,
    returnsOwn_iff (written_heardContents events) answers⟩

end Ownership

end Queries

section Sample
open Sample

private def firstClient : String := "11111111-1111-4000-8000-000000000001"

private def secondClient : String := "22222222-2222-4000-8000-000000000002"

private def otherClient : String := "33333333-3333-4333-b333-333333333333"

private def firstSchool : UpsertRequest :=
  upsertRequest (resource "School") "schoolId" "1" [] none 1 firstClient

private def schoolUuid : DocumentUuid := documentUuid "000000000001"

private def schoolEvents : List ListenerEvent :=
  [.afterUpsertDocument firstSchool (.insertSuccess schoolUuid)]

private abbrev schoolContents : EngineContents := @heardContents runtime schoolEvents

/-- A text that is sent for a size or for a start. -/
private def numberSent : Option Json → Option Nat
  | some (.string text) => text.toNat?
  | some (.number text) => text.toNat?
  | _ => none

/-- A search that looks at one body: a page starts at the first hit and has ten of them unless
another page is asked for. -/
private def searchOne (contents : EngineContents) (id : DocumentUuid) (request : SearchRequest) :
    SearchAnswer :=
  let bodies := (contents ⟨request.index, id⟩).toList.filter fun body =>
    request.must.all (standardAnalysis.holds body)
  ⟨bodies.length, (bodies.drop ((numberSent request.from_).getD 0)).take
    ((numberSent request.size).getD 10)⟩

private abbrev schoolSearch : SearchRequest → SearchAnswer := searchOne schoolContents schoolUuid

private theorem answers_searchOne {contents : EngineContents} {id : DocumentUuid}
    (alone : ∀ index other, other ≠ id → contents ⟨index, other⟩ = none) :
    Answers standardAnalysis contents (searchOne contents id) where
  hit request source inside := by
    obtain ⟨stored, clauses⟩ :=
      List.mem_filter.mp (List.mem_of_mem_drop (List.mem_of_mem_take inside))
    exact ⟨id, Option.mem_toList.mp stored, List.all_eq_true.mp clauses⟩
  paged request other body stored clauses := by
    by_cases same : other = id
    · subst same
      refine ⟨none, none, ?_⟩
      have bodies : ((contents ⟨request.index, other⟩).toList.filter fun body =>
          request.must.all (standardAnalysis.holds body)) = [body] := by
        rw [stored]
        exact List.filter_cons_of_pos (List.all_eq_true.mpr clauses)
      unfold searchOne
      dsimp only
      rw [bodies]
      exact List.mem_singleton.mpr rfl
    · rw [alone _ _ same] at stored
      cases stored

private theorem schoolContents_apply (request : EngineRequest) :
    schoolContents request = Function.update (fun _ => none)
      (@engineRequestFrom runtime (resource "School") schoolUuid)
      (some (bodyFrom firstSchool schoolUuid)) request := rfl

private theorem answers_school : Answers standardAnalysis schoolContents schoolSearch := by
  apply answers_searchOne
  intro index other different
  rw [schoolContents_apply, Function.update_of_ne]
  intro same
  exact different (congrArg EngineRequest.id same)

/-- The first client shares tokens with the second one and none with the other one. -/
private theorem clients_share :
    standardAnalysis.Shares firstClient secondClient ∧
      ¬ standardAnalysis.Shares firstClient otherClient := by
  decide +kernel

private theorem createdBy_stored {request : UpsertRequest} {engineRequest : EngineRequest}
    {documentUuid : DocumentUuid}
    (stored : schoolContents engineRequest = some (bodyFrom request documentUuid)) :
    request.security.clientId = firstClient := by
  rw [schoolContents_apply] at stored
  by_cases same : engineRequest = @engineRequestFrom runtime (resource "School") schoolUuid
  · rw [same, Function.update_self] at stored
    have createdBy := congrArg (fun body => Json.field? body "createdBy") (Option.some.inj stored)
    rw [createdBy_bodyFrom, createdBy_bodyFrom] at createdBy
    exact (Json.string.inj (Option.some.inj createdBy)).symm
  · rw [Function.update_of_ne same] at stored
    cases stored

/-- The search engine answers, and nothing else is called. -/
private def answerSchool : (call : Call) → Unit → call.Answer × Unit
  | .search request, _ => (.ok (schoolSearch request), ())
  | _, _ => (.error ⟨"Error", "not called", none⟩, ())

private def secondQuery : QueryRequest :=
  ⟨resource "School", [], ⟨none, none⟩, ⟨"trace"⟩, ⟨.ownershipBased, secondClient⟩⟩

theorem owner_filter_school :
    @ReturnsOwn runtime schoolSearch otherClient ∧
      (@ReturnsOwn runtime schoolSearch secondClient ↔
        @Unmistakable runtime standardAnalysis schoolContents secondClient) := by
  have filter := @owner_filter_iff runtime Unit standardAnalysis schoolSearch .opensearch
    schoolEvents answers_school
  refine ⟨(filter otherClient).2.mpr ?_, (filter secondClient).2⟩
  intro resourceInfo plain request documentUuid stored shares
  rw [createdBy_stored stored] at shares
  exact absurd shares clients_share.2

/-- A client whose id shares tokens with the one of another client gets the school of that one. -/
theorem similar_client_gets_school :
    Answers standardAnalysis schoolContents schoolSearch ∧
      (Program.runState answerSchool (@queryDocumentsWith runtime
        (@handleOpenSearchError runtime) secondQuery) ()).1.toOption.map (·.documents) =
          some [.object [("id", .string schoolUuid.value), ("schoolId", .string "1")]] ∧
      ¬ @ReturnsOwn runtime schoolSearch secondClient := by
  refine ⟨answers_school, by decide +kernel, fun returns => ?_⟩
  have written := @written_heardContents runtime schoolEvents
  have unmistakable := (@returnsOwn_iff runtime _ _ _ _ written answers_school).mp returns
    (resource "School") rfl firstSchool schoolUuid
    ((schoolContents_apply _).trans (Function.update_self _ _ _)) clients_share.1
  exact absurd unmistakable (by decide +kernel)

end Sample

end Meadowlark.Search
