import Meadowlark.Proof.Core.Confinement

namespace Meadowlark.Core
open Systems
variable [NodeRuntime] [DocumentProcessing] {Contents Memory : Type}
  {documentStore : DocumentStore Contents} {services : Services Memory} {contents : Contents}
  {memory : Memory} {frontendRequest : FrontendRequest} {document : StoredDocument}
  {queryHandler : QueryHandlerPlugin}

omit [DocumentProcessing] in
/-- A document whose date has a text is answered with 200. -/
theorem getResponse_found {documentUuid : DocumentUuid} {edfiDoc : Json} {lastModifiedDate : Int}
    (formatted : (NodeRuntime.dateToISOString lastModifiedDate).isSome = true) :
    ∃ frontendResponse, getResponse frontendRequest
        (.getSuccess documentUuid edfiDoc lastModifiedDate) = .ok frontendResponse ∧
      frontendResponse.statusCode = 200 := by
  obtain ⟨text, found⟩ := Option.isSome_iff_exists.mp formatted
  unfold getResponse
  dsimp only
  rw [found]
  exact ⟨_, rfl, rfl⟩

/-- A read is answered with 200 exactly when it comes to the document. -/
theorem getById_found_iff
    (addresses : Addresses documentStore contents services .getById frontendRequest memory document) :
    (∃ frontendResponse, (documentStore.run services
        (EntryPoint.getById.run queryHandler frontendRequest) (contents, memory)).1 =
          .ok frontendResponse ∧ frontendResponse.statusCode = 200) ↔
      Reads services frontendRequest memory document := by
  constructor
  · rintro ⟨frontendResponse, responded, status⟩
    by_contra unread
    have confined := (@getById_confined_iff _ _ _ _ _ documentStore services contents memory
      frontendRequest document queryHandler (fun _ => ()) addresses).mpr unread
    refine confined.2 frontendResponse responded ?_
    unfold FrontendResponse.success
    omega
  · rintro ⟨validated, following, documentUuid, admitted, named, permitted, heard, reported,
      formatted⟩
    obtain ⟨given, namedAgain, serves⟩ := addresses validated following admitted
    obtain rfl : documentUuid = given := Option.some.inj (named.symm.trans namedAgain)
    have guarded : EntryPoint.getById ≠ .query := by decide
    obtain ⟨frontendResponse, built, status⟩ := @getResponse_found _ validated documentUuid
      document.edfiDoc document.lastModifiedAt formatted
    rcases @run_served _ _ _ _ documentStore services contents memory _ frontendRequest document
        queryHandler _ _ _ guarded admitted named serves with ⟨-, done⟩ | ⟨denied, -⟩
    · have read := serves.read (getRequestFrom validated documentUuid) rfl
      refine ⟨frontendResponse, ?_, status⟩
      rw [done, run_getById named, read]
      apply caught_ok
      rw [announced_response]
      exact ⟨heard, _, rfl, reported, built⟩
    · exact absurd permitted denied

omit [NodeRuntime] in
theorem endpointValidation_path {model following : MiddlewareModel}
    (done : endpointValidation model = .ok following) :
    following.frontendRequest.middleware.pathComponents =
      model.frontendRequest.middleware.pathComponents := by
  unfold endpointValidation at done
  split at done
  · cases done
    rfl
  · obtain ⟨result, -, built⟩ := ok_of_bind done
    cases built
    split <;> rfl

/-- An admitted read has the path with which it came. -/
theorem EntryPoint.Admits.path {parsed validated : FrontendRequest} {following : Memory}
    (admitted : EntryPoint.getById.Admits services parsed memory validated following) :
    validated.middleware.pathComponents = parsed.middleware.pathComponents := by
  obtain ⟨identified, known, valid⟩ := admitted
  have validates : endpointValidation ⟨identified, none⟩ = .ok ⟨validated, none⟩ := valid
  exact (endpointValidation_path validates).trans known.sameAction.pathComponents

/-- The path of the request carries a well-formed uuid. -/
def Gets (frontendRequest parsed : FrontendRequest) (documentUuid : DocumentUuid) : Prop :=
  parsePath ⟨frontendRequest, none⟩ = ⟨parsed, none⟩ ∧
    parsed.middleware.pathComponents.documentUuid = some documentUuid

/-- A path with a uuid is read by id. -/
theorem get_named {parsed : FrontendRequest} {documentUuid : DocumentUuid}
    (gets : Gets frontendRequest parsed documentUuid) :
    get backendFacade queryHandler frontendRequest =
      EntryPoint.getById.run queryHandler parsed := by
  unfold get
  rw [gets.1]
  dsimp only
  rw [gets.2]
  rfl

/-- What a client reads by id under the rule of ownership was created by the client. -/
def ReadProtected (documentStore : DocumentStore Contents)
    (stored : DocumentUuid → StoredDocument → Prop) (services : Services Memory)
    (contents : Contents) (memory : Memory) (frontendRequest : FrontendRequest)
    (queryHandler : QueryHandlerPlugin) : Prop :=
  ∀ parsed documentUuid validated following document frontendResponse,
    Gets frontendRequest parsed documentUuid →
    EntryPoint.getById.Admits services parsed memory validated following →
    validated.middleware.security.authorizationStrategy = .ownershipBased →
    stored documentUuid document →
    (documentStore.run services (get backendFacade queryHandler frontendRequest)
      (contents, memory)).1 = .ok frontendResponse →
    frontendResponse.statusCode = 200 →
    document.createdBy = validated.middleware.security.clientId

/-- The path names a descriptor resource, but its uuid is that of another client's document. -/
def Discloses (stored : DocumentUuid → StoredDocument → Prop) (services : Services Memory)
    (memory : Memory) (frontendRequest : FrontendRequest) : Prop :=
  ∃ parsed documentUuid validated following document,
    Gets frontendRequest parsed documentUuid ∧
    EntryPoint.getById.Admits services parsed memory validated following ∧
    validated.middleware.security.authorizationStrategy = .ownershipBased ∧
    stored documentUuid document ∧
    ReadsDescriptor validated ∧
    document.createdBy ≠ validated.middleware.security.clientId ∧
    Reads services parsed memory document

/-- Under the rule of ownership a read is protected exactly when it does not disclose a document
through the endpoint of a descriptor. -/
theorem readProtected_iff {stored : DocumentUuid → StoredDocument → Prop}
    (serves : ∀ documentUuid document, stored documentUuid document →
      documentStore.Serves contents documentUuid document) :
    ReadProtected documentStore stored services contents memory frontendRequest queryHandler ↔
      ¬ Discloses stored services memory frontendRequest := by
  have addresses {parsed documentUuid document} (gets : Gets frontendRequest parsed documentUuid)
      (inside : stored documentUuid document) :
      Addresses documentStore contents services .getById parsed memory document := by
    intro validated following admitted
    refine ⟨documentUuid, ?_, serves documentUuid document inside⟩
    rw [admitted.path]
    exact gets.2
  constructor
  · rintro shielded ⟨parsed, documentUuid, validated, following, document, gets, admitted,
      ownership, inside, -, foreign, reads⟩
    obtain ⟨frontendResponse, responded, status⟩ :=
      (@getById_found_iff _ _ _ _ _ _ _ _ _ _ queryHandler (addresses gets inside)).mpr reads
    rw [← get_named gets] at responded
    exact foreign (shielded parsed documentUuid validated following document frontendResponse gets
      admitted ownership inside responded status)
  · intro quiet parsed documentUuid validated following document frontendResponse gets admitted
      ownership inside responded status
    by_contra foreign
    rw [get_named gets] at responded
    have reads := (getById_found_iff (addresses gets inside)).mp
      ⟨frontendResponse, responded, status⟩
    have descriptor : ReadsDescriptor validated := by
      obtain ⟨other, last, _, again, -, permitted, -⟩ := reads
      obtain ⟨rfl, rfl⟩ := admitted.unique again
      rcases permitted with unowned | descriptor | own
      · exact absurd ownership unowned
      · exact descriptor
      · exact absurd own foreign
    exact quiet ⟨parsed, documentUuid, validated, following, document, gets, admitted, ownership,
      inside, descriptor, foreign, reads⟩

/-- No document is disclosed through the endpoint of a resource that is no descriptor. -/
theorem not_discloses {stored : DocumentUuid → StoredDocument → Prop}
    (plain : ∀ parsed documentUuid validated following,
      Gets frontendRequest parsed documentUuid →
      EntryPoint.getById.Admits services parsed memory validated following →
        validated.middleware.resourceInfo.isDescriptor = false) :
    ¬ Discloses stored services memory frontendRequest := by
  rintro ⟨parsed, documentUuid, validated, following, document, gets, admitted, -, -,
    ⟨descriptor, -⟩, -⟩
  have unnamed := plain parsed documentUuid validated following gets admitted
  rw [descriptor] at unnamed
  cases unnamed

/-- A document store that fails discloses nothing. -/
theorem DocumentStore.Fails.readProtected {View : Type} {view : Contents → View}
    {stored : DocumentUuid → StoredDocument → Prop} (fails : documentStore.Fails view contents) :
    ReadProtected documentStore stored services contents memory frontendRequest queryHandler := by
  intro parsed documentUuid validated following document frontendResponse gets _ _ _ responded status
  rw [get_named gets] at responded
  have confined := @DocumentStore.Fails.confined _ _ _ _ _ documentStore services contents memory
    .getById parsed queryHandler view fails rfl
  refine absurd ?_ (confined.2 frontendResponse responded)
  unfold FrontendResponse.success
  omega

end Meadowlark.Core
