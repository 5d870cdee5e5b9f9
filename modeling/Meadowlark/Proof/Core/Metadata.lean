import Meadowlark.Construction.Core.Metadata
import Meadowlark.Systems.Histories

namespace Meadowlark.Core
open Systems

section Upstream

/-- What the upstream holds for a file at one time. -/
structure FileVersion where
  data : Json
  etag : Option String

/-- A request for a file, with the version of the file at that time and what the upstream answers to
each etag. -/
structure MetadataRequest where
  file : MetadataFile
  frontendRequest : FrontendRequest
  version : FileVersion
  answer : Option String → UpstreamAnswer

/-- New contents are the current ones, and there are no changes only when the etag that was sent is
the current one. -/
def FileVersion.Answers (version : FileVersion) (sent : Option String) : UpstreamAnswer → Prop
  | .newContents data etag => data = version.data ∧ etag = version.etag
  | .noChanges => sent.isSome ∧ sent = version.etag
  | .failure => True

/-- The upstream answers by the versions of its files, and an etag names one version of a file. -/
structure HonestUpstream (requests : List MetadataRequest) : Prop where
  answers : ∀ request ∈ requests, ∀ sent, request.version.Answers sent (request.answer sent)
  identified : ∀ first ∈ requests, ∀ second ∈ requests, first.file = second.file →
    first.version.etag.isSome → first.version.etag = second.version.etag →
    first.version.data = second.version.data

variable (tokenUrl : String)

/-- The current template, rendered for the host and stage of the request. -/
def MetadataRequest.rendered (request : MetadataRequest) : Except Exception Json :=
  request.file.transformer tokenUrl request.frontendRequest request.version.data

/-- The cache, and for each file the request for which its cached body was rendered. -/
structure ServedMetadata where
  resourceCache : ResourceCache
  renderedFor : MetadataFile → Option FrontendRequest

def noMetadata : ServedMetadata := ⟨fun _ => none, fun _ => none⟩

/-- The upstream's answer to the etag of the cached resource, or to an empty etag. -/
def MetadataRequest.answered (request : MetadataRequest) (served : ServedMetadata) :
    UpstreamAnswer :=
  request.answer ((served.resourceCache request.file.url).getD ⟨.string "", some ""⟩).etag

/-- The response to the request, and the cache after it. -/
def MetadataRequest.serve (request : MetadataRequest) (served : ServedMetadata) :
    FrontendResponse × ResourceCache :=
  serveMetadata tokenUrl request.file request.frontendRequest request.answer served.resourceCache

/-- A body is cached for the request that rendered it. -/
def MetadataRequest.after (request : MetadataRequest) (served : ServedMetadata) :
    ServedMetadata where
  resourceCache := (request.serve tokenUrl served).2
  renderedFor :=
    match request.answered served, request.rendered tokenUrl with
    | .newContents _ _, .ok _ =>
        Function.update served.renderedFor request.file (some request.frontendRequest)
    | _, _ => served.renderedFor

def servedAfter (requests : List MetadataRequest) : ServedMetadata :=
  requests.foldl (fun served request => request.after tokenUrl served) noMetadata

/-- A response with status 200 has the current template rendered for this request, and a request
that fails leaves the cache as it was. -/
def ServedTransparently (served : ServedMetadata) (request : MetadataRequest) : Prop :=
  ((request.serve tokenUrl served).1.statusCode = 200 →
      ∃ body, request.rendered tokenUrl = .ok body ∧
        (request.serve tokenUrl served).1.body = some body) ∧
    ((request.serve tokenUrl served).1.statusCode ≠ 200 →
      (request.serve tokenUrl served).2 = served.resourceCache)

/-- The rendering of the current template for the request whose body is cached.
Without a cached body it is empty. -/
def MetadataRequest.renderedForCached (request : MetadataRequest) (served : ServedMetadata) :
    Except Exception Json :=
  match served.renderedFor request.file with
  | some earlier => request.file.transformer tokenUrl earlier request.version.data
  | none => .ok (.string "")

/-- Without changes, the current template renders for this request as for the request whose body is
cached. When the rendering of new contents fails, nothing is cached under another etag. -/
structure SharesRendering (served : ServedMetadata) (request : MetadataRequest) : Prop where
  unchanged (answered : request.answered served = .noChanges) :
    request.renderedForCached tokenUrl served = request.rendered tokenUrl
  changed {data : Json} {etag : Option String} {error : Exception} {resource : ExternalResource}
    (answered : request.answered served = .newContents data etag)
    (failed : request.rendered tokenUrl = .error error)
    (cached : served.resourceCache request.file.url = some resource) : resource.etag = etag

end Upstream

section Steps
variable {tokenUrl : String} {served : ServedMetadata} {request : MetadataRequest}

theorem MetadataFile.url_injective : ∀ first second : MetadataFile,
    first.url = second.url → first = second := by
  intro first second same
  cases first <;> cases second <;> first | rfl | (revert same; decide)

theorem metadataFailure_status : metadataFailure.statusCode ≠ 200 := by decide

theorem serve_failure (answered : request.answered served = .failure) :
    request.serve tokenUrl served = (metadataFailure, served.resourceCache) := by
  unfold MetadataRequest.answered at answered
  simp only [MetadataRequest.serve, serveMetadata, getFileFromBlobStorage, answered]

theorem serve_noChanges (answered : request.answered served = .noChanges) :
    request.serve tokenUrl served =
      (metadataResponse
        ((served.resourceCache request.file.url).getD ⟨.string "", some ""⟩).body,
        served.resourceCache) := by
  unfold MetadataRequest.answered at answered
  simp only [MetadataRequest.serve, serveMetadata, getFileFromBlobStorage, answered]

variable {data body : Json} {etag : Option String} {error : Exception}

theorem serve_rendered (answered : request.answered served = .newContents data etag)
    (rendered : request.file.transformer tokenUrl request.frontendRequest data = .ok body) :
    request.serve tokenUrl served = (metadataResponse body,
      Function.update served.resourceCache request.file.url (some ⟨body, etag⟩)) := by
  unfold MetadataRequest.answered at answered
  simp only [MetadataRequest.serve, serveMetadata, getFileFromBlobStorage, answered, rendered]

theorem serve_notRendered (answered : request.answered served = .newContents data etag)
    (failed : request.file.transformer tokenUrl request.frontendRequest data = .error error) :
    request.serve tokenUrl served = (metadataFailure,
      Function.update served.resourceCache request.file.url
        ((served.resourceCache request.file.url).map fun resource =>
          { resource with etag := etag })) := by
  unfold MetadataRequest.answered at answered
  simp only [MetadataRequest.serve, serveMetadata, getFileFromBlobStorage, answered, failed]

/-- Unless a body is rendered, the cached bodies keep their requests. -/
theorem after_unrendered (unrendered : ∀ data etag body,
    request.answered served = .newContents data etag → request.rendered tokenUrl ≠ .ok body) :
    (request.after tokenUrl served).renderedFor = served.renderedFor := by
  unfold MetadataRequest.after
  cases answered : request.answered served with
  | failure => rfl
  | noChanges => rfl
  | newContents data etag =>
      cases rendered : request.rendered tokenUrl with
      | error error => rfl
      | ok body => exact absurd rendered (unrendered data etag body answered)

/-- A changed etag is only unnoticed when the cached resource has it already. -/
theorem update_etag_iff {resourceCache : ResourceCache} {url : String} :
    Function.update resourceCache url
        ((resourceCache url).map fun resource => { resource with etag := etag }) =
        resourceCache ↔
      ∀ resource, resourceCache url = some resource → resource.etag = etag := by
  rw [Function.update_eq_self_iff]
  constructor
  · intro same resource cached
    rw [cached, Option.map_some, Option.some.injEq] at same
    rw [← same]
  · intro same
    cases cached : resourceCache url with
    | none => rfl
    | some resource => rw [Option.map_some, ← same resource cached]

/-- What is cached for a file was rendered from one of the requests before, under the etag of its
version. -/
def CachedFrom (tokenUrl : String) (requests : List MetadataRequest) (served : ServedMetadata)
    (file : MetadataFile) : Prop :=
  (served.resourceCache file.url = none ∧ served.renderedFor file = none) ∨
    ∃ earlier ∈ requests, earlier.file = file ∧ ∃ frontendRequest body,
      served.resourceCache file.url = some ⟨body, earlier.version.etag⟩ ∧
      served.renderedFor file = some frontendRequest ∧
      file.transformer tokenUrl frontendRequest earlier.version.data = .ok body

variable {requests : List MetadataRequest}

theorem CachedFrom.congr {file : MetadataFile} {after : ServedMetadata}
    (cached : CachedFrom tokenUrl requests served file)
    (sameCache : after.resourceCache file.url = served.resourceCache file.url)
    (sameRequest : after.renderedFor file = served.renderedFor file) :
    CachedFrom tokenUrl (requests ++ [request]) after file := by
  rcases cached with ⟨missing, unrendered⟩ | ⟨earlier, inside, same, frontendRequest, body, held,
    rendering, rendered⟩
  · exact Or.inl ⟨sameCache.trans missing, sameRequest.trans unrendered⟩
  · exact Or.inr ⟨earlier, List.mem_append_left _ inside, same, frontendRequest, body,
      sameCache.trans held, sameRequest.trans rendering, rendered⟩

/-- The current template, rendered for the cached request, is what is cached. -/
theorem CachedFrom.renderedForCached (honest : HonestUpstream (requests ++ [request]))
    (cached : CachedFrom tokenUrl requests served request.file)
    (answered : request.answered served = .noChanges) :
    request.renderedForCached tokenUrl served =
      .ok ((served.resourceCache request.file.url).getD ⟨.string "", some ""⟩).body := by
  unfold MetadataRequest.renderedForCached
  rcases cached with ⟨missing, unrendered⟩ | ⟨earlier, inside, same, frontendRequest, body, held,
    rendering, rendered⟩
  · rw [missing, unrendered]
    rfl
  · have answers := honest.answers request (by simp) earlier.version.etag
    have sent : request.answer earlier.version.etag = .noChanges := by
      unfold MetadataRequest.answered at answered
      rw [held] at answered
      exact answered
    rw [sent] at answers
    have sameData := honest.identified earlier (by simp [inside]) request (by simp) same
      answers.1 answers.2
    rw [held, rendering, ← sameData]
    exact rendered

/-- As long as the cache is filled from the requests before, the condition decides whether a request
is served transparently. -/
theorem servedTransparently_iff (honest : HonestUpstream (requests ++ [request]))
    (cached : CachedFrom tokenUrl requests served request.file) :
    ServedTransparently tokenUrl served request ↔ SharesRendering tokenUrl served request := by
  have current := honest.answers request (by simp)
    ((served.resourceCache request.file.url).getD ⟨.string "", some ""⟩).etag
  change request.version.Answers _ (request.answered served) at current
  cases answered : request.answered served with
  | failure =>
      have transparent : ServedTransparently tokenUrl served request := by
        unfold ServedTransparently
        rw [serve_failure answered]
        exact ⟨fun success => absurd success metadataFailure_status, fun _ => rfl⟩
      apply iff_of_true transparent
      constructor
      · intro other
        rw [answered] at other
        cases other
      · intro data etag error resource other
        rw [answered] at other
        cases other
  | noChanges =>
      have body := cached.renderedForCached honest answered
      constructor
      · rintro ⟨success, -⟩
        rw [serve_noChanges answered] at success
        obtain ⟨shown, rendered, same⟩ := success rfl
        constructor
        · intro _
          rw [body, rendered]
          exact congrArg Except.ok (Option.some.inj same)
        · intro data etag error resource other
          rw [answered] at other
          cases other
      · intro shares
        have same := body.symm.trans (shares.unchanged answered)
        unfold ServedTransparently
        rw [serve_noChanges answered]
        exact ⟨fun _ => ⟨_, same.symm, rfl⟩, fun _ => rfl⟩
  | newContents data etag =>
      rw [answered] at current
      obtain ⟨rfl, rfl⟩ := current
      cases rendered : request.rendered tokenUrl with
      | ok body =>
          have transparent : ServedTransparently tokenUrl served request := by
            unfold ServedTransparently
            rw [serve_rendered answered rendered]
            exact ⟨fun _ => ⟨body, rendered, rfl⟩, fun failed => absurd rfl failed⟩
          apply iff_of_true transparent
          constructor
          · intro other
            rw [answered] at other
            cases other
          · intro data etag error resource _ failed
            rw [rendered] at failed
            cases failed
      | error error =>
          have kept : (request.serve tokenUrl served).2 = served.resourceCache ↔
              ∀ resource, served.resourceCache request.file.url = some resource →
                resource.etag = request.version.etag := by
            rw [serve_notRendered answered rendered]
            exact update_etag_iff
          have failed : (request.serve tokenUrl served).1.statusCode ≠ 200 := by
            rw [serve_notRendered answered rendered]
            exact metadataFailure_status
          constructor
          · rintro ⟨-, unchanged⟩
            constructor
            · intro other
              rw [answered] at other
              cases other
            · intro data etag error resource other _ held
              rw [answered] at other
              cases other
              exact kept.mp (unchanged failed) resource held
          · intro shares
            refine ⟨fun success => absurd success failed, fun _ => kept.mpr ?_⟩
            exact fun resource held => shares.changed answered rendered held

/-- A request that is served transparently leaves a cache that is filled from the requests. -/
theorem CachedFrom.after (honest : HonestUpstream (requests ++ [request]))
    (cached : ∀ file, CachedFrom tokenUrl requests served file)
    (transparent : ServedTransparently tokenUrl served request) (file : MetadataFile) :
    CachedFrom tokenUrl (requests ++ [request]) (request.after tokenUrl served) file := by
  have current := honest.answers request (by simp)
    ((served.resourceCache request.file.url).getD ⟨.string "", some ""⟩).etag
  change request.version.Answers _ (request.answered served) at current
  have unchanged (sameCache : (request.serve tokenUrl served).2 = served.resourceCache)
      (unrendered : ∀ data etag body, request.answered served = .newContents data etag →
        request.rendered tokenUrl ≠ .ok body) :
      CachedFrom tokenUrl (requests ++ [request]) (request.after tokenUrl served) file := by
    apply (cached file).congr
    · exact congrFun sameCache file.url
    · exact congrFun (after_unrendered unrendered) file
  cases answered : request.answered served with
  | failure =>
      apply unchanged
      · rw [serve_failure answered]
      · intro data etag body other
        rw [answered] at other
        cases other
  | noChanges =>
      apply unchanged
      · rw [serve_noChanges answered]
      · intro data etag body other
        rw [answered] at other
        cases other
  | newContents data etag =>
      rw [answered] at current
      obtain ⟨rfl, rfl⟩ := current
      cases rendered : request.rendered tokenUrl with
      | error error =>
          apply unchanged
          · apply transparent.2
            rw [serve_notRendered answered rendered]
            exact metadataFailure_status
          · intro data etag body _ other
            rw [rendered] at other
            cases other
      | ok body =>
          have cache : (request.after tokenUrl served).resourceCache =
              Function.update served.resourceCache request.file.url
                (some ⟨body, request.version.etag⟩) := by
            change (request.serve tokenUrl served).2 = _
            rw [serve_rendered answered rendered]
          have requesters : (request.after tokenUrl served).renderedFor =
              Function.update served.renderedFor request.file (some request.frontendRequest) := by
            unfold MetadataRequest.after
            rw [answered, rendered]
          by_cases same : file = request.file
          · subst same
            refine Or.inr ⟨request, by simp, rfl, request.frontendRequest, body, ?_, ?_, rendered⟩
            · rw [cache, Function.update_self]
            · rw [requesters, Function.update_self]
          · apply (cached file).congr
            · rw [cache, Function.update_of_ne]
              exact fun sameUrl => same (MetadataFile.url_injective _ _ sameUrl)
            · rw [requesters, Function.update_of_ne same]

end Steps

section Runs
variable {tokenUrl : String} {requests : List MetadataRequest}

theorem servedAfter_append_singleton {request : MetadataRequest} :
    servedAfter tokenUrl (requests ++ [request]) =
      request.after tokenUrl (servedAfter tokenUrl requests) := by
  unfold servedAfter
  rw [List.foldl_append]
  rfl

theorem HonestUpstream.leading {before : List MetadataRequest} (honest : HonestUpstream requests)
    (leading : before <+: requests) : HonestUpstream before :=
  ⟨fun request inside => honest.answers request (leading.subset inside),
    fun first firstIn second secondIn =>
      honest.identified first (leading.subset firstIn) second (leading.subset secondIn)⟩

/-- From an empty cache, all requests are served transparently exactly when each of them meets the
condition. -/
theorem metadata_transparent_iff (tokenUrl : String) (requests : List MetadataRequest)
    (honest : HonestUpstream requests) :
    Along (fun earlier => ServedTransparently tokenUrl (servedAfter tokenUrl earlier)) requests ↔
      Along (fun earlier => SharesRendering tokenUrl (servedAfter tokenUrl earlier)) requests := by
  apply @along_congr _ _ _ _ fun earlier =>
    ∀ file, CachedFrom tokenUrl earlier (servedAfter tokenUrl earlier) file
  · exact fun file => Or.inl ⟨rfl, rfl⟩
  · intro earlier request inside cached
    exact servedTransparently_iff (honest.leading inside) (cached request.file)
  · intro earlier request inside cached transparent
    rw [servedAfter_append_singleton]
    exact CachedFrom.after (honest.leading inside) cached transparent

end Runs

section Examples

/-- An upstream that sends its contents unless their etag was sent. -/
def FileVersion.answerTo (version : FileVersion) (sent : Option String) : UpstreamAnswer :=
  if sent.isSome ∧ sent = version.etag then .noChanges
  else .newContents version.data version.etag

theorem FileVersion.answers_answerTo (version : FileVersion) (sent : Option String) :
    version.Answers sent (version.answerTo sent) := by
  unfold answerTo
  split
  · assumption
  · exact ⟨rfl, rfl⟩

private def hostTemplate : FileVersion := ⟨.string "https://{{ host }}", some "first"⟩

/-- The second version of the file is no text. -/
private def brokenTemplate : FileVersion := ⟨.object [], some "second"⟩

private def swaggerRequest (host : String) (version : FileVersion) : MetadataRequest where
  file := .swaggerResource
  frontendRequest := { newFrontendRequest with headers := [("Host", host)], stage := "local" }
  version := version
  answer := version.answerTo

private def twoHosts : List MetadataRequest :=
  [swaggerRequest "one.org" hostTemplate, swaggerRequest "two.org" hostTemplate]

private def oneHost : List MetadataRequest :=
  [swaggerRequest "one.org" hostTemplate, swaggerRequest "one.org" hostTemplate]

private def brokenRendering : List MetadataRequest :=
  [swaggerRequest "one.org" hostTemplate, swaggerRequest "one.org" brokenTemplate]

private theorem honest_swaggerRequests {requests : List MetadataRequest}
    (known : ∀ request ∈ requests, ∃ host, ∃ version ∈ [hostTemplate, brokenTemplate],
      request = swaggerRequest host version) : HonestUpstream requests := by
  constructor
  · intro request inside sent
    obtain ⟨host, version, -, rfl⟩ := known request inside
    exact version.answers_answerTo sent
  · intro first firstIn second secondIn _ _ sameEtag
    obtain ⟨host, version, listed, rfl⟩ := known first firstIn
    obtain ⟨otherHost, other, otherListed, rfl⟩ := known second secondIn
    change version.etag = other.etag at sameEtag
    change version.data = other.data
    simp only [List.mem_cons, List.not_mem_nil, or_false] at listed otherListed
    rcases listed with rfl | rfl <;> rcases otherListed with rfl | rfl
    · rfl
    · exact absurd sameEtag (by decide)
    · exact absurd sameEtag (by decide)
    · rfl

private theorem honest_twoHosts : HonestUpstream twoHosts := by
  apply honest_swaggerRequests
  intro request inside
  simp only [twoHosts, List.mem_cons, List.not_mem_nil, or_false] at inside
  rcases inside with rfl | rfl
  · exact ⟨_, hostTemplate, by simp, rfl⟩
  · exact ⟨_, hostTemplate, by simp, rfl⟩

private theorem honest_oneHost : HonestUpstream oneHost := by
  apply honest_swaggerRequests
  intro request inside
  simp only [oneHost, List.mem_cons, List.not_mem_nil, or_false, or_self] at inside
  exact ⟨_, hostTemplate, by simp, inside⟩

private theorem honest_brokenRendering : HonestUpstream brokenRendering := by
  apply honest_swaggerRequests
  intro request inside
  simp only [brokenRendering, List.mem_cons, List.not_mem_nil, or_false] at inside
  rcases inside with rfl | rfl
  · exact ⟨_, hostTemplate, by simp, rfl⟩
  · exact ⟨_, brokenTemplate, by simp, rfl⟩

/-- The second host is served the template that was rendered for the first one. A rendering that
fails leaves its etag with the body before it. -/
theorem cached_rendering_shared :
    (HonestUpstream twoHosts ∧
      ¬ Along (fun earlier => ServedTransparently "" (servedAfter "" earlier)) twoHosts) ∧
    (HonestUpstream brokenRendering ∧
      ¬ Along (fun earlier => ServedTransparently "" (servedAfter "" earlier)) brokenRendering) := by
  refine ⟨⟨honest_twoHosts, fun along => ?_⟩, honest_brokenRendering, fun along => ?_⟩
  · obtain ⟨shown, -⟩ := along [swaggerRequest "one.org" hostTemplate]
      (swaggerRequest "two.org" hostTemplate) List.prefix_rfl
    obtain ⟨body, rendered, same⟩ := shown (by decide +kernel)
    have current : ((swaggerRequest "two.org" hostTemplate).rendered "").toOption =
        some (.string "https://two.org") := by decide +kernel
    have served : ((swaggerRequest "two.org" hostTemplate).serve ""
        (servedAfter "" [swaggerRequest "one.org" hostTemplate])).1.body =
        some (.string "https://one.org") := by decide +kernel
    rw [rendered] at current
    rw [served] at same
    exact absurd (same.trans current) (by decide)
  · obtain ⟨-, kept⟩ := along [swaggerRequest "one.org" hostTemplate]
      (swaggerRequest "one.org" brokenTemplate) List.prefix_rfl
    have unchanged := congrFun (kept (by decide +kernel)) MetadataFile.swaggerResource.url
    have changed : ((swaggerRequest "one.org" brokenTemplate).serve ""
          (servedAfter "" [swaggerRequest "one.org" hostTemplate])).2
            MetadataFile.swaggerResource.url ≠
        (servedAfter "" [swaggerRequest "one.org" hostTemplate]).resourceCache
            MetadataFile.swaggerResource.url := by decide +kernel
    exact changed unchanged

private theorem repeated_unchanged :
    (swaggerRequest "one.org" hostTemplate).answered
      (servedAfter "" [swaggerRequest "one.org" hostTemplate]) = .noChanges := by decide +kernel

private theorem oneHost_sharesRendering :
    Along (fun earlier => SharesRendering "" (servedAfter "" earlier)) oneHost := by
  have rendered : (swaggerRequest "one.org" hostTemplate).rendered "" =
      .ok (.string "https://one.org") := by decide +kernel
  have first : SharesRendering "" (servedAfter "" []) (swaggerRequest "one.org" hostTemplate) := by
    constructor
    · intro answered
      exact absurd answered (by decide +kernel)
    · intro data etag error resource answered failed
      rw [rendered] at failed
      cases failed
  have second : SharesRendering "" (servedAfter "" [swaggerRequest "one.org" hostTemplate])
      (swaggerRequest "one.org" hostTemplate) := by
    constructor
    · intro answered
      decide +kernel
    · intro data etag error resource answered failed
      rw [rendered] at failed
      cases failed
  have start : Along (fun earlier => SharesRendering "" (servedAfter "" earlier))
      ([] ++ [swaggerRequest "one.org" hostTemplate]) :=
    along_append_singleton.mpr ⟨along_nil, first⟩
  exact along_append_singleton.mpr ⟨start, second⟩

/-- A host that asks twice is served transparently from the cache. -/
theorem metadata_transparent_hosts :
    (HonestUpstream oneHost ∧
      (swaggerRequest "one.org" hostTemplate).answered
        (servedAfter "" [swaggerRequest "one.org" hostTemplate]) = .noChanges ∧
      Along (fun earlier => ServedTransparently "" (servedAfter "" earlier)) oneHost) ∧
    (HonestUpstream twoHosts ∧
      (Along (fun earlier => ServedTransparently "" (servedAfter "" earlier)) twoHosts ↔
        Along (fun earlier => SharesRendering "" (servedAfter "" earlier)) twoHosts)) :=
  ⟨⟨honest_oneHost, repeated_unchanged,
      (metadata_transparent_iff "" oneHost honest_oneHost).mpr oneHost_sharesRendering⟩,
    honest_twoHosts, metadata_transparent_iff "" twoHosts honest_twoHosts⟩

end Examples
end Meadowlark.Core
