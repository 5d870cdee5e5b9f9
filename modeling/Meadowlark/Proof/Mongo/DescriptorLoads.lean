import Meadowlark.Proof.Core.DescriptorLoader
import Meadowlark.Proof.Mongo.Requests
import Meadowlark.Proof.Mongo.AllOrNothing

namespace Meadowlark.Mongo
open Meadowlark.Core Systems

section Upserts
variable [NodeRuntime] {store : Store} {generated : GeneratedUuids} {supply : Nat → GeneratedUuids}

omit [NodeRuntime] in
/-- A search by id sees the document that has been put under it. -/
theorem findDocument_id_put (document : MeadowlarkDocument) (id : MeadowlarkId) :
    findDocument (store.put (.document document)) (.id id) =
      if document.id = id then some document else findDocument store (.id id) := by
  by_cases same : document.id = id
  · rw [if_pos same]
    exact findDocument_id_eq ((mem_documents_put _ _ _).mpr (Or.inr rfl)) same
  · rw [if_neg same]
    cases found : findDocument store (.id id) with
    | some existing =>
        obtain ⟨stored, named⟩ := findDocument_id found
        have apart : existing.id ≠ document.id := fun equal => same (equal.symm.trans named)
        exact findDocument_id_eq ((mem_documents_put _ _ _).mpr (Or.inl ⟨stored, apart⟩)) named
    | none =>
        cases after : findDocument (store.put (.document document)) (.id id) with
        | none => rfl
        | some other =>
            obtain ⟨inside, named⟩ := findDocument_id after
            rcases (mem_documents_put _ _ _).mp inside with ⟨stored, -⟩ | rfl
            · rw [findDocument_id_eq stored named] at found
              cases found
            · exact absurd named same

/-- A store without locks in which no document is older than the epoch. -/
structure FromEpoch (store : Store) : Prop where
  unlocked : Unlocked store
  current : ∀ document ∈ documents store, 0 ≤ document.lastModifiedAt

omit [NodeRuntime] in
theorem fromEpoch_empty : FromEpoch Database.empty where
  unlocked _ := List.not_mem_nil
  current _ inside := absurd inside List.not_mem_nil

omit [NodeRuntime] in
/-- No document holds an alias out of none. -/
theorem findDocuments_unreferenced (store : Store) :
    findDocuments store (.aliasMeadowlarkIds []) = [] := by
  apply List.filter_eq_nil_iff.mpr
  intro document _
  simp [Filter.matches]

/-- The document that a load inserts for an entry. -/
def loadedDocument (entry : DescriptorEntry) (documentUuid : DocumentUuid) : MeadowlarkDocument :=
  documentFromUpsert entry.request documentUuid none

/-- A load inserts an entry, but it never replaces a document: its requests carry the time 0. -/
theorem upsertDocument_entry (fromEpoch : FromEpoch store) (entry : DescriptorEntry) :
    ∃ result, upsertDocument generated entry.request store =
      (.ok result, match findDocument store (.id entry.request.meadowlarkId) with
        | some _ => store
        | none => store.put (.document (loadedDocument entry generated.first))) := by
  cases found : findDocument store (.id entry.request.meadowlarkId) with
  | some existing =>
      have stale := fromEpoch.current existing (findDocument_id found).1
      exact ⟨_, upsertDocument_stale found stale⟩
  | none =>
      have unreferenced :
          holderUuids store (loadedDocument entry generated.first).outboundRefs = [] :=
        congrArg (List.map MeadowlarkDocument.documentUuid) (findDocuments_unreferenced store)
      have accepted : UpsertAccepted store store entry.request
          (upsertedUuid store entry.request.meadowlarkId generated.first)
          (documentFromUpsert entry.request generated.first
            (findDocument store (.id entry.request.meadowlarkId))) := by
        unfold upsertedUuid
        rw [found]
        constructor
        · rw [found]
          simp
        · intro _ superclassInfo inside
          cases inside
        · intro _
          show missingFrom store _ [] ++ missingFrom store _ [] = []
          simp [missingFrom, findDocuments_unreferenced]
        · have free : Lockable store
              (holderUuids store (loadedDocument entry generated.first).outboundRefs ++
                [generated.first]) := by
            rw [unreferenced]
            exact ⟨by simp, fun documentUuid _ => fromEpoch.unlocked documentUuid⟩
          exact free
      have done := upsertDocument_accepted accepted
      rw [found] at done
      exact ⟨_, done⟩

theorem upsertDocument_entry_store (fromEpoch : FromEpoch store) (entry : DescriptorEntry) :
    (upsertDocument generated entry.request store).2 =
      match findDocument store (.id entry.request.meadowlarkId) with
      | some _ => store
      | none => store.put (.document (loadedDocument entry generated.first)) := by
  obtain ⟨result, done⟩ := @upsertDocument_entry _ store generated fromEpoch entry
  rw [done]

/-- A load keeps such a store. -/
theorem FromEpoch.entry (fromEpoch : FromEpoch store) (entry : DescriptorEntry) :
    FromEpoch (upsertDocument generated entry.request store).2 := by
  rw [upsertDocument_entry_store fromEpoch]
  cases findDocument store (.id entry.request.meadowlarkId) with
  | some existing => exact fromEpoch
  | none =>
      constructor
      · intro documentUuid inside
        rcases (Database.mem_put _ _ _).mp inside with ⟨old, -⟩ | new
        · exact fromEpoch.unlocked documentUuid old
        · cases new
      · intro document inside
        rcases (mem_documents_put _ _ _).mp inside with ⟨old, -⟩ | rfl
        · exact fromEpoch.current document old
        · exact le_refl 0

/-- What is stored under an id: the earlier document, or the first entry of the load with the id. -/
theorem upsertAll_find (fromEpoch : FromEpoch store) (entries : List DescriptorEntry)
    (id : MeadowlarkId) :
    (findDocument ((suppliedStore documentStore).upsertAll (entries.map (·.request))
        (store, supply)).1 (.id id)).map (·.edfiDoc) =
      ((findDocument store (.id id)).map (·.edfiDoc)).or
        ((entries.find? (·.request.meadowlarkId = id)).map (·.request.edfiDoc)) := by
  induction entries generalizing store supply with
  | nil => simp [DocumentStore.upsertAll]
  | cons entry rest ih =>
      have later := @ih (upsertDocument (supply 0) entry.request store).2 (supply ∘ Nat.succ)
        (fromEpoch.entry entry)
      refine later.trans ?_
      rw [upsertDocument_entry_store fromEpoch]
      cases found : findDocument store (.id entry.request.meadowlarkId) with
      | some existing =>
          by_cases same : entry.request.meadowlarkId = id
          · rw [← same, found]
            rfl
          · rw [List.find?_cons_of_neg (by simpa using same)]
      | none =>
          dsimp only
          rw [findDocument_id_put]
          by_cases same : entry.request.meadowlarkId = id
          · have named : (loadedDocument entry (supply 0).first).id = id := same
            rw [if_pos named, ← same, found, List.find?_cons_of_pos (by simp)]
            rfl
          · have apart : (loadedDocument entry (supply 0).first).id ≠ id := same
            rw [if_neg apart, List.find?_cons_of_neg (by simpa using same)]

end Upserts

section Loads
variable [NodeRuntime] {Memory : Type} {store : Store}

/-- The store after a load of the files, whose upserts take their uuids from the supply. -/
def afterLoad (services : Services Memory) (memory : Memory) (supply : Nat → GeneratedUuids)
    (files : List Json) (store : Store) : Store :=
  ((suppliedStore documentStore).run services (loadDescriptorsFromFile backendFacade files)
    ((store, supply), memory)).2.1.1

/-- The stores that loads of any files reach from the empty one. -/
inductive Loaded : Store → Prop where
  | empty : Loaded Database.empty
  | load {Memory : Type} {store : Store} (services : Services Memory) (memory : Memory)
      (supply : Nat → GeneratedUuids) (files : List Json) (loaded : Loaded store) :
      Loaded (afterLoad services memory supply files store)

/-- One call of a load keeps such a store. -/
theorem fromEpoch_serve (services : Services Memory) (call : Core.Call)
    (world : (Store × (Nat → GeneratedUuids)) × Memory) (loads : Loads call)
    (fromEpoch : FromEpoch world.1.1) :
    FromEpoch (Core.serve (suppliedStore documentStore) services call world).2.1.1 := by
  rcases loads with publishes | ⟨entry, rfl⟩
  · cases call with
    | publish event => exact fromEpoch
    | _ => cases publishes
  · exact fromEpoch.entry entry

/-- Loads only reach such stores, even if a listener ends them. -/
theorem Loaded.fromEpoch (loaded : Loaded store) : FromEpoch store := by
  induction loaded with
  | empty => exact fromEpoch_empty
  | @load Memory store services memory supply files _ fromEpoch =>
      exact @Program.Within.runState_state _ _ _ _ _ (Core.serve (suppliedStore documentStore) services)
        ((store, supply), memory) _ _ (fun world => FromEpoch world.1.1) _
        (confined_loadDescriptorsFromFile files) (fromEpoch_serve services) fromEpoch

/-- The id of `namespace#codeValue` under the name of the descriptor. -/
def entryId (entry : DescriptorEntry) : MeadowlarkId :=
  meadowlarkIdForDocumentIdentity (descriptorResourceInfo entry.descriptorName).toBaseResourceInfo
    [("descriptor", .string (Extraction.templateText (entry.value.field? "Namespace") ++ "#" ++
      Extraction.templateText (entry.value.field? "CodeValue")))]

/-- The fields of an entry under their decapitalized keys. -/
def entryFields (entry : DescriptorEntry) : Json :=
  .object (entry.value.entries.map fun field => (decapitalize field.1, field.2))

/-- The entry is stored under its id with exactly its fields. -/
def StoresEntry (store : Store) (entry : DescriptorEntry) : Prop :=
  (findDocument store (.id (entryId entry))).map (·.edfiDoc) = some (entryFields entry)

/-- Every complete entry of the directory is stored. -/
def StoresDirectory (files : List Json) (store : Store) : Prop :=
  ∀ entry ∈ directoryEntries files, entry.Complete → StoresEntry store entry

/-- The first loaded entry with the id has the fields of the entry. -/
def LeadsLoad (files : List Json) (entry : DescriptorEntry) : Prop :=
  ∃ first, (loadedEntries files).find? (·.request.meadowlarkId = entryId entry) = some first ∧
    first.request.edfiDoc = entryFields entry

/-- From such a store the upserts of a load do not throw. -/
theorem documentStore_answers :
    (suppliedStore documentStore).Answers fun world => FromEpoch world.1 where
  answers world fromEpoch entry := by
    obtain ⟨result, done⟩ := @upsertDocument_entry _ world.1 (world.2 0) fromEpoch entry
    exact ⟨result, serveCall_ok.mpr (congrArg Prod.fst done)⟩
  keeps _ fromEpoch entry := fromEpoch.entry entry

/-- After a load the directory is stored exactly when each of its entries was stored before, or its
id was free and the first loaded entry with the id has its fields. -/
theorem load_storesDirectory_iff (loaded : Loaded store) {services : Services Memory}
    (hears : services.Hears) (memory : Memory) (supply : Nat → GeneratedUuids) (files : List Json) :
    StoresDirectory files (afterLoad services memory supply files store) ↔
      ∀ entry ∈ directoryEntries files, entry.Complete →
        StoresEntry store entry ∨
          (findDocument store (.id (entryId entry)) = none ∧ LeadsLoad files entry) := by
  have ran := @run_loadDescriptorsFromFile _ _ _ (suppliedStore documentStore) services
    (store, supply) memory _ hears documentStore_answers loaded.fromEpoch files
  unfold StoresDirectory afterLoad
  rw [ran]
  refine forall_congr' fun entry => forall_congr' fun _ => forall_congr' fun _ => ?_
  unfold StoresEntry LeadsLoad
  rw [upsertAll_find loaded.fromEpoch]
  cases found : findDocument store (.id (entryId entry)) with
  | some existing => simp
  | none => simp

end Loads

section Sample
open Core.Sample

private def country (codeValue description : String) : Json :=
  .object [("CodeValue", .string codeValue), ("ShortDescription", .string codeValue),
    ("Description", .string description), ("Namespace", .string "uri://ed-fi.org/CountryDescriptor")]

/-- A file with one country in the form in which it is parsed. -/
private def countryFile (codeValue description : String) : Json :=
  .object [("InterchangeDescriptors", .object
    [("$", .object [("xmlns", .string "http://ed-fi.org/0330")]),
      ("CountryDescriptor", country codeValue description)])]

private def supplied (call : Nat) : GeneratedUuids := ⟨⟨toString call⟩, []⟩

private def loadFrom (store : Store) (files : List Json) : Store :=
  @afterLoad runtime _ services 0 supplied files store

private def storedCountry (store : Store) (codeValue : String) : Option Json :=
  (findDocument store (.id (@entryId runtime ⟨"CountryDescriptor", country codeValue ""⟩))).map
    (·.edfiDoc)

private def firstLoad : Store := loadFrom Database.empty [countryFile "DE" "Germany"]

example : storedCountry firstLoad "DE" =
    some (.object [("codeValue", .string "DE"), ("shortDescription", .string "DE"),
      ("description", .string "Germany"),
      ("namespace", .string "uri://ed-fi.org/CountryDescriptor")]) := by decide +kernel

private theorem complete_country (codeValue description : String) :
    DescriptorEntry.Complete ⟨"CountryDescriptor", country codeValue description⟩ :=
  ⟨(by decide : isDescriptorName "CountryDescriptor" = true), rfl⟩

/-- A second load does not see the edited description, and of a group in two files only the part of
the last file is loaded. -/
theorem edited_load_ignored :
    @Loaded runtime firstLoad ∧
      ¬ @StoresDirectory runtime [countryFile "DE" "Federal Republic of Germany"]
        (loadFrom firstLoad [countryFile "DE" "Federal Republic of Germany"]) ∧
      ¬ @StoresDirectory runtime [countryFile "DE" "Germany", countryFile "FR" "France"]
        (loadFrom Database.empty [countryFile "DE" "Germany", countryFile "FR" "France"]) := by
  refine ⟨@Loaded.load runtime _ _ services 0 supplied _ (@Loaded.empty runtime), fun holds => ?_,
    fun holds => ?_⟩
  · have held := holds ⟨"CountryDescriptor", country "DE" "Federal Republic of Germany"⟩
      List.mem_cons_self (complete_country _ _)
    have missed : storedCountry (loadFrom firstLoad
        [countryFile "DE" "Federal Republic of Germany"]) "DE" ≠ some (@entryFields runtime
          ⟨"CountryDescriptor", country "DE" "Federal Republic of Germany"⟩) := by decide +kernel
    exact missed held
  · have held := holds ⟨"CountryDescriptor", country "DE" "Germany"⟩
      List.mem_cons_self (complete_country _ _)
    have missed : storedCountry (loadFrom Database.empty
        [countryFile "DE" "Germany", countryFile "FR" "France"]) "DE" ≠ some (@entryFields runtime
          ⟨"CountryDescriptor", country "DE" "Germany"⟩) := by decide +kernel
    exact missed held

/-- The first load of a file stores its country. -/
theorem countries_loaded :
    @StoresDirectory runtime [countryFile "DE" "Germany"] firstLoad := by
  refine (@load_storesDirectory_iff runtime _ _ (@Loaded.empty runtime) services (fun _ _ => rfl) 0
    supplied [countryFile "DE" "Germany"]).mpr ?_
  intro entry inside complete
  obtain rfl : entry = ⟨"CountryDescriptor", country "DE" "Germany"⟩ := List.mem_singleton.mp inside
  exact Or.inr ⟨rfl, _, rfl, by decide +kernel⟩

end Sample
end Meadowlark.Mongo
