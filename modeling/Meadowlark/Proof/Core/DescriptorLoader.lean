import Meadowlark.Construction.Core.DescriptorLoader
import Meadowlark.Proof.Core.Outcomes

namespace Meadowlark.Core
open Systems

section Files

/-- A value under the name of its descriptor. -/
structure DescriptorEntry where
  descriptorName : String
  value : Json
  deriving DecidableEq

def entriesOf (groups : List (String × List Json)) : List DescriptorEntry :=
  groups.flatMap fun group => group.2.map (DescriptorEntry.mk group.1)

/-- The groups inside a file, whether or not the file can be read. -/
def fileGroups (parsedContents : Json) : List (String × List Json) :=
  ((parsedContents.field? "InterchangeDescriptors").map groupsFrom).getD []

/-- An element with nothing but text in it. -/
def isText : Json → Bool
  | .string text => text ≠ ""
  | _ => false

/-- Nothing in the file makes the reader throw. -/
def ReadableFile (parsedContents : Json) : Prop :=
  parsedContents ≠ .null ∧ ∀ element ∈ parsedContents.field? "InterchangeDescriptors",
    element ≠ .null ∧ element.field? "hasOwnProperty" = none ∧ isText element = false

instance (parsedContents : Json) : Decidable (ReadableFile parsedContents) :=
  inferInstanceAs (Decidable (_ ∧ _))

theorem readDescriptorFile_readable {parsedContents : Json} (readable : ReadableFile parsedContents) :
    readDescriptorFile parsedContents = .ok (fileGroups parsedContents) := by
  obtain ⟨present, elements⟩ := readable
  unfold readDescriptorFile fileGroups
  rw [if_neg present]
  cases found : parsedContents.field? "InterchangeDescriptors" with
  | none => rfl
  | some element =>
      obtain ⟨filled, own, untexted⟩ := elements element found
      cases element with
      | null => exact absurd rfl filled
      | string text =>
          obtain rfl : text = "" := by simpa [isText] using untexted
          rfl
      | _ =>
          dsimp only
          rw [own]
          rfl

theorem readDescriptorFile_unreadable {parsedContents : Json}
    (unreadable : ¬ ReadableFile parsedContents) :
    ∃ error, readDescriptorFile parsedContents = .error error := by
  unfold readDescriptorFile
  by_cases absent : parsedContents = .null
  · rw [if_pos absent]
    exact ⟨_, rfl⟩
  · rw [if_neg absent]
    cases found : parsedContents.field? "InterchangeDescriptors" with
    | none =>
        refine absurd ⟨absent, ?_⟩ unreadable
        rw [found]
        simp
    | some element =>
        have hidden (plain : element ≠ .null) (untexted : isText element = false) :
            (element.field? "hasOwnProperty").isSome := by
          by_contra own
          refine unreadable ⟨absent, ?_⟩
          rw [found]
          rintro _ ⟨⟩
          exact ⟨plain, Option.not_isSome_iff_eq_none.mp own, untexted⟩
        cases element with
        | null => exact ⟨_, rfl⟩
        | string text =>
            dsimp only
            by_cases empty : text = ""
            · refine absurd ⟨absent, ?_⟩ unreadable
              rw [found, empty]
              rintro _ ⟨⟩
              exact ⟨nofun, rfl, rfl⟩
            · rw [if_neg empty]
              exact ⟨_, rfl⟩
        | _ =>
            dsimp only
            rw [if_pos (hidden nofun rfl)]
            exact ⟨_, rfl⟩

/-- The groups of readable files are merged, and the last group of a name remains. -/
theorem readDescriptors_readable {files : List Json}
    (readable : ∀ parsedContents ∈ files, ReadableFile parsedContents) :
    readDescriptors files = .ok (Mapping.empty.setAll (files.flatMap fileGroups)) := by
  have merged : ∀ result : XmlDescriptorData,
      files.foldlM (fun result parsedContents => do
          let groups ← readDescriptorFile parsedContents
          pure (result.setAll groups)) result =
        (.ok (result.setAll (files.flatMap fileGroups)) : Except Exception XmlDescriptorData) := by
    induction files with
    | nil => exact fun result => rfl
    | cons parsedContents rest ih =>
        intro result
        have first := readDescriptorFile_readable (readable parsedContents List.mem_cons_self)
        have later := ih (fun other inside => readable other (List.mem_cons_of_mem _ inside))
          (result.setAll (fileGroups parsedContents))
        rw [List.foldlM_cons, first]
        refine later.trans (congrArg Except.ok ?_)
        rw [List.flatMap_cons]
        unfold Mapping.setAll
        rw [List.foldl_append]
  exact merged Mapping.empty

theorem readDescriptors_unreadable {files : List Json}
    (unreadable : ¬ ∀ parsedContents ∈ files, ReadableFile parsedContents) :
    ∃ error, readDescriptors files = .error error := by
  have throws : ∀ result : XmlDescriptorData, ∃ error,
      files.foldlM (fun result parsedContents => do
          let groups ← readDescriptorFile parsedContents
          pure (result.setAll groups)) result =
        (.error error : Except Exception XmlDescriptorData) := by
    induction files with
    | nil => exact absurd (by simp) unreadable
    | cons parsedContents rest ih =>
        intro result
        rw [List.foldlM_cons]
        by_cases first : ReadableFile parsedContents
        · rw [readDescriptorFile_readable first]
          refine ih (fun later => unreadable fun other inside => ?_) _
          rcases List.mem_cons.mp inside with rfl | inside
          · exact first
          · exact later other inside
        · obtain ⟨error, thrown⟩ := readDescriptorFile_unreadable first
          rw [thrown]
          exact ⟨error, rfl⟩
  exact throws Mapping.empty

/-- Every entry that a directory contains. -/
def directoryEntries (files : List Json) : List DescriptorEntry :=
  entriesOf (files.flatMap fileGroups)

/-- The entry is under the name of a descriptor and has the four properties. -/
def DescriptorEntry.Complete (entry : DescriptorEntry) : Prop :=
  isDescriptorName entry.descriptorName = true ∧ hasDescriptorProperties entry.value = true

/-- The entries of the last group under each name, as far as no value is null. -/
def remainingEntries (groups : List (String × List Json)) : List DescriptorEntry :=
  (((entriesOf (Mapping.empty.setAll groups).entries).filter
    (isDescriptorName ·.descriptorName)).takeWhile (·.value ≠ .null)).filter
      (hasDescriptorProperties ·.value)

/-- The entries that are loaded, none of them if a file cannot be read. -/
def loadedEntries (files : List Json) : List DescriptorEntry :=
  if ∀ parsedContents ∈ files, ReadableFile parsedContents then
    remainingEntries (files.flatMap fileGroups)
  else []

end Files

section Loading
variable [NodeRuntime] {Contents Memory : Type} {documentStore : DocumentStore Contents}
  {services : Services Memory} {contents : Contents} {memory : Memory} {kept : Contents → Prop}

/-- No listener throws. -/
def Services.Hears (services : Services Memory) : Prop :=
  ∀ event memory, (services.answer (.publish event) memory).1 = .ok ()

def DescriptorEntry.request (entry : DescriptorEntry) : UpsertRequest :=
  descriptorRequestFrom entry.descriptorName entry.value

/-- The upserts of a load do not throw, and they keep the kind of contents that this depends on. -/
structure DocumentStore.Answers (documentStore : DocumentStore Contents) (kept : Contents → Prop) :
    Prop where
  answers : ∀ contents, kept contents → ∀ entry : DescriptorEntry,
    ∃ result, (documentStore.upsertDocument entry.request contents).1 = .ok result
  keeps : ∀ contents, kept contents → ∀ entry : DescriptorEntry,
    kept (documentStore.upsertDocument entry.request contents).2

omit [NodeRuntime] in
/-- The upserts of a list, one after another. -/
def DocumentStore.upsertAll (documentStore : DocumentStore Contents) (requests : List UpsertRequest)
    (contents : Contents) : Contents :=
  requests.foldl (fun contents request => (documentStore.upsertDocument request contents).2) contents

/-- The two loops run over the entries of the groups. -/
theorem loadParsedDescriptors_eq (plugin : DocumentStorePlugin) (descriptorData : XmlDescriptorData) :
    loadParsedDescriptors plugin descriptorData =
      forM ((entriesOf descriptorData.entries).filter (isDescriptorName ·.descriptorName))
        fun entry => loadDescriptorReference plugin entry.descriptorName entry.value := by
  unfold loadParsedDescriptors
  generalize descriptorData.entries = groups
  induction groups with
  | nil => rfl
  | cons group rest ih =>
      have split : entriesOf (group :: rest) =
          group.2.map (DescriptorEntry.mk group.1) ++ entriesOf rest := rfl
      rw [List.forM_cons, ih, split, List.filter_append, List.forM_append]
      congr 1
      by_cases named : isDescriptorName group.1 = true
      · have kept : (group.2.map (DescriptorEntry.mk group.1)).filter
            (isDescriptorName ·.descriptorName) = group.2.map (DescriptorEntry.mk group.1) := by
          apply List.filter_eq_self.mpr
          intro entry inside
          obtain ⟨value, -, rfl⟩ := List.mem_map.mp inside
          exact named
        rw [if_pos named, kept, List.forM_map]
      · have dropped : (group.2.map (DescriptorEntry.mk group.1)).filter
            (isDescriptorName ·.descriptorName) = [] := by
          apply List.filter_eq_nil_iff.mpr
          intro entry inside
          obtain ⟨value, -, rfl⟩ := List.mem_map.mp inside
          exact named
        rw [if_neg named, dropped, List.forM_nil]

/-- A complete entry is announced, stored and reported. -/
theorem run_loadDescriptorReference (hears : services.Hears)
    (answers : documentStore.Answers kept) (start : kept contents) {entry : DescriptorEntry} (present : entry.value ≠ .null)
    (complete : hasDescriptorProperties entry.value = true) :
    ∃ following, documentStore.run services
        (loadDescriptorReference backendFacade entry.descriptorName entry.value)
        (contents, memory) =
      (.ok (), ((documentStore.upsertDocument entry.request contents).2, following)) := by
  have published (event : ListenerEvent) (contents : Contents) (memory : Memory) :
      Program.runState (serve documentStore services) (perform (.publish event)) (contents, memory) =
        (.ok (), (contents, (services.answer (.publish event) memory).2)) := by
    rw [EntryPoint.runState_perform]
    unfold serve
    dsimp only
    rw [hears event memory]
  obtain ⟨result, answered⟩ := answers.answers contents start entry
  have upserted (memory : Memory) : Program.runState (serve documentStore services)
      (backendFacade.upsertDocument entry.request) (contents, memory) =
        (.ok result, ((documentStore.upsertDocument entry.request contents).2, memory)) := by
    show ((documentStore.upsertDocument entry.request contents).1, _) = _
    rw [answered]
  have request : descriptorRequestFrom entry.descriptorName entry.value = entry.request := rfl
  unfold DocumentStore.run loadDescriptorReference
  rw [if_neg present, if_pos complete, request, Program.runState_bind_ok (published _ _ _),
    Program.runState_bind_ok (upserted _), published]
  exact ⟨_, rfl⟩

/-- The entries up to the first null value are loaded one after another. -/
theorem run_entries (hears : services.Hears) (answers : documentStore.Answers kept)
    (start : kept contents) (entries : List DescriptorEntry) :
    (documentStore.run services (forM entries fun entry =>
        loadDescriptorReference backendFacade entry.descriptorName entry.value)
        (contents, memory)).2.1 =
      documentStore.upsertAll (((entries.takeWhile (·.value ≠ .null)).filter
        (hasDescriptorProperties ·.value)).map (·.request)) contents := by
  induction entries generalizing contents memory with
  | nil => rfl
  | cons entry rest ih =>
      rw [List.forM_cons]
      unfold DocumentStore.run at ih ⊢
      by_cases absent : entry.value = .null
      · have thrown : loadDescriptorReference backendFacade entry.descriptorName entry.value =
            throw (typeError "Cannot convert undefined or null to object") := if_pos absent
        rw [thrown, List.takeWhile_cons_of_neg (by simpa using absent)]
        rfl
      · rw [List.takeWhile_cons_of_pos (by simpa using absent)]
        by_cases complete : hasDescriptorProperties entry.value = true
        · obtain ⟨following, loaded⟩ := @run_loadDescriptorReference _ _ _ _ _ contents memory _
            hears answers start entry absent complete
          rw [List.filter_cons_of_pos (by exact complete), Program.runState_bind_ok loaded,
            ih (answers.keeps contents start entry)]
          rfl
        · have skipped : loadDescriptorReference backendFacade entry.descriptorName entry.value =
              pure () := by
            unfold loadDescriptorReference
            rw [if_neg absent, if_neg complete]
          rw [List.filter_cons_of_neg (by exact complete), skipped, pure_bind, ih start]

/-- A load upserts the loaded entries and does nothing else to the document store. -/
theorem run_loadDescriptorsFromFile (hears : services.Hears)
    (answers : documentStore.Answers kept) (start : kept contents) (files : List Json) :
    (documentStore.run services (loadDescriptorsFromFile backendFacade files)
        (contents, memory)).2.1 =
      documentStore.upsertAll ((loadedEntries files).map (·.request)) contents := by
  unfold loadDescriptorsFromFile loadedEntries
  by_cases readable : ∀ parsedContents ∈ files, ReadableFile parsedContents
  · rw [if_pos readable, readDescriptors_readable readable]
    have loaded := @run_entries _ _ _ _ _ contents memory _ hears answers start
      ((entriesOf (Mapping.empty.setAll (files.flatMap fileGroups)).entries).filter
        (isDescriptorName ·.descriptorName))
    rw [← loadParsedDescriptors_eq] at loaded
    exact loaded
  · obtain ⟨error, thrown⟩ := readDescriptors_unreadable readable
    rw [if_neg readable, thrown]
    rfl

/-- The calls of a load: it upserts entries and publishes that it does. -/
def Loads (call : Call) : Prop :=
  call.publishes = true ∨ ∃ entry : DescriptorEntry, call = .upsertDocument entry.request

theorem confined_loadDescriptorReference (entry : DescriptorEntry) :
    Program.Confined Loads (fun _ => True)
      (loadDescriptorReference backendFacade entry.descriptorName entry.value) := by
  unfold loadDescriptorReference
  split
  · exact trivial
  · split
    · apply Program.Confined.bind (confined_perform (Or.inl rfl))
      intro heard _
      apply Program.Confined.bind (confined_perform (Or.inr ⟨entry, rfl⟩))
      intro upsertResult _
      exact confined_perform (Or.inl rfl)
    · exact Program.confined_pure trivial

/-- A load makes no other calls. -/
theorem confined_loadDescriptorsFromFile (files : List Json) :
    Program.Confined Loads (fun _ => True) (loadDescriptorsFromFile backendFacade files) := by
  unfold loadDescriptorsFromFile
  apply Program.Confined.bind (confined_lift fun _ _ => trivial)
  intro data _
  rw [loadParsedDescriptors_eq]
  generalize (entriesOf data.entries).filter (isDescriptorName ·.descriptorName) = entries
  induction entries with
  | nil => exact Program.confined_pure trivial
  | cons entry rest ih =>
      rw [List.forM_cons]
      apply Program.Confined.bind (confined_loadDescriptorReference entry)
      intro loaded _
      exact ih

end Loading
end Meadowlark.Core
