import Meadowlark.Construction.Core.Message

namespace Meadowlark.Core
variable {Document : Type}

/-- Another stored document refers to the document. -/
def ReferencedByOthers (documents : List Document) (refersTo : Document → Document → Prop)
    (document : Document) : Prop :=
  ∃ other ∈ documents, other ≠ document ∧ refersTo other document

/-- A delete of the named document decides by the other documents only. -/
structure DecidesByOthers (documents following : List Document) (named : Document → Prop)
    (refersTo : Document → Document → Prop) (result : DeleteResult) : Prop where
  success : result = .deleteSuccess ↔
    ∃ document ∈ documents, named document ∧ ¬ ReferencedByOthers documents refersTo document
  absent : (∀ document ∈ documents, ¬ named document) → result = .deleteFailureNotExists
  referenced : ∀ document ∈ documents, named document →
    ReferencedByOthers documents refersTo document →
      ∃ referringDocumentInfo, result = .deleteFailureReference referringDocumentInfo
  removed : result = .deleteSuccess →
    ∀ document, document ∈ following ↔ document ∈ documents ∧ ¬ named document

/-- The report of a refused delete describes stored documents that refer to the named one. -/
structure ReportsReferrers (documents : List Document)
    (infoFrom : Document → ReferringDocumentInfo) (named : Document → Prop)
    (refersTo : Document → Document → Prop)
    (referringDocumentInfo : List ReferringDocumentInfo) : Prop where
  filled : referringDocumentInfo ≠ []
  few : referringDocumentInfo.length ≤ 5
  real : ∀ info ∈ referringDocumentInfo, ∃ document ∈ documents, info = infoFrom document ∧
    ∃ deleted ∈ documents, named deleted ∧ refersTo document deleted

/-- The report of a conflict describes stored documents that hold the claimed alias. -/
structure ReportsHolders (documents : List Document)
    (infoFrom : Document → ReferringDocumentInfo) (holds : Document → Prop)
    (referringDocumentInfo : List ReferringDocumentInfo) : Prop where
  filled : referringDocumentInfo ≠ []
  real : ∀ info ∈ referringDocumentInfo, ∃ document ∈ documents, info = infoFrom document ∧
    holds document

instance {Document : Type} [DecidableEq Document] (documents : List Document)
    (refersTo : Document → Document → Prop) [DecidableRel refersTo] (document : Document) :
    Decidable (ReferencedByOthers documents refersTo document) :=
  inferInstanceAs (Decidable (∃ other ∈ documents, other ≠ document ∧ refersTo other document))

/-- A report of at most five documents keeps a document that is selected. -/
theorem report_filled {selected : List Document} {infoFrom : Document → ReferringDocumentInfo}
    {document : Document} (inside : document ∈ selected) :
    (selected.take 5).map infoFrom ≠ [] := by
  intro empty
  rw [List.map_eq_nil_iff, List.take_eq_nil_iff] at empty
  rcases empty with zero | none
  · exact absurd zero (by decide)
  · rw [none] at inside
    exact List.not_mem_nil inside

theorem report_few {selected : List Document} {infoFrom : Document → ReferringDocumentInfo} :
    ((selected.take 5).map infoFrom).length ≤ 5 := by
  rw [List.length_map, List.length_take]
  exact Nat.min_le_left _ _

section Decision
variable {documents following : List Document} {named : Document → Prop}
  {refersTo : Document → Document → Prop} {document : Document}
  {referringDocumentInfo : List ReferringDocumentInfo}

/-- The only document with its name. -/
def NamedAlone (documents : List Document) (named : Document → Prop) (document : Document) : Prop :=
  document ∈ documents ∧ named document ∧ ∀ other ∈ documents, named other → other = document

theorem decides_absent (absent : ∀ document ∈ documents, ¬ named document) :
    DecidesByOthers documents following named refersTo .deleteFailureNotExists where
  success := by
    constructor
    · nofun
    · rintro ⟨document, stored, same, -⟩
      exact absurd same (absent document stored)
  absent _ := rfl
  referenced document stored same := absurd same (absent document stored)
  removed := nofun

theorem decides_deleted (alone : NamedAlone documents named document)
    (unreferenced : ¬ ReferencedByOthers documents refersTo document)
    (removed : ∀ other, other ∈ following ↔ other ∈ documents ∧ other ≠ document) :
    DecidesByOthers documents following named refersTo .deleteSuccess where
  success := iff_of_true rfl ⟨document, alone.1, alone.2.1, unreferenced⟩
  absent none := absurd alone.2.1 (none document alone.1)
  referenced other stored same referenced := by
    rw [alone.2.2 other stored same] at referenced
    exact absurd referenced unreferenced
  removed _ other := by
    rw [removed other]
    apply and_congr_right
    intro stored
    constructor
    · intro different same
      exact different (alone.2.2 other stored same)
    · rintro unnamed rfl
      exact unnamed alone.2.1

/-- A refusal is right when another document refers to the named one. -/
theorem decides_refused_iff (alone : NamedAlone documents named document) :
    DecidesByOthers documents following named refersTo
        (.deleteFailureReference referringDocumentInfo) ↔
      ReferencedByOthers documents refersTo document := by
  constructor
  · intro decides
    by_contra unreferenced
    have succeeded := decides.success.mpr ⟨document, alone.1, alone.2.1, unreferenced⟩
    exact absurd succeeded nofun
  · intro referenced
    refine ⟨?_, ?_, ?_, nofun⟩
    · constructor
      · nofun
      · rintro ⟨other, stored, same, unreferenced⟩
        rw [alone.2.2 other stored same] at unreferenced
        exact absurd referenced unreferenced
    · intro none
      exact absurd alone.2.1 (none document alone.1)
    · intro _ _ _ _
      exact ⟨referringDocumentInfo, rfl⟩

end Decision
end Meadowlark.Core
