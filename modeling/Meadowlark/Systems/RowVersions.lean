import Mathlib.Data.List.Pairwise

namespace Meadowlark.Systems
variable {Row Key : Type}

/-- The modes in which a transaction locks the rows that it reads. -/
inductive RowLock where
  | share
  | noKeyUpdate
  deriving DecidableEq

def RowLock.conflicts : RowLock → RowLock → Bool
  | .share, .share => false
  | _, _ => true

/-- A version of a row with the open transactions that wrote, removed or locked it. -/
structure Version (Row : Type) where
  row : Row
  insertedBy : Option Nat
  deletedBy : Option Nat
  lockedBy : List (Nat × RowLock)

namespace Version

/-- A transaction sees the committed rows and its own, except those that it removed. -/
def visible (transaction : Nat) (version : Version Row) : Bool :=
  (version.insertedBy = none || version.insertedBy = some transaction) &&
    version.deletedBy ≠ some transaction

/-- Another open transaction has removed or locked the row. -/
def held (transaction : Nat) (version : Version Row) : Bool :=
  (version.deletedBy ≠ none && version.deletedBy ≠ some transaction) ||
    version.lockedBy.any (·.1 ≠ transaction)

/-- A locking read fails on a row that another transaction removed or locked. -/
def refuses (transaction : Nat) (mode : RowLock) (version : Version Row) : Bool :=
  (version.deletedBy ≠ none && version.deletedBy ≠ some transaction) ||
    version.lockedBy.any fun lock => lock.1 ≠ transaction && mode.conflicts lock.2

def release (transaction : Nat) (version : Version Row) : Version Row :=
  { version with lockedBy := version.lockedBy.filter (·.1 ≠ transaction) }

def remove (transaction : Nat) (selects : Row → Bool) (version : Version Row) :
    Option (Version Row) :=
  if version.visible transaction && selects version.row then
    if version.insertedBy = some transaction then none
    else some { version with deletedBy := some transaction }
  else some version

def lock (transaction : Nat) (mode : RowLock) (selects : Row → Bool) (version : Version Row) :
    Version Row :=
  if version.visible transaction && selects version.row then
    { version with lockedBy := (transaction, mode) :: version.lockedBy }
  else version

def commit (transaction : Nat) (version : Version Row) : Option (Version Row) :=
  if version.deletedBy = some transaction then none
  else if version.insertedBy = some transaction then
    some ({ version with insertedBy := none }.release transaction)
  else some (version.release transaction)

def abort (transaction : Nat) (version : Version Row) : Option (Version Row) :=
  if version.insertedBy = some transaction then none
  else if version.deletedBy = some transaction then
    some ({ version with deletedBy := none }.release transaction)
  else some (version.release transaction)

end Version

/-- A table under read committed isolation.
A statement runs on the versions that are there when it runs. -/
abbrev Versions (Row : Type) := List (Version Row)

namespace Versions

def ofRows (rows : List Row) : Versions Row := rows.map fun row => ⟨row, none, none, []⟩

/-- The rows that the last commits left. -/
def committed (versions : Versions Row) : List Row :=
  (versions.filter (·.insertedBy = none)).map (·.row)

def rows (transaction : Nat) (versions : Versions Row) : List Row :=
  (versions.filter (·.visible transaction)).map (·.row)

/-- The removal waits for a transaction that removed or locked one of the rows. -/
def remove (transaction : Nat) (selects : Row → Bool) (versions : Versions Row) :
    Option (Versions Row) :=
  if versions.any fun version =>
      version.visible transaction && selects version.row && version.held transaction then none
  else some (versions.filterMap (Version.remove transaction selects))

def insert (transaction : Nat) (row : Row) (versions : Versions Row) : Versions Row :=
  versions ++ [⟨row, some transaction, none, []⟩]

/-- A locking read does not wait. -/
def lock (transaction : Nat) (mode : RowLock) (selects : Row → Bool) (versions : Versions Row) :
    Option (Versions Row) :=
  if versions.any fun version =>
      version.visible transaction && selects version.row && version.refuses transaction mode then
    none
  else some (versions.map (Version.lock transaction mode selects))

def commit (transaction : Nat) (versions : Versions Row) : Versions Row :=
  versions.filterMap (Version.commit transaction)

def abort (transaction : Nat) (versions : Versions Row) : Versions Row :=
  versions.filterMap (Version.abort transaction)

/-- What a unique index says about a new row. -/
inductive Uniqueness where
  | free
  | taken
  | undecided
  deriving DecidableEq

/-- A row of another open transaction leaves the index undecided until that transaction ends. -/
def uniqueness (transaction : Nat) (same : Row → Bool) (versions : Versions Row) : Uniqueness :=
  if versions.any fun version =>
      same version.row && version.visible transaction && version.deletedBy = none then .taken
  else if versions.any fun version =>
      same version.row && version.deletedBy ≠ some transaction then .undecided
  else .free

end Versions

section Versions
variable {versions following : Versions Row} {transaction : Nat} {selects : Row → Bool}

namespace Version

theorem remove_some {version removed : Version Row}
    (done : version.remove transaction selects = some removed) :
    removed = version ∨ (version.visible transaction = true ∧ selects version.row = true ∧
      version.insertedBy ≠ some transaction ∧
      removed = { version with deletedBy := some transaction }) := by
  unfold remove at done
  split at done
  · rename_i selected
    obtain ⟨visible, chosen⟩ := Bool.and_eq_true_iff.mp selected
    split at done
    · cases done
    · rename_i foreign
      exact .inr ⟨visible, chosen, foreign, (Option.some.inj done).symm⟩
  · exact .inl (Option.some.inj done).symm

theorem visible_iff {version : Version Row} :
    version.visible transaction = true ↔
      (version.insertedBy = none ∨ version.insertedBy = some transaction) ∧
        version.deletedBy ≠ some transaction := by
  simp [visible]

theorem commit_some {version kept : Version Row} (done : version.commit transaction = some kept) :
    version.deletedBy ≠ some transaction ∧ kept.row = version.row ∧
      kept.deletedBy = version.deletedBy ∧
      kept.insertedBy =
        if version.insertedBy = some transaction then none else version.insertedBy := by
  unfold commit at done
  split at done
  · cases done
  · rename_i kept
    split at done <;> cases done <;> simp_all [release]

theorem abort_some {version kept : Version Row} (done : version.abort transaction = some kept) :
    version.insertedBy ≠ some transaction ∧ kept.row = version.row ∧
      kept.insertedBy = version.insertedBy ∧
      kept.deletedBy = if version.deletedBy = some transaction then none else version.deletedBy := by
  unfold abort at done
  split at done
  · cases done
  · rename_i kept
    split at done <;> cases done <;> simp_all [release]

end Version

namespace Versions

/-- The removed versions carry the mark of the transaction. -/
theorem remove_some (done : versions.remove transaction selects = some following) :
    following = versions.filterMap (Version.remove transaction selects) ∧
      ∀ version ∈ versions, version.visible transaction = true → selects version.row = true →
        version.held transaction = false := by
  unfold remove at done
  split at done
  · cases done
  · rename_i free
    refine ⟨(Option.some.inj done).symm, ?_⟩
    intro version stored visible chosen
    by_contra held
    apply free
    rw [List.any_eq_true]
    exact ⟨version, stored, by simp [visible, chosen, held]⟩

theorem uniqueness_free {same : Row → Bool} (free : versions.uniqueness transaction same = .free)
    {version : Version Row} (stored : version ∈ versions) (conflicting : same version.row = true) :
    version.deletedBy = some transaction := by
  unfold uniqueness at free
  split at free
  · cases free
  · split at free
    · cases free
    · rename_i decided
      by_contra pending
      apply decided
      rw [List.any_eq_true]
      exact ⟨version, stored, by simp [conflicting, pending]⟩

theorem mem_rows {row : Row} (seen : row ∈ versions.rows transaction) :
    ∃ version ∈ versions, version.row = row ∧
      (version.insertedBy = none ∨ version.insertedBy = some transaction) := by
  obtain ⟨version, listed, rfl⟩ := List.mem_map.mp seen
  obtain ⟨stored, visible⟩ := List.mem_filter.mp listed
  exact ⟨version, stored, rfl, (Version.visible_iff.mp visible).1⟩

theorem mem_committed {row : Row} :
    row ∈ versions.committed ↔ ∃ version ∈ versions, version.insertedBy = none ∧
      version.row = row := by
  unfold committed
  simp [and_assoc]

/-- A step that keeps the committed versions keeps the committed rows. -/
theorem committed_filterMap {f : Version Row → Option (Version Row)}
    (kept : ∀ version ∈ versions, version.insertedBy = none →
      ∃ after, f version = some after ∧ after.insertedBy = none ∧ after.row = version.row)
    (pending : ∀ version ∈ versions, ∀ after, f version = some after → version.insertedBy ≠ none →
      after.insertedBy ≠ none) :
    Versions.committed (versions.filterMap f) = versions.committed := by
  induction versions with
  | nil => rfl
  | cons version rest ih =>
      have tail := ih (fun other listed => kept other (List.mem_cons_of_mem _ listed))
        (fun other listed => pending other (List.mem_cons_of_mem _ listed))
      by_cases settled : version.insertedBy = none
      · obtain ⟨after, done, inserted, same⟩ := kept version List.mem_cons_self settled
        rw [List.filterMap_cons_some done]
        unfold committed at tail ⊢
        simp [settled, inserted, same, tail]
      · unfold committed at tail ⊢
        rw [List.filter_cons_of_neg (by simpa using settled), ← tail]
        cases done : f version with
        | none => rw [List.filterMap_cons_none done]
        | some after =>
            have stays := pending version List.mem_cons_self after done settled
            rw [List.filterMap_cons_some done, List.filter_cons_of_neg (by simpa using stays)]

theorem committed_remove (done : versions.remove transaction selects = some following) :
    following.committed = versions.committed := by
  rw [(remove_some done).1]
  apply committed_filterMap
  · intro version _ settled
    unfold Version.remove
    split
    · rw [if_neg (by simp [settled])]
      exact ⟨_, rfl, settled, rfl⟩
    · exact ⟨version, rfl, settled, rfl⟩
  · intro version _ after removed unsettled
    rcases Version.remove_some removed with rfl | ⟨-, -, -, rfl⟩
    · exact unsettled
    · exact unsettled

theorem committed_insert (row : Row) :
    (versions.insert transaction row).committed = versions.committed := by
  unfold committed insert
  simp

theorem committed_abort : (versions.abort transaction).committed = versions.committed := by
  apply committed_filterMap
  · intro version _ settled
    unfold Version.abort
    rw [if_neg (by simp [settled])]
    split
    · exact ⟨_, rfl, settled, rfl⟩
    · exact ⟨_, rfl, settled, rfl⟩
  · intro version _ after done unsettled
    rw [(Version.abort_some done).2.2.1]
    exact unsettled

end Versions

end Versions

section Succession
variable {key : Row → Key} {newer : Row → Row → Prop} {versions following : Versions Row}
  {transaction : Nat} {selects : Row → Bool}

/-- Two versions with one key are the old and the new form in one open transaction. -/
def Replaces (key : Row → Key) (newer : Row → Row → Prop) (old new : Version Row) : Prop :=
  key old.row = key new.row →
    ∃ transaction, old.deletedBy = some transaction ∧ new.insertedBy = some transaction ∧
      newer old.row new.row

/-- Each key has one committed row and at most one open successor of it. -/
structure Ordered (key : Row → Key) (newer : Row → Row → Prop) (versions : Versions Row) :
    Prop where
  succession : versions.Pairwise (Replaces key newer)
  base : ∀ version ∈ versions, version.deletedBy ≠ none → version.insertedBy = none

namespace Ordered

theorem ofRows {rows : List Row} (distinct : (rows.map key).Nodup) :
    Ordered key newer (Versions.ofRows rows) := by
  refine ⟨?_, ?_⟩
  · unfold Versions.ofRows
    rw [List.pairwise_map]
    apply List.Pairwise.imp _ (List.pairwise_map.mp distinct)
    intro first second apart same
    exact absurd same apart
  · intro version stored removed
    obtain ⟨row, -, rfl⟩ := List.mem_map.mp stored
    rfl

theorem related (ordered : Ordered key newer versions) {first second : Version Row}
    (firstStored : first ∈ versions) (secondStored : second ∈ versions)
    (apart : first ≠ second) :
    Replaces key newer first second ∨ Replaces key newer second first := by
  have both : versions.Pairwise fun first second =>
      Replaces key newer first second ∨ Replaces key newer second first :=
    ordered.succession.imp fun replaces => .inl replaces
  have symmetric : Std.Symm fun first second : Version Row =>
      Replaces key newer first second ∨ Replaces key newer second first :=
    ⟨fun _ _ either => either.symm⟩
  exact both.forall firstStored secondStored apart

/-- The key of a committed row names it. -/
theorem committed_unique (ordered : Ordered key newer versions) {first second : Row}
    (firstStored : first ∈ versions.committed) (secondStored : second ∈ versions.committed)
    (same : key first = key second) : first = second := by
  obtain ⟨old, oldStored, oldSettled, rfl⟩ := Versions.mem_committed.mp firstStored
  obtain ⟨new, newStored, newSettled, rfl⟩ := Versions.mem_committed.mp secondStored
  by_contra apart
  have versionsApart : old ≠ new := fun equal => apart (congrArg Version.row equal)
  rcases ordered.related oldStored newStored versionsApart with replaces | replaces
  · obtain ⟨writer, -, inserted, -⟩ := replaces same
    simp [newSettled] at inserted
  · obtain ⟨writer, -, inserted, -⟩ := replaces same.symm
    simp [oldSettled] at inserted

theorem remove (ordered : Ordered key newer versions)
    (done : versions.remove transaction selects = some following) :
    Ordered key newer following := by
  obtain ⟨rfl, free⟩ := Versions.remove_some done
  refine ⟨?_, ?_⟩
  · rw [List.pairwise_filterMap]
    apply ordered.succession.imp_of_mem
    intro old new oldStored newStored replaces oldAfter oldDone newAfter newDone same
    rcases Version.remove_some oldDone with rfl | ⟨visible, chosen, -, rfl⟩
    · rcases Version.remove_some newDone with rfl | ⟨newVisible, -, foreign, rfl⟩
      · exact replaces same
      · obtain ⟨writer, -, inserted, -⟩ := replaces same
        rcases (Version.visible_iff.mp newVisible).1 with settled | own
        · simp [settled] at inserted
        · exact absurd own foreign
    · have sameBefore : key old.row = key new.row := by
        rcases Version.remove_some newDone with rfl | ⟨-, -, -, rfl⟩
        · exact same
        · exact same
      obtain ⟨writer, removed, -, -⟩ := replaces sameBefore
      have unheld := free old oldStored visible chosen
      have other := (Version.visible_iff.mp visible).2
      simp [Version.held, removed] at unheld
      rw [removed, unheld.1] at other
      exact absurd rfl other
  · intro version stored removed
    obtain ⟨before, beforeStored, done⟩ := List.mem_filterMap.mp stored
    rcases Version.remove_some done with rfl | ⟨visible, -, foreign, rfl⟩
    · exact ordered.base _ beforeStored removed
    · rcases (Version.visible_iff.mp visible).1 with settled | own
      · exact settled
      · exact absurd own foreign

/-- A new row is inserted when its key is free and it is newer than the rows it replaces. -/
theorem insert (ordered : Ordered key newer versions) {row : Row}
    (replaces : ∀ version ∈ versions, key version.row = key row →
      version.deletedBy = some transaction ∧ newer version.row row) :
    Ordered key newer (versions.insert transaction row) := by
  refine ⟨?_, ?_⟩
  · apply List.pairwise_append.mpr
    refine ⟨ordered.succession, List.pairwise_singleton _ _, ?_⟩
    intro old oldStored new newStored same
    obtain rfl := List.mem_singleton.mp newStored
    obtain ⟨removed, later⟩ := replaces old oldStored same
    exact ⟨transaction, removed, rfl, later⟩
  · intro version stored removed
    rcases List.mem_append.mp stored with stored | stored
    · exact ordered.base version stored removed
    · obtain rfl := List.mem_singleton.mp stored
      exact absurd rfl removed

theorem commit (ordered : Ordered key newer versions) :
    Ordered key newer (versions.commit transaction) := by
  refine ⟨?_, ?_⟩
  · unfold Versions.commit
    rw [List.pairwise_filterMap]
    apply ordered.succession.imp
    intro old new replaces oldAfter oldDone newAfter newDone same
    obtain ⟨oldKept, oldRow, oldDeleted, -⟩ := Version.commit_some oldDone
    obtain ⟨-, newRow, -, newInserted⟩ := Version.commit_some newDone
    rw [oldRow, newRow] at same
    obtain ⟨writer, removed, inserted, later⟩ := replaces same
    have other : some writer ≠ some transaction := fun equal => oldKept (removed.trans equal)
    refine ⟨writer, oldDeleted.trans removed, ?_, by rw [oldRow, newRow]; exact later⟩
    rw [newInserted, inserted, if_neg other]
  · intro version stored removed
    obtain ⟨before, beforeStored, done⟩ := List.mem_filterMap.mp stored
    obtain ⟨-, -, deleted, inserted⟩ := Version.commit_some done
    rw [deleted] at removed
    have settled := ordered.base before beforeStored removed
    rw [inserted, settled, if_neg (by simp)]

theorem abort (ordered : Ordered key newer versions) :
    Ordered key newer (versions.abort transaction) := by
  refine ⟨?_, ?_⟩
  · unfold Versions.abort
    rw [List.pairwise_filterMap]
    apply ordered.succession.imp
    intro old new replaces oldAfter oldDone newAfter newDone same
    obtain ⟨-, oldRow, -, oldDeleted⟩ := Version.abort_some oldDone
    obtain ⟨newKept, newRow, newInserted, -⟩ := Version.abort_some newDone
    rw [oldRow, newRow] at same
    obtain ⟨writer, removed, inserted, later⟩ := replaces same
    have other : some writer ≠ some transaction := fun equal => newKept (inserted.trans equal)
    refine ⟨writer, ?_, newInserted.trans inserted, by rw [oldRow, newRow]; exact later⟩
    rw [oldDeleted, removed, if_neg other]
  · intro version stored removed
    obtain ⟨before, beforeStored, done⟩ := List.mem_filterMap.mp stored
    obtain ⟨-, -, inserted, deleted⟩ := Version.abort_some done
    rw [inserted]
    apply ordered.base before beforeStored
    intro none
    rw [deleted, none] at removed
    simp at removed

/-- A commit keeps each committed row or replaces it by a newer one. -/
theorem committed_commit (ordered : Ordered key newer versions) {old new : Row}
    (oldStored : old ∈ versions.committed)
    (newStored : new ∈ (versions.commit transaction).committed) (same : key old = key new) :
    new = old ∨ newer old new := by
  obtain ⟨oldVersion, oldListed, oldSettled, rfl⟩ := Versions.mem_committed.mp oldStored
  obtain ⟨after, afterListed, afterSettled, rfl⟩ := Versions.mem_committed.mp newStored
  obtain ⟨newVersion, newListed, done⟩ := List.mem_filterMap.mp afterListed
  obtain ⟨-, row, -, inserted⟩ := Version.commit_some done
  rw [row] at same ⊢
  by_cases equal : oldVersion = newVersion
  · exact .inl (congrArg Version.row equal.symm)
  · right
    rcases ordered.related oldListed newListed equal with replaces | replaces
    · obtain ⟨writer, -, -, later⟩ := replaces same
      exact later
    · obtain ⟨writer, -, insertedBy, -⟩ := replaces same.symm
      simp [oldSettled] at insertedBy

end Ordered

/-- The transaction has neither written nor removed a version. -/
def Untouched (transaction : Nat) (versions : Versions Row) : Prop :=
  ∀ version ∈ versions, version.insertedBy ≠ some transaction ∧
    version.deletedBy ≠ some transaction

namespace Untouched
variable {other : Nat}

theorem rows (untouched : Untouched transaction versions) {row : Row}
    (seen : row ∈ versions.rows transaction) : row ∈ versions.committed := by
  obtain ⟨version, stored, rfl, settled | own⟩ := Versions.mem_rows seen
  · exact Versions.mem_committed.mpr ⟨version, stored, settled, rfl⟩
  · exact absurd own (untouched version stored).1

theorem remove (untouched : Untouched transaction versions) (apart : other ≠ transaction)
    (done : versions.remove other selects = some following) : Untouched transaction following := by
  obtain ⟨rfl, -⟩ := Versions.remove_some done
  intro version stored
  obtain ⟨before, beforeStored, done⟩ := List.mem_filterMap.mp stored
  rcases Version.remove_some done with rfl | ⟨-, -, -, rfl⟩
  · exact untouched _ beforeStored
  · exact ⟨(untouched before beforeStored).1, by simpa using apart⟩

theorem insert (untouched : Untouched transaction versions) (apart : other ≠ transaction)
    (row : Row) : Untouched transaction (versions.insert other row) := by
  intro version stored
  rcases List.mem_append.mp stored with stored | stored
  · exact untouched version stored
  · obtain rfl := List.mem_singleton.mp stored
    exact ⟨by simpa using apart, by simp⟩

theorem commit (untouched : Untouched transaction versions) :
    Untouched transaction (versions.commit other) := by
  intro version stored
  obtain ⟨before, beforeStored, done⟩ := List.mem_filterMap.mp stored
  obtain ⟨-, -, deleted, inserted⟩ := Version.commit_some done
  have clean := untouched before beforeStored
  refine ⟨?_, deleted ▸ clean.2⟩
  rw [inserted]
  split
  · simp
  · exact clean.1

theorem abort (untouched : Untouched transaction versions) :
    Untouched transaction (versions.abort other) := by
  intro version stored
  obtain ⟨before, beforeStored, done⟩ := List.mem_filterMap.mp stored
  obtain ⟨-, -, inserted, deleted⟩ := Version.abort_some done
  have clean := untouched before beforeStored
  refine ⟨inserted ▸ clean.1, ?_⟩
  rw [deleted]
  split
  · simp
  · exact clean.2

/-- The end of a transaction without writes changes no row. -/
theorem committed_commit (untouched : Untouched transaction versions) :
    (versions.commit transaction).committed = versions.committed := by
  apply Versions.committed_filterMap
  · intro version stored settled
    unfold Version.commit
    rw [if_neg (untouched version stored).2, if_neg (untouched version stored).1]
    exact ⟨_, rfl, settled, rfl⟩
  · intro version stored after done unsettled
    obtain ⟨-, -, -, inserted⟩ := Version.commit_some done
    rw [inserted, if_neg (untouched version stored).1]
    exact unsettled

end Untouched
end Succession
end Meadowlark.Systems
