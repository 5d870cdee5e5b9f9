import Meadowlark.Systems.Program

namespace Meadowlark.Systems

/-- Every item of a store lives under one key. -/
class Keyed (Item : Type) (Key : outParam Type) where
  key : Item → Key

export Keyed (key)

/-- A database holds at most one item under each key. -/
structure Database (Item : Type) {Key : Type} [Keyed Item Key] where
  items : List Item
  unique : (items.map key).Nodup

namespace Database
variable {Item Key : Type} [Keyed Item Key]

def empty : Database Item := ⟨[], List.nodup_nil⟩

@[simp] theorem empty_items : (empty : Database Item).items = [] := rfl

theorem ext_items {first second : Database Item} (same : first.items = second.items) :
    first = second := by
  cases first
  cases second
  cases same
  rfl

/-- Two stored items with one key are the same item. -/
theorem eq_of_key (database : Database Item) {first second : Item}
    (firstStored : first ∈ database.items) (secondStored : second ∈ database.items)
    (same : key first = key second) : first = second :=
  List.inj_on_of_nodup_map database.unique firstStored secondStored same

variable [DecidableEq Key]

/-- The removal keeps the items whose keys are not listed. -/
def erase (database : Database Item) (keys : List Key) : Database Item :=
  ⟨database.items.filter fun item => key item ∉ keys,
    database.unique.sublist (List.filter_sublist.map key)⟩

@[simp] theorem mem_erase (database : Database Item) (keys : List Key) (item : Item) :
    item ∈ (database.erase keys).items ↔ item ∈ database.items ∧ key item ∉ keys := by
  simp [erase]

/-- The removal of one key takes out the item under it and nothing else. -/
theorem perm_erase (database : Database Item) {item : Item} (stored : item ∈ database.items) :
    database.items.Perm (item :: (database.erase [key item]).items) := by
  have removed : item ∉ (database.erase [key item]).items := by
    rw [mem_erase]
    simp
  have distinct : (item :: (database.erase [key item]).items).Nodup :=
    List.nodup_cons.mpr ⟨removed, (database.erase [key item]).unique.of_map⟩
  apply (List.perm_ext_iff_of_nodup database.unique.of_map distinct).mpr
  intro other
  rw [List.mem_cons, mem_erase]
  constructor
  · intro otherStored
    by_cases same : key other = key item
    · exact .inl (database.eq_of_key otherStored stored same)
    · exact .inr ⟨otherStored, by simpa using same⟩
  · rintro (rfl | kept)
    · exact stored
    · exact kept.1

/-- A write replaces the item under the same key or appends a new one. -/
def put (database : Database Item) (item : Item) : Database Item :=
  ⟨(database.erase [key item]).items ++ [item], by
    have fresh : key item ∉ (database.erase [key item]).items.map key := by
      rintro inside
      obtain ⟨other, stored, same⟩ := List.mem_map.mp inside
      exact ((mem_erase database _ other).mp stored).2 (by simp [same])
    rw [List.map_append, List.nodup_append]
    refine ⟨(database.erase [key item]).unique, by simp, ?_⟩
    intro first firstInside second secondInside same
    obtain rfl : second = key item := by simpa using secondInside
    exact fresh (same ▸ firstInside)⟩

@[simp] theorem mem_put (database : Database Item) (item other : Item) :
    other ∈ (database.put item).items ↔
      (other ∈ database.items ∧ key other ≠ key item) ∨ other = item := by
  simp [put]

/-- A batch of new items is added only when no key repeats. -/
def insertAll (database : Database Item) (added : List Item) : Option (Database Item) :=
  if fits : ((database.items ++ added).map key).Nodup then some ⟨database.items ++ added, fits⟩
  else none

theorem insertAll_items {database following : Database Item} {added : List Item}
    (done : database.insertAll added = some following) :
    following.items = database.items ++ added := by
  unfold insertAll at done
  split at done
  · exact (Option.some.inj done) ▸ rfl
  · cases done

theorem insertAll_nodup {database following : Database Item} {added : List Item}
    (done : database.insertAll added = some following) : (added.map key).Nodup := by
  have unique := following.unique
  rw [insertAll_items done, List.map_append] at unique
  exact unique.of_append_right

/-- The removal of an added batch gives the database back. -/
theorem insertAll_erase {database following : Database Item} {added : List Item}
    (done : database.insertAll added = some following) :
    following.erase (added.map key) = database := by
  have unique := following.unique
  rw [insertAll_items done, List.map_append, List.nodup_append] at unique
  apply ext_items
  change following.items.filter _ = database.items
  rw [insertAll_items done, List.filter_append]
  have kept : database.items.filter (fun item => key item ∉ added.map key) = database.items := by
    rw [List.filter_eq_self]
    intro item stored
    rw [decide_eq_true_iff]
    exact fun inside => unique.2.2 (key item) (List.mem_map_of_mem stored) (key item) inside rfl
  have dropped : added.filter (fun item => key item ∉ added.map key) = [] := by
    rw [List.filter_eq_nil_iff]
    intro item inside
    simpa using ⟨item, inside, rfl⟩
  rw [kept, dropped, List.append_nil]

/-- A commit takes the written keys from the view and every other key from the committed store. -/
def install (committed view : Database Item) (written : List Key) : Database Item :=
  ⟨(committed.erase written).items ++ view.items.filter fun item => key item ∈ written, by
    rw [List.map_append, List.nodup_append]
    refine ⟨(committed.erase written).unique,
      view.unique.sublist (List.filter_sublist.map key), ?_⟩
    rintro first firstInside second secondInside rfl
    obtain ⟨kept, keptStored, rfl⟩ := List.mem_map.mp firstInside
    obtain ⟨taken, takenStored, same⟩ := List.mem_map.mp secondInside
    have outside := ((mem_erase committed written kept).mp keptStored).2
    have inside : key taken ∈ written := by simpa using (List.mem_filter.mp takenStored).2
    exact outside (same ▸ inside)⟩

@[simp] theorem mem_install (committed view : Database Item) (written : List Key) (item : Item) :
    item ∈ (committed.install view written).items ↔
      (item ∈ committed.items ∧ key item ∉ written) ∨ (item ∈ view.items ∧ key item ∈ written) := by
  simp [install]

end Database

/-- A driver gives each call its meaning on a database.
The listed keys cover every item the call changes. -/
structure Driver (Item : Type) {Key : Type} [Keyed Item Key]
    (Op : Type) (Answer : Op → Type) (Error : Type) where
  inSession : Op → Bool
  perform (op : Op) : Database Item → Except Error (Database Item × List Key × Answer op)
  frame {op : Op} {database following : Database Item} {written : List Key} {answer : Answer op}
    (done : perform op database = .ok (following, written, answer)) (item : Item)
    (outside : key item ∉ written) : item ∈ following.items ↔ item ∈ database.items

section Machine
variable {Item Key Op Error : Type} {Answer : Op → Type} [Keyed Item Key]

/-- The sequential handler keeps the committed store aside for the calls outside the session. -/
def Driver.handler (driver : Driver Item Op Answer Error) (committed : Database Item) (op : Op) :
    StateT (Database Item) (Except Error) (Answer op) := fun view =>
  if driver.inSession op then
    match driver.perform op view with
    | .error error => .error error
    | .ok (following, _, answer) => .ok (answer, following)
  else
    match driver.perform op committed with
    | .error error => .error error
    | .ok (_, _, answer) => .ok (answer, view)

/-- A transaction reads its snapshot with its own writes.
It remembers its written keys and the keys that others committed since its snapshot. -/
structure Transaction (Item : Type) {Key : Type} [Keyed Item Key] where
  snapshot : Database Item
  view : Database Item
  written : List Key
  overwritten : List Key

def Transaction.start (committed : Database Item) : Transaction Item :=
  ⟨committed, committed, [], []⟩

/-- A session call moves the view and adds its keys to the written ones. -/
def Transaction.advance (transaction : Transaction Item) (view : Database Item)
    (written : List Key) : Transaction Item :=
  { transaction with view := view, written := written ++ transaction.written }

/-- Another commit adds its keys to the overwritten ones. -/
def Transaction.expose (transaction : Transaction Item) (written : List Key) : Transaction Item :=
  { transaction with overwritten := written ++ transaction.overwritten }

@[simp] theorem Transaction.advance_snapshot (transaction : Transaction Item)
    (view : Database Item) (written : List Key) :
    (transaction.advance view written).snapshot = transaction.snapshot := rfl

@[simp] theorem Transaction.advance_view (transaction : Transaction Item)
    (view : Database Item) (written : List Key) :
    (transaction.advance view written).view = view := rfl

@[simp] theorem Transaction.advance_written (transaction : Transaction Item)
    (view : Database Item) (written : List Key) :
    (transaction.advance view written).written = written ++ transaction.written := rfl

@[simp] theorem Transaction.advance_overwritten (transaction : Transaction Item)
    (view : Database Item) (written : List Key) :
    (transaction.advance view written).overwritten = transaction.overwritten := rfl

@[simp] theorem Transaction.expose_snapshot (transaction : Transaction Item)
    (written : List Key) : (transaction.expose written).snapshot = transaction.snapshot := rfl

@[simp] theorem Transaction.expose_view (transaction : Transaction Item)
    (written : List Key) : (transaction.expose written).view = transaction.view := rfl

@[simp] theorem Transaction.expose_written (transaction : Transaction Item)
    (written : List Key) : (transaction.expose written).written = transaction.written := rfl

@[simp] theorem Transaction.expose_overwritten (transaction : Transaction Item)
    (written : List Key) :
    (transaction.expose written).overwritten = written ++ transaction.overwritten := rfl

/-- An attempt is one execution of a transaction function. -/
structure Attempt (Item : Type) {Key : Type} [Keyed Item Key]
    (Op : Type) (Answer : Op → Type) (Result : Type) where
  transaction : Transaction Item
  program : Program Op Answer Result

variable {Result Input : Type}

/-- The system holds the committed store and the attempts in progress. -/
structure System (Item : Type) {Key : Type} [Keyed Item Key]
    (Op : Type) (Answer : Op → Type) (Result : Type) where
  committed : Database Item
  attempts : List (Attempt Item Op Answer Result)

def System.empty : System Item Op Answer Result := ⟨Database.empty, []⟩

/-- One event starts, advances, commits or aborts one attempt. -/
inductive Event (Input : Type) where
  | begin (input : Input)
  | step (index : Nat)
  | commit (index : Nat)
  | abort (index : Nat)

/-- A service runs a transaction function for each input and commits the listed results. -/
structure Service (Item : Type) {Key : Type} [Keyed Item Key] (Op : Type) (Answer : Op → Type)
    (Error Input Result : Type) where
  driver : Driver Item Op Answer Error
  transaction : Input → Program Op Answer Result
  commits : Result → Bool

variable [DecidableEq Key]

/-- Two overlapping transactions that write one key cannot both commit. -/
def Transaction.Compatible (transaction : Transaction Item) : Prop :=
  ∀ written ∈ transaction.written, written ∉ transaction.overwritten

instance (transaction : Transaction Item) : Decidable transaction.Compatible :=
  inferInstanceAs (Decidable (∀ written ∈ transaction.written, _))

namespace Service
variable (service : Service Item Op Answer Error Input Result)

/-- The call of one attempt reads its view, or the committed store outside the session.
A rejected call aborts the attempt. -/
def advance (committed : Database Item) (transaction : Transaction Item) (op : Op)
    (next : Answer op → Program Op Answer Result) : Option (Attempt Item Op Answer Result) :=
  if service.driver.inSession op then
    match service.driver.perform op transaction.view with
    | .error _ => none
    | .ok (view, written, answer) => some ⟨transaction.advance view written, next answer⟩
  else
    match service.driver.perform op committed with
    | .error _ => none
    | .ok (_, _, answer) => some ⟨transaction, next answer⟩

/-- The attempts that stay see the keys of the commit as overwritten. -/
def exposeAll (attempts : List (Attempt Item Op Answer Result)) (written : List Key) :
    List (Attempt Item Op Answer Result) :=
  attempts.map fun attempt => { attempt with transaction := attempt.transaction.expose written }

/-- The event is rejected when the attempt is not in the state it needs. -/
def next (system : System Item Op Answer Result) :
    Event Input → Option (System Item Op Answer Result)
  | .begin input =>
      some { system with
        attempts := system.attempts ++
          [⟨Transaction.start system.committed, service.transaction input⟩] }
  | .step index =>
      match system.attempts[index]? with
      | some ⟨transaction, .call op next⟩ =>
          match service.advance system.committed transaction op next with
          | some attempt => some { system with attempts := system.attempts.set index attempt }
          | none => some { system with attempts := system.attempts.eraseIdx index }
      | _ => none
  | .commit index =>
      match system.attempts[index]? with
      | some ⟨transaction, .pure result⟩ =>
          if service.commits result ∧ transaction.Compatible then
            some ⟨system.committed.install transaction.view transaction.written,
              exposeAll (system.attempts.eraseIdx index) transaction.written⟩
          else none
      | _ => none
  | .abort index =>
      if index < system.attempts.length then
        some { system with attempts := system.attempts.eraseIdx index }
      else none

/-- The events run in order and each one is accepted. -/
def runEvents (system : System Item Op Answer Result) :
    List (Event Input) → Option (System Item Op Answer Result)
  | [] => some system
  | event :: rest =>
      match service.next system event with
      | some following => runEvents following rest
      | none => none

/-- A system is reachable when allowed events lead to it from the empty store. -/
inductive Reachable (allowed : System Item Op Answer Result → Event Input → Prop) :
    System Item Op Answer Result → Prop where
  | empty : Reachable allowed System.empty
  | next {system following : System Item Op Answer Result} {event : Event Input}
      (reached : Reachable allowed system) (permitted : allowed system event)
      (moved : service.next system event = some following) : Reachable allowed following

theorem Reachable.runEvents {system following : System Item Op Answer Result}
    {events : List (Event Input)}
    (reached : service.Reachable (fun _ _ => True) system)
    (done : service.runEvents system events = some following) :
    service.Reachable (fun _ _ => True) following := by
  induction events generalizing system with
  | nil => exact (Option.some.inj done) ▸ reached
  | cons event rest ih =>
      unfold Service.runEvents at done
      split at done
      · rename_i middle moved
        exact ih (reached.next trivial moved) done
      · cases done

end Service
end Machine
end Meadowlark.Systems
