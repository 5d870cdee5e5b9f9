import Meadowlark.Systems.SnapshotIsolation

namespace Meadowlark.Systems
variable {Item Key Op Error Input Result : Type} {Answer : Op → Type} [Keyed Item Key]

/-- The stores agree outside the keys that separate them. -/
structure Transaction.Aligned (committed : Database Item) (transaction : Transaction Item) :
    Prop where
  committed_iff (item : Item) (outside : key item ∉ transaction.overwritten) :
    item ∈ committed.items ↔ item ∈ transaction.snapshot.items
  view_iff (item : Item) (outside : key item ∉ transaction.written) :
    item ∈ transaction.view.items ↔ item ∈ transaction.snapshot.items

theorem Transaction.aligned_start (committed : Database Item) :
    (Transaction.start committed).Aligned committed :=
  ⟨fun _ _ => Iff.rfl, fun _ _ => Iff.rfl⟩

theorem Transaction.Aligned.advance {committed : Database Item} {transaction : Transaction Item}
    (aligned : transaction.Aligned committed) (driver : Driver Item Op Answer Error) {op : Op}
    {view : Database Item} {written : List Key} {answer : Answer op}
    (done : driver.perform op transaction.view = .ok (view, written, answer)) :
    (transaction.advance view written).Aligned committed where
  committed_iff := aligned.committed_iff
  view_iff item outside := by
    simp only [advance_written, List.mem_append, not_or] at outside
    exact (driver.frame done item outside.1).trans (aligned.view_iff item outside.2)

/-- A protocol lists the steps under study and what a commit promises to the others.
A settled transaction has established everything its commit needs. -/
structure Protocol (Item : Type) {Key : Type} [Keyed Item Key] (Op : Type) where
  allowsCall : Database Item → Transaction Item → Op → Prop
  allowsCommit : Database Item → Transaction Item → Prop
  promise : Database Item → List Key → Database Item → Prop
  invariant : Database Item → List (List Key) → Prop
  settled : Database Item → Transaction Item → Prop

variable (protocol : Protocol Item Op)

/-- Other transactions commit between two steps of this one. -/
inductive Protocol.Interferes :
    Database Item → Transaction Item → Database Item → Transaction Item → Prop where
  | refl (committed : Database Item) (transaction : Transaction Item) :
      Interferes committed transaction committed transaction
  | commit {committed middle following : Database Item} {transaction last : Transaction Item}
      {written : List Key} (kept : protocol.promise committed written middle)
      (rest : Interferes middle (transaction.expose written) following last) :
      Interferes committed transaction following last

theorem Protocol.Interferes.trans {first second third : Database Item}
    {before middle after : Transaction Item}
    (left : protocol.Interferes first before second middle)
    (right : protocol.Interferes second middle third after) :
    protocol.Interferes first before third after := by
  induction left with
  | refl => exact right
  | commit kept rest ih => exact .commit kept (ih right)

theorem Protocol.Interferes.snapshot {first second : Database Item}
    {before after : Transaction Item}
    (moved : protocol.Interferes first before second after) :
    after.snapshot = before.snapshot := by
  induction moved with
  | refl => rfl
  | commit kept rest ih => exact ih

theorem Protocol.Interferes.view {first second : Database Item}
    {before after : Transaction Item}
    (moved : protocol.Interferes first before second after) : after.view = before.view := by
  induction moved with
  | refl => rfl
  | commit kept rest ih => exact ih

theorem Protocol.Interferes.written {first second : Database Item}
    {before after : Transaction Item}
    (moved : protocol.Interferes first before second after) :
    after.written = before.written := by
  induction moved with
  | refl => rfl
  | commit kept rest ih => exact ih

/-- A key stays overwritten once another commit touched it. -/
theorem Protocol.Interferes.overwritten {first second : Database Item}
    {before after : Transaction Item}
    (moved : protocol.Interferes first before second after) {written : Key}
    (inside : written ∈ before.overwritten) : written ∈ after.overwritten := by
  induction moved with
  | refl => exact inside
  | commit kept rest ih => exact ih (List.mem_append_right _ inside)

/-- An assertion is stable when no promised commit of another transaction breaks it. -/
def Protocol.Stable (assertion : Database Item → Transaction Item → Prop) : Prop :=
  ∀ {committed following : Database Item} {transaction : Transaction Item} {written : List Key},
    assertion committed transaction → protocol.promise committed written following →
      assertion following (transaction.expose written)

theorem Protocol.Interferes.stable {assertion : Database Item → Transaction Item → Prop}
    (stable : protocol.Stable assertion) {first second : Database Item}
    {before after : Transaction Item}
    (moved : protocol.Interferes first before second after)
    (holds : assertion first before) : assertion second after := by
  induction moved with
  | refl => exact holds
  | commit kept rest ih => exact ih (stable holds kept)

variable (driver : Driver Item Op Answer Error)

/-- The postcondition holds after every allowed execution of the program.
Promised commits of other transactions may happen before each call. -/
def Protocol.wp {A : Type} (post : A → Database Item → Transaction Item → Prop) :
    Program Op Answer A → Database Item → Transaction Item → Prop
  | .pure value, committed, transaction => post value committed transaction
  | .call op next, committed, transaction =>
      ∀ following moved, protocol.Interferes committed transaction following moved →
        moved.Aligned following → protocol.allowsCall following moved op →
          if driver.inSession op then
            ∀ view written answer,
              driver.perform op moved.view = .ok (view, written, answer) →
                wp post (next answer) following (moved.advance view written)
          else
            ∀ view written answer,
              driver.perform op following = .ok (view, written, answer) →
                wp post (next answer) following moved

namespace Protocol
variable {A B : Type} {protocol} {driver}

theorem wp_bind {post : B → Database Item → Transaction Item → Prop}
    (program : Program Op Answer A) (f : A → Program Op Answer B)
    {committed : Database Item} {transaction : Transaction Item} :
    protocol.wp driver post (program >>= f) committed transaction ↔
      protocol.wp driver (fun value => protocol.wp driver post (f value))
        program committed transaction := by
  induction program generalizing committed transaction with
  | pure value => exact Iff.rfl
  | call op next ih =>
      simp only [Program.call_bind, wp, ih]

/-- A sequence meets its postcondition when its first part reaches the precondition of the rest. -/
theorem wp_seq {post : B → Database Item → Transaction Item → Prop}
    {program : Program Op Answer A} {f : A → Program Op Answer B}
    {committed : Database Item} {transaction : Transaction Item}
    (holds : protocol.wp driver (fun value => protocol.wp driver post (f value))
      program committed transaction) :
    protocol.wp driver post (program >>= f) committed transaction :=
  (wp_bind program f).mpr holds

theorem wp_map {post : B → Database Item → Transaction Item → Prop}
    {program : Program Op Answer A} {f : A → B}
    {committed : Database Item} {transaction : Transaction Item}
    (holds : protocol.wp driver (fun value => post (f value)) program committed transaction) :
    protocol.wp driver post (f <$> program) committed transaction :=
  wp_seq (f := fun value => Program.pure (f value)) holds

theorem wp_mono {post weaker : A → Database Item → Transaction Item → Prop}
    {program : Program Op Answer A} {committed : Database Item} {transaction : Transaction Item}
    (holds : protocol.wp driver post program committed transaction)
    (implies : ∀ value following moved, post value following moved → weaker value following moved) :
    protocol.wp driver weaker program committed transaction := by
  induction program generalizing committed transaction with
  | pure value => exact implies value committed transaction holds
  | call op next ih =>
      intro following moved interferes aligned allowed
      have inside := holds following moved interferes aligned allowed
      split at inside
      · rename_i session
        rw [if_pos session]
        exact fun view written answer done => ih answer (inside view written answer done)
      · rename_i session
        rw [if_neg session]
        exact fun view written answer done => ih answer (inside view written answer done)

/-- A postcondition may use what the program is known to return. -/
theorem wp_within {post : A → Database Item → Transaction Item → Prop}
    {program : Program Op Answer A} {allowed : Op → Prop} {returns : A → Prop}
    {committed : Database Item} {transaction : Transaction Item}
    (within : program.Within allowed returns)
    (holds : protocol.wp driver (fun value following moved => returns value → post value following moved)
      program committed transaction) : protocol.wp driver post program committed transaction := by
  induction program generalizing committed transaction with
  | pure value => exact holds within
  | call op next ih =>
      intro following moved interferes aligned permitted
      have inside := holds following moved interferes aligned permitted
      split at inside
      · rename_i session
        rw [if_pos session]
        exact fun view written answer done =>
          ih answer (within.2 answer) (inside view written answer done)
      · rename_i session
        rw [if_neg session]
        exact fun view written answer done =>
          ih answer (within.2 answer) (inside view written answer done)

theorem wp_stable {post : A → Database Item → Transaction Item → Prop}
    (stable : ∀ value, protocol.Stable (post value)) {program : Program Op Answer A}
    {committed following : Database Item} {transaction moved : Transaction Item}
    (holds : protocol.wp driver post program committed transaction)
    (interferes : protocol.Interferes committed transaction following moved) :
    protocol.wp driver post program following moved := by
  cases program with
  | pure value => exact interferes.stable protocol (stable value) holds
  | call op next =>
      intro last after further
      exact holds last after (interferes.trans protocol further)

end Protocol

section Runs
variable [DecidableEq Key] (service : Service Item Op Answer Error Input Result)

/-- The protocol restricts the calls and the commits of a system. -/
def Protocol.allows (system : System Item Op Answer Result) : Event Input → Prop
  | .begin _ => True
  | .step index =>
      ∀ transaction op next, system.attempts[index]? = some ⟨transaction, .call op next⟩ →
        protocol.allowsCall system.committed transaction op
  | .commit index =>
      ∀ transaction result, system.attempts[index]? = some ⟨transaction, .pure result⟩ →
        protocol.allowsCommit system.committed transaction
  | .abort _ => True

section Executable
variable [∀ committed transaction op, Decidable (protocol.allowsCall committed transaction op)]
  [∀ committed transaction, Decidable (protocol.allowsCommit committed transaction)]

/-- The executable form of the restriction. -/
def Protocol.permits (system : System Item Op Answer Result) : Event Input → Bool
  | .begin _ => true
  | .step index =>
      match system.attempts[index]? with
      | some ⟨transaction, .call op _⟩ => protocol.allowsCall system.committed transaction op
      | _ => true
  | .commit index =>
      match system.attempts[index]? with
      | some ⟨transaction, .pure _⟩ => protocol.allowsCommit system.committed transaction
      | _ => true
  | .abort _ => true

omit [DecidableEq Key] in
theorem Protocol.permits_allows {system : System Item Op Answer Result} {event : Event Input}
    (permitted : protocol.permits system event = true) : protocol.allows system event := by
  cases event with
  | begin input => trivial
  | step index =>
      intro transaction op next present
      simpa [Protocol.permits, present] using permitted
  | commit index =>
      intro transaction result present
      simpa [Protocol.permits, present] using permitted
  | abort index => trivial

/-- The run stops at the first event that is not permitted. -/
def Protocol.runPermitted (system : System Item Op Answer Result) :
    List (Event Input) → Option (System Item Op Answer Result)
  | [] => some system
  | event :: rest =>
      if protocol.permits system event then
        match service.next system event with
        | some following => Protocol.runPermitted following rest
        | none => none
      else none

theorem Service.Reachable.runPermitted {system following : System Item Op Answer Result}
    {events : List (Event Input)} (reached : service.Reachable protocol.allows system)
    (done : protocol.runPermitted service system events = some following) :
    service.Reachable protocol.allows following := by
  induction events generalizing system with
  | nil => exact (Option.some.inj done) ▸ reached
  | cons event rest ih =>
      unfold Protocol.runPermitted at done
      split at done
      · rename_i permitted
        split at done
        · rename_i middle moved
          exact ih (reached.next (protocol.permits_allows permitted) moved) done
        · cases done
      · cases done

end Executable

/-- The protocol is sound when every transaction function settles before it may commit. -/
structure Protocol.Sound : Prop where
  initial : protocol.invariant Database.empty []
  subset {committed : Database Item} {more fewer : List (List Key)}
    (holds : protocol.invariant committed more) (inside : fewer ⊆ more) :
    protocol.invariant committed fewer
  begins {committed : Database Item} {overwritten : List (List Key)}
    (holds : protocol.invariant committed overwritten) :
    protocol.invariant committed ([] :: overwritten)
  stable : protocol.Stable protocol.settled
  commits {committed : Database Item} {overwritten : List (List Key)}
    {transaction : Transaction Item} (holds : protocol.invariant committed overwritten)
    (active : transaction.overwritten ∈ overwritten) (aligned : transaction.Aligned committed)
    (settled : protocol.settled committed transaction)
    (allowed : protocol.allowsCommit committed transaction)
    (compatible : transaction.Compatible) :
    protocol.promise committed transaction.written
        (committed.install transaction.view transaction.written) ∧
      protocol.invariant (committed.install transaction.view transaction.written)
        (overwritten.map (transaction.written ++ ·))
  correct (input : Input) {committed : Database Item} (holds : protocol.invariant committed []) :
    protocol.wp service.driver
      (fun result committed transaction =>
        service.commits result = true → protocol.settled committed transaction)
      (service.transaction input) committed (Transaction.start committed)

variable {protocol} {service}

/-- Every attempt of a consistent system can still finish as its protocol demands. -/
structure Protocol.Consistent (protocol : Protocol Item Op)
    (service : Service Item Op Answer Error Input Result)
    (system : System Item Op Answer Result) : Prop where
  invariant : protocol.invariant system.committed
    (system.attempts.map fun attempt => attempt.transaction.overwritten)
  aligned : ∀ attempt ∈ system.attempts, attempt.transaction.Aligned system.committed
  safe : ∀ attempt ∈ system.attempts,
    protocol.wp service.driver
      (fun result committed transaction =>
        service.commits result = true → protocol.settled committed transaction)
      attempt.program system.committed attempt.transaction

theorem Protocol.Consistent.erase {system : System Item Op Answer Result}
    (consistent : protocol.Consistent service system) (sound : protocol.Sound service)
    (index : Nat) :
    protocol.Consistent service { system with attempts := system.attempts.eraseIdx index } where
  invariant := sound.subset consistent.invariant
    (List.map_subset _ (List.eraseIdx_sublist _ _).subset)
  aligned attempt inside :=
    consistent.aligned attempt ((List.eraseIdx_sublist _ _).subset inside)
  safe attempt inside := consistent.safe attempt ((List.eraseIdx_sublist _ _).subset inside)

theorem Transaction.Aligned.install {committed : Database Item}
    {transaction : Transaction Item} (aligned : transaction.Aligned committed)
    (view : Database Item) (written : List Key) :
    (transaction.expose written).Aligned (committed.install view written) where
  committed_iff item outside := by
    simp only [expose_overwritten, List.mem_append, not_or] at outside
    rw [Database.mem_install]
    have same := aligned.committed_iff item outside.2
    simp only [expose_snapshot]
    tauto
  view_iff := aligned.view_iff

theorem Protocol.Consistent.begin {system : System Item Op Answer Result}
    (consistent : protocol.Consistent service system) (sound : protocol.Sound service)
    (input : Input) :
    protocol.Consistent service { system with
      attempts := system.attempts ++
        [⟨Transaction.start system.committed, service.transaction input⟩] } where
  invariant := by
    refine sound.subset (sound.begins consistent.invariant) ?_
    intro overwritten inside
    simp only [List.map_append, List.map_cons, List.map_nil, List.mem_append,
      List.mem_singleton] at inside
    rcases inside with old | rfl
    · exact List.mem_cons_of_mem _ old
    · exact List.mem_cons_self
  aligned attempt inside := by
    rcases List.mem_append.mp inside with old | added
    · exact consistent.aligned attempt old
    · obtain rfl := List.mem_singleton.mp added
      exact Transaction.aligned_start _
  safe attempt inside := by
    rcases List.mem_append.mp inside with old | added
    · exact consistent.safe attempt old
    · obtain rfl := List.mem_singleton.mp added
      exact sound.correct input (sound.subset consistent.invariant (List.nil_subset _))

omit [DecidableEq Key] in
/-- A call of a transaction keeps it aligned, and others have overwritten nothing meanwhile. -/
theorem Service.advance_aligned {committed : Database Item} {transaction : Transaction Item} {op : Op}
    {next : Answer op → Program Op Answer Result} {attempt : Attempt Item Op Answer Result}
    (aligned : transaction.Aligned committed)
    (moved : service.advance committed transaction op next = some attempt) :
    attempt.transaction.overwritten = transaction.overwritten ∧
      attempt.transaction.Aligned committed := by
  unfold Service.advance at moved
  split at moved
  · split at moved
    · cases moved
    · rename_i view written answer done
      cases moved
      exact ⟨rfl, aligned.advance service.driver done⟩
  · split at moved
    · cases moved
    · cases moved
      exact ⟨rfl, aligned⟩

omit [DecidableEq Key] in
theorem Service.advance_wp {committed : Database Item} {transaction : Transaction Item} {op : Op}
    {next : Answer op → Program Op Answer Result} {attempt : Attempt Item Op Answer Result}
    {post : Result → Database Item → Transaction Item → Prop}
    (aligned : transaction.Aligned committed)
    (safe : protocol.wp service.driver post (.call op next) committed transaction)
    (allowed : protocol.allowsCall committed transaction op)
    (moved : service.advance committed transaction op next = some attempt) :
    protocol.wp service.driver post attempt.program committed attempt.transaction := by
  have inside := safe committed transaction (.refl committed transaction) aligned allowed
  unfold Service.advance at moved
  split at moved
  · rename_i session
    rw [if_pos session] at inside
    split at moved
    · cases moved
    · rename_i view written answer done
      cases moved
      exact inside view written answer done
  · rename_i session
    rw [if_neg session] at inside
    split at moved
    · cases moved
    · rename_i view written answer done
      cases moved
      exact inside view written answer done

theorem Protocol.Consistent.set {system : System Item Op Answer Result}
    (consistent : protocol.Consistent service system) (sound : protocol.Sound service)
    {index : Nat} {old attempt : Attempt Item Op Answer Result}
    (present : system.attempts[index]? = some old)
    (same : attempt.transaction.overwritten = old.transaction.overwritten)
    (aligned : attempt.transaction.Aligned system.committed)
    (safe : protocol.wp service.driver
      (fun result committed transaction =>
        service.commits result = true → protocol.settled committed transaction)
      attempt.program system.committed attempt.transaction) :
    protocol.Consistent service { system with attempts := system.attempts.set index attempt } where
  invariant := by
    refine sound.subset consistent.invariant ?_
    intro overwritten inside
    obtain ⟨other, otherInside, rfl⟩ := List.mem_map.mp inside
    rcases List.mem_or_eq_of_mem_set otherInside with kept | rfl
    · exact List.mem_map_of_mem kept
    · rw [same]
      exact List.mem_map_of_mem (List.mem_of_getElem? present)
  aligned other inside := by
    rcases List.mem_or_eq_of_mem_set inside with kept | rfl
    · exact consistent.aligned other kept
    · exact aligned
  safe other inside := by
    rcases List.mem_or_eq_of_mem_set inside with kept | rfl
    · exact consistent.safe other kept
    · exact safe

theorem Protocol.Consistent.commit {system : System Item Op Answer Result}
    (consistent : protocol.Consistent service system) (sound : protocol.Sound service)
    {index : Nat} {transaction : Transaction Item} {result : Result}
    (present : system.attempts[index]? = some ⟨transaction, .pure result⟩)
    (commits : service.commits result = true)
    (allowed : protocol.allowsCommit system.committed transaction)
    (compatible : transaction.Compatible) :
    protocol.Consistent service
      ⟨system.committed.install transaction.view transaction.written,
        Service.exposeAll (system.attempts.eraseIdx index) transaction.written⟩ := by
  have member := List.mem_of_getElem? present
  have aligned := consistent.aligned _ member
  have settled := consistent.safe _ member commits
  have kept := sound.commits consistent.invariant
    (List.mem_map_of_mem member) aligned settled allowed compatible
  refine ⟨sound.subset kept.2 ?_, ?_, ?_⟩
  · intro overwritten inside
    obtain ⟨exposed, exposedInside, rfl⟩ := List.mem_map.mp inside
    obtain ⟨other, otherInside, rfl⟩ := List.mem_map.mp exposedInside
    have old := (List.eraseIdx_sublist _ _).subset otherInside
    exact List.mem_map_of_mem (List.mem_map_of_mem old)
  · intro attempt inside
    obtain ⟨other, otherInside, rfl⟩ := List.mem_map.mp inside
    have old := (List.eraseIdx_sublist _ _).subset otherInside
    exact (consistent.aligned other old).install transaction.view transaction.written
  · intro attempt inside
    obtain ⟨other, otherInside, rfl⟩ := List.mem_map.mp inside
    have old := (List.eraseIdx_sublist _ _).subset otherInside
    refine Protocol.wp_stable ?_ (consistent.safe other old)
      (.commit kept.1 (.refl _ _))
    intro value committed following moved written holds promised success
    exact sound.stable (holds success) promised

theorem Protocol.Consistent.next {system following : System Item Op Answer Result}
    {event : Event Input} (consistent : protocol.Consistent service system)
    (sound : protocol.Sound service) (allowed : protocol.allows system event)
    (moved : service.next system event = some following) :
    protocol.Consistent service following := by
  cases event with
  | begin input =>
      cases moved
      exact consistent.begin sound input
  | step index =>
      simp only [Service.next] at moved
      split at moved
      · rename_i transaction op next present
        have member := List.mem_of_getElem? present
        split at moved
        · rename_i attempt advanced
          cases moved
          have aligned := Service.advance_aligned (consistent.aligned _ member) advanced
          have safe := Service.advance_wp (consistent.aligned _ member)
            (consistent.safe _ member) (allowed transaction op next present) advanced
          exact consistent.set sound present aligned.1 aligned.2 safe
        · cases moved
          exact consistent.erase sound index
      · cases moved
  | commit index =>
      simp only [Service.next] at moved
      split at moved
      · rename_i transaction result present
        split at moved
        · rename_i possible
          cases moved
          exact consistent.commit sound present possible.1 (allowed transaction result present)
            possible.2
        · cases moved
      · cases moved
  | abort index =>
      simp only [Service.next] at moved
      split at moved
      · cases moved
        exact consistent.erase sound index
      · cases moved

/-- Every allowed run of a sound protocol keeps its invariant. -/
theorem Protocol.Sound.reachable {system : System Item Op Answer Result}
    (sound : protocol.Sound service)
    (reached : service.Reachable protocol.allows system) :
    protocol.Consistent service system := by
  induction reached with
  | empty =>
      exact ⟨sound.initial, fun _ inside => absurd inside List.not_mem_nil,
        fun _ inside => absurd inside List.not_mem_nil⟩
  | next reached permitted moved ih => exact ih.next sound permitted moved

end Runs
end Meadowlark.Systems
