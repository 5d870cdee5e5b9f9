import Meadowlark.Construction.Core.DocumentStore

namespace Meadowlark.Core

/-- A listener keeps a state of its own; it can throw at an event. -/
structure Listener (State : Type) where
  hear : ListenerEvent → State → Except Exception Unit × State

section Subscribe
variable {State Other Memory : Type}

/-- An event is published to the new listener and to the earlier ones.
The publication throws when one of them does, after all of them have heard the event. -/
def Services.subscribe (listener : Listener State) (services : Services Memory) :
    Services (State × Memory) where
  answer
    | .publish event, (state, memory) =>
        let (heard, following) := listener.hear event state
        let (answer, last) := services.answer (.publish event) memory
        (heard.bind fun _ => answer, (following, last))
    | call, (state, memory) =>
        let (answer, last) := services.answer call memory
        (answer, (state, last))

/-- Two listeners that hear the same events. -/
def Listener.and (first : Listener State) (second : Listener Other) : Listener (State × Other) where
  hear event state :=
    let (heard, following) := first.hear event state.1
    let (otherHeard, otherFollowing) := second.hear event state.2
    (heard.bind fun _ => otherHeard, (following, otherFollowing))

end Subscribe

/-- The documents that the published events say are stored, each as its last write gave it. -/
abbrev Deposits := DocumentUuid → Option UpsertRequest

def Deposits.after (deposits : Deposits) : ListenerEvent → Deposits
  | .afterUpsertDocument request (.insertSuccess newDocumentUuid) =>
      Function.update deposits newDocumentUuid (some request)
  | .afterUpsertDocument request (.updateSuccess existingDocumentUuid) =>
      Function.update deposits existingDocumentUuid (some request)
  | .afterUpdateDocumentById request .updateSuccess =>
      Function.update deposits request.documentUuid (some request.toUpsertRequest)
  | .afterDeleteDocumentById request .deleteSuccess =>
      Function.update deposits request.documentUuid none
  | _ => deposits

/-- A listener that only keeps account of the events. -/
def depositsListener : Listener Deposits where
  hear event deposits := (.ok (), deposits.after event)

end Meadowlark.Core
