import Pih.Scheduler.ControllerIngress
import Pih.Scheduler.EventStream

/-!
# What the ingress operations do

Submitting a request publishes its payload and queues a command, or leaves
the arena with a cleared slot; taking an admission claims the payload again,
and a claim can always be given back.
-/

namespace Pih

open ControllerMailbox ControllerRequestArena

open ControllerMailbox (Owner)

namespace ControllerMailbox

/-- One command was added at the end of the queue. -/
structure Queued (mailbox next : ControllerMailbox) (command : ControllerCommand) : Prop where
  commands : next.queuedCommands = mailbox.queuedCommands ++ [command]
  events : next.events = mailbox.events
  nextEventSequence : next.nextEventSequence = mailbox.nextEventSequence
  controllerThread : next.controllerThread = mailbox.controllerThread

/-- The thread took the oldest command. -/
structure Took (thread : ThreadId) (mailbox : ControllerMailbox)
    (command : ControllerCommand) (next : ControllerMailbox) : Prop where
  owner : mailbox.Owner thread
  commands : mailbox.queuedCommands = command :: next.queuedCommands
  events : next.events = mailbox.events
  nextEventSequence : next.nextEventSequence = mailbox.nextEventSequence
  controllerThread : next.controllerThread = some thread

end ControllerMailbox

namespace ControllerRequestArena

/-- The arena after a published slot was claimed. -/
structure Claimed (arena : ControllerRequestArena) (command : ControllerCommand)
    (index : ℕ) (slot : RequestSlot) : Prop where
  found : arena.slots[index]? = some slot
  published : slot.state = .published
  requestGeneration : slot.requestGeneration = command.requestGeneration
  payloadDigest : slot.payloadDigest = command.payloadDigest

/-- A claim that was just made can be released. -/
theorem releaseClaimed_of_claim {arena : ControllerRequestArena}
    (claimed : arena.Claimed command index slot) :
    (arena.setState index slot .claimed).releaseClaimed (arena.view index slot).slotIndex
        (arena.view index slot).slotGeneration =
      ((arena.setState index slot .claimed).clearSlot index, .ok ()) := by
  have inside := (List.getElem_of_getElem? claimed.found).1
  have found : (arena.setState index slot .claimed).slots[index]? =
      some { slot with state := .claimed } := by
    change (arena.slots.set index _)[index]? = _
    rw [List.getElem?_set_self inside]
  unfold releaseClaimed view
  rw [found]
  dsimp only
  rw [if_neg nofun]

end ControllerRequestArena

namespace ControllerIngress

variable (ingress : ControllerIngress)

/-- Every outcome of an admission. -/
theorem submitAdmit_cases (epoch requestGeneration : ℕ)
    (promptTokenIds : List ℕ) (maximumNewTokens : ℕ) (sampling : ControllerRequestSampling) :
    (∃ status, ingress.submitAdmit epoch requestGeneration promptTokenIds
        maximumNewTokens sampling = (ingress, .error status)) ∨
    (∃ requests receipt status, PublishedRequest ingress.requests requests
        requestGeneration promptTokenIds maximumNewTokens sampling
        receipt ∧
      ingress.submitAdmit epoch requestGeneration promptTokenIds maximumNewTokens sampling =
          ({ ingress with requests := requests.clearSlot receipt.slotIndex }, .error status)) ∨
    ∃ mailbox requests receipt command, PublishedRequest ingress.requests requests
        requestGeneration promptTokenIds maximumNewTokens sampling
        receipt ∧
      ingress.mailbox.Queued mailbox command ∧
      command = ⟨.admission, ingress.mailbox.nextCommandSequence, epoch,
        requestGeneration, receipt.payloadDigest⟩ ∧
      ingress.submitAdmit epoch requestGeneration promptTokenIds
        maximumNewTokens sampling = (⟨mailbox, requests⟩, .ok command) := by
  unfold submitAdmit
  split
  · exact .inl ⟨_, rfl⟩
  unfold publishRequest
  rcases ingress.requests.publish_cases requestGeneration promptTokenIds
      maximumNewTokens sampling with
    ⟨status, refused⟩ | ⟨requests, receipt, done, published⟩
  · rw [refused]
    exact .inl ⟨status, rfl⟩
  rw [done]
  dsimp only
  unfold submitCommand
  rcases ingress.mailbox.submitCommand_cases .admission epoch
      requestGeneration receipt.payloadDigest with
    ⟨status, refused⟩ |
    ⟨mailbox, command, queued, value, -, -, commands, events, counter, owner⟩
  · rw [refused]
    dsimp only
    unfold rollbackRequest
    rcases requests.rollbackPublished_cases receipt with ⟨-, -, unmatched⟩ | ⟨-, -, -, -, undone⟩
    · exfalso
      rcases published.free with ⟨_, found, -⟩
      have inside := (List.getElem_of_getElem? found).1
      apply unmatched _ (by
        rw [published.next_eq]
        exact List.getElem?_set_self inside)
      exact ⟨rfl, rfl, published.requestGeneration_eq.symm, rfl⟩
    rw [undone]
    exact .inr (.inl ⟨requests, receipt, status, published, rfl⟩)
  rw [queued]
  exact .inr (.inr ⟨mailbox, requests, receipt, command, published,
    ⟨commands, events, counter, owner⟩, value, rfl⟩)

/-- Every outcome of a cancellation request. -/
theorem submitCancel_cases (epoch requestGeneration : ℕ) :
    (∃ status, ingress.submitCancel epoch requestGeneration = (ingress, .error status)) ∨
    ∃ mailbox digest command, controllerCancelPayloadDigest epoch requestGeneration = .ok digest ∧
      ingress.mailbox.Queued mailbox command ∧
      command = ⟨.cancel, ingress.mailbox.nextCommandSequence, epoch, requestGeneration, digest⟩ ∧
      ingress.submitCancel epoch requestGeneration = ({ ingress with mailbox }, .ok command) := by
  unfold submitCancel
  split
  · exact .inl ⟨_, rfl⟩
  case h_2 digest digested =>
    unfold submitCommand
    rcases ingress.mailbox.submitCommand_cases .cancel epoch requestGeneration digest with
      ⟨status, refused⟩ |
      ⟨mailbox, command, queued, value, -, -, commands, events, counter, owner⟩
    · rw [refused]
      exact .inl ⟨status, rfl⟩
    rw [queued]
    exact .inr ⟨mailbox, digest, command, digested, ⟨commands, events, counter, owner⟩, value, rfl⟩

/-- Every outcome of taking a command. -/
theorem tryTakeCommand_cases (thread : ThreadId) : (¬ ingress.mailbox.Owner thread ∧ ∃ status,
      ingress.tryTakeCommand thread = (ingress, .error status)) ∨
    (∃ mailbox, SameQueues thread ingress.mailbox mailbox ∧ ingress.tryTakeCommand thread =
        ({ ingress with mailbox }, .ok none)) ∨
    (∃ mailbox command status, Took thread ingress.mailbox command mailbox ∧
      command.kind = .admission ∧
      ((∀ slot ∈ ingress.requests.slots, ¬ publishedWith command.requestGeneration slot = true) ∨
        ∃ slot ∈ ingress.requests.slots, publishedWith command.requestGeneration slot = true ∧
            slot.payloadDigest ≠ command.payloadDigest) ∧
      ingress.tryTakeCommand thread = ({ ingress with mailbox }, .error status)) ∨
    (∃ mailbox command index slot, Took thread ingress.mailbox command mailbox ∧
      command.kind = .admission ∧
      ingress.requests.Claimed command index slot ∧
      ingress.tryTakeCommand thread = (⟨mailbox, ingress.requests.setState index slot .claimed⟩,
          .ok (some ⟨command, some (ingress.requests.view index slot)⟩))) ∨
    ∃ mailbox command, Took thread ingress.mailbox command mailbox ∧ command.kind ≠ .admission ∧
      ingress.tryTakeCommand thread = ({ ingress with mailbox }, .ok (some ⟨command, none⟩)) := by
  unfold tryTakeCommand
  rcases ingress.mailbox.tryTakeCommand_cases thread with ⟨foreign, status, taken⟩ | ⟨-, -, taken⟩ |
    ⟨command, rest, owner, taken, queue⟩
  · rw [taken]
    exact .inl ⟨foreign, status, rfl⟩
  · rw [taken]
    exact .inr (.inl ⟨{ ingress.mailbox with controllerThread := some thread },
        ⟨rfl, rfl, rfl, rfl, .inr rfl⟩, rfl⟩)
  rw [taken]
  dsimp only
  have took : Took thread ingress.mailbox command
      { ingress.mailbox with commands := rest, controllerThread := some thread } :=
    ⟨owner, queue, rfl, rfl, rfl⟩
  right
  right
  split
  case isTrue admission =>
    rcases ingress.requests.claim_cases command.requestGeneration command.payloadDigest with
      ⟨⟨_, refused⟩, why⟩ |
      ⟨index, slot, found, published, generation, digest, claimed⟩
    · rw [refused]
      exact .inl ⟨_, command, _, took, admission, why, rfl⟩
    rw [claimed]
    exact .inr (.inl ⟨_, command, index, slot, took, admission,
      ⟨found, published, generation, digest⟩, rfl⟩)
  case isFalse other => exact .inr (.inr ⟨_, command, took, other, rfl⟩)

/-- Every outcome of releasing a request. -/
theorem releaseRequest_cases (request : ControllerRequestView) :
    (∃ status, ingress.releaseRequest request = (ingress, .error status) ∧
      ∀ slot, ingress.requests.slots[request.slotIndex]? = some slot →
        ¬ (slot.state = .claimed ∧ slot.generation = request.slotGeneration)) ∨
    ∃ slot, ingress.requests.slots[request.slotIndex]? = some slot ∧ slot.state = .claimed ∧
      slot.generation = request.slotGeneration ∧
      ingress.releaseRequest request =
        ({ ingress with requests := ingress.requests.clearSlot request.slotIndex }, .ok ()) := by
  unfold releaseRequest
  rcases ingress.requests.releaseClaimed_cases request.slotIndex request.slotGeneration with
    ⟨status, refused, why⟩ | ⟨slot, found, claimed, generation, released⟩
  · rw [refused]
    exact .inl ⟨status, rfl, why⟩
  rw [released]
  exact .inr ⟨slot, found, claimed, generation, rfl⟩

end ControllerIngress

end Pih
