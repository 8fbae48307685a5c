import Pih.Core.Sha256
import Pih.Library.RingBuffer

/-!
# The controller mailbox

Two bounded rings: commands from any submitter to the controller, and output
events from the controller to the consumer.  The thread that first takes a
command or publishes an event becomes the owner, and both operations then
fail on every other thread.  Each call holds the mailbox lock from its first
to its last line, so a call is one atomic step; the calling thread is an
argument of the operations that look at it.

The provider accepts ring capacities of at most 4096
(`controller_provider.cpp:97-98`), so a cell index is computed without the
32-bit wrap of `head + size`.
-/

namespace Pih

open RingBuffer

/-- The identity of an operating system thread. -/
abbrev ThreadId := ℕ

/-- The vocabulary bound that every token id is checked against. -/
def kVocabularySize : ℕ := 151936

inductive ControllerCommandKind where
  | admission
  | cancel
  | shutdown
deriving DecidableEq, Repr

/-- A command in the queue. -/
structure ControllerCommand where
  kind : ControllerCommandKind
  commandSequence : ℕ
  epoch : ℕ
  requestGeneration : ℕ
  payloadDigest : Sha256Digest
deriving DecidableEq

inductive ControllerOutputEventKind where
  | admitted
  | tokenCommitted
  | draining
  | completed
  | cancelled
  | failed
deriving DecidableEq, Repr

inductive ControllerFinishReason where
  | none
  | stop
  | length
deriving DecidableEq, Repr

/-- An event before it is numbered. -/
structure ControllerOutputEventDraft where
  kind : ControllerOutputEventKind
  epoch : ℕ
  requestGeneration : ℕ
  tokenOrdinal : ℕ
  tokenId : ℕ
  stateDigest : Sha256Digest
  planSequence : ℕ := 0
  planEventIndex : ℕ := 0
  planEventCount : ℕ := 0
  finishReason : ControllerFinishReason := .none
deriving DecidableEq

/-- A published event is a draft with its place in the event order. -/
structure ControllerOutputEvent extends ControllerOutputEventDraft where
  eventSequence : ℕ
deriving DecidableEq

structure ControllerMailboxLimits where
  commandCapacity : ℕ
  eventCapacity : ℕ
deriving DecidableEq

structure ControllerMailbox where
  commands : RingBuffer ControllerCommand
  events : RingBuffer ControllerOutputEvent
  nextCommandSequence : ℕ
  nextEventSequence : ℕ
  controllerThread : Option ThreadId
deriving DecidableEq

namespace ControllerMailbox

/-- The contents of a command cell that was never written. -/
def blankCommand : ControllerCommand := ⟨.admission, 0, 0, 0, .zero⟩

/-- The contents of an event cell that was never written. -/
def blankEvent : ControllerOutputEvent :=
  { kind := .admitted
    epoch := 0
    requestGeneration := 0
    tokenOrdinal := 0
    tokenId := 0
    stateDigest := .zero
    eventSequence := 0 }

def create (limits : ControllerMailboxLimits) : Result ControllerMailbox :=
  if positive : 0 < limits.commandCapacity ∧ 0 < limits.eventCapacity then
    .ok
      { commands := .empty limits.commandCapacity blankCommand positive.1
        events := .empty limits.eventCapacity blankEvent positive.2
        nextCommandSequence := 1
        nextEventSequence := 1
        controllerThread := none }
  else .error (.invalidArgument "controller mailbox limits must be nonzero")

variable (mailbox : ControllerMailbox)

/-- The commands that wait for the controller, oldest first. -/
def queuedCommands : List ControllerCommand := mailbox.commands.toList

/-- The events that wait for the consumer, oldest first. -/
def queuedEvents : List ControllerOutputEvent := mailbox.events.toList

/-- Number a command and queue it. -/
def submitCommand (kind : ControllerCommandKind) (epoch requestGeneration : ℕ)
    (payloadDigest : Sha256Digest) :
    ControllerMailbox × Result ControllerCommand :=
  if epoch = 0 ∨ requestGeneration = 0 ∨ ¬ payloadDigest.nonzero then
    (mailbox, .error (.invalidArgument "controller command identity is invalid"))
  else if room : mailbox.commands.size < mailbox.commands.storage.length then
    if mailbox.nextCommandSequence = 0 then
      (mailbox, .error (.failedPrecondition "controller command sequence wrapped"))
    else
      let command : ControllerCommand :=
        ⟨kind, mailbox.nextCommandSequence, epoch, requestGeneration, payloadDigest⟩
      ({ mailbox with
          commands := mailbox.commands.push command room
          nextCommandSequence := nextU64 mailbox.nextCommandSequence },
        .ok command)
  else (mailbox, .error (.resourceExhausted "controller command mailbox is full"))

def requireControllerThread (thread : ThreadId) : ControllerMailbox × Result Unit :=
  match mailbox.controllerThread with
  | none => ({ mailbox with controllerThread := some thread }, .ok ())
  | some owner =>
    if owner ≠ thread then
      (mailbox, .error (.failedPrecondition "controller mailbox has another owner"))
    else (mailbox, .ok ())

def tryTakeCommand (thread : ThreadId) : ControllerMailbox × Result (Option ControllerCommand) :=
  match mailbox.requireControllerThread thread with
  | (owned, .error status) => (owned, .error status)
  | (owned, .ok ()) =>
    match owned.commands.pop with
    | none => (owned, .ok none)
    | some (command, rest) => ({ owned with commands := rest }, .ok (some command))

end ControllerMailbox

namespace ControllerOutputEventDraft

def planBundle (draft : ControllerOutputEventDraft) : Bool :=
  draft.planSequence ≠ 0 ∨ draft.planEventIndex ≠ 0 ∨ draft.planEventCount ≠ 0

/-- The checks that `publish_event` makes on the draft alone. -/
def wellFormed (draft : ControllerOutputEventDraft) : Bool :=
  let tokenEvent : Bool := draft.kind = .tokenCommitted
  let terminalReason : Bool := draft.finishReason ≠ .none
  ¬ (draft.epoch = 0 ∨ draft.requestGeneration = 0 ∨ ¬ draft.stateDigest.nonzero ∨
    (tokenEvent ∧ (draft.tokenOrdinal = 0 ∨ draft.tokenId ≥ kVocabularySize)) ∨
    (¬ tokenEvent ∧ (draft.tokenOrdinal ≠ 0 ∨ draft.tokenId ≠ 0)) ∨
    (draft.planBundle ∧ (draft.planSequence = 0 ∨ draft.planEventCount = 0 ∨
        draft.planEventIndex ≥ draft.planEventCount)) ∨
    (tokenEvent ∧ (¬ draft.planBundle ∨ terminalReason)) ∨
    (terminalReason ∧ (draft.kind ≠ .draining ∨ ¬ draft.planBundle)))

end ControllerOutputEventDraft

namespace ControllerMailbox

variable (mailbox : ControllerMailbox)

/-- Number an event and queue it. -/
def publishEvent (thread : ThreadId) (draft : ControllerOutputEventDraft) :
    ControllerMailbox × Result ControllerOutputEvent :=
  match mailbox.requireControllerThread thread with
  | (owned, .error status) => (owned, .error status)
  | (owned, .ok ()) =>
    if ¬ draft.wellFormed then
      (owned, .error (.invalidArgument "controller output event is invalid"))
    else if room : owned.events.size < owned.events.storage.length then
      if owned.nextEventSequence = 0 then
        (owned, .error (.failedPrecondition "controller event sequence wrapped"))
      else
        let event : ControllerOutputEvent := ⟨draft, owned.nextEventSequence⟩
        ({ owned with
            events := owned.events.push event room
            nextEventSequence := nextU64 owned.nextEventSequence },
          .ok event)
    else (owned, .error (.resourceExhausted "controller output mailbox is full"))

def tryTakeEvent : ControllerMailbox × Result (Option ControllerOutputEvent) :=
  match mailbox.events.pop with
  | none => (mailbox, .ok none)
  | some (event, rest) => ({ mailbox with events := rest }, .ok (some event))

def commandSize : ℕ := mailbox.commands.size

def eventSize : ℕ := mailbox.events.size

def eventAvailableCapacity : ℕ := mailbox.events.storage.length - mailbox.events.size

/-! ## What the operations do -/

@[simp]
theorem length_queuedEvents : mailbox.queuedEvents.length = mailbox.events.size :=
  mailbox.events.length_toList

/-- The thread may act as the controller. -/
def Owner (thread : ThreadId) : Prop :=
  mailbox.controllerThread = none ∨ mailbox.controllerThread = some thread

instance (mailbox : ControllerMailbox) (thread : ThreadId) : Decidable (mailbox.Owner thread) :=
  inferInstanceAs (Decidable (_ ∨ _))

/-- Two mailboxes that differ at most in that the thread became the owner. -/
structure SameQueues (thread : ThreadId) (mailbox next : ControllerMailbox) : Prop where
  commands : next.commands = mailbox.commands
  events : next.events = mailbox.events
  nextCommandSequence : next.nextCommandSequence = mailbox.nextCommandSequence
  nextEventSequence : next.nextEventSequence = mailbox.nextEventSequence
  owner : next.controllerThread = mailbox.controllerThread ∨ next.controllerThread = some thread

theorem SameQueues.refl (thread : ThreadId) (mailbox : ControllerMailbox) :
    SameQueues thread mailbox mailbox :=
  ⟨rfl, rfl, rfl, rfl, .inl rfl⟩

theorem SameQueues.owns {mailbox next : ControllerMailbox}
    (queues : SameQueues thread mailbox next) (owner : mailbox.Owner thread) :
    next.Owner thread := by
  rcases queues.owner with same | claimed
  · unfold Owner
    rw [same]
    exact owner
  · exact .inr claimed

theorem requireControllerThread_cases : (¬ mailbox.Owner thread ∧ ∃ status,
        mailbox.requireControllerThread thread = (mailbox, .error status)) ∨
      mailbox.Owner thread ∧ mailbox.requireControllerThread thread =
          ({ mailbox with controllerThread := some thread }, .ok ()) := by
  obtain ⟨_, _, _, _, owner⟩ := mailbox
  cases owner with
  | none => exact .inr ⟨.inl rfl, rfl⟩
  | some owner =>
    by_cases same : owner = thread
    · subst same
      exact .inr ⟨.inr rfl, by simp [requireControllerThread]⟩
    exact .inl ⟨by simp [Owner, same], _, if_pos same⟩

/-- Every outcome of a command submission. -/
theorem submitCommand_cases (kind : ControllerCommandKind)
    (epoch requestGeneration : ℕ) (payloadDigest : Sha256Digest) :
    (∃ status, mailbox.submitCommand kind epoch requestGeneration payloadDigest =
        (mailbox, .error status)) ∨
    ∃ next command, mailbox.submitCommand kind epoch requestGeneration payloadDigest =
        (next, .ok command) ∧
      command = ⟨kind, mailbox.nextCommandSequence, epoch, requestGeneration, payloadDigest⟩ ∧
      requestGeneration ≠ 0 ∧
      epoch ≠ 0 ∧
      next.queuedCommands = mailbox.queuedCommands ++ [command] ∧
      next.events = mailbox.events ∧
      next.nextEventSequence = mailbox.nextEventSequence ∧
      next.controllerThread = mailbox.controllerThread := by
  unfold submitCommand
  split
  · exact .inl ⟨_, rfl⟩
  rename_i identity
  split
  case isTrue room =>
    split
    · exact .inl ⟨_, rfl⟩
    refine .inr ⟨_, _, rfl, rfl, ?_, ?_, ?_, rfl, rfl, rfl⟩
    · exact fun zero => identity (.inr (.inl zero))
    · exact fun zero => identity (.inl zero)
    · exact toList_push _ _ room
  · exact .inl ⟨_, rfl⟩

/-- Every outcome of taking a command. -/
theorem tryTakeCommand_cases (thread : ThreadId) : (¬ mailbox.Owner thread ∧ ∃ status,
        mailbox.tryTakeCommand thread = (mailbox, .error status)) ∨
    (mailbox.Owner thread ∧ mailbox.queuedCommands = [] ∧ mailbox.tryTakeCommand thread =
        ({ mailbox with controllerThread := some thread }, .ok none)) ∨
    ∃ command rest, mailbox.Owner thread ∧ mailbox.tryTakeCommand thread =
        ({ mailbox with commands := rest, controllerThread := some thread }, .ok (some command)) ∧
      mailbox.queuedCommands = command :: rest.toList := by
  unfold tryTakeCommand
  rcases mailbox.requireControllerThread_cases with ⟨foreign, status, required⟩ | ⟨owner, required⟩
  · exact .inl ⟨foreign, status, by simp [required]⟩
  rw [required]
  dsimp only
  cases popped : mailbox.commands.pop with
  | none => exact .inr (.inl ⟨owner, (pop_eq_none_iff _).mp popped, rfl⟩)
  | some pair =>
    obtain ⟨command, rest⟩ := pair
    exact .inr (.inr ⟨command, rest, owner, rfl, (toList_of_pop popped).1⟩)

/-- A publication that added the event of a draft to the queue. -/
structure Published (mailbox next : ControllerMailbox) (thread : ThreadId)
    (draft : ControllerOutputEventDraft) : Prop where
  owner : mailbox.Owner thread
  wellFormed : draft.wellFormed = true
  counter : mailbox.nextEventSequence ≠ 0
  room : mailbox.events.size < mailbox.events.capacity
  queuedEvents : next.queuedEvents = mailbox.queuedEvents ++ [⟨draft, mailbox.nextEventSequence⟩]
  capacity : next.events.capacity = mailbox.events.capacity
  nextEventSequence : next.nextEventSequence = nextU64 mailbox.nextEventSequence
  commands : next.commands = mailbox.commands
  nextCommandSequence : next.nextCommandSequence = mailbox.nextCommandSequence
  controllerThread : next.controllerThread = some thread

/-- Every outcome of a publication. -/
theorem publishEvent_cases (thread : ThreadId) (draft : ControllerOutputEventDraft) :
    (∃ next status, mailbox.publishEvent thread draft = (next, .error status) ∧
      SameQueues thread mailbox next ∧
      ¬ (mailbox.Owner thread ∧ draft.wellFormed = true ∧
        mailbox.events.size < mailbox.events.capacity ∧
        mailbox.nextEventSequence ≠ 0)) ∨
    ∃ next, mailbox.publishEvent thread draft = (next, .ok ⟨draft, mailbox.nextEventSequence⟩) ∧
      Published mailbox next thread draft := by
  unfold publishEvent
  rcases mailbox.requireControllerThread_cases with ⟨foreign, status, required⟩ | ⟨owner, required⟩
  · rw [required]
    exact .inl ⟨mailbox, status, rfl, .refl thread mailbox, fun good => foreign good.1⟩
  rw [required]
  dsimp only
  split
  case isTrue malformed =>
    exact .inl ⟨_, _, rfl, ⟨rfl, rfl, rfl, rfl, .inr rfl⟩, fun good => malformed good.2.1⟩
  rename_i wellFormed
  split
  case isTrue room =>
    split
    case isTrue wrapped =>
      exact .inl ⟨_, _, rfl, ⟨rfl, rfl, rfl, rfl, .inr rfl⟩, fun good => good.2.2.2 wrapped⟩
    rename_i counter
    exact .inr ⟨_, rfl,
      { owner
        wellFormed := not_not.mp wellFormed
        counter
        room
        queuedEvents := toList_push _ _ room
        capacity := capacity_push _ _ room
        nextEventSequence := rfl
        commands := rfl
        nextCommandSequence := rfl
        controllerThread := rfl }⟩
  rename_i full
  exact .inl ⟨_, _, rfl, ⟨rfl, rfl, rfl, rfl, .inr rfl⟩, fun good => full good.2.2.1⟩

/-- Every outcome of taking an event. -/
theorem tryTakeEvent_cases : (mailbox.queuedEvents = [] ∧
      mailbox.tryTakeEvent = (mailbox, .ok none)) ∨
    ∃ event rest, mailbox.tryTakeEvent = ({ mailbox with events := rest }, .ok (some event)) ∧
      mailbox.queuedEvents = event :: rest.toList ∧
      rest.capacity = mailbox.events.capacity := by
  unfold tryTakeEvent
  cases popped : mailbox.events.pop with
  | none => exact .inl ⟨(pop_eq_none_iff _).mp popped, rfl⟩
  | some pair =>
    obtain ⟨event, rest⟩ := pair
    obtain ⟨queue, capacity⟩ := toList_of_pop popped
    exact .inr ⟨event, rest, rfl, queue, capacity⟩

end ControllerMailbox

end Pih
