import Pih.Scheduler.ControllerMailbox

/-!
# What an operation adds to the event stream

`Emits` relates a mailbox before and after an operation to the drafts that
the operation published.  Everything else about the mailbox stays as it was,
except that the calling thread may have become the owner.
-/

namespace Pih

open List

namespace ControllerMailbox

section

variable (thread : ThreadId) (mailbox : ControllerMailbox)

/--
The thread published these drafts, in order, and did nothing else to the
mailbox.
-/
inductive Emits : List ControllerOutputEventDraft → ControllerMailbox → Prop where
  | same {next : ControllerMailbox} (queues : SameQueues thread mailbox next) : Emits [] next
  | publish {middle next : ControllerMailbox}
    {drafts : List ControllerOutputEventDraft}
    {draft : ControllerOutputEventDraft}
    (earlier : Emits drafts middle)
    (published : Published middle next thread draft) :
    Emits (drafts ++ [draft]) next
  | claim {middle next : ControllerMailbox}
    {drafts : List ControllerOutputEventDraft}
    (earlier : Emits drafts middle)
    (queues : SameQueues thread middle next) :
    Emits drafts next

end

namespace Emits

variable {next : ControllerMailbox}

theorem refl (thread : ThreadId) (mailbox : ControllerMailbox) : Emits thread mailbox [] mailbox :=
  .same (.refl thread mailbox)

theorem single (published : Published mailbox next thread draft) :
    Emits thread mailbox [draft] next :=
  .publish (.refl thread mailbox) published

theorem trans (earlier : Emits thread mailbox first middle)
    (later : Emits thread middle second next) : Emits thread mailbox (first ++ second) next := by
  induction later with
  | same queues =>
    rw [append_nil]
    exact .claim earlier queues
  | publish _ published induction =>
    rw [← append_assoc]
    exact .publish induction published
  | claim _ queues induction => exact .claim induction queues

/-- The events that were added to the queue. -/
theorem queuedEvents (emits : Emits thread mailbox drafts next) :
    ∃ events : List ControllerOutputEvent, next.queuedEvents = mailbox.queuedEvents ++ events ∧
      events.map ControllerOutputEvent.toControllerOutputEventDraft = drafts := by
  induction emits with
  | same queues => exact ⟨[], by simp [ControllerMailbox.queuedEvents, queues.events]⟩
  | @publish middle _ _ draft _ published induction =>
    rcases induction with ⟨events, queue, drafted⟩
    refine ⟨events ++ [⟨draft, middle.nextEventSequence⟩], ?_, ?_⟩
    · rw [published.queuedEvents, queue, append_assoc]
    · rw [map_append, drafted]
      rfl
  | claim _ queues induction =>
    rcases induction with ⟨events, queue, drafted⟩
    refine ⟨events, ?_, drafted⟩
    rw [← queue]
    simp [ControllerMailbox.queuedEvents, queues.events]

/-- The commands and the capacity are not affected. -/
theorem frame (emits : Emits thread mailbox drafts next) : next.commands = mailbox.commands ∧
      next.nextCommandSequence = mailbox.nextCommandSequence ∧
      next.events.capacity = mailbox.events.capacity := by
  induction emits with
  | same queues => exact ⟨queues.commands, queues.nextCommandSequence, by rw [queues.events]⟩
  | publish _ published induction =>
    exact ⟨published.commands.trans induction.1, published.nextCommandSequence.trans induction.2.1,
      published.capacity.trans induction.2.2⟩
  | claim _ queues induction =>
    exact ⟨queues.commands.trans induction.1, queues.nextCommandSequence.trans induction.2.1,
      by rw [queues.events, induction.2.2]⟩

end Emits

/-! ## Publications that cannot fail -/

/-- The mailbox will take all of these drafts from the thread. -/
structure Accepts (mailbox : ControllerMailbox) (thread : ThreadId)
    (drafts : List ControllerOutputEventDraft) : Prop where
  owner : mailbox.Owner thread
  wellFormed : ∀ draft ∈ drafts, draft.wellFormed = true
  room : mailbox.queuedEvents.length + drafts.length ≤ mailbox.events.capacity
  counter : drafts ≠ [] → mailbox.nextEventSequence ≠ 0 ∧
      mailbox.nextEventSequence + drafts.length ≤ u64Max + 1

theorem Accepts.first {mailbox : ControllerMailbox}
    (accepts : mailbox.Accepts thread (draft :: rest)) :
    mailbox.Owner thread ∧ draft.wellFormed = true ∧ mailbox.events.size < mailbox.events.capacity ∧
      mailbox.nextEventSequence ≠ 0 := by
  have room := accepts.room
  rw [length_queuedEvents, length_cons] at room
  exact ⟨accepts.owner, accepts.wellFormed draft (.head _), by omega,
    (accepts.counter (cons_ne_nil _ _)).1⟩

variable {next : ControllerMailbox}

theorem Accepts.published (accepts : mailbox.Accepts thread (draft :: rest))
    (published : Published mailbox next thread draft) :
    next.Accepts thread rest where
  owner := .inr published.controllerThread
  wellFormed := fun other member => accepts.wellFormed other (.tail _ member)
  room := by
    have room := accepts.room
    rw [published.queuedEvents, published.capacity, length_append, length_singleton]
    rw [length_cons] at room
    omega
  counter := by
    intro more
    have bound := (accepts.counter (cons_ne_nil _ _)).2
    have positive := length_pos_iff.mpr more
    rw [length_cons] at bound
    rw [published.nextEventSequence, nextU64_of_lt (by omega)]
    omega

theorem Accepts.same (accepts : mailbox.Accepts thread drafts)
    (queues : SameQueues thread mailbox next) : next.Accepts thread drafts where
  owner := queues.owns accepts.owner
  wellFormed := accepts.wellFormed
  room := by
    simpa [queuedEvents, queues.events] using accepts.room
  counter := by
    rw [queues.nextEventSequence]
    exact accepts.counter

variable {first : List ControllerOutputEventDraft}

theorem Accepts.left {mailbox : ControllerMailbox}
    (accepts : mailbox.Accepts thread (first ++ second)) :
    mailbox.Accepts thread first where
  owner := accepts.owner
  wellFormed := fun draft member => accepts.wellFormed draft (mem_append_left _ member)
  room := by
    have room := accepts.room
    rw [length_append] at room
    omega
  counter := by
    intro some
    have counter := accepts.counter (append_ne_nil_of_left_ne_nil some _)
    rw [length_append] at counter
    omega

/-- What is accepted as a whole is accepted after its first part. -/
theorem Accepts.emits (accepts : mailbox.Accepts thread (first ++ second))
    (emits : Emits thread mailbox first next) : next.Accepts thread second := by
  induction emits generalizing second with
  | same queues => exact accepts.same queues
  | publish _ published induction =>
    rw [append_assoc] at accepts
    exact (induction accepts).published published
  | claim _ queues induction => exact (induction accepts).same queues

/-! ## Event numbers -/

/--
The event counter after `count` publications.  It wraps to zero after the
last number, and a counter at zero publishes nothing.
-/
def CounterAgrees (count next : ℕ) : Prop := count ≤ u64Max ∧ next = (count + 1) % (u64Max + 1)

/-- The events are numbered from one without a gap. -/
def Consecutive (events : List ControllerOutputEvent) : Prop :=
  events.map ControllerOutputEvent.eventSequence = range' 1 events.length

theorem counterAgrees_start : CounterAgrees 0 1 := ⟨Nat.zero_le _, rfl⟩

theorem CounterAgrees.publish {count next : ℕ}
    (agrees : CounterAgrees count next) (nonzero : next ≠ 0) :
    next = count + 1 ∧ CounterAgrees (count + 1) (nextU64 next) := by
  rcases agrees with ⟨bound, next_eq⟩
  have room : count < u64Max := by
    rcases Nat.lt_or_eq_of_le bound with below | equal
    · exact below
    subst equal
    exact (nonzero (next_eq.trans (Nat.mod_self _))).elim
  have value : next = count + 1 := next_eq.trans (Nat.mod_eq_of_lt (Nat.succ_lt_succ room))
  refine ⟨value, room, ?_⟩
  rw [nextU64, value]

theorem Consecutive.snoc {events : List ControllerOutputEvent} (consecutive : Consecutive events)
    (number : event.eventSequence = events.length + 1) : Consecutive (events ++ [event]) := by
  unfold Consecutive at consecutive ⊢
  rw [map_append, consecutive, length_append,
    length_singleton, range'_1_concat, map_singleton, number, Nat.add_comm]

/-- Publications continue the numbering of everything published before. -/
theorem Emits.consecutive (emits : Emits thread mailbox drafts next)
    (consecutive : Consecutive (earlier ++ mailbox.queuedEvents))
    (agrees : CounterAgrees (earlier ++ mailbox.queuedEvents).length mailbox.nextEventSequence) :
    Consecutive (earlier ++ next.queuedEvents) ∧ CounterAgrees (earlier ++ next.queuedEvents).length
      next.nextEventSequence := by
  induction emits with
  | same queues =>
    simpa [ControllerMailbox.queuedEvents, queues.events,
      queues.nextEventSequence] using And.intro consecutive agrees
  | publish _ published induction =>
    rcases induction with ⟨consecutive, agrees⟩
    rcases agrees.publish published.counter with ⟨value, advanced⟩
    rw [published.queuedEvents, published.nextEventSequence, ← append_assoc]
    refine ⟨consecutive.snoc value, ?_⟩
    rw [length_append]
    exact advanced
  | claim _ queues induction =>
    simpa [ControllerMailbox.queuedEvents, queues.events, queues.nextEventSequence] using induction

end ControllerMailbox

end Pih
