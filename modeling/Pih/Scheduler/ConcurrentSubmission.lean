import Mathlib.Data.List.Perm.Basic
import Pih.Scheduler.RequestBookkeeping

/-!
# Concurrent submitters

An admission is three atomic parts: publish the payload, queue the command
and, if the queue refuses it, take the payload back.  Other threads run in
between.  The system below interleaves the parts of any number of submitters
with all calls of the runtime; a submitter may be overtaken by a failure of
the runtime, so its parts are possible in every state.
-/

namespace Pih

open List

open ControllerMailbox
open ControllerRequestArena (QueueLedger ne_free_of_claimed ne_free_of_published)

/-- A submitter that has published its payload and is not done. -/
structure Submitter where
  receipt : ControllerRequestReceipt
  /-- The mailbox refused the command, so the payload is to be taken back. -/
  refused : Bool := false
deriving DecidableEq

/-- A runtime and the submitters at work. -/
structure SubmissionSystem where
  runtime : ControllerRuntime
  submitters : List Submitter := []

/-- A step of a submitter or of the controller. -/
inductive SubmissionAction where
  | call (call : ControllerCall)
  | publish (requestGeneration : ℕ) (promptTokenIds : List ℕ)
    (maximumNewTokens : ℕ) (sampling : ControllerRequestSampling)
  | submit (position : ℕ)
  | rollback (position : ℕ)

namespace SubmissionSystem

open ControllerRuntime

/-- The receipts of the payloads that are still being submitted. -/
def submitting (system : SubmissionSystem) : List ControllerRequestReceipt :=
  system.submitters.map Submitter.receipt

/-- One action; only a call of the runtime has an outcome. -/
def execute (system : SubmissionSystem) (action : SubmissionAction) :
    SubmissionSystem × Option ControllerOutcome :=
  match action with
  | .call call =>
    let answer := system.runtime.execute call
    ({ system with runtime := answer.1 }, some answer.2)
  | .publish generation prompt maximum sampling =>
    match system.runtime.ingress.publishRequest generation prompt maximum sampling with
    | (ingress, .error _) => ({ system with runtime := system.runtime.setIngress ingress }, none)
    | (ingress, .ok receipt) =>
      ({ runtime := system.runtime.setIngress ingress
         submitters := ⟨receipt, false⟩ :: system.submitters }, none)
  | .submit position =>
    match system.submitters[position]? with
    | some ⟨receipt, false⟩ =>
      match system.runtime.ingress.submitCommand .admission
          system.runtime.limits.epoch receipt.requestGeneration
          receipt.payloadDigest with
      | (ingress, .error _) =>
        ({ runtime := system.runtime.setIngress ingress
           submitters := system.submitters.set position ⟨receipt, true⟩ }, none)
      | (ingress, .ok _) =>
        ({ runtime := system.runtime.setIngress ingress
           submitters := system.submitters.eraseIdx position }, none)
    | _ => (system, none)
  | .rollback position =>
    match system.submitters[position]? with
    | some ⟨receipt, true⟩ =>
      let rolledBack := system.runtime.ingress.rollbackRequest receipt
      ({ runtime := system.runtime.setIngress rolledBack.1
         submitters := system.submitters.eraseIdx position }, none)
    | _ => (system, none)

/-- Runs of a fresh runtime with any number of submitters. -/
def Reaches (limits : ControllerRuntimeLimits) (history :
      List (Entry SubmissionSystem SubmissionAction (Option ControllerOutcome)))
    (system : SubmissionSystem) : Prop :=
  ∃ fresh, ControllerRuntime.create limits = .ok fresh ∧
    Run execute (fun _ _ _ => True) ⟨fresh, []⟩ history system

/-! ## The invariant of the system -/

structure Consistent (system : SubmissionSystem) : Prop where
  base : system.runtime.Base
  books : Bookkeeping system.submitting system.runtime

/-- The base invariants do not depend on the queue and the payloads. -/
theorem base_setIngress {runtime : ControllerRuntime} (base : runtime.Base)
    {ingress : ControllerIngress} (small : PromptsSmall ingress.requests) :
    (runtime.setIngress ingress).Base :=
  ⟨base.credits.frame rfl rfl rfl rfl, base.links.frame rfl rfl base.links.sized small id⟩

theorem submitting_eraseIdx {system : SubmissionSystem}
    (found : system.submitters[position]? = some submitter) :
    (submitter.receipt :: (system.submitters.eraseIdx position).map Submitter.receipt).Perm
      system.submitting := by
  rcases List.getElem_of_getElem? found with ⟨inside, value⟩
  have erased := List.getElem_cons_eraseIdx_perm inside
  rw [value] at erased
  exact erased.map Submitter.receipt

namespace Consistent

variable {system : SubmissionSystem}

variable (consistent : Consistent system)

include consistent

theorem call (call : ControllerCall) : Consistent (system.execute (.call call)).1 := by
  have transition := consistent.base.transition call
  exact ⟨consistent.base.preserved transition, consistent.books.preserved transition⟩

theorem publish (generation : ℕ) (prompt : List ℕ) (maximum : ℕ)
    (sampling : ControllerRequestSampling) :
    Consistent (system.execute (.publish generation prompt maximum sampling)).1 := by
  have small : PromptsSmall system.runtime.ingress.requests := consistent.base.links.prompts
  unfold execute ControllerIngress.publishRequest
  dsimp only
  rcases system.runtime.ingress.requests.publish_cases generation prompt maximum sampling with
    ⟨_, refused⟩ | ⟨_, _, done, published⟩
  · rw [refused]
    exact ⟨base_setIngress consistent.base small, consistent.books⟩
  rw [done]
  exact ⟨base_setIngress consistent.base (small.publish published),
    consistent.books.publish published⟩

theorem submit (position : ℕ) : Consistent (system.execute (.submit position)).1 := by
  have small : PromptsSmall system.runtime.ingress.requests := consistent.base.links.prompts
  unfold execute
  dsimp only
  split
  case h_1 receipt found =>
    unfold ControllerIngress.submitCommand
    rcases system.runtime.ingress.mailbox.submitCommand_cases .admission
        system.runtime.limits.epoch receipt.requestGeneration
        receipt.payloadDigest with
      ⟨_, refused⟩ |
      ⟨mailbox, command, done, value, -, -, commands, events, counter, owner⟩
    · rw [refused]
      refine ⟨base_setIngress consistent.base small, ?_⟩
      -- A refused submitter still has its receipt.
      have same : (system.submitters.set position ⟨receipt, true⟩).map
          Submitter.receipt = system.submitting := by
        rw [map_set]
        apply ext_getElem?
        intro place
        have held : system.submitting[position]? = some receipt := by
          unfold submitting
          rw [getElem?_map, found]
          rfl
        rcases getElem?_set_cases held place with ⟨rfl, written⟩ | ⟨-, kept⟩
        · exact written.trans held.symm
        · exact kept
      change Bookkeeping (map _ _) _
      rw [same]
      exact consistent.books
    rw [done]
    refine ⟨base_setIngress consistent.base small, ?_⟩
    have queued : system.runtime.ingress.mailbox.Queued mailbox command :=
      ⟨commands, events, counter, owner⟩
    have books := consistent.books.perm (submitting_eraseIdx found)
    have enqueued := books.enqueue queued
    rw [value] at enqueued
    exact enqueued rfl rfl rfl
  · exact consistent

theorem rollback (position : ℕ) : Consistent (system.execute (.rollback position)).1 := by
  have small : PromptsSmall system.runtime.ingress.requests := consistent.base.links.prompts
  unfold execute
  dsimp only
  split
  case h_1 receipt found =>
    have books := consistent.books.perm (submitting_eraseIdx found)
    rcases books.queue.received receipt (.head _) with ⟨slot, receives⟩
    unfold ControllerIngress.rollbackRequest
    rcases system.runtime.ingress.requests.rollbackPublished_cases receipt
        with ⟨_, -, stale⟩ | ⟨-, -, -, -, done⟩
    · exact (stale slot receives.found ⟨receives.published, receives.generation,
          receives.requestGeneration, receives.payloadDigest⟩).elim
    rw [done]
    exact ⟨base_setIngress consistent.base (small.clearSlot _), books.rollback⟩
  · exact consistent

end Consistent

theorem Reaches.consistent {limits : ControllerRuntimeLimits}
    (reaches : Reaches limits history system) : Consistent system := by
  rcases reaches with ⟨_, created, run⟩
  refine run.invariant (fun _ system => Consistent system) ?_ ?_
  · have start := create_fresh created
    exact ⟨start.base, start.bookkeeping⟩
  · intro _ system action _ consistent _
    cases action with
    | call call => exact consistent.call call
    | publish generation prompt maximum sampling =>
      exact consistent.publish generation prompt maximum sampling
    | submit position => exact consistent.submit position
    | rollback position => exact consistent.rollback position

end SubmissionSystem

/-! ## The correspondence of requests -/

namespace ControllerRuntime

/-- The generation and digest of every queued admission. -/
def admissionKeys (runtime : ControllerRuntime) : List (ℕ × Sha256Digest) :=
  runtime.queuedAdmissions.map fun command => (command.requestGeneration, command.payloadDigest)

/-- The key of a published payload that no submitter works on. -/
def waitingKey (submitting : List ControllerRequestReceipt)
    (payload : RequestSlot × ℕ) : Option (ℕ × Sha256Digest) :=
  if payload.1.state = .published ∧
      payload.2 ∉ submitting.map ControllerRequestReceipt.slotIndex then
    some (payload.1.requestGeneration, payload.1.payloadDigest)
  else none

/-- The keys of the published payloads that are not being submitted. -/
def waitingKeys (submitting : List ControllerRequestReceipt)
    (arena : ControllerRequestArena) : List (ℕ × Sha256Digest) :=
  arena.slots.zipIdx.filterMap (waitingKey submitting)

/-- The generation of a live sequence. -/
def liveGeneration (slot : RuntimeSlot) : Option ℕ := slot.sequence.bind fun sequence =>
    if sequence.state.terminal then none
    else some sequence.sequenceGeneration

/-- The generation of a claimed payload. -/
def claimedGeneration (slot : RequestSlot) : Option ℕ :=
  if slot.state = .claimed then some slot.requestGeneration else none

theorem waitingKey_eq_some_iff :
    waitingKey submitting payload = some key ↔ payload.1.state = .published ∧
      payload.2 ∉ submitting.map ControllerRequestReceipt.slotIndex ∧
      (payload.1.requestGeneration, payload.1.payloadDigest) = key := by
  unfold waitingKey
  split
  case isTrue waits => simp [waits]
  case isFalse busy =>
    constructor
    · exact nofun
    · rintro ⟨published, free, -⟩
      exact (busy ⟨published, free⟩).elim

theorem liveGeneration_eq_some_iff : liveGeneration slot = some generation ↔
      ∃ sequence, slot.sequence = some sequence ∧ sequence.state.terminal = false ∧
        sequence.sequenceGeneration = generation := by
  unfold liveGeneration
  cases slot.sequence with
  | none => simp
  | some sequence => by_cases sequence.state.terminal <;> simp [*]

theorem claimedGeneration_eq_some_iff : claimedGeneration slot = some generation ↔
      slot.state = .claimed ∧ slot.requestGeneration = generation := by
  unfold claimedGeneration
  split <;> simp [*]

namespace Bookkeeping

/-- Queued admissions and waiting payloads correspond one to one. -/
theorem admissions_perm (books : Bookkeeping submitting runtime) :
    runtime.admissionKeys.Nodup ∧ runtime.admissionKeys.Perm
      (waitingKeys submitting runtime.ingress.requests) := by
  have queueNodup : runtime.admissionKeys.Nodup := by
    have distinct := books.queue.distinct
    have projected : runtime.admissionKeys.map Prod.fst =
        runtime.queuedAdmissions.map ControllerCommand.requestGeneration := by
      unfold admissionKeys
      rw [map_map]
      rfl
    rw [← projected] at distinct
    exact .of_map _ distinct
  have waitNodup : (waitingKeys submitting runtime.ingress.requests).Nodup := by
    apply nodup_filterMap
    rintro _ _ ⟨slot, index⟩ ⟨other, place⟩ key firstFound secondFound firstKey secondKey
    rcases waitingKey_eq_some_iff.mp firstKey with ⟨published, -, rfl⟩
    rcases waitingKey_eq_some_iff.mp secondKey with ⟨otherPublished, -, same⟩
    rw [getElem?_zipIdx, Option.map_eq_some_iff] at firstFound
    rw [getElem?_zipIdx, Option.map_eq_some_iff] at secondFound
    rcases firstFound with ⟨_, firstFound, equal⟩
    rcases secondFound with ⟨_, secondFound, otherEqual⟩
    cases equal
    cases otherEqual
    exact books.queue.resident _ _ _ _ firstFound secondFound (ne_free_of_published published)
      (ne_free_of_published otherPublished) (congrArg Prod.fst same).symm
  refine ⟨queueNodup, ?_⟩
  rw [perm_ext_iff_of_nodup queueNodup waitNodup]
  intro key
  unfold admissionKeys waitingKeys
  rw [mem_map, mem_filterMap]
  constructor
  · rintro ⟨command, listed, rfl⟩
    rcases books.queue.queued command listed with ⟨index, slot, claimed, apart⟩
    refine ⟨(slot, index), mem_zipIdx_iff_getElem?.mpr claimed.found,
      waitingKey_eq_some_iff.mpr ⟨claimed.published, ?_, ?_⟩⟩
    · intro member
      rcases mem_map.mp member with ⟨receipt, working, same⟩
      exact apart receipt working same
    · rw [claimed.requestGeneration, claimed.payloadDigest]
  · rintro ⟨⟨slot, index⟩, member, keyed⟩
    rcases waitingKey_eq_some_iff.mp keyed with ⟨published, free, rfl⟩
    have found := mem_zipIdx_iff_getElem?.mp member
    rcases books.queue.published index slot found published with
      ⟨receipt, working, same⟩ | ⟨command, listed, same⟩
    · exact (free (mem_map.mpr ⟨receipt, working, same⟩)).elim
    refine ⟨command, listed, ?_⟩
    rcases books.queue.queued command listed with ⟨place, _, claimed, -⟩
    have equal : place = index := books.queue.resident _ _ _ _ claimed.found found
        (ne_free_of_published claimed.published)
        (ne_free_of_published published)
        (claimed.requestGeneration.trans same)
    subst equal
    cases found.symm.trans claimed.found
    rw [same, claimed.payloadDigest]

/-- Live sequences and claimed payloads correspond one to one. -/
theorem live_perm (books : Bookkeeping submitting runtime) :
    (runtime.slots.filterMap liveGeneration).Nodup ∧ (runtime.slots.filterMap liveGeneration).Perm
      (runtime.ingress.requests.slots.filterMap claimedGeneration) := by
  have liveNodup : (runtime.slots.filterMap liveGeneration).Nodup := by
    apply nodup_filterMap
    intro first second slot other generation firstFound secondFound firstLive secondLive
    rcases liveGeneration_eq_some_iff.mp firstLive with ⟨sequence, held, live, same⟩
    rcases liveGeneration_eq_some_iff.mp secondLive with ⟨_, otherHeld, otherLive, otherSame⟩
    exact books.live.distinct _ _ _ _ _ _ ⟨⟨firstFound, held⟩, live⟩
      ⟨⟨secondFound, otherHeld⟩, otherLive⟩ (same.trans otherSame.symm)
  have claimedNodup : (runtime.ingress.requests.slots.filterMap claimedGeneration).Nodup := by
    apply nodup_filterMap
    intro first second slot other generation firstFound secondFound firstClaimed secondClaimed
    rcases claimedGeneration_eq_some_iff.mp firstClaimed with ⟨claimed, same⟩
    rcases claimedGeneration_eq_some_iff.mp secondClaimed with ⟨otherClaimed, otherSame⟩
    exact books.queue.resident _ _ _ _ firstFound secondFound
      (ne_free_of_claimed claimed) (ne_free_of_claimed otherClaimed)
      (same.trans otherSame.symm)
  refine ⟨liveNodup, ?_⟩
  rw [perm_ext_iff_of_nodup liveNodup claimedNodup]
  intro generation
  rw [mem_filterMap, mem_filterMap]
  constructor
  · rintro ⟨slot, member, isLive⟩
    rcases mem_iff_getElem?.mp member with ⟨index, found⟩
    rcases liveGeneration_eq_some_iff.mp isLive with ⟨sequence, held, live, rfl⟩
    rcases books.live.serving index slot sequence ⟨⟨found, held⟩, live⟩ with ⟨payload, serving⟩
    exact ⟨payload, mem_of_getElem? serving.found,
      claimedGeneration_eq_some_iff.mpr ⟨serving.claimed, serving.generation⟩⟩
  · rintro ⟨payload, member, isClaimed⟩
    rcases mem_iff_getElem?.mp member with ⟨index, found⟩
    rcases claimedGeneration_eq_some_iff.mp isClaimed with ⟨claimed, rfl⟩
    rcases books.live.claimed index payload found claimed with ⟨place, slot, sequence, live, served⟩
    refine ⟨slot, mem_of_getElem? live.holding.1,
      liveGeneration_eq_some_iff.mpr ⟨sequence, live.holding.2, live.live, ?_⟩⟩
    rcases books.live.serving place slot sequence live with ⟨_, serving⟩
    have otherFound := serving.found
    rw [served] at otherFound
    cases found.symm.trans otherFound
    exact serving.generation.symm

end Bookkeeping

end ControllerRuntime

end Pih
