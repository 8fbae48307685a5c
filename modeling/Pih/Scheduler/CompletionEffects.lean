import Pih.Scheduler.EventStream
import Pih.Scheduler.SlotMoves

/-!
# What a completion does

A validated completion determines, for each member of the plan, the sequence
that results and the events that are published.  The completion then either
carries all of that out, or stops at an event that the mailbox refuses; what
it did up to there is a prefix of the whole.
-/

namespace Pih.ControllerRuntime

open List

open ControllerMailbox (Emits SameQueues Published)

/-! ## Publishing -/

def withMailbox (runtime : ControllerRuntime) (mailbox : ControllerMailbox) : ControllerRuntime :=
  { runtime with ingress := { runtime.ingress with mailbox } }

theorem publish_cases (runtime : ControllerRuntime) (thread : ThreadId)
    (draft : ControllerOutputEventDraft) :
    (∃ mailbox status, runtime.publish thread draft = (runtime.withMailbox mailbox, .error status) ∧
      SameQueues thread runtime.ingress.mailbox mailbox ∧
      ¬ (runtime.ingress.mailbox.Owner thread ∧ draft.wellFormed = true ∧
        runtime.ingress.mailbox.events.size < runtime.ingress.mailbox.events.capacity ∧
        runtime.ingress.mailbox.nextEventSequence ≠ 0)) ∨
    ∃ mailbox event, runtime.publish thread draft = (runtime.withMailbox mailbox, .ok event) ∧
      Published runtime.ingress.mailbox mailbox thread draft := by
  rcases runtime.ingress.mailbox.publishEvent_cases thread draft with
    ⟨mailbox, status, equal, queues, refused⟩ | ⟨mailbox, equal, published⟩
  · refine .inl ⟨mailbox, status, ?_, queues, refused⟩
    simp [publish, ControllerIngress.publishEvent, equal, withMailbox, setIngress]
  refine .inr ⟨mailbox, ⟨draft, runtime.ingress.mailbox.nextEventSequence⟩, ?_, published⟩
  simp only [publish, ControllerIngress.publishEvent, equal, withMailbox, setIngress]

/-- The drafts of the accepted tokens of one member. -/
def tokenDrafts (context : CompletionContext) (requestGeneration : ℕ)
    (digest : Sha256Digest) : ℕ → ℕ → List ℕ → List ControllerOutputEventDraft
  | _, _, [] => []
  | ordinal, index, token :: rest =>
    bundleDraft context .tokenCommitted requestGeneration (ordinal + 1) token digest index .none ::
      tokenDrafts context requestGeneration digest (ordinal + 1) (index + 1) rest

@[simp]
theorem length_tokenDrafts :
    (tokenDrafts context requestGeneration digest ordinal index tokens).length = tokens.length := by
  induction tokens generalizing ordinal index with
  | nil => rfl
  | cons _ _ induction => simp [tokenDrafts, induction]

theorem publishTokens_cases (context : CompletionContext)
    (requestGeneration : ℕ) (digest : Sha256Digest)
    (runtime : ControllerRuntime) (ordinal index : ℕ) (tokens : List ℕ) :
    (∃ mailbox, publishTokens context requestGeneration digest runtime ordinal index
        tokens = (runtime.withMailbox mailbox, .ok ()) ∧
      Emits context.thread runtime.ingress.mailbox
        (tokenDrafts context requestGeneration digest ordinal index tokens)
        mailbox) ∨
    ∃ mailbox status drafts, publishTokens context requestGeneration digest runtime ordinal index
        tokens = ({ runtime.withMailbox mailbox with state := .failed }, .error status) ∧
      Emits context.thread runtime.ingress.mailbox drafts mailbox ∧
      drafts <+: tokenDrafts context requestGeneration digest ordinal index tokens ∧
      ¬ runtime.ingress.mailbox.Accepts context.thread
        (tokenDrafts context requestGeneration digest ordinal index tokens) := by
  induction tokens generalizing runtime ordinal index with
  | nil => exact .inl ⟨_, rfl, .refl _ _⟩
  | cons token _ induction =>
    unfold publishTokens
    rcases runtime.publish_cases context.thread
        (bundleDraft context .tokenCommitted requestGeneration _ token digest index .none) with
      ⟨mailbox, status, equal, queues, refused⟩ |
      ⟨mailbox, _, equal, published⟩
    · rw [equal]
      exact .inr ⟨mailbox, _, [], rfl, .same queues, nil_prefix,
        fun accepts => refused accepts.first⟩
    rw [equal]
    rcases induction _ _ (index + 1) with ⟨last, done, emits⟩ |
      ⟨last, status, _, done, emits, part, blocked⟩
    · refine .inl ⟨last, done, ?_⟩
      exact (Emits.single published).trans emits
    refine .inr ⟨last, status, _, done, ?_, cons_prefix_cons.mpr ⟨rfl, part⟩,
      fun accepts => blocked (accepts.published published)⟩
    exact (Emits.single published).trans emits

/-! ## One member -/

/-- A member of a plan and what its completion makes of it. -/
structure MemberCompletion where
  slotIndex : ℕ
  slot : RuntimeSlot
  before : ControllerSequence
  after : ControllerSequence
  result : ControllerBackendSequenceResult
  digest : Sha256Digest
  /-- The number of the plan's events before those of this member. -/
  start : ℕ
  /-- The enqueue number that the member takes if it is queued again. -/
  ready : ℕ

namespace MemberCompletion

def drains (member : MemberCompletion) : Bool := member.after.state = .draining

variable (context : CompletionContext)

/-- The events that the member publishes. -/
def drafts (member : MemberCompletion) : List ControllerOutputEventDraft :=
  tokenDrafts context member.after.sequenceGeneration member.digest
      member.before.acceptedCompletionCount member.start
      member.result.acceptedTokenIds ++
    if member.drains then
      [bundleDraft context .draining member.after.sequenceGeneration 0 0 member.digest
        (member.start + member.result.acceptedTokenIds.length)
        (finishReason member.slot member.result.completion)]
    else []

/-- The slot of the member after the completion. -/
def slotAfter (member : MemberCompletion) : RuntimeSlot :=
  if member.drains then
    { member.slot with
      sequence := some member.after
      pendingToken := none
      lastServicePlanSequence := context.planSequence }
  else
    { member.slot with
      sequence := some member.after
      pendingToken :=
        if member.after.state = .readyDecode then member.result.acceptedTokenIds.getLast?
        else member.slot.pendingToken
      readyEnqueueSequence := member.ready
      prefillEligibleSinceNs := context.nowNs
      lastServicePlanSequence := context.planSequence }

/-- The enqueue number that is free after the member. -/
def nextReady (member : MemberCompletion) : ℕ :=
  if member.drains then member.ready else nextU64 member.ready

@[simp]
theorem sequence_slotAfter (member : MemberCompletion) :
    (member.slotAfter context).sequence = some member.after := by
  unfold slotAfter
  split <;> rfl

@[simp]
theorem request_slotAfter (member : MemberCompletion) :
    (member.slotAfter context).request = member.slot.request := by
  unfold slotAfter
  split <;> rfl

/-- The member is in its slot and its completion applies. -/
structure Applies (slots : List RuntimeSlot) (member : MemberCompletion) : Prop where
  holding : Holding slots member.slotIndex member.slot member.before
  complete : member.before.complete member.result.completion = .ok member.after

/-- The number of events that the member publishes. -/
def eventCount (member : MemberCompletion) : ℕ :=
  member.result.acceptedTokenIds.length + (if member.drains then 1 else 0)

theorem length_drafts (member : MemberCompletion) :
    (member.drafts context).length = member.eventCount := by
  unfold drafts eventCount
  split <;> simp

end MemberCompletion

/-- Completing one member, in full or up to a refused event. -/
theorem completeMember_cases {member : MemberCompletion} (applies : member.Applies runtime.slots)
    (ready : member.ready = runtime.nextReadyEnqueueSequence) :
    (∃ mailbox, completeMember context runtime member.start member.slotIndex
        member.result member.digest = ({ runtime.withMailbox mailbox with
              slots := runtime.slots.set member.slotIndex
                (member.slotAfter context)
              nextReadyEnqueueSequence := member.nextReady },
            member.start + member.eventCount, .ok ()) ∧
      Emits context.thread runtime.ingress.mailbox (member.drafts context) mailbox) ∨
    ∃ mailbox slot drafts count status, completeMember context runtime member.start member.slotIndex
        member.result member.digest =
          ({ runtime.withMailbox mailbox with
              slots := runtime.slots.set member.slotIndex slot
              state := .failed }, count, .error status) ∧
      slot.sequence = some member.after ∧
      slot.request = member.slot.request ∧
      Emits context.thread runtime.ingress.mailbox drafts mailbox ∧
      drafts <+: member.drafts context ∧
      ¬ runtime.ingress.mailbox.Accepts context.thread (member.drafts context) := by
  have slotAt_eq : runtime.slotAt member.slotIndex = member.slot := applies.holding.getD
  unfold completeMember
  dsimp only
  rw [slotAt_eq, applies.holding.2]
  dsimp only
  rw [applies.complete]
  dsimp only
  rcases publishTokens_cases context member.after.sequenceGeneration member.digest
      (runtime.setSlot member.slotIndex _)
      member.before.acceptedCompletionCount member.start
      member.result.acceptedTokenIds with
    ⟨mailbox, equal, emits⟩ |
    ⟨mailbox, status, drafts, equal, emits, part, blocked⟩
  · rw [equal]
    dsimp only
    by_cases drains : member.after.state = .draining
    · rw [if_pos drains]
      have drainsTrue : member.drains = true := decide_eq_true drains
      rcases publish_cases (((runtime.setSlot member.slotIndex
            _).withMailbox mailbox).setSlot member.slotIndex _)
          context.thread
          (bundleDraft context .draining member.after.sequenceGeneration 0 0 member.digest _ _) with
        ⟨last, status, refused, queues, why⟩ |
        ⟨last, event, accepted, published⟩
      · rw [refused]
        refine .inr ⟨last,
          { member.slot with sequence := some member.after, pendingToken := none },
          _, member.start + member.result.acceptedTokenIds.length,
          .internal "reserved controller drain event publish failed",
          ?_, rfl, rfl, .claim emits queues, prefix_append _ _, ?_⟩
        · simp [withMailbox, setSlot]
        · intro accepts
          unfold MemberCompletion.drafts at accepts
          rw [drainsTrue] at accepts
          exact why (accepts.emits emits).first
      rw [accepted]
      refine .inl ⟨last, ?_, ?_⟩
      · simp [withMailbox, setSlot, MemberCompletion.slotAfter,
          MemberCompletion.nextReady, MemberCompletion.eventCount, drainsTrue, ready, Nat.add_assoc]
      · unfold MemberCompletion.drafts
        rw [drainsTrue]
        exact .publish emits published
    rw [if_neg drains]
    have drainsFalse : member.drains = false := decide_eq_false drains
    refine .inl ⟨mailbox, ?_, ?_⟩
    · simp [withMailbox, setSlot, MemberCompletion.slotAfter,
        MemberCompletion.nextReady, MemberCompletion.eventCount, drainsFalse, ready]
    · unfold MemberCompletion.drafts
      rw [drainsFalse, if_neg Bool.false_ne_true, append_nil]
      exact emits
  rw [equal]
  refine .inr ⟨mailbox,
    { member.slot with sequence := some member.after }, drafts,
    member.start, status, ?_, rfl, rfl, emits, part.trans (prefix_append _ _),
    fun accepts => blocked accepts.left⟩
  simp [withMailbox, setSlot]

/-! ## All members -/

/-- The members follow each other in event index and enqueue number. -/
def Chained : ℕ → ℕ → List MemberCompletion → Prop
  | _, _, [] => True
  | start, ready, member :: rest =>
    member.start = start ∧ member.ready = ready ∧
      Chained (start + member.eventCount) member.nextReady rest

/-- The enqueue number that is free after all members. -/
def readyAfter : ℕ → List MemberCompletion → ℕ
  | ready, [] => ready
  | _, member :: rest => readyAfter member.nextReady rest

def memberIndices (members : List MemberCompletion) : List ℕ :=
  members.map MemberCompletion.slotIndex

theorem memberIndices_cons (member : MemberCompletion) (rest : List MemberCompletion) :
    memberIndices (member :: rest) = member.slotIndex :: memberIndices rest :=
  rfl

/-- The events of the whole plan, in order. -/
def planDrafts (context : CompletionContext) (members : List MemberCompletion) :
    List ControllerOutputEventDraft :=
  members.flatMap (MemberCompletion.drafts context)

/-- The slots after a completion that reached every member. -/
structure CompletedSlots (context : CompletionContext) (slots next : List RuntimeSlot)
    (members : List MemberCompletion) : Prop where
  length : next.length = slots.length
  outside : ∀ index, index ∉ memberIndices members → next[index]? = slots[index]?
  inside : ∀ member ∈ members, next[member.slotIndex]? = some (member.slotAfter context)

/-- The slots after a completion that stopped at a refused event. -/
structure BrokenSlots (slots next : List RuntimeSlot) (members : List MemberCompletion) : Prop where
  length : next.length = slots.length
  outside : ∀ index, index ∉ memberIndices members → next[index]? = slots[index]?
  inside : ∀ member ∈ members, next[member.slotIndex]? = slots[member.slotIndex]? ∨
    ∃ slot, next[member.slotIndex]? = some slot ∧ slot.sequence = some member.after ∧
      slot.request = member.slot.request

theorem MemberCompletion.Applies.set {slots : List RuntimeSlot}
    {member : MemberCompletion} (applies : member.Applies slots)
    (inside : index < slots.length) (different : member.slotIndex ≠ index)
    (written : RuntimeSlot) : member.Applies (slots.set index written) where
  holding := (holding_set_iff inside written).mpr (.inr ⟨different, applies.holding⟩)
  complete := applies.complete

section

variable {slots next : List RuntimeSlot}

theorem CompletedSlots.cons (fresh : member.slotIndex ∉ memberIndices rest)
    (inside : member.slotIndex < slots.length)
    (done : CompletedSlots context (slots.set member.slotIndex (member.slotAfter context)) next
      rest) : CompletedSlots context slots next (member :: rest) := by
  constructor
  · rw [done.length, length_set]
  · intro index outside
    have different : member.slotIndex ≠ index := by
      rintro rfl
      exact outside (.head _)
    rw [done.outside index (fun later => outside (.tail _ later)), getElem?_set_ne different]
  · intro other listed
    rcases mem_cons.mp listed with rfl | later
    · rw [done.outside _ fresh, getElem?_set_self inside]
    · exact done.inside other later

/-- A write to the first member's slot, then a broken rest. -/
theorem BrokenSlots.cons (fresh : member.slotIndex ∉ memberIndices rest)
    (inside : member.slotIndex < slots.length) (sequence : written.sequence = some member.after)
    (request : written.request = member.slot.request)
    (broken : BrokenSlots (slots.set member.slotIndex written) next rest) :
    BrokenSlots slots next (member :: rest) := by
  constructor
  · rw [broken.length, length_set]
  · intro index outside
    have different : member.slotIndex ≠ index := by
      rintro rfl
      exact outside (.head _)
    rw [broken.outside index (fun later => outside (.tail _ later)), getElem?_set_ne different]
  · intro other listed
    rcases mem_cons.mp listed with rfl | later
    · right
      refine ⟨written, ?_, sequence, request⟩
      rw [broken.outside _ fresh, getElem?_set_self inside]
    have different : member.slotIndex ≠ other.slotIndex := by
      intro equal
      exact fresh (equal ▸ mem_map_of_mem later)
    rcases broken.inside other later with same | half
    · left
      rw [same, getElem?_set_ne different]
    · exact .inr half

theorem BrokenSlots.refl (slots : List RuntimeSlot)
    (members : List MemberCompletion) : BrokenSlots slots slots members where
  length := rfl
  outside := fun _ _ => rfl
  inside := fun _ _ => .inl rfl

end

/-- Completing the members, in full or up to a refused event. -/
theorem completeMembers_cases (context : CompletionContext)
    {runtime : ControllerRuntime} {members : List MemberCompletion}
    {start : ℕ} (applies : ∀ member ∈ members, member.Applies runtime.slots)
    (distinct : (memberIndices members).Nodup)
    (chained : Chained start runtime.nextReadyEnqueueSequence members) :
    (∃ mailbox slots, completeMembers context runtime start (memberIndices members)
        (members.map MemberCompletion.result) (members.map MemberCompletion.digest) =
          ({ runtime.withMailbox mailbox with
              slots
              nextReadyEnqueueSequence := readyAfter runtime.nextReadyEnqueueSequence members },
            .ok ()) ∧
      Emits context.thread runtime.ingress.mailbox (planDrafts context members) mailbox ∧
      CompletedSlots context runtime.slots slots members) ∨
    ∃ mailbox slots ready status drafts,
      completeMembers context runtime start (memberIndices members)
        (members.map MemberCompletion.result)
        (members.map MemberCompletion.digest) =
          ({ runtime.withMailbox mailbox with
              slots
              nextReadyEnqueueSequence := ready
              state := .failed }, .error status) ∧
      Emits context.thread runtime.ingress.mailbox drafts mailbox ∧
      drafts <+: planDrafts context members ∧
      ¬ runtime.ingress.mailbox.Accepts context.thread (planDrafts context members) ∧
      BrokenSlots runtime.slots slots members := by
  induction members generalizing runtime start with
  | nil =>
    refine .inl ⟨runtime.ingress.mailbox, runtime.slots, ?_, .refl _ _,
      ⟨rfl, fun _ _ => rfl, fun _ listed => absurd listed nofun⟩⟩
    rfl
  | cons member rest induction =>
    rcases chained with ⟨start_eq, ready_eq, chained⟩
    subst start_eq
    rcases nodup_cons.mp distinct with ⟨fresh, distinct⟩
    have first := applies member (.head _)
    have inside := first.holding.lt
    rw [memberIndices_cons, map_cons, map_cons, completeMembers]
    rcases completeMember_cases first ready_eq with ⟨mailbox, equal, emits⟩ |
      ⟨mailbox, _, drafts, _, status, equal, sequence, request, emits, part, blocked⟩
    · rw [equal]
      dsimp only
      have later : ∀ other ∈ rest, other.Applies (runtime.slots.set member.slotIndex
          (member.slotAfter context)) := by
        intro other listed
        refine (applies other (.tail _ listed)).set inside ?_ _
        intro same
        exact fresh (same ▸ mem_map_of_mem listed)
      rcases @induction
          { runtime.withMailbox mailbox with
            slots := runtime.slots.set member.slotIndex (member.slotAfter context)
            nextReadyEnqueueSequence := member.nextReady }
          _ later distinct chained with
        ⟨last, slots, done, emitted, completed⟩ |
        ⟨last, slots, ready, status, drafts, done, emitted, part, blocked, broken⟩
      · refine .inl ⟨last, slots, ?_, emits.trans emitted, completed.cons fresh inside⟩
        rw [done]
        rfl
      refine .inr ⟨last, slots, ready, status,
        member.drafts context ++ drafts, ?_, emits.trans emitted,
        (prefix_append_right_inj _).mpr part, fun accepts => blocked (accepts.emits emits),
        broken.cons fresh inside (by simp) (by simp)⟩
      rw [done]
      rfl
    rw [equal]
    refine .inr ⟨mailbox, _, runtime.nextReadyEnqueueSequence, status,
      drafts, rfl, emits, part.trans (prefix_append _ _), fun accepts => blocked accepts.left, ?_⟩
    exact (BrokenSlots.refl _ rest).cons fresh inside sequence request

end Pih.ControllerRuntime
