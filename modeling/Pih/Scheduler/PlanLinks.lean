import Pih.Scheduler.CreditLedger

/-!
# The current plan and the sequences it serves

The members of the current plan are in the slots that the plan lists, with
the generation, the start and the token count of their input.  Only members
have an active plan, and in a ready runtime all of them do.
-/

namespace Pih

open ControllerRuntime ControllerSequence List Option

namespace ControllerSequence

/-- The sequence is the same, and its active plan too if it has one. -/
structure Keeps (before after : ControllerSequence) : Prop where
  generation : after.sequenceGeneration = before.sequenceGeneration
  plan : after.activePlanSequence ≠ 0 → after.activePlanSequence = before.activePlanSequence ∧
    after.activePhase = before.activePhase ∧
    after.activeRealTokenCount = before.activeRealTokenCount ∧
    after.modelProcessedLength = before.modelProcessedLength

section

variable {before after : ControllerSequence}

theorem Keeps.refl (sequence : ControllerSequence) : Keeps sequence sequence :=
  ⟨rfl, fun _ => ⟨rfl, rfl, rfl, rfl⟩⟩

/-- A change of the state alone. -/
theorem keeps_state (sequence : ControllerSequence) (state : ControllerSequenceState) :
    Keeps sequence { sequence with state } :=
  ⟨rfl, fun _ => ⟨rfl, rfl, rfl, rfl⟩⟩

theorem keeps_commit (committed : before.commit planSequence = .ok after) : Keeps before after ∧
      after.activePlanSequence = before.activePlanSequence := by
  rcases commit_ok_iff.mp committed with ⟨-, -, rfl⟩
  exact ⟨keeps_state _ _, rfl⟩

theorem keeps_markInFlight (marked : before.markInFlight planSequence = .ok after) :
    Keeps before after ∧ after.activePlanSequence = before.activePlanSequence := by
  rcases markInFlight_ok_iff.mp marked with ⟨-, -, -, rfl⟩
  exact ⟨keeps_state _ _, rfl⟩

theorem keeps_abortPrepared (aborted : before.abortPrepared planSequence = .ok after) :
    Keeps before after ∧ after.activePlanSequence = 0 := by
  rcases abortPrepared_ok_iff.mp aborted with ⟨-, -, rfl⟩
  exact ⟨⟨rfl, fun active => (active rfl).elim⟩, rfl⟩

theorem keeps_complete (completed : before.complete completion = .ok after) :
    Keeps before after ∧ after.activePlanSequence = 0 := by
  rcases complete_ok completed with ⟨-, rfl⟩
  exact ⟨⟨rfl, fun active => (active rfl).elim⟩, rfl⟩

theorem keeps_requestCancel (cancelled : before.requestCancel = .ok after) : Keeps before after ∧
      after.activePlanSequence = before.activePlanSequence := by
  rcases requestCancel_ok cancelled with ⟨-, -, ⟨-, rfl⟩ | ⟨-, rfl⟩⟩
  · exact ⟨.refl _, rfl⟩
  · exact ⟨⟨rfl, fun _ => ⟨rfl, rfl, rfl, rfl⟩⟩, rfl⟩

theorem keeps_beginDraining (draining : before.beginDraining = .ok after) :
    Keeps before after ∧ after.activePlanSequence = 0 := by
  rcases beginDraining_ok draining with ⟨-, rfl⟩
  exact ⟨⟨rfl, fun active => (active rfl).elim⟩, rfl⟩

theorem Keeps.trans (earlier : Keeps first second) (later : Keeps second third) :
    Keeps first third := by
  refine ⟨later.generation.trans earlier.generation, fun active => ?_⟩
  rcases later.plan active with ⟨plan, phase, count, length⟩
  rw [plan] at active
  rcases earlier.plan active with ⟨plan', phase', count', length'⟩
  exact ⟨plan.trans plan', phase.trans phase', count.trans count', length.trans length'⟩

end

section

variable {after : ControllerSequence} (finished : finishSequence before = .ok (after, kind))

include finished

/-- How a draining sequence ends. -/
theorem finishSequence_ok : before.state = .draining ∧
      ((before.drainIsCancel = true ∧ kind = .cancelled ∧
          after = { before with state := .cancelled }) ∨
        (before.drainIsCancel = false ∧ kind = .completed ∧
          after = { before with state := .completed })) := by
  unfold finishSequence at finished
  split at finished
  case h_1 done =>
    cases finished
    unfold finishCancel at done
    split at done
    · cases done
    case isFalse guard =>
      simp only [not_or, not_not] at guard
      exact ⟨guard.1, .inl ⟨guard.2, rfl, (Except.ok.inj done).symm⟩⟩
  split at finished
  case h_1 done =>
    cases finished
    unfold finishDrain at done
    split at done
    · cases done
    case isFalse guard =>
      simp only [not_or, not_not, Bool.not_eq_true] at guard
      exact ⟨guard.1, .inr ⟨guard.2, rfl, (Except.ok.inj done).symm⟩⟩
  · cases finished

theorem keeps_finish : Keeps before after := by
  rcases finishSequence_ok finished with ⟨-, ⟨-, -, rfl⟩ | ⟨-, -, rfl⟩⟩
  · exact keeps_state _ _
  · exact keeps_state _ _

end

/-- A sequence that drains has no plan any more. -/
theorem Sound.idle_of_draining {sequence : ControllerSequence}
    (sound : sequence.Sound) (draining : sequence.state = .draining) :
    sequence.activePlanSequence = 0 := by
  by_contra active
  rcases (sound.work active).state with inside | ⟨cancelled, -⟩
  · rw [draining] at inside
    exact inside.not_offPlan ⟨rfl, rfl⟩
  rw [draining] at cancelled
  cases cancelled

theorem Sound.finish {after : ControllerSequence} (sound : before.Sound)
    (finished : finishSequence before = .ok (after, kind)) : after.Sound := by
  rcases finishSequence_ok finished with ⟨draining, ⟨flag, -, rfl⟩ | ⟨flag, -, rfl⟩⟩
  all_goals
    have idle := sound.idle_of_draining draining
    exact
      { sound with
        work := fun active => (active idle).elim
        rest := fun _ => ⟨⟨rfl, rfl⟩, nofun, nofun⟩
        cancelFlag := by simp [flag]
        flagged := by simp [flag] }

end ControllerSequence

/-- The members of the plan with their inputs. -/
def CurrentPlan.pairs (current : CurrentPlan) : List (ℕ × PackedSequenceInput) :=
  current.selectedSlotIndices.zip current.plan.sequences

namespace ControllerRuntime

/-! ## The invariant -/

/-- The slot holds the sequence of an input of the plan. -/
def Serves (current : CurrentPlan) (slots : List RuntimeSlot) (index : ℕ)
    (input : PackedSequenceInput) : Prop :=
  ∃ slot sequence, Holding slots index slot sequence ∧
    sequence.sequenceGeneration = input.sequenceGeneration ∧
    (sequence.activePlanSequence ≠ 0 → sequence.activePlanSequence = current.plan.planSequence ∧
        sequence.activePhase = current.plan.phase ∧
        sequence.activeRealTokenCount = input.realTokenCount ∧
        sequence.modelProcessedLength = input.committedStartPosition)

/-- The plan and the slots of its members agree. -/
structure Linked (slots : List RuntimeSlot) (current : CurrentPlan) : Prop where
  distinct : current.selectedSlotIndices.Nodup
  aligned : current.selectedSlotIndices.length = current.plan.sequences.length
  generations : current.plan.orderedSequenceGenerations.Nodup
  nonzero : current.plan.planSequence ≠ 0
  members : ∀ index input, (index, input) ∈ current.pairs → Serves current slots index input

/-- The invariant of slots, plan and prompts. -/
structure PlanLinks (runtime : ControllerRuntime) : Prop where
  sound : AllSound runtime.slots
  sized : runtime.metadata.Sized
  prompts : ∀ slot ∈ runtime.ingress.requests.slots, slot.promptTokens ≤ u64Max
  linked : ∀ current, runtime.current = some current → Linked runtime.slots current
  active : ∀ index slot sequence, Holding runtime.slots index slot sequence →
    sequence.activePlanSequence ≠ 0 →
    ∃ current, runtime.current = some current ∧ index ∈ current.selectedSlotIndices
  busy : runtime.state = .ready → ∀ current, runtime.current = some current →
    ∀ index ∈ current.selectedSlotIndices,
    ∀ slot sequence, Holding runtime.slots index slot sequence → sequence.activePlanSequence ≠ 0

/-- With balanced credits the operations can be analysed. -/
theorem PlanLinks.consistent {runtime : ControllerRuntime}
    (links : runtime.PlanLinks) (balanced : runtime.CreditsBalanced) :
    runtime.Consistent where
  sound := links.sound
  sized := links.sized
  distinct := fun current isCurrent => (links.linked current isCurrent).distinct
  vacant := fun _ isCurrent => balanced.vacant isCurrent
  transferred := balanced.transferred

variable {current : CurrentPlan}

theorem mem_pairs_of_mem (aligned :
      current.selectedSlotIndices.length = current.plan.sequences.length)
    (member : index ∈ current.selectedSlotIndices) : ∃ input, (index, input) ∈ current.pairs := by
  rcases getElem_of_mem member with ⟨position, inside, value⟩
  have inside' : position < current.plan.sequences.length := aligned ▸ inside
  refine ⟨current.plan.sequences[position], ?_⟩
  unfold CurrentPlan.pairs
  rw [mem_iff_getElem]
  refine ⟨position, by simp [inside, inside'], ?_⟩
  rw [getElem_zip, value]

/-- Every member of the plan is in its slot. -/
theorem Linked.member {slots : List RuntimeSlot} (linked : Linked slots current)
    (member : index ∈ current.selectedSlotIndices) :
    ∃ slot sequence, Holding slots index slot sequence := by
  rcases mem_pairs_of_mem linked.aligned member with ⟨input, pair⟩
  rcases linked.members index input pair with ⟨slot, sequence, holding, -⟩
  exact ⟨slot, sequence, holding⟩

/-! ## Slots that keep their sequences -/

/--
The table after a change that starts no plan: the members are still there,
and every active sequence comes from one that was there before.
-/
structure SlotsKept (members : List ℕ) (slots next : List RuntimeSlot) : Prop where
  forward : ∀ index ∈ members, ∀ slot sequence, Holding slots index slot sequence →
    ∃ newSlot newSequence, Holding next index newSlot newSequence ∧ Keeps sequence newSequence
  backward : ∀ index newSlot newSequence, Holding next index newSlot newSequence →
    newSequence.Sound ∧ (newSequence.activePlanSequence ≠ 0 →
      ∃ slot sequence, Holding slots index slot sequence ∧ Keeps sequence newSequence)

theorem Linked.keep {slots next : List RuntimeSlot} {current : CurrentPlan}
    (linked : Linked slots current) (kept : SlotsKept current.selectedSlotIndices slots next) :
    Linked next current where
  __ := linked
  members := by
    intro index input pair
    rcases linked.members index input pair with ⟨slot, sequence, holding, generation, serves⟩
    have member := (of_mem_zip pair).1
    rcases kept.forward index member slot sequence holding with
      ⟨newSlot, newSequence, newHolding, keeps⟩
    refine ⟨newSlot, newSequence, newHolding, keeps.generation.trans generation, fun active => ?_⟩
    rcases keeps.plan active with ⟨plan, phase, count, length⟩
    rw [plan] at active
    rcases serves active with ⟨plan', phase', count', length'⟩
    exact ⟨plan.trans plan', phase.trans phase', count.trans count', length.trans length'⟩

/-- The members of the current plan, if there is one. -/
def memberSlots (runtime : ControllerRuntime) : List ℕ :=
  (runtime.current.map CurrentPlan.selectedSlotIndices).getD []

theorem memberSlots_of_current {runtime : ControllerRuntime}
    (isCurrent : runtime.current = some current) :
    runtime.memberSlots = current.selectedSlotIndices := by
  unfold memberSlots
  rw [isCurrent]
  rfl

/-- The links survive a change that keeps the sequences. -/
theorem PlanLinks.keep {runtime next : ControllerRuntime}
    (links : runtime.PlanLinks) (current : next.current = runtime.current)
    (kept : SlotsKept runtime.memberSlots runtime.slots next.slots) (sized : next.metadata.Sized)
    (prompts : ∀ slot ∈ next.ingress.requests.slots, slot.promptTokens ≤ u64Max)
    (busy : next.state = .ready → runtime.state = .ready ∧ ∀ index ∈ runtime.memberSlots,
      ∀ slot sequence newSlot newSequence, Holding runtime.slots index slot sequence →
        Holding next.slots index newSlot newSequence →
        sequence.activePlanSequence ≠ 0 →
        newSequence.activePlanSequence ≠ 0) :
    next.PlanLinks where
  sound := fun index slot sequence holding => (kept.backward index slot sequence holding).1
  sized := sized
  prompts := prompts
  linked := by
    rw [current]
    intro plan isCurrent
    rw [memberSlots_of_current isCurrent] at kept
    exact (links.linked plan isCurrent).keep kept
  active := by
    rw [current]
    intro index slot sequence holding active
    rcases (kept.backward index slot sequence holding).2 active with
      ⟨old, before, oldHolding, keeps⟩
    rw [(keeps.plan active).1] at active
    exact links.active index old before oldHolding active
  busy := by
    intro ready plan isCurrent index member slot sequence holding
    rw [current] at isCurrent
    rcases busy ready with ⟨wasReady, stays⟩
    rcases (links.linked plan isCurrent).member member with ⟨old, before, oldHolding⟩
    refine stays index ?_ old before slot sequence oldHolding holding
      (links.busy wasReady plan isCurrent index member old before oldHolding)
    rw [memberSlots_of_current isCurrent]
    exact member

section Kept

variable {slots next : List RuntimeSlot}

section

variable (sound : AllSound slots)

include sound

theorem SlotsKept.refl : SlotsKept members slots slots where
  forward := fun _ _ slot sequence holding => ⟨slot, sequence, holding, .refl sequence⟩
  backward := fun index slot sequence holding =>
    ⟨sound index slot sequence holding, fun _ => ⟨slot, sequence, holding, .refl sequence⟩⟩

/-- One sequence was replaced by one that keeps its plan. -/
theorem SlotsKept.set {sequence : ControllerSequence} (holding : Holding slots index slot sequence)
    (writes : written.sequence = some changed) (keeps : Keeps sequence changed)
    (changedSound : changed.Sound) :
    SlotsKept members slots (slots.set index written) where
  forward := by
    intro other _ held before heldBefore
    by_cases same : other = index
    · subst same
      rcases heldBefore.unique holding with ⟨-, rfl⟩
      exact ⟨written, changed, (holding_set_iff holding.lt written).mpr (.inl ⟨rfl, rfl, writes⟩),
        keeps⟩
    exact ⟨held, before, (holding_set_iff holding.lt written).mpr (.inr ⟨same, heldBefore⟩),
      .refl before⟩
  backward := by
    intro other held after heldAfter
    rcases (holding_set_iff holding.lt written).mp heldAfter with ⟨rfl, rfl, found⟩ | ⟨-, before⟩
    · cases some.inj (found.symm.trans writes)
      exact ⟨changedSound, fun _ => ⟨slot, sequence, holding, keeps⟩⟩
    exact ⟨sound other held after before, fun _ => ⟨held, after, before, .refl after⟩⟩

/-- A slot that no member uses was written. -/
theorem SlotsKept.outside (found : slots[index]? = some slot) (outside : index ∉ members)
    (idle : ∀ sequence, written.sequence = some sequence →
      sequence.Sound ∧ sequence.activePlanSequence = 0) :
    SlotsKept members slots (slots.set index written) where
  forward := by
    intro other member held before heldBefore
    have inside := (List.getElem_of_getElem? found).1
    have different : other ≠ index := fun same => outside (same ▸ member)
    exact ⟨held, before, (holding_set_iff inside written).mpr (.inr ⟨different, heldBefore⟩),
      .refl before⟩
  backward := by
    intro other held after heldAfter
    have inside := (List.getElem_of_getElem? found).1
    rcases (holding_set_iff inside written).mp heldAfter with ⟨rfl, rfl, writes⟩ | ⟨-, before⟩
    · rcases idle after writes with ⟨sequenceSound, inactive⟩
      exact ⟨sequenceSound, fun active => (active inactive).elim⟩
    exact ⟨sound other held after before, fun _ => ⟨held, after, before, .refl after⟩⟩

theorem SlotsKept.moves (moves : Moves change slots next indices)
    (keeps : ∀ index before after, change index before after → Keeps before after)
    (sounds : ∀ index before after, before.Sound → change index before after → after.Sound) :
    SlotsKept members slots next where
  forward := by
    intro index _ slot sequence holding
    rcases moves.forward holding with same | ⟨-, changed, rule, moved⟩
    · exact ⟨slot, sequence, same, .refl sequence⟩
    · exact ⟨_, changed, moved, keeps _ _ _ rule⟩
  backward := by
    intro index slot sequence holding
    rcases moves.backward holding with same | ⟨-, old, before, held, rule, -⟩
    · exact ⟨sound index slot sequence same, fun _ => ⟨slot, sequence, same, .refl sequence⟩⟩
    exact ⟨sounds _ _ _ (sound _ _ _ held) rule, fun _ => ⟨old, before, held, keeps _ _ _ rule⟩⟩

end

/-- A slot after a broken completion is as before or holds the result. -/
theorem BrokenSlots.backward (broken : BrokenSlots slots next completions)
    {sequence : ControllerSequence} (holding : Holding next index slot sequence) :
    Holding slots index slot sequence ∨ ∃ member ∈ completions, member.slotIndex = index ∧
      sequence = member.after ∧ slot.request = member.slot.request := by
  by_cases listed : index ∈ memberIndices completions
  · rcases mem_map.mp listed with ⟨member, member_in, rfl⟩
    rcases broken.inside member member_in with same | ⟨_, found, held, request⟩
    · left
      exact ⟨same ▸ holding.1, holding.2⟩
    right
    have equal := some.inj (holding.1.symm.trans found)
    subst equal
    exact ⟨member, member_in, rfl, some.inj (holding.2.symm.trans held), request⟩
  left
  exact ⟨broken.outside index listed ▸ holding.1, holding.2⟩

theorem SlotsKept.broken (sound : AllSound slots)
    (applies : ∀ member ∈ completions, member.Applies slots)
    (broken : BrokenSlots slots next completions) :
    SlotsKept members slots next where
  forward := by
    intro index _ slot sequence holding
    by_cases listed : index ∈ memberIndices completions
    · rcases mem_map.mp listed with ⟨member, member_in, rfl⟩
      rcases broken.inside member member_in with same | ⟨written, found, held, -⟩
      · exact ⟨slot, sequence, ⟨same.trans holding.1, holding.2⟩, .refl sequence⟩
      have applied := applies member member_in
      rcases applied.holding.unique holding with ⟨-, rfl⟩
      exact ⟨written, _, ⟨found, held⟩, (keeps_complete applied.complete).1⟩
    exact ⟨slot, sequence, ⟨(broken.outside index listed).trans holding.1, holding.2⟩,
      .refl sequence⟩
  backward := by
    intro index slot sequence holding
    rcases broken.backward holding with same | ⟨member, member_in, rfl, rfl, -⟩
    · exact ⟨sound index slot sequence same, fun _ => ⟨slot, sequence, same, .refl sequence⟩⟩
    have applied := applies member member_in
    exact ⟨(sound _ _ _ applied.holding).complete applied.complete,
      fun _ => ⟨_, _, applied.holding, (keeps_complete applied.complete).1⟩⟩

end Kept

/-! ## The prompts of the arena -/

/-- Every prompt in the arena has a 64-bit length. -/
def PromptsSmall (arena : ControllerRequestArena) : Prop :=
  ∀ slot ∈ arena.slots, slot.promptTokens ≤ u64Max

theorem PromptsSmall.set (small : PromptsSmall arena) (fits : slot.promptTokens ≤ u64Max)
    (member : other ∈ arena.slots.set index slot) : other.promptTokens ≤ u64Max := by
  rcases mem_or_eq_of_mem_set member with old | rfl
  · exact small other old
  · exact fits

theorem PromptsSmall.clearSlot (small : PromptsSmall arena) (index : ℕ) :
    PromptsSmall (arena.clearSlot index) :=
  fun _ member => small.set (Nat.zero_le _) member

theorem PromptsSmall.setState (small : PromptsSmall arena)
    (claimed : arena.Claimed command index slot) (state : RequestSlotState) :
    PromptsSmall (arena.setState index slot state) := by
  intro other member
  have fits : { slot with state }.promptTokens ≤ u64Max :=
    small slot (mem_of_getElem? claimed.found)
  exact small.set fits member

theorem PromptsSmall.publish {next : ControllerRequestArena}
    (small : PromptsSmall arena) {maximum : ℕ}
    (published : ControllerRequestArena.PublishedRequest arena next generation prompt
      maximum sampling receipt) : PromptsSmall next := by
  have fits : prompt.length ≤ u64Max := by
    have digested := published.digest
    unfold controllerRequestPayloadDigest at digested
    split at digested
    · cases digested
    case isFalse valid =>
      simp only [not_or, Nat.not_lt] at valid
      exact Nat.le_trans valid.2.2.1 (by decide)
  rw [published.next_eq]
  intro slot member
  rcases mem_or_eq_of_mem_set member with old | rfl
  · exact small slot old
  · exact fits

/-! ## Preservation -/

section Preserved

variable {runtime next : ControllerRuntime}

variable {sequence : ControllerSequence}

section

variable (links : runtime.PlanLinks)

include links

/-- A change of one slot by a step or a finalization. -/
theorem PlanLinks.setSlot (holding : Holding runtime.slots index slot sequence)
    (writes : written.sequence = some changed) (keeps : Keeps sequence changed)
    (sound : changed.Sound) (slots : next.slots = runtime.slots.set index written)
    (current : next.current = runtime.current) (sized : next.metadata.Sized)
    (prompts : PromptsSmall next.ingress.requests)
    (ready : next.state = .ready → runtime.state = .ready ∧
      (sequence.activePlanSequence ≠ 0 → changed.activePlanSequence ≠ 0)) : next.PlanLinks := by
  refine links.keep current ?_ sized prompts ?_
  · rw [slots]
    exact .set links.sound holding writes keeps sound
  · intro isReady
    rcases ready isReady with ⟨wasReady, stays⟩
    refine ⟨wasReady, ?_⟩
    rw [slots]
    intro other _ old before new after oldHolding newHolding active
    rcases (holding_set_iff holding.lt written).mp newHolding with ⟨rfl, rfl, found⟩ | ⟨-, same⟩
    · cases some.inj (found.symm.trans writes)
      rcases oldHolding.unique holding with ⟨-, rfl⟩
      exact stays active
    rcases oldHolding.unique same with ⟨-, rfl⟩
    exact active

/-- A change of a slot that no member uses. -/
theorem PlanLinks.setOutside (found : runtime.slots[index]? = some slot)
    (outside : index ∉ runtime.memberSlots) (idle : ∀ sequence, written.sequence = some sequence →
      sequence.Sound ∧ sequence.activePlanSequence = 0)
    (slots : next.slots = runtime.slots.set index written)
    (current : next.current = runtime.current) (sized : next.metadata.Sized)
    (prompts : PromptsSmall next.ingress.requests)
    (ready : next.state = .ready → runtime.state = .ready) : next.PlanLinks := by
  have inside := (List.getElem_of_getElem? found).1
  refine links.keep current ?_ sized prompts ?_
  · rw [slots]
    exact .outside links.sound found outside idle
  · intro isReady
    refine ⟨ready isReady, ?_⟩
    rw [slots]
    intro other member old before new after oldHolding newHolding active
    rcases (holding_set_iff inside written).mp newHolding with ⟨rfl, -⟩ | ⟨-, same⟩
    · exact (outside member).elim
    rcases oldHolding.unique same with ⟨-, rfl⟩
    exact active

/-- Nothing that the links mention has changed. -/
theorem PlanLinks.frame (slots : next.slots = runtime.slots)
    (current : next.current = runtime.current) (sized : next.metadata.Sized)
    (prompts : PromptsSmall next.ingress.requests)
    (ready : next.state = .ready → runtime.state = .ready) : next.PlanLinks := by
  refine links.keep current ?_ sized prompts ?_
  · rw [slots]
    exact .refl links.sound
  · intro isReady
    refine ⟨ready isReady, ?_⟩
    rw [slots]
    intro other _ old before new after oldHolding newHolding active
    rcases oldHolding.unique newHolding with ⟨-, rfl⟩
    exact active

/-- The loops that keep the members active, or that fail. -/
theorem PlanLinks.moves (moves : Moves change runtime.slots next.slots indices)
    (keeps : ∀ index before after, change index before after →
      Keeps before after ∧ (next.state = .ready →
        after.activePlanSequence = before.activePlanSequence))
    (sounds : ∀ index before after, before.Sound → change index before after → after.Sound)
    (current : next.current = runtime.current) (sized : next.metadata.Sized)
    (prompts : PromptsSmall next.ingress.requests)
    (ready : next.state = .ready → runtime.state = .ready) : next.PlanLinks := by
  refine links.keep current ?_ sized prompts ?_
  · exact .moves links.sound moves
      (fun index before after rule => (keeps index before after rule).1)
      sounds
  · intro isReady
    refine ⟨ready isReady, ?_⟩
    intro other _ old before new after oldHolding newHolding active
    rcases moves.forward oldHolding with same | ⟨-, _, rule, moved⟩
    · rcases same.unique newHolding with ⟨-, rfl⟩
      exact active
    rcases moved.unique newHolding with ⟨-, rfl⟩
    rw [(keeps _ _ _ rule).2 isReady]
    exact active

/-- The current plan ended and left no sequence active. -/
theorem PlanLinks.ended (idle : ∀ index slot sequence, Holding next.slots index slot sequence →
      sequence.Sound ∧ sequence.activePlanSequence = 0) (current : next.current = none)
    (metadata : next.metadata = runtime.metadata)
    (requests : next.ingress.requests = runtime.ingress.requests) :
    next.PlanLinks where
  sound := fun index slot sequence holding => (idle index slot sequence holding).1
  sized := metadata ▸ links.sized
  prompts := requests ▸ links.prompts
  linked := by
    rw [current]
    exact nofun
  active := fun index slot sequence holding active =>
    (active (idle index slot sequence holding).2).elim
  busy := by
    rw [current]
    exact nofun

end

/-- The entry of a prepared member is determined by its slot. -/
theorem Drafted.entry_unique (drafted : Drafted runtime draft) (firstMember : first ∈ draft.members)
    (secondMember : second ∈ draft.members)
    (same : first.slotIndex = second.slotIndex) : first = second :=
  inj_on_of_nodup_map drafted.distinct firstMember secondMember same

theorem mem_pairs_current (drafted : Drafted runtime draft)
    (pair : (index, input) ∈ (draft.current burst).pairs) :
    ∃ entry ∈ draft.members, entry.slotIndex = index ∧ entry.input = input := by
  unfold CurrentPlan.pairs PlanDraft.current at pair
  rw [drafted.sequences, List.zip_map', List.mem_map] at pair
  rcases pair with ⟨entry, member, equal⟩
  cases equal
  exact ⟨entry, member, rfl, rfl⟩

theorem PlanLinks.prepare (links : runtime.PlanLinks) {slots : List RuntimeSlot}
    (prepared : PreparedNext runtime draft burst slots credits) (nextSlots : next.slots = slots)
    (becomes : next.current = some (draft.current burst)) (sized : next.metadata.Sized)
    (requests : next.ingress.requests = runtime.ingress.requests) : next.PlanLinks := by
  have drafted := prepared.drafted
  have moves := prepared.moves
  subst nextSlots
  constructor
  · intro index slot sequence holding
    rcases moves.toMoves.backward holding with same | ⟨-, old, before, held, ⟨entry, -, -, done⟩, -⟩
    · exact links.sound index slot sequence same
    · exact (links.sound _ _ _ held).prepare done
  · exact sized
  · rw [requests]
    exact links.prompts
  · rw [becomes]
    rintro _ ⟨⟩
    constructor
    · exact drafted.distinct
    · change (draft.members.map CandidateEntry.slotIndex).length = draft.plan.sequences.length
      rw [drafted.sequences, length_map, length_map]
    · exact drafted.generations
    · change draft.plan.planSequence ≠ 0
      rw [drafted.planSequence]
      exact prepared.nonzero
    · intro index input pair
      rcases mem_pairs_current drafted pair with ⟨entry, member, rfl, rfl⟩
      rcases drafted.described entry member with ⟨slot, sequence, describes⟩
      rcases moves.at (mem_map_of_mem member) describes.holding with
        ⟨changed, ⟨other, otherMember, same, done⟩, holding⟩
      cases drafted.entry_unique otherMember member same
      rcases prepare_ok done with ⟨-, -, -, -, -, -, rfl⟩
      refine ⟨_, _, holding, describes.state.symm, fun _ => ?_⟩
      exact ⟨drafted.planSequence.symm, rfl, rfl, describes.start.symm⟩
  · intro index slot sequence holding active
    refine ⟨_, becomes, ?_⟩
    rcases moves.toMoves.backward holding with same | ⟨member, -⟩
    · rcases links.active index slot sequence same active with ⟨_, isCurrent, -⟩
      rw [prepared.idle] at isCurrent
      cases isCurrent
    · exact member
  · rw [becomes]
    rintro - _ ⟨⟩ _ member _ _ holding
    rcases mem_map.mp member with ⟨entry, entryMember, rfl⟩
    rcases drafted.described entry entryMember with ⟨_, _, describes⟩
    rcases moves.at member describes.holding with ⟨_, ⟨_, -, -, done⟩, held⟩
    rcases held.unique holding with ⟨-, rfl⟩
    rcases prepare_ok done with ⟨-, nonzero, -, -, -, -, rfl⟩
    exact nonzero

/-- A slot without an active sequence is no member while ready. -/
theorem PlanLinks.not_member (links : runtime.PlanLinks) (ready : runtime.state = .ready)
    (found : runtime.slots[index]? = some slot)
    (idle : ∀ sequence, slot.sequence = some sequence → sequence.activePlanSequence = 0) :
    index ∉ runtime.memberSlots := by
  intro member
  unfold memberSlots at member
  cases isCurrent : runtime.current with
  | none =>
    rw [isCurrent] at member
    cases member
  | some current =>
    rw [isCurrent] at member
    rcases (links.linked current isCurrent).member member with ⟨_, sequence, holding⟩
    cases some.inj (holding.1.symm.trans found)
    exact links.busy ready current isCurrent index member _ sequence
      holding (idle sequence holding.2)

/-- Outside the current plan every sequence is idle. -/
theorem PlanLinks.idle_outside (links : runtime.PlanLinks)
    (isCurrent : runtime.current = some current)
    (holding : Holding runtime.slots index slot sequence)
    (outside : index ∉ current.selectedSlotIndices) : sequence.activePlanSequence = 0 := by
  by_contra active
  rcases links.active index slot sequence holding active with ⟨_, isOther, member⟩
  cases some.inj (isOther.symm.trans isCurrent)
  exact outside member

/-- A slot after a completion is as before or holds its result. -/
theorem CompletedSlots.backward {slots after : List RuntimeSlot}
    (completed : CompletedSlots context slots after completions)
    (holding : Holding after index slot sequence) :
    (index ∉ memberIndices completions ∧ Holding slots index slot sequence) ∨
      ∃ member ∈ completions, member.slotIndex = index ∧
        sequence = member.after ∧ slot = member.slotAfter context := by
  by_cases listed : index ∈ memberIndices completions
  · right
    rcases mem_map.mp listed with ⟨member, member_in, rfl⟩
    have equal := some.inj (holding.1.symm.trans (completed.inside member member_in))
    subst equal
    refine ⟨member, member_in, rfl, ?_, rfl⟩
    have held := holding.2
    rw [MemberCompletion.sequence_slotAfter] at held
    exact (some.inj held).symm
  exact .inl ⟨listed, completed.outside index listed ▸ holding.1, holding.2⟩

/-- A failed runtime is not ready. -/
theorem not_ready {Consequence : Prop}
    (failed : ControllerRuntimeState.failed = .ready) : Consequence := by
  cases failed

theorem PlanLinks.request (links : runtime.PlanLinks)
    (transition : RequestTransition runtime call next outcome) : next.PlanLinks := by
  have small : PromptsSmall runtime.ingress.requests := links.prompts
  cases transition with
  | submitted _ _ published =>
    exact links.frame rfl rfl links.sized (small.publish published) id
  | withdrawn published =>
    exact links.frame rfl rfl links.sized ((small.publish published).clearSlot _) id
  | unmatched => exact links.frame rfl rfl links.sized small not_ready
  | cancelDrained _ target drained idle =>
    have sound := (links.sound _ _ _ target.holding).requestCancel target.requested
    have kept := keeps_requestCancel target.requested
    refine links.setSlot target.holding rfl (kept.1.trans (keeps_beginDraining drained).1)
      (sound.beginDraining drained) rfl rfl links.sized small ?_
    intro ready
    refine ⟨ready, ?_⟩
    rw [← kept.2]
    exact fun active => (active idle).elim
  | cancelStuck _ target drained =>
    have sound := (links.sound _ _ _ target.holding).requestCancel target.requested
    have kept := keeps_requestCancel target.requested
    exact links.setSlot target.holding rfl (kept.1.trans (keeps_beginDraining drained).1)
      (sound.beginDraining drained) rfl rfl links.sized small not_ready
  | overflowed _ _ claimed =>
    exact links.frame rfl rfl links.sized (small.setState claimed _) not_ready
  | abandoned steps _ claimed written =>
    have cleared := (small.setState claimed .claimed).clearSlot
    cases written with
    | same => exact links.frame rfl rfl links.sized (cleared _) not_ready
    | wrote found vacant still =>
      refine links.setOutside found ?_ ?_ rfl rfl links.sized (cleared _) not_ready
      · apply links.not_member steps.ready found
        intro _ held
        cases vacant.symm.trans held
      · intro _ held
        cases still.symm.trans held
  | rejected _ _ claimed =>
    exact links.frame rfl rfl links.sized ((small.setState claimed .claimed).clearSlot _) id
  | admitted steps _ claimed found vacant created =>
    refine links.setOutside found ?_ ?_ rfl rfl links.sized (small.setState claimed .claimed) id
    · apply links.not_member steps.ready found
      intro _ held
      cases vacant.symm.trans held
    · rintro _ ⟨⟩
      have fits := small _ (mem_of_getElem? claimed.found)
      rcases admitSequence_sound fits created with ⟨sound, rfl⟩
      exact ⟨sound, rfl⟩
  | completed _ completion completed =>
    refine links.ended ?_ rfl rfl rfl
    intro index slot sequence holding
    rcases completed.slots.backward holding with ⟨outside, same⟩ | ⟨member, listed, -, rfl, -⟩
    · rw [completion.indices] at outside
      exact ⟨links.sound _ _ _ same, links.idle_outside completion.isCurrent same outside⟩
    have applies := (completion.valid member listed).applies
    exact ⟨(links.sound _ _ _ applies.holding).complete applies.complete,
      (keeps_complete applies.complete).2⟩
  | completionBroken _ completion broken =>
    refine links.keep rfl ?_ links.sized small not_ready
    exact .broken links.sound (fun member listed => (completion.valid member listed).applies)
      broken.slots
  | finalized _ target =>
    rcases finishSequence_ok target.finish with ⟨draining, -⟩
    refine links.setOutside target.holding.1 ?_ ?_ rfl rfl links.sized (small.clearSlot _) id
    · apply links.not_member target.ready target.holding.1
      rw [target.holding.2]
      rintro _ ⟨⟩
      exact (links.sound _ _ _ target.holding).idle_of_draining draining
    · exact nofun
  | finalizeStuck _ target release =>
    have sound := (links.sound _ _ _ target.holding).finish target.finish
    have kept := keeps_finish target.finish
    refine links.setSlot target.holding rfl kept sound rfl rfl links.sized ?_ not_ready
    cases release with
    | released => exact small.clearSlot _
    | kept => exact small

/-- Every transition keeps the links. -/
theorem PlanLinks.preserved (links : runtime.PlanLinks)
    (transition : Transition runtime call next outcome) : next.PlanLinks := by
  have small : PromptsSmall runtime.ingress.requests := links.prompts
  cases transition with
  | request transition => exact links.request transition
  | quiet _ sized => exact links.frame rfl rfl sized small id
  | cancelSubmitted | ignored | acknowledged | tookEvent =>
    exact links.frame rfl rfl links.sized small id
  | foreign | corrupted => exact links.frame rfl rfl links.sized small not_ready
  | cancelRequested _ target =>
    have kept := keeps_requestCancel target.requested
    refine links.setSlot target.holding rfl kept.1 ((links.sound _ _ _ target.holding).requestCancel
        target.requested) rfl rfl links.sized small ?_
    intro ready
    refine ⟨ready, ?_⟩
    rw [kept.2]
    exact id
  | prepared _ sized prepared => exact links.prepare prepared rfl rfl sized rfl
  | committed _ _ _ moves =>
    refine links.moves moves.toMoves ?_ ?_ rfl links.sized small id
    · intro _ _ _ rule
      have kept := keeps_commit rule
      exact ⟨kept.1, fun _ => kept.2⟩
    · exact fun _ _ _ sound rule => sound.commit rule
  | commitPartial _ _ _ moves =>
    refine links.moves moves ?_ ?_ rfl links.sized small not_ready
    · exact fun _ _ _ rule => ⟨(keeps_commit rule).1, not_ready⟩
    · exact fun _ _ _ sound rule => sound.commit rule
  | marked _ _ moves =>
    refine links.moves moves.toMoves ?_ ?_ rfl links.sized small id
    · intro _ _ _ rule
      have kept := keeps_markInFlight rule
      exact ⟨kept.1, fun _ => kept.2⟩
    · exact fun _ _ _ sound rule => sound.markInFlight rule
  | markPartial _ _ moves =>
    refine links.moves moves ?_ ?_ rfl links.sized small not_ready
    · exact fun _ _ _ rule => ⟨(keeps_markInFlight rule).1, not_ready⟩
    · exact fun _ _ _ sound rule => sound.markInFlight rule
  | aborted _ isCurrent _ moves =>
    refine links.ended ?_ rfl rfl rfl
    intro index slot sequence holding
    rcases moves.toMoves.backward holding with same | ⟨-, _, _, held, rule, -⟩
    · refine ⟨links.sound _ _ _ same, ?_⟩
      apply links.idle_outside isCurrent same
      intro member
      rcases moves.at member same with ⟨_, rule, moved⟩
      rcases moved.unique holding with ⟨-, rfl⟩
      have idle := (keeps_abortPrepared rule).2
      rcases abortPrepared_ok_iff.mp rule with ⟨prepared, -, -⟩
      exact (links.sound _ _ _ same).active_of_prepared prepared idle
    exact ⟨(links.sound _ _ _ held).abortPrepared rule, (keeps_abortPrepared rule).2⟩
  | abortPartial _ _ moves =>
    refine links.moves moves ?_ ?_ rfl links.sized small not_ready
    · exact fun _ _ _ rule => ⟨(keeps_abortPrepared rule).1, not_ready⟩
    · exact fun _ _ _ sound rule => sound.abortPrepared rule

end Preserved

end ControllerRuntime

end Pih
