import Pih.Scheduler.ControllerCompletion
import Pih.Scheduler.SequenceLedger

/-!
# Moving the sequences of a plan

The loops over the members of a plan change the sequence of each member's
slot and nothing else.  `Moves` says so for a loop that may stop early, and
`MovesAll` for one that reached every member.
-/

namespace Pih.ControllerRuntime

open List

/-- The sequence in a slot, if the index is one of the table. -/
def Holding (slots : List RuntimeSlot) (index : ℕ) (slot : RuntimeSlot)
    (sequence : ControllerSequence) : Prop :=
  slots[index]? = some slot ∧ slot.sequence = some sequence

variable {sequence : ControllerSequence} {slots : List RuntimeSlot}

theorem Holding.unique (first : Holding slots index slot sequence)
    (second : Holding slots index other another) : other = slot ∧ another = sequence := by
  have same : other = slot := Option.some.inj (second.1.symm.trans first.1)
  subst same
  exact ⟨rfl, Option.some.inj (second.2.symm.trans first.2)⟩

theorem Holding.lt (holding : Holding slots index slot sequence) : index < slots.length :=
  (List.getElem_of_getElem? holding.1).1

theorem Holding.getD (holding : Holding slots index slot sequence) :
    slots.getD index {} = slot := by
  rw [getD_eq_getElem?_getD, holding.1]
  rfl

/-- Only a slot of the table can be read with a sequence. -/
theorem holding_getD (found : (slots.getD index {}).sequence = some sequence) :
    Holding slots index (slots.getD index {}) sequence := by
  refine ⟨?_, found⟩
  rw [getD_eq_getElem?_getD] at found ⊢
  cases looked : slots[index]? with
  | none =>
    rw [looked] at found
    cases found
  | some => rfl

/-- A write to one slot is seen at its index only. -/
theorem holding_set_iff (inside : index < slots.length) (written : RuntimeSlot) :
    Holding (slots.set index written) other slot sequence ↔
      (other = index ∧ slot = written ∧ written.sequence = some sequence) ∨
        (other ≠ index ∧ Holding slots other slot sequence) := by
  unfold Holding
  by_cases same : other = index
  · subst same
    rw [getElem?_set_self inside]
    constructor
    · rintro ⟨equal, found⟩
      cases equal
      exact .inl ⟨rfl, rfl, found⟩
    · rintro (⟨-, rfl, found⟩ | ⟨different, -⟩)
      · exact ⟨rfl, found⟩
      · exact (different rfl).elim
  rw [getElem?_set_ne (fun equal => same equal.symm)]
  constructor
  · exact fun holding => .inr ⟨same, holding⟩
  · rintro (⟨equal, -⟩ | ⟨-, holding⟩)
    · exact (same equal).elim
    · exact holding

/-! ## One member -/

/-- The sequence at an index was replaced by a changed one. -/
def Moved (change : ℕ → ControllerSequence → ControllerSequence → Prop)
    (slots next : List RuntimeSlot) (index : ℕ) : Prop :=
  ∃ slot sequence changed, Holding slots index slot sequence ∧
    change index sequence changed ∧
    next[index]? = some { slot with sequence := some changed }

theorem applyToSequence_ok_iff (operation : ControllerSequence → Result ControllerSequence)
    (slots next : List RuntimeSlot) (index : ℕ) :
    applyToSequence operation slots index = .ok next ↔ ∃ slot sequence changed,
      Holding slots index slot sequence ∧
      operation sequence = .ok changed ∧
      next = slots.set index { slot with sequence := some changed } := by
  unfold applyToSequence
  dsimp only
  constructor
  · intro applied
    split at applied
    · cases applied
    case h_2 sequence found =>
      split at applied
      · cases applied
      case h_2 changed done =>
        exact ⟨_, sequence, changed, holding_getD found, done, (Except.ok.inj applied).symm⟩
  · rintro ⟨_, _, _, holding, done, rfl⟩
    rw [holding.getD, holding.2]
    dsimp only
    rw [done]

/-! ## All members -/

/-- Some of the members were moved; every other slot is as it was. -/
structure Moves (change : ℕ → ControllerSequence → ControllerSequence → Prop)
    (slots next : List RuntimeSlot) (indices : List ℕ) : Prop where
  length : next.length = slots.length
  outside : ∀ index, index ∉ indices → next[index]? = slots[index]?
  inside : ∀ index ∈ indices, next[index]? = slots[index]? ∨ Moved change slots next index

/-- Every member was moved. -/
structure MovesAll (change : ℕ → ControllerSequence → ControllerSequence → Prop)
    (slots next : List RuntimeSlot) (indices : List ℕ) : Prop
    extends Moves change slots next indices where
  every : ∀ index ∈ indices, Moved change slots next index

section

variable
  {change : ℕ → ControllerSequence → ControllerSequence → Prop}
  {slots next : List RuntimeSlot} {indices : List ℕ}

theorem Moves.refl (change : ℕ → ControllerSequence → ControllerSequence → Prop)
    (slots : List RuntimeSlot) (indices : List ℕ) :
    Moves change slots slots indices where
  length := rfl
  outside := fun _ _ => rfl
  inside := fun _ _ => .inl rfl

section

variable (moves : Moves change slots next indices)

include moves

/-- A slot after the loop is the slot before it, up to its sequence. -/
theorem Moves.backward {sequence : ControllerSequence}
    (holding : Holding next index slot sequence) :
    Holding slots index slot sequence ∨ (index ∈ indices ∧ ∃ old before,
      Holding slots index old before ∧ change index before sequence ∧
        slot = { old with sequence := some sequence }) := by
  by_cases member : index ∈ indices
  · rcases moves.inside index member with same | moved
    · left
      exact ⟨same ▸ holding.1, holding.2⟩
    right
    rcases moved with ⟨old, before, changed, held, rule, written⟩
    have equal : slot = { old with sequence := some changed } :=
      Option.some.inj (holding.1.symm.trans written)
    subst equal
    cases holding.2
    exact ⟨member, old, before, held, rule, rfl⟩
  left
  exact ⟨moves.outside index member ▸ holding.1, holding.2⟩

/-- A sequence before the loop is still there, perhaps changed. -/
theorem Moves.forward {sequence : ControllerSequence}
    (holding : Holding slots index slot sequence) :
    Holding next index slot sequence ∨ (index ∈ indices ∧ ∃ changed,
      change index sequence changed ∧ Holding next index { slot with sequence := some changed }
        changed) := by
  by_cases member : index ∈ indices
  · rcases moves.inside index member with same | moved
    · left
      exact ⟨same.trans holding.1, holding.2⟩
    right
    rcases moved with ⟨_, _, changed, held, rule, written⟩
    rcases held.unique holding with ⟨rfl, rfl⟩
    exact ⟨member, changed, rule, written, rfl⟩
  left
  exact ⟨(moves.outside index member).trans holding.1, holding.2⟩

theorem Moves.weaken (implies : ∀ index before after, change index before after →
      weaker index before after) :
    Moves weaker slots next indices where
  length := moves.length
  outside := moves.outside
  inside := by
    intro index member
    rcases moves.inside index member with same | ⟨slot, before, after, holding, rule, written⟩
    · exact .inl same
    exact .inr ⟨slot, before, after, holding, implies _ _ _ rule, written⟩

end

/-- One slot was moved. -/
theorem Moves.single {after : ControllerSequence} (holding : Holding slots index slot before)
    (rule : change index before after) :
    Moves change slots (slots.set index { slot with sequence := some after }) [index] where
  length := length_set
  outside := by
    intro other outside
    rw [getElem?_set_ne]
    rintro rfl
    exact outside (mem_singleton_self _)
  inside := by
    intro other member
    cases mem_singleton.mp member
    exact .inr ⟨slot, before, after, holding, rule, getElem?_set_self holding.lt⟩

theorem MovesAll.at {sequence : ControllerSequence} (moves : MovesAll change slots next indices)
    (member : index ∈ indices)
    (holding : Holding slots index slot sequence) :
    ∃ changed, change index sequence changed ∧
      Holding next index { slot with sequence := some changed } changed := by
  rcases moves.every index member with ⟨_, _, changed, held, rule, written⟩
  rcases held.unique holding with ⟨rfl, rfl⟩
  exact ⟨changed, rule, written, rfl⟩

end

section

variable {slots next : List RuntimeSlot} {sequence : ControllerSequence}

/-- A move after a write to another slot is a move of the slots before it. -/
theorem Moved.of_set (inside : index < slots.length) (different : other ≠ index)
    (moved : Moved change (slots.set index written) next other) :
    Moved change slots next other := by
  rcases moved with ⟨old, before, after, held, rule, result⟩
  rcases (holding_set_iff inside written).mp held with ⟨equal, -⟩ | ⟨-, untouched⟩
  · exact (different equal).elim
  · exact ⟨old, before, after, untouched, rule, result⟩

/-- The slot that was written first keeps what was written. -/
theorem Moves.moved_head (fresh : index ∉ rest) (holding : Holding slots index slot sequence)
    (rule : change index sequence changed)
    (moves : Moves change (slots.set index { slot with sequence := some changed }) next rest) :
    Moved change slots next index := by
  refine ⟨slot, sequence, changed, holding, rule, ?_⟩
  rw [moves.outside index fresh, getElem?_set_self holding.lt]

/-- Moving one slot first and then some of the others. -/
theorem Moves.cons (fresh : index ∉ rest) (holding : Holding slots index slot sequence)
    (rule : change index sequence changed)
    (moves : Moves change (slots.set index { slot with sequence := some changed }) next rest) :
    Moves change slots next (index :: rest) := by
  constructor
  · rw [moves.length, length_set]
  · intro other outside
    have different : index ≠ other := by
      rintro rfl
      exact outside (.head _)
    rw [moves.outside other (fun member => outside (.tail _ member)), getElem?_set_ne different]
  · intro other member
    rcases mem_cons.mp member with rfl | later
    · exact .inr (moves.moved_head fresh holding rule)
    have different : index ≠ other := fun equal => fresh (equal ▸ later)
    rcases moves.inside other later with same | moved
    · left
      rw [same, getElem?_set_ne different]
    · exact .inr (moved.of_set holding.lt different.symm)

theorem MovesAll.cons (fresh : index ∉ rest) (holding : Holding slots index slot sequence)
    (rule : change index sequence changed)
    (moves : MovesAll change (slots.set index { slot with sequence := some changed }) next rest) :
    MovesAll change slots next (index :: rest) where
  toMoves := moves.toMoves.cons fresh holding rule
  every := by
    intro other member
    rcases mem_cons.mp member with rfl | later
    · exact moves.toMoves.moved_head fresh holding rule
    exact (moves.every other later).of_set holding.lt (fun equal => fresh (equal ▸ later))

theorem MovesAll.nil : MovesAll change slots slots [] where
  toMoves := .refl _ _ _
  every := nofun

end

end Pih.ControllerRuntime
