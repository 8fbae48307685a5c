import Pih.DeepSeek.PageMoves

/-!
# The ledger of a page pool

The invariants of one pool and of the mutations that the transactions keep
for it: the counters are the numbers of slots in each state, a key has at
most one published slot, and a page that was reserved as a new one is the
only page of its key until it is published or given back.
-/

namespace Pih

open List PageMutation

namespace AttentionPagePool

variable
  {Page Cells : Type} {shape : AttentionPageShape Page Cells}
  {slots next : List (AttentionPageSlot Cells)}

/-! ## Counting states -/

/-- The number of slots in a state. -/
def stateCount (shape : AttentionPageShape Page Cells) (slots : List (AttentionPageSlot Cells))
    (state : DeepSeekAttentionPageState) : ℕ :=
  slots.countP fun slot => shape.every state slot.cells

/-- All pages of every slot are in one state. -/
def Uniform (shape : AttentionPageShape Page Cells)
    (slots : List (AttentionPageSlot Cells)) : Prop :=
  ∀ slot ∈ slots, ∃ state, slot.cells = shape.fill state

section

variable (lawful : shape.Lawful)

include lawful

theorem every_fill (state filled : DeepSeekAttentionPageState) :
    shape.every state (shape.fill filled) = decide (state = filled) := by
  rw [Bool.eq_iff_iff, lawful.every_iff, decide_eq_true_eq]
  exact ⟨fun same => (lawful.fill_injective same).symm, fun same => by rw [same]⟩

theorem stateCount_set {after : DeepSeekAttentionPageState} (found : slots[ordinal]? = some old)
    (oldCells : old.cells = shape.fill before) (newCells : new.cells = shape.fill after) :
    stateCount shape (slots.set ordinal new) state + (if state = before then 1 else 0) =
      stateCount shape slots state + (if state = after then 1 else 0) := by
  have counted := countP_set_add
      (fun slot : AttentionPageSlot Cells => shape.every state slot.cells)
      new found
  simp only [oldCells, newCells, every_fill lawful, decide_eq_true_eq] at counted
  exact counted

theorem stateCount_total (uniform : Uniform shape slots) :
    stateCount shape slots .free + stateCount shape slots .reserved +
      stateCount shape slots .published = slots.length := by
  unfold stateCount
  induction slots with
  | nil => rfl
  | cons slot _ induction =>
    have tail := induction fun slot member => uniform slot (.tail _ member)
    rcases uniform slot (.head _) with ⟨state, cells⟩
    simp only [countP_cons, cells, every_fill lawful]
    cases state <;> simp <;> omega

/-- The counters of the pool are right. -/
structure Counted (shape : AttentionPageShape Page Cells)
    (pool : AttentionPagePool Cells) : Prop where
  free : pool.freeCount = stateCount shape pool.slots .free
  reserved : pool.reservedCount = stateCount shape pool.slots .reserved
  published : pool.publishedCount = stateCount shape pool.slots .published

/-! ## The slots -/

section

variable (shape : AttentionPageShape Page Cells) (slots : List (AttentionPageSlot Cells))

/-- The page was handed out by its slot, now or earlier. -/
def Issued (page : Page) : Prop := ∃ place generation slot,
    shape.locate page = some (place, generation) ∧
    slots[place]? = some slot ∧ generation ≤ slot.generation

/-- The page is the only one of its key while it is reserved. -/
def Sole (page : Page) : Prop :=
  ∀ place, Holds shape slots page place .reserved → ∀ (other : ℕ) (slot : AttentionPageSlot Cells),
      slots[other]? = some slot → slot.cells ≠ shape.fill .free →
      slot.identity = shape.identity page → other = place

/-- At most one slot is published for a key. -/
def UniquelyPublished : Prop := ∀ (first second : ℕ) (slot other : AttentionPageSlot Cells),
    slots[first]? = some slot → slots[second]? = some other →
    slot.cells = shape.fill .published →
    other.cells = shape.fill .published →
    slot.identity = other.identity → first = second

end

/-- The invariants of a pool with the mutations kept for it. -/
structure Ledger (shape : AttentionPageShape Page Cells) (capacity : ℕ)
    (pool : AttentionPagePool Cells)
    (lanes : List (List (PageMutation Page))) : Prop where
  length : pool.slots.length = capacity
  bounded : capacity ≤ DeepSeekBlockHandle.kSlotMask + 1
  small : ∀ slot ∈ pool.slots, slot.generation ≤ u32Max
  uniform : Uniform shape pool.slots
  counted : Counted shape pool
  unique : UniquelyPublished shape pool.slots
  issued : ∀ lane ∈ lanes, ∀ mutation ∈ lane, Issued shape pool.slots mutation.replacement
  sole : ∀ lane ∈ lanes, ∀ mutation ∈ lane, mutation.committed = none →
      Sole shape pool.slots mutation.replacement
  distinct : ∀ lane ∈ lanes, (lane.map fun mutation => shape.locate mutation.replacement).Nodup

/-! ## Slots that are given up -/

/-- Every slot is as before or was emptied. -/
def Shrinks (shape : AttentionPageShape Page Cells)
    (slots next : List (AttentionPageSlot Cells)) : Prop :=
  ∀ place : ℕ, next[place]? = slots[place]? ∨
    ∃ slot, slots[place]? = some slot ∧ slot.cells ≠ shape.fill .free ∧
      next[place]? = some { slot with cells := shape.fill .free }

theorem shrinks_fillSlot {pool : AttentionPagePool Cells}
    (held : Holds shape pool.slots page ordinal state) (occupied : state ≠ .free) :
    Shrinks shape pool.slots (pool.fillSlot shape ordinal .free).slots := by
  intro place
  rw [getElem?_fillSlot]
  split
  case isTrue same =>
    subst same
    rcases held with ⟨slot, -, found, -, cells⟩
    refine .inr ⟨slot, found, ?_, by rw [found]; rfl⟩
    intro empty
    exact occupied (lawful.fill_injective (cells.symm.trans empty))
  · exact .inl rfl

end

namespace Shrinks

section

variable (shrinks : Shrinks shape slots next)

include shrinks

theorem backward {place : ℕ} (found : next[place]? = some slot) :
    ∃ before, slots[place]? = some before ∧ before.generation = slot.generation ∧
      before.identity = slot.identity ∧
      (slot = before ∨ slot.cells = shape.fill .free ∧ before.cells ≠ shape.fill .free) := by
  rcases shrinks place with same | ⟨before, was, occupied, now⟩
  · exact ⟨slot, same.symm.trans found, rfl, rfl, .inl rfl⟩
  cases now.symm.trans found
  exact ⟨before, was, rfl, rfl, .inr ⟨rfl, occupied⟩⟩

theorem forward {place : ℕ} (found : slots[place]? = some slot) :
    ∃ after, next[place]? = some after ∧ after.generation = slot.generation := by
  rcases shrinks place with same | ⟨_, was, -, now⟩
  · exact ⟨slot, same.trans found, rfl⟩
  cases was.symm.trans found
  exact ⟨_, now, rfl⟩

theorem occupied {place : ℕ} (found : next[place]? = some slot)
    (nonfree : slot.cells ≠ shape.fill .free) : slots[place]? = some slot := by
  rcases shrinks.backward found with ⟨_, was, -, -, rfl | ⟨empty, -⟩⟩
  · exact was
  · exact (nonfree empty).elim

end

theorem sole (lawful : shape.Lawful) (shrinks : Shrinks shape slots next)
    (sole : Sole shape slots page) : Sole shape next page := by
  intro place held other slot found nonfree identity
  refine sole place ?_ other slot (shrinks.occupied found nonfree) nonfree identity
  rcases held with ⟨own, located, there, named, cells⟩
  refine ⟨own, located, shrinks.occupied there ?_, named, cells⟩
  rw [cells]
  intro same
  cases lawful.fill_injective same

theorem unique (lawful : shape.Lawful) (shrinks : Shrinks shape slots next)
    (unique : UniquelyPublished shape slots) : UniquelyPublished shape next := by
  intro first second slot other found there published again identity
  have nonfree : shape.fill .published ≠ shape.fill .free := by
    intro same
    cases lawful.fill_injective same
  exact unique first second slot other (shrinks.occupied found (published ▸ nonfree))
    (shrinks.occupied there (again ▸ nonfree)) published again identity

theorem issued (shrinks : Shrinks shape slots next)
    (issued : Issued shape slots page) : Issued shape next page := by
  rcases issued with ⟨place, generation, _, located, found, least⟩
  rcases shrinks.forward found with ⟨after, there, same⟩
  exact ⟨place, generation, after, located, there, same ▸ least⟩

theorem uniform (shrinks : Shrinks shape slots next)
    (uniform : Uniform shape slots) : Uniform shape next := by
  intro slot member
  rcases mem_iff_getElem?.mp member with ⟨_, found⟩
  rcases shrinks.backward found with ⟨_, was, -, -, rfl | ⟨empty, -⟩⟩
  · exact uniform slot (mem_of_getElem? was)
  · exact ⟨.free, empty⟩

end Shrinks

theorem Ledger.shrink (lawful : shape.Lawful) {after : AttentionPagePool Cells}
    (ledger : Ledger shape capacity pool lanes) (shrinks : Shrinks shape pool.slots after.slots)
    (length : after.slots.length = pool.slots.length)
    (counted : Counted shape after) : Ledger shape capacity after lanes where
  length := length.trans ledger.length
  bounded := ledger.bounded
  small := by
    intro slot member
    rcases mem_iff_getElem?.mp member with ⟨_, found⟩
    rcases shrinks.backward found with ⟨before, was, same, -⟩
    rw [← same]
    exact ledger.small before (mem_of_getElem? was)
  uniform := shrinks.uniform ledger.uniform
  counted := counted
  unique := shrinks.unique lawful ledger.unique
  issued := fun lane listed mutation member =>
    shrinks.issued (ledger.issued lane listed mutation member)
  sole := fun lane listed mutation member fresh =>
    shrinks.sole lawful (ledger.sole lane listed mutation member fresh)
  distinct := ledger.distinct

theorem slots_fillSlot {pool : AttentionPagePool Cells} (found : pool.slots[ordinal]? = some slot)
    (state : DeepSeekAttentionPageState) :
    (pool.fillSlot shape ordinal state).slots = pool.slots.set ordinal
      { slot with cells := shape.fill state } := by
  apply ext_getElem?
  intro place
  rw [getElem?_fillSlot]
  rcases getElem?_set_cases found place with ⟨rfl, written⟩ | ⟨different, kept⟩
  · rw [if_pos rfl, written, found]
    rfl
  · rw [if_neg (fun same => different same.symm), kept]

theorem length_fillSlot (pool : AttentionPagePool Cells) (ordinal : ℕ)
    (state : DeepSeekAttentionPageState) :
    (pool.fillSlot shape ordinal state).slots.length = pool.slots.length :=
  length_modify _ _ _

/-- Filling the slot of a page moves one slot between two states. -/
theorem stateCount_fillSlot (lawful : shape.Lawful) {pool : AttentionPagePool Cells}
    (held : Holds shape pool.slots page ordinal before) (after state : DeepSeekAttentionPageState) :
    stateCount shape (pool.fillSlot shape ordinal after).slots state +
        (if state = before then 1 else 0) =
      stateCount shape pool.slots state + (if state = after then 1 else 0) := by
  rcases held with ⟨_, -, found, -, cells⟩
  rw [slots_fillSlot found]
  exact stateCount_set lawful found cells rfl

theorem stateCount_pos (lawful : shape.Lawful) (held : Holds shape slots page ordinal state) :
    0 < stateCount shape slots state := by
  rcases held with ⟨slot, -, found, -, cells⟩
  exact countP_pos_iff.mpr ⟨slot, mem_of_getElem? found, (lawful.every_iff _ _).mpr cells⟩

/-- The counters stay right if they follow a slot between two states. -/
theorem Counted.move (lawful : shape.Lawful) {after : AttentionPagePool Cells}
    {next : DeepSeekAttentionPageState} (counted : Counted shape pool)
    (held : Holds shape pool.slots page ordinal before)
    (slots : after.slots = (pool.fillSlot shape ordinal next).slots)
    (free : after.freeCount + (if .free = before then 1 else 0) =
      pool.freeCount + (if .free = next then 1 else 0))
    (reserved : after.reservedCount + (if .reserved = before then 1 else 0) =
      pool.reservedCount + (if .reserved = next then 1 else 0))
    (published : after.publishedCount + (if .published = before then 1 else 0) =
      pool.publishedCount + (if .published = next then 1 else 0)) :
    Counted shape after := by
  have moved := stateCount_fillSlot lawful held next
  constructor
  · have count := moved .free
    rw [slots]
    rw [counted.free] at free
    omega
  · have count := moved .reserved
    rw [slots]
    rw [counted.reserved] at reserved
    omega
  · have count := moved .published
    rw [slots]
    rw [counted.published] at published
    omega

/-! ## Operations on published and reserved pages -/

section Operations

variable
  {capacity : ℕ} {pool after : AttentionPagePool Cells}
  {lanes : List (List (PageMutation Page))}

section

variable (lawful : shape.Lawful)

include lawful

theorem Ledger.rollback (ledger : Ledger shape capacity pool lanes) (page : Page) :
    Ledger shape capacity (pool.rollback shape page).1 lanes := by
  unfold AttentionPagePool.rollback
  split
  · exact ledger
  case h_2 accepted =>
    have held := (validate_ok_iff lawful).mp accepted
    refine ledger.shrink lawful (shrinks_fillSlot lawful held nofun) (length_fillSlot _ _ _) ?_
    have positive := stateCount_pos lawful held
    rw [← ledger.counted.reserved] at positive
    exact ledger.counted.move lawful held rfl rfl (Nat.sub_add_cancel positive) rfl

theorem stateCount_release (sequence : ℕ) (uniform : Uniform shape slots) :
    let released :=
      slots.map fun slot =>
        if publishedFor shape sequence slot then { slot with cells := shape.fill .free }
        else slot
    stateCount shape released .free = stateCount shape slots .free +
          slots.countP (publishedFor shape sequence) ∧
      stateCount shape released .reserved = stateCount shape slots .reserved ∧
      stateCount shape released .published + slots.countP (publishedFor shape sequence) =
        stateCount shape slots .published := by
  unfold stateCount
  induction slots with
  | nil => exact ⟨rfl, rfl, rfl⟩
  | cons slot _ induction =>
    have tail := induction fun slot member => uniform slot (.tail _ member)
    rcases uniform slot (.head _) with ⟨state, cells⟩
    simp only [map_cons, countP_cons]
    have single : publishedFor shape sequence slot = true → state = .published := by
      intro published
      simp only [publishedFor, cells, lawful.lead_fill, decide_eq_true_eq] at published
      exact published.2
    by_cases released : publishedFor shape sequence slot = true
    · cases single released
      simp only [released, if_true, cells, every_fill lawful,
        decide_true, reduceCtorEq, decide_false, if_false]
      omega
    simp only [released, Bool.false_eq_true, if_false]
    omega

section

variable (ledger : Ledger shape capacity pool lanes)

include ledger

theorem Ledger.releasePublishedSequence (sequence : ℕ) :
    Ledger shape capacity (pool.releasePublishedSequence shape sequence).1
      lanes := by
  unfold AttentionPagePool.releasePublishedSequence
  split
  · exact ledger
  have counts := stateCount_release lawful sequence ledger.uniform
  have counted := ledger.counted
  refine ledger.shrink lawful ?_ (length_map _) ?_
  · intro place
    rw [getElem?_map]
    cases found : pool.slots[place]? with
    | none => exact .inl rfl
    | some slot =>
      rw [Option.map_some]
      split
      case isTrue published =>
        refine .inr ⟨slot, rfl, ?_, rfl⟩
        simp only [publishedFor, decide_eq_true_eq] at published
        intro empty
        rw [empty, lawful.lead_fill] at published
        cases published.2
      · exact .inl rfl
  · constructor
    · rw [counted.free]
      exact counts.1.symm
    · rw [counted.reserved]
      exact counts.2.1.symm
    · rw [counted.published]
      exact (Nat.eq_sub_of_add_eq counts.2.2).symm

/-- A reserved page becomes the published one of its key. -/
theorem Ledger.promote (held : Holds shape pool.slots page target .reserved)
    (alone : ∀ (other : ℕ) (slot : AttentionPageSlot Cells), pool.slots[other]? = some slot →
      slot.cells = shape.fill .published →
      slot.identity ≠ shape.identity page)
    (slots : after.slots = (pool.fillSlot shape target .published).slots)
    (counted : Counted shape after) : Ledger shape capacity after lanes := by
  have kept {place : ℕ} {slot : AttentionPageSlot Cells} (found : after.slots[place]? = some slot) :
      ∃ before, pool.slots[place]? = some before ∧ before.generation = slot.generation ∧
        before.identity = slot.identity ∧
        (slot = before ∨ place = target ∧ slot.cells = shape.fill .published) := by
    rw [slots, getElem?_fillSlot] at found
    split at found
    case isTrue same =>
      rcases Option.map_eq_some_iff.mp found with ⟨before, was, rfl⟩
      exact ⟨before, was, rfl, rfl, .inr ⟨same.symm, rfl⟩⟩
    · exact ⟨slot, found, rfl, rfl, .inl rfl⟩
  have stays {place : ℕ} (different : target ≠ place) :
      after.slots[place]? = pool.slots[place]? := by
    rw [slots]
    exact getElem?_fillSlot_ne _ _ different
  have nonfree : shape.fill .reserved ≠ shape.fill .free := by
    intro same
    cases lawful.fill_injective same
  rcases held with ⟨own, located, there, named, cells⟩
  have new : after.slots[target]? = some { own with cells := shape.fill .published } := by
    rw [slots, getElem?_fillSlot, if_pos rfl, there]
    rfl
  constructor
  · rw [slots, length_fillSlot]
    exact ledger.length
  · exact ledger.bounded
  · intro slot member
    rcases mem_iff_getElem?.mp member with ⟨place, found⟩
    rcases kept found with ⟨before, was, same, -⟩
    rw [← same]
    exact ledger.small before (mem_of_getElem? was)
  · intro slot member
    rcases mem_iff_getElem?.mp member with ⟨place, found⟩
    rcases kept found with ⟨before, was, -, -, rfl | ⟨-, published⟩⟩
    · exact ledger.uniform slot (mem_of_getElem? was)
    · exact ⟨_, published⟩
  · exact counted
  · -- the key of the page had no published slot before
    intro first second slot other found again published republished identity
    rcases kept found with ⟨before, was, -, same, rfl | ⟨rfl, -⟩⟩
    · rcases kept again with ⟨earlier, was', -, same', rfl | ⟨rfl, -⟩⟩
      · exact ledger.unique first second slot other was was' published republished identity
      cases there.symm.trans was'
      exact (alone first slot was published (identity.trans (same'.symm.trans named))).elim
    rcases kept again with ⟨_, was', -, _, rfl | ⟨rfl, -⟩⟩
    · cases there.symm.trans was
      exact (alone second other was' republished (identity.symm.trans (same.symm.trans named))).elim
    · rfl
  · intro lane listed mutation member
    rcases ledger.issued lane listed mutation member with
      ⟨place, generation, slot, located, found, least⟩
    by_cases same : target = place
    · subst same
      cases there.symm.trans found
      exact ⟨target, generation, _, located, new, least⟩
    exact ⟨place, generation, slot, located, (stays same).trans found, least⟩
  · intro lane listed mutation member fresh place holds other slot found occupied identity
    have different : target ≠ place := by
      rintro rfl
      rcases holds with ⟨_, -, now, -, reserved⟩
      cases new.symm.trans now
      cases lawful.fill_injective reserved
    have before := ledger.sole lane listed mutation member fresh place
      (holds.congr (stays different).symm)
    rcases kept found with ⟨_, was, -, same, rfl | ⟨rfl, -⟩⟩
    · exact before other slot was occupied identity
    cases there.symm.trans was
    exact before other own there (cells ▸ nonfree) (same.trans identity)
  · exact ledger.distinct

/-- Publishing a mutation that a transaction keeps. -/
theorem Ledger.publishes (publishes : Publishes shape pool mutation after)
    (listed : lane ∈ lanes) (member : mutation ∈ lane) : Ledger shape capacity after lanes := by
  have counted := ledger.counted
  cases publishes with
  | @page _ target held =>
    refine ledger.promote lawful held ?_ rfl ?_
    · intro other slot found published identity
      have same := ledger.sole lane listed _ member rfl target held other slot found (by
          rw [published]
          intro same
          cases lawful.fill_injective same) identity
      subst same
      rcases held with ⟨own, -, there, -, cells⟩
      cases there.symm.trans found
      cases lawful.fill_injective (cells.symm.trans published)
    · have positive := stateCount_pos lawful held
      rw [← counted.reserved] at positive
      exact counted.move lawful held rfl rfl (Nat.sub_add_cancel positive) rfl
  | @copy _ replacement source target old held same =>
    -- the source is freed first; then the copy is the only published one
    have apart : source ≠ target := old.apart lawful held nofun
    have freed : Ledger shape capacity
        { pool.fillSlot shape source .free with
          publishedCount := pool.publishedCount - 1
          freeCount := pool.freeCount + 1 } lanes := by
      refine ledger.shrink lawful (shrinks_fillSlot lawful old nofun) (length_fillSlot _ _ _) ?_
      have positive := stateCount_pos lawful old
      rw [← counted.published] at positive
      exact counted.move lawful old rfl rfl rfl (Nat.sub_add_cancel positive)
    have kept : Holds shape (pool.fillSlot shape source .free).slots replacement target .reserved :=
      held.congr (getElem?_fillSlot_ne _ _ apart)
    refine freed.promote lawful kept ?_ rfl ?_
    · intro other slot found published identity
      rw [getElem?_fillSlot] at found
      split at found
      · rcases Option.map_eq_some_iff.mp found with ⟨_, -, rfl⟩
        cases lawful.fill_injective published
      case isFalse different =>
        rcases old with ⟨own, -, there, named, cells⟩
        exact different (ledger.unique source other own slot there found
          cells published (named.trans (same.trans identity.symm)))
    · have reserved := stateCount_pos lawful held
      have published := stateCount_pos lawful old
      rw [← counted.reserved] at reserved
      rw [← counted.published] at published
      exact freed.counted.move lawful kept rfl rfl
        (Nat.sub_add_cancel reserved) (Nat.sub_add_cancel published).symm

theorem Ledger.publishAll
    (listed : lane ∈ lanes) (among : mutations ⊆ lane) :
    Ledger shape capacity (publishAll shape pool mutations).1
      lanes := by
  induction mutations generalizing pool with
  | nil => exact ledger
  | cons mutation _ induction =>
    unfold publishAll
    rcases publish_cases lawful pool mutation with ⟨-, _, failed⟩ | ⟨_, publishes, done⟩
    · rw [failed]
      exact ledger
    rw [done]
    exact induction (ledger.publishes lawful publishes listed (among (.head _)))
      fun other member => among (.tail _ member)

theorem Ledger.rollbackAll (mutations : List (PageMutation Page)) :
    Ledger shape capacity (rollbackAll shape pool mutations).1
      lanes := by
  induction mutations generalizing pool with
  | nil => exact ledger
  | cons mutation _ induction => exact induction (ledger.rollback lawful mutation.replacement)

end

end

/-! ## Reservations -/

/-- The slots and the counters of the pool are untouched. -/
structure Untouched (pool after : AttentionPagePool Cells) : Prop where
  slots : after.slots = pool.slots
  freeCount : after.freeCount = pool.freeCount
  reservedCount : after.reservedCount = pool.reservedCount
  publishedCount : after.publishedCount = pool.publishedCount

theorem Untouched.refl (pool : AttentionPagePool Cells) : Untouched pool pool :=
  ⟨rfl, rfl, rfl, rfl⟩

theorem Ledger.untouched (ledger : Ledger shape capacity pool lanes)
    (same : Untouched pool after) : Ledger shape capacity after lanes where
  length := same.slots ▸ ledger.length
  bounded := ledger.bounded
  small := same.slots ▸ ledger.small
  uniform := same.slots ▸ ledger.uniform
  counted := by
    rcases ledger.counted with ⟨free, reserved, published⟩
    rw [← same.slots] at free reserved published
    exact ⟨same.freeCount.trans free, same.reservedCount.trans reserved,
      same.publishedCount.trans published⟩
  unique := same.slots ▸ ledger.unique
  issued := same.slots ▸ ledger.issued
  sole := same.slots ▸ ledger.sole
  distinct := ledger.distinct

/-- A free slot was reserved for a page of the next generation. -/
structure Reserves (shape : AttentionPageShape Page Cells) (pool : AttentionPagePool Cells)
    (identity : DeepSeekPageIdentity) (page : Page)
    (after : AttentionPagePool Cells) (ordinal : ℕ)
    (slot : AttentionPageSlot Cells) : Prop where
  found : pool.slots[ordinal]? = some slot
  empty : slot.cells = shape.fill .free
  small : slot.generation + 1 ≤ u32Max
  located : shape.locate page = some (ordinal, slot.generation + 1)
  named : shape.identity page = identity
  slots : after.slots = pool.slots.set ordinal ⟨slot.generation + 1, identity, shape.fill .reserved⟩
  freeCount : after.freeCount = pool.freeCount - 1
  reservedCount : after.reservedCount = pool.reservedCount + 1
  publishedCount : after.publishedCount = pool.publishedCount

/-- The handles of a page can always be made for a slot of the pool. -/
theorem reserveFree_cases (lawful : shape.Lawful)
    (bounded : pool.slots.length ≤ DeepSeekBlockHandle.kSlotMask + 1)
    (small : ∀ slot ∈ pool.slots, slot.generation ≤ u32Max) (identity : DeepSeekPageIdentity) :
    (∃ refused status, pool.reserveFree shape identity = (refused, .error status) ∧
      Untouched pool refused) ∨
    ∃ reserved page ordinal slot, pool.reserveFree shape identity = (reserved, .ok page) ∧
      Reserves shape pool identity page reserved ordinal slot := by
  unfold reserveFree
  split
  · exact .inl ⟨_, _, rfl, .refl pool⟩
  rename_i slot ordinal searched
  have free := find?_some searched
  have found := mem_zipIdx_iff_getElem?.mp (mem_of_find?_eq_some searched)
  have fits := small slot (mem_of_getElem? found)
  have inside := (List.getElem_of_getElem? found).1
  split
  · exact .inl ⟨_, _, rfl, rfl, rfl, rfl, rfl⟩
  rcases @AttentionPageShape.Lawful.makes _ _ _ lawful ordinal
      (slot.generation + 1) identity (by omega) (by omega)
      (by omega) with
    ⟨page, made, located, named⟩
  rw [made]
  exact .inr ⟨_, page, ordinal, slot, rfl, found,
    (lawful.every_iff _ _).mp free, by omega, located, named, rfl, rfl,
    rfl, rfl⟩

namespace Reserves

variable
  {identity : DeepSeekPageIdentity} {page : Page} {ordinal : ℕ}
  {slot : AttentionPageSlot Cells}

section

variable (reserves : Reserves shape pool identity page after ordinal slot)

include reserves

theorem written : after.slots[ordinal]? =
      some ⟨slot.generation + 1, identity, shape.fill .reserved⟩ := by
  rw [reserves.slots]
  exact List.getElem?_set_self (List.getElem_of_getElem? reserves.found).1

theorem kept {place : ℕ} (different : place ≠ ordinal) :
    after.slots[place]? = pool.slots[place]? := by
  rw [reserves.slots]
  exact getElem?_set_ne fun same => different same.symm

theorem cases (there : after.slots[place]? = some now) : (place = ordinal ∧
      now = ⟨slot.generation + 1, identity, shape.fill .reserved⟩) ∨
    (place ≠ ordinal ∧ pool.slots[place]? = some now) := by
  by_cases same : place = ordinal
  · subst same
    exact .inl ⟨rfl, (Option.some.inj (reserves.written.symm.trans there)).symm⟩
  · exact .inr ⟨same, (reserves.kept same).symm.trans there⟩

end

theorem counted (lawful : shape.Lawful) (counted : Counted shape pool)
    (reserves : Reserves shape pool identity page after ordinal slot) : Counted shape after := by
  have moved (state : DeepSeekAttentionPageState) :
      stateCount shape after.slots state + (if state = .free then 1 else 0) =
        stateCount shape pool.slots state + (if state = .reserved then 1 else 0) := by
    rw [reserves.slots]
    exact stateCount_set lawful reserves.found reserves.empty rfl
  have free := moved .free
  have reserved := moved .reserved
  have published := moved .published
  simp only [reduceCtorEq, if_true, if_false] at free reserved published
  constructor
  · rw [reserves.freeCount, counted.free]
    omega
  · rw [reserves.reservedCount, counted.reserved]
    omega
  · rw [reserves.publishedCount, counted.published]
    omega

variable (reserves : Reserves shape pool identity page after ordinal slot)

include reserves

/-- The page of the reservation is newer than every page of its slot. -/
theorem newer (issued : Issued shape pool.slots other) :
    shape.locate other ≠ shape.locate page := by
  rcases issued with ⟨_, _, _, located, found, _⟩
  rw [reserves.located, located]
  intro same
  cases same
  cases reserves.found.symm.trans found
  omega

theorem issued (issued : Issued shape pool.slots other) : Issued shape after.slots other := by
  rcases issued with ⟨place, generation, own, located, found, least⟩
  by_cases same : place = ordinal
  · subst same
    cases reserves.found.symm.trans found
    exact ⟨_, generation, _, located, reserves.written, Nat.le_succ_of_le least⟩
  exact ⟨place, generation, own, located, (reserves.kept same).trans found, least⟩

/-- What an earlier page holds is still what it held. -/
theorem held (issued : Issued shape pool.slots other)
    (held : Holds shape after.slots other place state) :
    place ≠ ordinal ∧ Holds shape pool.slots other place state := by
  rcases held with ⟨own, located, found, named, cells⟩
  rcases reserves.cases found with ⟨rfl, rfl⟩ | ⟨different, kept⟩
  · exact (reserves.newer issued (located.trans reserves.located.symm)).elim
  · exact ⟨different, own, located, kept, named, cells⟩

end Reserves

/-- A reservation keeps the books if it competes with no new page. -/
theorem Ledger.reserves (lawful : shape.Lawful)
    (ledger : Ledger shape capacity pool lanes) {committed : Option Page}
    (reserves : Reserves shape pool identity page after ordinal slot)
    (listed : lanes[which]? = some lane)
    (clear : ∀ lane ∈ lanes, ∀ mutation ∈ lane, mutation.committed = none →
      ∀ place, Holds shape pool.slots mutation.replacement place .reserved →
      shape.identity mutation.replacement ≠ identity)
    (alone : committed = none → ∀ other ∈ pool.slots,
      other.cells ≠ shape.fill .free → other.identity ≠ identity) :
    Ledger shape capacity after (lanes.set which (lane ++ [⟨committed, page⟩])) := by
  have members : ∀ other ∈ lanes.set which (lane ++ [⟨committed, page⟩]),
      ∀ mutation ∈ other, (∃ before ∈ lanes, mutation ∈ before) ∨
        mutation = ⟨committed, page⟩ := by
    intro other among mutation member
    rcases mem_or_eq_of_mem_set among with before | rfl
    · exact .inl ⟨other, before, member⟩
    rcases mem_append.mp member with earlier | last
    · exact .inl ⟨lane, mem_of_getElem? listed, earlier⟩
    · exact .inr (mem_singleton.mp last)
  constructor
  · rw [reserves.slots, length_set]
    exact ledger.length
  · exact ledger.bounded
  · intro own member
    rcases mem_iff_getElem?.mp member with ⟨place, found⟩
    rcases reserves.cases found with ⟨-, rfl⟩ | ⟨-, kept⟩
    · exact reserves.small
    · exact ledger.small own (mem_of_getElem? kept)
  · intro own member
    rcases mem_iff_getElem?.mp member with ⟨place, found⟩
    rcases reserves.cases found with ⟨-, rfl⟩ | ⟨-, kept⟩
    · exact ⟨.reserved, rfl⟩
    · exact ledger.uniform own (mem_of_getElem? kept)
  · exact reserves.counted lawful ledger.counted
  · intro first second own other found there published again same
    rcases reserves.cases found with ⟨-, rfl⟩ | ⟨-, kept⟩
    · cases lawful.fill_injective published
    rcases reserves.cases there with ⟨-, rfl⟩ | ⟨-, kept'⟩
    · cases lawful.fill_injective again
    exact ledger.unique first second own other kept kept' published again same
  · intro other among mutation member
    rcases members other among mutation member with ⟨before, was, member⟩ | rfl
    · exact reserves.issued (ledger.issued before was mutation member)
    exact ⟨ordinal, _, _, reserves.located, reserves.written, Nat.le_refl _⟩
  · intro other among mutation member fresh place held found own there occupied same
    rcases members other among mutation member with ⟨before, was, member⟩ | rfl
    · have issued := ledger.issued before was mutation member
      rcases reserves.held issued held with ⟨_, held⟩
      rcases reserves.cases there with ⟨-, rfl⟩ | ⟨-, kept⟩
      · exact (clear before was mutation member fresh place held same.symm).elim
      exact ledger.sole before was mutation member fresh place held found own kept occupied same
    rcases held with ⟨_, located, -⟩
    have place_eq : ordinal = place :=
      congrArg Prod.fst (Option.some.inj (reserves.located.symm.trans located))
    subst place_eq
    rcases reserves.cases there with ⟨equal, -⟩ | ⟨-, kept⟩
    · exact equal
    exact (alone fresh own (mem_of_getElem? kept) occupied (same.trans reserves.named)).elim
  · intro other among
    rcases mem_or_eq_of_mem_set among with before | rfl
    · exact ledger.distinct other before
    have member := mem_of_getElem? listed
    rw [map_append, nodup_append]
    refine ⟨ledger.distinct lane member, by simp, ?_⟩
    intro earlier among last final same
    rcases mem_map.mp among with ⟨mutation, own, rfl⟩
    rw [mem_singleton.mp final] at same
    exact reserves.newer (ledger.issued lane member mutation own) same

end Operations

end AttentionPagePool

end Pih
