import Pih.DeepSeek.AttentionTransaction
import Pih.Library.Tables

/-!
# What the page operations do

A lawful shape keeps all pages of a slot in one state and gives every slot
and generation one page of its own.  Over such a shape a page is accepted
exactly if its slot holds it, and an operation changes the states of the
slots that its pages name.
-/

namespace Pih

open AttentionPagePool DeepSeekBlockHandle List

/-! ## Handles -/

namespace DeepSeekBlockHandle

theorem create_ok (kind : DeepSeekStatePoolKind) {slot generation : ℕ}
    (fits : slot ≤ kSlotMask) (positive : generation ≠ 0) (small : generation ≤ u32Max) :
    ∃ handle, create kind slot generation = .ok handle ∧
      handle.poolKind = kind.code ∧ handle.slot = slot ∧
      handle.generation = generation := by
  refine ⟨⟨kind.code * 2 ^ 56 + slot * 2 ^ 32 + generation⟩, ?_, ?_, ?_, ?_⟩
  · unfold create
    rw [if_neg (by omega)]
  all_goals
    simp only [poolKind, DeepSeekBlockHandle.slot, DeepSeekBlockHandle.generation]
    unfold kSlotMask u32Max at *
    omega

theorem eq_of_parts {second : DeepSeekBlockHandle}
    (kind : first.poolKind = second.poolKind) (slot : first.slot = second.slot)
    (generation : first.generation = second.generation) : first = second := by
  rcases first with ⟨_⟩
  simp only [poolKind, DeepSeekBlockHandle.slot,
    DeepSeekBlockHandle.generation, kSlotMask] at kind slot generation
  congr 1
  omega

end DeepSeekBlockHandle

/-! ## Lawful shapes -/

namespace AttentionPageShape

variable {Page Cells : Type}

/-- The functions of a shape agree with each other. -/
structure Lawful (shape : AttentionPageShape Page Cells) : Prop where
  every_iff : ∀ state cells, shape.every state cells = true ↔ cells = shape.fill state
  any_fill : ∀ state filled, shape.any state (shape.fill filled) = true ↔ filled = state
  lead_fill : ∀ state, shape.lead (shape.fill state) = state
  makes : ∀ {ordinal generation : ℕ} (identity : DeepSeekPageIdentity),
    ordinal ≤ kSlotMask → generation ≠ 0 →
    generation ≤ u32Max →
    ∃ page, shape.makePage ordinal generation identity = .ok page ∧
      shape.locate page = some (ordinal, generation) ∧
      shape.identity page = identity
  unique : ∀ {first second : Page} {place : ℕ × ℕ}, shape.locate first = some place →
    shape.locate second = some place →
    shape.identity first = shape.identity second → first = second

theorem Lawful.fill_injective {shape : AttentionPageShape Page Cells}
    (lawful : shape.Lawful) (same : shape.fill first = shape.fill second) : first = second := by
  rw [← lawful.lead_fill first, same, lawful.lead_fill]

end AttentionPageShape

theorem DeepSeekRatio4PagePool.locate_eq_some (found : locate pair = some place) :
    pair.main.poolKind = DeepSeekStatePoolKind.ratio4MainBf16.code ∧
      pair.index.poolKind = DeepSeekStatePoolKind.ratio4IndexBf16.code ∧
      pair.main.slot = place.1 ∧ pair.index.slot = place.1 ∧
      pair.main.generation = place.2 ∧ pair.index.generation = place.2 ∧
      pair.generation = place.2 := by
  unfold locate at found
  split at found
  · cases found
  case isFalse agree =>
    cases found
    simp only [not_or, not_not] at agree
    rcases agree with ⟨mainKind, indexKind, slots, generations, own⟩
    exact ⟨mainKind, indexKind, rfl, slots.symm, own.symm, generations.symm.trans own.symm, rfl⟩

theorem DeepSeekRatio4PagePool.shape_lawful : shape.Lawful where
  every_iff := by
    rintro _ ⟨main, index⟩
    simp [shape]
  any_fill := by
    simp [shape]
  lead_fill := fun _ => rfl
  makes := by
    intro ordinal generation identity fits positive small
    rcases create_ok .ratio4MainBf16 fits positive small with
      ⟨main, mainMade, mainKind, mainSlot, mainGeneration⟩
    rcases create_ok .ratio4IndexBf16 fits positive small with
      ⟨index, indexMade, indexKind, indexSlot, indexGeneration⟩
    refine ⟨⟨main, index, identity, generation⟩, ?_, ?_, rfl⟩
    · change makePair ordinal generation identity = _
      unfold makePair
      rw [mainMade, indexMade]
    · change locate _ = _
      unfold locate
      rw [if_neg (by
        simp [mainKind, indexKind, mainSlot, indexSlot, mainGeneration, indexGeneration]), mainSlot]
  unique := by
    intro first second place firstAt secondAt identity
    rcases locate_eq_some firstAt with
      ⟨mainKind, indexKind, mainSlot, indexSlot, mainGeneration, indexGeneration, own⟩
    rcases locate_eq_some secondAt with
      ⟨mainKind', indexKind', mainSlot', indexSlot', mainGeneration', indexGeneration', own'⟩
    have main : first.main = second.main := eq_of_parts (mainKind.trans mainKind'.symm)
        (mainSlot.trans mainSlot'.symm)
        (mainGeneration.trans mainGeneration'.symm)
    have index : first.index = second.index := eq_of_parts (indexKind.trans indexKind'.symm)
        (indexSlot.trans indexSlot'.symm)
        (indexGeneration.trans indexGeneration'.symm)
    rcases first with ⟨_, _, _, _⟩
    cases main
    cases index
    cases own.trans own'.symm
    cases identity
    rfl

theorem DeepSeekRatio128PagePool.locate_eq_some (found : locate page = some place) :
    page.handle.poolKind = DeepSeekStatePoolKind.ratio128MainBf16.code ∧
      page.handle.slot = place.1 ∧ page.handle.generation = place.2 := by
  unfold locate at found
  split at found
  · cases found
  case isFalse kind =>
    cases found
    exact ⟨not_not.mp kind, rfl, rfl⟩

theorem DeepSeekRatio128PagePool.shape_lawful : shape.Lawful where
  every_iff := by
    simp [shape]
  any_fill := by
    simp [shape]
  lead_fill := fun _ => rfl
  makes := by
    intro ordinal generation identity fits positive small
    rcases create_ok .ratio128MainBf16 fits positive small with ⟨handle, made, kind, slot, own⟩
    refine ⟨⟨handle, identity⟩, ?_, ?_, rfl⟩
    · change makePage ordinal generation identity = _
      unfold makePage
      rw [made]
    · change locate _ = _
      unfold locate
      rw [if_neg (by simp [kind]), slot, own]
  unique := by
    intro first second place firstAt secondAt identity
    rcases locate_eq_some firstAt with ⟨kind, slot, generation⟩
    rcases locate_eq_some secondAt with ⟨kind', slot', generation'⟩
    have handle : first.handle = second.handle := eq_of_parts (kind.trans kind'.symm)
        (slot.trans slot'.symm) (generation.trans generation'.symm)
    rcases first with ⟨_, _⟩
    cases handle
    cases identity
    rfl

/-! ## Pages in their slots -/

namespace AttentionPagePool

variable
  {Page Cells : Type} {shape : AttentionPageShape Page Cells}
  {slots next : List (AttentionPageSlot Cells)}

/-- The slot holds the page, in a given state. -/
def Holds (shape : AttentionPageShape Page Cells)
    (slots : List (AttentionPageSlot Cells)) (page : Page) (ordinal : ℕ)
    (state : DeepSeekAttentionPageState) : Prop :=
  ∃ slot, shape.locate page = some (ordinal, slot.generation) ∧
    slots[ordinal]? = some slot ∧ slot.identity = shape.identity page ∧
    slot.cells = shape.fill state

theorem validate_ok_iff (lawful : shape.Lawful) {pool : AttentionPagePool Cells} {page : Page}
    {expected : DeepSeekAttentionPageState} {ordinal : ℕ} :
    pool.validate shape page expected = .ok ordinal ↔
      Holds shape pool.slots page ordinal expected := by
  unfold validate
  constructor
  · intro accepted
    split at accepted
    · cases accepted
    rename_i located
    split at accepted
    · cases accepted
    rename_i slot found
    split at accepted
    · cases accepted
    rename_i current
    cases accepted
    simp only [not_or, not_not] at current
    rcases current with ⟨rfl, identity, cells⟩
    exact ⟨slot, located, found, identity, (lawful.every_iff _ _).mp cells⟩
  · rintro ⟨slot, located, found, identity, cells⟩
    have every := (lawful.every_iff expected slot.cells).mpr cells
    rw [located]
    dsimp only
    rw [found]
    dsimp only
    rw [if_neg (by simp [identity, every])]

variable {ordinal : ℕ}

theorem Holds.unique (lawful : shape.Lawful) (held : Holds shape slots first ordinal state)
    (holds : Holds shape slots second ordinal other) : first = second ∧ state = other := by
  rcases held with ⟨_, located, found, identity, cells⟩
  rcases holds with ⟨_, located', found', identity', cells'⟩
  cases found.symm.trans found'
  exact ⟨lawful.unique located located' (identity.symm.trans identity'),
    lawful.fill_injective (cells.symm.trans cells')⟩

theorem Holds.congr (held : Holds shape slots page ordinal state)
    (same : next[ordinal]? = slots[ordinal]?) : Holds shape next page ordinal state := by
  rcases held with ⟨slot, located, found, rest⟩
  exact ⟨slot, located, same.trans found, rest⟩

/-- Different states are in different slots. -/
theorem Holds.apart (lawful : shape.Lawful) (held : Holds shape slots first ordinal state)
    (holds : Holds shape slots second other otherState)
    (different : state ≠ otherState) : ordinal ≠ other := by
  rintro rfl
  exact different (held.unique lawful holds).2

theorem getElem?_fillSlot (pool : AttentionPagePool Cells) (ordinal : ℕ)
    (state : DeepSeekAttentionPageState) (place : ℕ) :
    (pool.fillSlot shape ordinal state).slots[place]? =
      if ordinal = place then
        pool.slots[place]?.map fun slot => { slot with cells := shape.fill state }
      else
        pool.slots[place]? := by
  unfold fillSlot
  by_cases same : ordinal = place
  · subst same
    rw [if_pos rfl, getElem?_modify_eq]
    rfl
  · rw [if_neg same, getElem?_modify_ne _ _ same]

theorem getElem?_fillSlot_ne (pool : AttentionPagePool Cells)
    (state : DeepSeekAttentionPageState) (different : ordinal ≠ place) :
    (pool.fillSlot shape ordinal state).slots[place]? = pool.slots[place]? := by
  rw [getElem?_fillSlot, if_neg different]

theorem Holds.fill {pool : AttentionPagePool Cells}
    (held : Holds shape pool.slots page ordinal state) (filled : DeepSeekAttentionPageState) :
    Holds shape (pool.fillSlot shape ordinal filled).slots page ordinal
      filled := by
  rcases held with ⟨slot, located, found, identity, -⟩
  refine ⟨{ slot with cells := shape.fill filled }, located, ?_, identity, rfl⟩
  rw [getElem?_fillSlot, if_pos rfl, found]
  rfl

/-- The slot is not published. -/
def Unpublished (shape : AttentionPageShape Page Cells)
    (slots : List (AttentionPageSlot Cells)) (ordinal : ℕ) : Prop :=
  ∀ slot, slots[ordinal]? = some slot → slot.cells ≠ shape.fill .published

theorem Unpublished.not_holds (unpublished : Unpublished shape slots ordinal) :
    ¬ Holds shape slots page ordinal .published := by
  rintro ⟨slot, -, found, -, cells⟩
  exact unpublished slot found cells

end AttentionPagePool

/-! ## Publishing mutations -/

namespace PageMutation

open AttentionPagePool (Holds Unpublished fillSlot)

variable
  {Page Cells : Type} {shape : AttentionPageShape Page Cells}
  {pool next : AttentionPagePool Cells} {mutation : PageMutation Page}

/-- The mutation can be published. -/
structure Ready (shape : AttentionPageShape Page Cells) (slots : List (AttentionPageSlot Cells))
    (mutation : PageMutation Page) : Prop where
  target : ∃ place, Holds shape slots mutation.replacement place .reserved
  source : ∀ committed, mutation.committed = some committed →
      (∃ place, Holds shape slots committed place .published) ∧
        shape.identity committed = shape.identity mutation.replacement

/-- What the publication of a mutation does to the pool. -/
inductive Publishes (shape : AttentionPageShape Page Cells) (pool : AttentionPagePool Cells) :
    PageMutation Page → AttentionPagePool Cells → Prop where
  | page (held : Holds shape pool.slots page target .reserved) : Publishes shape pool ⟨none, page⟩
        { pool.fillSlot shape target .published with
          reservedCount := pool.reservedCount - 1
          publishedCount := pool.publishedCount + 1 }
  | copy
      {committed replacement : Page} {source target : ℕ}
      (old : Holds shape pool.slots committed source .published)
      (held : Holds shape pool.slots replacement target .reserved)
      (same : shape.identity committed = shape.identity replacement) :
      Publishes shape pool ⟨some committed, replacement⟩
        { (pool.fillSlot shape source .free).fillSlot shape target
            .published with
          reservedCount := pool.reservedCount - 1
          freeCount := pool.freeCount + 1 }

theorem tailCowSlots_cases (lawful : shape.Lawful)
    (pool : AttentionPagePool Cells) (committed replacement : Page) :
    (¬ Ready shape pool.slots ⟨some committed, replacement⟩ ∧
      ∃ status, pool.tailCowSlots shape committed replacement = .error status) ∨
    ∃ source target, Holds shape pool.slots committed source .published ∧
      Holds shape pool.slots replacement target .reserved ∧
      shape.identity committed = shape.identity replacement ∧
      pool.tailCowSlots shape committed replacement = .ok (source, target) := by
  unfold tailCowSlots
  cases old : pool.validate shape committed .published with
  | error status =>
    refine .inl ⟨?_, status, rfl⟩
    intro ready
    rcases (ready.source committed rfl).1 with ⟨place, held⟩
    rw [(validate_ok_iff lawful).mpr held] at old
    cases old
  | ok source =>
    have oldHeld := (validate_ok_iff lawful).mp old
    cases new : pool.validate shape replacement .reserved with
    | error status =>
      refine .inl ⟨?_, status, rfl⟩
      intro ready
      rcases ready.target with ⟨_, held⟩
      rw [(validate_ok_iff lawful).mpr held] at new
      cases new
    | ok target =>
      have newHeld := (validate_ok_iff lawful).mp new
      have apart : source ≠ target := oldHeld.apart lawful newHeld nofun
      dsimp only
      split
      case isTrue invalid =>
        refine .inl ⟨?_, _, rfl⟩
        intro ready
        rcases invalid with same | different
        · exact apart same
        · exact different (ready.source committed rfl).2
      case isFalse valid =>
        simp only [not_or, not_not] at valid
        exact .inr ⟨source, target, oldHeld, newHeld, valid.2, rfl⟩

theorem publish_cases (lawful : shape.Lawful) (pool : AttentionPagePool Cells)
    (mutation : PageMutation Page) : (¬ Ready shape pool.slots mutation ∧
      ∃ status, mutation.publish shape pool = (pool, .error status)) ∨
    ∃ next, Publishes shape pool mutation next ∧ mutation.publish shape pool = (next, .ok ()) := by
  rcases mutation with ⟨committed, replacement⟩
  cases committed with
  | none =>
    unfold publish AttentionPagePool.publish
    cases accepted : pool.validate shape replacement .reserved with
    | error status =>
      refine .inl ⟨?_, status, rfl⟩
      intro ready
      rcases ready.target with ⟨_, held⟩
      rw [(validate_ok_iff lawful).mpr held] at accepted
      cases accepted
    | ok => exact .inr ⟨_, .page ((validate_ok_iff lawful).mp accepted), rfl⟩
  | some committed =>
    unfold publish publishTailCow
    dsimp only
    rcases tailCowSlots_cases lawful pool committed replacement with ⟨refused, status, failed⟩ |
      ⟨_, _, old, held, same, accepted⟩
    · rw [failed]
      exact .inl ⟨refused, status, rfl⟩
    rw [accepted]
    exact .inr ⟨_, .copy old held same, rfl⟩

theorem Publishes.ready (publishes : Publishes shape pool mutation next) :
    Ready shape pool.slots mutation := by
  cases publishes with
  | page held => exact ⟨⟨_, held⟩, fun committed impossible => by cases impossible⟩
  | copy old held same =>
    refine ⟨⟨_, held⟩, ?_⟩
    intro committed named
    cases named
    exact ⟨⟨_, old⟩, same⟩

theorem validate_ok_iff (lawful : shape.Lawful) : mutation.validate shape pool = .ok () ↔
      Ready shape pool.slots mutation := by
  rcases mutation with ⟨committed, replacement⟩
  cases committed with
  | none =>
    unfold validate validatePublish
    cases accepted : pool.validate shape replacement .reserved with
    | error =>
      constructor
      · intro impossible
        cases impossible
      · intro ready
        rcases ready.target with ⟨_, held⟩
        rw [(validate_ok_iff lawful).mpr held] at accepted
        cases accepted
    | ok =>
      have held := (validate_ok_iff lawful).mp accepted
      exact ⟨fun _ => (Publishes.page held).ready, fun _ => rfl⟩
  | some committed =>
    unfold validate validatePublishTailCow
    dsimp only
    rcases tailCowSlots_cases lawful pool committed replacement with ⟨refused, _, failed⟩ |
      ⟨_, _, old, held, same, accepted⟩
    · rw [failed]
      constructor
      · intro impossible
        cases impossible
      · exact fun ready => (refused ready).elim
    rw [accepted]
    exact ⟨fun _ => (Publishes.copy old held same).ready, fun _ => rfl⟩

variable {mutations : List (PageMutation Page)} {place : ℕ} {committed : Page}

theorem validateAll_ok_iff (lawful : shape.Lawful) : validateAll shape pool mutations = .ok () ↔
      ∀ mutation ∈ mutations, Ready shape pool.slots mutation := by
  induction mutations with
  | nil => simp [validateAll]
  | cons mutation _ induction =>
    have head := @validate_ok_iff _ _ shape pool mutation lawful
    rw [forall_mem_cons, ← induction, ← head]
    simp only [validateAll]
    cases mutation.validate shape pool with
    | error | ok => simp

/-! ### One publication -/

/-- The page names the slot. -/
def names (shape : AttentionPageShape Page Cells) (page : Page) (place : ℕ) : Prop :=
  ∃ generation, shape.locate page = some (place, generation)

variable {slots : List (AttentionPageSlot Cells)}

theorem names_of_holds (held : Holds shape slots page place state) : names shape page place := by
  rcases held with ⟨_, located, -⟩
  exact ⟨_, located⟩

theorem names_unique (first : names shape page place)
    (second : names shape page other) : place = other := by
  rcases first with ⟨_, located⟩
  rcases second with ⟨_, again⟩
  rw [located] at again
  cases again
  rfl

/-- The slots that neither page of a mutation names stay. -/
theorem Publishes.frame (publishes : Publishes shape pool mutation next)
    (target : ¬ names shape mutation.replacement place)
    (source : ∀ committed, mutation.committed = some committed → ¬ names shape committed place) :
    next.slots[place]? = pool.slots[place]? := by
  cases publishes with
  | page held =>
    apply getElem?_fillSlot_ne
    rintro rfl
    exact target (names_of_holds held)
  | copy old held =>
    refine (getElem?_fillSlot_ne _ _ ?_).trans (getElem?_fillSlot_ne _ _ ?_)
    · rintro rfl
      exact target (names_of_holds held)
    · rintro rfl
      exact source _ rfl (names_of_holds old)

theorem Publishes.target (lawful : shape.Lawful) (publishes : Publishes shape pool mutation next) :
    ∃ place, Holds shape next.slots mutation.replacement place .published := by
  cases publishes with
  | page held => exact ⟨_, held.fill .published⟩
  | @copy _ replacement source target old held =>
    have apart : source ≠ target := old.apart lawful held nofun
    have kept : Holds shape (pool.fillSlot shape source .free).slots replacement target .reserved :=
      held.congr (getElem?_fillSlot_ne _ _ apart)
    exact ⟨target, kept.fill .published⟩

theorem Publishes.source (lawful : shape.Lawful) (publishes : Publishes shape pool mutation next)
    (named : mutation.committed = some committed) :
    ∃ place, Holds shape next.slots committed place .free := by
  cases publishes with
  | page => cases named
  | @copy _ _ source target old held =>
    cases named
    have apart : target ≠ source := fun equal => old.apart lawful held nofun equal.symm
    exact ⟨source, (old.fill .free).congr (getElem?_fillSlot_ne _ _ apart)⟩

theorem Publishes.unpublished (publishes : Publishes shape pool mutation next)
    (lawful : shape.Lawful) (unpublished : Unpublished shape pool.slots place)
    (target : ¬ names shape mutation.replacement place) : Unpublished shape next.slots place := by
  cases publishes with
  | page held =>
    intro slot found
    rw [getElem?_fillSlot_ne _ _ (by
      rintro rfl
      exact target (names_of_holds held))] at found
    exact unpublished slot found
  | copy _ held =>
    intro slot found
    rw [getElem?_fillSlot_ne _ _ (by
      rintro rfl
      exact target (names_of_holds held))] at found
    rw [getElem?_fillSlot] at found
    split at found
    · rcases Option.map_eq_some_iff.mp found with ⟨_, -, rfl⟩
      intro filled
      cases lawful.fill_injective filled
    · exact unpublished slot found

/-! ### All publications -/

/-- No two mutations have their new pages in one slot. -/
def Apart (shape : AttentionPageShape Page Cells) (mutations : List (PageMutation Page)) : Prop :=
  mutations.Pairwise fun first second =>
    ∀ place, names shape first.replacement place → ¬ names shape second.replacement place

/-- The pages that are copied. -/
def sources (mutations : List (PageMutation Page)) : List Page :=
  mutations.filterMap PageMutation.committed

theorem mem_sources : committed ∈ sources mutations ↔
    ∃ mutation ∈ mutations, mutation.committed = some committed :=
  mem_filterMap

theorem sources_cons (mutation : PageMutation Page) (rest : List (PageMutation Page)) :
    sources (mutation :: rest) = mutation.committed.toList ++ sources rest := by
  rcases mutation with ⟨committed, _⟩
  cases committed <;> rfl

variable (lawful : shape.Lawful)

include lawful

/-- The slot of a page that is copied is not one of the new pages. -/
theorem Ready.not_names_source (ready : Ready shape slots mutation)
    (held : Holds shape slots page place .published) :
    ¬ names shape mutation.replacement place := by
  intro named
  rcases ready.target with ⟨_, new⟩
  cases names_unique named (names_of_holds new)
  exact held.apart lawful new nofun rfl

/-- The slot of a new page is not one of a page that is copied. -/
theorem Ready.not_names_target (ready : Ready shape slots mutation)
    (copies : mutation.committed = some committed) (held : Holds shape slots page place .reserved) :
    ¬ names shape committed place := by
  intro named
  rcases (ready.source committed copies).1 with ⟨_, old⟩
  cases names_unique named (names_of_holds old)
  exact old.apart lawful held nofun rfl

/-- A mutation that is ready stays ready unless its source is replaced. -/
theorem Ready.after (ready : Ready shape pool.slots other)
    (publishes : Publishes shape pool mutation next)
    (apart : ∀ place, names shape mutation.replacement place →
      ¬ names shape other.replacement place)
    (distinct : ∀ committed, other.committed = some committed →
      mutation.committed ≠ some committed) : Ready shape next.slots other := by
  have own := publishes.ready
  constructor
  · rcases ready.target with ⟨place, held⟩
    refine ⟨place, held.congr (publishes.frame ?_ ?_)⟩
    · exact fun named => apart place named (names_of_holds held)
    · exact fun committed named => own.not_names_target lawful named held
  · intro committed named
    rcases ready.source committed named with ⟨⟨place, held⟩, same⟩
    refine ⟨⟨place, held.congr (publishes.frame ?_ ?_)⟩, same⟩
    · exact own.not_names_source lawful held
    · intro other ownNamed sourceNamed
      rcases (own.source other ownNamed).1 with ⟨_, old⟩
      cases names_unique sourceNamed (names_of_holds old)
      cases (old.unique lawful held).1
      exact distinct committed named ownNamed

/-- The commit stops at a copy of a page that is no longer published. -/
theorem publishAll_stale (listed : committed ∈ sources mutations)
    (named : names shape committed place) (unpublished : Unpublished shape pool.slots place)
    (targets : ∀ mutation ∈ mutations, ¬ names shape mutation.replacement place) :
    ∃ status, (publishAll shape pool mutations).2 = .error status := by
  induction mutations generalizing pool with
  | nil => cases listed
  | cons mutation _ induction =>
    unfold publishAll
    rcases publish_cases lawful pool mutation with ⟨-, status, failed⟩ | ⟨_, publishes, done⟩
    · rw [failed]
      exact ⟨status, rfl⟩
    rw [done]
    rcases mem_sources.mp listed with ⟨copying, member, copies⟩
    rcases mem_cons.mp member with rfl | later
    · exfalso
      rcases (publishes.ready.source committed copies).1 with ⟨_, held⟩
      cases names_unique named (names_of_holds held)
      exact unpublished.not_holds held
    exact induction (mem_sources.mpr ⟨copying, later, copies⟩)
      (publishes.unpublished lawful unpublished (targets mutation (.head _)))
      fun other member => targets other (.tail _ member)

theorem publishAll_frame (targets :
      ∀ mutation ∈ mutations, ¬ names shape mutation.replacement place)
    (copied : ∀ committed ∈ sources mutations, ¬ names shape committed place) :
    (publishAll shape pool mutations).1.slots[place]? = pool.slots[place]? := by
  induction mutations generalizing pool with
  | nil => rfl
  | cons mutation _ induction =>
    unfold publishAll
    rcases publish_cases lawful pool mutation with ⟨-, _, failed⟩ | ⟨_, publishes, done⟩
    · rw [failed]
    rw [done]
    have first := publishes.frame (targets mutation (.head _)) fun committed named =>
          copied committed (mem_sources.mpr ⟨_, .head _, named⟩)
    refine Eq.trans (induction ?_ ?_) first
    · exact fun other member => targets other (.tail _ member)
    · intro committed member
      rcases mem_sources.mp member with ⟨other, later, named⟩
      exact copied committed (mem_sources.mpr ⟨other, .tail _ later, named⟩)

/-- What a commit of these mutations should do to the pool. -/
structure AllPublished (shape : AttentionPageShape Page Cells)
    (slots : List (AttentionPageSlot Cells))
    (mutations : List (PageMutation Page)) : Prop where
  targets : ∀ mutation ∈ mutations, ∃ place, Holds shape slots mutation.replacement place .published
  sources : ∀ committed ∈ sources mutations, ∃ place, Holds shape slots committed place .free

/-- A page that is copied a second time stops the commit. -/
theorem Publishes.stale (publishes : Publishes shape pool mutation next)
    (copies : mutation.committed = some committed) (listed : committed ∈ sources rest)
    (ready : ∀ other ∈ rest, Ready shape pool.slots other) :
    ∃ status, (publishAll shape next rest).2 = .error status := by
  rcases publishes.source lawful copies with ⟨_, freed⟩
  rcases (publishes.ready.source committed copies).1 with ⟨_, old⟩
  cases names_unique (names_of_holds freed) (names_of_holds old)
  refine publishAll_stale lawful listed (names_of_holds freed) ?_ ?_
  · rcases freed with ⟨_, -, found, -, cells⟩
    intro other again filled
    cases found.symm.trans again
    cases lawful.fill_injective (cells.symm.trans filled)
  · exact fun other member => (ready other member).not_names_source lawful old

theorem Publishes.allPublished (publishes : Publishes shape pool mutation next)
    (ready : ∀ other ∈ rest, Ready shape pool.slots other)
    (apart : ∀ other ∈ rest, ∀ place, names shape mutation.replacement place →
      ¬ names shape other.replacement place)
    (distinct : ∀ committed ∈ sources rest, mutation.committed ≠ some committed)
    (later : AllPublished shape (publishAll shape next rest).1.slots rest) :
    AllPublished shape (publishAll shape next rest).1.slots (mutation :: rest) := by
  have own := publishes.ready
  constructor
  · intro other member
    rcases mem_cons.mp member with rfl | tail
    · rcases publishes.target lawful with ⟨place, published⟩
      rcases own.target with ⟨_, held⟩
      cases names_unique (names_of_holds published) (names_of_holds held)
      refine ⟨place, published.congr (publishAll_frame lawful ?_ ?_)⟩
      · exact fun other tail => apart other tail place (names_of_holds held)
      · intro committed listed
        rcases mem_sources.mp listed with ⟨other, tail, copies⟩
        exact (ready other tail).not_names_target lawful copies held
    · exact later.targets other tail
  · intro committed listed
    rcases mem_sources.mp listed with ⟨other, member, copies⟩
    rcases mem_cons.mp member with rfl | tail
    · rcases publishes.source lawful copies with ⟨place, freed⟩
      rcases (own.source committed copies).1 with ⟨source, old⟩
      cases names_unique (names_of_holds freed) (names_of_holds old)
      refine ⟨place, freed.congr (publishAll_frame lawful ?_ ?_)⟩
      · exact fun other tail => (ready other tail).not_names_source lawful old
      · intro copied listed named
        rcases mem_sources.mp listed with ⟨other, tail, again⟩
        rcases ((ready other tail).source copied again).1 with ⟨_, held⟩
        cases names_unique named (names_of_holds held)
        cases (held.unique lawful old).1
        exact distinct committed listed copies
    exact later.sources committed (mem_sources.mpr ⟨other, tail, copies⟩)

/--
The commit of mutations that are ready publishes all of them exactly if no
page is copied twice.
-/
theorem publishAll_spec (ready : ∀ mutation ∈ mutations, Ready shape pool.slots mutation)
    (apart : Apart shape mutations) :
    ((publishAll shape pool mutations).2 = .ok () ↔ (sources mutations).Nodup) ∧
      ((publishAll shape pool mutations).2 = .ok () →
        AllPublished shape (publishAll shape pool mutations).1.slots mutations) := by
  induction mutations generalizing pool with
  | nil =>
    refine ⟨⟨fun _ => nodup_nil, fun _ => rfl⟩, fun _ => ⟨?_, ?_⟩⟩
    · exact fun mutation member => (not_mem_nil member).elim
    · exact fun committed member => (not_mem_nil member).elim
  | cons mutation rest induction =>
    rw [Apart, pairwise_cons] at apart
    rcases publish_cases lawful pool mutation with ⟨refused, -⟩ | ⟨next, publishes, done⟩
    · exact (refused (ready mutation (.head _))).elim
    have loop : publishAll shape pool (mutation :: rest) = publishAll shape next rest := by
      rw [publishAll, done]
    rw [loop]
    by_cases repeated : ∃ committed ∈ sources rest, mutation.committed = some committed
    · rcases repeated with ⟨committed, listed, copies⟩
      have stale := publishes.stale lawful copies listed
        fun other member => ready other (.tail _ member)
      rcases stale with ⟨_, failed⟩
      rw [failed, sources_cons, copies]
      refine ⟨⟨nofun, ?_⟩, nofun⟩
      intro distinct
      exact ((nodup_cons.mp distinct).1 listed).elim
    have later : ∀ other ∈ rest, Ready shape next.slots other := by
      intro other member
      refine (ready other (.tail _ member)).after lawful publishes (apart.1 other member) ?_
      intro committed named same
      exact repeated ⟨committed, mem_sources.mpr ⟨other, member, named⟩, same⟩
    have tail := induction later apart.2
    refine ⟨tail.1.trans ?_, fun done => ?_⟩
    · rw [sources_cons]
      cases copies : mutation.committed with
      | none => rfl
      | some committed =>
        refine ⟨fun distinct => nodup_cons.mpr ⟨?_, distinct⟩,
          fun distinct => (nodup_cons.mp distinct).2⟩
        exact fun listed => repeated ⟨committed, listed, copies⟩
    · exact publishes.allPublished lawful (fun other member => ready other (.tail _ member)) apart.1
        (fun committed listed same => repeated ⟨committed, listed, same⟩)
        (tail.2 done)

end PageMutation

end Pih
