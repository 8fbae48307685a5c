import Pih.DeepSeek.TransactionLedger

/-!
# Published attention pages

What holds of the shared pools in every interleaving of transactions: the
slots are counted, a key has one published page, old handles are refused, and
the published pages of a sequence change only when a transaction of that
sequence commits or when the sequence is released.
-/

namespace Pih

open AttentionPagePool List PageMutation

namespace AttentionPagePool

variable {Page Cells : Type} {shape : AttentionPageShape Page Cells}
  {capacity sequence : ℕ} {pool after : AttentionPagePool Cells}

/-! ## Old handles -/

/-- The page was handed out by an earlier generation of its slot. -/
def Stale (shape : AttentionPageShape Page Cells)
    (pool : AttentionPagePool Cells) (page : Page) : Prop :=
  ∃ place generation slot, shape.locate page = some (place, generation) ∧
    pool.slots[place]? = some slot ∧ generation < slot.generation

/-- The operation failed and left the pool as it was. -/
def Refused {α : Type} (pool : AttentionPagePool Cells)
    (answer : AttentionPagePool Cells × Result α) : Prop :=
  ∃ status, answer = (pool, .error status)

/-- Every operation that takes a page refuses this one. -/
structure Rejected (shape : AttentionPageShape Page Cells) (pool : AttentionPagePool Cells)
    (page : Page) : Prop where
  reserveTailCow : Refused pool (pool.reserveTailCow shape page)
  validatePublish : ∃ status, pool.validatePublish shape page = .error status
  publish : Refused pool (pool.publish shape page)
  validateCopied : ∀ replacement, ∃ status,
      pool.validatePublishTailCow shape page replacement = .error status
  validateCopy : ∀ committed, ∃ status,
      pool.validatePublishTailCow shape committed page = .error status
  publishCopied : ∀ replacement, Refused pool (pool.publishTailCow shape page replacement)
  publishCopy : ∀ committed, Refused pool (pool.publishTailCow shape committed page)
  rollback : Refused pool (pool.rollback shape page)
  release : Refused pool (pool.release shape page)

theorem Stale.not_holds (stale : Stale shape pool page) :
    ¬ Holds shape pool.slots page place state := by
  rintro ⟨_, located, found, -⟩
  rcases stale with ⟨_, _, _, located', found', older⟩
  cases located.symm.trans located'
  cases found.symm.trans found'
  exact Nat.lt_irrefl _ older

theorem Stale.validate (lawful : shape.Lawful) (stale : Stale shape pool page)
    (expected : DeepSeekAttentionPageState) :
    ∃ status, pool.validate shape page expected = .error status := by
  cases answer : pool.validate shape page expected with
  | error status => exact ⟨status, rfl⟩
  | ok => exact (stale.not_holds ((validate_ok_iff lawful).mp answer)).elim

theorem Stale.tailCowSlots (lawful : shape.Lawful) {committed replacement : Page}
    (stale : Stale shape pool committed ∨ Stale shape pool replacement) :
    ∃ status, pool.tailCowSlots shape committed replacement = .error status := by
  rcases tailCowSlots_cases lawful pool committed replacement with
    ⟨-, failed⟩ | ⟨_, _, old, held, -⟩
  · exact failed
  rcases stale with copied | copy
  · exact (copied.not_holds old).elim
  · exact (copy.not_holds held).elim

theorem Stale.rejected (lawful : shape.Lawful) (stale : Stale shape pool page) :
    Rejected shape pool page := by
  rcases stale.validate lawful .published with ⟨published, notPublished⟩
  rcases stale.validate lawful .reserved with ⟨reserved, notReserved⟩
  constructor
  · exact ⟨published, by rw [reserveTailCow, notPublished]⟩
  · exact ⟨reserved, by rw [validatePublish, notReserved]⟩
  · exact ⟨reserved, by rw [publish, notReserved]⟩
  · intro replacement
    rcases Stale.tailCowSlots lawful (.inl stale) with ⟨status, failed⟩
    exact ⟨status, by rw [validatePublishTailCow, failed]⟩
  · intro committed
    rcases Stale.tailCowSlots lawful (.inr stale) with ⟨status, failed⟩
    exact ⟨status, by rw [validatePublishTailCow, failed]⟩
  · intro replacement
    rcases Stale.tailCowSlots lawful (.inl stale) with ⟨status, failed⟩
    exact ⟨status, by rw [publishTailCow, failed]⟩
  · intro committed
    rcases Stale.tailCowSlots lawful (.inr stale) with ⟨status, failed⟩
    exact ⟨status, by rw [publishTailCow, failed]⟩
  · exact ⟨reserved, by rw [rollback, notReserved]⟩
  · exact ⟨published, by rw [release, notPublished]⟩

/-! ## The published pages of a sequence -/

/-- The same slots are published for the sequence. -/
def SamePublished (shape : AttentionPageShape Page Cells) (sequence : ℕ)
    (pool after : AttentionPagePool Cells) : Prop :=
  ∀ (place : ℕ) (slot : AttentionPageSlot Cells), slot.identity.sequence = sequence →
    (publishedAt shape after place = some slot ↔ publishedAt shape pool place = some slot)

theorem SamePublished.of_eq (same : publishedAt shape after = publishedAt shape pool) :
    SamePublished shape sequence pool after := by
  intro place slot _
  rw [same]

theorem SamePublished.trans (first : SamePublished shape sequence pool middle)
    (second : SamePublished shape sequence middle after) :
    SamePublished shape sequence pool after :=
  fun place slot owner => (second place slot owner).trans (first place slot owner)

section

variable (lawful : shape.Lawful)

include lawful

theorem samePublished_fillSlot (held : Holds shape pool.slots page ordinal state)
    (foreign : (shape.identity page).sequence ≠ sequence) :
    SamePublished shape sequence pool (pool.fillSlot shape ordinal filled) := by
  rcases held with ⟨_, -, found, named, -⟩
  intro place slot owner
  rw [publishedAt_eq_some_iff lawful, publishedAt_eq_some_iff lawful, getElem?_fillSlot]
  split
  case isTrue same =>
    subst same
    rw [found]
    constructor
    · rintro ⟨now, -⟩
      cases now
      exact (foreign (named ▸ owner)).elim
    · rintro ⟨was, -⟩
      cases was
      exact (foreign (named ▸ owner)).elim
  · rfl

theorem samePublished_publishes (publishes : Publishes shape pool mutation after)
    (foreign : (shape.identity mutation.replacement).sequence ≠ sequence) :
    SamePublished shape sequence pool after := by
  cases publishes with
  | page held => exact samePublished_fillSlot lawful held foreign
  | copy old held same =>
    have apart := old.apart lawful held nofun
    exact (samePublished_fillSlot lawful old (same ▸ foreign)).trans (samePublished_fillSlot lawful
        (held.congr (getElem?_fillSlot_ne _ _ apart)) foreign)

theorem samePublished_publishAll (foreign : ∀ mutation ∈ mutations,
      (shape.identity mutation.replacement).sequence ≠ sequence) :
    SamePublished shape sequence pool (publishAll shape pool mutations).1 := by
  induction mutations generalizing pool with
  | nil => exact .of_eq rfl
  | cons mutation _ induction =>
    unfold publishAll
    rcases publish_cases lawful pool mutation with ⟨-, _, failed⟩ | ⟨_, publishes, done⟩
    · rw [failed]
      exact .of_eq rfl
    rw [done]
    exact (samePublished_publishes lawful publishes (foreign mutation (.head _))).trans
      (induction fun other member => foreign other (.tail _ member))

theorem samePublished_release (foreign : released ≠ sequence) : SamePublished shape sequence pool
      (pool.releasePublishedSequence shape released).1 := by
  unfold releasePublishedSequence
  split
  · exact .of_eq rfl
  intro place slot owner
  rw [publishedAt_eq_some_iff lawful, publishedAt_eq_some_iff lawful]
  rw [getElem?_map]
  cases found : pool.slots[place]? with
  | none => rfl
  | some =>
    rw [Option.map_some]
    split
    case isTrue given =>
      simp only [publishedFor, decide_eq_true_eq] at given
      constructor
      · rintro ⟨now, published⟩
        cases now
        cases lawful.fill_injective published
      · rintro ⟨was, -⟩
        cases was
        exact (foreign (given.1.symm.trans owner)).elim
    · rfl

end

/-- The mutations are for pages of the sequence. -/
def OwnedBy (shape : AttentionPageShape Page Cells) (sequence : ℕ)
    (lane : List (PageMutation Page)) : Prop :=
  ∀ mutation ∈ lane, (shape.identity mutation.replacement).sequence = sequence

theorem OwnedBy.laneStep {next : List (PageMutation Page)} (owned : OwnedBy shape sequence lane)
    (step : LaneStep shape sequence commits pool lane after next) :
    OwnedBy shape sequence next := by
  cases step with
  | kept | published | restored => exact owned
  | cleared => exact fun mutation member => (not_mem_nil member).elim
  | appended owner reserves alone | copied owner reserves old =>
    intro mutation member
    rcases mem_append.mp member with before | last
    · exact owned mutation before
    rw [mem_singleton.mp last, reserves.named]
    exact owner
  | cancelled => exact fun mutation member => (not_mem_nil member).elim

theorem LaneStep.samePublished {next : List (PageMutation Page)} (lawful : shape.Lawful)
    (owned : OwnedBy shape owner lane)
    (step : LaneStep shape owner commits pool lane after next)
    (foreign : commits = true → owner ≠ sequence) : SamePublished shape sequence pool after := by
  rcases step.publishedAt_cases lawful with same | ⟨permitted, rfl⟩
  · exact .of_eq same
  refine samePublished_publishAll lawful ?_
  intro mutation member
  rw [owned mutation member]
  exact foreign permitted

/-! ## One pool -/

/-- What holds of a pool of the given capacity. -/
structure Sound (shape : AttentionPageShape Page Cells) (capacity : ℕ)
    (pool : AttentionPagePool Cells) : Prop where
  slots : stateCount shape pool.slots .free + stateCount shape pool.slots .reserved +
      stateCount shape pool.slots .published = capacity
  counters : pool.freeCount + pool.reservedCount + pool.publishedCount = capacity
  counted : Counted shape pool
  unique : UniquelyPublished shape pool.slots
  stale : ∀ page, Stale shape pool page → Rejected shape pool page

theorem Ledger.sound (lawful : shape.Lawful) (ledger : Ledger shape capacity pool lanes) :
    Sound shape capacity pool := by
  have total := stateCount_total lawful ledger.uniform
  rw [ledger.length] at total
  have counted := ledger.counted
  refine ⟨total, ?_, counted, ledger.unique, fun page stale => stale.rejected lawful⟩
  rw [counted.free, counted.reserved, counted.published]
  exact total

end AttentionPagePool

/-! ## All transactions -/

namespace AttentionTransactions

open AttentionPagePool (OwnedBy SamePublished Sound publishedAt)

/-- The operation is a release. -/
def releases : AttentionOperation → Bool
  | .releaseRatio4Sequence _ => true
  | .releaseRatio128Sequence _ => true
  | _ => false

/-- The operation may change what is published for the sequence. -/
def concerns (sequence : ℕ) (state : AttentionTransactions) : AttentionOperation → Bool
  | .commit which =>
    state.transactions[which]?.any fun transaction => transaction.sequence = sequence
  | .releaseRatio4Sequence released => released = sequence
  | .releaseRatio128Sequence released => released = sequence
  | _ => false

/-- The same slots of both pools are published for the sequence. -/
structure KeepsPublished (sequence : ℕ) (state after : AttentionTransactions) : Prop where
  ratio4 : SamePublished DeepSeekRatio4PagePool.shape sequence state.ratio4Pool after.ratio4Pool
  ratio128 : SamePublished DeepSeekRatio128PagePool.shape sequence
    state.ratio128Pool after.ratio128Pool

theorem KeepsPublished.refl (sequence : ℕ) (state : AttentionTransactions) :
    KeepsPublished sequence state state :=
  ⟨.of_eq rfl, .of_eq rfl⟩

variable {state after : AttentionTransactions} {operation : AttentionOperation}

theorem KeepsPublished.trans {sequence : ℕ} (first : KeepsPublished sequence state middle)
    (second : KeepsPublished sequence middle after) :
    KeepsPublished sequence state after :=
  ⟨first.ratio4.trans second.ratio4, first.ratio128.trans second.ratio128⟩

/-- Every transaction reserves pages of its own sequence. -/
def Owned (state : AttentionTransactions) : Prop := ∀ transaction ∈ state.transactions,
    OwnedBy DeepSeekRatio4PagePool.shape transaction.sequence transaction.ratio4 ∧
      OwnedBy DeepSeekRatio128PagePool.shape transaction.sequence transaction.ratio128

theorem Effect.owned (owned : Owned state)
    (effect : Effect state operation after) : Owned after := by
  cases effect with
  | absent | releasedRatio4 | releasedRatio128 => exact owned
  | called _ found steps =>
    intro transaction member
    rcases mem_or_eq_of_mem_set member with other | rfl
    · exact owned transaction other
    have before := owned _ (mem_of_getElem? found)
    rw [steps.sequence]
    exact ⟨before.1.laneStep steps.ratio4, before.2.laneStep steps.ratio128⟩

theorem Initial.owned (initial : Initial pairs pages state) : Owned state := by
  intro transaction member
  rw [(initial.empty transaction member).1, (initial.empty transaction member).2]
  exact ⟨fun _ absent => (not_mem_nil absent).elim, fun _ absent => (not_mem_nil absent).elim⟩

theorem Effect.keepsPublished {sequence : ℕ}
    (owned : Owned state) (effect : Effect state operation after)
    (unconcerned : concerns sequence state operation = false) :
    KeepsPublished sequence state after := by
  cases effect with
  | absent => exact .refl sequence state
  | @called operation _ transaction _ _ _ named found steps =>
    have foreign : commits operation = true → transaction.sequence ≠ sequence := by
      intro committing
      cases operation <;> cases committing
      cases named
      simpa [concerns, found] using unconcerned
    have own := owned transaction (mem_of_getElem? found)
    exact ⟨steps.ratio4.samePublished DeepSeekRatio4PagePool.shape_lawful own.1 foreign,
      steps.ratio128.samePublished DeepSeekRatio128PagePool.shape_lawful own.2 foreign⟩
  | releasedRatio4 =>
    refine ⟨AttentionPagePool.samePublished_release
      DeepSeekRatio4PagePool.shape_lawful ?_, .of_eq rfl⟩
    simpa [concerns] using unconcerned
  | releasedRatio128 =>
    refine ⟨.of_eq rfl, AttentionPagePool.samePublished_release
      DeepSeekRatio128PagePool.shape_lawful ?_⟩
    simpa [concerns] using unconcerned

theorem Effect.publishedAt (effect : Effect state operation after)
    (neither : commits operation = false ∧ releases operation = false) :
    publishedAt DeepSeekRatio4PagePool.shape after.ratio4Pool =
        publishedAt DeepSeekRatio4PagePool.shape state.ratio4Pool ∧
      publishedAt DeepSeekRatio128PagePool.shape after.ratio128Pool =
        publishedAt DeepSeekRatio128PagePool.shape state.ratio128Pool := by
  cases effect with
  | absent => exact ⟨rfl, rfl⟩
  | called _ _ steps =>
    have pairs := steps.ratio4.publishedAt_cases DeepSeekRatio4PagePool.shape_lawful
    have pages := steps.ratio128.publishedAt_cases DeepSeekRatio128PagePool.shape_lawful
    rw [neither.1] at pairs pages
    exact ⟨pairs.resolve_right nofun, pages.resolve_right nofun⟩
  | releasedRatio4 | releasedRatio128 => cases neither.2

/-! ## Runs -/

/-- The invariant of a run. -/
structure Kept (pairs pages : ℕ) (state : AttentionTransactions) : Prop where
  books : Books pairs pages state
  owned : Owned state

theorem Kept.execute (kept : Kept pairs pages state) (operation : AttentionOperation) :
    Kept pairs pages (state.execute operation).1 := by
  have effect := execute_effect kept.books operation
  exact ⟨effect.books kept.books, effect.owned kept.owned⟩

/-- Operations that leave the published pages of the sequence alone. -/
abbrev UnconcernedRun (sequence : ℕ) (start : AttentionTransactions) := Run execute
    (fun _ state operation => concerns sequence state operation = false)
    start

theorem UnconcernedRun.keepsPublished {sequence : ℕ} (kept : Kept pairs pages start)
    (run : UnconcernedRun sequence start history state) :
    Kept pairs pages state ∧ KeepsPublished sequence start state := by
  refine Run.invariant (fun _ state => Kept pairs pages state ∧ KeepsPublished sequence start state)
    ⟨kept, .refl sequence start⟩ ?_ run
  rintro _ _ operation - ⟨kept, same⟩ unconcerned
  exact ⟨kept.execute operation, same.trans
    ((execute_effect kept.books operation).keepsPublished kept.owned unconcerned)⟩

/--
The ledger of both pools in every state that transactions reach.  Only
commits and releases change what is published, and only commits of its own
transactions and its own release change what is published for a sequence.
-/
theorem page_ledger_holds {pairs pages : ℕ} {start state : AttentionTransactions}
    {history : List (Entry AttentionTransactions AttentionOperation
        AttentionOutcome)} (initial : Initial pairs pages start)
    (run : TransactionRun start history state) :
    Sound DeepSeekRatio4PagePool.shape pairs state.ratio4Pool ∧
      Sound DeepSeekRatio128PagePool.shape pages state.ratio128Pool ∧
      (∀ slot ∈ state.ratio4Pool.slots, slot.cells.main = slot.cells.index) ∧
      (∀ operation, commits operation = false ∧ releases operation = false →
        publishedAt DeepSeekRatio4PagePool.shape (state.execute operation).1.ratio4Pool =
          publishedAt DeepSeekRatio4PagePool.shape state.ratio4Pool ∧
        publishedAt DeepSeekRatio128PagePool.shape (state.execute operation).1.ratio128Pool =
          publishedAt DeepSeekRatio128PagePool.shape state.ratio128Pool) ∧
      (∀ sequence later after, UnconcernedRun sequence state later after →
        KeepsPublished sequence state after) := by
  have kept : Kept pairs pages state := Run.invariant (fun _ state => Kept pairs pages state)
      ⟨initial.books, initial.owned⟩
      (fun _ _ operation _ kept _ => kept.execute operation) run
  refine ⟨kept.books.ratio4.sound DeepSeekRatio4PagePool.shape_lawful,
    kept.books.ratio128.sound DeepSeekRatio128PagePool.shape_lawful, ?_, ?_, ?_⟩
  · intro slot member
    rcases kept.books.ratio4.uniform slot member with ⟨_, filled⟩
    rw [filled]
    rfl
  · intro operation neither
    exact (execute_effect kept.books operation).publishedAt neither
  · intro sequence later after segment
    exact (segment.keepsPublished kept).2

/-! ## Two sequences -/

def twoSequences : AttentionTransactions where
  ratio4Pool := { slots := replicate 2 { cells := ⟨.free, .free⟩ }, freeCount := 2 }
  ratio128Pool := { slots := replicate 1 { cells := .free }, freeCount := 1 }
  transactions :=
    [{ sequence := 1
       maximumRatio4Mutations := 4
       maximumRatio128Mutations := 4
       fixedBanks := {} },
     { sequence := 2
       maximumRatio4Mutations := 4
       maximumRatio128Mutations := 4
       fixedBanks := {} }]

theorem twoSequences_initial : Initial 2 1 twoSequences where
  ratio4 := rfl
  ratio128 := rfl
  transactions := by
    intro transaction member
    rcases mem_cons.mp member with rfl | second
    · exact ⟨1, 4, 4, {}, rfl⟩
    rw [mem_singleton.mp second]
    exact ⟨2, 4, 4, {}, rfl⟩

/-- The second sequence commits a page while the first one is preparing. -/
def commitMeanwhile : List (AttentionTransactions → AttentionOperation) :=
  [fun _ => .begin 0 1 (.ok ()), fun _ => .reserveRatio4Append 0 0 0,
    fun _ => .begin 1 1 (.ok ()), fun _ => .reserveRatio4Append 1 0 0, fun _ => .seal 1 1 (.ok ()),
    fun _ => .poll 1 (.ok .success) fun _ => 0, fun _ => .commit 1]

/--
A transaction that is cancelled does not bring the published pages back to
those at its start if another one committed in between.
-/
theorem published_changed_at_cancel :
    let first := (twoSequences.execute (.begin 0 1 (.ok ()))).1
    let reached := runScript execute [] twoSequences commitMeanwhile
    let cancelled := (reached.2.execute (.cancelPreparing 0)).1
    TransactionRun twoSequences reached.1 reached.2 ∧
      (cancelled.transactions.map DeepSeekAttentionSequenceTransaction.state = [.idle, .idle]) ∧
      publishedAt DeepSeekRatio4PagePool.shape first.ratio4Pool 1 = none ∧
      (publishedAt DeepSeekRatio4PagePool.shape cancelled.ratio4Pool 1).isSome := by
  refine ⟨Run.runScript .start _ (ScriptAllowed.unrestricted _), ?_⟩
  decide +kernel

/-- The ledger after that run, with one page of either sequence. -/
theorem page_ledger_holds_meanwhile :
    let reached := runScript execute [] twoSequences commitMeanwhile
    Sound DeepSeekRatio4PagePool.shape 2 reached.2.ratio4Pool ∧
      reached.2.ratio4Pool.slots.map AttentionPageSlot.cells =
        [⟨.reserved, .reserved⟩, ⟨.published, .published⟩] :=
  ⟨(page_ledger_holds twoSequences_initial
      (Run.runScript .start commitMeanwhile (ScriptAllowed.unrestricted _))).1, by decide +kernel⟩

end AttentionTransactions

end Pih
