import Pih.DeepSeek.PageLedger
import Pih.Library.Runs

/-!
# The ledger of the shared pools

Each call on a transaction touches one list of mutations in each pool.  What
it may do there is said once, and the books of both pools are kept from it in
every interleaving.
-/

namespace Pih

open List

namespace AttentionPagePool

variable {Page Cells : Type} {shape : AttentionPageShape Page Cells}
  {pool after : AttentionPagePool Cells}

/-! ## Reserving through the pool -/

theorem reserve_cases (lawful : shape.Lawful) (ledger : Ledger shape capacity pool lanes)
    (identity : DeepSeekPageIdentity) :
    (∃ refused status, pool.reserve shape identity = (refused, .error status) ∧
      Untouched pool refused) ∨
    ∃ reserved page ordinal slot, pool.reserve shape identity = (reserved, .ok page) ∧
      Reserves shape pool identity page reserved ordinal slot ∧
      ∀ other ∈ pool.slots, other.cells ≠ shape.fill .free → other.identity ≠ identity := by
  unfold reserve
  split
  · exact .inl ⟨_, _, rfl, .refl pool⟩
  split
  · exact .inl ⟨_, _, rfl, .refl pool⟩
  split
  · exact .inl ⟨_, _, rfl, .refl pool⟩
  rename_i absent
  rcases reserveFree_cases lawful (ledger.length ▸ ledger.bounded) ledger.small identity with
    refused | ⟨reserved, page, ordinal, slot, done, reserves⟩
  · exact .inl refused
  refine .inr ⟨reserved, page, ordinal, slot, done, reserves, ?_⟩
  intro other member occupied same
  rcases ledger.uniform other member with ⟨_, cells⟩
  refine absent (any_eq_true.mpr ⟨other, member, ?_⟩)
  rw [cells, lawful.lead_fill]
  refine decide_eq_true ⟨?_, same⟩
  rintro rfl
  exact occupied cells

theorem reserveTailCow_cases (lawful : shape.Lawful)
    (ledger : Ledger shape capacity pool lanes) (committed : Page) :
    (∃ refused status, pool.reserveTailCow shape committed = (refused, .error status) ∧
      Untouched pool refused) ∨
    ∃ reserved page ordinal slot source,
      pool.reserveTailCow shape committed = (reserved, .ok page) ∧
      Reserves shape pool (shape.identity committed) page reserved ordinal slot ∧
      Holds shape pool.slots committed source .published := by
  unfold reserveTailCow
  split
  · exact .inl ⟨_, _, rfl, .refl pool⟩
  rename_i source accepted
  split
  · exact .inl ⟨_, _, rfl, .refl pool⟩
  rcases reserveFree_cases lawful (ledger.length ▸ ledger.bounded) ledger.small _ with
    refused | ⟨reserved, page, ordinal, slot, done, reserves⟩
  · exact .inl refused
  exact .inr ⟨reserved, page, ordinal, slot, source, done, reserves,
    (validate_ok_iff lawful).mp accepted⟩

/-! ## What a call does to one pool -/

section

variable (shape : AttentionPageShape Page Cells) (sequence : ℕ) (commits : Bool)
  (pool : AttentionPagePool Cells) (lane : List (PageMutation Page))

/--
A call on a transaction of a sequence, seen from one pool and the mutations
that the transaction keeps for it.  Only a commit publishes.
-/
inductive LaneStep : AttentionPagePool Cells → List (PageMutation Page) → Prop where
  | kept
    {after : AttentionPagePool Cells} (same : Untouched pool after) :
    LaneStep after lane
  | cleared : LaneStep pool []
  | appended
    {after : AttentionPagePool Cells}
    (owner : identity.sequence = sequence)
    (reserves : Reserves shape pool identity page after ordinal slot)
    (alone : ∀ other ∈ pool.slots, other.cells ≠ shape.fill .free → other.identity ≠ identity) :
    LaneStep after (lane ++ [⟨none, page⟩])
  | copied {after : AttentionPagePool Cells}
    (owner : (shape.identity committed).sequence = sequence)
    (reserves : Reserves shape pool (shape.identity committed) page after ordinal slot)
    (old : Holds shape pool.slots committed source .published) :
    LaneStep after (lane ++ [⟨some committed, page⟩])
  | published (permitted : commits = true) : LaneStep
      (PageMutation.publishAll shape pool lane).1 lane
  | restored : LaneStep (PageMutation.rollbackAll shape pool lane).1 lane
  | cancelled : LaneStep (PageMutation.rollbackAll shape pool lane).1 []

end

theorem Ledger.clear (ledger : Ledger shape capacity pool lanes) (which : ℕ) :
    Ledger shape capacity pool (lanes.set which []) where
  __ := ledger
  issued := by
    intro lane among mutation member
    rcases mem_or_eq_of_mem_set among with before | rfl
    · exact ledger.issued lane before mutation member
    · cases member
  sole := by
    intro lane among mutation member
    rcases mem_or_eq_of_mem_set among with before | rfl
    · exact ledger.sole lane before mutation member
    · cases member
  distinct := by
    intro lane among
    rcases mem_or_eq_of_mem_set among with before | rfl
    · exact ledger.distinct lane before
    · exact nodup_nil

variable (lawful : shape.Lawful)

include lawful

theorem Ledger.laneStep {sequence : ℕ} {next : List (PageMutation Page)}
    (ledger : Ledger shape capacity pool lanes)
    (listed : lanes[which]? = some lane)
    (step : LaneStep shape sequence commits pool lane after next) :
    Ledger shape capacity after (lanes.set which next) := by
  have same : lanes.set which lane = lanes := by
    rcases List.getElem_of_getElem? listed with ⟨inside, rfl⟩
    exact List.set_getElem_self inside
  cases step with
  | kept untouched =>
    rw [same]
    exact ledger.untouched untouched
  | cleared => exact ledger.clear which
  | appended _ reserves alone =>
    refine ledger.reserves lawful reserves listed ?_ fun _ => alone
    rintro other - mutation - - place ⟨slot, -, found, named, cells⟩
    rw [← named]
    refine alone slot (mem_of_getElem? found) ?_
    rw [cells]
    intro same
    cases lawful.fill_injective same
  | @copied _ page _ _ source _ _ reserves old =>
    refine ledger.reserves lawful reserves listed ?_ nofun
    intro other among mutation member fresh place held same
    -- the page that is copied would be the reserved one
    rcases old with ⟨own, _, found, named, cells⟩
    have equal := ledger.sole other among mutation member fresh place held source own found (by
        rw [cells]
        intro same
        cases lawful.fill_injective same) (named.trans same.symm)
    subst equal
    rcases held with ⟨_, -, there, -, reserved⟩
    cases found.symm.trans there
    cases lawful.fill_injective (cells.symm.trans reserved)
  | published =>
    rw [same]
    exact ledger.publishAll lawful (mem_of_getElem? listed) (List.Subset.refl lane)
  | restored =>
    rw [same]
    exact ledger.rollbackAll lawful lane
  | cancelled => exact (ledger.rollbackAll lawful lane).clear which

/-! ## The published slots -/

/-- What is published in a place. -/
def publishedAt (shape : AttentionPageShape Page Cells)
    (pool : AttentionPagePool Cells) (place : ℕ) :
    Option (AttentionPageSlot Cells) :=
  pool.slots[place]?.filter fun slot => shape.every .published slot.cells

theorem publishedAt_eq_some_iff :
    publishedAt shape pool place = some slot ↔ pool.slots[place]? = some slot ∧
      slot.cells = shape.fill .published := by
  unfold publishedAt
  rw [Option.filter_eq_some_iff, lawful.every_iff]

theorem publishedAt_reserves (reserves : Reserves shape pool identity page after ordinal slot) :
    publishedAt shape after = publishedAt shape pool := by
  funext place
  apply Option.ext
  intro own
  rw [publishedAt_eq_some_iff lawful, publishedAt_eq_some_iff lawful]
  by_cases same : place = ordinal
  · subst same
    rw [reserves.written, reserves.found]
    constructor
    · rintro ⟨now, published⟩
      cases now
      cases lawful.fill_injective published
    · rintro ⟨was, published⟩
      cases was
      cases lawful.fill_injective (reserves.empty.symm.trans published)
  · rw [reserves.kept same]

theorem publishedAt_rollback : publishedAt shape (pool.rollback shape page).1 =
      publishedAt shape pool := by
  unfold rollback
  split
  · rfl
  rename_i accepted
  rcases (validate_ok_iff lawful).mp accepted with ⟨_, -, found, -, cells⟩
  funext place
  apply Option.ext
  intro own
  rw [publishedAt_eq_some_iff lawful, publishedAt_eq_some_iff lawful]
  rw [getElem?_fillSlot]
  split
  case isTrue same =>
    subst same
    rw [found]
    constructor
    · rintro ⟨now, published⟩
      cases now
      cases lawful.fill_injective published
    · rintro ⟨was, published⟩
      cases was
      cases lawful.fill_injective (cells.symm.trans published)
  · rfl

theorem publishedAt_rollbackAll :
    publishedAt shape (PageMutation.rollbackAll shape pool mutations).1 =
      publishedAt shape pool := by
  induction mutations generalizing pool with
  | nil => rfl
  | cons mutation _ induction =>
    exact (@induction (pool.rollback shape mutation.replacement).1).trans
      (publishedAt_rollback lawful)

/-- Nothing is published or unpublished other than by a commit. -/
theorem LaneStep.publishedAt_cases {sequence : ℕ} {next : List (PageMutation Page)}
    (step : LaneStep shape sequence commits pool lane after next) :
    publishedAt shape after = publishedAt shape pool ∨ (commits = true ∧
      after = (PageMutation.publishAll shape pool lane).1) := by
  cases step with
  | kept same =>
    left
    unfold publishedAt
    rw [same.slots]
  | cleared => exact .inl rfl
  | appended owner reserves alone | copied owner reserves old =>
    exact .inl (publishedAt_reserves lawful reserves)
  | published permitted => exact .inr ⟨permitted, rfl⟩
  | restored | cancelled => exact .inl (publishedAt_rollbackAll lawful)

/-! ## The start -/

theorem Ledger.create (made : AttentionPagePool.create shape pages = .ok pool)
    (empty : ∀ lane ∈ lanes, lane = []) : Ledger shape pages pool lanes := by
  rcases Result.else_eq_ok.mp made with ⟨_, made⟩
  cases made
  have all : ∀ slot ∈ replicate pages ({ cells := shape.fill .free } : AttentionPageSlot Cells),
        slot = _ :=
    fun slot member => (mem_replicate.mp member).2
  have counts (state : DeepSeekAttentionPageState) :
      stateCount shape (replicate pages { cells := shape.fill .free }) state =
        if state = .free then pages else 0 := by
    unfold stateCount
    rw [countP_replicate]
    simp only [every_fill lawful, decide_eq_true_eq]
  constructor
  · exact length_replicate
  · omega
  · intro slot member
    rw [all slot member]
    exact Nat.zero_le _
  · intro slot member
    exact ⟨.free, by rw [all slot member]⟩
  · exact ⟨(counts .free).symm, (counts .reserved).symm, (counts .published).symm⟩
  · intro first second slot other found there published
    rw [all slot (mem_of_getElem? found)] at published
    cases lawful.fill_injective published
  · intro lane listed mutation member
    rw [empty lane listed] at member
    cases member
  · intro lane listed mutation member
    rw [empty lane listed] at member
    cases member
  · intro lane listed
    rw [empty lane listed]
    exact nodup_nil

end AttentionPagePool

/-! ## Calls on a transaction -/

namespace DeepSeekAttentionSequenceTransaction

open AttentionPagePool (Ledger LaneStep Untouched reserve_cases reserveTailCow_cases)

variable (transaction : DeepSeekAttentionSequenceTransaction)

/-- What a call on a transaction does to both pools. -/
structure Steps (commits : Bool) (ratio4Pool : DeepSeekRatio4PagePool)
    (ratio128Pool : DeepSeekRatio128PagePool)
    (after : DeepSeekAttentionSequenceTransaction)
    (ratio4After : DeepSeekRatio4PagePool)
    (ratio128After : DeepSeekRatio128PagePool) : Prop where
  sequence : after.sequence = transaction.sequence
  ratio4 : LaneStep DeepSeekRatio4PagePool.shape transaction.sequence commits
      ratio4Pool transaction.ratio4 ratio4After after.ratio4
  ratio128 : LaneStep DeepSeekRatio128PagePool.shape transaction.sequence commits
      ratio128Pool transaction.ratio128 ratio128After after.ratio128

variable {transaction} {after : DeepSeekAttentionSequenceTransaction}

theorem Steps.quiet (sequence : after.sequence = transaction.sequence)
    (ratio4 : after.ratio4 = transaction.ratio4)
    (ratio128 : after.ratio128 = transaction.ratio128) :
    transaction.Steps commits ratio4Pool ratio128Pool after ratio4Pool
      ratio128Pool := by
  refine ⟨sequence, ?_, ?_⟩
  · rw [ratio4]
    exact .kept (.refl _)
  · rw [ratio128]
    exact .kept (.refl _)

theorem begin_steps (stream : ℕ) (copied : Result Unit) :
    transaction.Steps commits ratio4Pool ratio128Pool
      (transaction.begin stream copied).1 ratio4Pool ratio128Pool := by
  unfold begin
  split
  · exact .quiet rfl rfl rfl
  split
  · exact .quiet rfl rfl rfl
  · exact ⟨rfl, .cleared, .cleared⟩

theorem claimExternalErrorChannel_steps (host device : ℕ) :
    transaction.Steps commits ratio4Pool ratio128Pool
      (transaction.claimExternalErrorChannel host device).1 ratio4Pool
      ratio128Pool := by
  unfold claimExternalErrorChannel
  split
  · exact .quiet rfl rfl rfl
  split
  · exact .quiet rfl rfl rfl
  · exact .quiet rfl rfl rfl

theorem seal_steps (stream : ℕ) (recorded : Result Unit) :
    transaction.Steps commits ratio4Pool ratio128Pool
      (transaction.seal stream recorded).1 ratio4Pool ratio128Pool := by
  unfold «seal»
  split
  · exact .quiet rfl rfl rfl
  split
  · exact .quiet rfl rfl rfl
  · exact .quiet rfl rfl rfl

theorem poll_steps (queried : Result DeepSeekExpertAsyncStatus) (flags : ℕ → ℕ) :
    transaction.Steps commits ratio4Pool ratio128Pool
      (transaction.poll queried flags).1 ratio4Pool ratio128Pool := by
  unfold poll
  split
  · exact .quiet rfl rfl rfl
  split
  · exact .quiet rfl rfl rfl
  · split
    · exact .quiet rfl rfl rfl
    · exact .quiet rfl rfl rfl
  · exact .quiet rfl rfl rfl
  · exact .quiet rfl rfl rfl

section Reservations

theorem reserveRatio4Append_steps (ledger :
      Ledger DeepSeekRatio4PagePool.shape capacity ratio4Pool pairLanes) (layerId logicalPage : ℕ) :
    let done := transaction.reserveRatio4Append ratio4Pool layerId logicalPage
    transaction.Steps commits ratio4Pool ratio128Pool done.1 done.2.1
      ratio128Pool := by
  unfold reserveRatio4Append
  split
  · exact .quiet rfl rfl rfl
  rcases reserve_cases DeepSeekRatio4PagePool.shape_lawful ledger ⟨_, layerId, logicalPage⟩ with
    ⟨_, _, failed, same⟩ |
    ⟨_, _, _, _, done, reserves, alone⟩
  · rw [failed]
    exact ⟨rfl, .kept same, .kept (.refl _)⟩
  rw [done]
  exact ⟨rfl, .appended rfl reserves alone, .kept (.refl _)⟩

theorem reserveRatio4TailCow_steps (ledger :
      Ledger DeepSeekRatio4PagePool.shape capacity ratio4Pool pairLanes)
    (committed : DeepSeekRatio4PagePair) :
    let done := transaction.reserveRatio4TailCow ratio4Pool committed
    transaction.Steps commits ratio4Pool ratio128Pool done.1 done.2.1
      ratio128Pool := by
  unfold reserveRatio4TailCow
  split
  · exact .quiet rfl rfl rfl
  rename_i reservable
  have owner : committed.identity.sequence = transaction.sequence := by
    by_contra different
    exact reservable (.inr (.inl different))
  rcases reserveTailCow_cases DeepSeekRatio4PagePool.shape_lawful ledger committed with
    ⟨_, _, failed, same⟩ |
    ⟨_, _, _, _, _, done, reserves, old⟩
  · rw [failed]
    exact ⟨rfl, .kept same, .kept (.refl _)⟩
  rw [done]
  exact ⟨rfl, .copied owner reserves old, .kept (.refl _)⟩

variable (ledger : Ledger DeepSeekRatio128PagePool.shape capacity ratio128Pool pageLanes)

include ledger

theorem reserveRatio128Append_steps (layerId logicalPage : ℕ) :
    let done := transaction.reserveRatio128Append ratio128Pool layerId logicalPage
    transaction.Steps commits ratio4Pool ratio128Pool done.1 ratio4Pool
      done.2.1 := by
  unfold reserveRatio128Append
  split
  · exact .quiet rfl rfl rfl
  rcases reserve_cases DeepSeekRatio128PagePool.shape_lawful ledger ⟨_, layerId, logicalPage⟩ with
    ⟨_, _, failed, same⟩ |
    ⟨_, _, _, _, done, reserves, alone⟩
  · rw [failed]
    exact ⟨rfl, .kept (.refl _), .kept same⟩
  rw [done]
  exact ⟨rfl, .kept (.refl _), .appended rfl reserves alone⟩

theorem reserveRatio128TailCow_steps (committed : DeepSeekRatio128Page) :
    let done := transaction.reserveRatio128TailCow ratio128Pool committed
    transaction.Steps commits ratio4Pool ratio128Pool done.1 ratio4Pool
      done.2.1 := by
  unfold reserveRatio128TailCow
  split
  · exact .quiet rfl rfl rfl
  rename_i reservable
  have owner : committed.identity.sequence = transaction.sequence := by
    by_contra different
    exact reservable (.inr (.inl different))
  rcases reserveTailCow_cases DeepSeekRatio128PagePool.shape_lawful ledger committed with
    ⟨_, _, failed, same⟩ |
    ⟨_, _, _, _, _, done, reserves, old⟩
  · rw [failed]
    exact ⟨rfl, .kept (.refl _), .kept same⟩
  rw [done]
  exact ⟨rfl, .kept (.refl _), .copied owner reserves old⟩

end Reservations

theorem commit_steps :
    let done := transaction.commit ratio4Pool ratio128Pool
    transaction.Steps true ratio4Pool ratio128Pool done.1 done.2.1
      done.2.2.1 := by
  have pairs : LaneStep DeepSeekRatio4PagePool.shape transaction.sequence true
      ratio4Pool transaction.ratio4
      (PageMutation.publishAll DeepSeekRatio4PagePool.shape ratio4Pool
        transaction.ratio4).1 transaction.ratio4 :=
    .published rfl
  have pages : LaneStep DeepSeekRatio128PagePool.shape transaction.sequence true
      ratio128Pool transaction.ratio128
      (PageMutation.publishAll DeepSeekRatio128PagePool.shape ratio128Pool
        transaction.ratio128).1 transaction.ratio128 :=
    .published rfl
  unfold commit
  split
  · exact .quiet rfl rfl rfl
  split
  case h_1 failed =>
    rw [failed] at pairs
    exact ⟨rfl, pairs, .kept (.refl _)⟩
  rename_i published
  rw [published] at pairs
  split
  case h_1 failed =>
    rw [failed] at pages
    exact ⟨rfl, pairs, pages⟩
  rename_i done
  rw [done] at pages
  split
  · exact ⟨rfl, pairs, pages⟩
  · exact ⟨rfl, pairs, pages⟩

theorem cancelPreparing_steps :
    let done := transaction.cancelPreparing ratio4Pool ratio128Pool
    transaction.Steps commits ratio4Pool ratio128Pool done.1 done.2.1
      done.2.2.1 := by
  unfold cancelPreparing
  split
  · exact .quiet rfl rfl rfl
  · exact ⟨rfl, .cancelled, .cancelled⟩

theorem abort_steps :
    let done := transaction.abort ratio4Pool ratio128Pool
    transaction.Steps commits ratio4Pool ratio128Pool done.1 done.2.1
      done.2.2.1 := by
  unfold abort
  split
  · exact .quiet rfl rfl rfl
  · exact ⟨rfl, .restored, .restored⟩

end DeepSeekAttentionSequenceTransaction

/-! ## All transactions -/

namespace AttentionTransactions

open AttentionPagePool (Ledger LaneStep publishedAt)

/-- The transaction that an operation is called on. -/
def calledOn : AttentionOperation → Option ℕ
  | .begin which _ _ => some which
  | .claimExternalErrorChannel which _ _ => some which
  | .reserveRatio4Append which _ _ => some which
  | .reserveRatio4TailCow which _ => some which
  | .reserveRatio128Append which _ _ => some which
  | .reserveRatio128TailCow which _ => some which
  | .seal which _ _ => some which
  | .poll which _ _ => some which
  | .commit which => some which
  | .cancelPreparing which => some which
  | .abort which => some which
  | .releaseRatio4Sequence _ => none
  | .releaseRatio128Sequence _ => none

/-- The operation is a commit. -/
def commits : AttentionOperation → Bool
  | .commit _ => true
  | _ => false

/-- The books of both pools. -/
structure Books (pairs pages : ℕ) (state : AttentionTransactions) : Prop where
  ratio4 : Ledger DeepSeekRatio4PagePool.shape pairs state.ratio4Pool (state.transactions.map
    DeepSeekAttentionSequenceTransaction.ratio4)
  ratio128 : Ledger DeepSeekRatio128PagePool.shape pages state.ratio128Pool (state.transactions.map
    DeepSeekAttentionSequenceTransaction.ratio128)

/-- What an operation does. -/
inductive Effect (state : AttentionTransactions) :
    AttentionOperation → AttentionTransactions → Prop where
  | absent : Effect state operation state
  | called
      {transaction after : DeepSeekAttentionSequenceTransaction}
      {ratio4Pool : DeepSeekRatio4PagePool}
      {ratio128Pool : DeepSeekRatio128PagePool}
      (named : calledOn operation = some which)
      (found : state.transactions[which]? = some transaction)
      (steps : transaction.Steps (commits operation) state.ratio4Pool
          state.ratio128Pool after ratio4Pool ratio128Pool) :
      Effect state operation (state.update which after ratio4Pool ratio128Pool)
  | releasedRatio4 (sequence : ℕ) : Effect state (.releaseRatio4Sequence sequence)
        { state with
          ratio4Pool := (state.ratio4Pool.releasePublishedSequence
            DeepSeekRatio4PagePool.shape sequence).1 }
  | releasedRatio128 (sequence : ℕ) : Effect state (.releaseRatio128Sequence sequence)
        { state with
          ratio128Pool := (state.ratio128Pool.releasePublishedSequence
            DeepSeekRatio128PagePool.shape sequence).1 }

variable {state : AttentionTransactions}

theorem call_effect (named : calledOn operation = some which)
    (steps : ∀ transaction : DeepSeekAttentionSequenceTransaction,
      transaction.Steps (commits operation) state.ratio4Pool
        state.ratio128Pool (run transaction).1 (run transaction).2.1 (run transaction).2.2.1) :
    Effect state operation (state.call which run).1 := by
  unfold call
  split
  · exact .absent
  case h_2 transaction found => exact .called named found (steps transaction)

theorem execute_effect (books : Books pairs pages state) (operation : AttentionOperation) :
    Effect state operation (state.execute operation).1 := by
  cases operation with
  | begin _ stream copied =>
    exact call_effect rfl fun transaction => transaction.begin_steps stream copied
  | claimExternalErrorChannel _ host device =>
    exact call_effect rfl fun transaction => transaction.claimExternalErrorChannel_steps host device
  | reserveRatio4Append _ layerId logicalPage =>
    exact call_effect rfl fun transaction =>
      transaction.reserveRatio4Append_steps books.ratio4 layerId logicalPage
  | reserveRatio4TailCow _ committed =>
    exact call_effect rfl fun transaction =>
      transaction.reserveRatio4TailCow_steps books.ratio4 committed
  | reserveRatio128Append _ layerId logicalPage =>
    exact call_effect rfl fun transaction =>
      transaction.reserveRatio128Append_steps books.ratio128 layerId logicalPage
  | reserveRatio128TailCow _ committed =>
    exact call_effect rfl fun transaction =>
      transaction.reserveRatio128TailCow_steps books.ratio128 committed
  | «seal» which stream recorded =>
    exact call_effect rfl fun transaction => transaction.seal_steps stream recorded
  | poll _ queried flags =>
    exact call_effect rfl fun transaction => transaction.poll_steps queried flags
  | commit => exact call_effect rfl fun transaction => transaction.commit_steps
  | cancelPreparing =>
    exact call_effect rfl fun transaction => transaction.cancelPreparing_steps
  | abort => exact call_effect rfl fun transaction => transaction.abort_steps
  | releaseRatio4Sequence sequence => exact .releasedRatio4 sequence
  | releaseRatio128Sequence sequence => exact .releasedRatio128 sequence

theorem Effect.books {after : AttentionTransactions}
    (books : Books pairs pages state) (effect : Effect state operation after) :
    Books pairs pages after := by
  cases effect with
  | absent => exact books
  | called _ found steps =>
    constructor
    · change Ledger _ _ _ (map _ (set _ _ _))
      rw [map_set]
      exact books.ratio4.laneStep DeepSeekRatio4PagePool.shape_lawful
        (by rw [getElem?_map, found]; rfl) steps.ratio4
    · change Ledger _ _ _ (map _ (set _ _ _))
      rw [map_set]
      exact books.ratio128.laneStep DeepSeekRatio128PagePool.shape_lawful
        (by rw [getElem?_map, found]; rfl) steps.ratio128
  | releasedRatio4 sequence =>
    exact ⟨books.ratio4.releasePublishedSequence
      DeepSeekRatio4PagePool.shape_lawful sequence, books.ratio128⟩
  | releasedRatio128 sequence =>
    exact ⟨books.ratio4, books.ratio128.releasePublishedSequence
      DeepSeekRatio128PagePool.shape_lawful sequence⟩

/-! ## Runs -/

/-- Two fresh pools and transactions that were just created. -/
structure Initial (pairs pages : ℕ) (state : AttentionTransactions) : Prop where
  ratio4 : AttentionPagePool.create DeepSeekRatio4PagePool.shape pairs = .ok state.ratio4Pool
  ratio128 : AttentionPagePool.create DeepSeekRatio128PagePool.shape pages = .ok state.ratio128Pool
  transactions : ∀ transaction ∈ state.transactions, ∃ sequence maximumRatio4 maximumRatio128 banks,
    DeepSeekAttentionSequenceTransaction.create sequence maximumRatio4
      maximumRatio128 banks = .ok transaction

/-- Any operations, on any transactions and with any handles. -/
abbrev TransactionRun (start : AttentionTransactions) := Run execute (fun _ _ _ => True) start

theorem Initial.empty (initial : Initial pairs pages state)
    (transaction : DeepSeekAttentionSequenceTransaction)
    (member : transaction ∈ state.transactions) :
    transaction.ratio4 = [] ∧ transaction.ratio128 = [] := by
  rcases initial.transactions transaction member with
    ⟨_, _, _, _, made⟩
  unfold DeepSeekAttentionSequenceTransaction.create at made
  split at made
  · cases made
  cases made
  exact ⟨rfl, rfl⟩

theorem Initial.books (initial : Initial pairs pages state) : Books pairs pages state := by
  constructor
  · refine Ledger.create DeepSeekRatio4PagePool.shape_lawful initial.ratio4 ?_
    intro lane member
    rcases mem_map.mp member with ⟨transaction, listed, rfl⟩
    exact (initial.empty transaction listed).1
  · refine Ledger.create DeepSeekRatio128PagePool.shape_lawful initial.ratio128 ?_
    intro lane member
    rcases mem_map.mp member with ⟨transaction, listed, rfl⟩
    exact (initial.empty transaction listed).2

theorem TransactionRun.books (initial : Initial pairs pages start)
    (run : TransactionRun start history state) : Books pairs pages state := by
  refine Run.invariant (fun _ state => Books pairs pages state) initial.books ?_ run
  intro history state operation _ books _
  exact (execute_effect books operation).books books

end AttentionTransactions

end Pih
