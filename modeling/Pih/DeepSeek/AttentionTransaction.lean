import Pih.DeepSeek.AttentionPagePool

/-!
# Attention sequence transactions

A transaction of a sequence prepares the second bank of its fixed state and
reserves pages in the two pools.  Once its work has completed it publishes
all of them or gives all of them back.  The transactions of all sequences
share the two pools.
-/

namespace Pih

inductive DeepSeekExpertAsyncStatus where
  | inProgress
  | success
  | error
deriving DecidableEq, Repr

/-! ## The banks of the fixed state -/

inductive DeepSeekFixedStateTransactionState where
  | idle
  | prepared
  | awaitingCompletion
  | readyToResolve
  | poisoned
deriving DecidableEq, Repr

/--
The driver's answers are arguments.  Of the two banks only the number of the
committed one is kept; their addresses are passed to the driver.
-/
structure DeepSeekFixedStateBanks where
  committedBank : Bool := false
  generation : ℕ := 1
  state : DeepSeekFixedStateTransactionState := .idle
deriving DecidableEq, Repr

namespace DeepSeekFixedStateBanks

variable (banks : DeepSeekFixedStateBanks)

def validatePrepare (stream : ℕ) : Result Unit :=
  if banks.state ≠ .idle ∨ stream = 0 then
    .error (.failedPrecondition "DeepSeek fixed state banks are not preparable")
  else .ok ()

def prepare (stream : ℕ) (copied : Result Unit) : DeepSeekFixedStateBanks × Result Unit :=
  match banks.validatePrepare stream with
  | .error status => (banks, .error status)
  | .ok () =>
    match copied with
    | .error status => ({ banks with state := .poisoned }, .error status)
    | .ok () => ({ banks with state := .prepared }, .ok ())

def «seal» (stream : ℕ) (recorded : Result Unit) : DeepSeekFixedStateBanks × Result Unit :=
  if banks.state ≠ .prepared ∨ stream = 0 then
    (banks, .error (.failedPrecondition "DeepSeek fixed state banks are not sealable"))
  else
    match recorded with
    | .error status => ({ banks with state := .poisoned }, .error status)
    | .ok () => ({ banks with state := .awaitingCompletion }, .ok ())

/-- Ask whether the recorded work is complete. -/
def poll (queried : Result DeepSeekExpertAsyncStatus) :
    DeepSeekFixedStateBanks × Result DeepSeekExpertAsyncStatus :=
  if banks.state ≠ .awaitingCompletion then
    (banks, .error (.failedPrecondition "DeepSeek fixed state banks have no completion to poll"))
  else
    match queried with
    | .error status => ({ banks with state := .poisoned }, .error status)
    | .ok .success => ({ banks with state := .readyToResolve }, .ok .success)
    | .ok .error => ({ banks with state := .poisoned }, .ok .error)
    | .ok .inProgress => (banks, .ok .inProgress)

def validateCommit : Result Unit :=
  if banks.state ≠ .readyToResolve then
    .error (.failedPrecondition "DeepSeek fixed state banks are not committable")
  else if banks.generation = u64Max then
    .error (.failedPrecondition "DeepSeek fixed state generation requires epoch rebuild")
  else .ok ()

/-- Switch to the other bank. -/
def commit : DeepSeekFixedStateBanks × Result Unit :=
  match banks.validateCommit with
  | .error status =>
    (if banks.state = .readyToResolve then
        { banks with state := .poisoned }
      else banks,
      .error status)
  | .ok () =>
    ({ committedBank := ¬ banks.committedBank
       generation := banks.generation + 1
       state := .idle }, .ok ())

def cancelPrepared : DeepSeekFixedStateBanks × Result Unit :=
  if banks.state ≠ .prepared then
    (banks, .error (.failedPrecondition "DeepSeek fixed state banks are not cancellable"))
  else ({ banks with state := .idle }, .ok ())

def abort : DeepSeekFixedStateBanks × Result Unit :=
  if banks.state ≠ .readyToResolve then
    (banks, .error (.failedPrecondition "DeepSeek fixed state banks are not abortable"))
  else ({ banks with state := .idle }, .ok ())

end DeepSeekFixedStateBanks

/-! ## Mutations of a pool -/

/-- A reserved page, with the page that it is a copy of, if it is one. -/
structure PageMutation (Page : Type) where
  committed : Option Page
  replacement : Page
deriving DecidableEq, Repr

namespace PageMutation

variable {Page Cells : Type} (shape : AttentionPageShape Page Cells)

def validate (pool : AttentionPagePool Cells) (mutation : PageMutation Page) : Result Unit :=
  match mutation.committed with
  | some committed => pool.validatePublishTailCow shape committed mutation.replacement
  | none => pool.validatePublish shape mutation.replacement

def publish (pool : AttentionPagePool Cells) (mutation : PageMutation Page) :
    AttentionPagePool Cells × Result Unit :=
  match mutation.committed with
  | some committed => pool.publishTailCow shape committed mutation.replacement
  | none => pool.publish shape mutation.replacement

/-- The loop of `validate_commit` over the mutations of one pool. -/
def validateAll (shape : AttentionPageShape Page Cells)
    (pool : AttentionPagePool Cells) : List (PageMutation Page) → Result Unit
  | [] => .ok ()
  | mutation :: rest =>
    match mutation.validate shape pool with
    | .error status => .error status
    | .ok () => validateAll shape pool rest

/-- The loop of `commit`, which stops at the first failure. -/
def publishAll (shape : AttentionPageShape Page Cells) :
    AttentionPagePool Cells → List (PageMutation Page) → AttentionPagePool Cells × Result Unit
  | pool, [] => (pool, .ok ())
  | pool, mutation :: rest =>
    match mutation.publish shape pool with
    | (refused, .error status) => (refused, .error status)
    | (published, .ok ()) => publishAll shape published rest

/-- The first failure, if any. -/
def firstError (first second : Result Unit) : Result Unit :=
  match first with
  | .error status => .error status
  | .ok () => second

/-- The loop of `cancel_preparing` and `abort`, which goes on. -/
def rollbackAll (shape : AttentionPageShape Page Cells) :
    AttentionPagePool Cells → List (PageMutation Page) → AttentionPagePool Cells × Result Unit
  | pool, [] => (pool, .ok ())
  | pool, mutation :: rest =>
    let restored := pool.rollback shape mutation.replacement
    let others := rollbackAll shape restored.1 rest
    (others.1, firstError restored.2 others.2)

end PageMutation

/-! ## Transactions -/

inductive DeepSeekAttentionSequenceTransactionState where
  | idle
  | preparing
  | awaitingCompletion
  | readyToResolve
  | poisoned
deriving DecidableEq, Repr

structure ExternalErrorChannel where
  host : ℕ
  device : ℕ
deriving DecidableEq, Repr

/-- The mutations are kept as the filled parts of the two arrays. -/
structure DeepSeekAttentionSequenceTransaction where
  sequence : ℕ
  maximumRatio4Mutations : ℕ
  maximumRatio128Mutations : ℕ
  fixedBanks : DeepSeekFixedStateBanks
  ratio4 : List (PageMutation DeepSeekRatio4PagePair) := []
  ratio128 : List (PageMutation DeepSeekRatio128Page) := []
  externalErrorChannels : List ExternalErrorChannel := []
  prepareEpoch : ℕ := 0
  stream : ℕ := 0
  state : DeepSeekAttentionSequenceTransactionState := .idle
deriving DecidableEq, Repr

namespace DeepSeekAttentionSequenceTransaction

def create (sequence maximumRatio4Mutations maximumRatio128Mutations : ℕ)
    (fixedBanks : DeepSeekFixedStateBanks) :
    Result DeepSeekAttentionSequenceTransaction :=
  if maximumRatio4Mutations > 43 ∨ maximumRatio128Mutations > 43 then
    .error (.invalidArgument "DeepSeek attention sequence mutation bound is invalid")
  else .ok { sequence, maximumRatio4Mutations, maximumRatio128Mutations, fixedBanks }

variable (transaction : DeepSeekAttentionSequenceTransaction)

def validateBegin (stream : ℕ) : Result Unit :=
  if transaction.state ≠ .idle ∨ stream = 0 then
    .error (.failedPrecondition "DeepSeek attention sequence transaction is not idle")
  else transaction.fixedBanks.validatePrepare stream

/-- Open a transaction on the fixed state. -/
def begin (stream : ℕ) (copied : Result Unit) :
    DeepSeekAttentionSequenceTransaction × Result Unit :=
  match transaction.validateBegin stream with
  | .error status => (transaction, .error status)
  | .ok () =>
    match transaction.fixedBanks.prepare stream copied with
    | (banks, .error status) =>
      ({ transaction with fixedBanks := banks, state := .poisoned }, .error status)
    | (banks, .ok ()) =>
      ({ transaction with
          fixedBanks := banks
          ratio4 := []
          ratio128 := []
          externalErrorChannels := []
          prepareEpoch := nextU64 transaction.prepareEpoch
          stream
          state := .preparing }, .ok ())

/-- The loop of `claim_external_error_channel`. -/
def claimAmong (channel : ExternalErrorChannel) : List ExternalErrorChannel → Result Bool
  | [] => .ok true
  | claimed :: rest =>
    if claimed = channel then .ok false
    else if claimed.host = channel.host then
      .error (.failedPrecondition "DeepSeek attention external error channel aliases another pair")
    else claimAmong channel rest

def claimExternalErrorChannel (host device : ℕ) :
    DeepSeekAttentionSequenceTransaction × Result Bool :=
  if transaction.state ≠ .preparing ∨ host = 0 ∨ device = 0 then
    (transaction, .error (.failedPrecondition
      "DeepSeek attention external error channel is not claimable"))
  else
    match claimAmong ⟨host, device⟩ transaction.externalErrorChannels with
    | .ok true =>
      ({ transaction with
          externalErrorChannels := transaction.externalErrorChannels ++ [⟨host, device⟩] },
        .ok true)
    | answer => (transaction, answer)

def reserveRatio4Append (pool : DeepSeekRatio4PagePool) (layerId logicalPage : ℕ) :
    DeepSeekAttentionSequenceTransaction × DeepSeekRatio4PagePool × Result DeepSeekRatio4PagePair :=
  if transaction.state ≠ .preparing ∨
      transaction.ratio4.length ≥ transaction.maximumRatio4Mutations then
    (transaction, pool, .error (.resourceExhausted
      "DeepSeek ratio-4 transaction mutation bound is exhausted"))
  else
    match pool.reserve DeepSeekRatio4PagePool.shape
        ⟨transaction.sequence, layerId, logicalPage⟩ with
    | (refused, .error status) => (transaction, refused, .error status)
    | (reserved, .ok page) =>
      ({ transaction with ratio4 := transaction.ratio4 ++ [⟨none, page⟩] }, reserved, .ok page)

def reserveRatio4TailCow (pool : DeepSeekRatio4PagePool) (committed : DeepSeekRatio4PagePair) :
    DeepSeekAttentionSequenceTransaction × DeepSeekRatio4PagePool × Result DeepSeekRatio4PagePair :=
  if transaction.state ≠ .preparing ∨ committed.identity.sequence ≠ transaction.sequence ∨
      transaction.ratio4.length ≥ transaction.maximumRatio4Mutations then
    (transaction, pool, .error (.failedPrecondition "DeepSeek ratio-4 tail COW is not reservable"))
  else
    match pool.reserveTailCow DeepSeekRatio4PagePool.shape committed with
    | (refused, .error status) => (transaction, refused, .error status)
    | (reserved, .ok page) =>
      ({ transaction with ratio4 := transaction.ratio4 ++ [⟨some committed, page⟩] },
        reserved, .ok page)

def reserveRatio128Append (pool : DeepSeekRatio128PagePool) (layerId logicalPage : ℕ) :
    DeepSeekAttentionSequenceTransaction × DeepSeekRatio128PagePool × Result DeepSeekRatio128Page :=
  if transaction.state ≠ .preparing ∨ transaction.ratio128.length ≥
        transaction.maximumRatio128Mutations then
    (transaction, pool, .error (.resourceExhausted
      "DeepSeek ratio-128 transaction mutation bound is exhausted"))
  else
    match pool.reserve DeepSeekRatio128PagePool.shape
        ⟨transaction.sequence, layerId, logicalPage⟩ with
    | (refused, .error status) => (transaction, refused, .error status)
    | (reserved, .ok page) =>
      ({ transaction with ratio128 := transaction.ratio128 ++ [⟨none, page⟩] }, reserved, .ok page)

def reserveRatio128TailCow (pool : DeepSeekRatio128PagePool) (committed : DeepSeekRatio128Page) :
    DeepSeekAttentionSequenceTransaction × DeepSeekRatio128PagePool × Result DeepSeekRatio128Page :=
  if transaction.state ≠ .preparing ∨ committed.identity.sequence ≠ transaction.sequence ∨
      transaction.ratio128.length ≥ transaction.maximumRatio128Mutations then
    (transaction, pool, .error (.failedPrecondition
      "DeepSeek ratio-128 tail COW is not reservable"))
  else
    match pool.reserveTailCow DeepSeekRatio128PagePool.shape committed with
    | (refused, .error status) => (transaction, refused, .error status)
    | (reserved, .ok page) =>
      ({ transaction with ratio128 := transaction.ratio128 ++ [⟨some committed, page⟩] },
        reserved, .ok page)

def «seal» (stream : ℕ) (recorded : Result Unit) :
    DeepSeekAttentionSequenceTransaction × Result Unit :=
  if transaction.state ≠ .preparing ∨ stream ≠ transaction.stream then
    (transaction, .error (.failedPrecondition
      "DeepSeek attention sequence transaction is not sealable"))
  else
    match transaction.fixedBanks.seal stream recorded with
    | (banks, .error status) =>
      ({ transaction with fixedBanks := banks, state := .poisoned }, .error status)
    | (banks, .ok ()) =>
      ({ transaction with fixedBanks := banks, state := .awaitingCompletion }, .ok ())

section

variable (transaction : DeepSeekAttentionSequenceTransaction)

/-- The flags are what the host words of the error channels hold. -/
def poll (queried : Result DeepSeekExpertAsyncStatus) (flags : ℕ → ℕ) :
    DeepSeekAttentionSequenceTransaction × Result DeepSeekExpertAsyncStatus :=
  if transaction.state ≠ .awaitingCompletion then
    (transaction, .error (.failedPrecondition
      "DeepSeek attention sequence transaction has no completion"))
  else
    match transaction.fixedBanks.poll queried with
    | (banks, .error status) =>
      ({ transaction with fixedBanks := banks, state := .poisoned }, .error status)
    | (banks, .ok .success) =>
      if transaction.externalErrorChannels.any fun channel => flags channel.host ≠ 0 then
        ({ transaction with fixedBanks := banks, state := .poisoned }, .ok .error)
      else ({ transaction with fixedBanks := banks, state := .readyToResolve }, .ok .success)
    | (banks, .ok .error) =>
      ({ transaction with fixedBanks := banks, state := .poisoned }, .ok .error)
    | (banks, .ok .inProgress) => ({ transaction with fixedBanks := banks }, .ok .inProgress)

def validateCommit (ratio4Pool : DeepSeekRatio4PagePool)
    (ratio128Pool : DeepSeekRatio128PagePool) : Result Unit :=
  if transaction.state ≠ .readyToResolve then
    .error (.failedPrecondition "DeepSeek attention sequence transaction is not committable")
  else
    match transaction.fixedBanks.validateCommit with
    | .error status => .error status
    | .ok () =>
      match PageMutation.validateAll DeepSeekRatio4PagePool.shape ratio4Pool transaction.ratio4 with
      | .error status => .error status
      | .ok () =>
        PageMutation.validateAll DeepSeekRatio128PagePool.shape ratio128Pool transaction.ratio128

/-- Publish the pages of both pools, then the fixed state. -/
def commit (ratio4Pool : DeepSeekRatio4PagePool) (ratio128Pool : DeepSeekRatio128PagePool) :
    DeepSeekAttentionSequenceTransaction × DeepSeekRatio4PagePool ×
      DeepSeekRatio128PagePool × Result Unit :=
  match transaction.validateCommit ratio4Pool ratio128Pool with
  | .error status => (transaction, ratio4Pool, ratio128Pool, .error status)
  | .ok () =>
    match PageMutation.publishAll DeepSeekRatio4PagePool.shape ratio4Pool transaction.ratio4 with
    | (ratio4Pool, .error status) =>
      ({ transaction with state := .poisoned }, ratio4Pool, ratio128Pool, .error status)
    | (ratio4Pool, .ok ()) =>
      match PageMutation.publishAll DeepSeekRatio128PagePool.shape
          ratio128Pool transaction.ratio128 with
      | (ratio128Pool, .error status) =>
        ({ transaction with state := .poisoned }, ratio4Pool, ratio128Pool, .error status)
      | (ratio128Pool, .ok ()) =>
        match transaction.fixedBanks.commit with
        | (banks, .error status) =>
          ({ transaction with fixedBanks := banks, state := .poisoned },
            ratio4Pool, ratio128Pool, .error status)
        | (banks, .ok ()) =>
          ({ transaction with fixedBanks := banks, state := .idle },
            ratio4Pool, ratio128Pool, .ok ())

end

/-- The state after everything was given back. -/
def restoredState (result : Result Unit) : DeepSeekAttentionSequenceTransactionState :=
  if Result.isOk result then .idle else .poisoned

/-- Roll back everything before the transaction is sealed. -/
def cancelPreparing (ratio4Pool : DeepSeekRatio4PagePool)
    (ratio128Pool : DeepSeekRatio128PagePool) :
    DeepSeekAttentionSequenceTransaction × DeepSeekRatio4PagePool ×
      DeepSeekRatio128PagePool × Result Unit :=
  if transaction.state ≠ .preparing then
    (transaction, ratio4Pool, ratio128Pool, .error (.failedPrecondition
      "DeepSeek attention sequence transaction is not cancellable"))
  else
    let pairs := PageMutation.rollbackAll DeepSeekRatio4PagePool.shape ratio4Pool transaction.ratio4
    let pages :=
      PageMutation.rollbackAll DeepSeekRatio128PagePool.shape ratio128Pool transaction.ratio128
    let fixed := transaction.fixedBanks.cancelPrepared
    let first := PageMutation.firstError (PageMutation.firstError pairs.2 pages.2) fixed.2
    ({ transaction with
        fixedBanks := fixed.1
        ratio4 := []
        ratio128 := []
        state := restoredState first },
      pairs.1, pages.1, first)

/-- Roll back everything once the recorded work is complete. -/
def abort (ratio4Pool : DeepSeekRatio4PagePool) (ratio128Pool : DeepSeekRatio128PagePool) :
    DeepSeekAttentionSequenceTransaction × DeepSeekRatio4PagePool ×
      DeepSeekRatio128PagePool × Result Unit :=
  if transaction.state ≠ .readyToResolve then
    (transaction, ratio4Pool, ratio128Pool, .error (.failedPrecondition
      "DeepSeek attention sequence transaction is not abortable"))
  else
    let pairs := PageMutation.rollbackAll DeepSeekRatio4PagePool.shape ratio4Pool transaction.ratio4
    let pages :=
      PageMutation.rollbackAll DeepSeekRatio128PagePool.shape ratio128Pool transaction.ratio128
    let fixed := transaction.fixedBanks.abort
    let first := PageMutation.firstError (PageMutation.firstError pairs.2 pages.2) fixed.2
    ({ transaction with fixedBanks := fixed.1, state := restoredState first },
      pairs.1, pages.1, first)

end DeepSeekAttentionSequenceTransaction

/-! ## Transactions that share the pools -/

structure AttentionTransactions where
  ratio4Pool : DeepSeekRatio4PagePool
  ratio128Pool : DeepSeekRatio128PagePool
  transactions : List DeepSeekAttentionSequenceTransaction
deriving DecidableEq, Repr

/-- A call on the transaction with the given number, or on a pool. -/
inductive AttentionOperation where
  | begin (which stream : ℕ) (copied : Result Unit)
  | claimExternalErrorChannel (which host device : ℕ)
  | reserveRatio4Append (which layerId logicalPage : ℕ)
  | reserveRatio4TailCow (which : ℕ) (committed : DeepSeekRatio4PagePair)
  | reserveRatio128Append (which layerId logicalPage : ℕ)
  | reserveRatio128TailCow (which : ℕ) (committed : DeepSeekRatio128Page)
  | «seal» (which stream : ℕ) (recorded : Result Unit)
  | poll (which : ℕ) (queried : Result DeepSeekExpertAsyncStatus) (flags : ℕ → ℕ)
  | commit (which : ℕ)
  | cancelPreparing (which : ℕ)
  | abort (which : ℕ)
  | releaseRatio4Sequence (sequence : ℕ)
  | releaseRatio128Sequence (sequence : ℕ)

/-- What an operation answers. -/
inductive AttentionOutcome where
  | absent
  | status (result : Result Unit)
  | claimed (result : Result Bool)
  | pair (result : Result DeepSeekRatio4PagePair)
  | page (result : Result DeepSeekRatio128Page)
  | polled (result : Result DeepSeekExpertAsyncStatus)

namespace AttentionTransactions

variable (state : AttentionTransactions)

/-- The state after a call on one transaction. -/
def update (which : ℕ) (transaction : DeepSeekAttentionSequenceTransaction)
    (ratio4Pool : DeepSeekRatio4PagePool)
    (ratio128Pool : DeepSeekRatio128PagePool) : AttentionTransactions where
  ratio4Pool := ratio4Pool
  ratio128Pool := ratio128Pool
  transactions := state.transactions.set which transaction

/-- A call on a transaction. -/
def call (which : ℕ) (run : DeepSeekAttentionSequenceTransaction →
        DeepSeekAttentionSequenceTransaction × DeepSeekRatio4PagePool ×
          DeepSeekRatio128PagePool × AttentionOutcome) :
    AttentionTransactions × AttentionOutcome :=
  match state.transactions[which]? with
  | none => (state, .absent)
  | some transaction =>
    let done := run transaction
    (state.update which done.1 done.2.1 done.2.2.1, done.2.2.2)

/-- One operation on the transaction that it names. -/
def execute : AttentionOperation → AttentionTransactions × AttentionOutcome
  | .begin which stream copied =>
    state.call which fun transaction =>
      let done := transaction.begin stream copied
      (done.1, state.ratio4Pool, state.ratio128Pool, .status done.2)
  | .claimExternalErrorChannel which host device =>
    state.call which fun transaction =>
      let done := transaction.claimExternalErrorChannel host device
      (done.1, state.ratio4Pool, state.ratio128Pool, .claimed done.2)
  | .reserveRatio4Append which layerId logicalPage =>
    state.call which fun transaction =>
      let done := transaction.reserveRatio4Append state.ratio4Pool layerId logicalPage
      (done.1, done.2.1, state.ratio128Pool, .pair done.2.2)
  | .reserveRatio4TailCow which committed =>
    state.call which fun transaction =>
      let done := transaction.reserveRatio4TailCow state.ratio4Pool committed
      (done.1, done.2.1, state.ratio128Pool, .pair done.2.2)
  | .reserveRatio128Append which layerId logicalPage =>
    state.call which fun transaction =>
      let done := transaction.reserveRatio128Append state.ratio128Pool layerId logicalPage
      (done.1, state.ratio4Pool, done.2.1, .page done.2.2)
  | .reserveRatio128TailCow which committed =>
    state.call which fun transaction =>
      let done := transaction.reserveRatio128TailCow state.ratio128Pool committed
      (done.1, state.ratio4Pool, done.2.1, .page done.2.2)
  | .seal which stream recorded =>
    state.call which fun transaction =>
      let done := transaction.seal stream recorded
      (done.1, state.ratio4Pool, state.ratio128Pool, .status done.2)
  | .poll which queried flags =>
    state.call which fun transaction =>
      let done := transaction.poll queried flags
      (done.1, state.ratio4Pool, state.ratio128Pool, .polled done.2)
  | .commit which =>
    state.call which fun transaction =>
      let done := transaction.commit state.ratio4Pool state.ratio128Pool
      (done.1, done.2.1, done.2.2.1, .status done.2.2.2)
  | .cancelPreparing which =>
    state.call which fun transaction =>
      let done := transaction.cancelPreparing state.ratio4Pool state.ratio128Pool
      (done.1, done.2.1, done.2.2.1, .status done.2.2.2)
  | .abort which =>
    state.call which fun transaction =>
      let done := transaction.abort state.ratio4Pool state.ratio128Pool
      (done.1, done.2.1, done.2.2.1, .status done.2.2.2)
  | .releaseRatio4Sequence sequence =>
    let done := state.ratio4Pool.releasePublishedSequence DeepSeekRatio4PagePool.shape sequence
    ({ state with ratio4Pool := done.1 }, .status done.2)
  | .releaseRatio128Sequence sequence =>
    let done := state.ratio128Pool.releasePublishedSequence DeepSeekRatio128PagePool.shape sequence
    ({ state with ratio128Pool := done.1 }, .status done.2)

end AttentionTransactions

end Pih
