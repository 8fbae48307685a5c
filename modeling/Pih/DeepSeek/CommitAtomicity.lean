import Pih.DeepSeek.TransactionLedger

/-!
# Commits of attention pages

A commit checks all of its mutations before it publishes the first.  The
check holds while they are published one by one unless two of them copy the
same page: the first publication frees the page that the second one needs.
-/

namespace Pih

open List

open PageMutation

namespace AttentionPagePool

variable {Page Cells : Type}

/-- Pages that are reserved together are in different slots. -/
theorem Ledger.apart (ledger : Ledger shape capacity pool lanes) (listed : lane ∈ lanes)
    (ready : ∀ mutation ∈ lane, Ready shape pool.slots mutation) : Apart shape lane := by
  have distinct := pairwise_map.mp (ledger.distinct lane listed)
  refine distinct.imp_of_mem ?_
  intro first second member other different place named again
  rcases (ready first member).target with ⟨_, held⟩
  rcases (ready second other).target with ⟨_, held'⟩
  cases names_unique named (names_of_holds held)
  cases names_unique again (names_of_holds held')
  rcases held with ⟨_, located, found, -⟩
  rcases held' with ⟨_, located', found', -⟩
  cases found.symm.trans found'
  exact different (located.trans located'.symm)

end AttentionPagePool

theorem DeepSeekFixedStateBanks.commit_ok {banks : DeepSeekFixedStateBanks}
    (accepted : banks.validateCommit = .ok ()) : ∃ after, banks.commit = (after, .ok ()) := by
  unfold commit
  rw [accepted]
  exact ⟨_, rfl⟩

namespace DeepSeekAttentionSequenceTransaction

open PageMutation (AllPublished sources publishAll_spec validateAll_ok_iff)

/-- The commit did everything that it should. -/
structure Commits (transaction : DeepSeekAttentionSequenceTransaction)
    (ratio4Pool : DeepSeekRatio4PagePool)
    (ratio128Pool : DeepSeekRatio128PagePool) : Prop where
  result : (transaction.commit ratio4Pool ratio128Pool).2.2.2 = .ok ()
  sound : (transaction.commit ratio4Pool ratio128Pool).1.state ≠ .poisoned
  ratio4 : AllPublished DeepSeekRatio4PagePool.shape
      (transaction.commit ratio4Pool ratio128Pool).2.1.slots
      transaction.ratio4
  ratio128 : AllPublished DeepSeekRatio128PagePool.shape
      (transaction.commit ratio4Pool ratio128Pool).2.2.1.slots
      transaction.ratio128

variable {transaction : DeepSeekAttentionSequenceTransaction}

variable (accepted : transaction.validateCommit ratio4Pool ratio128Pool = .ok ())

include accepted

theorem validateCommit_ok : transaction.fixedBanks.validateCommit = .ok () ∧
      PageMutation.validateAll DeepSeekRatio4PagePool.shape ratio4Pool transaction.ratio4 = .ok () ∧
      PageMutation.validateAll DeepSeekRatio128PagePool.shape ratio128Pool
        transaction.ratio128 = .ok () := by
  unfold validateCommit at accepted
  split at accepted
  · cases accepted
  split at accepted
  · cases accepted
  case h_2 banks =>
    split at accepted
    · cases accepted
    case h_2 pairs => exact ⟨banks, pairs, accepted⟩

/-- What an accepted commit leaves, by how far its two loops came. -/
theorem commit_cases :
    let done := transaction.commit ratio4Pool ratio128Pool
    let pairs := PageMutation.publishAll DeepSeekRatio4PagePool.shape ratio4Pool transaction.ratio4
    let pages :=
      PageMutation.publishAll DeepSeekRatio128PagePool.shape ratio128Pool transaction.ratio128
    (done.2.2.2 = .ok () ∧ pairs.2 = .ok () ∧ pages.2 = .ok () ∧
      done.1.state = .idle ∧ done.2.1 = pairs.1 ∧ done.2.2.1 = pages.1) ∨
    (done.2.2.2 ≠ .ok () ∧ (pairs.2 ≠ .ok () ∨ pages.2 ≠ .ok ()) ∧ done.1.state = .poisoned) := by
  rcases DeepSeekFixedStateBanks.commit_ok (validateCommit_ok accepted).1 with ⟨_, switched⟩
  unfold commit
  rw [accepted]
  dsimp only
  split
  case h_1 pool status failed =>
    rw [failed]
    exact .inr ⟨nofun, .inl nofun, rfl⟩
  case h_2 pool published =>
    rw [published]
    split
    case h_1 pool _ failed =>
      rw [failed]
      exact .inr ⟨nofun, .inr nofun, rfl⟩
    case h_2 done =>
      rw [done, switched]
      exact .inl ⟨rfl, rfl, rfl, rfl, rfl, rfl⟩

end DeepSeekAttentionSequenceTransaction

namespace AttentionTransactions

open PageMutation (sources)

/--
In every interleaving, a commit that was accepted does everything it should
exactly if its copies in each pool are of different pages.
-/
theorem commit_complete_iff_copies_distinct {pairs pages : ℕ} {start state : AttentionTransactions}
    {history : List (Entry AttentionTransactions AttentionOperation
      AttentionOutcome)} (initial : Initial pairs pages start)
    (run : TransactionRun start history state)
    {which : ℕ} {transaction : DeepSeekAttentionSequenceTransaction}
    (found : state.transactions[which]? = some transaction)
    (accepted : transaction.validateCommit state.ratio4Pool state.ratio128Pool = .ok ()) :
    transaction.Commits state.ratio4Pool state.ratio128Pool ↔ (sources transaction.ratio4).Nodup ∧
      (sources transaction.ratio128).Nodup := by
  have books := run.books initial
  have member := mem_of_getElem? found
  rcases DeepSeekAttentionSequenceTransaction.validateCommit_ok accepted with
    ⟨-, pairsValid, pagesValid⟩
  have pairsReady := (PageMutation.validateAll_ok_iff
      DeepSeekRatio4PagePool.shape_lawful).mp pairsValid
  have pagesReady := (PageMutation.validateAll_ok_iff
      DeepSeekRatio128PagePool.shape_lawful).mp pagesValid
  have pairsPublished := publishAll_spec DeepSeekRatio4PagePool.shape_lawful pairsReady
      (books.ratio4.apart (mem_map_of_mem member) pairsReady)
  have pagesPublished := publishAll_spec DeepSeekRatio128PagePool.shape_lawful pagesReady
      (books.ratio128.apart (mem_map_of_mem member) pagesReady)
  rw [← pairsPublished.1, ← pagesPublished.1]
  rcases DeepSeekAttentionSequenceTransaction.commit_cases accepted with
    ⟨result, pairsDone, pagesDone, idle, pairPool, pagePool⟩ |
    ⟨failed, stopped, -⟩
  · refine ⟨fun _ => ⟨pairsDone, pagesDone⟩, fun _ => ⟨result, ?_, ?_, ?_⟩⟩
    · rw [idle]
      exact nofun
    · rw [pairPool]
      exact pairsPublished.2 pairsDone
    · rw [pagePool]
      exact pagesPublished.2 pagesDone
  constructor
  · exact fun commits => (failed commits.result).elim
  · rintro ⟨pairsDone, pagesDone⟩
    rcases stopped with pairs | pages
    · exact (pairs pairsDone).elim
    · exact (pages pagesDone).elim

/-! ## Two runs -/

/-- One sequence, with room for four mutations of each kind. -/
def oneSequence : AttentionTransactions where
  ratio4Pool := { slots := replicate 4 { cells := ⟨.free, .free⟩ }, freeCount := 4 }
  ratio128Pool := { slots := replicate 2 { cells := .free }, freeCount := 2 }
  transactions :=
    [{ sequence := 1
       maximumRatio4Mutations := 4
       maximumRatio128Mutations := 4
       fixedBanks := {} }]

theorem oneSequence_initial : Initial 4 2 oneSequence where
  ratio4 := rfl
  ratio128 := rfl
  transactions := by
    intro transaction member
    rw [mem_singleton.mp member]
    exact ⟨1, 4, 4, {}, rfl⟩

/-- The pair that the first reservation in a slot returns. -/
def firstPair (ordinal layerId logicalPage : ℕ) : DeepSeekRatio4PagePair where
  main := ⟨2 * 2 ^ 56 + ordinal * 2 ^ 32 + 1⟩
  index := ⟨3 * 2 ^ 56 + ordinal * 2 ^ 32 + 1⟩
  identity := ⟨1, layerId, logicalPage⟩
  generation := 1

/-- A transaction over the given reservations, up to its commit. -/
def preparedWith (reservations : List AttentionOperation) : List AttentionOperation :=
  [.begin 0 1 (.ok ())] ++ reservations ++ [.seal 0 1 (.ok ()), .poll 0 (.ok .success) fun _ => 0]

/-- Two pages are published; then pages are reserved on top of them. -/
def reservedAfterTwo (reservations : List AttentionOperation) :
    List (AttentionTransactions → AttentionOperation) :=
  (preparedWith [.reserveRatio4Append 0 0 0, .reserveRatio4Append 0 1 0] ++
    AttentionOperation.commit 0 :: preparedWith reservations).map fun operation _ => operation

/--
Both copies of one page are accepted; the commit publishes the first, stops
at the second and leaves the transaction poisoned.
-/
theorem commit_partial_after_two_copies :
    let script :=
      reservedAfterTwo [.reserveRatio4TailCow 0 (firstPair 0 0 0),
          .reserveRatio4TailCow 0 (firstPair 0 0 0)]
    let reached := (runScript execute [] oneSequence script).2
    TransactionRun oneSequence (runScript execute [] oneSequence script).1 reached ∧
      ∃ transaction ∈ reached.transactions[0]?, transaction.validateCommit reached.ratio4Pool
          reached.ratio128Pool = .ok () ∧
        let done := transaction.commit reached.ratio4Pool reached.ratio128Pool
        done.2.2.2 = .error (.failedPrecondition
          "DeepSeek ratio-4 page pair generation or state is stale") ∧
        done.1.state = .poisoned ∧
        done.2.1.slots.map AttentionPageSlot.cells = [⟨.free, .free⟩, ⟨.published, .published⟩,
            ⟨.published, .published⟩, ⟨.reserved, .reserved⟩] := by
  refine ⟨Run.runScript .start _ (ScriptAllowed.unrestricted _), ?_⟩
  decide +kernel

/-- A commit of two copies of different pages. -/
theorem commit_complete_after_distinct_copies :
    let script :=
      reservedAfterTwo [.reserveRatio4TailCow 0 (firstPair 0 0 0),
        .reserveRatio4TailCow 0 (firstPair 1 1 0)]
    let reached := (runScript execute [] oneSequence script).2
    ∃ transaction ∈ reached.transactions[0]?, (sources transaction.ratio4).length = 2 ∧
      transaction.Commits reached.ratio4Pool reached.ratio128Pool := by
  intro script reached
  have evaluated : ∃ transaction ∈ reached.transactions[0]?,
      transaction.validateCommit reached.ratio4Pool reached.ratio128Pool = .ok () ∧
      (sources transaction.ratio4).length = 2 ∧
      (sources transaction.ratio4).Nodup ∧
      (sources transaction.ratio128).Nodup := by
    decide +kernel
  rcases evaluated with ⟨transaction, found, accepted, two, distinct⟩
  exact ⟨transaction, found, two, (commit_complete_iff_copies_distinct oneSequence_initial
      (Run.runScript .start script (ScriptAllowed.unrestricted script))
      found accepted).mpr distinct⟩

end AttentionTransactions

end Pih
