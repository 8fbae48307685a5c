import Pih.Core.Status
import Pih.Library.Tables

/-!
# The output burst credit pool

A plan that may publish events first acquires a credit.  The credit is
prepared with the plan, committed with it, transferred to the consumer when
the plan completes and released when the consumer acknowledges it.  A lease
names the credit and repeats its whole identity; every operation compares the
two before it changes the state.
-/

namespace Pih

open List

inductive OutputPlanKind where
  | qwen
  | deepSeek
deriving DecidableEq, Repr

inductive OutputBurstState where
  | free
  | prepared
  | committed
  | transferred
deriving DecidableEq, Repr

structure OutputBurstCreditLimits where
  creditCount : ℕ
  maximumRecordsQwen : ℕ
  maximumRecordsDeepseek : ℕ
  maximumSlotsPerCredit : ℕ
  maximumBytesPerCredit : ℕ
deriving DecidableEq

/-- The right to one credit for one plan. -/
structure OutputBurstLease where
  creditIndex : ℕ
  creditGeneration : ℕ
  planSequence : ℕ
  records : ℕ
  slots : ℕ
  bytes : ℕ
deriving DecidableEq

/-- A credit and the lease that holds it. -/
structure OutputBurstCredit where
  state : OutputBurstState := .free
  generation : ℕ := 0
  planSequence : ℕ := 0
  records : ℕ := 0
  slots : ℕ := 0
  bytes : ℕ := 0
deriving DecidableEq

/-- The credit that a lease describes, in a given state. -/
def OutputBurstLease.credit (lease : OutputBurstLease)
    (state : OutputBurstState) : OutputBurstCredit where
  state := state
  generation := lease.creditGeneration
  planSequence := lease.planSequence
  records := lease.records
  slots := lease.slots
  bytes := lease.bytes

/-- The credits for output bursts. -/
structure OutputBurstCreditPool where
  limits : OutputBurstCreditLimits
  credits : List OutputBurstCredit
deriving DecidableEq

namespace OutputBurstCreditPool

def create (limits : OutputBurstCreditLimits) : Result OutputBurstCreditPool :=
  if limits.creditCount = 0 ∨ limits.maximumRecordsQwen ≠ 1 ∨ limits.maximumRecordsDeepseek ≠ 5 ∨
      limits.maximumSlotsPerCredit = 0 ∨
      limits.maximumBytesPerCredit = 0 then
    .error (.invalidArgument "output burst credit limits are invalid")
  else .ok ⟨limits, replicate limits.creditCount {}⟩

variable (pool : OutputBurstCreditPool) {lease : OutputBurstLease}

def recordLimit : OutputPlanKind → ℕ
  | .qwen => pool.limits.maximumRecordsQwen
  | .deepSeek => pool.limits.maximumRecordsDeepseek

def isFree (credit : OutputBurstCredit) : Bool := credit.state = .free

/-- A credit that is in use by the given plan. -/
def ownedBy (plan : ℕ) (credit : OutputBurstCredit) : Bool :=
  credit.state ≠ .free ∧ credit.planSequence = plan

def setCredit (index : ℕ) (credit : OutputBurstCredit) : OutputBurstCreditPool :=
  { pool with credits := pool.credits.set index credit }

/-- Lease a free credit to a plan that has none. -/
def acquire (plan : ℕ) (kind : OutputPlanKind) (records slots bytes : ℕ) :
    OutputBurstCreditPool × Result OutputBurstLease :=
  if plan = 0 ∨ records > pool.recordLimit kind ∨ slots = 0 ∨
      slots > pool.limits.maximumSlotsPerCredit ∨ bytes = 0 ∨
      bytes > pool.limits.maximumBytesPerCredit then
    (pool, .error (.invalidArgument "output burst request exceeds its envelope"))
  else if pool.credits.any (ownedBy plan) then
    (pool, .error (.failedPrecondition "plan already owns an output burst credit"))
  else
    match pool.credits.findIdx? isFree with
    | none => (pool, .error (.resourceExhausted "output burst credits are exhausted"))
    | some index =>
      let generation := (pool.credits.getD index {}).generation
      if generation = u64Max then
        (pool, .error (.failedPrecondition "output burst generation wrapped"))
      else
        let lease : OutputBurstLease :=
          { creditIndex := index
            creditGeneration := generation + 1
            planSequence := plan
            records
            slots
            bytes }
        (pool.setCredit index (lease.credit .prepared), .ok lease)

section

variable (lease : OutputBurstLease)

def validate (state : OutputBurstState) : Result Unit :=
  match pool.credits[lease.creditIndex]? with
  | none => .error (.failedPrecondition "output burst lease is stale")
  | some credit =>
    if credit ≠ lease.credit state then
      .error (.failedPrecondition "output burst lease identity drifted")
    else .ok ()

def validateCommit : Result Unit := pool.validate lease .prepared

def validateAbort : Result Unit := pool.validate lease .prepared

def validateTransfer : Result Unit := pool.validate lease .committed

/-- Move the credit of a lease between two states, if it is in the first. -/
def move (source target : OutputBurstState) : OutputBurstCreditPool × Result Unit :=
  match pool.validate lease source with
  | .error status => (pool, .error status)
  | .ok () => (pool.setCredit lease.creditIndex (lease.credit target), .ok ())

def commit : OutputBurstCreditPool × Result Unit := pool.move lease .prepared .committed

def abort : OutputBurstCreditPool × Result Unit := pool.move lease .prepared .free

def transfer : OutputBurstCreditPool × Result Unit := pool.move lease .committed .transferred

/-- Unlike an abort, a release also erases the identity of the credit. -/
def release : OutputBurstCreditPool × Result Unit :=
  match pool.validate lease .transferred with
  | .error status => (pool, .error status)
  | .ok () =>
    (pool.setCredit lease.creditIndex
      { generation := lease.creditGeneration }, .ok ())

end

def available : ℕ := pool.credits.countP isFree

/-! ## What the operations do -/

/-- The pool holds exactly the credit of the lease, in the given state. -/
def Holds (lease : OutputBurstLease) (state : OutputBurstState) : Prop :=
  pool.credits[lease.creditIndex]? = some (lease.credit state)

instance (pool : OutputBurstCreditPool) (lease : OutputBurstLease)
    (state : OutputBurstState) : Decidable (pool.Holds lease state) :=
  inferInstanceAs (Decidable (_ = _))

/-- The pool with the credit of the lease in the given state. -/
abbrev assign (lease : OutputBurstLease) (state : OutputBurstState) : OutputBurstCreditPool :=
  pool.setCredit lease.creditIndex (lease.credit state)

theorem validate_ok_iff (lease : OutputBurstLease) (state : OutputBurstState) :
    pool.validate lease state = .ok () ↔ pool.Holds lease state := by
  unfold validate Holds
  split
  case h_1 missing => simp [missing]
  case h_2 found => simp [found]

theorem validate_cases (lease : OutputBurstLease) (state : OutputBurstState) :
    (pool.validate lease state = .ok () ∧ pool.Holds lease state) ∨
      (∃ status, pool.validate lease state = .error status) ∧ ¬ pool.Holds lease state := by
  cases validated : pool.validate lease state with
  | ok => exact .inl ⟨rfl, (pool.validate_ok_iff lease state).mp validated⟩
  | error status =>
    refine .inr ⟨⟨status, rfl⟩, fun holds => ?_⟩
    rw [(pool.validate_ok_iff lease state).mpr holds] at validated
    cases validated

variable {pool : OutputBurstCreditPool}

theorem Holds.unique (holdsFirst : pool.Holds lease first)
    (holdsSecond : pool.Holds lease second) : first = second := by
  have equal := holdsFirst.symm.trans holdsSecond
  exact congrArg OutputBurstCredit.state (Option.some.inj equal)

theorem move_of_holds (target : OutputBurstState)
    (holds : pool.Holds lease source) :
    pool.move lease source target =
      (pool.assign lease target, .ok ()) := by
  simp only [move, (pool.validate_ok_iff lease source).mpr holds]

theorem release_of_holds (holds : pool.Holds lease .transferred) :
    pool.release lease = (pool.setCredit lease.creditIndex
      { generation := lease.creditGeneration }, .ok ()) := by
  simp only [release, (pool.validate_ok_iff lease _).mpr holds]

theorem setCredit_setCredit (index : ℕ) (first second : OutputBurstCredit) :
    (pool.setCredit index first).setCredit index second = pool.setCredit index second := by
  simp [setCredit]

theorem Holds.setCredit_self
    (target : OutputBurstState) (holds : pool.Holds lease source) :
    (pool.assign lease target).Holds
      lease target := by
  obtain ⟨inside, -⟩ := List.getElem_of_getElem? holds
  simp [Holds, setCredit, inside]

/-- Leases of different plans are held in different credits. -/
theorem Holds.index_ne
    (holds : pool.Holds lease first) (holdsOther : pool.Holds other second)
    (different : lease.planSequence ≠ other.planSequence) :
    lease.creditIndex ≠ other.creditIndex := by
  intro same
  unfold Holds at holds
  rw [same] at holds
  have equal := Option.some.inj (holds.symm.trans holdsOther)
  exact different (congrArg OutputBurstCredit.planSequence equal)

/-- Changing one credit keeps what the pool holds for every other lease. -/
theorem Holds.setCredit_other
    (credit : OutputBurstCredit) (holds : pool.Holds lease state)
    (other : index ≠ lease.creditIndex) : (pool.setCredit index credit).Holds lease state := by
  unfold Holds setCredit
  rw [getElem?_set_ne other]
  exact holds

theorem isFree_credit (lease : OutputBurstLease) (state : OutputBurstState) :
    isFree (lease.credit state) = decide (state = .free) := rfl

/-- How changing one credit changes the number of free credits. -/
theorem available_setCredit
    (new : OutputBurstCredit) (found : pool.credits[index]? = some old) :
    (pool.setCredit index new).available + (if isFree old then 1 else 0) =
      pool.available + (if isFree new then 1 else 0) :=
  countP_set_add isFree new found

/-- What a successful acquisition found and did. -/
structure Acquired (pool next : OutputBurstCreditPool) (plan : ℕ)
    (lease : OutputBurstLease) : Prop where
  nonzero : plan ≠ 0
  planSequence : lease.planSequence = plan
  unowned : ∀ credit ∈ pool.credits, credit.state ≠ .free → credit.planSequence ≠ plan
  free : ∃ credit, pool.credits[lease.creditIndex]? = some credit ∧ isFree credit = true
  next_eq : next = pool.assign lease .prepared

theorem acquire_cases (plan : ℕ) (kind : OutputPlanKind) (records slots bytes : ℕ) :
    (∃ status, pool.acquire plan kind records slots bytes = (pool, .error status)) ∨
      ∃ next lease, pool.acquire plan kind records slots bytes =
        (next, .ok lease) ∧ Acquired pool next plan lease := by
  unfold acquire
  split
  · exact .inl ⟨_, rfl⟩
  rename_i envelope
  split
  · exact .inl ⟨_, rfl⟩
  rename_i unowned
  split
  · exact .inl ⟨_, rfl⟩
  rename_i found
  dsimp only
  split
  · exact .inl ⟨_, rfl⟩
  refine .inr ⟨_, _, rfl, ?_⟩
  obtain ⟨inside, free, -⟩ := findIdx?_eq_some_iff_getElem.mp found
  exact
    { nonzero := fun zero => envelope (.inl zero)
      planSequence := rfl
      unowned := by
        intro credit member used same
        apply unowned
        rw [any_eq_true]
        exact ⟨credit, member, by simp [ownedBy, used, same]⟩
      free := ⟨_, getElem?_eq_getElem inside, free⟩
      next_eq := rfl }

end OutputBurstCreditPool

end Pih
