import Pih.Scheduler.OutputBurstCreditPool
import Mathlib.Data.List.Perm.Basic

/-!
# The leases that a pool has given out

The owner of a credit pool keeps the leases that it holds.  The account of a
pool lists them with the states of their credits: they name different
credits, and the credits that no lease names are free.
-/

namespace Pih

open List

namespace OutputBurstCreditPool

/-- The leases hold their credits, and none is lost. -/
structure Account (pool : OutputBurstCreditPool) (total : ℕ)
    (held : List (OutputBurstLease × OutputBurstState)) : Prop where
  holds : ∀ entry ∈ held, pool.Holds entry.1 entry.2
  busy : ∀ entry ∈ held, entry.2 ≠ .free
  distinct : (held.map fun entry => entry.1.creditIndex).Nodup
  conserved : pool.available + held.length = total

variable {pool next : OutputBurstCreditPool} {total : ℕ}
  {held : List (OutputBurstLease × OutputBurstState)}

namespace Account

section

variable (account : Account pool total held)

include account

theorem perm (same : held.Perm others) : Account pool total others where
  holds := fun entry member => account.holds entry (same.mem_iff.mpr member)
  busy := fun entry member => account.busy entry (same.mem_iff.mpr member)
  distinct := (same.map _).nodup_iff.mp account.distinct
  conserved := by
    rw [← same.length_eq]
    exact account.conserved

/-- A free credit is not named by a held lease. -/
theorem index_ne_of_free (found : pool.credits[index]? = some credit)
    (free : isFree credit = true) (member : entry ∈ held) : index ≠ entry.1.creditIndex := by
  rintro rfl
  have here := account.holds entry member
  cases Option.some.inj (found.symm.trans here)
  exact account.busy entry member (of_decide_eq_true free)

theorem acquired (taken : Acquired pool next plan lease) :
    Account next total ((lease, .prepared) :: held) := by
  rcases taken.free with ⟨_, found, free⟩
  have apart : ∀ entry ∈ held, lease.creditIndex ≠ entry.1.creditIndex :=
    fun _ member => account.index_ne_of_free found free member
  rw [taken.next_eq]
  constructor
  · intro entry member
    rcases mem_cons.mp member with rfl | member
    · have inside := (List.getElem_of_getElem? found).1
      simp [Holds, setCredit, inside]
    exact (account.holds entry member).setCredit_other _ (apart entry member)
  · intro entry member
    rcases mem_cons.mp member with rfl | member
    · simp
    · exact account.busy entry member
  · rw [map_cons, nodup_cons]
    refine ⟨fun member => ?_, account.distinct⟩
    rcases mem_map.mp member with ⟨entry, inside, same⟩
    exact apart entry inside same.symm
  · have counted := available_setCredit (lease.credit .prepared) found
    have conserved := account.conserved
    rw [free, isFree_credit] at counted
    simp only [if_true, reduceCtorEq, decide_false, if_false] at counted
    rw [length_cons, assign]
    omega

end

/-- The leases besides the first name other credits. -/
theorem rest_apart (account : Account pool total (entry :: rest))
    (member : other ∈ rest) : entry.1.creditIndex ≠ other.1.creditIndex := by
  have distinct := account.distinct
  rw [map_cons, nodup_cons] at distinct
  intro same
  apply distinct.1
  rw [same]
  exact mem_map_of_mem member

theorem moved (account : Account pool total ((lease, source) :: rest)) (busy : target ≠ .free) :
    Account (pool.assign lease target) total ((lease, target) :: rest) := by
  have holds := account.holds _ mem_cons_self
  constructor
  · intro entry member
    rcases mem_cons.mp member with rfl | member
    · exact holds.setCredit_self target
    exact (account.holds entry (mem_cons_of_mem _ member)).setCredit_other _
        (account.rest_apart member)
  · intro entry member
    rcases mem_cons.mp member with rfl | member
    · exact busy
    · exact account.busy entry (mem_cons_of_mem _ member)
  · exact account.distinct
  · have counted := available_setCredit (lease.credit target) holds
    have conserved := account.conserved
    have used : source ≠ .free := account.busy _ mem_cons_self
    rw [isFree_credit, isFree_credit, decide_eq_false used, decide_eq_false busy] at counted
    rw [length_cons] at conserved ⊢
    unfold assign
    simp only [Bool.false_eq_true] at counted
    omega

/-- A lease whose credit becomes free leaves the account. -/
theorem dropped (account : Account pool total ((lease, source) :: rest))
    (free : isFree credit = true) :
    Account (pool.setCredit lease.creditIndex credit) total rest := by
  have holds := account.holds _ mem_cons_self
  constructor
  · intro entry member
    exact (account.holds entry (mem_cons_of_mem _ member)).setCredit_other _
        (account.rest_apart member)
  · exact fun entry member => account.busy entry (mem_cons_of_mem _ member)
  · have distinct := account.distinct
    rw [map_cons, nodup_cons] at distinct
    exact distinct.2
  · have counted := available_setCredit credit holds
    have conserved := account.conserved
    have used : source ≠ .free := account.busy _ mem_cons_self
    rw [isFree_credit, decide_eq_false used, free] at counted
    rw [length_cons] at conserved
    simp only [Bool.false_eq_true, if_false, if_true] at counted
    omega

/-- An acquisition that is taken back leaves the account as it was. -/
theorem undone (account : Account pool total held) (taken : Acquired pool next plan lease) :
    Account (pool.assign lease .free) total held := by
  have after := (account.acquired taken).dropped (isFree_credit lease .free)
  rw [taken.next_eq, assign, setCredit_setCredit] at after
  exact after

end Account

end OutputBurstCreditPool

end Pih
