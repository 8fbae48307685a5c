import Mathlib.Data.Nat.Notation

/-!
# Statuses, results and checked arithmetic

Every fallible function of the runtime returns a status or a result.  A
status that reports success carries no data, so success is `Except.ok` here
and `Status` keeps the error codes only.  Messages are kept: several callers
distinguish two failures of one code by their text alone.

Machine integers are natural numbers.  The two bounds below are the limits at
which the source checks or wraps them.
-/

namespace Pih

/-- The largest value of a 32-bit unsigned integer. -/
def u32Max : ℕ := 4294967295

/-- The largest value of a 64-bit unsigned integer. -/
def u64Max : ℕ := 18446744073709551615

/-- The value of a 64-bit counter after an unchecked increment. -/
def nextU64 (value : ℕ) : ℕ := (value + 1) % (u64Max + 1)

theorem nextU64_of_lt (below : value < u64Max) : nextU64 value = value + 1 :=
  Nat.mod_eq_of_lt (Nat.succ_lt_succ below)

/-- A counter that has not wrapped has grown by one. -/
theorem nextU64_eq_succ (bound : value ≤ u64Max) (nonzero : nextU64 value ≠ 0) :
    nextU64 value = value + 1 := by
  rcases Nat.lt_or_eq_of_le bound with below | equal
  · exact nextU64_of_lt below
  subst equal
  exact (nonzero (Nat.mod_self _)).elim

theorem nextU64_le (value : ℕ) : nextU64 value ≤ u64Max :=
  Nat.le_of_lt_succ (Nat.mod_lt _ (Nat.succ_pos _))

inductive StatusCode where
  | invalidArgument
  | resourceExhausted
  | failedPrecondition
  | internal
  | unavailable
  | deadlineExceeded
deriving DecidableEq, Repr

/-- Why a call failed. -/
structure Status where
  code : StatusCode
  message : String
deriving DecidableEq, Repr

namespace Status

variable (message : String)

@[grind =]
def invalidArgument : Status := ⟨.invalidArgument, message⟩

@[grind =]
def resourceExhausted : Status := ⟨.resourceExhausted, message⟩

@[grind =]
def failedPrecondition : Status := ⟨.failedPrecondition, message⟩

@[grind =]
def internal : Status := ⟨.internal, message⟩

@[grind =]
def unavailable : Status := ⟨.unavailable, message⟩

end Status

/-- A value, or the status that explains its absence. -/
abbrev Result (Value : Type) := Except Status Value

namespace Result

/-- The source's `ok()`. -/
def isOk {Value : Type} : Result Value → Bool
  | .ok _ => true
  | .error _ => false

@[simp]
theorem isOk_ok : isOk (.ok value) = true := rfl

@[simp]
theorem isOk_error : isOk (.error status : Result Value) = false := rfl

theorem isOk_iff {result : Result Value} : result.isOk = true ↔ ∃ value, result = .ok value := by
  cases result <;> simp

/-- A value behind a guard was returned because the guard did not hold. -/
theorem guard_eq_ok {guard : Prop} [Decidable guard] {value result : Value} :
    (if guard then .error status else .ok value : Result Value) =
      .ok result ↔ ¬ guard ∧ result = value := by
  split <;> simp_all [eq_comm]

theorem else_eq_ok {guard : Prop} [Decidable guard] {rest : Result Value} {result : Value} :
    (if guard then .error status else rest) = .ok result ↔ ¬ guard ∧ rest = .ok result := by
  split <;> simp_all

theorem bind_eq_ok {first : Result Value} {rest : Value → Result Next} {result : Next} :
    (first >>= rest) = .ok result ↔ ∃ value, first = .ok value ∧ rest value = .ok result := by
  cases first <;> simp [bind, Except.bind]

end Result

def checkedAddU64 (left right : ℕ) : Result ℕ :=
  if right > u64Max - left then .error (.resourceExhausted "u64 addition overflow")
  else .ok (left + right)

def checkedMulU64 (left right : ℕ) : Result ℕ :=
  if left ≠ 0 ∧ right > u64Max / left then .error (.resourceExhausted "u64 multiplication overflow")
  else .ok (left * right)

theorem checkedMulU64_eq_ok : checkedMulU64 left right = .ok product ↔
      left * right ≤ u64Max ∧ product = left * right := by
  unfold checkedMulU64
  rw [Result.guard_eq_ok]
  rcases Nat.eq_zero_or_pos left with rfl | positive
  · simp
  · rw [not_and, Nat.not_lt, Nat.le_div_iff_mul_le positive, Nat.mul_comm]
    simp [Nat.ne_of_gt positive]

theorem checkedAddU64_eq_ok (low : left ≤ u64Max) : checkedAddU64 left right = .ok sum ↔
      left + right ≤ u64Max ∧ sum = left + right := by
  unfold checkedAddU64
  rw [Result.guard_eq_ok]
  omega

theorem checkedAddU64_ok (added : checkedAddU64 left right = .ok sum) : sum = left + right :=
  (Result.guard_eq_ok.mp added).2

theorem checkedMulU64_ok (multiplied : checkedMulU64 left right = .ok product) :
    product = left * right :=
  (checkedMulU64_eq_ok.mp multiplied).2

theorem checkedAddU64_of_le (fits : left + right ≤ u64Max) :
    checkedAddU64 left right = .ok (left + right) :=
  if_neg (by omega)

end Pih
