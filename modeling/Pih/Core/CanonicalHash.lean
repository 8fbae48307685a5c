import Pih.Core.Fips180

/-!
# Canonical hashes

The digest of a plan is the hash of its numbered fields under a domain.  A
builder takes the fields in increasing order and insists on the announced
number of them.  Every caller drops the builder at its first error, so the
functions return the next builder or the error.
-/

namespace Pih

/-- A hasher with the fields it has taken. -/
structure CanonicalHashBuilder where
  hash : Sha256
  expectedFields : ℕ
  addedFields : ℕ
  lastFieldId : ℕ
deriving DecidableEq

namespace CanonicalHashBuilder

/-- The integer fields; their type bytes are 1 and 2. -/
inductive Field where
  | u32 (value : ℕ)
  | u64 (value : ℕ)

def u16Bytes (value : ℕ) : List UInt8 :=
  (List.range 2).map fun index => UInt8.ofNat (value >>> (index * 8))

/-- The type, the length and the payload of a field. -/
def Field.pieces : Field → List (List UInt8)
  | .u32 value => [[1], u64Bytes 4, u32Bytes value]
  | .u64 value => [[2], u64Bytes 8, u64Bytes value]

def validDomain (domain : String) : Bool := !domain.isEmpty && domain.toList.length ≤ 127 &&
    "pih:".toList.isPrefixOf domain.toList &&
    domain.toList.all fun character => 0x20 ≤ character.toNat && character.toNat ≤ 0x7e

def create (domain : String) (fieldCount : ℕ) : Result CanonicalHashBuilder :=
  if validDomain domain then
    match Sha256.fresh.updateAll [asciiBytes domain, [0], u32Bytes fieldCount] with
    | .error status => .error status
    | .ok hash => .ok ⟨hash, fieldCount, 0, 0⟩
  else .error (.invalidArgument "canonical hash domain is invalid")

/-- The source's `add_u32` and `add_u64`. -/
def add (builder : CanonicalHashBuilder) (fieldId : ℕ) (field : Field) :
    Result CanonicalHashBuilder :=
  if fieldId = 0 ∨ fieldId ≤ builder.lastFieldId ∨ builder.expectedFields ≤ builder.addedFields then
    .error (.failedPrecondition "canonical hash field order is invalid")
  else
    match builder.hash.updateAll (u16Bytes fieldId :: field.pieces) with
    | .error status => .error status
    | .ok hash => .ok ⟨hash, builder.expectedFields, builder.addedFields + 1, fieldId⟩

def finalize (builder : CanonicalHashBuilder) : Result Sha256Digest :=
  if builder.addedFields ≠ builder.expectedFields then
    .error (.failedPrecondition "canonical hash object is incomplete")
  else builder.hash.finalize

/-- Add fields under consecutive numbers and finish. -/
def digestFields (builder : CanonicalHashBuilder) (fieldId : ℕ) : List Field → Result Sha256Digest
  | [] => builder.finalize
  | field :: rest =>
    match builder.add fieldId field with
    | .error status => .error status
    | .ok next => next.digestFields (fieldId + 1) rest

theorem digestFields_ok {builder : CanonicalHashBuilder} {fields : List Field}
    (absorbed : builder.hash.Absorbed message) (last : builder.lastFieldId = builder.addedFields)
    (complete : builder.addedFields + fields.length = builder.expectedFields)
    (fits : message.length + 19 * fields.length ≤ u64Max / 8) :
    ∃ digest, builder.digestFields (builder.addedFields + 1) fields = .ok digest := by
  induction fields generalizing builder message with
  | nil =>
    rw [digestFields, finalize, if_neg (by simpa using complete)]
    exact ⟨_, absorbed.finalize⟩
  | cons field _ induction =>
    rw [List.length_cons] at complete fits
    have short : (u16Bytes (builder.addedFields + 1) :: field.pieces).flatten.length ≤ 19 := by
      cases field <;> simp [Field.pieces, u16Bytes, u32Bytes, u64Bytes]
    rcases absorbed.updateAll (by omega : message.length +
      (u16Bytes (builder.addedFields + 1) :: field.pieces).flatten.length ≤ _)
      with ⟨hash, updated, further⟩
    rw [digestFields, add, if_neg (by omega), updated]
    apply @induction _ ⟨hash, _, _, _⟩ further rfl
    · dsimp only
      omega
    · rw [List.length_append]
      omega

/-- A complete object of integer fields always has a digest. -/
theorem create_digestFields_ok {fields : List Field}
    (valid : validDomain domain = true) (fits : fields.length ≤ u32Max) :
    ∃ builder, create domain fields.length = .ok builder ∧
      ∃ digest, builder.digestFields 1 fields = .ok digest := by
  have size : domain.toList.length ≤ 127 := by
    simp only [validDomain, Bool.and_eq_true, decide_eq_true_eq] at valid
    exact valid.1.1.2
  have short : [asciiBytes domain, [0], u32Bytes fields.length].flatten.length ≤ 132 := by
    simp [asciiBytes, u32Bytes]
    omega
  have bound : 132 + 19 * u32Max ≤ u64Max / 8 := by decide
  rcases Sha256.absorbed_fresh.updateAll
      ((Nat.zero_add _).trans_le (short.trans (by omega))) with ⟨hash, updated, absorbed⟩
  refine ⟨⟨hash, fields.length, 0, 0⟩, ?_, ?_⟩
  · rw [create, if_pos valid, updated]
  · apply @digestFields_ok _ _ _ absorbed rfl (Nat.zero_add _)
    rw [List.nil_append]
    omega

end CanonicalHashBuilder

end Pih
