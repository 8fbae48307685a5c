import Pih.Core.CanonicalHash
import Pih.Library.Framing

/-!
# The byte strings of canonical hashes

A canonical hash covers a domain, the announced number of fields and, for each
field, its number, its type, its length and its payload.  The builder accepts
any order of calls and remembers a rejected one: the object is then never
finalised.

`message` keeps the bytes that the hasher has absorbed.  A marked object is
not used again, so what else the failed call has changed is left out.
-/

namespace Pih

open List

/-- The argument of `add_u32`, `add_u64`, `add_bytes`, `add_hash` or `add_ascii_utf8`. -/
inductive HashContent where
  | u32 (value : UInt32)
  | u64 (value : UInt64)
  | bytes (value : List UInt8)
  | hash (value : Sha256Digest)
  | asciiUtf8 (value : List UInt8)

namespace HashContent

def type : HashContent → UInt8
  | .u32 _ => 1
  | .u64 _ => 2
  | .bytes _ => 3
  | .hash _ => 4
  | .asciiUtf8 _ => 5

def payload : HashContent → List UInt8
  | .u32 value => u32Bytes value.toNat
  | .u64 value => u64Bytes value.toNat
  | .bytes value | .asciiUtf8 value => value
  | .hash value => value.bytes

/-- The error of a call that is refused for its argument alone. -/
def rejection : HashContent → Option Status
  | .hash value =>
    if value.nonzero then none
    else some (.invalidArgument "zero hash is not a canonical content digest")
  | .asciiUtf8 value =>
    if value.any fun byte => byte == 0 || byte > 0x7f then
      some (.invalidArgument "canonical UTF-8 requires the NFC implementation")
    else none
  | _ => none

end HashContent

/-- One call that adds a field. -/
structure HashCall where
  fieldId : UInt16
  content : HashContent

namespace HashCall

variable (call : HashCall)

def encoding : UInt16 × UInt8 × List UInt8 :=
  (call.fieldId, call.content.type, call.content.payload)

def header : List (List UInt8) :=
  [CanonicalHashBuilder.u16Bytes call.fieldId.toNat, [call.content.type],
    u64Bytes call.content.payload.length]

def wire : List UInt8 := call.header.flatten ++ call.content.payload

end HashCall

/-- The builder together with what was hashed so far. -/
structure CanonicalHashObject where
  builder : CanonicalHashBuilder
  message : List UInt8
  failed : Bool
  finalized : Bool

namespace CanonicalHashObject

open HashCall

def create (domain : String) (fieldCount : UInt32) : Result CanonicalHashObject := do
  let builder ← CanonicalHashBuilder.create domain fieldCount.toNat
  return ⟨builder, asciiBytes domain ++ 0 :: u32Bytes fieldCount.toNat, false, false⟩

variable (object : CanonicalHashObject) (call : HashCall)

/-- The object with one more field, unless one of the checks fails. -/
def extended : Result CanonicalHashObject :=
  match call.content.rejection with
  | some status => .error status
  | none =>
    if object.failed ∨ object.finalized ∨ call.fieldId = 0 ∨
        call.fieldId.toNat ≤ object.builder.lastFieldId ∨
        object.builder.expectedFields ≤ object.builder.addedFields then
      .error (.failedPrecondition "canonical hash field order is invalid")
    else do
      let hash ← object.builder.hash.updateAll (call.header ++ [call.content.payload])
      return { object with
        builder := ⟨hash, object.builder.expectedFields, object.builder.addedFields + 1,
          call.fieldId.toNat⟩
        message := object.message ++ call.wire }

/-- The five functions that add a field.  Every error marks the object. -/
def add : CanonicalHashObject × Result Unit :=
  match object.extended call with
  | .error status => ({ object with failed := true }, .error status)
  | .ok next => (next, .ok ())

def finalize : CanonicalHashObject × Result Sha256Digest :=
  if object.failed ∨ object.finalized ∨
      object.builder.addedFields ≠ object.builder.expectedFields then
    ({ object with failed := true },
      .error (.failedPrecondition "canonical hash object is incomplete"))
  else ({ object with finalized := true }, object.builder.hash.finalize)

/-- The object after a sequence of calls, and what each of them returned. -/
def addAll (object : CanonicalHashObject) : List HashCall → CanonicalHashObject × List (Result Unit)
  | [] => (object, [])
  | call :: calls =>
    let added := object.add call
    let later := added.1.addAll calls
    (later.1, added.2 :: later.2)

/-- The bytes that were hashed by a sequence of calls that was finalised. -/
def hashed (domain : String) (fieldCount : UInt32) (calls : List HashCall) :
    Result (List UInt8) := do
  let object ← create domain fieldCount
  let _ ← (object.addAll calls).1.finalize.2
  return (object.addAll calls).1.message

variable {object call} {calls others : List HashCall} {domain : String} {fieldCount : UInt32}

/-- What the calls do to an object that has not failed after them. -/
structure Adds (object : CanonicalHashObject) (calls : List HashCall)
    (last : CanonicalHashObject × List (Result Unit)) : Prop where
  running : object.failed = false
  returned : ∀ status ∈ last.2, status = .ok ()
  message : last.1.message = object.message ++ calls.flatMap wire
  absorbed : object.builder.hash.Absorbed object.message →
    last.1.builder.hash.Absorbed last.1.message
  expected : last.1.builder.expectedFields = object.builder.expectedFields
  added : last.1.builder.addedFields = object.builder.addedFields + calls.length

theorem add_running (running : (object.add call).1.failed = false) :
    Adds object [call] ((object.add call).1, [(object.add call).2]) := by
  unfold add at *
  cases made : object.extended call with
  | error => simp [made] at running
  | ok =>
    unfold extended at made
    split at made
    · cases made
    obtain ⟨_, made⟩ := Result.else_eq_ok.mp made
    obtain ⟨_, updated, same⟩ := Result.bind_eq_ok.mp made
    cases same
    have absorbed (start : object.builder.hash.Absorbed object.message) :=
      start.of_updateAll updated
    constructor <;> simp_all [wire]

/-- A run that has not failed at its end has not failed before. -/
theorem addAll_running (running : (object.addAll calls).1.failed = false) :
    Adds object calls (object.addAll calls) := by
  induction calls generalizing object with
  | nil => exact ⟨running, nofun, by simp [addAll], id, rfl, rfl⟩
  | cons _ _ induction =>
    have later := induction running
    have first := add_running later.running
    exact
      { running := first.running
        returned := by simpa [addAll] using ⟨by simpa using first.returned, later.returned⟩
        message := by
          rw [addAll, later.message, first.message]
          simp
        absorbed := later.absorbed ∘ first.absorbed
        expected := later.expected.trans first.expected
        added := by
          have counts := later.added
          rw [first.added] at counts
          simpa [addAll, Nat.add_assoc, Nat.add_comm 1] using counts }

theorem finalize_ok (finalized : object.finalize.2 = .ok digest) :
    object.failed = false ∧ object.builder.addedFields = object.builder.expectedFields ∧
      object.builder.hash.finalize = .ok digest := by
  unfold finalize at finalized
  split_ifs at finalized with incomplete
  · simp_all

theorem create_ok (created : create domain fieldCount = .ok object) :
    CanonicalHashBuilder.validDomain domain = true ∧ object.builder.addedFields = 0 ∧
      object.builder.expectedFields = fieldCount.toNat ∧
      object.message = asciiBytes domain ++ 0 :: u32Bytes fieldCount.toNat ∧
      object.builder.hash.Absorbed object.message := by
  obtain ⟨_, made, same⟩ := Result.bind_eq_ok.mp created
  cases same
  unfold CanonicalHashBuilder.create at made
  split_ifs at made with valid
  split at made
  · cases made
  next updated =>
    cases made
    exact ⟨valid, rfl, rfl, rfl, by simpa using Sha256.absorbed_fresh.of_updateAll updated⟩

/-- What a finalised run has done, and the digest that it returned. -/
theorem finalize_addAll (created : create domain fieldCount = .ok object)
    (finalized : (object.addAll calls).1.finalize.2 = .ok digest) :
    Adds object calls (object.addAll calls) ∧ calls.length = fieldCount.toNat ∧
      (object.addAll calls).1.builder.hash.Absorbed (object.addAll calls).1.message ∧
      digest = Fips180.digest (object.addAll calls).1.message := by
  obtain ⟨running, complete, hash⟩ := finalize_ok finalized
  obtain ⟨_, none, expected, _, start⟩ := create_ok created
  have adds := addAll_running running
  have absorbed := adds.absorbed start
  refine ⟨adds, ?_, absorbed, Except.ok.inj (hash.symm.trans absorbed.finalize)⟩
  rw [adds.added, adds.expected, none, expected, Nat.zero_add] at complete
  exact complete

/-- A run of calls was finalised with the digest of the message. -/
def Digests (domain : String) (fieldCount : UInt32) (calls : List HashCall)
    (message : List UInt8) : Prop :=
  ∃ object, create domain fieldCount = .ok object ∧
    (object.addAll calls).1.builder.hash.Absorbed message ∧
    (object.addAll calls).1.finalize.2 = .ok (Fips180.digest message)

theorem hashed_ok (done : hashed domain fieldCount calls = .ok text) :
    CanonicalHashBuilder.validDomain domain = true ∧ calls.length = fieldCount.toNat ∧
      Digests domain fieldCount calls text ∧ text = asciiBytes domain ++ 0 ::
        (u32Bytes fieldCount.toNat ++ calls.flatMap wire) := by
  obtain ⟨object, created, done⟩ := Result.bind_eq_ok.mp done
  obtain ⟨_, finalized, same⟩ := Result.bind_eq_ok.mp done
  obtain ⟨adds, complete, absorbed, rfl⟩ := finalize_addAll created finalized
  obtain ⟨valid, _, _, start, _⟩ := create_ok created
  cases same
  exact ⟨valid, complete, ⟨object, created, absorbed, finalized⟩, by simp [adds.message, start]⟩

/-- What a hasher has absorbed is short, and so is every payload in it. -/
theorem payload_le {hash : Sha256} (absorbed : hash.Absorbed (asciiBytes domain ++ 0 ::
      (u32Bytes fieldCount.toNat ++ calls.flatMap wire))) :
    ∀ call ∈ calls, call.content.payload.length ≤ u64Max := by
  intro call member
  have whole := absorbed.bound
  have inside := (sublist_flatten_of_mem (mem_map_of_mem (f := wire) member)).length_le
  rw [← flatMap_def, wire, length_append] at inside
  rw [length_append, length_cons, length_append] at whole
  omega

/-- The bytes of a valid domain determine it and contain no terminator. -/
theorem asciiBytes_domain (valid : CanonicalHashBuilder.validDomain domain = true) :
    0 ∉ asciiBytes domain ∧ (asciiBytes domain).map UInt8.toNat = domain.toList.map Char.toNat := by
  have all : ∀ character ∈ domain.toList, 0x20 ≤ character.toNat ∧ character.toNat ≤ 0x7e := by
    simp only [CanonicalHashBuilder.validDomain, Bool.and_eq_true, all_eq_true,
      decide_eq_true_eq] at valid
    exact valid.2
  have value : ∀ character ∈ domain.toList,
      (UInt8.ofNat character.toNat).toNat = character.toNat := by
    intro character member
    have bound := all character member
    rw [UInt8.toNat_ofNat']
    omega
  constructor
  · intro member
    obtain ⟨character, member, zero⟩ := mem_map.mp member
    have low := all character member
    rw [← value character member, zero] at low
    exact absurd low.1 (by decide)
  · simpa [asciiBytes] using value

theorem calls_eq_of_start (same : calls.length = others.length)
    (sized : ∀ call ∈ calls, call.content.payload.length ≤ u64Max)
    (otherSized : ∀ call ∈ others, call.content.payload.length ≤ u64Max)
    (begins : calls.flatMap wire <+: others.flatMap wire) :
    calls.map encoding = others.map encoding := by
  induction calls generalizing others with
  | nil => simp [length_eq_zero_iff.mp same.symm]
  | cons call _ induction =>
    cases others with
    | nil => cases same
    | cons other =>
      simp only [mem_cons, forall_eq_or_imp] at sized otherSized
      simp only [flatMap_cons, wire, append_assoc] at begins
      obtain ⟨headers, begins⟩ := @pieces_eq_of_start _ call.header other.header _ _ rfl begins
      simp only [header, cons.injEq, and_true] at headers
      have id := eq_of_littleEndian call.fieldId.toNat_lt other.fieldId.toNat_lt headers.1
      have length := @eq_of_littleEndian 8 _ _ (Nat.lt_succ_of_le sized.1)
        (Nat.lt_succ_of_le otherSized.1) headers.2.2
      obtain ⟨payload, begins⟩ := piece_eq_of_start length begins
      have later := induction (by simpa using same) sized.2 otherSized.2 begins
      rw [map_cons, map_cons, later, encoding, encoding,
        UInt16.toNat_inj.mp id, headers.2.1, payload]

/-- The bytes that are hashed for one object do not begin those of another one,
and only an object with every announced field and no rejected call is
finalised. -/
theorem canonical_preimages :
    (∀ domain otherDomain fieldCount otherCount calls otherCalls message otherMessage,
      hashed domain fieldCount calls = .ok message →
      hashed otherDomain otherCount otherCalls = .ok otherMessage →
      message <+: otherMessage →
      domain = otherDomain ∧ fieldCount = otherCount ∧
        calls.map HashCall.encoding = otherCalls.map HashCall.encoding) ∧
    (∀ domain fieldCount calls message, hashed domain fieldCount calls = .ok message →
      Digests domain fieldCount calls message) ∧
    ∀ domain fieldCount object calls, create domain fieldCount = .ok object →
      ((∃ status ∈ (object.addAll calls).2, status ≠ .ok ()) ∨ calls.length ≠ fieldCount.toNat) →
      ∀ digest, (object.addAll calls).1.finalize.2 ≠ .ok digest := by
  refine ⟨?_, fun _ _ _ _ done => (hashed_ok done).2.2.1, ?_⟩
  · intro domain otherDomain fieldCount otherCount calls otherCalls message otherMessage
      done otherDone begins
    obtain ⟨valid, complete, ⟨_, _, absorbed, _⟩, rfl⟩ := hashed_ok done
    obtain ⟨otherValid, otherComplete, ⟨_, _, otherAbsorbed, _⟩, rfl⟩ := hashed_ok otherDone
    obtain ⟨free, value⟩ := asciiBytes_domain valid
    obtain ⟨otherFree, otherValue⟩ := asciiBytes_domain otherValid
    obtain ⟨domains, begins⟩ := text_eq_of_start free otherFree begins
    obtain ⟨counts, begins⟩ := piece_eq_of_start (by simp [u32Bytes]) begins
    have count := @eq_of_littleEndian 4 _ _ fieldCount.toNat_lt otherCount.toNat_lt counts
    refine ⟨?_, UInt32.toNat_inj.mp count, ?_⟩
    · rw [domains, otherValue] at value
      have characters := map_injective_iff.mpr (fun _ _ => Char.toNat_inj.mp) value
      exact (String.toList_inj.mp characters).symm
    · exact calls_eq_of_start (by rw [complete, otherComplete, count]) (payload_le absorbed)
        (payload_le otherAbsorbed) begins
  · intro domain fieldCount object calls created wrong digest finalized
    obtain ⟨adds, complete, -⟩ := finalize_addAll created finalized
    rcases wrong with ⟨status, member, failed⟩ | wrong
    · exact failed (adds.returned status member)
    · exact wrong complete

/-- The same bytes under two types are hashed as different strings. -/
theorem canonical_preimages_typed : ∃ message, hashed "pih:a" 1 [⟨3, .bytes [9]⟩] = .ok message ∧
      Digests "pih:a" 1 [⟨3, .bytes [9]⟩] message ∧ ∃ other,
        hashed "pih:a" 1 [⟨3, .asciiUtf8 [9]⟩] = .ok other ∧ ¬ message <+: other := by
  obtain ⟨message, done⟩ : ∃ text, hashed "pih:a" 1 [⟨3, .bytes [9]⟩] = .ok text := ⟨_, rfl⟩
  obtain ⟨other, otherDone⟩ : ∃ text, hashed "pih:a" 1 [⟨3, .asciiUtf8 [9]⟩] = .ok text := ⟨_, rfl⟩
  refine ⟨message, done, canonical_preimages.2.1 _ _ _ _ done, other, otherDone, fun begins => ?_⟩
  have same := (canonical_preimages.1 _ _ _ _ _ _ _ _ done otherDone begins).2.2
  exact absurd same (by decide)

end CanonicalHashObject

end Pih
