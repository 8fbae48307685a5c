import Mathlib.Algebra.BigOperators.Group.List.Basic
import Pih.Core.Sha256
import Pih.Library.Tilings

/-!
# Safetensors headers

The header of a safetensors file is a JSON object that gives every tensor a
type, a shape and a range of the data behind it.  A header is accepted when
each range has the size of its tensor and the ranges, sorted by their
beginning, follow each other from the end of the header to the end of the
file.  The sort compares nothing but beginnings, so an empty tensor can come
to stand behind the tensor that begins at the same offset.
-/

namespace Pih

open List

/-- A JSON document; the value of a fractional number is not read here. -/
inductive JsonValue where
  | null
  | boolean (value : Bool)
  | integer (value : ℤ)
  | number
  | string (value : String)
  | array (values : List JsonValue)
  | object (members : List (String × JsonValue))

structure JsonLimits where
  maxInputBytes : ℕ := 16 * 1024 * 1024
  maxDepth : ℕ := 64
  maxNodes : ℕ := 65536
  maxStringBytes : ℕ := 1024 * 1024

namespace JsonValue

def isObject : JsonValue → Bool
  | .object _ => true
  | _ => false

def members : JsonValue → List (String × JsonValue)
  | .object members => members
  | _ => []

/-- The source's `at`. -/
def valueAt (value : JsonValue) (key : String) : Option JsonValue :=
  (value.members.find? fun member => member.1 = key).map Prod.snd

end JsonValue

inductive DType where
  | float32
  | float16
  | bfloat16
  | int8
  | uint8
  | int32
  | int64
  | bool
  | float8E4M3
  | float8E8M0
  | float64
  | uint32
deriving DecidableEq, Repr

def DType.size : DType → ℕ
  | .float32 | .int32 | .uint32 => 4
  | .float16 | .bfloat16 => 2
  | .int64 | .float64 => 8
  | .int8 | .uint8 | .bool | .float8E4M3 | .float8E8M0 => 1

/-- A tensor and its range of the data. -/
structure SafetensorRecord where
  name : String
  dtype : DType
  shape : List ℕ
  fileBegin : ℕ
  fileEnd : ℕ
deriving DecidableEq, Repr

def SafetensorRecord.range (record : SafetensorRecord) : ℕ × ℕ := (record.fileBegin, record.fileEnd)

/-- The records of an accepted header. -/
structure SafetensorsHeader where
  headerBytes : ℕ
  dataBytes : ℕ
  tensors : List SafetensorRecord
deriving DecidableEq, Repr

namespace SafetensorsHeader

def kMaxHeaderBytes : ℕ := 16 * 1024 * 1024

def kMaxTensorCount : ℕ := 4096

def kMaxTensorNameBytes : ℕ := 512

def kMaxRank : ℕ := 8

/-! ## The parser -/

def parseDtype : String → Result DType
  | "F32" => .ok .float32
  | "F16" => .ok .float16
  | "BF16" => .ok .bfloat16
  | "I8" => .ok .int8
  | "U8" => .ok .uint8
  | "F8_E4M3" => .ok .float8E4M3
  | "F8_E8M0" => .ok .float8E8M0
  | "I32" => .ok .int32
  | "I64" => .ok .int64
  | "BOOL" => .ok .bool
  | _ => .error (.invalidArgument "unsupported Safetensors dtype")

def nonnegativeInteger (value : JsonValue) (field : String) : Result ℕ :=
  match value with
  | .integer (.ofNat number) => .ok number
  | _ => .error (.invalidArgument (field ++ " must be nonnegative integer"))

/-- The dimensions, and the product of the elements so far with them. -/
def parseShape : ℕ → List JsonValue → Result (List ℕ × ℕ)
  | elements, [] => .ok ([], elements)
  | elements, dimension :: rest => do
    let parsed ← nonnegativeInteger dimension "shape dimension"
    let product ← checkedMulU64 elements parsed
    let (shape, total) ← parseShape product rest
    return (parsed :: shape, total)

/-- The record of three fields of the right kinds. -/
def parseFields (name : String) (dataStart : ℕ) (dtype : String)
    (dimensions : List JsonValue) (low high : JsonValue) :
    Result SafetensorRecord := do
  let dtype ← parseDtype dtype
  if kMaxRank < dimensions.length then
    .error (.invalidArgument "Safetensors tensor rank exceeds limit")
  else
    let (shape, elements) ← parseShape 1 dimensions
    let low ← nonnegativeInteger low "data offset"
    let high ← nonnegativeInteger high "data offset"
    if high < low then .error (.invalidArgument "Safetensors offsets are reversed")
    else
      let expected ← checkedMulU64 elements dtype.size
      if high - low ≠ expected then
        .error (.invalidArgument "Safetensors tensor byte count mismatches shape")
      else
        let fileBegin ← checkedAddU64 dataStart low
        let fileEnd ← checkedAddU64 dataStart high
        return ⟨name, dtype, shape, fileBegin, fileEnd⟩

/-- A member of the header as a record. -/
def parseRecord (name : String) (value : JsonValue) (dataStart : ℕ) : Result SafetensorRecord :=
  if name = "" ∨ kMaxTensorNameBytes < name.utf8ByteSize then
    .error (.invalidArgument "Safetensors tensor name is invalid")
  else if value.isObject = false ∨ value.members.length ≠ 3 then
    .error (.invalidArgument "Safetensors tensor record must have three fields")
  else
    match value.valueAt "dtype", value.valueAt "shape", value.valueAt "data_offsets" with
    | some (.string dtype), some (.array dimensions), some (.array [low, high]) =>
      parseFields name dataStart dtype dimensions low high
    | _, _, _ => .error (.invalidArgument "Safetensors tensor record fields are invalid")

/-- The loop over the members of the header. -/
def parseRecords (dataStart : ℕ) : List SafetensorRecord → List (String × JsonValue) →
      Result (List SafetensorRecord)
  | records, [] => .ok records
  | records, (name, value) :: rest =>
    if name = "__metadata__" then
      if value.isObject = false then
        .error (.invalidArgument "Safetensors metadata must be an object")
      else parseRecords dataStart records rest
    else if records.length = kMaxTensorCount then
      .error (.resourceExhausted "Safetensors tensor count exceeds budget")
    else do
      let record ← parseRecord name value dataStart
      parseRecords dataStart (records ++ [record]) rest

/-- The scan of the sorted records. -/
def scanRanges (fileBytes : ℕ) : ℕ → List SafetensorRecord → Result Unit
  | cursor, [] =>
    if cursor ≠ fileBytes then
      .error (.invalidArgument "Safetensors data ranges do not cover the file")
    else .ok ()
  | cursor, record :: rest =>
    if record.fileBegin ≠ cursor then
      .error (.invalidArgument "Safetensors data ranges overlap or contain a gap")
    else scanRanges fileBytes record.fileEnd rest

/-- The length prefix and the text of the header. -/
def readHeader (bytes : List UInt8) (fileBytes : ℕ) : Result (ℕ × List UInt8) :=
  if bytes.length < 8 ∨ fileBytes < 8 then
    .error (.invalidArgument "Safetensors file is shorter than length prefix")
  else
    let headerBytes := (bytes.take 8).foldr
      (fun byte total => byte.toNat + 256 * total) 0
    if headerBytes = 0 ∨ kMaxHeaderBytes < headerBytes then
      .error (.resourceExhausted "Safetensors header length is outside budget")
    else do
      let dataStart ← checkedAddU64 8 headerBytes
      if fileBytes < dataStart ∨ bytes.length < dataStart then
        .error (.invalidArgument "Safetensors header is truncated")
      else return (headerBytes, (bytes.drop 8).take headerBytes)

def jsonLimits : JsonLimits where
  maxInputBytes := kMaxHeaderBytes
  maxDepth := 16
  maxNodes := 65536
  maxStringBytes := kMaxTensorNameBytes

/-- The checks of a header whose JSON text was parsed. -/
def parseMembers (sort : List SafetensorRecord → List SafetensorRecord)
    (headerBytes fileBytes : ℕ) (members : List (String × JsonValue)) :
    Result SafetensorsHeader := do
  let dataStart := 8 + headerBytes
  let records ← parseRecords dataStart [] members
  if records = [] then .error (.invalidArgument "Safetensors header has no tensors")
  else
    scanRanges fileBytes dataStart (sort records)
    return ⟨headerBytes, fileBytes - dataStart, records⟩

/--
`ParsePrefix` with the bounded JSON parser and the sort of the records by
their beginning, which leaves the order of equal beginnings open.
-/
def parsePrefix (parse : JsonLimits → List UInt8 → Result JsonValue)
    (sort : List SafetensorRecord → List SafetensorRecord)
    (bytes : List UInt8) (fileBytes : ℕ) : Result SafetensorsHeader := do
  let (headerBytes, text) ← readHeader bytes fileBytes
  match ← parse jsonLimits text with
  | .object members => parseMembers sort headerBytes fileBytes members
  | _ => .error (.invalidArgument "Safetensors header root must be an object")

/-! ## What a header describes -/

/-- The limits that the parser sets to a member. -/
structure WithinLimits (member : String × JsonValue) : Prop where
  name : member.1 ≠ "" ∧ member.1.utf8ByteSize ≤ kMaxTensorNameBytes
  fields : member.2.isObject = true ∧ member.2.members.length = 3
  rank : ∀ dimensions, member.2.valueAt "shape" = some (.array dimensions) →
    dimensions.length ≤ kMaxRank

/-- A member of the header describes a tensor with a range of its size. -/
structure Describes (dataStart : ℕ) (member : String × JsonValue)
    (record : SafetensorRecord) : Prop where
  name : record.name = member.1
  dtype : ∃ text, member.2.valueAt "dtype" = some (.string text) ∧
      parseDtype text = .ok record.dtype
  shape : member.2.valueAt "shape" = some (.array (record.shape.map fun size : ℕ => .integer size))
  offsets : ∃ low high : ℕ, member.2.valueAt "data_offsets" =
        some (.array [.integer low, .integer high]) ∧
      record.range = (dataStart + low, dataStart + high)
  fits : ∀ initial, initial <+: record.shape → initial.prod ≤ u64Max
  size : record.fileEnd = record.fileBegin + record.shape.prod * record.dtype.size
  bounded : record.shape.prod * record.dtype.size ≤ u64Max ∧ record.fileEnd ≤ u64Max

/-- The members other than the metadata. -/
def tensorMembers (members : List (String × JsonValue)) : List (String × JsonValue) :=
  members.filter fun member => member.1 ≠ "__metadata__"

/-- The tensors are the records, whose ranges tile the data in some order. -/
structure Tiled (dataStart fileBytes : ℕ) (members : List (String × JsonValue))
    (records : List SafetensorRecord) : Prop where
  described : List.Forall₂ (Describes dataStart) (tensorMembers members) records
  tiles : ∃ order, order.Perm (records.map SafetensorRecord.range) ∧ Tiles dataStart fileBytes order

/--
The header keeps the limits of the parser, and the sort leaves no empty
tensor behind another one that begins at the same offset.
-/
structure Kept (sort : List SafetensorRecord → List SafetensorRecord)
    (members : List (String × JsonValue))
    (records : List SafetensorRecord) : Prop where
  metadata : ∀ member ∈ members, member.1 = "__metadata__" → member.2.isObject = true
  limits : ∀ member ∈ tensorMembers members, WithinLimits member
  count : records ≠ [] ∧ records.length ≤ kMaxTensorCount
  emptyFirst : EmptyFirst ((sort records).map SafetensorRecord.range)

/-- A sort of the records by their beginning. -/
structure Sorts (sort : List SafetensorRecord → List SafetensorRecord) : Prop where
  perm : ∀ records, (sort records).Perm records
  sorted : ∀ records, (sort records).Pairwise fun early late => early.fileBegin ≤ late.fileBegin

/-! ## What the parser accepts -/

theorem nonnegativeInteger_eq_ok :
    nonnegativeInteger value field = .ok number ↔ value = .integer number := by
  unfold nonnegativeInteger
  split
  case h_1 other =>
    simp only [Except.ok.injEq, JsonValue.integer.injEq]
    exact Int.ofNat_inj.symm
  case h_2 other =>
    simp only [reduceCtorEq, false_iff]
    rintro rfl
    exact other number rfl

theorem parseShape_eq_ok (low : elements ≤ u64Max) :
    parseShape elements dimensions = .ok (shape, total) ↔
      dimensions = (shape.map fun size => .integer size) ∧ total = elements * shape.prod ∧
        ∀ initial, initial <+: shape → elements * initial.prod ≤ u64Max := by
  induction dimensions generalizing elements shape total with
  | nil =>
    cases shape with
    | nil => simp [parseShape, low, eq_comm]
    | cons => simp [parseShape]
  | cons _ _ induction =>
    simp only [parseShape, Result.bind_eq_ok, nonnegativeInteger_eq_ok,
      checkedMulU64_eq_ok, Prod.exists]
    constructor
    · rintro ⟨size, rfl, -, ⟨fits, rfl⟩, _, _, parsed, done⟩
      cases done
      obtain ⟨rfl, rfl, all⟩ := (induction fits).mp parsed
      refine ⟨rfl, by rw [prod_cons, Nat.mul_assoc], ?_⟩
      intro initial within
      rcases prefix_cons_iff.mp within with rfl | ⟨shorter, rfl, inside⟩
      · simpa using low
      · rw [prod_cons, ← Nat.mul_assoc]
        exact all shorter inside
    · rintro ⟨listed, rfl, all⟩
      cases shape with
      | nil => cases listed
      | cons size shape =>
        cases listed
        have fits := all [size] (by simp)
        rw [prod_singleton] at fits
        refine ⟨size, rfl, _, ⟨fits, rfl⟩, shape, _, (induction fits).mpr
          ⟨rfl, rfl, ?_⟩, by rw [Nat.mul_assoc]; rfl⟩
        intro initial within
        rw [Nat.mul_assoc]
        exact all _ (prefix_cons_inj size |>.mpr within)

theorem parseRecord_eq_ok (low : dataStart ≤ u64Max) :
    parseRecord name value dataStart = .ok record ↔ WithinLimits (name, value) ∧
      Describes dataStart (name, value) record := by
  have one : 1 ≤ u64Max := by decide
  unfold parseRecord
  simp only [Result.else_eq_ok, not_or, Nat.not_lt]
  constructor
  · rintro ⟨named, ⟨object, three⟩, parsed⟩
    split at parsed
    case h_2 => cases parsed
    rename_i text dimensions _ _ dtype shape offsets
    simp only [parseFields, Result.bind_eq_ok, Result.else_eq_ok,
      nonnegativeInteger_eq_ok, checkedMulU64_eq_ok,
      checkedAddU64_eq_ok low, parseShape_eq_ok one, Prod.exists, Nat.one_mul, not_not] at parsed
    obtain ⟨dtype, known, rank, _, _, ⟨rfl, rfl, fits⟩, start, rfl,
      stop, rfl, _, _, ⟨small, rfl⟩, size, _, ⟨_, rfl⟩, _,
      ⟨bounded, rfl⟩, done⟩ := parsed
    cases done
    refine ⟨⟨named, ⟨by simpa using object, by simpa using three⟩, ?_⟩,
      rfl, ⟨text, ‹_›, known⟩, shape, ⟨start, stop, offsets, rfl⟩, fits,
      ?_, small, bounded⟩
    · intro dimensions listed
      cases shape.symm.trans listed
      simpa using rank
    dsimp only
    omega
  · rintro ⟨limits, described⟩
    obtain ⟨_, dtype, known⟩ := described.dtype
    obtain ⟨start, stop, offsets, place⟩ := described.offsets
    obtain ⟨begins, ends⟩ := Prod.mk.inj place
    have named : record.name = name := described.name
    have size := described.size
    have bounded := described.bounded
    refine ⟨limits.name, by simpa using limits.fields, ?_⟩
    rw [dtype, described.shape, offsets]
    simp only [parseFields, Result.bind_eq_ok, Result.else_eq_ok, checkedMulU64_eq_ok,
      checkedAddU64_eq_ok low, parseShape_eq_ok one, Prod.exists, Nat.one_mul, Nat.not_lt]
    refine ⟨_, known, limits.rank _ described.shape,
      _, _, ⟨rfl, rfl, described.fits⟩, start, rfl, stop, rfl,
      by omega, _, ⟨bounded.1, rfl⟩, by omega, _, ⟨by omega, rfl⟩, _,
      ⟨by omega, rfl⟩, ?_⟩
    rw [← begins, ← ends, ← named]
    rfl

/-- The loop reads the remaining members behind the records so far. -/
theorem parseRecords_eq_ok (low : dataStart ≤ u64Max) (few : earlier.length ≤ kMaxTensorCount) :
    parseRecords dataStart earlier members = .ok records ↔ ∃ later, records = earlier ++ later ∧
      (∀ member ∈ members, member.1 = "__metadata__" → member.2.isObject = true) ∧
      List.Forall₂ (fun member record => WithinLimits member ∧
        Describes dataStart member record) (tensorMembers members) later ∧
      records.length ≤ kMaxTensorCount := by
  unfold tensorMembers
  induction members generalizing earlier with
  | nil =>
    simp only [parseRecords, Except.ok.injEq, filter_nil, forall₂_nil_left_iff]
    constructor
    · rintro rfl
      exact ⟨[], by simp [few]⟩
    · rintro ⟨later, rfl, -, rfl, -⟩
      simp
  | cons member _ induction =>
    rcases member with ⟨_, _⟩
    unfold parseRecords
    split
    case isTrue metadata =>
      rw [Result.else_eq_ok, induction few]
      simp only [forall_mem_cons, metadata, forall_const, Bool.not_eq_false]
      constructor
      · rintro ⟨object, later, rfl, others, tensors⟩
        exact ⟨later, rfl, ⟨object, others⟩, tensors⟩
      · rintro ⟨later, rfl, ⟨object, others⟩, tensors⟩
        exact ⟨object, later, rfl, others, tensors⟩
    rename_i tensor
    rw [Result.else_eq_ok, Result.bind_eq_ok, filter_cons_of_pos (by simpa)]
    simp only [forall_mem_cons, tensor, false_implies, true_and,
      parseRecord_eq_ok low, forall₂_cons_left_iff]
    constructor
    · rintro ⟨_, record, described, parsed⟩
      have next : (earlier ++ [record]).length ≤ kMaxTensorCount := by
        rw [length_append, length_singleton]
        omega
      obtain ⟨later, rfl, others, tensors, count⟩ := (induction next).mp parsed
      exact ⟨_, by simp, others, ⟨record, later, described, tensors, rfl⟩, count⟩
    · rintro ⟨-, rfl, others, ⟨record, later, described, tensors, rfl⟩, count⟩
      have size := count
      rw [length_append, length_cons] at size
      have next : (earlier ++ [record]).length ≤ kMaxTensorCount := by
        rw [length_append, length_singleton]
        omega
      exact ⟨by omega, record, described, (induction next).mpr
        ⟨later, by simp, others, tensors, count⟩⟩

theorem scanRanges_eq_ok : scanRanges fileBytes cursor records = .ok () ↔
      Tiles cursor fileBytes (records.map SafetensorRecord.range) := by
  induction records generalizing cursor with
  | nil => simp [scanRanges, Tiles]
  | cons _ _ induction =>
    rw [scanRanges, Result.else_eq_ok, not_not, induction]
    rfl

section Accepted

variable {headerBytes : ℕ}

theorem scan_iff (sorts : Sorts sort)
    (tensors : List.Forall₂ (Describes dataStart) members records) :
    scanRanges fileBytes dataStart (sort records) = .ok () ↔
      EmptyFirst ((sort records).map SafetensorRecord.range) ∧
        ∃ order, order.Perm (records.map SafetensorRecord.range) ∧
          Tiles dataStart fileBytes order := by
  have perm := sorts.perm records
  have upward : ∀ record ∈ records, record.fileBegin ≤ record.fileEnd := by
    clear perm
    induction tensors with
    | nil => simp
    | cons described _ induction =>
      rw [forall_mem_cons]
      exact ⟨described.size ▸ Nat.le_add_right _ _, induction⟩
  rw [scanRanges_eq_ok, tiles_iff_of_sorted]
  · simp only [(perm.map SafetensorRecord.range).congr_right]
  · simp only [forall_mem_map, perm.mem_iff]
    exact upward
  · exact pairwise_map.mpr (sorts.sorted records)

theorem parseMembers_isOk (sorts : Sorts sort) (low : 8 + headerBytes ≤ u64Max) :
    (parseMembers sort headerBytes fileBytes members).isOk = true ↔
      ∃ records, Tiled (8 + headerBytes) fileBytes members records ∧ Kept sort members records := by
  have none : ([] : List SafetensorRecord).length ≤ kMaxTensorCount := Nat.zero_le _
  rw [Result.isOk_iff]
  simp only [parseMembers, Result.bind_eq_ok, Result.else_eq_ok,
    parseRecords_eq_ok low none, forall₂_and_left]
  constructor
  · rintro ⟨_, records, ⟨_, rfl, metadata, ⟨limits, described⟩, count⟩, some, _, scanned, -⟩
    have found := (scan_iff sorts described).mp scanned
    exact ⟨records, ⟨described, found.2⟩, metadata, limits, ⟨some, count⟩, found.1⟩
  · rintro ⟨records, tiled, kept⟩
    exact ⟨_, records, ⟨records, rfl, kept.metadata,
        ⟨kept.limits, tiled.described⟩, kept.count.2⟩, kept.count.1, (),
      (scan_iff sorts tiled.described).mpr ⟨kept.emptyFirst, tiled.tiles⟩, rfl⟩

theorem readHeader_low (read : readHeader bytes fileBytes = .ok (headerBytes, text)) :
    8 + headerBytes ≤ u64Max := by
  simp only [readHeader, Result.else_eq_ok, Result.bind_eq_ok, not_or, Nat.not_lt] at read
  obtain ⟨-, ⟨-, within⟩, _, -, -, done⟩ := read
  cases done
  exact Nat.le_trans (Nat.add_le_add_left within 8) (by decide)

end Accepted

/--
A header is accepted exactly when its tensors are described completely and
their ranges tile the data in some order, on the inputs that keep the limits
of the parser and for which the sort leaves no empty tensor behind another
one that begins at the same offset.
-/
theorem safetensors_accepted_iff_tiled_iff_kept {parse : JsonLimits → List UInt8 → Result JsonValue}
    {sort : List SafetensorRecord → List SafetensorRecord}
    (sorts : Sorts sort) {bytes text : List UInt8}
    {headerBytes fileBytes : ℕ} {members : List (String × JsonValue)}
    (read : readHeader bytes fileBytes = .ok (headerBytes, text))
    (parsed : parse jsonLimits text = .ok (.object members)) :
    ((parsePrefix parse sort bytes fileBytes).isOk = true ↔
      ∃ records, Tiled (8 + headerBytes) fileBytes members records) ↔
    ((∃ records, Tiled (8 + headerBytes) fileBytes members records) →
      ∃ records, Tiled (8 + headerBytes) fileBytes members records ∧
        Kept sort members records) := by
  have same : parsePrefix parse sort bytes fileBytes =
      parseMembers sort headerBytes fileBytes members := by
    unfold parsePrefix
    rw [read]
    dsimp only [bind, Except.bind]
    rw [parsed]
  rw [same, parseMembers_isOk sorts (readHeader_low read)]
  constructor
  · intro agree tiled
    exact agree.mpr tiled
  · intro keeps
    constructor
    · rintro ⟨records, tiled, -⟩
      exact ⟨records, tiled⟩
    · exact keeps

/-- Two tensors at the first offset, in the order of their names. -/
def twoTensors (first second : ℕ) : List (String × JsonValue) :=
  let tensor (size : ℕ) : JsonValue :=
    .object [ ("data_offsets", .array [.integer 0, .integer size]),
        ("dtype", .string "U8"), ("shape", .array [.integer size]) ]
  [("a", tensor first), ("b", tensor second)]

/-- The JSON text of these tensors. -/
def twoText (first second : ℕ) : List UInt8 :=
  let tensor (size : ℕ) : String := "\x7b\"dtype\":\"U8\",\"shape\":[" ++ toString size ++
    "],\"data_offsets\":[0," ++ toString size ++ "]\x7d"
  asciiBytes ("\x7b\"a\":" ++ tensor first ++ ",\"b\":" ++ tensor second ++ "\x7d")

/-- The length of a text of 105 bytes and the text. -/
def twoHeader (first second : ℕ) : List UInt8 := [105, 0, 0, 0, 0, 0, 0, 0] ++ twoText first second

/-- A parser that reads this text and no other one. -/
def parseTwo (first second : ℕ) : JsonLimits → List UInt8 → Result JsonValue := fun _ text =>
  if text = twoText first second then .ok (.object (twoTensors first second))
  else .error (.invalidArgument "unexpected end of JSON")

def insertionSort : List SafetensorRecord → List SafetensorRecord :=
  List.insertionSort fun early late => early.fileBegin ≤ late.fileBegin

theorem insertionSort_sorts : Sorts insertionSort := by
  let below : SafetensorRecord → SafetensorRecord → Prop :=
    fun early late => early.fileBegin ≤ late.fileBegin
  exact ⟨List.perm_insertionSort below, List.pairwise_insertionSort below⟩

/--
A tensor of two bytes and an empty one at the same offset are refused when
the filled one has the smaller name and accepted when the empty one has.
-/
theorem safetensors_refused_by_name :
    Sorts insertionSort ∧ readHeader (twoHeader 2 0) 115 = .ok (105, twoText 2 0) ∧
    (∃ records, Tiled 113 115 (twoTensors 2 0) records) ∧
    parsePrefix (parseTwo 2 0) insertionSort (twoHeader 2 0) 115 = .error (.invalidArgument
      "Safetensors data ranges overlap or contain a gap") ∧
    (parsePrefix (parseTwo 0 2) insertionSort (twoHeader 0 2) 115).isOk = true := by
  have parsed : parseRecords 113 [] (twoTensors 2 0) =
      .ok [⟨"a", .uint8, [2], 113, 115⟩, ⟨"b", .uint8, [0], 113, 113⟩] := by
    decide +kernel
  obtain ⟨_, rfl, -, described, -⟩ :=
    (parseRecords_eq_ok (by decide) (Nat.zero_le _)).mp parsed
  exact ⟨insertionSort_sorts, by decide +kernel,
    ⟨_, (forall₂_and_left _ _).mp described |>.2, [(113, 113), (113, 115)], .swap _ _ _,
      rfl, rfl, rfl⟩,
    by decide +kernel, by decide +kernel⟩

theorem safetensors_accepted_empty_first :
    (parsePrefix (parseTwo 0 2) insertionSort (twoHeader 0 2) 115).isOk = true ∧
    (((parsePrefix (parseTwo 0 2) insertionSort (twoHeader 0 2) 115).isOk =
        true ↔ ∃ records, Tiled 113 115 (twoTensors 0 2) records) ↔
      ((∃ records, Tiled 113 115 (twoTensors 0 2) records) →
        ∃ records, Tiled 113 115 (twoTensors 0 2) records ∧
          Kept insertionSort (twoTensors 0 2) records)) :=
  ⟨by decide +kernel, safetensors_accepted_iff_tiled_iff_kept insertionSort_sorts
      (by decide +kernel : readHeader (twoHeader 0 2) 115 = .ok (105, twoText 0 2)) rfl⟩

end SafetensorsHeader

end Pih
