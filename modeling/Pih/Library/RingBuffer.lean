import Mathlib.Data.List.Basic
import Mathlib.Data.Nat.ModEq

/-!
# Bounded ring buffers

A fixed storage, the index of the oldest value and the number of values in
use.  The bounds that make every access legal are fields, so a buffer with an
index outside its storage cannot be built.

The purpose of a ring buffer is to be a bounded queue.  `toList` is that
queue, oldest value first, and the theorems below say that pushing and
popping act on it as on a list.
-/

namespace Pih

open List

/-- A bounded queue in an array. -/
structure RingBuffer (Value : Type) where
  storage : List Value
  head : ℕ
  size : ℕ
  head_lt : head < storage.length
  size_le : size ≤ storage.length
deriving DecidableEq

namespace RingBuffer

variable {Value : Type}

variable (ring : RingBuffer Value)

def capacity : ℕ := ring.storage.length

theorem capacity_pos : 0 < ring.storage.length := Nat.zero_lt_of_lt ring.head_lt

/-- An empty buffer whose cells all hold `fill`. -/
def empty (capacity : ℕ) (fill : Value) (positive : 0 < capacity) : RingBuffer Value where
  storage := replicate capacity fill
  head := 0
  size := 0
  head_lt := by simpa using positive
  size_le := Nat.zero_le _

/-- The storage cell of the value at a distance from the oldest one. -/
def cell (distance : ℕ) : ℕ := (ring.head + distance) % ring.storage.length

theorem cell_lt : ring.cell distance < ring.storage.length := Nat.mod_lt _ ring.capacity_pos

def read (distance : ℕ) : Value := ring.storage.get ⟨ring.cell distance, ring.cell_lt⟩

/-- The queue that the buffer represents, oldest value first. -/
def toList : List Value := (range ring.size).map ring.read

def push (value : Value) (room : ring.size < ring.storage.length) : RingBuffer Value where
  storage := ring.storage.set (ring.cell ring.size) value
  head := ring.head
  size := ring.size + 1
  head_lt := by simpa using ring.head_lt
  size_le := by
    rw [length_set]
    exact room

/-- The oldest value and the buffer without it. -/
def pop : Option (Value × RingBuffer Value) :=
  if ring.size = 0 then none
  else
    some (ring.read 0,
        { storage := ring.storage
          head := ring.cell 1
          size := ring.size - 1
          head_lt := ring.cell_lt
          size_le := Nat.le_trans (Nat.sub_le _ _) ring.size_le })

@[simp]
theorem length_toList : ring.toList.length = ring.size := by simp [toList]

@[simp]
theorem capacity_push (value : Value) (room : ring.size < ring.storage.length) :
    (ring.push value room).capacity = ring.capacity := by
  simp [push, capacity]

/-- Cells at different distances below the capacity are different. -/
theorem cell_injective (firstBound : first < ring.storage.length)
    (secondBound : second < ring.storage.length)
    (equal : ring.cell first = ring.cell second) : first = second := by
  have congruent : first ≡ second [MOD ring.storage.length] :=
    Nat.ModEq.add_left_cancel' ring.head equal
  exact congruent.eq_of_lt_of_lt firstBound secondBound

section

variable (value : Value) (room : ring.size < ring.storage.length)

include room

theorem read_push_of_lt (older : distance < ring.size) :
    (ring.push value room).read distance = ring.read distance := by
  have separate : ring.cell ring.size ≠ ring.cell distance := by
    intro equal
    have same := ring.cell_injective room (older.trans room) equal
    omega
  simp only [read, push, cell, length_set] at *
  exact getElem_set_ne separate _

theorem read_push_size : (ring.push value room).read ring.size = value := by simp [read, push, cell]

/-- Pushing appends to the queue. -/
@[simp]
theorem toList_push : (ring.push value room).toList = ring.toList ++ [value] := by
  have older : (range ring.size).map (ring.push value room).read = ring.toList := by
    apply map_congr_left
    intro distance member
    exact ring.read_push_of_lt value room (mem_range.mp member)
  calc
    (ring.push value room).toList = (range (ring.size + 1)).map (ring.push value room).read := rfl
    _ = ring.toList ++ [value] := by
      rw [range_succ, map_append, older, map_singleton, read_push_size]

end

/-- Popping an empty buffer gives nothing. -/
theorem pop_eq_none_iff : ring.pop = none ↔ ring.toList = [] := by
  rw [← length_eq_zero_iff]
  unfold pop
  split <;> simp_all

/-- Popping removes the oldest value of the queue and keeps the rest. -/
theorem toList_of_pop {ring : RingBuffer Value} (popped : ring.pop = some (value, rest)) :
    ring.toList = value :: rest.toList ∧ rest.capacity = ring.capacity := by
  unfold pop at popped
  split at popped
  · cases popped
  case isFalse occupied =>
      cases popped
      refine ⟨?_, rfl⟩
      obtain ⟨_, counted⟩ := Nat.exists_eq_succ_of_ne_zero occupied
      simp only [toList, counted, range_succ_eq_map, map_cons, map_map]
      congr 1
      apply map_congr_left
      intro distance _
      simp only [Function.comp, read, cell, get_eq_getElem]
      congr 1
      rw [Nat.mod_add_mod, Nat.add_assoc, Nat.add_comm 1 distance]

end RingBuffer

end Pih
