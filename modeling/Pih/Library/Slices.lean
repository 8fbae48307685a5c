import Mathlib.Data.List.Basic

/-!
# Slices of a flat buffer

Reading and overwriting a contiguous part of a buffer.  An overwrite is seen
by a read of the same part and by no read of a disjoint one.
-/

namespace Pih

open List

section Slices

variable {Value : Type}

/-- The `size` values that start at `offset`. -/
def slice (values : List Value) (offset size : ℕ) : List Value := (values.drop offset).take size

/-- The buffer with the values that start at `offset` replaced. -/
def overwrite (values : List Value) (offset : ℕ) (patch : List Value) : List Value :=
  values.take offset ++ (patch ++ values.drop (offset + patch.length))

theorem length_overwrite (inside : offset + patch.length ≤ values.length) :
    (overwrite values offset patch).length = values.length := by
  simp only [overwrite, length_append, length_take, length_drop]
  omega

theorem getElem?_overwrite (inside : offset + patch.length ≤ values.length) (index : ℕ) :
    (overwrite values offset patch)[index]? =
      if offset ≤ index ∧ index < offset + patch.length then patch[index - offset]?
      else
        values[index]? := by
  have takeLength : (values.take offset).length = offset := by
    rw [length_take]
    omega
  unfold overwrite
  by_cases before : index < offset
  · rw [getElem?_append_left (by omega), getElem?_take, if_pos before, if_neg (by omega)]
  rw [getElem?_append_right (by omega), takeLength]
  by_cases inPatch : index - offset < patch.length
  · rw [getElem?_append_left inPatch, if_pos (by omega)]
  rw [getElem?_append_right (by omega), getElem?_drop, if_neg (by omega)]
  congr 1
  omega

theorem getElem?_slice (values : List Value) (offset size index : ℕ) :
    (slice values offset size)[index]? =
      if index < size then values[offset + index]? else none := by
  unfold slice
  rw [getElem?_take]
  split
  · rw [getElem?_drop]
  · rfl

theorem slice_overwrite_self (inside : offset + patch.length ≤ values.length) :
    slice (overwrite values offset patch) offset patch.length = patch := by
  apply ext_getElem?
  intro index
  rw [getElem?_slice, getElem?_overwrite inside]
  by_cases below : index < patch.length
  · rw [if_pos below, if_pos (by omega), Nat.add_sub_cancel_left]
  · rw [if_neg below, getElem?_eq_none (by omega)]

/-- A read that ends before the patch or starts after it is not affected. -/
theorem slice_overwrite_disjoint (inside : offset + patch.length ≤ values.length)
    (disjoint : start + size ≤ offset ∨ offset + patch.length ≤ start) :
    slice (overwrite values offset patch) start size = slice values start size := by
  apply ext_getElem?
  intro index
  rw [getElem?_slice, getElem?_slice, getElem?_overwrite inside]
  by_cases below : index < size
  · rw [if_pos below, if_pos below, if_neg (by omega)]
  · rw [if_neg below, if_neg below]

/-! ## Numbered values -/

end Slices

/-- Two different regions of one width do not overlap. -/
theorem regions_disjoint (different : first ≠ second) (width : ℕ)
    (firstFits : firstSize ≤ width) (secondFits : secondSize ≤ width) :
    first * width + firstSize ≤ second * width ∨ second * width + secondSize ≤ first * width := by
  rcases Nat.lt_or_gt_of_ne different with less | greater
  · left
    calc
      first * width + firstSize ≤ first * width + width := by omega
      _ = (first + 1) * width := (Nat.succ_mul first width).symm
      _ ≤ second * width := Nat.mul_le_mul_right width less
  right
  calc
    second * width + secondSize ≤ second * width + width := by omega
    _ = (second + 1) * width := (Nat.succ_mul second width).symm
    _ ≤ first * width := Nat.mul_le_mul_right width greater

/-- A region of a buffer of equal regions ends inside the buffer. -/
theorem region_inside {count : ℕ} (inside : index < count) (width : ℕ)
    (fits : size ≤ width) : index * width + size ≤ count * width := by
  calc
    index * width + size ≤ index * width + width := by omega
    _ = (index + 1) * width := (Nat.succ_mul index width).symm
    _ ≤ count * width := Nat.mul_le_mul_right width inside

end Pih
