import Mathlib.Algebra.GroupWithZero.Nat
import Mathlib.Data.List.Basic

/-!
# Messages cut into pieces

A message that is the concatenation of pieces can be cut again where the
widths of the pieces are known.  The rules are about prefixes: that two
messages are equal is the case in which nothing follows.
-/

namespace Pih

open List

variable {Symbol : Type}

theorem piece_eq_of_start
    (width : piece.length = other.length) (begins : piece ++ rest <+: other ++ more) :
    piece = other ∧ rest <+: more := by
  obtain ⟨tail, whole⟩ := begins
  rw [append_assoc] at whole
  obtain ⟨same, later⟩ := append_inj whole width
  exact ⟨same, tail, later⟩

/-- Pieces of the same widths agree if their messages begin alike. -/
theorem pieces_eq_of_start {front other : List (List Symbol)} {rest more : List Symbol}
    (widths : front.map length = other.map length)
    (begins : front.flatten ++ rest <+: other.flatten ++ more) : front = other ∧ rest <+: more := by
  induction front generalizing other with
  | nil =>
    obtain rfl := map_eq_nil_iff.mp widths.symm
    exact ⟨rfl, begins⟩
  | cons _ _ induction =>
    cases other with
    | nil => cases widths
    | cons =>
      simp only [map_cons, cons.injEq] at widths
      simp only [flatten_cons, append_assoc] at begins
      obtain ⟨rfl, later⟩ := piece_eq_of_start widths.1 begins
      obtain ⟨rfl, ends⟩ := induction widths.2 later
      exact ⟨rfl, ends⟩

/-- A terminator ends a text that does not contain it. -/
theorem text_eq_of_start
    (free : stop ∉ text) (otherFree : stop ∉ other)
    (begins : text ++ stop :: rest <+: other ++ stop :: more) : text = other ∧ rest <+: more := by
  induction text generalizing other with
  | nil =>
    cases other with
    | nil => simpa using begins
    | cons =>
      rw [nil_append, cons_append, cons_prefix_cons] at begins
      exact absurd (begins.1 ▸ mem_cons_self) otherFree
  | cons _ _ induction =>
    cases other with
    | nil =>
      rw [nil_append, cons_append, cons_prefix_cons] at begins
      exact absurd (begins.1 ▸ mem_cons_self) free
    | cons =>
      rw [cons_append, cons_append, cons_prefix_cons] at begins
      obtain ⟨rfl, ends⟩ := induction (fun member => free (.tail _ member))
        (fun member => otherFree (.tail _ member)) begins.2
      exact ⟨begins.1 ▸ rfl, ends⟩

/-- The little-endian bytes of a number determine it. -/
theorem eq_of_littleEndian {size first second : ℕ} (small : first < 256 ^ size)
    (otherSmall : second < 256 ^ size)
    (same : (range size).map (fun index => UInt8.ofNat (first >>> (index * 8))) =
      (range size).map fun index => UInt8.ofNat (second >>> (index * 8))) : first = second := by
  induction size generalizing first second with
  | zero => omega
  | succ _ induction =>
    have shifted (value index : ℕ) : value >>> ((index + 1) * 8) =
        (value / 256) >>> (index * 8) := by
      rw [Nat.add_mul, Nat.add_comm, Nat.shiftRight_add, Nat.shiftRight_eq_div_pow value]
    simp only [range_succ_eq_map, map_cons, map_map, Function.comp_def, cons.injEq,
      Nat.succ_eq_add_one, shifted, Nat.zero_mul, Nat.shiftRight_zero] at same
    have low : first % 256 = second % 256 := by simpa using congrArg UInt8.toNat same.1
    have high := induction (Nat.div_lt_of_lt_mul (by rwa [pow_succ'] at small))
      (Nat.div_lt_of_lt_mul (by rwa [pow_succ'] at otherSmall)) same.2
    omega

end Pih
