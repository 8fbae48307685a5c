import Mathlib.Data.List.Count

/-!
# Tables of cells

A table is a list whose cells are written in place.  One write changes the
number of cells with a property by what it does to its own cell.
-/

namespace Pih

open List

section Tables

variable {Cell : Type} {cells : List Cell} {index : ℕ}

theorem countP_set_add (property : Cell → Bool) (new : Cell) (found : cells[index]? = some old) :
    (cells.set index new).countP property + (if property old then 1 else 0) =
      cells.countP property + (if property new then 1 else 0) := by
  rcases List.getElem_of_getElem? found with ⟨inside, value⟩
  rw [List.countP_set inside, value]
  have counted : property old = true → 0 < cells.countP property := by
    intro holds
    exact countP_pos_iff.mpr ⟨old, value ▸ getElem_mem inside, holds⟩
  cases holds : property old with
  | false => simp
  | true =>
    have positive := counted holds
    simp only [if_true]
    omega

/-- A cell of a written table is the new one or an old one elsewhere. -/
theorem getElem?_set_cases (found : cells[index]? = some old) (other : ℕ) :
    (other = index ∧ (cells.set index new)[other]? = some new) ∨
      (other ≠ index ∧ (cells.set index new)[other]? = cells[other]?) := by
  have inside := (List.getElem_of_getElem? found).1
  by_cases same : other = index
  · subst same
    exact .inl ⟨rfl, getElem?_set_self inside⟩
  · exact .inr ⟨same, getElem?_set_ne (fun equal => same equal.symm)⟩

theorem getElem?_set_eq_some_iff (found : cells[index]? = some old) :
    (cells.set index new)[other]? = some cell ↔ (other = index ∧ cell = new) ∨
      (other ≠ index ∧ cells[other]? = some cell) := by
  rcases getElem?_set_cases found other with ⟨same, written⟩ | ⟨different, kept⟩
  · rw [written, Option.some.injEq]
    constructor
    · exact fun equal => .inl ⟨same, equal.symm⟩
    · rintro (⟨-, equal⟩ | ⟨different, -⟩)
      · exact equal.symm
      · exact (different same).elim
  rw [kept]
  constructor
  · exact fun cell => .inr ⟨different, cell⟩
  · rintro (⟨same, -⟩ | ⟨-, cell⟩)
    · exact (different same).elim
    · exact cell

/-- Tables that agree on a property cell by cell have equal counts. -/
theorem countP_congr_cells {others : List Cell} (agree :
      ∀ place : ℕ, others[place]?.map property = cells[place]?.map property) :
    others.countP property = cells.countP property := by
  have equal : others.map property = cells.map property := by
    apply ext_getElem?
    intro place
    rw [getElem?_map, getElem?_map]
    exact agree place
  have counted : ∀ table : List Cell, table.countP property = (table.map property).countP id := by
    intro table
    rw [countP_map]
    rfl
  rw [counted, counted, equal]

/-- Not every cell has the property if fewer are counted. -/
theorem exists_not_of_countP_lt (fewer : cells.countP property < cells.length) :
    ∃ cell ∈ cells, property cell = false := by
  by_contra none
  have all : ∀ cell ∈ cells, property cell = true := by
    intro cell member
    by_contra fails
    exact none ⟨cell, member, by simpa using fails⟩
  rw [countP_eq_length.mpr all] at fewer
  exact Nat.lt_irrefl _ fewer

/-- Collecting from an extended list adds what its last cell gives. -/
theorem filterMap_concat (value : Cell → Option Value) (cell : Cell) :
    (cells ++ [cell]).filterMap value = cells.filterMap value ++ (value cell).toList := by
  cases given : value cell <;> simp [given]

/-- Values that are taken from different cells are different. -/
theorem nodup_filterMap (distinct : ∀ (first second : ℕ) (cell other : Cell) (given : Value),
      cells[first]? = some cell → cells[second]? = some other →
      value cell = some given → value other = some given →
      first = second) : (cells.filterMap value).Nodup := by
  unfold Nodup
  rw [pairwise_filterMap, pairwise_iff_getElem]
  intro first second firstInside secondInside before given firstGiven other secondGiven same
  subst same
  exact Nat.ne_of_lt before (distinct first second _ _ given (getElem?_eq_getElem firstInside)
      (getElem?_eq_getElem secondInside) firstGiven secondGiven)

/-- One write exchanges what its own cell gives. -/
theorem perm_filterMap_set (value : Cell → Option Value) (new : Cell)
    (found : cells[index]? = some old) :
    ((value old).toList ++ (cells.set index new).filterMap value).Perm
      ((value new).toList ++ cells.filterMap value) := by
  induction cells generalizing index with
  | nil => cases found
  | cons cell _ induction =>
    have collected (head : Cell) (tail : List Cell) : (head :: tail).filterMap value =
        (value head).toList ++ tail.filterMap value := by
      cases given : value head <;> simp [given]
    cases index with
    | zero =>
      cases found
      rw [set_cons_zero, collected, collected]
      exact perm_append_comm_assoc _ _ _
    | succ =>
      rw [set_cons_succ, collected, collected]
      have moved := (induction found).append_left (value cell).toList
      exact (perm_append_comm_assoc _ _ _).trans (moved.trans (perm_append_comm_assoc _ _ _))

/-! ## Writing several cells -/

/-- Every listed cell is changed in place. -/
def updateAll (cells : List Cell) (indices : List ℕ) (change : Cell → Cell) : List Cell :=
  indices.foldl (fun cells index => cells.modify index change) cells

@[simp]
theorem length_updateAll : (updateAll cells indices change).length = cells.length := by
  unfold updateAll
  induction indices generalizing cells with
  | nil => rfl
  | cons _ _ induction => rw [foldl_cons, induction, length_modify]

theorem updateAll_cons (cells : List Cell) (index : ℕ) (rest : List ℕ) (change : Cell → Cell) :
    updateAll cells (index :: rest) change = updateAll (cells.modify index change) rest change :=
  rfl

theorem getElem?_updateAll (distinct : indices.Nodup) (cells : List Cell)
    (change : Cell → Cell) (place : ℕ) : (updateAll cells indices change)[place]? =
      if place ∈ indices then cells[place]?.map change
      else cells[place]? := by
  induction indices generalizing cells with
  | nil => simp [updateAll]
  | cons index _ induction =>
    rw [nodup_cons] at distinct
    rw [updateAll_cons, induction distinct.2]
    by_cases here : index = place
    · subst here
      simp [distinct.1]
    have other : place ≠ index := fun same => here same.symm
    simp [here, other]

/-- One change that does the same to a property in every listed cell. -/
theorem countP_updateAll (distinct : indices.Nodup) {after : ℕ}
    (changes : ∀ index ∈ indices, ∃ cell, cells[index]? = some cell ∧
        (if property cell then 1 else 0) = before ∧
        (if property (change cell) then 1 else 0) = after) :
    (updateAll cells indices change).countP property + indices.length * before =
      cells.countP property + indices.length * after := by
  induction indices generalizing cells with
  | nil => simp [updateAll]
  | cons index _ induction =>
    rw [nodup_cons] at distinct
    rcases changes index (.head _) with ⟨cell, found, old, _⟩
    have written : cells.modify index change = cells.set index (change cell) := by
      rw [modify_eq_set_getElem?, found]
      rfl
    have one := countP_set_add property (change cell) found
    rw [old] at one
    rw [updateAll_cons, written]
    have others := @induction (cells.set index (change cell)) distinct.2 (by
        intro other member
        have different : index ≠ other := by
          rintro rfl
          exact distinct.1 member
        rw [getElem?_set_ne different]
        exact changes other (.tail _ member))
    rw [length_cons, Nat.succ_mul, Nat.succ_mul]
    omega

/-! ## Keyed cells -/

section Keyed

variable {Key : Type} [DecidableEq Key]

end Keyed

end Tables

end Pih
