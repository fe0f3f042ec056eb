/-
**Rows of equal length.**

Blocks of a disk, entries of a table and slots of a directory are stored one after another in rows
of one length, so an index splits into the number of a row and a position in it.
-/

import FlatVolume.Bytes.Field

namespace FlatVolume

variable {α β : Type} {width : Nat}

/-- An element is found in its row. -/
theorem getElem?_flatMap_rows {items : List α} {row : α → List β} (positive : 0 < width)
    (rows : ∀ item ∈ items, (row item).length = width) (index : Nat) :
    (items.flatMap row)[index]? =
      items[index / width]?.bind fun item => (row item)[index % width]? := by
  induction items generalizing index with
  | nil => simp
  | cons first rest hypothesis =>
    have length := rows first List.mem_cons_self
    rw [List.flatMap_cons]
    by_cases inFirst : index < width
    · rw [List.getElem?_append_left (by omega), Nat.div_eq_of_lt inFirst, Nat.mod_eq_of_lt inFirst]
      rfl
    · have after : width ≤ index := Nat.le_of_not_lt inFirst
      rw [List.getElem?_append_right (by omega), length,
        hypothesis (fun item member => rows item (List.mem_cons_of_mem _ member)),
        Nat.div_eq_sub_div positive after, List.getElem?_cons_succ, ← Nat.mod_eq_sub_mod after]

theorem length_flatMap_rows {items : List α} {row : α → List β}
    (rows : ∀ item ∈ items, (row item).length = width) :
    (items.flatMap row).length = items.length * width := by
  induction items with
  | nil => simp
  | cons first rest hypothesis =>
    rw [List.flatMap_cons, List.length_append, rows first List.mem_cons_self,
      hypothesis fun item member => rows item (List.mem_cons_of_mem _ member), List.length_cons,
      Nat.succ_mul, Nat.add_comm]

/-- A row is cut out of all rows at the place of its item. -/
theorem take_drop_flatMap_rows {items : List α} {row : α → List β} {position : Nat} {item : α}
    (rows : ∀ item ∈ items, (row item).length = width) (found : items[position]? = some item) :
    ((items.flatMap row).drop (position * width)).take width = row item := by
  induction items generalizing position with
  | nil => cases found
  | cons first rest hypothesis =>
    have length := rows first List.mem_cons_self
    rw [List.flatMap_cons]
    cases position with
    | zero =>
      obtain rfl : first = item := by simpa using found
      rw [Nat.zero_mul, List.drop_zero, List.take_left' length]
    | succ position =>
      have shift : (position + 1) * width = (row first).length + position * width := by
        rw [length, Nat.succ_mul, Nat.add_comm]
      rw [shift, List.drop_length_add_append]
      exact hypothesis (fun item member => rows item (List.mem_cons_of_mem _ member))
        (by simpa using found)

end FlatVolume
