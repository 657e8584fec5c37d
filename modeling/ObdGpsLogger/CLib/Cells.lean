import Mathlib.Init

/-!
# Allocated arrays

`Cells α` is what `malloc` returns for an array: a fixed number of cells, each
with nothing in it until something is written there. A write outside the array
has no result.

`write_filled` is the rule of a loop that fills an array from its front: as
long as there is room, the next write goes behind what has been written.
-/

namespace ObdGpsLogger.CLib

variable {α : Type}

/-- An array of `malloc`; `none` is a cell that was not written. -/
abbrev Cells (α : Type) := List (Option α)

/-- `malloc(n * sizeof(…))`: `n` cells that hold nothing one may read. -/
def malloc (n : Nat) : Cells α := List.replicate n none

/-- `cells[i] = x`, where there is such a cell. -/
def Cells.write (cells : Cells α) (i : Nat) (x : α) : Option (Cells α) :=
  if i < cells.length then some (cells.set i (some x)) else none

/-- An array of `n` cells whose front holds `xs`. -/
def filled (xs : List α) (n : Nat) : Cells α :=
  xs.map some ++ List.replicate (n - xs.length) none

theorem filled_nil (n : Nat) : filled ([] : List α) n = malloc n := rfl

theorem filled_length (xs : List α) : filled xs xs.length = xs.map some := by
  simp [filled]

/-- **Filling**: the next write goes behind the last one. -/
theorem write_filled {xs : List α} {n : Nat} (h : xs.length < n) (x : α) :
    (filled xs n).write xs.length x = some (filled (xs ++ [x]) n) := by
  obtain ⟨k, hk⟩ : ∃ k, n - xs.length = k + 1 := ⟨n - xs.length - 1, by omega⟩
  have hrest : n - (xs ++ [x]).length = k := by
    rw [List.length_append, List.length_singleton]
    omega
  have hlt : xs.length < (filled xs n).length := by
    simp [filled]
    omega
  rw [Cells.write, if_pos hlt, filled, filled, hrest, hk, List.replicate_succ]
  have hset := List.set_append_right (s := xs.map some) (t := none :: List.replicate k none)
    xs.length (some x) (by simp)
  rw [hset]
  simp

end ObdGpsLogger.CLib
