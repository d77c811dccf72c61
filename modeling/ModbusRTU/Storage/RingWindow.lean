import Mathlib.Data.List.Basic
import Mathlib.Data.Nat.ModEq

/-!
# Windows of a circular store

A circular store of a given size is a function from positions to cells; a *window* is what is read
from it by walking forward from a position, round the end.  A queue kept in such a store is the
window from its head, as long as the queue.

* **`window_add`** — a longer walk is a shorter one and a walk from where it stopped.
* **`window_push`** — a block stored right behind a window lengthens the window by the block, if
  there is room.

Storing is contiguous, as a copy in memory is: a block that goes round the end is stored in two
pieces, and `window_push` is used twice.
-/

namespace RingWindow

variable {α : Type} {size : ℕ}

/-- What is read by `n` steps from position `start`. -/
def window (size : ℕ) (cells : ℕ → α) (start n : ℕ) : List α :=
  (List.range n).map fun i => cells ((start + i) % size)

@[simp] theorem length_window (cells : ℕ → α) (start n : ℕ) :
    (window size cells start n).length = n := by
  rw [window, List.length_map, List.length_range]

theorem window_add (cells : ℕ → α) (start m n : ℕ) :
    window size cells start (m + n) =
      window size cells start m ++ window size cells ((start + m) % size) n := by
  rw [window, List.range_add, List.map_append, List.map_map]
  congr 1
  refine List.map_congr_left fun i _ => ?_
  show cells ((start + (m + i)) % size) = cells (((start + m) % size + i) % size)
  rw [Nat.mod_add_mod, Nat.add_assoc]

theorem take_window (cells : ℕ → α) (start : ℕ) {m n : ℕ} (h : m ≤ n) :
    (window size cells start n).take m = window size cells start m := by
  obtain ⟨k, rfl⟩ := Nat.exists_eq_add_of_le h
  rw [window_add, List.take_left' (length_window ..)]

theorem drop_window (cells : ℕ → α) (start : ℕ) {m n : ℕ} (h : m ≤ n) :
    (window size cells start n).drop m = window size cells ((start + m) % size) (n - m) := by
  obtain ⟨k, rfl⟩ := Nat.exists_eq_add_of_le h
  rw [window_add, List.drop_left' (length_window ..), Nat.add_sub_cancel_left]

/-- A window that does not go round the end. -/
theorem window_straight (cells : ℕ → α) {start n : ℕ} (h : start + n ≤ size) :
    window size cells start n = (List.range n).map fun i => cells (start + i) := by
  refine List.map_congr_left fun i hi => ?_
  rw [Nat.mod_eq_of_lt]
  have := List.mem_range.mp hi
  omega

theorem window_congr {cells cells' : ℕ → α} {start n : ℕ}
    (h : ∀ i < n, cells ((start + i) % size) = cells' ((start + i) % size)) :
    window size cells start n = window size cells' start n :=
  List.map_congr_left fun i hi => h i (List.mem_range.mp hi)

/-- A position that went round the end at most once. -/
theorem mod_eq_ite {i : ℕ} (h : i < size + size) :
    i % size = if i < size then i else i - size := by
  split
  · next hlt => exact Nat.mod_eq_of_lt hlt
  · next hge => rw [Nat.mod_eq_sub_mod (by omega), Nat.mod_eq_of_lt (by omega)]

/-! ### Storing -/

/-- The cells after a copy of `data` to position `pos`. -/
def store (cells : ℕ → α) (pos : ℕ) (data : List α) : ℕ → α := fun i =>
  if h : pos ≤ i ∧ i - pos < data.length then data.get ⟨i - pos, h.2⟩ else cells i

theorem store_of_lt (cells : ℕ → α) {pos i : ℕ} (data : List α) (h : i < pos) :
    store cells pos data i = cells i := by
  rw [store, dif_neg (by omega)]

/-- What is stored is read back. -/
theorem window_store (cells : ℕ → α) {pos : ℕ} {data : List α} (h : pos + data.length ≤ size) :
    window size (store cells pos data) pos data.length = data := by
  rw [window_straight _ h]
  refine List.ext_getElem (by simp) fun i hi₁ hi₂ => ?_
  rw [List.getElem_map, List.getElem_range, store, dif_pos (by omega)]
  simp

/-- Positions less than a round apart are different. -/
theorem mod_ne_mod {i j : ℕ} (hij : i < j) (hround : j < i + size) : i % size ≠ j % size := by
  intro h
  have hdvd : size ∣ j - i := (Nat.modEq_iff_dvd' hij.le).mp h
  have hle := Nat.le_of_dvd (by omega) hdvd
  omega

/-- A block stored behind a window, less than a round from its start, is not in the window. -/
theorem window_store_of_free (cells : ℕ → α) {start n gap : ℕ} {data : List α} (hgap : n ≤ gap)
    (hround : gap + data.length ≤ size) :
    window size (store cells ((start + gap) % size) data) start n = window size cells start n := by
  refine window_congr fun i hi => ?_
  by_cases hin : (start + gap) % size ≤ (start + i) % size ∧
      (start + i) % size - (start + gap) % size < data.length
  · -- position `i` of the window would be one of the cells stored
    obtain ⟨k, hk⟩ := Nat.exists_eq_add_of_le hin.1
    have hklt : k < data.length := by omega
    have hsame : (start + gap + k) % size = (start + i) % size := by
      rw [← Nat.mod_add_mod (start + gap), ← hk, Nat.mod_mod]
    exact absurd hsame.symm (mod_ne_mod (by omega) (by omega))
  · rw [store, dif_neg hin]

/-- **Appending.**  A block stored right behind a window lengthens it, if there is room for the block
before the front of the window and before the end of the store. -/
theorem window_push (cells : ℕ → α) {start n : ℕ} {data : List α}
    (hroom : n + data.length ≤ size) (hend : (start + n) % size + data.length ≤ size) :
    window size (store cells ((start + n) % size) data) start (n + data.length) =
      window size cells start n ++ data := by
  rw [window_add, window_store_of_free cells le_rfl hroom, window_store cells hend]

end RingWindow
