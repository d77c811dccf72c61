import ModbusRTU.Storage.RingWindow

/-!
# Copies in a straight store

A straight store is a function from positions to cells, written by copies (`RingWindow.store`) and moves
(`memmove`); what stands in it from a position on is a *span*.

* **`span_memmove`** — a move reads the store as it was, also where the two places overlap.
* **`span_insert`** — a block stored in front of what was moved out of its way is inserted there: what
  does not fit the span any more is lost, and nothing else is.
-/

namespace SpanCopies

open RingWindow

variable {α : Type}

/-- The `n` cells from position `pos` on. -/
def span (cells : ℕ → α) (pos n : ℕ) : List α := (List.range n).map fun i => cells (pos + i)

/-- The cells after a move of `n` of them from `src` to `dst`. -/
def memmove (cells : ℕ → α) (dst src n : ℕ) : ℕ → α := store cells dst (span cells src n)

@[simp] theorem length_span (cells : ℕ → α) (pos n : ℕ) : (span cells pos n).length = n := by
  simp [span]

theorem span_add (cells : ℕ → α) (pos m n : ℕ) :
    span cells pos (m + n) = span cells pos m ++ span cells (pos + m) n := by
  simp [span, List.range_add, Function.comp_def, Nat.add_assoc]

theorem take_span (cells : ℕ → α) (pos : ℕ) {m n : ℕ} (h : m ≤ n) :
    (span cells pos n).take m = span cells pos m := by
  obtain ⟨k, rfl⟩ := Nat.exists_eq_add_of_le h
  rw [span_add, List.take_left' (length_span ..)]

theorem span_congr {cells cells' : ℕ → α} {pos n : ℕ}
    (h : ∀ i < n, cells (pos + i) = cells' (pos + i)) : span cells pos n = span cells' pos n :=
  List.map_congr_left fun i hi => h i (List.mem_range.mp hi)

/-! ### Storing -/

theorem store_of_le (cells : ℕ → α) {pos i : ℕ} {data : List α} (h : pos + data.length ≤ i) :
    store cells pos data i = cells i := by
  rw [store, dif_neg (by omega)]

/-- What is stored is read back. -/
theorem span_store (cells : ℕ → α) (pos : ℕ) (data : List α) :
    span (store cells pos data) pos data.length = data := by
  have hwindow := window_store cells (le_refl (pos + data.length))
  rwa [window_straight _ le_rfl] at hwindow

theorem span_store_before (cells : ℕ → α) {pos start n : ℕ} (data : List α) (h : start + n ≤ pos) :
    span (store cells pos data) start n = span cells start n :=
  span_congr fun i hi => store_of_lt cells data (by omega)

theorem span_store_behind (cells : ℕ → α) {pos start : ℕ} (n : ℕ) {data : List α}
    (h : pos + data.length ≤ start) :
    span (store cells pos data) start n = span cells start n :=
  span_congr fun i _ => store_of_le cells (by omega)

/-- A span that ends where a block was stored ends with the block. -/
theorem span_store_end (cells : ℕ → α) {base pos : ℕ} (hpos : base ≤ pos) (data : List α) :
    span (store cells pos data) base (pos - base + data.length) = span cells base (pos - base) ++ data := by
  have hbase : base + (pos - base) = pos := by omega
  rw [span_add, hbase, span_store, span_store_before _ _ (Nat.le_of_eq hbase)]

/-- A part of what was stored. -/
theorem span_store_drop (cells : ℕ → α) (pos : ℕ) (data : List α) {k : ℕ} (hk : k ≤ data.length) :
    span (store cells pos data) (pos + k) (data.length - k) = data.drop k := by
  have hall := span_store cells pos data
  have hsplit := span_add (store cells pos data) pos k (data.length - k)
  rw [Nat.add_sub_cancel' hk, hall] at hsplit
  conv_rhs => rw [hsplit]
  rw [List.drop_left' (length_span ..)]

/-- Two blocks stored one behind the other. -/
theorem store_store (cells : ℕ → α) (pos : ℕ) (first second : List α) :
    store (store cells pos first) (pos + first.length) second = store cells pos (first ++ second) := by
  funext i
  by_cases hbefore : i < pos
  · rw [store_of_lt _ _ (by omega), store_of_lt _ _ hbefore, store_of_lt _ _ hbefore]
  by_cases hfirst : i - pos < first.length
  · rw [store_of_lt _ _ (by omega), store, dif_pos ⟨by omega, hfirst⟩, store,
      dif_pos ⟨by omega, by rw [List.length_append]; omega⟩]
    simp only [List.get_eq_getElem]
    exact (List.getElem_append_left hfirst).symm
  by_cases hsecond : i - pos < first.length + second.length
  · have hin : i - (pos + first.length) < second.length := by omega
    rw [store, dif_pos ⟨by omega, hin⟩, store,
      dif_pos ⟨by omega, by rw [List.length_append]; omega⟩]
    simp only [List.get_eq_getElem]
    rw [List.getElem_append_right (by omega)]
    congr 1
    omega
  · rw [store_of_le _ (by omega), store_of_le _ (by omega),
      store_of_le _ (by rw [List.length_append]; omega)]

/-! ### Moving -/

theorem span_memmove (cells : ℕ → α) (dst src : ℕ) {m n : ℕ} (h : m ≤ n) :
    span (memmove cells dst src n) dst m = span cells src m := by
  have hback := span_store cells dst (span cells src n)
  rw [length_span] at hback
  rw [← take_span _ _ h, memmove, hback, take_span _ _ h]

/-- **Inserting.** -/
theorem span_insert (cells : ℕ → α) (pos : ℕ) {n k : ℕ} {data : List α} (hfits : data.length ≤ n)
    (hmoved : n ≤ data.length + k) :
    span (store (memmove cells (pos + data.length) pos k) pos data) pos n =
      (data ++ span cells pos n).take n := by
  obtain ⟨m, rfl⟩ := Nat.exists_eq_add_of_le hfits
  rw [span_add, span_store, span_store_behind _ _ le_rfl, span_memmove _ _ _ (by omega),
    List.take_length_add_append, take_span _ _ (by omega)]

end SpanCopies
