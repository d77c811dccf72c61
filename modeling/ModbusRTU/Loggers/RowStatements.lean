import Mathlib.Data.String.Basic
import ModbusRTU.Loggers.PassCalls

/-!
# The rows the loggers store

For a logger, a row is a table and some numbers read off the instrument.  `table` and `values` say
which, by the addresses of the holding registers, and `savedata_eq_row` that the statement a logger
builds from `tab_reg` is the `insert` of that row.

* **`savedata_inj`** — the statement determines the numbers: two readings that differ are stored
  differently.
* **`press1_values_inj`** — the one number of `press1` determines both its registers.
* **`savedata_fits`** — the statement and its terminating zero fit the 1024 bytes of `savedata`.
-/

namespace ModbusRTU.RowStatements

open PollingLoggers LoggerRuns PassCalls

/-! ### Rows -/

/-- The statement that stores a row: the time, then some numbers. -/
def row (table : String) (values : List ℕ) : String :=
  "insert into " ++ table ++ " values(" ++ ",".intercalate ("now()" :: values.map Nat.repr) ++ ")"

/-- The number `press1` stores for its two registers. -/
def wide (hi lo : UInt16) : ℕ := hi.toNat * 65536 + lo.toNat

def table : Logger → String
  | .cool _ => "cool"
  | .temp .. => "temp"
  | .press1 _ => "press1"

/-- The numbers of a row: the measured and the set value, the four channels after the number of the
instrument, or the two words of the pressure. -/
def values (l : Logger) (o : Outcomes) : List ℕ :=
  match l with
  | .cool _ => [(o.registers 0x00).toNat, (o.registers 0x04).toNat]
  | .temp _ mod =>
      [(mod % 2 ^ 32).toNat, (o.registers 0x28).toNat, (o.registers 0x29).toNat,
        (o.registers 0x2A).toNat, (o.registers 0x2B).toNat]
  | .press1 _ => [wide (o.registers 0x6B) (o.registers 0x6C)]

/-- The words a read stores, by their place in `tab_reg`. -/
theorem tabRegOf_apply (addr nb : ℕ) (o : Outcomes) (i : Fin 64) (h : i.val < nb) :
    tabRegOf addr nb o i = o.registers (addr + i) := by
  rw [tabRegOf, TabReg.store, dif_pos h]

theorem vaule_toNat (tabReg : TabReg) : (vaule tabReg).toNat = wide (tabReg 0) (tabReg 1) := by
  have hhi := (tabReg 0).toNat_lt
  have hlo := (tabReg 1).toNat_lt
  simp only [vaule, wide, UInt32.toNat_add, UInt32.toNat_shiftLeft, UInt16.toNat_toUInt32]
  rw [show (16 : UInt32).toNat % 32 = 16 from rfl, Nat.shiftLeft_eq]
  omega

theorem row_cons (table : String) (v : ℕ) (vs : List ℕ) : row table (v :: vs) =
    "insert into " ++ table ++ " values(now()," ++ ",".intercalate ((v :: vs).map Nat.repr)
      ++ ")" := by
  have hopen : " values(now()," = " values(" ++ ("now()" ++ ",") := by decide
  rw [row, hopen, List.map_cons, String.intercalate_cons_cons]
  simp only [String.append_assoc]

theorem coolSavedata_eq_row (t : TabReg) :
    coolSavedata t = row "cool" [(t 0).toNat, (t 4).toNat] := by
  have hopen : "insert into " ++ "cool" ++ " values(now()," = "insert into cool values(now()," := by
    decide
  unfold coolSavedata fmtWord
  rw [row_cons, hopen]
  simp only [List.map_cons, List.map_nil, String.intercalate_cons_cons,
    String.intercalate_singleton, String.append_assoc, Nat.toString_eq_repr]

theorem tempSavedata_eq_row (mod : ℤ) (t : TabReg) :
    tempSavedata mod t = row "temp"
      [(mod % 2 ^ 32).toNat, (t 0).toNat, (t 1).toNat, (t 2).toNat, (t 3).toNat] := by
  have hopen : "insert into " ++ "temp" ++ " values(now()," = "insert into temp values(now()," := by
    decide
  unfold tempSavedata fmtInt fmtWord
  rw [row_cons, hopen]
  simp only [List.map_cons, List.map_nil, String.intercalate_cons_cons,
    String.intercalate_singleton, String.append_assoc, Nat.toString_eq_repr]

theorem press1Savedata_eq_row (t : TabReg) :
    press1Savedata t = row "press1" [wide (t 0) (t 1)] := by
  have hopen : "insert into " ++ "press1" ++ " values(now()," =
      "insert into press1 values(now()," := by decide
  unfold press1Savedata
  rw [row_cons, hopen, vaule_toNat]
  simp only [List.map_cons, List.map_nil, String.intercalate_singleton, String.append_assoc,
    Nat.toString_eq_repr]

/-- **What is stored.**  The statement of a logger is the `insert` of its row. -/
theorem savedata_eq_row (l : Logger) (o : Outcomes) : savedata l o = row (table l) (values l o) := by
  cases l with
  | cool dev =>
      show coolSavedata (tabRegOf 0x0000 0x0005 o) = _
      rw [coolSavedata_eq_row, tabRegOf_apply _ 0x0005 o 0 (by decide),
        tabRegOf_apply _ 0x0005 o 4 (by decide)]
      rfl
  | temp dev mod =>
      show tempSavedata mod (tabRegOf 0x0028 0x0004 o) = _
      rw [tempSavedata_eq_row, tabRegOf_apply _ 0x0004 o 0 (by decide),
        tabRegOf_apply _ 0x0004 o 1 (by decide), tabRegOf_apply _ 0x0004 o 2 (by decide),
        tabRegOf_apply _ 0x0004 o 3 (by decide)]
      rfl
  | press1 dev =>
      show press1Savedata (tabRegOf 0x006B 0x0002 o) = _
      rw [press1Savedata_eq_row, tabRegOf_apply _ 0x0002 o 0 (by decide),
        tabRegOf_apply _ 0x0002 o 1 (by decide)]
      rfl

/-! ### Reading a row back -/

theorem repr_injective : Function.Injective Nat.repr := by
  intro m n h
  have hdigits : Nat.toDigits 10 m = Nat.toDigits 10 n := by
    rw [← Nat.toList_repr, h, Nat.toList_repr]
  rw [← Nat.ofDigitChars_ten_toDigits (n := m), hdigits, Nat.ofDigitChars_ten_toDigits]

theorem comma_notMem_repr (n : ℕ) : ',' ∉ n.repr.toList := by
  rw [Nat.toList_repr]
  intro h
  have := Nat.isDigit_of_mem_toDigits (by decide) (by decide) h
  simp at this

/-- A row can be read back from its statement: the commas separate the numbers. -/
theorem row_injective (table : String) : Function.Injective (row table) := by
  intro vs ws h
  have hfields : ∀ us : List ℕ, ∀ f ∈ ("now()" :: us.map Nat.repr).map String.toList, ',' ∉ f := by
    intro us f hf
    rw [List.map_cons, List.mem_cons, List.map_map, List.mem_map] at hf
    rcases hf with rfl | ⟨u, -, rfl⟩
    · simp
    · exact comma_notMem_repr u
  have hlist : ",".toList.intercalate (("now()" :: vs.map Nat.repr).map String.toList) =
      ",".toList.intercalate (("now()" :: ws.map Nat.repr).map String.toList) := by
    rw [← String.toList_intercalate, ← String.toList_intercalate, String.toList_inj]
    simpa [row] using h
  have hsplit := congrArg (List.splitOn ',') hlist
  rw [show ",".toList = [','] from rfl, List.splitOn_intercalate _ (hfields vs) (by simp),
    List.splitOn_intercalate _ (hfields ws) (by simp)] at hsplit
  have hstrings : vs.map Nat.repr = ws.map Nat.repr := by
    refine List.map_injective_iff.mpr (fun _ _ h => String.toList_inj.mp h) ?_
    exact (List.cons.inj hsplit).2
  exact List.map_injective_iff.mpr repr_injective hstrings

/-- **Nothing is lost in the statement.**  Two passes of a logger execute the same statement only
if they read the same numbers. -/
theorem savedata_inj (l : Logger) (o o' : Outcomes) :
    savedata l o = savedata l o' ↔ values l o = values l o' := by
  rw [savedata_eq_row, savedata_eq_row, (row_injective (table l)).eq_iff]

theorem wide_inj (hi lo hi' lo' : UInt16) :
    wide hi lo = wide hi' lo' ↔ hi = hi' ∧ lo = lo' := by
  have h₁ := lo.toNat_lt
  have h₂ := lo'.toNat_lt
  rw [← UInt16.toNat_inj, ← UInt16.toNat_inj (a := lo)]
  simp only [wide]
  omega

/-- The two words of the pressure can be told from the number stored. -/
theorem press1_values_inj (dev : String) (o o' : Outcomes) :
    values (.press1 dev) o = values (.press1 dev) o' ↔
      o.registers 0x6B = o'.registers 0x6B ∧ o.registers 0x6C = o'.registers 0x6C := by
  simp only [values, List.cons.injEq, and_true, wide_inj]

/-! ### The buffer -/

theorem values_lt (l : Logger) (o : Outcomes) : ∀ v ∈ values l o, v < 2 ^ 32 := by
  have hw : ∀ w : UInt16, w.toNat < 65536 := fun w => w.toNat_lt
  cases l with
  | cool dev =>
      have h₀ := hw (o.registers 0x00)
      have h₄ := hw (o.registers 0x04)
      simp only [values, List.mem_cons, List.not_mem_nil, or_false]
      omega
  | temp dev mod =>
      have h₀ := hw (o.registers 0x28)
      have h₁ := hw (o.registers 0x29)
      have h₂ := hw (o.registers 0x2A)
      have h₃ := hw (o.registers 0x2B)
      simp only [values, List.mem_cons, List.not_mem_nil, or_false]
      omega
  | press1 dev =>
      have hhi := hw (o.registers 0x6B)
      have hlo := hw (o.registers 0x6C)
      simp only [values, wide, List.mem_cons, List.not_mem_nil, or_false]
      omega

theorem values_length (l : Logger) (o : Outcomes) : (values l o).length ≤ 5 := by
  cases l <;> simp [values]

theorem utf8Len_of_isDigit {cs : List Char} (h : ∀ c ∈ cs, c.isDigit) :
    String.utf8Len cs = cs.length := by
  induction cs with
  | nil => rfl
  | cons c cs ih =>
      have hc : c.utf8Size = 1 := by
        have hdigit := Char.isDigit_iff_toNat.mp (h c List.mem_cons_self)
        rw [Char.utf8Size_eq_one_iff, UInt32.le_iff_toNat_le]
        exact hdigit.2.trans (by decide)
      rw [String.utf8Len_cons, hc, ih fun x hx => h x (List.mem_cons_of_mem c hx), List.length_cons]

/-- A number below `10 ^ k` takes no more than `k` bytes. -/
theorem utf8ByteSize_repr_le {n k : ℕ} (hk : 0 < k) (h : n < 10 ^ k) :
    n.repr.utf8ByteSize ≤ k := by
  have hdigit : ∀ c ∈ Nat.toDigits 10 n, c.isDigit := fun c hc =>
    Nat.isDigit_of_mem_toDigits (by decide) (by decide) hc
  rw [Nat.repr_eq_ofList_toDigits, String.utf8ByteSize_ofList, utf8Len_of_isDigit hdigit]
  exact (Nat.length_toDigits_le_iff (by decide) hk).mpr h

/-- Fields of no more than `k` bytes, each with its comma. -/
theorem utf8ByteSize_intercalate_le {k : ℕ} {fields : List String}
    (h : ∀ f ∈ fields, f.utf8ByteSize ≤ k) :
    (",".intercalate fields).utf8ByteSize ≤ fields.length * (k + 1) := by
  induction fields with
  | nil => simp
  | cons f fs ih =>
      have hf := h f List.mem_cons_self
      have hfs := ih fun x hx => h x (List.mem_cons_of_mem f hx)
      have hcomma : ",".utf8ByteSize = 1 := rfl
      rw [List.length_cons, Nat.succ_mul]
      by_cases hnil : fs = []
      · rw [hnil, String.intercalate_singleton]
        omega
      · rw [String.intercalate_cons_of_ne_nil hnil, String.utf8ByteSize_append,
          String.utf8ByteSize_append]
        omega

/-- **The buffer is large enough.**  `sprintf` writes the statement and a terminating zero into
`char savedata[1024]`. -/
theorem savedata_fits (l : Logger) (o : Outcomes) : (savedata l o).utf8ByteSize + 1 ≤ 1024 := by
  have hfields : ∀ f ∈ "now()" :: (values l o).map Nat.repr, f.utf8ByteSize ≤ 10 := by
    intro f hf
    rw [List.mem_cons, List.mem_map] at hf
    rcases hf with rfl | ⟨v, hv, rfl⟩
    · decide
    · have hlt := values_lt l o v hv
      exact utf8ByteSize_repr_le (by decide) (by omega)
  have hbody := utf8ByteSize_intercalate_le hfields
  have hlength := values_length l o
  have htable : (table l).utf8ByteSize ≤ 6 := by
    cases l <;> exact Nat.le_of_ble_eq_true rfl
  have hhead : "insert into ".utf8ByteSize = 12 := rfl
  have hopen : " values(".utf8ByteSize = 8 := rfl
  have hclose : ")".utf8ByteSize = 1 := rfl
  rw [List.length_cons, List.length_map] at hbody
  rw [savedata_eq_row, row, String.utf8ByteSize_append, String.utf8ByteSize_append,
    String.utf8ByteSize_append, String.utf8ByteSize_append]
  omega

end ModbusRTU.RowStatements
