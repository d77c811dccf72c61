import ModbusRTU.Loggers.RowStatements

/-!
# What a run stores and prints

Seen from outside, a pass does one of two things: it stores its row and prints nothing, or it prints
one line that says where it stopped and stores nothing.  Then it sleeps once.

* **`run_rows`** — the rows a run has stored are those of the passes in which every call succeeded,
  in their order: none is lost, doubled or mixed with another.
* **`run_lines`** — the lines a run has printed are the reports of the other passes, in their order.
* **`run_sleeps`** — a run sleeps once for each pass, always for the same time.
* **`run_accounts`** — together they account for each pass once.
-/

namespace ModbusRTU.RunReports

open CallProgram LibraryCalls PollingLoggers LoggerRuns CallResources PassCalls RowStatements

/-! ### Reading a trace from outside -/

/-- The statement a call executed. -/
@[simp] def executed : Call → Option String
  | ⟨.mysqlQuery _ stmt, rc⟩ => if rc = 0 then some stmt else none
  | _ => none

@[simp] def printed : Call → Option String
  | ⟨.cout line, _⟩ => some line
  | _ => none

@[simp] def slept : Call → Option ℕ
  | ⟨.sleep seconds, _⟩ => some seconds
  | _ => none

/-- Every call of the pass succeeds. -/
def Stores (o : Outcomes) : Prop :=
  o.modbusNewRtu = true ∧ o.modbusConnect ≠ -1 ∧ o.modbusReadRegisters ≠ -1 ∧
    o.mysqlRealConnect = true ∧ o.mysqlQuery = 0

instance (o : Outcomes) : Decidable (Stores o) := inferInstanceAs (Decidable (_ ∧ _ ∧ _ ∧ _ ∧ _))

/-- The row of a pass that stores one. -/
def storedRow (l : Logger) (o : Outcomes) : Option String :=
  if Stores o then some (row (table l) (values l o)) else none

/-- The line of a pass that stores nothing: the first call that failed. -/
def report (o : Outcomes) : Option String :=
  if o.modbusNewRtu = false then some "Unable to create the libmodbus context"
  else if o.modbusConnect = -1 then some ("Connect failed: " ++ o.modbusStrerror)
  else if o.modbusReadRegisters = -1 then some o.modbusStrerror
  else if o.mysqlRealConnect = false then some "connect mysql error..."
  else if o.mysqlQuery ≠ 0 then some "insert data error..."
  else none

/-- A pass reports exactly when it does not store. -/
theorem report_eq_none_iff (o : Outcomes) : report o = none ↔ Stores o := by
  cases hnew : o.modbusNewRtu with
  | false => simp [report, Stores, hnew]
  | true =>
      by_cases hconn : o.modbusConnect = -1
      · simp [report, Stores, hnew, hconn]
      · by_cases hread : o.modbusReadRegisters = -1
        · simp [report, Stores, hnew, hconn, hread]
        · cases hmysql : o.mysqlRealConnect with
          | false => simp [report, Stores, hnew, hconn, hread, hmysql]
          | true => simp [report, Stores, hnew, hconn, hread, hmysql]

/-! ### One pass -/

/-- Where the calls on the serial line show nothing, a pass shows what its MySQL block shows. -/
theorem filterMap_insert {β : Type} (f : Call → Option β) {pre mid post : List Call}
    (h : (pre ++ post).filterMap f = []) : (pre ++ mid ++ post).filterMap f = mid.filterMap f := by
  rw [List.filterMap_append, List.append_eq_nil_iff] at h
  rw [List.filterMap_append, List.filterMap_append, h.1, h.2, List.nil_append, List.append_nil]

variable {l : Logger} {o : Outcomes} {n m : ℕ} {w : List Call}

theorem rowCalls_executed (stmt : String) (o : Outcomes) (n : ℕ) :
    (rowCalls stmt o n).filterMap executed =
      if o.mysqlRealConnect = true ∧ o.mysqlQuery = 0 then [stmt] else [] := by
  cases hmysql : o.mysqlRealConnect with
  | false => simp [rowCalls, hmysql]
  | true => by_cases hq : o.mysqlQuery = 0 <;> simp [rowCalls, hmysql, hq, List.filterMap_cons]

theorem rowCalls_printed (stmt : String) (o : Outcomes) (n : ℕ) :
    (rowCalls stmt o n).filterMap printed =
      if o.mysqlRealConnect = false then ["connect mysql error..."]
      else if o.mysqlQuery ≠ 0 then ["insert data error..."]
      else [] := by
  cases hmysql : o.mysqlRealConnect with
  | false => simp [rowCalls, hmysql, List.filterMap_cons]
  | true => by_cases hq : o.mysqlQuery = 0 <;> simp [rowCalls, hmysql, hq, List.filterMap_cons]

theorem pass_executed (h : Pass l o n m w) : w.filterMap executed = (storedRow l o).toList := by
  rw [storedRow, ← savedata_eq_row]
  cases h with
  | noContext hnew => simp [Stores, hnew, noContextCalls]
  | connectFailed hnew hconn => simp [Stores, hconn, connectCalls, connectFailedCalls]
  | readFailed hfail => simp [Stores, hfail.2.2, connectCalls, readCalls, readFailedCalls]
  | row pre post hnew hconn hread hserial =>
      have hnone : (pre ++ post).filterMap executed = [] := by
        rw [hserial]
        simp [serialCalls, connectCalls, readCalls]
      rw [filterMap_insert executed hnone, rowCalls_executed]
      by_cases hstore : o.mysqlRealConnect = true ∧ o.mysqlQuery = 0
      · rw [if_pos hstore, if_pos ⟨hnew, hconn, hread, hstore⟩, Option.toList_some]
      · rw [if_neg hstore, if_neg fun hs => hstore hs.2.2.2, Option.toList_none]

theorem pass_printed (h : Pass l o n m w) : w.filterMap printed = (report o).toList := by
  cases h with
  | noContext hnew => simp [report, hnew, noContextCalls, List.filterMap_cons]
  | connectFailed hnew hconn =>
      simp [report, hnew, hconn, connectCalls, connectFailedCalls, List.filterMap_cons]
  | readFailed hfail =>
      obtain ⟨hnew, hconn, hread⟩ := hfail
      simp [report, hnew, hconn, hread, connectCalls, readCalls, readFailedCalls,
        List.filterMap_cons]
  | row pre post hnew hconn hread hserial =>
      have hnone : (pre ++ post).filterMap printed = [] := by
        rw [hserial]
        simp [serialCalls, connectCalls, readCalls]
      have hrow : report o =
          if o.mysqlRealConnect = false then some "connect mysql error..."
          else if o.mysqlQuery ≠ 0 then some "insert data error..."
          else none := by
        simp [report, hnew, hconn, hread]
      rw [filterMap_insert printed hnone, rowCalls_printed, hrow, apply_ite Option.toList,
        apply_ite Option.toList]
      rfl

theorem pass_slept (h : Pass l o n m w) : w.filterMap slept = [] := by
  rw [List.filterMap_eq_nil_iff]
  intro c hc
  have hsleep := h.not_sleep c hc
  obtain ⟨op, r⟩ := c
  cases op with
  | sleep seconds => exact absurd ⟨seconds, rfl⟩ hsleep
  | _ => rfl

/-! ### A run -/

/-- What is read off each pass in the same way is read off the run, pass by pass. -/
theorem runTrace_filterMap {β : Type} (l : Logger) (f : Call → Option β) (g : Outcomes → Option β)
    (hpass : ∀ o n m w, Pass l o n m w →
      (w ++ [(⟨.sleep (sleepTime l), ()⟩ : Call)]).filterMap f = (g o).toList)
    (outs : List Outcomes) : (runTrace l outs).filterMap f = outs.filterMap g := by
  rw [List.filterMap_eq_flatMap_toList g]
  refine Prog.loop_filterMap f (fun o => (g o).toList) (fun o n => ?_) outs 0
  obtain ⟨w, htrace, h⟩ := pass_calls l o n
  rw [htrace]
  exact hpass o n _ w h

/-- **Rows.**  A run has stored the rows of the passes in which every call succeeded, in order. -/
theorem run_rows (l : Logger) (outs : List Outcomes) :
    (runTrace l outs).filterMap executed = outs.filterMap (storedRow l) := by
  refine runTrace_filterMap l executed (storedRow l) (fun o n m w h => ?_) outs
  rw [List.filterMap_append, pass_executed h]
  exact List.append_nil _

/-- **Lines.**  A run has printed one line for each of the other passes, in order. -/
theorem run_lines (l : Logger) (outs : List Outcomes) :
    (runTrace l outs).filterMap printed = outs.filterMap report := by
  refine runTrace_filterMap l printed report (fun o n m w h => ?_) outs
  rw [List.filterMap_append, pass_printed h]
  exact List.append_nil _

/-- **Sleeps.**  A run has slept once for each pass. -/
theorem run_sleeps (l : Logger) (outs : List Outcomes) :
    (runTrace l outs).filterMap slept = List.replicate outs.length (sleepTime l) := by
  rw [runTrace_filterMap l slept (fun _ => some (sleepTime l)) (fun o n m w h => ?_) outs]
  · rw [List.filterMap_eq_map', List.map_const']
  · rw [List.filterMap_append, pass_slept h]
    rfl

/-- Rows and lines account for the passes. -/
theorem run_rows_add_lines (l : Logger) (outs : List Outcomes) :
    ((runTrace l outs).filterMap executed).length + ((runTrace l outs).filterMap printed).length =
      outs.length := by
  rw [run_rows, run_lines]
  induction outs with
  | nil => rfl
  | cons o outs ih =>
      rw [List.filterMap_cons, List.filterMap_cons, List.length_cons, ← ih]
      by_cases hs : Stores o
      · have hr := (report_eq_none_iff o).mpr hs
        simp only [storedRow, if_pos hs, hr, List.length_cons]
        omega
      · have hr := mt (report_eq_none_iff o).mp hs
        obtain ⟨line, hline⟩ := Option.ne_none_iff_exists'.mp hr
        simp only [storedRow, if_neg hs, hline, List.length_cons]
        omega

/-- **The account of a run.** -/
theorem run_accounts (l : Logger) (outs : List Outcomes) :
    (runTrace l outs).filterMap executed = outs.filterMap (storedRow l) ∧
      (runTrace l outs).filterMap printed = outs.filterMap report ∧
      (runTrace l outs).filterMap slept = List.replicate outs.length (sleepTime l) ∧
      ((runTrace l outs).filterMap executed).length + ((runTrace l outs).filterMap printed).length =
        outs.length :=
  ⟨run_rows l outs, run_lines l outs, run_sleeps l outs, run_rows_add_lines l outs⟩

end ModbusRTU.RunReports
