import ModbusRTU.Loggers.CallResources
import ModbusRTU.Loggers.LoggerRuns

/-!
# What one pass of a logger does

A pass ends in one of four ways: without a context, after a failed `modbus_connect`, after a failed
`modbus_read_registers`, or with a row for the database.  `PassCalls` lists them with their calls,
and `pass_calls` shows that the pass of each logger is on the list.  In the last way the calls of
the MySQL block stand somewhere among those on the serial line, before the release in `cool` and
`temp` and after it in `press1`; the list says no more, and nothing below depends on where.

From the list follow the facts a run needs: the pass names nothing but what it drew from the counter
(`Pass.within`), makes no `sleep` but the one at its end (`Pass.not_sleep`), and is settled unless the
read failed (`Pass.settled_iff`), in which case the open descriptor is all it leaves
(`Pass.released`, `Pass.held_descriptors`).
-/

namespace ModbusRTU.PassCalls

open CallProgram TraceLaw LibraryCalls PollingLoggers LoggerRuns CallResources

/-- The pass reaches the read, and the read fails. -/
def ReadFails (o : Outcomes) : Prop :=
  o.modbusNewRtu = true ∧ o.modbusConnect ≠ -1 ∧ o.modbusReadRegisters = -1

instance (o : Outcomes) : Decidable (ReadFails o) := inferInstanceAs (Decidable (_ ∧ _ ∧ _))

/-- What a logger reads: the serial device, the first register and the number of registers. -/
def device : Logger → String
  | .cool device | .temp device _ | .press1 device => device

def addr : Logger → ℕ
  | .cool _ => 0x0000
  | .temp .. => 0x0028
  | .press1 _ => 0x006B

def nb : Logger → ℕ
  | .cool _ => 0x0005
  | .temp .. => 0x0004
  | .press1 _ => 0x0002

def sleepTime : Logger → ℕ
  | .cool _ => coolSleepTime
  | .temp .. => tempSleepTime
  | .press1 _ => press1SleepTime

/-- The statement a logger executes after a read. -/
def savedata (l : Logger) (o : Outcomes) : String :=
  match l with
  | .cool _ => coolSavedata (tabRegOf (addr l) (nb l) o)
  | .temp _ mod => tempSavedata mod (tabRegOf (addr l) (nb l) o)
  | .press1 _ => press1Savedata (tabRegOf (addr l) (nb l) o)

/-- The calls on the serial line of a pass that reads its registers. -/
def serialCalls (l : Logger) (o : Outcomes) (n : ℕ) : List Call :=
  connectCalls (device l) o n ++ readCalls (addr l) (nb l) o n ++
    [⟨.modbusClose ⟨n⟩, ()⟩, ⟨.modbusFree ⟨n⟩, ()⟩]

/-- The four ways of a pass that starts with the counter at `n`: the counter at its end, and its
calls up to the `sleep`. -/
inductive Pass (l : Logger) (o : Outcomes) (n : ℕ) : ℕ → List Call → Prop
  | noContext (hnew : o.modbusNewRtu = false) : Pass l o n n (noContextCalls (device l))
  | connectFailed (hnew : o.modbusNewRtu = true) (hconn : o.modbusConnect = -1) :
      Pass l o n (n + 1) (connectCalls (device l) o n ++ connectFailedCalls o n)
  | readFailed (hfail : ReadFails o) :
      Pass l o n (n + 1)
        (connectCalls (device l) o n ++ readCalls (addr l) (nb l) o n ++ readFailedCalls o n)
  | row (pre post : List Call) (hnew : o.modbusNewRtu = true) (hconn : o.modbusConnect ≠ -1)
      (hread : o.modbusReadRegisters ≠ -1) (hserial : pre ++ post = serialCalls l o n) :
      Pass l o n (n + 2) (pre ++ rowCalls (savedata l o) o (n + 1) ++ post)

/-- A finished pass: one of the four ways, then the `sleep`. -/
def PassThenSleep (l : Logger) (o : Outcomes) (n : ℕ) (x : Exec Op Ans ℕ Unit) : Prop :=
  ∃ w, x.trace = w ++ [⟨.sleep (sleepTime l), ()⟩] ∧ Pass l o n x.state w

/-- The exits of a pass before its registers are the same in each logger. -/
theorem pass_of_pollRegisters {l : Logger} {onRead : ModbusT → TabReg → Poll Unit}
    (hpass : l.pass = pollRegisters (sleepTime l) (device l) (addr l) (nb l) onRead)
    (o : Outcomes) (n : ℕ)
    (hrow : o.modbusNewRtu = true → o.modbusConnect ≠ -1 → o.modbusReadRegisters ≠ -1 →
      PassThenSleep l o n (l.pass.run (library o) n)) :
    PassThenSleep l o n (l.pass.run (library o) n) := by
  cases hnew : o.modbusNewRtu with
  | false =>
      rw [hpass, run_noContext _ _ _ _ _ o n hnew]
      exact ⟨_, rfl, Pass.noContext hnew⟩
  | true =>
      by_cases hconn : o.modbusConnect = -1
      · rw [hpass, run_connectFailed _ _ _ _ _ o n hnew hconn]
        exact ⟨_, rfl, Pass.connectFailed hnew hconn⟩
      · by_cases hread : o.modbusReadRegisters = -1
        · rw [hpass, run_readFailed _ _ _ _ _ o n hnew hconn hread]
          exact ⟨_, rfl, Pass.readFailed ⟨hnew, hconn, hread⟩⟩
        · exact hrow hnew hconn hread

/-- **The list is complete.**  Every pass of every logger goes one of the four ways. -/
theorem pass_calls (l : Logger) (o : Outcomes) (n : ℕ) :
    PassThenSleep l o n (l.pass.run (library o) n) := by
  cases l with
  | cool dev =>
      refine pass_of_pollRegisters rfl o n fun hnew hconn hread => ?_
      rw [Logger.pass, cool, run_read _ _ _ _ _ o n hnew hconn hread, run_insertThenRelease]
      refine ⟨_, ?_, Pass.row (connectCalls dev o n ++ readCalls 0x0000 0x0005 o n)
        [⟨.modbusClose ⟨n⟩, ()⟩, ⟨.modbusFree ⟨n⟩, ()⟩] hnew hconn hread rfl⟩
      simp [savedata, sleepTime, addr, nb]
  | temp dev mod =>
      refine pass_of_pollRegisters rfl o n fun hnew hconn hread => ?_
      rw [Logger.pass, temp, run_read _ _ _ _ _ o n hnew hconn hread, run_insertThenRelease]
      refine ⟨_, ?_, Pass.row (connectCalls dev o n ++ readCalls 0x0028 0x0004 o n)
        [⟨.modbusClose ⟨n⟩, ()⟩, ⟨.modbusFree ⟨n⟩, ()⟩] hnew hconn hread rfl⟩
      simp [savedata, sleepTime, addr, nb]
  | press1 dev =>
      refine pass_of_pollRegisters rfl o n fun hnew hconn hread => ?_
      rw [Logger.pass, press1, run_read _ _ _ _ _ o n hnew hconn hread, run_releaseThenInsert]
      refine ⟨_, ?_, Pass.row (serialCalls (.press1 dev) o n) [] hnew hconn hread
        (List.append_nil _)⟩
      simp [savedata, sleepTime, addr, nb, serialCalls, device]

/-! ### The calls of each part -/

theorem rowCalls_within (stmt : String) (o : Outcomes) (n : ℕ) :
    Within nameOf n (n + 1) (rowCalls stmt o n) := by
  unfold rowCalls
  split
  · split <;> simp
  · simp

theorem rowCalls_settled (stmt : String) (o : Outcomes) (n : ℕ) : Settled (rowCalls stmt o n) := by
  rw [settled_iff_laws]
  cases hconn : o.mysqlRealConnect with
  | false => simp [rowCalls, hconn]
  | true => by_cases hq : o.mysqlQuery = 0 <;> simp [rowCalls, hconn, hq]

theorem rowCalls_not_sleep (stmt : String) (o : Outcomes) (n : ℕ) :
    ∀ c ∈ rowCalls stmt o n, ¬ IsSleep c := by
  unfold rowCalls
  split
  · split <;> simp [IsSleep]
  · simp [IsSleep]

theorem serialCalls_within (l : Logger) (o : Outcomes) (n : ℕ) :
    Within nameOf n (n + 1) (serialCalls l o n) := by
  simp [serialCalls, connectCalls, readCalls]

theorem serialCalls_settled (l : Logger) (o : Outcomes) (n : ℕ) : Settled (serialCalls l o n) := by
  rw [settled_iff_laws]
  by_cases hconn : o.modbusConnect = -1 <;> simp [serialCalls, connectCalls, readCalls, hconn]

theorem serialCalls_not_sleep (l : Logger) (o : Outcomes) (n : ℕ) :
    ∀ c ∈ serialCalls l o n, ¬ IsSleep c := by
  simp [serialCalls, connectCalls, readCalls, IsSleep]

/-! ### What the list says of a pass -/

namespace Pass

variable {l : Logger} {o : Outcomes} {n m : ℕ} {w : List Call}

/-- A pass names nothing but what it drew from the counter. -/
theorem within (h : Pass l o n m w) : n ≤ m ∧ Within nameOf n m w := by
  cases h with
  | noContext hnew => exact ⟨le_rfl, by simp [noContextCalls]⟩
  | connectFailed hnew hconn => exact ⟨by omega, by simp [connectCalls, connectFailedCalls]⟩
  | readFailed hfail => exact ⟨by omega, by simp [connectCalls, readCalls, readFailedCalls]⟩
  | row pre post hnew hconn hread hserial =>
      have hs : Within nameOf n (n + 1) (pre ++ post) := hserial ▸ serialCalls_within l o n
      have hr := rowCalls_within (savedata l o) o (n + 1)
      exact ⟨by omega, hs.insert hr (by omega) (by omega)⟩

/-- A pass makes no other `sleep` than the one at its end. -/
theorem not_sleep (h : Pass l o n m w) : ∀ c ∈ w, ¬ IsSleep c := by
  cases h with
  | noContext hnew => simp [noContextCalls, IsSleep]
  | connectFailed hnew hconn => simp [connectCalls, connectFailedCalls, IsSleep]
  | readFailed hfail => simp [connectCalls, readCalls, readFailedCalls, IsSleep]
  | row pre post hnew hconn hread hserial =>
      have hs : ∀ c ∈ pre ++ post, ¬ IsSleep c := hserial ▸ serialCalls_not_sleep l o n
      have hr := rowCalls_not_sleep (savedata l o) o (n + 1)
      intro c hc
      rcases List.mem_append.mp hc with hc | hc
      · rcases List.mem_append.mp hc with hc | hc
        · exact hs c (List.mem_append_left post hc)
        · exact hr c hc
      · exact hs c (List.mem_append_right pre hc)

/-- **A pass is settled unless its read fails.** -/
theorem settled_iff (h : Pass l o n m w) : Settled w ↔ ¬ ReadFails o := by
  cases h with
  | noContext hnew =>
      have hw : Settled (noContextCalls (device l)) := by
        simp [settled_iff_laws, noContextCalls]
      exact iff_of_true hw fun hfail => by simp [ReadFails, hnew] at hfail
  | connectFailed hnew hconn =>
      have hw : Settled (connectCalls (device l) o n ++ connectFailedCalls o n) := by
        simp [settled_iff_laws, connectCalls, connectFailedCalls, hconn]
      exact iff_of_true hw fun hfail => hfail.2.1 hconn
  | readFailed hfail =>
      refine iff_of_false (fun hw => ?_) (not_not_intro hfail)
      -- `modbus_connect` opened the descriptor, and no later call closes it
      have hfd := ((settled_iff_laws _).mp hw).2.1
      simp [connectCalls, readCalls, readFailedCalls, hfail.2.1] at hfd
  | row pre post hnew hconn hread hserial =>
      have hs : Within nameOf n (n + 1) (pre ++ post) := hserial ▸ serialCalls_within l o n
      have hr := rowCalls_within (savedata l o) o (n + 1)
      have hw : Settled (pre ++ rowCalls (savedata l o) o (n + 1) ++ post) :=
        (settled_insert (hs.apart hr)).mpr
          ⟨hserial ▸ serialCalls_settled l o n, rowCalls_settled _ o (n + 1)⟩
      exact iff_of_true hw fun hfail => hread hfail.2.2

theorem of_readFails (h : Pass l o n m w) (hfail : ReadFails o) :
    w = connectCalls (device l) o n ++ readCalls (addr l) (nb l) o n ++ readFailedCalls o n := by
  cases h with
  | noContext hnew => simp [ReadFails, hnew] at hfail
  | connectFailed hnew hconn => exact absurd hconn hfail.2.1
  | readFailed => rfl
  | row pre post hnew hconn hread hserial => exact absurd hfail.2.2 hread

/-- Whether the read fails or not, a pass frees its context once, closes its session once and does
not touch a freed context. -/
theorem released (h : Pass l o n m w) : contextLease.releasedOnce.Holds w ∧
    sessionLease.releasedOnce.Holds w ∧ noUseAfterFree.Holds w := by
  by_cases hfail : ReadFails o
  · rw [h.of_readFails hfail]
    simp [connectCalls, readCalls, readFailedCalls]
  · obtain ⟨hctx, -, hsess, huse⟩ := (settled_iff_laws w).mp (h.settled_iff.mpr hfail)
    exact ⟨hctx, hsess, huse⟩

/-- What a pass leaves open: the descriptor of its context if its read fails, else nothing. -/
theorem held_descriptors (h : Pass l o n m w) :
    descriptorLease.held w = if ReadFails o then {⟨n⟩} else ∅ := by
  by_cases hfail : ReadFails o
  · rw [h.of_readFails hfail, if_pos hfail]
    simp [Lease.held, Lease.after, connectCalls, readCalls, readFailedCalls, hfail.2.1]
  · rw [if_neg hfail]
    exact (h.settled_iff.mpr hfail).held_eq_empty.2.1

end Pass

end ModbusRTU.PassCalls
