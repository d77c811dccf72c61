import ModbusRTU.Loggers.SettledRuns

/-!
# How much a run holds at any time

`SettledRuns` looks at a run at its sleeps.  Here a run may be stopped after any call: what it holds
then is what its finished passes left open and what the pass under way has acquired, and a pass
acquires each kind of resource at most once.

* **`run_peak`** — after any call of any run at most one context and at most one session is held, and
  at most one serial descriptor more than there were failed reads: where no read fails, a logger never
  needs a second descriptor.
-/

namespace ModbusRTU.HeldInRuns

open CallProgram TraceLaw LibraryCalls PollingLoggers LoggerRuns CallResources PassCalls SettledRuns

/-- How often a kind of resource is acquired in a trace. -/
def acquired {Q : Type} (takes : Call → Option Q) (t : List Call) : ℕ :=
  t.countP fun c => (takes c).isSome

section Acquired

variable {Q : Type} (takes : Call → Option Q)

@[simp] theorem acquired_nil : acquired takes [] = 0 := rfl

@[simp] theorem acquired_cons (c : Call) (t : List Call) :
    acquired takes (c :: t) = acquired takes t + if (takes c).isSome then 1 else 0 := by
  rw [acquired, List.countP_cons, acquired]

@[simp] theorem acquired_append (t₁ t₂ : List Call) :
    acquired takes (t₁ ++ t₂) = acquired takes t₁ + acquired takes t₂ := List.countP_append

theorem acquired_le_of_prefix {t₁ t₂ : List Call} (h : t₁ <+: t₂) :
    acquired takes t₁ ≤ acquired takes t₂ := h.sublist.countP_le

end Acquired

/-! ### One pass -/

theorem rowCalls_acquired (stmt : String) (o : Outcomes) (n : ℕ) :
    acquired returned (rowCalls stmt o n) = 0 ∧ acquired connected (rowCalls stmt o n) = 0 ∧
      acquired sessionOpened (rowCalls stmt o n) ≤ 1 := by
  cases hmysql : o.mysqlRealConnect with
  | false => simp [rowCalls, hmysql]
  | true => by_cases hq : o.mysqlQuery = 0 <;> simp [rowCalls, hmysql, hq]

theorem serialCalls_acquired (l : Logger) (o : Outcomes) (n : ℕ) :
    acquired returned (serialCalls l o n) ≤ 1 ∧ acquired connected (serialCalls l o n) ≤ 1 ∧
      acquired sessionOpened (serialCalls l o n) = 0 := by
  by_cases hconn : o.modbusConnect = -1 <;> simp [serialCalls, connectCalls, readCalls, hconn]

/-- A pass acquires at most one context, one descriptor and one session. -/
theorem pass_acquired {l : Logger} {o : Outcomes} {n m : ℕ} {w : List Call} (h : Pass l o n m w) :
    acquired returned w ≤ 1 ∧ acquired connected w ≤ 1 ∧ acquired sessionOpened w ≤ 1 := by
  cases h with
  | noContext hnew => simp [noContextCalls]
  | connectFailed hnew hconn => simp [connectCalls, connectFailedCalls, hconn]
  | readFailed hfail => simp [connectCalls, readCalls, readFailedCalls, hfail.2.1]
  | row pre post hnew hconn hread hserial =>
      obtain ⟨hctx, hfd, hsess⟩ := serialCalls_acquired l o n
      obtain ⟨hctx', hfd', hsess'⟩ := rowCalls_acquired (savedata l o) o (n + 1)
      rw [← hserial] at hctx hfd hsess
      simp only [acquired_append] at hctx hfd hsess ⊢
      omega

/-! ### A run, stopped after any call -/

/-- What is held when a pass is stopped after the calls `w`: what was left before it, and no more
than it acquired. -/
theorem card_held_during {Q : Type} [DecidableEq Q] (L : Lease nameOf Q) {t w v : List Call} {n m : ℕ}
    (ht : Within nameOf 0 n t) (hv : Within nameOf n m v) (hw : w <+: v) :
    (L.held (t ++ w)).card ≤ (L.held t).card + acquired L.takes v := by
  have hwithin : Within nameOf n m w := fun e he => hv e (hw.subset he)
  have hheld := L.card_held_le w
  have hacq := acquired_le_of_prefix L.takes hw
  rw [L.card_held_append (ht.apart hwithin)]
  exact Nat.add_le_add_left (hheld.trans hacq) _

/-- **The most a run holds**, stopped after any call. -/
theorem run_peak (l : Logger) (outs : List Outcomes) (pre : List Call)
    (h : pre <+: runTrace l outs) :
    (contextLease.held pre).card ≤ 1 ∧ (sessionLease.held pre).card ≤ 1 ∧
      (descriptorLease.held pre).card ≤ (outs.countP fun o => ReadFails o) + 1 := by
  rcases Prog.loop_prefix h with hall | ⟨js, i, rest, w, rfl, hw, rfl⟩
  · have hinv := run_inv l outs
    rw [show pre = runTrace l outs from hall, contextLease.held_eq_empty hinv.contexts,
      sessionLease.held_eq_empty hinv.sessions, hinv.descriptors]
    simp
  · have hinv := run_inv l js
    obtain ⟨v, htrace, hpass⟩ := pass_calls l i (Prog.loop library l.pass js 0).state
    have hwithin : Within nameOf (Prog.loop library l.pass js 0).state
        (l.pass.run (library i) (Prog.loop library l.pass js 0).state).state
        (v ++ [⟨.sleep (sleepTime l), ()⟩]) :=
      hpass.within.2.append (by simp) hpass.within.1 le_rfl
    obtain ⟨hctx, hfd, hsess⟩ := pass_acquired hpass
    rw [htrace] at hw
    have h₁ : _ ≤ _ + acquired returned (v ++ [⟨.sleep (sleepTime l), ()⟩]) :=
      card_held_during contextLease hinv.within hwithin hw
    have h₂ : _ ≤ _ + acquired sessionOpened (v ++ [⟨.sleep (sleepTime l), ()⟩]) :=
      card_held_during sessionLease hinv.within hwithin hw
    have h₃ : _ ≤ _ + acquired connected (v ++ [⟨.sleep (sleepTime l), ()⟩]) :=
      card_held_during descriptorLease hinv.within hwithin hw
    rw [contextLease.held_eq_empty hinv.contexts] at h₁
    rw [sessionLease.held_eq_empty hinv.sessions] at h₂
    rw [hinv.descriptors] at h₃
    simp only [acquired_append, acquired_cons, acquired_nil, returned, connected, sessionOpened,
      Option.isSome_none, Bool.false_eq_true, if_false, Finset.card_empty, add_zero, zero_add]
      at h₁ h₂ h₃
    rw [List.countP_append]
    refine ⟨?_, ?_, ?_⟩
    · exact h₁.trans hctx
    · exact h₂.trans hsess
    · exact h₃.trans (by omega)

/-- A pass without an answer, a pass with one. -/
def lateAnswer : List Outcomes := [noAnswer, { noAnswer with modbusReadRegisters := 2 }]

/-- The bound is met by the second `modbus_connect`. -/
theorem run_peak_lateAnswer :
    (descriptorLease.held ((runTrace (.cool "/dev/ttyUSB0") lateAnswer).take 12)).card = 2 ∧
      (descriptorLease.held ((runTrace (.cool "/dev/ttyUSB0") lateAnswer).take 12)).card ≤
        (lateAnswer.countP fun o => ReadFails o) + 1 ∧
      (lateAnswer.countP fun o => ReadFails o) = 1 :=
  ⟨by decide, (run_peak _ lateAnswer _ (List.take_prefix 12 _)).2.2, by decide⟩

end ModbusRTU.HeldInRuns
