import ModbusRTU.Loggers.PassCalls

/-!
# Runs: what the loggers hold at their sleeps

One pass is judged in `PassCalls`; here the passes of a run are put together.  Each draws its own
names from the counter, so what holds of the passes holds of the run (`run_inv`), and a run cut after
a `sleep` is a shorter run.

* **`settledAtEverySleep_iff`** — at every `sleep` everything acquired has been given back, if and
  only if no pass reached the read and failed there.
* **`run_released`** — contexts and sessions are given back exactly once, and no freed context is
  touched, in every run.
* **`run_open_descriptors`** — the serial descriptors still open after a run are as many as its failed
  reads.
-/

namespace ModbusRTU.SettledRuns

open CallProgram TraceLaw LibraryCalls PollingLoggers LoggerRuns CallResources PassCalls

/-- What holds after the passes `outs` with calls `t`, when the counter is at `n`. -/
structure RunInv (outs : List Outcomes) (t : List Call) (n : ℕ) : Prop where
  within : Within nameOf 0 n t
  settled : Settled t ↔ ∀ o ∈ outs, ¬ ReadFails o
  contexts : contextLease.releasedOnce.Holds t
  sessions : sessionLease.releasedOnce.Holds t
  useAfterFree : noUseAfterFree.Holds t
  descriptors : (descriptorLease.held t).card = outs.countP fun o => ReadFails o

theorem runInv_entry : RunInv [] [] 0 where
  within := Within.nil
  settled := by simp [settled_iff_laws]
  contexts := trivial
  sessions := trivial
  useAfterFree := trivial
  descriptors := by simp

/-- **One more pass.** -/
theorem runInv_pass (l : Logger) (outs : List Outcomes) (t : List Call) (n : ℕ) (o : Outcomes)
    (h : RunInv outs t n) :
    RunInv (outs ++ [o]) (t ++ (l.pass.run (library o) n).trace) (l.pass.run (library o) n).state := by
  obtain ⟨w, htrace, hpass⟩ := pass_calls l o n
  obtain ⟨hle, hw⟩ := hpass.within
  obtain ⟨hctx, hsess, huse⟩ := hpass.released
  have hsleep : nameOf (⟨.sleep (sleepTime l), ()⟩ : Call) = none := rfl
  have hwithin : Within nameOf n (l.pass.run (library o) n).state
      (w ++ [⟨.sleep (sleepTime l), ()⟩]) := hw.append (by simp) hle le_rfl
  have hapart := h.within.apart hwithin
  have hall : (∀ x ∈ outs ++ [o], ¬ ReadFails x) ↔ (∀ x ∈ outs, ¬ ReadFails x) ∧ ¬ ReadFails o := by
    simp only [List.forall_mem_append, List.forall_mem_singleton]
  rw [htrace]
  exact {
    within := h.within.append hwithin (Nat.zero_le n) hle
    settled := by
      rw [settled_append hapart, h.settled, settled_snoc_of_unnamed hsleep, hpass.settled_iff, hall]
    contexts := (Law.holds_append _ hapart).mpr ⟨h.contexts, hctx.snoc hsleep⟩
    sessions := (Law.holds_append _ hapart).mpr ⟨h.sessions, hsess.snoc hsleep⟩
    useAfterFree := (Law.holds_append _ hapart).mpr ⟨h.useAfterFree, huse.snoc hsleep⟩
    descriptors := by
      rw [Lease.card_held_append _ hapart, h.descriptors, Lease.held_snoc,
        Lease.after_other _ _ rfl rfl, hpass.held_descriptors, List.countP_append,
        List.countP_singleton]
      by_cases hfail : ReadFails o <;> simp [hfail] }

/-- **The invariant of a run**, after any number of passes with any outcomes. -/
theorem run_inv (l : Logger) (outs : List Outcomes) :
    RunInv outs (runTrace l outs) (Prog.loop library l.pass outs 0).state :=
  Prog.loop_rule library l.pass 0 RunInv runInv_entry
    (fun outs t n o h => runInv_pass l outs t n o h) outs

/-! ### The sleeps of a run -/

theorem pass_endsWith_sleep (l : Logger) : Prog.EndsWith IsSleep library l.pass := by
  intro o n
  obtain ⟨w, htrace, hpass⟩ := pass_calls l o n
  exact ⟨w, _, htrace, ⟨_, rfl⟩, hpass.not_sleep⟩

/-- A run with at least one pass ends with a `sleep`. -/
theorem runTrace_snoc (l : Logger) (outs : List Outcomes) (o : Outcomes) :
    ∃ w, runTrace l (outs ++ [o]) = w ++ [⟨.sleep (sleepTime l), ()⟩] := by
  obtain ⟨w, htrace, -⟩ := pass_calls l o (Prog.loop library l.pass outs 0).state
  refine ⟨runTrace l outs ++ w, ?_⟩
  rw [runTrace, Prog.loop_snoc, htrace, ← List.append_assoc, runTrace]

/-- The last `sleep` of a run judges the whole run. -/
theorem settled_of_settledAtEverySleep (l : Logger) (outs : List Outcomes)
    (h : SettledAtEverySleep (runTrace l outs)) : Settled (runTrace l outs) := by
  rcases List.eq_nil_or_concat outs with rfl | ⟨init, last, rfl⟩
  · exact (run_inv l []).settled.mpr (by simp)
  · rw [List.concat_eq_append] at h ⊢
    obtain ⟨w, hw⟩ := runTrace_snoc l init last
    have hset : Settled w := h w _ [] hw ⟨_, rfl⟩
    rwa [hw, settled_snoc_of_unnamed rfl]

/-- **The loggers give everything back at every sleep, exactly when no read fails.**  A pass whose
`modbus_read_registers` returns -1 frees its context without `modbus_close`, and the descriptor
stays open. -/
theorem settledAtEverySleep_iff (l : Logger) (outs : List Outcomes) :
    SettledAtEverySleep (runTrace l outs) ↔ ∀ o ∈ outs, ¬ ReadFails o := by
  constructor
  · intro h
    exact (run_inv l outs).settled.mp (settled_of_settledAtEverySleep l outs h)
  · intro h pre c post hsplit hc
    obtain ⟨js, hjs, -, htrace⟩ := Prog.loop_cut (pass_endsWith_sleep l) hsplit hc
    have hset : Settled (runTrace l js) :=
      (run_inv l js).settled.mpr fun o ho => h o (hjs.subset ho)
    obtain ⟨seconds, rfl⟩ := hc
    rwa [runTrace, htrace, settled_snoc_of_unnamed rfl] at hset

/-- The instrument does not answer; all else goes well. -/
def noAnswer : Outcomes where
  modbusNewRtu := true
  modbusConnect := 0
  modbusReadRegisters := -1
  registers := fun _ => 0
  modbusStrerror := "Connection timed out"
  mysqlRealConnect := true
  mysqlQuery := 0

/-- One pass without an answer is enough, in each of the three. -/
theorem not_settledAtEverySleep_noAnswer :
    ¬ SettledAtEverySleep (runTrace (.cool "/dev/ttyUSB0") [noAnswer]) ∧
      ¬ SettledAtEverySleep (runTrace (.temp "/dev/ttyUSB0" 1) [noAnswer]) ∧
      ¬ SettledAtEverySleep (runTrace (.press1 "/dev/ttyUSB1") [noAnswer]) := by
  have hfail : ReadFails noAnswer := by decide
  have hleak : ∀ l, ¬ SettledAtEverySleep (runTrace l [noAnswer]) := by
    intro l h
    have hset := settled_of_settledAtEverySleep l [noAnswer] h
    exact (run_inv l [noAnswer]).settled.mp hset noAnswer (by simp) hfail
  exact ⟨hleak _, hleak _, hleak _⟩

/-! ### Every run, reads failing or not -/

/-- **Contexts and sessions.**  In every run each context is freed exactly once and not touched
after that, and each session is closed exactly once. -/
theorem run_released (l : Logger) (outs : List Outcomes) :
    contextLease.releasedOnce.Holds (runTrace l outs) ∧
      sessionLease.releasedOnce.Holds (runTrace l outs) ∧ noUseAfterFree.Holds (runTrace l outs) :=
  ⟨(run_inv l outs).contexts, (run_inv l outs).sessions, (run_inv l outs).useAfterFree⟩

/-- **Descriptors.**  Each failed read leaves one serial descriptor open for good. -/
theorem run_open_descriptors (l : Logger) (outs : List Outcomes) :
    (descriptorLease.held (runTrace l outs)).card = outs.countP fun o => ReadFails o :=
  (run_inv l outs).descriptors

/-- After one pass without an answer the descriptor is held, and nothing else. -/
theorem held_noAnswer (l : Logger) :
    contextLease.held (runTrace l [noAnswer]) = ∅ ∧ sessionLease.held (runTrace l [noAnswer]) = ∅ ∧
      (descriptorLease.held (runTrace l [noAnswer])).card = 1 := by
  have hrun := run_inv l [noAnswer]
  exact ⟨contextLease.held_eq_empty hrun.contexts, sessionLease.held_eq_empty hrun.sessions,
    hrun.descriptors⟩

end ModbusRTU.SettledRuns
