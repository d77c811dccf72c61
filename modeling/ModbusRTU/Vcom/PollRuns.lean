import ModbusRTU.Vcom.SystemRuns

/-!
# Waiting for the terminal

The daemon waits in `select` for the driver's file and the server.  What the file has to say is
`adv_proc_poll`: data of the terminal, room for the terminal, settings that differ from the ones published
last.  A `select` that comes back empty found none of what it was asked for at its end.

* **`polled_simulates`** — such runs are runs of the system.
* **`quiet_of_silent`** — nothing of the terminal is missed: if the daemon waited for data and nothing came,
  then at that time the server had been told the settings of the terminal and had acknowledged all that the
  terminal wrote, unless it was cleared.
-/

namespace ModbusRTU.PollRuns

open CallProgram WorldLogic PortBuffers DaemonCalls DaemonLoop DriverWorld DaemonRuns UartPorts UartRuns
open ServerSession SessionWorld SessionRuns SystemRuns

/-! ### What the file has to say -/

/-- `POLLIN`, `POLLOUT` and `POLLPRI`. -/
structure PollMask where
  pollin : Bool
  pollout : Bool
  pollpri : Bool
  deriving DecidableEq, Repr

/-- The settings as the terminal left them are compared with those published last. -/
def advProcPoll (u : UartPort) : PollMask where
  pollin := u.txEnabled && !isRbEmpty u.port.rx.buf
  pollout := u.rxEnabled && isRbEmpty u.port.tx.buf && !u.throttled
  pollpri :=
    let usr := u.port.attrs u.port.usrPtr
    u.port.info != usr && (u.port.info.isOpen == 1 || u.port.info.isOpen != usr.isOpen)

/-- What `select` shows of it. -/
structure Shown (mask : PollMask) (read write : Bool) (r : Selected) : Prop where
  none : r.ret = 0 → mask.pollpri = false ∧ (read = true → mask.pollin = false) ∧
    (write = true → mask.pollout = false)
  attr : 0 < r.ret → r.attr = true → mask.pollpri = true
  read : 0 < r.ret → r.read = true → read = true ∧ mask.pollin = true
  write : 0 < r.ret → r.write = true → write = true ∧ mask.pollout = true

/-- The driver looks at its port while the terminal goes on. -/
def Polls (u : UartPort) : (op : Op) → Ans op → UartPort → Prop
  | .select _ read write, r, v => ∃ ops more, v = uartRun (uartRun u ops) more ∧
      Shown (advProcPoll (uartRun u ops)) read write r
  | _, _, _ => True

def polled (dev : UInt16) (port : UInt32) : World Op Ans Site where
  may := (site dev port).may
  step := fun s op r t => (site dev port).step s op r t ∧ Polls s.uart op r t.uart

/-! ### Runs -/

/-- A point of a run of the system with these answers. -/
abbrev PolledReached (a : VcAttr) (s₀ : Site) : Daemon VcAttr → Site → Prop :=
  Reached (polled a.devid a.port) (mainStart a) mainPass s₀

variable {a b : VcAttr} {s₀ s t : Site}

theorem polled_simulates {prog : Daemon VcAttr} (h : PolledReached a s₀ prog s) :
    SiteReached a s₀ prog s := by
  have hstep : ∀ v op (k : Ans op → Daemon VcAttr) r u, PolledReached a s₀ (.call op k) v → True →
      (polled a.devid a.port).step v op r u → True ∧ (site a.devid a.port).step (id v) op r (id u) :=
    fun _ _ _ _ _ _ _ hstep => ⟨trivial, hstep.1⟩
  exact (Reached.simulate trivial hstep h).2

/-- Nothing differs, or the port is closed. -/
theorem info_of_not_pollpri {u : UartPort} (h : (advProcPoll u).pollpri = false)
    (hopen : u.port.info.isOpen = 1) : u.port.info = u.port.attrs u.port.usrPtr := by
  unfold advProcPoll at h
  rw [hopen] at h
  dsimp only at h
  rw [show ((1 : UInt32) == 1) = true from rfl, Bool.true_or, Bool.and_true] at h
  exact bne_eq_false_iff_eq.mp h

/-- The ring is empty. -/
theorem bytes_of_not_pollin {u : UartPort} (h : (advProcPoll u).pollin = false)
    (henabled : u.txEnabled = true) : u.port.rx.bytes = [] := by
  unfold advProcPoll at h
  rw [henabled] at h
  dsimp only at h
  rw [Bool.true_and, Bool.not_eq_false'] at h
  exact bytes_of_head_eq_tail (eq_of_beq h).symm

/-! ### A quiet run -/

/-- The terminal opens the port and writes nothing. -/
def quietOps : List UartOp :=
  [.startup, .setTermios ⟨9600, .cs8, false, false, false, false, false, false⟩, .setMctrl true true]

/-- Nothing comes from the server, and a `select` comes back empty only if it may. -/
def quietReply (i : ℕ) (s : Site) (op : Op) : Option (Ans op × Site) :=
  match op with
  | .select sk read write =>
      if (advProcPoll s.uart).pollpri = false ∧ (read = true → (advProcPoll s.uart).pollin = false) ∧
          (write = true → (advProcPoll s.uart).pollout = false) then
        siteReply quietOps (fun _ => []) i s (.select sk read write)
      else none
  | op => siteReply quietOps (fun _ => []) i s op

theorem step_quietReply (i : ℕ) (s : Site) (op : Op) (r : Ans op) (t : Site)
    (h : quietReply i s op = some (r, t)) : (polled 0x1526 1).step s op r t := by
  cases op with
  | select sk read write =>
      dsimp only [quietReply] at h
      split at h
      · next hnone =>
          have hsite := step_siteReply i s _ r t h
          obtain ⟨rfl, rfl⟩ := Prod.mk.inj (Option.some.inj h)
          exact ⟨hsite, [], if i = 0 then quietOps else [], rfl, fun _ => hnone,
            fun hbad => absurd hbad (lt_irrefl 0), fun hbad => absurd hbad (lt_irrefl 0),
            fun hbad => absurd hbad (lt_irrefl 0)⟩
      · exact nomatch h
  | _ => exact ⟨step_siteReply i s _ r t h, trivial⟩

/-- The daemon is about to wait for data, and there is nothing to find. -/
def waiting : Daemon VcAttr × Site → Bool
  | (.call (.select _ true false) _, s) =>
      !(advProcPoll s.uart).pollpri && !(advProcPoll s.uart).pollin
  | _ => false

theorem exists_waiting : ∃ sk k s r t, PolledReached newAttr newSite (.call (.select sk true false) k) s ∧
    (polled 0x1526 1).step s (.select sk true false) r t ∧ r.ret = 0 := by
  have hcheck : (follow quietReply (mainStart newAttr) mainPass newSite 59).any waiting = true := by
    decide +kernel
  obtain ⟨prog, s, h, hcheck⟩ := exists_reached step_quietReply hcheck
  unfold waiting at hcheck
  split at hcheck
  · next sk k u heq =>
      obtain ⟨rfl, rfl⟩ := Prod.mk.inj heq
      obtain ⟨hpri, hin⟩ := Bool.and_eq_true_iff.mp hcheck
      rw [Bool.not_eq_true'] at hpri hin
      have hnone : quietReply 1 s (.select sk true false) = siteReply quietOps (fun _ => []) 1 s _ :=
        if_pos ⟨hpri, fun _ => hin, nofun⟩
      exact ⟨sk, k, s, _, _, h, step_quietReply 1 s _ _ _ hnone, rfl⟩
  · exact absurd hcheck Bool.false_ne_true

/-! ### Safety -/

/-- **Nothing of the terminal is missed.** -/
theorem quiet_of_silent (hok : Ok s₀.uart) (hrest : AtRest s₀.uart.port) {sk : Sock} {write : Bool}
    {k : Selected → Daemon VcAttr} (h : PolledReached a s₀ (.call (.select sk true write) k) s)
    {r : Selected} (hstep : (polled a.devid a.port).step s (.select sk true write) r t) (hret : r.ret = 0) :
    ∃ ops more, t.uart = uartRun (uartRun s.uart ops) more ∧
      ((uartRun s.uart ops).port.info.isOpen = 1 → s.session.Told (uartRun s.uart ops).port.info) ∧
      ((uartRun s.uart ops).txEnabled = true →
        (uartRun s.uart ops).put =
          (uartRun s.uart ops).port.left.flatMap Left.bytes ++ (uartRun s.uart ops).xmit.bytes) := by
  have hreach := polled_simulates h
  obtain ⟨-, ops, more, huart, hshown⟩ := hstep
  obtain ⟨hpri, hin, -⟩ := hshown.none hret
  obtain ⟨huok, hreached⟩ := uart_simulates hok (uart_of_reached hreach)
  have hmoves := moves_uartRun huok ops
  have hsound := (daemon_sound hrest hreached).drift hmoves.drift
  refine ⟨ops, more, huart, fun hopen => ?_, fun henabled => ?_⟩
  · obtain ⟨-, -, htold⟩ := site_may hok hrest hreach
    have hpage := page_of_drift hmoves.drift
    rw [info_of_not_pollpri hpri hopen, hpage.2]
    exact htold rfl
  · have hempty := bytes_of_not_pollin (hin rfl) henabled
    have hwritten := hsound.written
    rw [hempty, List.append_nil] at hwritten
    rw [hmoves.ok.put, hwritten]

/-- A port that was opened and not written to. -/
theorem quiet_of_silent_first : ∃ sk k s r t,
    PolledReached newAttr newSite (.call (.select sk true false) k) s ∧
    (polled 0x1526 1).step s (.select sk true false) r t ∧ r.ret = 0 ∧
    ∃ ops more, t.uart = uartRun (uartRun s.uart ops) more ∧
      ((uartRun s.uart ops).port.info.isOpen = 1 → s.session.Told (uartRun s.uart ops).port.info) ∧
      ((uartRun s.uart ops).txEnabled = true →
        (uartRun s.uart ops).put =
          (uartRun s.uart ops).port.left.flatMap Left.bytes ++ (uartRun s.uart ops).xmit.bytes) := by
  obtain ⟨sk, k, s, r, t, h, hstep, hret⟩ := exists_waiting
  exact ⟨sk, k, s, r, t, h, hstep, hret,
    quiet_of_silent (ok_advUartInit _ _ _) (atRest_advMainInit _ _) h hstep hret⟩

end ModbusRTU.PollRuns
