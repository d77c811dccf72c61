import ModbusRTU.Vcom.UartCopies

/-!
# The serial driver on a port

A `UartPort` is `struct adv_uart_port`: the port it shares with the daemon and the buffer of the serial
core.  `UartOp` are the operations of `adv_uart_ops` that the core calls and what the core itself does with
its buffer.  The core is not in the source: a `CorePut` or a `CoreDiscard` is anything it may do.  Two
functions of the driver are called for the daemon: `adv_main_interrupt`, and `adv_uart_recv_chars` when the
tail of the transmit ring was moved.

* **`moves_uartStep`** — each operation is a `Drift` of the port, and keeps what holds of a port (`Ok`):
  what the core put is what went to the ring and what is still in its buffer.
* **`moves_uartRun`** — so is any sequence of them.
* **`step_uartDriver`** — so a call of the daemon on the driver is a step of the abstract world `driver`,
  whatever the terminal does before the next one.
-/

namespace ModbusRTU.UartPorts

open WorldLogic RingWindow PortBuffers DaemonCalls DriverWorld UartCopies

def advPairNone : UInt32 := 0
def advPairOdd : UInt32 := 1
def advPairEven : UInt32 := 2
def advPairMark : UInt32 := 3
def advPairSpace : UInt32 := 4
def advStop1 : UInt32 := 0
def advStop2 : UInt32 := 2

/-- The port, the buffer of the core, `attr->throttled`, and whether `ADV_RING_BUF_ENABLED` is set for the
ring the terminal reads and for the one it writes.  `put` are the bytes that the core put and did not
discard. -/
structure UartPort where
  port : Port
  xmit : CircBuf
  throttled : Bool
  rxEnabled : Bool
  txEnabled : Bool
  put : List UInt8

/-- The values of `c_cflag & CSIZE`. -/
inductive Csize where
  | cs5 | cs6 | cs7 | cs8
  deriving DecidableEq, Repr

/-- The bits of `c_cflag` and `c_iflag` that are read, and the rate (`uart_get_baud_rate`). -/
structure Termios where
  baud : UInt32
  csize : Csize
  crtscts : Bool
  ixoff : Bool
  parodd : Bool
  cmspar : Bool
  parenb : Bool
  cstopb : Bool
  deriving DecidableEq, Repr

/-- The core puts bytes behind those that are pending. -/
structure CorePut where
  fill : CircBuf → CircBuf
  data : CircBuf → List UInt8
  wf : ∀ xmit, xmit.WF → (fill xmit).WF
  bytes : ∀ xmit, xmit.WF → (fill xmit).bytes = xmit.bytes ++ data xmit

/-- The core discards what is pending (`uart_circ_clear`). -/
structure CoreDiscard where
  clear : CircBuf → CircBuf
  wf : ∀ xmit, xmit.WF → (clear xmit).WF
  bytes : ∀ xmit, xmit.WF → (clear xmit).bytes = []

/-- `take` is what the terminal's buffer takes in each round. -/
inductive UartOp where
  -- the core and its buffer
  | put (core : CorePut)
  | discard (core : CoreDiscard)
  -- the operations of the driver
  | startTx
  | stopTx
  | stopRx
  | startup
  | shutdown
  | setMctrl (rts dtr : Bool)
  | setTermios (termios : Termios)
  | throttle
  | unthrottle (take : ℕ → ℕ)

/-! ### The functions of the driver -/

def advUartXmitPort (u : UartPort) : UartPort :=
  let r := advUartXmit u.xmit u.port.rx
  { u with
    xmit := r.1
    port := { u.port with
      rx := r.2
      written := u.port.written ++ u.xmit.bytes.take (xmitCount u.xmit u.port.rx) } }

def advUartStartTx (u : UartPort) : UartPort := advUartXmitPort { u with txEnabled := true }

def advUartStopTx (u : UartPort) : UartPort := { u with txEnabled := false }

def advUartStopRx (u : UartPort) : UartPort := { u with rxEnabled := false }

def advUartUpdateXmit (u : UartPort) : UartPort :=
  if u.port.info.isOpen ≠ 0 then
    if isRbEmpty u.port.rx.buf then advUartXmitPort u else u
  else u

def advUartRecvChars (u : UartPort) (take : ℕ → ℕ) : UartPort :=
  if u.throttled then u
  else if !u.rxEnabled then u
  else
    let r := recvRounds take 3 u.port.tx (getRbLength u.port.tx.buf)
    { u with port := { u.port with tx := r.1, drained := u.port.drained ++ r.2 } }

def advUartStartup (u : UartPort) : UartPort :=
  { u with
    throttled := false
    rxEnabled := true
    txEnabled := true
    port := { u.port with info := { u.port.info with isOpen := 1 } } }

def advUartShutdown (u : UartPort) : UartPort :=
  { u with port := { u.port with info := { u.port.info with isOpen := 0 } } }

def advUartSetMctrl (u : UartPort) (rts dtr : Bool) : UartPort :=
  let status := (if rts then advMsRts else 0) ||| (if dtr then advMsDtr else 0)
  { u with port := { u.port with info := { u.port.info with ms := status } } }

/-- The switch over `PARODD|CMSPAR|PARENB`. -/
def parity (termios : Termios) : UInt32 :=
  match termios.parodd, termios.cmspar, termios.parenb with
  | false, false, true => advPairEven
  | true, false, true => advPairOdd
  | false, true, true => advPairSpace
  | true, true, true => advPairMark
  | _, _, false => advPairNone

def advUartSetTermios (u : UartPort) (termios : Termios) : UartPort :=
  { u with
    port := { u.port with
      info := { u.port.info with
        baud := termios.baud
        byte :=
          match termios.csize with
          | .cs5 => 5
          | .cs6 => 6
          | .cs7 => 7
          | .cs8 => 8
        flowctl :=
          if termios.crtscts then advFlowRtscts
          else if termios.ixoff then advFlowXonxoff
          else advFlowNone
        pair := parity termios
        stop := if termios.cstopb then advStop2 else advStop1 } } }

def advUartThrottle (u : UartPort) : UartPort := { u with throttled := true }

def advUartUnthrottle (u : UartPort) (take : ℕ → ℕ) : UartPort :=
  advUartRecvChars { u with throttled := false } take

def advMainInterrupt (u : UartPort) (mask : UInt32) (take : ℕ → ℕ) : UartPort :=
  let u := if mask &&& advIntRx ≠ 0 then advUartUpdateXmit u else u
  if mask &&& advIntTx ≠ 0 then advUartRecvChars u take else u

/-! ### The serial core -/

def corePut (u : UartPort) (core : CorePut) : UartPort :=
  { u with xmit := core.fill u.xmit, put := u.put ++ core.data u.xmit }

/-- What was pending was put last. -/
def coreDiscard (u : UartPort) (core : CoreDiscard) : UartPort :=
  { u with
    xmit := core.clear u.xmit
    put := u.put.take (u.put.length - uartCircCharsPending u.xmit) }

def uartStep (u : UartPort) : UartOp → UartPort
  | .put core => corePut u core
  | .discard core => coreDiscard u core
  | .startTx => advUartStartTx u
  | .stopTx => advUartStopTx u
  | .stopRx => advUartStopRx u
  | .startup => advUartStartup u
  | .shutdown => advUartShutdown u
  | .setMctrl rts dtr => advUartSetMctrl u rts dtr
  | .setTermios termios => advUartSetTermios u termios
  | .throttle => advUartThrottle u
  | .unthrottle take => advUartUnthrottle u take

def uartRun (u : UartPort) (ops : List UartOp) : UartPort := ops.foldl uartStep u

/-- What the driver does for a call of the daemon (`adv_proc_ioctl`): the part of `after`, and the
functions that follow it. -/
def advProcIoctl (u : UartPort) (op : Op) (r : Ans op) (take : ℕ → ℕ) : UartPort :=
  let v := { u with port := after u.port op r }
  match op with
  | .iocSTxTail _ => advUartRecvChars v take
  | .iocSInter mask => advMainInterrupt v mask take
  | _ => v

/-- **The driver as a world.**  A call is answered and done, and then the terminal goes on. -/
def uartDriver : World Op Ans UartPort where
  may := fun u op => driver.may u.port op
  step := fun u op r v =>
    answers u.port op r ∧ ∃ take ops, v = uartRun (advProcIoctl u op r take) ops

/-! ### What holds of a port -/

structure Ok (u : UartPort) : Prop where
  rx_wf : u.port.rx.buf.WF
  tx_wf : u.port.tx.buf.WF
  tx_clean : u.port.tx.clean = false
  xmit_wf : u.xmit.WF
  put : u.put = u.port.written ++ u.xmit.bytes
  info : Known u.port.info
  attrs : ∀ i, Known (u.port.attrs i)

/-- What the driver does without the daemon. -/
structure Moves (u v : UartPort) : Prop where
  drift : Drift u.port v.port
  ok : Ok v

section Moves

variable {u v w : UartPort}

theorem Ok.refl (h : Ok u) : Moves u u := ⟨Drift.refl h.rx_wf h.tx_wf, h⟩

theorem Moves.trans (h : Ok u) (huv : Moves u v) (hvw : Moves v w) : Moves u w :=
  ⟨huv.drift.trans h.rx_wf h.tx_wf hvw.drift, hvw.ok⟩

/-- The settings and the flags. -/
theorem Ok.settings (h : Ok u) {info : AdvPortInfo} (hinfo : Known info) (throttled rx tx : Bool) :
    Moves u { u with
      port := { u.port with info := info }, throttled := throttled, rxEnabled := rx, txEnabled := tx } :=
  ⟨Drift.settings h.rx_wf h.tx_wf info,
    ⟨h.rx_wf, h.tx_wf, h.tx_clean, h.xmit_wf, h.put, hinfo, h.attrs⟩⟩

theorem Ok.flags (h : Ok u) (throttled rx tx : Bool) :
    Moves u { u with throttled := throttled, rxEnabled := rx, txEnabled := tx } :=
  h.settings h.info throttled rx tx

theorem moves_advUartXmitPort (h : Ok u) : Moves u (advUartXmitPort u) := by
  obtain ⟨hcore, hring, hbytes⟩ := advUartXmit_spec h.xmit_wf h.rx_wf
  unfold advUartXmitPort
  generalize advUartXmit u.xmit u.port.rx = r at hcore hring hbytes ⊢
  obtain ⟨xmit, rx⟩ := r
  have hcount : xmitCount u.xmit u.port.rx ≤ uartCircCharsPending u.xmit := Nat.min_le_left ..
  have hroom : xmitCount u.xmit u.port.rx ≤ getRbRoom u.port.rx.buf := Nat.min_le_right ..
  have hlength : (u.xmit.bytes.take (xmitCount u.xmit u.port.rx)).length =
      xmitCount u.xmit u.port.rx := by
    rw [List.length_take, CircBuf.bytes, length_window]
    omega
  generalize xmitCount u.xmit u.port.rx = n at *
  dsimp only at hcore hring hbytes
  refine ⟨⟨u.xmit.bytes.take n, rx.cells, 0, u.port.info, ?_, ?_, Nat.zero_le _, ?_⟩, ?_⟩
  · rw [hlength]
    exact hroom
  · rw [hlength]
    rw [hring] at hbytes
    exact hbytes
  · rw [hlength, ← hring, moveRbHead_zero h.tx_wf, List.take_zero, List.append_nil]
  · refine ⟨?_, h.tx_wf, h.tx_clean, ?_, ?_, h.info, h.attrs⟩
    · show rx.buf.WF
      rw [hring]
      exact moveRbTail_wf h.rx_wf n
    · rw [hcore]
      exact advance_wf h.xmit_wf n
    · rw [hcore, bytes_advance h.xmit_wf hcount, List.append_assoc, List.take_append_drop]
      exact h.put

theorem moves_advUartRecvChars (h : Ok u) (take : ℕ → ℕ) : Moves u (advUartRecvChars u take) := by
  unfold advUartRecvChars
  split
  · exact h.refl
  · split
    · exact h.refl
    · obtain ⟨k, hk, htaken⟩ := recvRounds_spec take h.tx_wf h.tx_clean (n := 3)
      rw [htaken]
      refine ⟨⟨[], u.port.rx.cells, k, u.port.info, Nat.zero_le _, ?_, hk, ?_⟩, ?_⟩
      · rw [List.append_nil, List.length_nil, moveRbTail_zero h.rx_wf]
        rfl
      · rw [List.append_nil, List.length_nil, moveRbTail_zero h.rx_wf]
      · exact ⟨h.rx_wf, moveRbHead_wf h.tx_wf k, h.tx_clean, h.xmit_wf, h.put, h.info, h.attrs⟩

theorem moves_advUartUpdateXmit (h : Ok u) : Moves u (advUartUpdateXmit u) := by
  unfold advUartUpdateXmit
  split
  · split
    · exact moves_advUartXmitPort h
    · exact h.refl
  · exact h.refl

theorem moves_advMainInterrupt (h : Ok u) (mask : UInt32) (take : ℕ → ℕ) :
    Moves u (advMainInterrupt u mask take) := by
  have hxmit : Moves u (if mask &&& advIntRx ≠ 0 then advUartUpdateXmit u else u) := by
    split
    · exact moves_advUartUpdateXmit h
    · exact h.refl
  unfold advMainInterrupt
  dsimp only
  split
  · exact hxmit.trans h (moves_advUartRecvChars hxmit.ok take)
  · exact hxmit

theorem known_setTermios (h : Known u.port.info) (termios : Termios) :
    Known (advUartSetTermios u termios).port.info := by
  refine ⟨h.isOpen, ?_, ?_, ?_⟩
  · show (if termios.crtscts then advFlowRtscts else if termios.ixoff then advFlowXonxoff
      else advFlowNone) ≠ advFlowUndef
    split
    · decide
    · split <;> decide
  · show parity termios ≠ advPairUndef
    unfold parity
    split <;> decide
  · show (if termios.cstopb then advStop2 else advStop1) ≠ advStopUndef
    split <;> decide

/-! ### The core -/

theorem moves_corePut (h : Ok u) (core : CorePut) : Moves u (corePut u core) := by
  refine ⟨Drift.refl h.rx_wf h.tx_wf, h.rx_wf, h.tx_wf, h.tx_clean, core.wf _ h.xmit_wf, ?_, h.info,
    h.attrs⟩
  show u.put ++ core.data u.xmit = u.port.written ++ (core.fill u.xmit).bytes
  rw [core.bytes _ h.xmit_wf, h.put, List.append_assoc]

theorem moves_coreDiscard (h : Ok u) (core : CoreDiscard) : Moves u (coreDiscard u core) := by
  refine ⟨Drift.refl h.rx_wf h.tx_wf, h.rx_wf, h.tx_wf, h.tx_clean, core.wf _ h.xmit_wf, ?_, h.info,
    h.attrs⟩
  show u.put.take (u.put.length - uartCircCharsPending u.xmit) = u.port.written ++ (core.clear u.xmit).bytes
  have hlength : u.xmit.bytes.length = uartCircCharsPending u.xmit := length_window ..
  rw [core.bytes _ h.xmit_wf, List.append_nil, h.put, List.length_append, hlength, Nat.add_sub_cancel,
    List.take_left' rfl]

/-! ### Runs of the driver -/

/-- **An operation.** -/
theorem moves_uartStep (h : Ok u) (op : UartOp) : Moves u (uartStep u op) := by
  cases op with
  | put core => exact moves_corePut h core
  | discard core => exact moves_coreDiscard h core
  | startTx =>
      have hflags := h.flags u.throttled u.rxEnabled true
      exact hflags.trans h (moves_advUartXmitPort hflags.ok)
  | stopTx => exact h.flags u.throttled u.rxEnabled false
  | stopRx => exact h.flags u.throttled false u.txEnabled
  | startup => exact h.settings (h.info.pins (.inr rfl) u.port.info.ms) false true true
  | shutdown =>
      exact h.settings (h.info.pins (.inl rfl) u.port.info.ms) u.throttled u.rxEnabled u.txEnabled
  | setMctrl rts dtr =>
      exact h.settings (h.info.pins h.info.isOpen _) u.throttled u.rxEnabled u.txEnabled
  | setTermios termios =>
      exact h.settings (known_setTermios h.info termios) u.throttled u.rxEnabled u.txEnabled
  | throttle => exact h.flags true u.rxEnabled u.txEnabled
  | unthrottle take =>
      have hflags := h.flags false u.rxEnabled u.txEnabled
      exact hflags.trans h (moves_advUartRecvChars hflags.ok take)

/-- **A sequence of operations.** -/
theorem moves_uartRun (h : Ok u) (ops : List UartOp) : Moves u (uartRun u ops) := by
  induction ops generalizing u with
  | nil => exact h.refl
  | cons op ops ih =>
      have hstep := moves_uartStep h op
      exact hstep.trans h (ih hstep.ok)

/-! ### Calls of the daemon -/

/-- What a call does to the port. -/
theorem Ok.after (h : Ok u) (op : Op) (r : Ans op) : Ok { u with port := after u.port op r } := by
  cases op with
  | iocSTxTail n =>
      exact ⟨h.rx_wf, moveRbTail_wf h.tx_wf n, h.tx_clean, h.xmit_wf, h.put, h.info, h.attrs⟩
  | iocSRxHead n =>
      refine ⟨?_, h.tx_wf, h.tx_clean, h.xmit_wf, h.put, h.info, h.attrs⟩
      show (u.port.rx.moveHead n).buf.WF
      unfold Ring.moveHead
      split
      · exact ⟨h.rx_wf.tail_lt, h.rx_wf.tail_lt⟩
      · exact moveRbHead_wf h.rx_wf n
  | iocSClr mask =>
      have hrx : ∀ clean, Ok { u with port := { u.port with rx := { u.port.rx with clean := clean } } } :=
        fun _ => ⟨h.rx_wf, h.tx_wf, h.tx_clean, h.xmit_wf, h.put, h.info, h.attrs⟩
      have htx : ∀ v, Ok v → Ok { v with
          port := { v.port with tx := Ring.moveHead { v.port.tx with clean := true } 0 } } :=
        fun v hv => ⟨hv.rx_wf, ⟨hv.tx_wf.tail_lt, hv.tx_wf.tail_lt⟩, rfl, hv.xmit_wf, hv.put, hv.info,
          hv.attrs⟩
      show Ok { u with port := advMainClear u.port mask }
      unfold advMainClear
      by_cases hmask : mask &&& advClrRx ≠ 0
      · rw [if_pos hmask]
        split
        · exact htx _ (hrx true)
        · exact hrx true
      · rw [if_neg hmask]
        split
        · exact htx _ h
        · exact h
  | iocGAttrPtr =>
      refine ⟨h.rx_wf, h.tx_wf, h.tx_clean, h.xmit_wf, h.put, h.info, fun i => ?_⟩
      show Known (if i = (flushAttrInfo u.port).usrPtr then u.port.info else u.port.attrs i)
      by_cases hi : i = (flushAttrInfo u.port).usrPtr
      · rw [if_pos hi]
        exact h.info
      · rw [if_neg hi]
        exact h.attrs i
  | txWrite pos data => exact ⟨h.rx_wf, h.tx_wf, h.tx_clean, h.xmit_wf, h.put, h.info, h.attrs⟩
  | send sk data => exact ⟨h.rx_wf, h.tx_wf, h.tx_clean, h.xmit_wf, h.put, h.info, h.attrs⟩
  | recv sk len => exact ⟨h.rx_wf, h.tx_wf, h.tx_clean, h.xmit_wf, h.put, h.info, h.attrs⟩
  | vcConnect => exact ⟨h.rx_wf, h.tx_wf, h.tx_clean, h.xmit_wf, h.put, h.info, h.attrs⟩
  | close sk => exact ⟨h.rx_wf, h.tx_wf, h.tx_clean, h.xmit_wf, h.put, h.info, h.attrs⟩
  | _ => exact h

theorem moves_advProcIoctl (h : Ok u) (op : Op) (r : Ans op) (take : ℕ → ℕ) :
    Moves { u with port := after u.port op r } (advProcIoctl u op r take) := by
  have hafter := h.after op r
  unfold advProcIoctl
  cases op with
  | iocSTxTail n => exact moves_advUartRecvChars hafter take
  | iocSInter mask => exact moves_advMainInterrupt hafter mask take
  | _ => exact hafter.refl

/-- **The driver is a case of the abstract world.** -/
theorem step_uartDriver (h : Ok u) {op : Op} {r : Ans op} (hstep : uartDriver.step u op r v) :
    Ok v ∧ driver.step u.port op r v.port := by
  obtain ⟨hans, take, ops, rfl⟩ := hstep
  have hioctl := moves_advProcIoctl h op r take
  have hmoves := hioctl.trans (h.after op r) (moves_uartRun hioctl.ok ops)
  exact ⟨hmoves.ok, hans, hmoves.drift⟩

end Moves

end ModbusRTU.UartPorts
