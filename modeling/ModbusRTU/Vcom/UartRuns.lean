import ModbusRTU.Vcom.DaemonRuns
import ModbusRTU.Vcom.UartPorts

/-!
# The daemon and the serial driver

The daemon runs on the driver of `adv_main.c` and `adv_uart.c`: any number of passes, any answers of the
server, any operations of the terminal between two calls.

* **`uart_simulates`** — such a run is a run in the abstract world, so what was proved there holds here:
  the daemon makes only calls that it may make, and the record is sound.
* **`sound_of_advUartInit`** — without any assumption, from the port that the driver sets up.
* **`put_of_reached`** — from the terminal to the server: the bytes the serial core put are those that
  were acknowledged, those in the ring and those still with the core, in this order.
* **`drained_of_reached`** — from the server to the terminal.
* **`attr_known`** — the daemon never reads one of its own markers as a setting, so after it lost its
  connection each of the marked settings differs.
* **`recvChars_all`**, **`startTx_all`** — nothing is left behind, if there is room for it.
-/

namespace ModbusRTU.UartRuns

open CallProgram WorldLogic RingWindow SpanCopies PortBuffers WireWords Packets DaemonCalls DaemonLoop
open DriverWorld DaemonRuns UartCopies UartPorts

/-- A new port, with the pages and the buffer of the core as they are allocated. -/
def advUartInit (rxPage txPage buf : ℕ → UInt8) : UartPort where
  port := advMainInit rxPage txPage
  xmit := ⟨0, 0, buf⟩
  throttled := false
  rxEnabled := false
  txEnabled := false
  put := []

theorem ok_advUartInit (rxPage txPage buf : ℕ → UInt8) : Ok (advUartInit rxPage txPage buf) := by
  have hxmit : CircBuf.WF ⟨0, 0, buf⟩ := ⟨Nat.zero_lt_succ 4095, Nat.zero_lt_succ 4095⟩
  have hsound := (atRest_advMainInit rxPage txPage).sound
  have hknown : Known ⟨0, 0, 0, 0, 0, 0, 0⟩ := ⟨by decide, by decide, by decide, by decide⟩
  refine ⟨hsound.rx_wf, hsound.tx_wf, rfl, hxmit, ?_, hknown, fun _ => hknown⟩
  show [] = [] ++ CircBuf.bytes ⟨0, 0, buf⟩
  rw [bytes_eq_queue hxmit]
  rfl

/-! ### Answers -/

/-- The driver answers, what is sent is taken, and the server has these bytes. -/
def answerOf (p : Port) (incoming : List UInt8) : (op : Op) → Option (Ans op)
  | .attr ptr => some (p.attrs ptr)
  | .rxRead pos n => some (span p.rx.cells pos n)
  | .iocG reg' => some (some (reg p reg'))
  | .iocGAttrPtr => some (some (flushAttrInfo p).usrPtr)
  | .iocGAttrBegin | .iocSTxTail _ | .iocSRxHead _ | .iocSMctrl _ | .iocSClr _ | .iocSInter _ | .fdcheck _ =>
      some true
  | .vcConnect => some (some 3)
  | .send _ data => some data.length
  | .recv _ len => some (some (incoming.take len))
  | .selectRead _ => some (incoming != [])
  | .siocinq _ | .siocoutq _ => some (some 0)
  | .txWrite .. | .close _ | .sleep _ => some ()
  | .select .. => some ⟨if incoming = [] then 0 else 1, 0, false, incoming != [], false, false⟩
  | .time => some 0
  | .uninit => some 0
  | .exit | .returnMain => none

theorem answers_answerOf {p : Port} {incoming : List UInt8} {op : Op} {r : Ans op}
    (h : answerOf p incoming op = some r) : answers p op r := by
  cases op with
  | attr ptr => exact (Option.some.inj h).symm
  | rxRead pos n => exact (Option.some.inj h).symm
  | iocG reg' => exact (Option.some.inj h).symm
  | iocGAttrBegin => exact (Option.some.inj h).symm
  | iocGAttrPtr => exact (Option.some.inj h).symm
  | iocSTxTail n => exact (Option.some.inj h).symm
  | iocSRxHead n => exact (Option.some.inj h).symm
  | iocSClr mask => exact (Option.some.inj h).symm
  | recv sk len =>
      obtain rfl : some (incoming.take len) = r := Option.some.inj h
      intro data hdata
      obtain rfl : incoming.take len = data := Option.some.inj hdata
      rw [List.length_take]
      exact Nat.min_le_left ..
  | _ => exact trivial

/-- The bytes come in the order of the steps, and the terminal does what the list says after the first
call. -/
def replyOf (ops : List UartOp) (incoming : ℕ → List UInt8) (i : ℕ) (u : UartPort) (op : Op) :
    Option (Ans op × UartPort) :=
  (answerOf u.port (incoming i) op).map fun r =>
    (r, uartRun (advProcIoctl u op r fun _ => pageSize) (if i = 0 then ops else []))

section Reply

variable {ops : List UartOp} {incoming : ℕ → List UInt8}

theorem answer_of_replyOf {i : ℕ} {u v : UartPort} {op : Op} {r : Ans op}
    (h : replyOf ops incoming i u op = some (r, v)) : answerOf u.port (incoming i) op = some r := by
  obtain ⟨r', hanswer, hpair⟩ := Option.map_eq_some_iff.mp h
  obtain ⟨rfl, -⟩ := Prod.mk.inj hpair
  exact hanswer

theorem step_replyOf (i : ℕ) (u : UartPort) (op : Op) (r : Ans op) (v : UartPort)
    (h : replyOf ops incoming i u op = some (r, v)) : uartDriver.step u op r v := by
  refine ⟨answers_answerOf (answer_of_replyOf h), ?_⟩
  obtain ⟨r', -, hpair⟩ := Option.map_eq_some_iff.mp h
  obtain ⟨rfl, rfl⟩ := Prod.mk.inj hpair
  exact ⟨_, _, rfl⟩

end Reply

/-! ### Runs -/

/-- A point of a run of the daemon on the driver. -/
abbrev UartReached (a : VcAttr) (u₀ : UartPort) : Daemon VcAttr → UartPort → Prop :=
  Reached uartDriver (mainStart a) mainPass u₀

section Runs

variable {a : VcAttr} {u₀ u v : UartPort} (hok : Ok u₀) (hrest : AtRest u₀.port)
include hok

/-- **A run on the driver** is a run in the abstract world. -/
theorem uart_simulates {prog : Daemon VcAttr} (h : UartReached a u₀ prog u) :
    Ok u ∧ DaemonReached a u₀.port prog u.port :=
  Reached.simulate hok (fun _ _ _ _ _ _ hu hstep => step_uartDriver hu hstep) h

/-- **What the daemon reads as a setting** is none of its markers. -/
theorem attr_known {ptr : ℕ} {k : AdvPortInfo → Daemon VcAttr}
    (h : UartReached a u₀ (.call (.attr ptr) k) u) {info : AdvPortInfo}
    (hstep : uartDriver.step u (.attr ptr) info v) : Known info := by
  obtain ⟨hu, -⟩ := uart_simulates hok h
  obtain ⟨hanswer, -⟩ := hstep
  obtain rfl : info = u.port.attrs ptr := hanswer
  exact hu.attrs ptr

include hrest

/-- **Every call may be made.** -/
theorem uart_may {op : Op} {k : Ans op → Daemon VcAttr} (h : UartReached a u₀ (.call op k) u) :
    uartDriver.may u op := daemon_may hrest (uart_simulates hok h).2

end Runs

/-! ### The first run -/

/-- The daemon of port 1 of a device. -/
def newAttr : VcAttr :=
  ⟨none, 0, 0, 1, 0, 0x1526, [], ⟨0, 0, 0, 0, 0, 0, 0⟩, ⟨0, 0, 0⟩, ⟨0, 0, 0⟩, 0, 0, fun _ => 0, []⟩

def newUart : UartPort := advUartInit (fun _ => 0) (fun _ => 0) (fun _ => 0)

/-- The bytes are put if there is room for all of them. -/
def putAll (data : List UInt8) : CorePut where
  fill := fun xmit =>
    if data.length ≤ getRbRoom xmit.ring then
      { xmit with
        head := (xmit.head + data.length) % uartXmitSize
        buf := copyIn xmit.ring xmit.buf data }
    else xmit
  data := fun xmit => if data.length ≤ getRbRoom xmit.ring then data else []
  wf := by
    intro xmit h
    split
    · exact ⟨Nat.mod_lt _ (by decide), h.tail_lt⟩
    · exact h
  bytes := by
    intro xmit h
    split
    · next hroom =>
        have hxmit : CircBuf.WF ⟨(xmit.head + data.length) % uartXmitSize, xmit.tail,
            copyIn xmit.ring xmit.buf data⟩ := ⟨Nat.mod_lt _ (by decide), h.tail_lt⟩
        rw [bytes_eq_queue hxmit, bytes_eq_queue h]
        exact queue_copyIn (ring_wf h) xmit.buf hroom
    · exact (List.append_nil _).symm

/-- The terminal opens the port and writes three bytes. -/
def firstOps : List UartOp :=
  [.startup, .setTermios ⟨9600, .cs8, false, false, false, false, false, false⟩, .setMctrl true true,
    .put (putAll [1, 2, 3]), .startTx]

/-- The server has two bytes for the terminal; step 66 asks for them. -/
def firstBytes (i : ℕ) : List UInt8 :=
  if i = 66 then [7, 8] else vcInitHdr 1 vcomCmdDataready 2 ++ be32 0 ++ be32 2

theorem exists_uartReached (n : ℕ) (check : Daemon VcAttr × UartPort → Bool)
    (h : (follow (replyOf firstOps firstBytes) (mainStart newAttr) mainPass newUart n).any check = true) :
    ∃ prog u, UartReached newAttr newUart prog u ∧ check (prog, u) = true :=
  exists_reached step_replyOf h

/-! ### Transfers -/

variable {a : VcAttr} {u₀ u : UartPort}

/-- **From the terminal to the server.** -/
theorem put_of_reached (hok : Ok u₀) (hrest : AtRest u₀.port) {prog : Daemon VcAttr}
    (h : UartReached a u₀ prog u) (hleft : ∀ l ∈ u.port.left, l.ack.isSome) :
    u.put = u.port.acks.flatten ++ u.port.rx.bytes ++ u.xmit.bytes ∧
      u.port.acks.Sublist u.port.sent := by
  obtain ⟨hu, hreached⟩ := uart_simulates hok h
  obtain ⟨hwritten, hsent⟩ := toServer_of_reached hrest hreached hleft
  exact ⟨by rw [hu.put, hwritten], hsent⟩

/-- The bytes of the terminal while they are sent. -/
theorem put_of_reached_first : ∃ prog u, UartReached newAttr newUart prog u ∧ u.put = [1, 2, 3] ∧
    u.put = u.port.acks.flatten ++ u.port.rx.bytes ++ u.xmit.bytes := by
  obtain ⟨prog, u, h, hcheck⟩ := exists_uartReached 60
    (fun x => x.2.put == [1, 2, 3] && x.2.port.left.all fun l => l.ack.isSome) (by decide +kernel)
  obtain ⟨hput, hleft⟩ := Bool.and_eq_true_iff.mp hcheck
  exact ⟨prog, u, h, eq_of_beq hput, (put_of_reached (ok_advUartInit _ _ _) (atRest_advMainInit _ _) h
    (List.all_eq_true.mp hleft)).1⟩

/-- **From the server to the terminal.** -/
theorem drained_of_reached (hok : Ok u₀) (hrest : AtRest u₀.port) {prog : Daemon VcAttr}
    (h : UartReached a u₀ prog u) :
    (u.port.drained ++ u.port.tx.bytes).Sublist u.port.received :=
  toTerminal_of_reached hrest (uart_simulates hok h).2

/-- The bytes of the server when the terminal has them. -/
theorem drained_of_reached_first : ∃ prog u, UartReached newAttr newUart prog u ∧
    u.port.drained = [7, 8] ∧ (u.port.drained ++ u.port.tx.bytes).Sublist u.port.received := by
  obtain ⟨prog, u, h, hcheck⟩ := exists_uartReached 69 (fun x => x.2.port.drained == [7, 8])
    (by decide +kernel)
  exact ⟨prog, u, h, eq_of_beq hcheck,
    drained_of_reached (ok_advUartInit _ _ _) (atRest_advMainInit _ _) h⟩

/-- **From the driver's start** the record is sound, and the daemon does not come to `exit(0)`. -/
theorem sound_of_advUartInit {rxPage txPage buf : ℕ → UInt8} {prog : Daemon VcAttr}
    (h : UartReached a (advUartInit rxPage txPage buf) prog u) :
    Sound u.port ∧ ∀ k, prog ≠ .call .exit k := by
  have hrest := atRest_advMainInit rxPage txPage
  have hreached := (uart_simulates (ok_advUartInit rxPage txPage buf) h).2
  refine ⟨daemon_sound hrest hreached, ?_⟩
  rintro k rfl
  exact exit_not_reached hrest k hreached

theorem sound_of_advUartInit_first : ∃ prog u, UartReached newAttr newUart prog u ∧
    u.port.drained = [7, 8] ∧ Sound u.port ∧ ∀ k, prog ≠ .call .exit k := by
  obtain ⟨prog, u, h, hcheck⟩ := exists_uartReached 69 (fun x => x.2.port.drained == [7, 8])
    (by decide +kernel)
  exact ⟨prog, u, h, eq_of_beq hcheck, sound_of_advUartInit h⟩

/-! ### Nothing is left behind -/

/-- **A terminal that takes what it is offered** has all the bytes of its ring. -/
theorem recvChars_all {u : UartPort} (h : Ok u) (hthrottled : u.throttled = false)
    (henabled : u.rxEnabled = true) {take : ℕ → ℕ} (htake : ∀ k, u.port.tx.buf.size ≤ take k) :
    (advUartRecvChars u take).port.tx.bytes = [] ∧
      (advUartRecvChars u take).port.drained = u.port.drained ++ u.port.tx.bytes := by
  have hends : (if u.port.tx.buf.size - u.port.tx.buf.head < getRbLength u.port.tx.buf then 1 else 0) <
      3 := by
    split <;> omega
  have htaken := recvRounds_all h.tx_wf h.tx_clean htake hends
  have hlength := length_bytes u.port.tx
  unfold advUartRecvChars
  rw [hthrottled, henabled]
  simp only [Bool.false_eq_true, if_false, Bool.not_true]
  rw [htaken, List.take_of_length_le hlength.le]
  refine ⟨?_, rfl⟩
  show queue (moveRbHead u.port.tx.buf (getRbLength u.port.tx.buf)) u.port.tx.cells = []
  rw [queue_moveRbHead h.tx_wf u.port.tx.cells le_rfl]
  exact List.drop_of_length_le hlength.le

/-- **If the ring has room for what is pending**, the core's buffer is empty after `adv_uart_start_tx`. -/
theorem startTx_all {u : UartPort} (h : Ok u)
    (hroom : uartCircCharsPending u.xmit ≤ getRbRoom u.port.rx.buf) :
    (advUartStartTx u).xmit.bytes = [] ∧
      (advUartStartTx u).port.rx.bytes = u.port.rx.bytes ++ u.xmit.bytes := by
  have hxmit := advUartXmit_spec h.xmit_wf h.rx_wf
  have hcount : xmitCount u.xmit u.port.rx = uartCircCharsPending u.xmit := Nat.min_eq_left hroom
  have hlength : u.xmit.bytes.length = uartCircCharsPending u.xmit := by
    rw [CircBuf.bytes]
    exact length_window ..
  rw [hcount] at hxmit
  constructor
  · show CircBuf.bytes (advUartXmit u.xmit u.port.rx).1 = []
    rw [hxmit.core, bytes_advance h.xmit_wf le_rfl]
    exact List.drop_of_length_le hlength.le
  · show Ring.bytes (advUartXmit u.xmit u.port.rx).2 = _
    rw [hxmit.bytes, List.take_of_length_le hlength.le]

end ModbusRTU.UartRuns
