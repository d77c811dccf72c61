import ModbusRTU.Interaction.CallProgram
import ModbusRTU.Vcom.PortBuffers
import ModbusRTU.Vcom.Packets

/-!
# The data and the calls of the daemon

`vcomd` serves one port.  It talks to the driver by `ioctl` and through the pages they share, and to
the serial device server through a socket.  Each such call is a constructor of `Op` with its
arguments, and `Ans` is what the daemon gets back.  What the daemon prints, its command line and its
monitor file are left out.

`VcAttr` is `struct vc_attr`, with the static variables of the functions that use it.  Fields of
`struct adv_port_info` are compared, sent and tested for bits, never counted with: each is the word it
is stored in.
-/

namespace ModbusRTU.DaemonCalls

open CallProgram PortBuffers

structure AdvPortInfo where
  isOpen : UInt32
  baud : UInt32
  flowctl : UInt32
  byte : UInt32
  pair : UInt32
  stop : UInt32
  ms : UInt32
  deriving DecidableEq, Repr

def advPairUndef : UInt32 := 5
def advFlowNone : UInt32 := 0
def advFlowXonxoff : UInt32 := 1
def advFlowRtscts : UInt32 := 2
def advFlowUndef : UInt32 := 4
def advStopUndef : UInt32 := 3
def advMsDtr : UInt32 := 0x002
def advMsRts : UInt32 := 0x004

/-- The settings of a port that is open or closed, with none of the markers for an unknown setting. -/
structure Known (info : AdvPortInfo) : Prop where
  isOpen : info.isOpen = 0 ∨ info.isOpen = 1
  flowctl : info.flowctl ≠ advFlowUndef
  pair : info.pair ≠ advPairUndef
  stop : info.stop ≠ advStopUndef

theorem Known.pins {info : AdvPortInfo} (h : Known info) {isOpen : UInt32}
    (hopen : isOpen = 0 ∨ isOpen = 1) (ms : UInt32) :
    Known { info with isOpen := isOpen, ms := ms } := ⟨hopen, h.flowctl, h.pair, h.stop⟩

def advIntRx : UInt32 := 1
def advIntTx : UInt32 := 2
def advClrRx : UInt32 := 1
def advClrTx : UInt32 := 2

/-- The five `struct vc_ops`. -/
inductive VcOps where
  | netdown | netup | pause | idle | sync
  deriving DecidableEq, Repr

/-- `struct stk_vc` above its bottom, the top first.  The bottom is `vc_netdown_ops`, which `main`
pushes on the empty stack. -/
abbrev StkVc := List VcOps

def stackMax : ℕ := 10

/-- The operations on the stack.  All uses of `stk_pop` and `stk_rpls` are above the bottom. -/
inductive StkOp where
  | push (current : VcOps)
  | pop
  | rpls (current : VcOps)
  | excp
  | restart
  deriving DecidableEq, Repr

/-- On a full stack nothing is pushed. -/
def stkStep (stk : StkVc) : StkOp → StkVc
  | .push current => if stk.length + 1 ≥ stackMax then stk else current :: stk
  | .pop => stk.tail
  | .rpls current => current :: stk.tail
  | .excp => []
  | .restart => []

/-- A file descriptor, or -1. -/
abbrev Sock := Option ℕ

/-- The page positions the driver tells the daemon. -/
inductive Reg where
  | txBegin | txSize | txHead | txTail | rxBegin | rxSize | rxHead | rxTail
  deriving DecidableEq, Repr

/-- What `select` gives back in the main loop: its value, the microseconds left in `tv`, and the bits
of `efds` and `rfds` and `wfds` for the driver's file and of `rfds` for the socket. -/
structure Selected where
  ret : ℤ
  left : UInt32
  attr : Bool
  sock : Bool
  read : Bool
  write : Bool
  deriving DecidableEq, Repr

inductive Op where
  -- the pages shared with the driver
  | attr (ptr : ℕ)
  | rxRead (pos n : ℕ)
  | txWrite (pos : ℕ) (data : List UInt8)
  -- the driver's file
  | iocG (reg : Reg)
  | iocGAttrBegin
  | iocGAttrPtr
  | iocSTxTail (length : ℕ)
  | iocSRxHead (length : ℕ)
  | iocSMctrl (status : UInt32)
  | iocSClr (mask : UInt32)
  | iocSInter (mask : UInt32)
  -- the socket
  | vcConnect
  | fdcheck (sk : Sock)
  | send (sk : Sock) (data : List UInt8)
  | recv (sk : Sock) (len : ℕ)
  | selectRead (sk : Sock)
  | siocinq (sk : Sock)
  | siocoutq (sk : Sock)
  | close (sk : Sock)
  -- the rest
  | select (sk : Sock) (read write : Bool)
  | time
  | sleep (seconds : ℕ)
  | uninit
  | exit
  | returnMain
  deriving DecidableEq, Repr

/-- A result of -1 is `none` or `false`.  `fdcheck` is `true` when the function is not 0, and
`selectRead` when `select` is positive; `uninit` is a word of a local buffer that nothing wrote. -/
@[reducible] def Ans : Op → Type
  | .attr _ => AdvPortInfo
  | .rxRead .. => List UInt8
  | .recv .. => Option (List UInt8)
  | .iocG _ | .iocGAttrPtr | .siocinq _ | .siocoutq _ => Option ℕ
  | .vcConnect => Sock
  | .iocGAttrBegin | .iocSTxTail _ | .iocSRxHead _ | .iocSMctrl _ | .iocSClr _ | .iocSInter _
  | .fdcheck _ | .selectRead _ => Bool
  | .send .. | .time => ℤ
  | .select .. => Selected
  | .uninit => UInt32
  | .txWrite .. | .close _ | .sleep _ => Unit
  | .exit | .returnMain => Empty

/-- A program of the daemon. -/
abbrev Daemon := Prog Op Ans

def ask (op : Op) : Daemon (Ans op) := Prog.perform op

/-- `exit(0)`. -/
def exitNow {α : Type} : Daemon α := do
  let r ← ask .exit
  nomatch r

/-- `struct vc_attr`.  `preExcpT` is the static variable of `_stk_excp`, `lrecv` that of `main`, and
`buf` the static buffer of `vc_recv_desp`.  `ops` are the operations on the stack so far, of which the source
keeps no record but in the monitor file; nothing here reads them. -/
structure VcAttr where
  sk : Sock
  attrPtr : ℕ
  xmitPending : ℕ
  port : UInt32
  tid : UInt32
  devid : UInt16
  stk : StkVc
  eki : AdvPortInfo
  tx : RingBuf
  rx : RingBuf
  preExcpT : ℤ
  lrecv : UInt32
  buf : ℕ → UInt8
  ops : List StkOp

/-- `attr_p`: a field of the attributes the driver published last. -/
def attrP {α : Type} (a : VcAttr) (field : AdvPortInfo → α) : Daemon α := do
  let info ← ask (.attr a.attrPtr)
  pure (field info)

/-- `check_attr_stat` is `ATTR_DIFF`. -/
def checkAttrStat (a : VcAttr) (field : AdvPortInfo → UInt32) : Daemon Bool := do
  let f ← attrP a field
  pure (f != field a.eki)

/-! ### The stack of states -/

def stkCurnt (a : VcAttr) : VcOps := a.stk.headD .netdown

def VcAttr.stkOp (a : VcAttr) (op : StkOp) : VcAttr :=
  { a with stk := stkStep a.stk op, ops := a.ops ++ [op] }

def stkPush (a : VcAttr) (current : VcOps) : VcAttr := a.stkOp (.push current)

def stkPop (a : VcAttr) : VcAttr := a.stkOp .pop

def stkRpls (a : VcAttr) (current : VcOps) : VcAttr := a.stkOp (.rpls current)

def stkRestart (a : VcAttr) : VcAttr := a.stkOp .restart

def excpReconnTime : ℤ := 5
def excpSleeptime : ℕ := 3

/-- `stk_excp`: back to the bottom, with a pause if the last time was less than five seconds ago. -/
def stkExcp (a : VcAttr) : Daemon VcAttr :=
  match a.stk with
  | [] => pure a
  | _ :: _ => do
      let now : ℤ ← ask .time
      if a.preExcpT ≠ 0 ∧ now - a.preExcpT < excpReconnTime then ask (.sleep excpSleeptime)
      pure { a.stkOp .excp with preExcpT := now }

/-! ### The ring buffers -/

/-- The buffers `VC_BUF_RX`, `VC_BUF_TX` and `VC_BUF_ATTR`. -/
inductive RbId where
  | rx | tx | attr
  deriving DecidableEq, Repr

def vcBufUpdate (a : VcAttr) : RbId → Daemon VcAttr
  | .rx => do
      let some head ← ask (.iocG .rxHead) | pure a
      let some tail ← ask (.iocG .rxTail) | pure a
      pure { a with rx := { a.rx with head := head, tail := tail } }
  | .tx => do
      let some head ← ask (.iocG .txHead) | pure a
      let some tail ← ask (.iocG .txTail) | pure a
      pure { a with tx := { a.tx with head := head, tail := tail } }
  | .attr => do
      let some ptr ← ask .iocGAttrPtr | pure a
      pure { a with attrPtr := ptr }

/-- `vc_buf_clear`.  For `ADV_CLR_TX` too it is the receive buffer that is updated. -/
def vcBufClear (a : VcAttr) (clrflags : UInt32) : Daemon VcAttr := do
  if ← ask (.iocSClr clrflags) then
    let a ← if clrflags &&& advClrRx ≠ 0 then do
        let _ ← ask (.iocSRxHead 0)
        vcBufUpdate a .rx
      else pure a
    if clrflags &&& advClrTx ≠ 0 then vcBufUpdate a .rx else pure a
  else pure a

/-- `vc_buf_setup`.  The beginning of a page says where `mbase` points; here the calls name the page. -/
def vcBufSetup (a : VcAttr) : RbId → Daemon VcAttr
  | .rx => do
      let some _ ← ask (.iocG .rxBegin) | pure a
      let some size ← ask (.iocG .rxSize) | pure a
      vcBufUpdate { a with rx := { a.rx with size := size } } .rx
  | .tx => do
      let some _ ← ask (.iocG .txBegin) | pure a
      let some size ← ask (.iocG .txSize) | pure a
      vcBufUpdate { a with tx := { a.tx with size := size } } .tx
  | .attr => do
      if ← ask .iocGAttrBegin then vcBufUpdate a .attr else pure a

end ModbusRTU.DaemonCalls
