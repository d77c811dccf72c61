import ModbusRTU.Vcom.DaemonStates

/-!
# The loop of the daemon

`vcRecvDesp` receives one packet of the server and gives it to the current state.  `mainStart` and
`mainPass` are `main` of `vcom_client.c` from the set-up of the buffers on: what it does once, and one round
of `while(1)`.

A `recv` that fails counts as -1 bytes.  When the data of a packet is received a second `recv` makes up
for what is missing, also for a length of -1: it then starts one byte early (`recvMore`).
-/

namespace ModbusRTU.DaemonLoop

open CallProgram PortBuffers WireWords Packets DaemonCalls DaemonStates RingWindow

def rbufSize : ℕ := 4096
/-- Not to be unfolded: comparisons with it would be evaluated in unary. -/
@[irreducible] def vcPullTime : UInt32 := 10000000

/-! ### Receiving a packet -/

/-- The value of a `recv`. -/
def recvLen : Option (List UInt8) → ℤ
  | none => -1
  | some data => data.length

/-- The buffer after a `recv` to the position. -/
def recvAt (buf : ℕ → UInt8) (pos : ℕ) : Option (List UInt8) → ℕ → UInt8
  | none => buf
  | some data => store buf pos data

def recvSecondChance (sk : Sock) (buflen : ℕ) : Daemon (Option (List UInt8)) := do
  if ← ask (.selectRead sk) then ask (.recv sk buflen) else pure (some [])

/-- The second attempt at `want` bytes from the position `base` on, after `len` were received, and
whether it completes them. -/
def recvMore (a : VcAttr) (base : ℕ) (len : ℤ) (want : ℕ) : Daemon (Bool × VcAttr) := do
  if len < want then
    let more ← recvSecondChance a.sk (want - len).toNat
    pure (decide (len + recvLen more = want),
      { a with buf := recvAt a.buf (base + len).toNat more })
  else pure (false, a)

/-- The data of a packet, and whether all of it was received. -/
def recvPayload (a : VcAttr) (packetLen : ℕ) : Daemon (Bool × VcAttr) := do
  let first ← ask (.recv a.sk packetLen)
  let a := { a with buf := recvAt a.buf hdrLen first }
  if recvLen first = packetLen then pure (true, a) else recvMore a hdrLen (recvLen first) packetLen

def updateIf (cond : Bool) (a : VcAttr) (rb : RbId) : Daemon VcAttr :=
  if cond then vcBufUpdate a rb else pure a

/-- The header of a packet is in the buffer. -/
def recvBody (a : VcAttr) : Daemon VcAttr := do
  let packetLen := (be16At a.buf 10).toNat
  let a ← updateIf (be16At a.buf 8 == vcomCmdDataready) a .tx
  if packetLen = 0 then curntRecv a a.buf hdrLen
  else if packetLen > rbufSize - hdrLen then curntErr a
  else
    let (ok, a) ← recvPayload a packetLen
    if ok then curntRecv a a.buf (hdrLen + packetLen) else curntErr a

def vcRecvDesp (a : VcAttr) : Daemon VcAttr := do
  let first ← ask (.recv a.sk hdrLen)
  let a := { a with buf := recvAt a.buf 0 first }
  if recvLen first ≤ 0 then excpInit a
  else if recvLen first = hdrLen then recvBody a
  else
    let (ok, a) ← recvMore a 0 (recvLen first) hdrLen
    if ok then recvBody a else curntErr a

/-! ### The steps of a pass -/

def mainOpenClose (a : VcAttr) : Daemon VcAttr := do
  if ← checkAttrStat a (·.isOpen) then
    let isOpen ← attrP a (·.isOpen)
    if isOpen ≠ 0 then stkOpen a.stk a else curntClose a
  else pure a

/-- Whether one of the settings differs.  The ones after it are not read. -/
def anyDiff (a : VcAttr) : List (AdvPortInfo → UInt32) → Daemon Bool
  | [] => pure false
  | field :: fields => do
      if ← checkAttrStat a field then pure true else anyDiff a fields

def mainIoctl (a : VcAttr) : Daemon VcAttr := do
  if ← anyDiff a [(·.baud), (·.pair), (·.flowctl), (·.byte), (·.stop), (·.ms)] then curntIoctl a
  else pure a

def mainXmit (a : VcAttr) : Daemon VcAttr :=
  if a.xmitPending = 0 ∧ isRbEmpty a.rx = false then curntXmit a else pure a

def mainPause (a : VcAttr) : Daemon VcAttr :=
  if isRbEmpty a.tx = false then curntPause a else pure a

/-- The microseconds that `select` took, at least one. -/
def timeUsed (r : Selected) : UInt32 :=
  let used := vcPullTime - r.left
  if used > 0 then used else 1

/-- The time without a packet is too long, or not. -/
def checkTimeout (a : VcAttr) : Daemon VcAttr := do
  if a.lrecv > vcPullTime then
    let a ← curntErr a
    pure { a with lrecv := 0 }
  else pure a

/-- The socket is readable, or time passed without it. -/
def mainSocket (a : VcAttr) (r : Selected) : Daemon VcAttr :=
  if r.sock then vcRecvDesp { a with lrecv := 0 }
  else if a.sk.isSome then checkTimeout { a with lrecv := a.lrecv + timeUsed r }
  else pure a

/-- What `select` found. -/
def mainReady (a : VcAttr) (r : Selected) : Daemon VcAttr := do
  let a ← updateIf r.attr a .attr
  let a ← mainSocket a r
  let a ← updateIf r.read a .rx
  if r.write then
    let a ← vcBufUpdate a .tx
    curntResume a
  else pure a

/-- The set of `select` holds the socket that was open before the operation `event`. -/
def mainSelect (a : VcAttr) : Daemon VcAttr := do
  let (wanted, b) ← curntEvent a
  if ← ask (.iocSInter (advIntRx ||| advIntTx)) then
    let r ← ask (.select a.sk wanted.read wanted.write)
    if r.ret = 0 then curntPoll b else mainReady b r
  else
    let stop ← ask .returnMain
    nomatch stop

/-- One round of `while(1)`. -/
def mainPass (a : VcAttr) : Daemon VcAttr := do
  let a ← mainOpenClose a
  let a ← mainIoctl a
  let a ← mainXmit a
  let a ← mainPause a
  mainSelect a

/-- What `main` does before the loop, with the port as `startup` and `mmap` leave it. -/
def mainStart (a : VcAttr) : Daemon VcAttr := do
  let a ← vcBufSetup { a with sk := none, stk := [], preExcpT := 0, ops := [] } .tx
  let a ← vcBufSetup a .rx
  let a ← vcBufSetup a .attr
  let a ← stkInit [] a
  pure { a with lrecv := 0 }

end ModbusRTU.DaemonLoop
