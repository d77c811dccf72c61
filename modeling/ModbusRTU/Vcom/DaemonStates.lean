import ModbusRTU.Vcom.DaemonCalls

/-!
# The states of the daemon

What the daemon does in its five states: the functions of the files `vc_client_*.c`.  They return the
current `struct vc_ops`, which no caller looks at, so here they return the changed `struct vc_attr`.

`stk_curnt(stk)->init` and `stk_curnt(stk)->open` can go down the stack: `sync` and `idle` take
themselves off and hand over to the state below.  `stkInit` and `stkOpen` follow the stack.  The other
operations are chosen by the current state (`curnt…`); a state that leaves one out does nothing
(`try_ops`).
-/

namespace ModbusRTU.DaemonStates

open CallProgram SpanCopies PortBuffers WireWords Packets DaemonCalls

def pbufLen : ℕ := 1024
def xmitLen : ℕ := 1024

/-! ### Sending -/

/-- The end of every function that sends: a packet was built, the socket is ready, all of the packet
is sent. -/
def sendPacket (a : VcAttr) (packet : List UInt8) : Daemon Bool := do
  if packet = [] then pure false
  else if ← ask (.fdcheck a.sk) then
    let sent : ℤ ← ask (.send a.sk packet)
    pure (decide (sent = packet.length))
  else pure false

/-- Packets sent in turn, each built with the next transaction number, up to the first failure. -/
def sendPackets (a : VcAttr) : List (UInt32 → List UInt8) → Daemon (Bool × VcAttr)
  | [] => pure (true, a)
  | build :: rest => do
      if ← sendPacket a (build a.tid) then sendPackets { a with tid := a.tid + 1 } rest
      else pure (false, a)

def syncMs (a : VcAttr) (uartMs : UInt32) : Daemon (Bool × VcAttr) :=
  sendPackets a
    [fun tid => if uartMs &&& advMsRts ≠ 0 then vcPackSetrts tid pbufLen
      else vcPackClrrts tid pbufLen,
     fun tid => if uartMs &&& advMsDtr ≠ 0 then vcPackSetdtr tid pbufLen
      else vcPackClrdtr tid pbufLen]

def syncEvent (a : VcAttr) : Daemon (Bool × VcAttr) :=
  sendPackets a
    [fun tid => vcPackSetwmask tid 0x38010000 pbufLen, fun tid => vcPackGetmodem tid pbufLen]

def regSyncEvent (a : VcAttr) : Daemon (Bool × VcAttr) :=
  sendPackets a [fun tid => vcPackWomask tid pbufLen]

def syncQueue (a : VcAttr) : Daemon (Bool × VcAttr) :=
  sendPackets a [fun tid => vcPackQfsize tid (if isRbEmpty a.tx then 1024 else 0) pbufLen]

def pauseQueue (a : VcAttr) : Daemon (Bool × VcAttr) :=
  sendPackets a [fun tid => vcPackQfsize tid 0 pbufLen]

def resumeQueue (a : VcAttr) : Daemon (Bool × VcAttr) :=
  sendPackets a [fun tid => vcPackQfsize tid 1024 pbufLen]

/-- `close(attr->sk); attr->sk = -1;` -/
def closeSk (a : VcAttr) : Daemon VcAttr := do
  ask (.close a.sk)
  pure { a with sk := none }

/-! ### Going into a state -/

def vcNetdownInit (a : VcAttr) : Daemon VcAttr := do
  let a ← if a.sk.isSome then closeSk a else pure a
  pure { a with tid := 0, xmitPending := 0,
                eki := ⟨0, 0, advFlowUndef, 0, advPairUndef, advStopUndef, 0⟩ }

/-- `stk_excp(stk); return stk_curnt(stk)->init(attr);` where the current state is the bottom. -/
def excpInit (a : VcAttr) : Daemon VcAttr := do
  let a ← stkExcp a
  vcNetdownInit a

def vcNetupInit (a : VcAttr) : Daemon VcAttr := do
  let a ← vcBufUpdate a .rx
  vcBufUpdate a .tx

def vcPauseInit (a : VcAttr) : Daemon VcAttr := do
  let a ← vcBufUpdate a .rx
  vcBufUpdate a .tx

def vcIdleInit (a : VcAttr) : Daemon VcAttr := do
  let packet := vcPackGetwmask a.tid hdrLen
  if packet = [] then excpInit a
  else if ← sendPacket a packet then pure { a with tid := a.tid + 1 }
  else
    let a ← closeSk a
    excpInit a

/-- `pop` is the `init` of the state below. -/
def vcSyncInit (pop : VcAttr → Daemon VcAttr) (a : VcAttr) : Daemon VcAttr := do
  let uartMs ← attrP a (·.ms)
  let (ok, a) ← syncMs a uartMs
  if !ok then excpInit a
  else
    let (ok, a) ← syncEvent { a with eki := { a.eki with ms := uartMs } }
    if !ok then excpInit a
    else
      let (ok, a) ← syncQueue a
      if !ok then excpInit a else pop (stkPop a)

/-- `stk_curnt(stk)->init(attr)` on the stack given. -/
def stkInit : StkVc → VcAttr → Daemon VcAttr
  | [], a => vcNetdownInit { a with stk := [] }
  | .netdown :: below, a => vcNetdownInit { a with stk := .netdown :: below }
  | .netup :: below, a => vcNetupInit { a with stk := .netup :: below }
  | .pause :: below, a => vcPauseInit { a with stk := .pause :: below }
  | .idle :: below, a => vcIdleInit { a with stk := .idle :: below }
  | .sync :: below, a => vcSyncInit (stkInit below) { a with stk := .sync :: below }

def curntInit (a : VcAttr) : Daemon VcAttr := stkInit a.stk a

/-- `stk_pop(stk); return stk_curnt(stk)->init(attr);`.  Without its bottom the stack has no current
state. -/
def stkPopInit (a : VcAttr) : Daemon VcAttr :=
  match a.stk with
  | [] => exitNow
  | _ :: _ => curntInit (stkPop a)

/-- `stk_push(stk, …); return stk_curnt(stk)->init(attr);`. -/
def stkPushInit (a : VcAttr) (current : VcOps) : Daemon VcAttr := curntInit (stkPush a current)

/-! ### Opening and closing -/

def vcCommonOpen (a : VcAttr) : Daemon VcAttr := do
  if ← sendPacket a (vcPackOpen 0x001 a.devid a.port pbufLen) then
    stkPushInit { a with tid := a.tid + 1, eki := { a.eki with isOpen := 1 } } .sync
  else
    let a ← closeSk a
    excpInit a

def vcNetdownOpen (a : VcAttr) : Daemon VcAttr := do
  let some sk ← ask .vcConnect | pure { a with sk := none }
  -- the state that is pushed is `netup` or `pause`, whose `open` is `vc_common_open`
  vcCommonOpen (stkPush { a with sk := some sk } (if isRbEmpty a.tx then .netup else .pause))

/-- `stk_curnt(stk)->open(attr)` on the stack given. -/
def stkOpen : StkVc → VcAttr → Daemon VcAttr
  | [], a => vcNetdownOpen { a with stk := [] }
  | .netdown :: below, a => vcNetdownOpen { a with stk := .netdown :: below }
  | .netup :: below, a => vcCommonOpen { a with stk := .netup :: below }
  | .pause :: below, a => vcCommonOpen { a with stk := .pause :: below }
  | .idle :: below, a => stkOpen below (stkPop a)
  | .sync :: _, _ => exitNow

def vcCommonPurge (a : VcAttr) (pflags : UInt32) : Daemon VcAttr := do
  if ← sendPacket a (vcPackPurge a.tid pflags pbufLen) then pure { a with tid := a.tid + 1 }
  else pure a

/-- `stk_restart` leaves the bottom, as `stk_excp` does, but does not wait. -/
def vcCommonClose (a : VcAttr) : Daemon VcAttr := do
  let a := { a with eki := { a.eki with isOpen := 0, stop := advStopUndef, flowctl := advFlowUndef,
                                        pair := advPairUndef } }
  if ← sendPacket a (vcPackClose a.tid pbufLen) then
    vcNetdownInit (stkRestart { a with tid := a.tid + 1 })
  else excpInit a

/-- The socket 0 is not closed. -/
def vcNetdownClose (a : VcAttr) : Daemon VcAttr := do
  let a ← vcBufClear a (advClrRx ||| advClrTx)
  if a.sk.any (· > 0) then closeSk a else pure a

def vcNetupClose (a : VcAttr) : Daemon VcAttr := do
  let a ← vcBufClear a (advClrRx ||| advClrTx)
  let a ← vcCommonPurge a 0x0000000f
  vcCommonClose a

def vcPauseClose (a : VcAttr) : Daemon VcAttr := vcNetupClose a

def vcIdleClose (a : VcAttr) : Daemon VcAttr := vcNetupClose a

def curntClose (a : VcAttr) : Daemon VcAttr :=
  match stkCurnt a with
  | .netdown => vcNetdownClose a
  | .netup => vcNetupClose a
  | .pause => vcPauseClose a
  | .idle => vcIdleClose a
  | .sync => exitNow

/-- `stk_curnt(stk)->err(…)`. -/
def curntErr (a : VcAttr) : Daemon VcAttr :=
  match stkCurnt a with
  | .netdown => pure a
  | .netup | .pause | .idle | .sync => excpInit a

/-! ### Data of the terminal -/

/-- The copies of `vc_common_xmit`: the first bytes of the ring, in two pieces where it goes round
the end of its page. -/
def xmitData (a : VcAttr) : Daemon (List UInt8) :=
  let llen := min (getRbLlength a.rx) xmitLen
  let len := min (getRbLength a.rx) xmitLen
  if llen = len then ask (.rxRead a.rx.head llen)
  else do
    let data ← ask (.rxRead a.rx.head llen)
    let front ← ask (.rxRead 0 (len - llen))
    pure (data ++ front)

def vcCommonXmit (a : VcAttr) : Daemon VcAttr := do
  let data ← xmitData a
  let packet := vcPackXmit a.tid data (xmitLen + hdrLen)
  if packet = [] then excpInit a
  else if ← sendPacket a packet then
    pure { a with xmitPending := min (getRbLength a.rx) xmitLen, tid := a.tid + 1 }
  else
    let a ← closeSk a
    excpInit a

def curntXmit (a : VcAttr) : Daemon VcAttr :=
  match stkCurnt a with
  | .netup | .pause => vcCommonXmit a
  | .netdown | .idle | .sync => pure a

/-! ### Line settings -/

/-- `_set_ms`: the packets for the outputs that change, and the next transaction number. -/
def setMs (a : VcAttr) (buflen : ℕ) (uartMs : UInt32) : List UInt8 × UInt32 :=
  let rts :=
    if a.eki.ms &&& advMsRts = uartMs &&& advMsRts then []
    else if uartMs &&& advMsRts ≠ 0 then vcPackSetrts a.tid buflen
    else vcPackClrrts a.tid buflen
  let tid := if rts = [] then a.tid else a.tid + 1
  let dtr :=
    if a.eki.ms &&& advMsDtr = uartMs &&& advMsDtr then []
    else if uartMs &&& advMsDtr ≠ 0 then vcPackSetdtr tid (buflen - rts.length)
    else vcPackClrdtr tid (buflen - rts.length)
  (rts ++ dtr, if dtr = [] then tid else tid + 1)

def vcCheckComset (a : VcAttr) : Daemon Bool := do
  if ← checkAttrStat a (·.pair) then pure true
  else if ← checkAttrStat a (·.stop) then pure true
  else checkAttrStat a (·.byte)

/-- The settings of flow control, by their number. -/
def hflowOf (flowctl : UInt32) : UInt32 × UInt32 :=
  if flowctl = advFlowRtscts then (0x09000000, 0x80000080)
  else if flowctl = advFlowXonxoff then (0x01000000, 0x43000080)
  else (0x01000000, 0x40000080)

/-- One round of `vc_common_ioctl`: the packets for the first setting that differs. -/
def ioctlPacket (a : VcAttr) : Daemon (List UInt8 × VcAttr) := do
  if ← checkAttrStat a (·.baud) then
    let baud ← attrP a (·.baud)
    pure (vcPackSbaud a.tid baud pbufLen, { a with eki := { a.eki with baud := baud } })
  else if ← vcCheckComset a then
    let pair ← attrP a (·.pair)
    let stop ← attrP a (·.stop)
    let byte ← attrP a (·.byte)
    pure (vcPackSetlctl a.tid pair.toUInt8 byte.toUInt8 stop.toUInt8 pbufLen,
      { a with eki := { a.eki with pair := pair, stop := stop, byte := byte } })
  else if ← checkAttrStat a (·.flowctl) then
    let flowctl ← attrP a (·.flowctl)
    let stale ← ask .uninit
    pure (vcPackHflow a.tid (hflowOf flowctl).1 (hflowOf flowctl).2 stale pbufLen,
      { a with eki := { a.eki with flowctl := flowctl } })
  else if ← checkAttrStat a (·.ms) then
    let ms ← attrP a (·.ms)
    pure ((setMs a pbufLen ms).1,
      { a with tid := (setMs a pbufLen ms).2, eki := { a.eki with ms := ms } })
  else pure ([], a)

def ioctlRounds : ℕ → VcAttr → Daemon VcAttr
  | 0, a => pure a
  | rounds + 1, a => do
      let (packet, a) ← ioctlPacket a
      if packet = [] then pure a
      else if ← sendPacket a packet then ioctlRounds rounds { a with tid := a.tid + 1 }
      else excpInit a

def vcCommonIoctl (a : VcAttr) : Daemon VcAttr := ioctlRounds 15 a

def curntIoctl (a : VcAttr) : Daemon VcAttr :=
  match stkCurnt a with
  | .netup | .pause => vcCommonIoctl a
  | .netdown | .idle | .sync => pure a

/-! ### Packets of the server -/

def vcSyncRecv (a : VcAttr) (buf : ℕ → UInt8) : Daemon VcAttr := do
  let subcmd := be32At buf 16
  if subcmd = vcomIoctlWaitOnMask then
    let (ok, a) ← syncEvent a
    if ok then stkPopInit a else excpInit a
  else if subcmd = vcomIoctlSetWaitMask then
    let (ok, a) ← regSyncEvent a
    if ok then stkPopInit a else excpInit a
  else if subcmd = vcomIoctlGetModemstatus then
    if ← ask (.iocSMctrl (le32At buf 20)) then stkPopInit a else excpInit a
  else stkPopInit a

/-- `check_ioctl_ret` returns 0. -/
def checkIoctlRet (a : VcAttr) (buf : ℕ → UInt8) : Daemon (Bool × VcAttr) := do
  let subcmd := be32At buf 16
  if be32At buf 12 ≠ statusSuccess then pure (false, a)
  else if subcmd = vcomIoctlWaitOnMask ∨ subcmd = vcomIoctlGetModemstatus ∨
      subcmd = vcomIoctlSetWaitMask then
    let a ← vcSyncRecv (stkPush a .sync) buf
    pure (true, a)
  else pure (true, a)

/-- The case `VCOM_CMD_DATAREADY` of `vc_common_recv`. -/
def recvDataready (a : VcAttr) (buf : ℕ → UInt8) : Daemon VcAttr := do
  let lroom := getRbLroom a.tx
  let some datalen := vcCheckRecv buf | excpInit a
  if getRbRoom a.tx < datalen then excpInit a
  else
    let data := span buf hdrLen datalen
    if lroom ≥ datalen then ask (.txWrite a.tx.tail data)
    else do
      ask (.txWrite a.tx.tail (data.take lroom))
      ask (.txWrite 0 (data.drop lroom))
    let _ ← ask (.iocSTxTail datalen)
    pure a

/-- The case `VCOM_CMD_WRITE` of `vc_common_recv`. -/
def recvWrite (a : VcAttr) (buf : ℕ → UInt8) (len : ℕ) : Daemon VcAttr := do
  let pending := a.xmitPending
  let a := { a with xmitPending := 0 }
  if vcCheckXmit buf pending statusSuccess len then
    let _ ← ask (.iocSRxHead pending)
    vcBufUpdate a .rx
  else if vcCheckXmit buf pending statusDeviceBusy len then pure a
  else excpInit a

def vcCommonRecv (a : VcAttr) (buf : ℕ → UInt8) (len : ℕ) : Daemon VcAttr := do
  let cmd := be16At buf 8
  if len < 12 then excpInit a
  else if cmd = vcomCmdCreate then
    if vcCheckOpen buf a.port len then pure a else excpInit a
  else if cmd = vcomCmdIoctl then
    if hdrLen > len then excpInit a
    else
      let (ok, a) ← checkIoctlRet a buf
      if ok then pure a else excpInit a
  else if cmd = vcomCmdDataready then recvDataready a buf
  else if cmd = vcomCmdWrite then recvWrite a buf len
  else pure a

/-- `vc_idle_recv` does not look at the packet. -/
def vcIdleRecv (a : VcAttr) : Daemon VcAttr := stkPopInit a

def curntRecv (a : VcAttr) (buf : ℕ → UInt8) (len : ℕ) : Daemon VcAttr :=
  match stkCurnt a with
  | .netdown => pure a
  | .netup | .pause => vcCommonRecv a buf len
  | .idle => vcIdleRecv a
  | .sync => vcSyncRecv a buf

/-! ### Polling, pausing, resuming -/

def curntPoll (a : VcAttr) : Daemon VcAttr :=
  match stkCurnt a with
  | .netup | .pause => stkPushInit a .idle
  | .idle => excpInit a
  | .netdown | .sync => pure a

def vcNetupPause (a : VcAttr) : Daemon VcAttr := do
  let (ok, a) ← pauseQueue a
  if ok then curntInit (stkRpls a .pause) else excpInit a

def curntPause (a : VcAttr) : Daemon VcAttr :=
  match stkCurnt a with
  | .netup => vcNetupPause a
  | .netdown | .pause | .idle | .sync => pure a

def vcPauseResume (a : VcAttr) : Daemon VcAttr := do
  let some unsent ← ask (.siocoutq a.sk) | excpInit a
  if unsent ≠ 0 then pure a
  else
    let (ok, a) ← resumeQueue a
    if ok then curntInit (stkRpls a .netup) else excpInit a

def curntResume (a : VcAttr) : Daemon VcAttr :=
  match stkCurnt a with
  | .pause => vcPauseResume a
  | .netdown | .netup | .idle | .sync => pure a

/-- Whether to wait for the driver's file to be readable and writable. -/
structure Wanted where
  read : Bool
  write : Bool
  deriving DecidableEq, Repr

def vcNetupEvent (a : VcAttr) : Wanted := ⟨a.xmitPending == 0, false⟩

def vcPauseEvent (a : VcAttr) : Daemon (Wanted × VcAttr) := do
  let some unread ← ask (.siocinq a.sk) | do
    let a ← excpInit a
    pure (⟨false, false⟩, a)
  if unread ≠ 0 then pure (⟨false, false⟩, a) else pure (⟨a.xmitPending == 0, true⟩, a)

def curntEvent (a : VcAttr) : Daemon (Wanted × VcAttr) :=
  match stkCurnt a with
  | .netup => pure (vcNetupEvent a, a)
  | .pause => vcPauseEvent a
  | .netdown | .idle | .sync => pure (⟨false, false⟩, a)

end ModbusRTU.DaemonStates
