import ModbusRTU.Interaction.WorldLogic
import ModbusRTU.Vcom.DaemonLoop
import ModbusRTU.Vcom.MonitorFile
import ModbusRTU.Vcom.UartRuns

/-!
# The monitor file in runs of the daemon

The daemon goes down its stack in many ways, also from inside the `init` and the `open` of a state.  What
`mon_update` sees of this are the operations on the stack.

* **`recorded_mainPass`** — whatever the driver and the server answer, the operations of a pass account
  for the stack (`Recorded`): no function changes the one without the other.
* **`monitor_of_reached`** — so between any two passes of any run the file shows the current state and the
  exceptions, and no copy of `mon_update` has left its buffer.
-/

namespace ModbusRTU.MonitorRuns

open CallProgram WorldLogic SpanCopies PortBuffers WireWords Packets DaemonCalls DaemonStates DaemonLoop
open MonitorFile UartRuns

/-- The operations led to the stack. -/
def Recorded (a : VcAttr) : Prop := stkRun [] a.ops = a.stk

def On (stk : StkVc) (a : VcAttr) : Prop := a.stk = stk ∧ Recorded a

variable {a b : VcAttr} {stk : StkVc}

/-- **An operation** is recorded. -/
theorem Recorded.stkOp (h : Recorded a) (op : StkOp) : Recorded (a.stkOp op) := by
  show stkRun [] (a.ops ++ [op]) = stkStep a.stk op
  rw [← h]
  unfold stkRun
  rw [List.foldl_append]
  rfl

theorem On.stkOp (h : On stk a) (op : StkOp) : On (stkStep stk op) (a.stkOp op) :=
  ⟨congrArg (stkStep · op) h.1, h.2.stkOp op⟩

/-! ### Functions without an operation -/

section Unmoved

variable (h : On stk a)
include h

theorem on_vcBufUpdate (rb : RbId) : Returns (On stk) (vcBufUpdate a rb) := by
  cases rb with
  | attr =>
      refine returns_any _ fun ptr => ?_
      cases ptr <;> exact h
  | rx =>
      refine returns_any _ fun head => ?_
      cases head with
      | none => exact h
      | some head =>
          refine returns_any _ fun tail => ?_
          cases tail <;> exact h
  | tx =>
      refine returns_any _ fun head => ?_
      cases head with
      | none => exact h
      | some head =>
          refine returns_any _ fun tail => ?_
          cases tail <;> exact h

theorem on_updateIf (cond : Bool) (rb : RbId) : Returns (On stk) (updateIf cond a rb) := by
  unfold updateIf
  split
  · exact on_vcBufUpdate h rb
  · exact h

theorem on_vcBufClear (clrflags : UInt32) : Returns (On stk) (vcBufClear a clrflags) := by
  have hlast : ∀ b, On stk b →
      Returns (On stk) (if clrflags &&& advClrTx ≠ 0 then vcBufUpdate b .rx else pure b) := by
    intro b hb
    split
    · exact on_vcBufUpdate hb .rx
    · exact hb
  unfold vcBufClear
  refine returns_any _ fun ok => ?_
  split
  · dsimp only
    split
    · exact returns_any _ fun _ => returns_seq (on_vcBufUpdate h .rx) hlast
    · exact hlast a h
  · exact h

theorem on_vcBufSetup (rb : RbId) : Returns (On stk) (vcBufSetup a rb) := by
  cases rb with
  | attr =>
      refine returns_any _ fun found => ?_
      split
      · exact on_vcBufUpdate h .attr
      · exact h
  | rx =>
      refine returns_any _ fun first => ?_
      cases first with
      | none => exact h
      | some first =>
          refine returns_any _ fun size => ?_
          cases size with
          | none => exact h
          | some size => exact on_vcBufUpdate (a := { a with rx := { a.rx with size := size } }) h .rx
  | tx =>
      refine returns_any _ fun first => ?_
      cases first with
      | none => exact h
      | some first =>
          refine returns_any _ fun size => ?_
          cases size with
          | none => exact h
          | some size => exact on_vcBufUpdate (a := { a with tx := { a.tx with size := size } }) h .tx

theorem on_sendPackets (builds : List (UInt32 → List UInt8)) :
    Returns (fun r => On stk r.2) (sendPackets a builds) := by
  induction builds generalizing a with
  | nil => exact h
  | cons build builds ih =>
      unfold sendPackets
      refine returns_any _ fun ok => ?_
      split
      · exact ih (a := { a with tid := a.tid + 1 }) h
      · exact h

theorem on_closeSk : Returns (On stk) (closeSk a) := returns_any _ fun _ => h

theorem on_vcNetdownInit : Returns (On stk) (vcNetdownInit a) := by
  unfold vcNetdownInit
  split
  · exact returns_seq (on_closeSk h) fun _ hb => hb
  · exact h

theorem on_vcNetupInit : Returns (On stk) (vcNetupInit a) :=
  returns_seq (on_vcBufUpdate h .rx) fun _ hb => on_vcBufUpdate hb .tx

theorem on_vcCommonPurge (pflags : UInt32) : Returns (On stk) (vcCommonPurge a pflags) := by
  unfold vcCommonPurge
  refine returns_any _ fun ok => ?_
  split
  · exact h
  · exact h

/-- The settings that are sent. -/
theorem on_ioctlPacket : Returns (fun r => On stk r.2) (ioctlPacket a) := by
  unfold ioctlPacket
  refine returns_any _ fun differs => ?_
  split
  · exact returns_any _ fun _ => h
  · refine returns_any _ fun differs => ?_
    split
    · exact returns_any _ fun _ => returns_any _ fun _ => returns_any _ fun _ => h
    · refine returns_any _ fun differs => ?_
      split
      · exact returns_any _ fun _ => returns_any _ fun _ => h
      · refine returns_any _ fun differs => ?_
        split
        · exact returns_any _ fun _ => h
        · exact h

theorem on_recvMore (base : ℕ) (len : ℤ) (want : ℕ) :
    Returns (fun r => On stk r.2) (recvMore a base len want) := by
  unfold recvMore
  split
  · exact returns_any _ fun _ => h
  · exact h

theorem on_recvPayload (packetLen : ℕ) : Returns (fun r => On stk r.2) (recvPayload a packetLen) := by
  unfold recvPayload
  refine returns_any _ fun first => ?_
  dsimp only
  split
  · exact h
  · exact on_recvMore (a := { a with buf := recvAt a.buf hdrLen first }) h _ _ _

end Unmoved

/-! ### Going into a state -/

theorem Recorded.on (h : Recorded a) : On a.stk a := ⟨rfl, h⟩

theorem On.given (h : On stk a) : On stk { a with stk := stk } := ⟨rfl, h.2.trans h.1⟩

theorem recorded_of_on {f : Daemon VcAttr} (h : Returns (On stk) f) : Returns Recorded f :=
  returns_mono h fun _ hb => hb.2

theorem recorded_exitNow {α : Type} {P : α → Prop} : Returns P (exitNow : Daemon α) :=
  fun r => nomatch r

theorem recorded_stkExcp (h : Recorded a) : Returns Recorded (stkExcp a) := by
  unfold stkExcp
  split
  · exact h
  · refine returns_any _ fun now => ?_
    split
    · exact returns_any _ fun _ => h.stkOp .excp
    · exact h.stkOp .excp

theorem recorded_excpInit (h : Recorded a) : Returns Recorded (excpInit a) :=
  returns_seq (recorded_stkExcp h) fun _ hb => recorded_of_on (on_vcNetdownInit hb.on)

/-- The end of an operation that lost its connection. -/
theorem recorded_closeSk_excpInit (h : Recorded a) :
    Returns Recorded (closeSk a >>= fun b => excpInit b) :=
  returns_seq (on_closeSk h.on) fun _ hb => recorded_excpInit hb.2

theorem recorded_vcIdleInit (h : Recorded a) : Returns Recorded (vcIdleInit a) := by
  unfold vcIdleInit
  dsimp only
  split
  · exact recorded_excpInit h
  · refine returns_any _ fun ok => ?_
    split
    · exact h
    · exact recorded_closeSk_excpInit h

theorem recorded_vcSyncInit {pop : VcAttr → Daemon VcAttr} (h : On stk a)
    (hpop : ∀ b, On stk.tail b → Returns Recorded (pop b)) : Returns Recorded (vcSyncInit pop a) := by
  unfold vcSyncInit
  refine returns_any _ fun ms => ?_
  refine returns_seq (on_sendPackets h _) fun r hr => ?_
  obtain ⟨ok, b⟩ := r
  cases ok with
  | false => exact recorded_excpInit hr.2
  | true =>
      refine returns_seq (on_sendPackets (a := { b with eki := { b.eki with ms := ms } }) hr _) fun r hr => ?_
      obtain ⟨ok, c⟩ := r
      cases ok with
      | false => exact recorded_excpInit hr.2
      | true =>
          refine returns_seq (on_sendPackets hr _) fun r hr => ?_
          obtain ⟨ok, d⟩ := r
          cases ok with
          | false => exact recorded_excpInit hr.2
          | true => exact hpop (stkPop d) (hr.stkOp .pop)

/-- **Down the stack**: what is below goes on with what was recorded. -/
theorem recorded_stkInit (h : On stk a) : Returns Recorded (stkInit stk a) := by
  induction stk generalizing a with
  | nil => exact recorded_of_on (on_vcNetdownInit h.given)
  | cons current below ih =>
      cases current with
      | netdown => exact recorded_of_on (on_vcNetdownInit h.given)
      | netup => exact recorded_of_on (on_vcNetupInit h.given)
      | pause => exact recorded_of_on (on_vcNetupInit h.given)
      | idle => exact recorded_vcIdleInit h.given.2
      | sync => exact recorded_vcSyncInit h.given fun _ hb => ih hb

theorem recorded_curntInit (h : Recorded a) : Returns Recorded (curntInit a) := recorded_stkInit h.on

theorem recorded_stkPopInit (h : Recorded a) : Returns Recorded (stkPopInit a) := by
  unfold stkPopInit
  split
  · exact recorded_exitNow
  · exact recorded_curntInit (h.stkOp .pop)

/-! ### The operations of the states -/

theorem recorded_vcCommonOpen (h : Recorded a) : Returns Recorded (vcCommonOpen a) := by
  unfold vcCommonOpen
  refine returns_any _ fun ok => ?_
  split
  · refine recorded_curntInit (Recorded.stkOp ?_ (.push .sync))
    exact h
  · exact recorded_closeSk_excpInit h

theorem recorded_vcNetdownOpen (h : Recorded a) : Returns Recorded (vcNetdownOpen a) := by
  unfold vcNetdownOpen
  refine returns_any _ fun sk => ?_
  cases sk with
  | none => exact h
  | some sk =>
      refine recorded_vcCommonOpen (Recorded.stkOp ?_ (.push _))
      exact h

theorem recorded_stkOpen (h : On stk a) : Returns Recorded (stkOpen stk a) := by
  induction stk generalizing a with
  | nil => exact recorded_vcNetdownOpen h.given.2
  | cons current below ih =>
      cases current with
      | netdown => exact recorded_vcNetdownOpen h.given.2
      | netup => exact recorded_vcCommonOpen h.given.2
      | pause => exact recorded_vcCommonOpen h.given.2
      | idle => exact ih (h.stkOp .pop)
      | sync => exact recorded_exitNow

section States

variable (h : Recorded a)
include h

theorem recorded_vcCommonClose : Returns Recorded (vcCommonClose a) := by
  unfold vcCommonClose
  refine returns_any _ fun ok => ?_
  split
  · refine recorded_of_on (on_vcNetdownInit (Recorded.on (Recorded.stkOp ?_ .restart)))
    exact h
  · exact recorded_excpInit h

theorem recorded_vcNetupClose : Returns Recorded (vcNetupClose a) := by
  unfold vcNetupClose
  refine returns_seq (on_vcBufClear h.on _) fun b hb => ?_
  exact returns_seq (on_vcCommonPurge hb _) fun c hc => recorded_vcCommonClose hc.2

theorem recorded_vcNetdownClose : Returns Recorded (vcNetdownClose a) := by
  unfold vcNetdownClose
  refine returns_seq (on_vcBufClear h.on _) fun b hb => ?_
  split
  · exact recorded_of_on (on_closeSk hb)
  · exact hb.2

theorem recorded_curntClose : Returns Recorded (curntClose a) := by
  unfold curntClose
  split
  · exact recorded_vcNetdownClose h
  · exact recorded_vcNetupClose h
  · exact recorded_vcNetupClose h
  · exact recorded_vcNetupClose h
  · exact recorded_exitNow

theorem recorded_curntErr : Returns Recorded (curntErr a) := by
  unfold curntErr
  split
  · exact h
  all_goals exact recorded_excpInit h

theorem recorded_curntXmit : Returns Recorded (curntXmit a) := by
  have hxmit : Returns Recorded (vcCommonXmit a) := by
    unfold vcCommonXmit
    refine returns_any _ fun data => ?_
    dsimp only
    split
    · exact recorded_excpInit h
    · refine returns_any _ fun ok => ?_
      split
      · exact h
      · exact recorded_closeSk_excpInit h
  unfold curntXmit
  split
  · exact hxmit
  · exact hxmit
  all_goals exact h

theorem recorded_ioctlRounds (rounds : ℕ) : Returns Recorded (ioctlRounds rounds a) := by
  induction rounds generalizing a with
  | zero => exact h
  | succ rounds ih =>
      unfold ioctlRounds
      refine returns_seq (on_ioctlPacket h.on) fun r hr => ?_
      obtain ⟨packet, b⟩ := r
      dsimp only
      split
      · exact hr.2
      · refine returns_any _ fun ok => ?_
        split
        · exact ih (a := { b with tid := b.tid + 1 }) hr.2
        · exact recorded_excpInit hr.2

theorem recorded_curntIoctl : Returns Recorded (curntIoctl a) := by
  unfold curntIoctl
  split
  · exact recorded_ioctlRounds h 15
  · exact recorded_ioctlRounds h 15
  all_goals exact h

/-! ### Packets of the server -/

/-- Packets that were sent, or not. -/
theorem recorded_sendPackets {f : VcAttr → Daemon VcAttr} (builds : List (UInt32 → List UInt8))
    (hf : ∀ b, Recorded b → Returns Recorded (f b)) :
    Returns Recorded (sendPackets a builds >>= fun r => if r.1 then f r.2 else excpInit r.2) := by
  refine returns_seq (on_sendPackets h.on builds) fun r hr => ?_
  split
  · exact hf r.2 hr.2
  · exact recorded_excpInit hr.2

theorem recorded_vcSyncRecv (buf : ℕ → UInt8) : Returns Recorded (vcSyncRecv a buf) := by
  unfold vcSyncRecv
  dsimp only
  split
  · exact recorded_sendPackets h _ fun _ hb => recorded_stkPopInit hb
  · split
    · exact recorded_sendPackets h _ fun _ hb => recorded_stkPopInit hb
    · split
      · refine returns_any _ fun ok => ?_
        split
        · exact recorded_stkPopInit h
        · exact recorded_excpInit h
      · exact recorded_stkPopInit h

theorem recorded_checkIoctlRet (buf : ℕ → UInt8) :
    Returns (fun r => Recorded r.2) (checkIoctlRet a buf) := by
  unfold checkIoctlRet
  dsimp only
  split
  · exact h
  · split
    · exact returns_seq (recorded_vcSyncRecv (h.stkOp (.push .sync)) buf) fun _ hb => hb
    · exact h

theorem recorded_recvDataready (buf : ℕ → UInt8) : Returns Recorded (recvDataready a buf) := by
  unfold recvDataready
  dsimp only
  split
  · split
    · exact recorded_excpInit h
    · split
      · exact returns_any _ fun _ => returns_any _ fun _ => h
      · exact returns_any _ fun _ => returns_any _ fun _ => returns_any _ fun _ => h
  · exact recorded_excpInit h

theorem recorded_recvWrite (buf : ℕ → UInt8) (len : ℕ) : Returns Recorded (recvWrite a buf len) := by
  have hnone : Recorded { a with xmitPending := 0 } := h
  unfold recvWrite
  dsimp only
  split
  · exact returns_any _ fun _ => recorded_of_on (on_vcBufUpdate hnone.on .rx)
  · split
    · exact h
    · exact recorded_excpInit hnone

theorem recorded_vcCommonRecv (buf : ℕ → UInt8) (len : ℕ) : Returns Recorded (vcCommonRecv a buf len) := by
  unfold vcCommonRecv
  dsimp only
  split
  · exact recorded_excpInit h
  · split
    · split
      · exact h
      · exact recorded_excpInit h
    · split
      · split
        · exact recorded_excpInit h
        · refine returns_seq (recorded_checkIoctlRet h buf) fun r hr => ?_
          obtain ⟨ok, b⟩ := r
          cases ok with
          | true => exact hr
          | false => exact recorded_excpInit hr
      · split
        · exact recorded_recvDataready h buf
        · split
          · exact recorded_recvWrite h buf len
          · exact h

theorem recorded_curntRecv (buf : ℕ → UInt8) (len : ℕ) : Returns Recorded (curntRecv a buf len) := by
  unfold curntRecv
  split
  · exact h
  · exact recorded_vcCommonRecv h buf len
  · exact recorded_vcCommonRecv h buf len
  · exact recorded_stkPopInit h
  · exact recorded_vcSyncRecv h buf

/-! ### Polling, pausing, resuming -/

theorem recorded_curntPoll : Returns Recorded (curntPoll a) := by
  have hidle : Returns Recorded (stkPushInit a .idle) := recorded_curntInit (h.stkOp (.push .idle))
  unfold curntPoll
  split
  · exact hidle
  · exact hidle
  · exact recorded_excpInit h
  all_goals exact h

theorem recorded_curntPause : Returns Recorded (curntPause a) := by
  unfold curntPause
  split
  · exact recorded_sendPackets h _ fun _ hb => recorded_curntInit (hb.stkOp (.rpls .pause))
  all_goals exact h

theorem recorded_curntResume : Returns Recorded (curntResume a) := by
  unfold curntResume
  split
  · unfold vcPauseResume
    refine returns_any _ fun unsent => ?_
    cases unsent with
    | none => exact recorded_excpInit h
    | some unsent =>
        dsimp only
        split
        · exact h
        · exact recorded_sendPackets h _ fun _ hb => recorded_curntInit (hb.stkOp (.rpls .netup))
  all_goals exact h

theorem recorded_curntEvent : Returns (fun r => Recorded r.2) (curntEvent a) := by
  unfold curntEvent
  split
  · exact h
  · unfold vcPauseEvent
    refine returns_any _ fun unread => ?_
    cases unread with
    | none => exact returns_seq (recorded_excpInit h) fun _ hb => hb
    | some unread =>
        dsimp only
        split
        · exact h
        · exact h
  all_goals exact h

/-! ### The loop -/

theorem recorded_recvBody : Returns Recorded (recvBody a) := by
  unfold recvBody
  dsimp only
  refine returns_seq (on_updateIf h.on _ .tx) fun b hb => ?_
  split
  · exact recorded_curntRecv hb.2 _ _
  · split
    · exact recorded_curntErr hb.2
    · refine returns_seq (on_recvPayload hb _) fun r hr => ?_
      obtain ⟨ok, c⟩ := r
      cases ok with
      | true => exact recorded_curntRecv hr.2 _ _
      | false => exact recorded_curntErr hr.2

theorem recorded_vcRecvDesp : Returns Recorded (vcRecvDesp a) := by
  unfold vcRecvDesp
  refine returns_any _ fun first => ?_
  have hfirst : Recorded { a with buf := recvAt a.buf 0 first } := h
  dsimp only
  split
  · exact recorded_excpInit hfirst
  · split
    · exact recorded_recvBody hfirst
    · refine returns_seq (on_recvMore hfirst.on _ _ _) fun r hr => ?_
      obtain ⟨ok, b⟩ := r
      cases ok with
      | true => exact recorded_recvBody hr.2
      | false => exact recorded_curntErr hr.2

theorem recorded_mainOpenClose : Returns Recorded (mainOpenClose a) := by
  unfold mainOpenClose
  refine returns_any _ fun differs => ?_
  split
  · refine returns_any _ fun isOpen => ?_
    split
    · exact recorded_stkOpen h.on
    · exact recorded_curntClose h
  · exact h

theorem recorded_mainIoctl : Returns Recorded (mainIoctl a) := by
  unfold mainIoctl
  refine returns_any _ fun differs => ?_
  split
  · exact recorded_curntIoctl h
  · exact h

theorem recorded_mainXmit : Returns Recorded (mainXmit a) := by
  unfold mainXmit
  split
  · exact recorded_curntXmit h
  · exact h

theorem recorded_mainPause : Returns Recorded (mainPause a) := by
  unfold mainPause
  split
  · exact recorded_curntPause h
  · exact h

theorem recorded_mainSocket (r : Selected) : Returns Recorded (mainSocket a r) := by
  have hlate : ∀ lrecv, Returns Recorded (checkTimeout { a with lrecv := lrecv }) := by
    intro lrecv
    have hnext : Recorded { a with lrecv := lrecv } := h
    unfold checkTimeout
    split
    · exact returns_seq (recorded_curntErr hnext) fun _ hb => hb
    · exact h
  unfold mainSocket
  split
  · exact recorded_vcRecvDesp (a := { a with lrecv := 0 }) h
  · split
    · exact hlate _
    · exact h

theorem recorded_mainReady (r : Selected) : Returns Recorded (mainReady a r) := by
  unfold mainReady
  refine returns_seq (on_updateIf h.on _ .attr) fun b hb => ?_
  refine returns_seq (recorded_mainSocket hb.2 r) fun c hc => ?_
  refine returns_seq (on_updateIf hc.on _ .rx) fun d hd => ?_
  split
  · exact returns_seq (on_vcBufUpdate hd .tx) fun _ he => recorded_curntResume he.2
  · exact hd.2

theorem recorded_mainSelect : Returns Recorded (mainSelect a) := by
  unfold mainSelect
  refine returns_seq (recorded_curntEvent h) fun r hr => ?_
  obtain ⟨wanted, b⟩ := r
  refine returns_any _ fun ok => ?_
  split
  · refine returns_any _ fun selected => ?_
    split
    · exact recorded_curntPoll hr
    · exact recorded_mainReady hr selected
  · exact returns_any _ fun stop => nomatch stop

/-- **A pass.** -/
theorem recorded_mainPass : Returns Recorded (mainPass a) := by
  unfold mainPass
  refine returns_seq (recorded_mainOpenClose h) fun b hb => ?_
  refine returns_seq (recorded_mainIoctl hb) fun c hc => ?_
  refine returns_seq (recorded_mainXmit hc) fun d hd => ?_
  exact returns_seq (recorded_mainPause hd) fun e he => recorded_mainSelect he

end States

theorem recorded_mainStart (a : VcAttr) : Returns Recorded (mainStart a) := by
  have hnone : On [] { a with sk := none, stk := [], preExcpT := 0, ops := [] } := ⟨rfl, rfl⟩
  unfold mainStart
  refine returns_seq (on_vcBufSetup hnone .tx) fun b hb => ?_
  refine returns_seq (on_vcBufSetup hb .rx) fun c hc => ?_
  refine returns_seq (on_vcBufSetup hc .attr) fun d hd => ?_
  exact returns_seq (recorded_stkInit hd) fun _ he => he

/-! ### Runs -/

/-- **The monitor file** between two passes, in any world. -/
theorem monitor_of_reached {W : Type} {world : World Op Ans W} {w₀ w : W} {a b : VcAttr}
    (h : Reached world (mainStart a) mainPass w₀ (pure b) w) (pid : Fin (2 ^ 31)) (page : ℕ → Char)
    {ops : List SitedOp} (hops : ops.map (·.1) = b.ops) :
    ∃ m, monitored pid page ops = some m ∧
      span m.mem 0 msize = contents pid (stkCurnt b) (logged [] [] ops) ∧
      m.truncated = (logged [] [] ops).length := by
  have hrecorded : Recorded b :=
    returns_of_reached (recorded_mainStart a) (fun s hs => recorded_mainPass hs) h
  obtain ⟨m, hmonitored, hcontents, htruncated⟩ := monitor_of_ops pid page ops
  rw [hops, hrecorded] at hcontents
  exact ⟨m, hmonitored, hcontents, htruncated⟩

/-! ### A silent server -/

/-- The use of `stk_excp` in `vc_idle_poll`. -/
def idlePoll : Site := ⟨("vc_idle_poll", 70), by decide⟩

/-- Down to the first exception: the port is opened, no packet comes, and the probe is not answered. -/
def silentOps : List SitedOp :=
  [.push .netup, .push .sync, .pop, .push .idle, .excp].map fun op => (op, idlePoll)

/-- The daemon is between two passes and has done these operations. -/
def silent : Daemon VcAttr × UartPort → Bool
  | (.ret b, _) => silentOps.map (·.1) == b.ops
  | (.call .., _) => false

/-- The file of a daemon whose server says nothing. -/
theorem monitor_of_reached_silent : ∃ b u, UartReached newAttr newUart (pure b) u ∧
    ∃ m, monitored 1526 (fun _ => nul) silentOps = some m ∧
      span m.mem 0 msize = contents 1526 (stkCurnt b) ["(Idle)vc_idle_poll,70".toList] ∧
      m.truncated = 1 := by
  have hcheck : (follow (replyOf firstOps fun _ => []) (mainStart newAttr) mainPass newUart 77).any silent
      = true := by decide +kernel
  obtain ⟨prog, u, h, hsilent⟩ := exists_reached step_replyOf hcheck
  cases prog with
  | ret b => exact ⟨b, u, h, monitor_of_reached h 1526 (fun _ => nul) (eq_of_beq hsilent)⟩
  | call op k => exact absurd hsilent Bool.false_ne_true

end ModbusRTU.MonitorRuns
