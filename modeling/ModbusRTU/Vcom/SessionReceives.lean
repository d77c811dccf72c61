import ModbusRTU.Vcom.SessionSettings

/-!
# Data and answers on the wire

* **`vcCommonXmit_wire`** — data of the terminal goes to a server that was told the settings.
* **`vcSyncRecv_wire`** — some answers of the server lead to further requests, which it accepts.
* **`vcRecvDesp_wire`** — a packet of the server, in any pieces and with any content.  With its first
  byte the daemon has waited for nothing.
-/

namespace ModbusRTU.SessionReceives

open CallProgram WorldLogic PortBuffers WireWords Packets DaemonCalls DaemonStates DaemonLoop
open DaemonInvariant DaemonSpecs ServerRequests ServerSession SessionWorld SessionSpecs

variable {dev : UInt16} {port lrecv : UInt32} {current : VcOps} {a b : VcAttr} {w u : Wire}

/-! ### Data of the terminal -/

theorem xmitData_wire (a : VcAttr) :
    wp (wire dev port) (xmitData a) (fun data u => data.length ≤ xmitLen ∧ u = w) w := by
  have hlimit : min (getRbLlength a.rx) xmitLen ≤ xmitLen := Nat.min_le_right ..
  have hlimit' : min (getRbLength a.rx) xmitLen ≤ xmitLen := Nat.min_le_right ..
  unfold xmitData
  dsimp only
  split
  · refine wp_still_last trivial (fun _ _ hstep => hstep.2) fun r hstep => ⟨?_, rfl⟩
    rw [hstep.1]
    exact hlimit
  · refine wp_still trivial (fun _ _ hstep => hstep.2) fun data hdata => ?_
    refine wp_still trivial (fun _ _ hstep => hstep.2) fun front hfront => ⟨?_, rfl⟩
    rw [List.length_append, hdata.1, hfront.1]
    omega

/-- **Data is sent** to a server that was told the settings. -/
theorem vcCommonXmit_wire (h : Served dev port lrecv current a w) (hstk : a.stk = [current])
    (hwaited : w.waited ≤ lrecv.toNat) (hsilent : w.silent = 0) (htold : w.session.Told w.page) :
    wp (wire dev port) (vcCommonXmit a) (Informed dev port lrecv) w := by
  unfold vcCommonXmit
  refine wp_seq (xmitData_wire a) fun data u hdata => ?_
  obtain ⟨hlength, rfl⟩ := hdata
  dsimp only
  split
  · exact excpInit_informed h.toJoined
  · have hfits : (Request.write data).Fits := hlength
    have haccept : u.session.accept (.write data) = some u.session := accept_running h.running
    have hhear : u.session.hear dev port ((Request.write data).build 0 a.tid) =
        some { u.session with next := a.tid + 1 } := hear_build h.inStep hfits haccept
    refine wp_seq (sendPacket_wire h.toJoined h.up hhear fun _ => htold) fun ok v hok => ?_
    cases ok with
    | true =>
        obtain rfl := hok.1 rfl
        refine ⟨Served.attuned (h.counted.alike ⟨rfl, rfl, rfl, rfl, rfl, rfl⟩) hstk hwaited hsilent,
          fun _ => ?_⟩
        exact ⟨htold.baud, htold.line, htold.flow, htold.rts, htold.dtr⟩
    | false =>
        refine wp_seq (closeSk_wire (h.toJoined.unsent (hok.2 rfl)) h.up) fun b v hb => ?_
        exact excpInit_informed hb.2

theorem curntXmit_wire (h : Informed dev port lrecv a w) :
    wp (wire dev port) (curntXmit a) (Informed dev port lrecv) w := by
  unfold curntXmit stkCurnt
  cases h.standing with
  | down hdown =>
      rw [hdown.stk]
      exact h
  | up current hserved hstk =>
      obtain ⟨hwaited, hsilent⟩ := h.unhurried hserved hstk
      have hxmit := vcCommonXmit_wire hserved hstk hwaited hsilent (h.told (Served.isUpper hserved hstk))
      rw [hstk]
      rcases hserved.upper with rfl | rfl
      · exact hxmit
      · exact hxmit
  | idle current hserved hstk =>
      rw [hstk]
      exact h

/-! ### Answers of the server -/

/-- Back to the state below. -/
theorem stkPopInit_wire {top : VcOps} (h : Served dev port lrecv current a w)
    (hstk : a.stk = [top, current]) (hwaited : w.waited ≤ lrecv.toNat) (hsilent : w.silent = 0) :
    wp (wire dev port) (stkPopInit a) (Attuned dev port lrecv) w := by
  have hpop : (stkPop a).stk = [current] := congrArg List.tail hstk
  unfold stkPopInit
  rw [hstk]
  show wp (wire dev port) (stkInit (stkPop a).stk _) _ _
  rw [hpop]
  exact wp_mono (stkInit_upper_wire (h.stkOp .pop) hwaited hsilent) fun _ _ hb => hb.1

/-- Further requests, which change nothing that the server knows, then the state below. -/
theorem askMore_wire {asks : List Request} (h : Served dev port lrecv current a w)
    (hstk : a.stk = [.sync, current]) (hwaited : w.waited ≤ lrecv.toNat) (hsilent : w.silent = 0)
    (hall : w.session.acceptAll asks = some w.session) (hplain : ∀ asked ∈ asks, asked.Plain) :
    wp (wire dev port) (sendPackets a (asks.map fun asked tid => asked.build 0 tid))
      (fun r u => Joined dev port lrecv r.2 u ∧ (r.1 = true →
        wp (wire dev port) (stkPopInit r.2) (Attuned dev port lrecv) u)) w := by
  refine wp_mono (sendPackets_wire h.toJoined h.up h.inStep hall hplain) fun r u hr =>
    ⟨hr.1, fun hok => ?_⟩
  obtain ⟨ok, b⟩ := r
  obtain ⟨tid, next, rfl, rfl, hstep⟩ := hr.2 hok
  have hserved : Served dev port lrecv current { a with tid := tid }
      { w with session := { w.session with next := next } } :=
    ⟨⟨hr.1, h.up, h.isOpen, hstep⟩, h.running, h.knows.next next, h.upper, h.queue⟩
  exact stkPopInit_wire hserved hstk hwaited hsilent

theorem syncEvent_eq (a : VcAttr) :
    syncEvent a = sendPackets a
      ([.setWaitMask 0x38010000, .getModem].map fun (asked : Request) tid => asked.build 0 tid) := rfl

theorem regSyncEvent_eq (a : VcAttr) :
    regSyncEvent a = sendPackets a
      ([.waitOnMask].map fun (asked : Request) tid => asked.build 0 tid) := rfl

theorem vcSyncRecv_wire (h : Served dev port lrecv current a w) (hstk : a.stk = [.sync, current])
    (hwaited : w.waited ≤ lrecv.toNat) (hsilent : w.silent = 0) (buf : ℕ → UInt8) :
    wp (wire dev port) (vcSyncRecv a buf) (Attuned dev port lrecv) w := by
  unfold vcSyncRecv
  dsimp only
  split
  · have hall : w.session.acceptAll [.setWaitMask 0x38010000, .getModem] = some w.session := by
      rw [Session.acceptAll, accept_running h.running]
      show w.session.acceptAll [.getModem] = some w.session
      rw [Session.acceptAll, accept_running h.running]
      rfl
    rw [syncEvent_eq]
    refine wp_seq (askMore_wire h hstk hwaited hsilent hall (plain_pair trivial trivial))
      fun r u hr => ?_
    obtain ⟨ok, b⟩ := r
    cases ok with
    | true => exact hr.2 rfl
    | false => exact excpInit_attuned hr.1
  · split
    · have hall : w.session.acceptAll [.waitOnMask] = some w.session := by
        rw [Session.acceptAll, accept_running h.running]
        rfl
      rw [regSyncEvent_eq]
      refine wp_seq (askMore_wire h hstk hwaited hsilent hall
        (List.forall_mem_singleton.mpr trivial)) fun r u hr => ?_
      obtain ⟨ok, b⟩ := r
      cases ok with
      | true => exact hr.2 rfl
      | false => exact excpInit_attuned hr.1
    · split
      · refine wp_still trivial (fun _ _ hstep => hstep) fun done _ => ?_
        split
        · exact stkPopInit_wire h hstk hwaited hsilent
        · exact excpInit_attuned h.toJoined
      · exact stkPopInit_wire h hstk hwaited hsilent

theorem checkIoctlRet_wire (h : Attuned dev port lrecv a w) (hserved : Served dev port lrecv current a w)
    (hstk : a.stk = [current]) (buf : ℕ → UInt8) :
    wp (wire dev port) (checkIoctlRet a buf) (fun r u => Attuned dev port lrecv r.2 u) w := by
  obtain ⟨hwaited, hsilent⟩ := h.unhurried hserved hstk
  have hpush : (stkPush a .sync).stk = [.sync, current] := by
    rw [stk_stkPush a .sync (by rw [hstk]; exact le_rfl), hstk]
  unfold checkIoctlRet
  dsimp only
  split
  · exact h
  · split
    · exact wp_seq (vcSyncRecv_wire (hserved.stkOp _) hpush hwaited hsilent buf) fun b u hb => hb
    · exact h

theorem recvDataready_wire (h : Attuned dev port lrecv a w) (buf : ℕ → UInt8) :
    wp (wire dev port) (recvDataready a buf) (Attuned dev port lrecv) w := by
  have hpublish : ∀ n, wp (wire dev port) (do
      let _ ← ask (.iocSTxTail n)
      pure a) (Attuned dev port lrecv) w :=
    fun n => wp_still trivial (fun _ _ hstep => hstep) fun _ _ => h
  unfold recvDataready
  dsimp only
  split
  · split
    · exact excpInit_attuned h.joined
    · split
      · exact wp_still trivial (fun _ _ hstep => hstep) fun _ _ => hpublish _
      · refine wp_still trivial (fun _ _ hstep => hstep) fun _ _ => ?_
        exact wp_still trivial (fun _ _ hstep => hstep) fun _ _ => hpublish _
  · exact excpInit_attuned h.joined

theorem recvWrite_wire (h : Attuned dev port lrecv a w) (buf : ℕ → UInt8) (len : ℕ) :
    wp (wire dev port) (recvWrite a buf len) (Attuned dev port lrecv) w := by
  have hnone : Attuned dev port lrecv { a with xmitPending := 0 } w :=
    h.kin ⟨⟨rfl, rfl, rfl, rfl, rfl, rfl⟩, rfl⟩
  unfold recvWrite
  dsimp only
  split
  · refine wp_still trivial (fun _ _ hstep => hstep) fun _ _ => ?_
    refine wp_mono (vcBufUpdate_wire _ (by decide)) fun b u hb => ?_
    obtain ⟨hkin, rfl⟩ := hb
    exact hnone.kin hkin
  · split
    · exact hnone
    · exact excpInit_attuned hnone.joined

theorem vcCommonRecv_wire (h : Attuned dev port lrecv a w) (hserved : Served dev port lrecv current a w)
    (hstk : a.stk = [current]) (buf : ℕ → UInt8) (len : ℕ) :
    wp (wire dev port) (vcCommonRecv a buf len) (Attuned dev port lrecv) w := by
  unfold vcCommonRecv
  dsimp only
  split
  · exact excpInit_attuned h.joined
  · split
    · split
      · exact h
      · exact excpInit_attuned h.joined
    · split
      · split
        · exact excpInit_attuned h.joined
        · refine wp_seq (checkIoctlRet_wire h hserved hstk buf) fun r u hr => ?_
          obtain ⟨ok, b⟩ := r
          cases ok with
          | true => exact hr
          | false => exact excpInit_attuned hr.joined
      · split
        · exact recvDataready_wire h buf
        · split
          · exact recvWrite_wire h buf len
          · exact h

theorem curntRecv_wire (h : Attuned dev port lrecv a w) (hsilent : w.silent = 0) (buf : ℕ → UInt8)
    (len : ℕ) : wp (wire dev port) (curntRecv a buf len) (Attuned dev port lrecv) w := by
  unfold curntRecv
  cases h.standing with
  | down hdown =>
      unfold stkCurnt
      rw [hdown.stk]
      exact h
  | up current hserved hstk =>
      have hrecv := vcCommonRecv_wire h hserved hstk buf len
      rw [stkCurnt_of_stk hstk]
      rcases hserved.upper with rfl | rfl
      · exact hrecv
      · exact hrecv
  | idle current hserved hstk =>
      have hwaited := (h.timely hserved.up).waited
      rw [hsilent, Nat.mul_zero, Nat.add_zero] at hwaited
      rw [stkCurnt_of_stk hstk]
      exact stkPopInit_wire hserved hstk hwaited hsilent

/-! ### Pieces of a packet -/

/-- The daemon is in tune, and nothing was silent since the last byte. -/
structure Awake (dev : UInt16) (port lrecv : UInt32) (a : VcAttr) (w : Wire) : Prop
    extends Attuned dev port lrecv a w where
  awake : w.silent = 0

theorem Awake.kin (h : Awake dev port lrecv a w) (hkin : Kin a b) : Awake dev port lrecv b w :=
  ⟨h.toAttuned.kin hkin, h.awake⟩

/-- **A byte of the server** ends the waiting. -/
theorem Standing.awake (h : Standing dev port lrecv a w) {data : List UInt8} (hne : data ≠ []) :
    Awake dev port lrecv a (w.recv data) := by
  have hwaited : (w.recv data).waited = 0 := by
    unfold Wire.recv
    rw [if_neg hne]
  have hsilent : (w.recv data).silent = 0 := by
    unfold Wire.recv
    rw [if_neg hne]
  refine ⟨⟨h.recv data, fun _ => ⟨?_, ?_⟩⟩, hsilent⟩
  · rw [hwaited]
    exact Nat.zero_le _
  · rw [hsilent]
    exact Nat.zero_le _

theorem Awake.recv (h : Awake dev port lrecv a w) (data : List UInt8) :
    Awake dev port lrecv a (w.recv data) := by
  by_cases hnil : data = []
  · unfold Wire.recv
    rw [if_pos hnil]
    exact h
  · exact Standing.awake h.standing hnil

theorem recv_wire (h : Awake dev port lrecv a w) (len : ℕ) :
    wp (wire dev port) (ask (.recv a.sk len)) (fun _ u => Awake dev port lrecv a u) w := by
  refine ⟨trivial, fun r u hstep => ?_⟩
  obtain rfl : u = w.recv (r.getD []) := hstep
  exact h.recv _

theorem recvSecondChance_wire (h : Awake dev port lrecv a w) (buflen : ℕ) :
    wp (wire dev port) (recvSecondChance a.sk buflen) (fun _ u => Awake dev port lrecv a u) w := by
  unfold recvSecondChance
  refine wp_still trivial (fun _ _ hstep => hstep) fun ready _ => ?_
  split
  · exact recv_wire h buflen
  · exact h

theorem recvMore_wire (h : Awake dev port lrecv a w) (base : ℕ) (len : ℤ) (want : ℕ) :
    wp (wire dev port) (recvMore a base len want) (fun r u => Awake dev port lrecv r.2 u) w := by
  unfold recvMore
  split
  · refine wp_seq (recvSecondChance_wire h _) fun more u hu => ?_
    exact hu.kin ⟨⟨rfl, rfl, rfl, rfl, rfl, rfl⟩, rfl⟩
  · exact h

theorem recvPayload_wire (h : Awake dev port lrecv a w) (packetLen : ℕ) :
    wp (wire dev port) (recvPayload a packetLen) (fun r u => Awake dev port lrecv r.2 u) w := by
  unfold recvPayload
  refine wp_seq (recv_wire h packetLen) fun first u hu => ?_
  have hnext : Awake dev port lrecv { a with buf := recvAt a.buf hdrLen first } u :=
    hu.kin ⟨⟨rfl, rfl, rfl, rfl, rfl, rfl⟩, rfl⟩
  dsimp only
  split
  · exact hnext
  · exact recvMore_wire hnext _ _ _

/-! ### Whole packets -/

theorem recvBody_wire (h : Awake dev port lrecv a w) :
    wp (wire dev port) (recvBody a) (Attuned dev port lrecv) w := by
  unfold recvBody
  refine wp_seq (updateIf_wire _ a _) fun b u hb => ?_
  have hawake : Awake dev port lrecv b u :=
    ⟨(h.toAttuned.published hb.2).kin hb.1, hb.2.times.2.trans h.awake⟩
  split
  · exact curntRecv_wire hawake.toAttuned hawake.awake _ _
  · split
    · exact wp_mono (curntErr_wire hawake.toAttuned) fun c v hc => hc.attuned
    · refine wp_seq (recvPayload_wire hawake _) fun r v hr => ?_
      obtain ⟨ok, c⟩ := r
      cases ok with
      | true => exact curntRecv_wire hr.toAttuned hr.awake _ _
      | false => exact wp_mono (curntErr_wire hr.toAttuned) fun d x hd => hd.attuned

/-- **A packet of the server**, however long the daemon waited for it. -/
theorem vcRecvDesp_wire (h : Standing dev port lrecv a w) (hjoined : Joined dev port lrecv a w) :
    wp (wire dev port) (vcRecvDesp a) (Attuned dev port lrecv) w := by
  unfold vcRecvDesp
  refine wp_call trivial fun first u hstep => ?_
  obtain rfl : u = w.recv (first.getD []) := hstep
  dsimp only
  split
  · exact excpInit_attuned ((hjoined.recv _).congr rfl rfl rfl rfl)
  · next hpos =>
      have hne : first.getD [] ≠ [] := by
        cases first with
        | none => exact absurd (show recvLen none ≤ 0 by decide) hpos
        | some data =>
            rintro hnil
            obtain rfl : data = [] := hnil
            exact hpos le_rfl
      have hawake : Awake dev port lrecv { a with buf := recvAt a.buf 0 first }
          (w.recv (first.getD [])) :=
        (Standing.awake h hne).kin ⟨⟨rfl, rfl, rfl, rfl, rfl, rfl⟩, rfl⟩
      split
      · exact recvBody_wire hawake
      · refine wp_seq (recvMore_wire hawake _ _ _) fun r v hr => ?_
        obtain ⟨ok, b⟩ := r
        cases ok with
        | true => exact recvBody_wire hr
        | false => exact wp_mono (curntErr_wire hr.toAttuned) fun c x hc => hc.attuned

end ModbusRTU.SessionReceives
