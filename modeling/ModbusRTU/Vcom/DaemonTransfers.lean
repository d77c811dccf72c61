import ModbusRTU.Vcom.DaemonSpecs
import ModbusRTU.Vcom.DaemonLoop

/-!
# How the daemon moves data

* **`vcCommonXmit_spec`** — from the terminal to the server: a packet carries the first bytes of the
  receive ring, and the daemon waits for these to be acknowledged.
* **`recvWrite_spec`** — the acknowledgement removes them.
* **`recvDataready_spec`** — from the server to the terminal: the data of a packet is copied behind the
  tail of the transmit ring, where there is room, and then published.
* **`curntRecv_spec`** — a packet with any content, in any state.
-/

namespace ModbusRTU.DaemonTransfers

open CallProgram WorldLogic RingWindow SpanCopies PortBuffers WireWords Packets DaemonCalls DaemonStates
open DaemonLoop DriverWorld DaemonInvariant DaemonSpecs

variable {keep : Prop} {a b : VcAttr} {p q : Port}

/-! ### From the terminal to the server -/

section View

variable {r : Ring} {buf : RingBuf} (hwf : r.buf.WF) (hsize : buf.size = r.buf.size)
  (hview : RxView buf r.buf)
include hwf hsize hview

theorem wf_of_view : buf.WF :=
  ⟨by rw [hview.head, hsize]; exact hwf.head_lt, by rw [hsize]; exact hview.tail_lt⟩

omit hwf in
/-- The bytes of the view are the first of the ring. -/
theorem queue_of_view : queue buf r.cells = r.bytes.take (getRbLength buf) := by
  unfold Ring.bytes queue
  rw [take_window r.cells r.buf.head hview.le, hsize, hview.head]

theorem copyOut_of_view (limit : ℕ) :
    copyOut buf r.cells limit = r.bytes.take (min (getRbLength buf) limit) := by
  rw [copyOut_eq_take (wf_of_view hwf hsize hview) r.cells limit, queue_of_view hsize hview,
    List.take_take, Nat.min_comm]

/-- The piece up to the end of the page. -/
theorem span_of_view {n : ℕ} (hn : n ≤ getRbLlength buf) :
    span r.cells buf.head n = r.bytes.take n := by
  have hllength := getRbLlength_eq_min buf
  have hhead := (wf_of_view hwf hsize hview).head_lt
  have hle := hview.le
  unfold Ring.bytes queue
  rw [take_window r.cells r.buf.head (by omega), hview.head]
  exact (window_straight r.cells (by rw [← hview.head, ← hsize]; omega)).symm

end View

/-- The piece up to the end of the page, of the ring as it was, and the piece at its front, of the ring as
it is now, are the first bytes of the ring as it is now. -/
theorem spans_of_drift (h : Linked True a p) (hq : Linked True a q)
    (hbytes : p.rx.bytes <+: q.rx.bytes)
    (htwo : min (getRbLlength a.rx) xmitLen ≠ min (getRbLength a.rx) xmitLen) :
    span p.rx.cells a.rx.head (min (getRbLlength a.rx) xmitLen) ++
        span q.rx.cells 0 (min (getRbLength a.rx) xmitLen - min (getRbLlength a.rx) xmitLen) =
      q.rx.bytes.take (min (getRbLength a.rx) xmitLen) := by
  have hle := h.rx.le
  have hllength := getRbLlength_eq_min a.rx
  have hold := span_of_view h.sound.rx_wf h.rxSize h.rx (Nat.min_le_left _ xmitLen)
  have hnew := span_of_view hq.sound.rx_wf hq.rxSize hq.rx (Nat.min_le_left _ xmitLen)
  have hsame : p.rx.bytes.take (min (getRbLlength a.rx) xmitLen) =
      q.rx.bytes.take (min (getRbLlength a.rx) xmitLen) := by
    obtain ⟨more, hmore⟩ := hbytes
    rw [← hmore, List.take_append_of_le_length]
    rw [length_bytes]
    omega
  rw [hold, hsame, ← hnew, ← copyOut_of_view hq.sound.rx_wf hq.rxSize hq.rx xmitLen]
  unfold copyOut
  dsimp only
  rw [if_neg htwo]

/-- The data is read from the front of the ring, while the terminal may append to it. -/
theorem xmitData_spec (h : Linked True a p) :
    wp driver (xmitData a)
      (fun data q => Linked True a q ∧ data <+: q.rx.bytes ∧
        data.length = min (getRbLength a.rx) xmitLen) p := by
  have hlt := getRbLength_lt (wf_of_view h.sound.rx_wf h.rxSize h.rx)
  have hllength := getRbLlength_eq_min a.rx
  have hmay : may p (.rxRead a.rx.head (min (getRbLlength a.rx) xmitLen)) := by
    have hhead := (wf_of_view h.sound.rx_wf h.rxSize h.rx).head_lt
    have hpage := h.rxSize
    show a.rx.head + _ ≤ p.rx.buf.size
    omega
  -- the first bytes of the ring as it is at the last read are still there when it returns
  have hfirst : ∀ u v, Linked True a u → Linked True a v ∧ u.rx.bytes <+: v.rx.bytes →
      Linked True a v ∧ u.rx.bytes.take (min (getRbLength a.rx) xmitLen) <+: v.rx.bytes ∧
        (u.rx.bytes.take (min (getRbLength a.rx) xmitLen)).length =
          min (getRbLength a.rx) xmitLen := by
    intro u v hu hv
    have hle := hu.rx.le
    refine ⟨hv.1, (List.take_prefix ..).trans hv.2, ?_⟩
    rw [List.length_take, length_bytes]
    omega
  unfold xmitData
  dsimp only
  split
  · next hone =>
      refine wp_quiet_last (Linked.drift_prefix p.rx.bytes) ⟨h, List.prefix_rfl⟩ hmay (fun _ => rfl)
        fun r q hr hq => ?_
      obtain rfl : r = _ := hr
      rw [span_of_view h.sound.rx_wf h.rxSize h.rx (Nat.min_le_left ..), hone]
      exact hfirst p q h hq
  · next htwo =>
      refine wp_quiet (Linked.drift_prefix p.rx.bytes) ⟨h, List.prefix_rfl⟩ hmay (fun _ => rfl)
        fun r q hr hq => ?_
      obtain rfl : r = _ := hr
      have hmay' : may q (.rxRead 0 (min (getRbLength a.rx) xmitLen -
          min (getRbLlength a.rx) xmitLen)) := by
        have hpage := hq.1.rxSize
        show 0 + _ ≤ q.rx.buf.size
        omega
      refine wp_quiet (Linked.drift_prefix q.rx.bytes) ⟨hq.1, List.prefix_rfl⟩ hmay' (fun _ => rfl)
        fun r u hr hu => ?_
      obtain rfl : r = _ := hr
      have hresult := hfirst q u hq.1 hu
      rw [← spans_of_drift h hq.1 hq.2 htwo] at hresult
      exact hresult

/-- `vc_common_xmit` sends the first bytes of the ring, and these are what it waits for. -/
theorem vcCommonXmit_spec (h : Linked True a p) (hstk : Upper a.stk) (hsk : a.sk.isSome)
    (hopen : a.eki.isOpen = 1) : wp driver (vcCommonXmit a) Held p := by
  unfold vcCommonXmit
  refine wp_seq (xmitData_spec h) fun data q hdata => ?_
  obtain ⟨hq, hstart, hlength⟩ := hdata
  dsimp only
  split
  · exact excpInit_spec hq
  · have hwrites : writes (vcPackXmit a.tid data (xmitLen + hdrLen)) = [data] := by
      unfold xmitLen at hlength
      apply writes_vcPackXmit
      · omega
      · unfold xmitLen
        omega
    refine wp_seq (sendPacket_writes hq hsk hstart hwrites) fun ok u hu => ?_
    obtain ⟨hu, hbytes, hsent⟩ := hu
    split
    · next hok =>
        refine ⟨⟨⟨hu.toBase.congr rfl rfl rfl rfl, hu.clean, ?_⟩, hu.rx⟩, .up hstk hsk hopen⟩
        exact fun _ _ => ⟨data, hlength, hbytes, hsent hok⟩
    · refine wp_seq (closeSk_spec hu hsk) fun b v hb => ?_
      exact excpInit_spec hb.2

theorem curntXmit_spec (h : Held a p) : wp driver (curntXmit a) Held p := by
  unfold curntXmit
  split
  · next hcurnt =>
      obtain ⟨hstk, hsk, hopen⟩ := upper_of_stkCurnt h.steady (Or.inl hcurnt)
      exact vcCommonXmit_spec h.linked hstk hsk hopen
  · next hcurnt =>
      obtain ⟨hstk, hsk, hopen⟩ := upper_of_stkCurnt h.steady (Or.inr hcurnt)
      exact vcCommonXmit_spec h.linked hstk hsk hopen
  all_goals exact h

/-! ### Answers of the server -/

theorem vcSyncRecv_spec {below : StkVc} (h : Linked True a p) (hsk : a.sk.isSome)
    (hopen : a.eki.isOpen = 1) (hstk : a.stk = .sync :: below) (hbelow : Upper below)
    (buf : ℕ → UInt8) : wp driver (vcSyncRecv a buf) Held p := by
  have hanswer : ∀ (r : Bool × VcAttr) q, Same a r.2 ∧ Linked True r.2 q →
      wp driver (if r.1 then stkPopInit r.2 else excpInit r.2) Held q := by
    intro r q hr
    split
    · refine stkPopInit_spec hr.2 ?_ (hr.1.isOpen.trans hopen) (hr.1.stk.trans hstk) hbelow
      rw [hr.1.sk]
      exact hsk
    · exact excpInit_spec hr.2
  unfold vcSyncRecv
  dsimp only
  split
  · exact wp_seq (sendPackets_spec h hsk _) hanswer
  · split
    · exact wp_seq (sendPackets_spec h hsk _) hanswer
    · split
      · refine wp_quiet Linked.drift h trivial (fun _ => rfl) fun ok q _ hq => ?_
        split
        · exact stkPopInit_spec hq hsk hopen hstk hbelow
        · exact excpInit_spec hq
      · exact stkPopInit_spec h hsk hopen hstk hbelow

theorem checkIoctlRet_spec (h : Held a p) (hstk : Upper a.stk) (hsk : a.sk.isSome)
    (hopen : a.eki.isOpen = 1) (buf : ℕ → UInt8) :
    wp driver (checkIoctlRet a buf) (fun r q => Held r.2 q) p := by
  unfold checkIoctlRet
  dsimp only
  split
  · exact h
  · split
    · have hpush := stk_stkPush a .sync (upper_length hstk).le
      exact wp_seq (vcSyncRecv_spec (h.linked.stkOp _) hsk hopen hpush hstk buf) fun b q hb => hb
    · exact h

/-- An acknowledgement removes what was sent from the ring, and nothing else. -/
theorem recvWrite_spec (h : Held a p) (hstk : Upper a.stk) (hsk : a.sk.isSome)
    (hopen : a.eki.isOpen = 1) (buf : ℕ → UInt8) (len : ℕ) :
    wp driver (recvWrite a buf len) Held p := by
  have hnone : Linked True { a with xmitPending := 0 } p :=
    h.linked.nothingPending rfl rfl rfl rfl rfl
  have hsteady : Steady { a with xmitPending := 0 } := .up hstk hsk hopen
  unfold recvWrite
  dsimp only
  split
  · have hmay : may p (.iocSRxHead a.xmitPending) := by
      right
      by_cases hzero : a.xmitPending = 0
      · exact Or.inl hzero
      · obtain ⟨data, hlength, hstart, hsent⟩ := h.linked.pending trivial hzero
        have htake : p.rx.bytes.take a.xmitPending = data := by
          rw [← hlength]
          exact (List.prefix_iff_eq_take.mp hstart).symm
        refine Or.inr ⟨?_, by rw [htake]; exact hsent⟩
        rw [← length_bytes, ← hlength]
        exact hstart.length_le
    have hclean := h.linked.clean
    refine wp_ask hmay fun r q _ hdrift => ?_
    have hmoved : Tied True { a with xmitPending := 0 } (dropRx p a.xmitPending) := by
      refine ⟨⟨h.linked.sound.dropRx hmay, hnone.sk, hnone.attrPtr, ?_, hnone.txSize⟩, ?_,
        fun _ hne => absurd rfl hne⟩
      · rw [hnone.rxSize]
        simp [dropRx, Ring.moveHead, hclean, moveRbHead]
      · simp [dropRx, Ring.moveHead, hclean]
    refine wp_mono (vcBufUpdate_rx_spec (hmoved.drift hdrift)) fun b u hb => ?_
    exact ⟨hb.2, hsteady.same hb.1⟩
  · split
    · exact ⟨hnone, hsteady⟩
    · exact excpInit_spec hnone

/-! ### From the server to the terminal -/

/-- The data of a packet is about to be put into the transmit ring. -/
structure Staged (a : VcAttr) (cells : ℕ → UInt8) (unread : List UInt8) (p : Port) : Prop where
  held : Held a p
  view : TxView a.tx p.tx.buf
  cells_eq : p.tx.cells = cells
  unread_eq : p.unread = unread

theorem Staged.drift {cells : ℕ → UInt8} {unread : List UInt8} :
    Stable (Staged a cells unread) := by
  intro p q h hdrift
  have hheld := h.held.drift hdrift
  have hview := h.view.drift h.held.linked.sound.tx_wf hdrift
  obtain ⟨_, _, _, _, -, -, -, rfl⟩ := hdrift
  exact ⟨hheld, hview, h.cells_eq, h.unread_eq⟩

section Stage

variable {cells : ℕ → UInt8} {unread : List UInt8} (h : Staged a cells unread p)
include h

theorem Staged.wf : a.tx.WF where
  head_lt := by rw [h.held.linked.txSize]; exact h.view.head_lt
  tail_lt := by rw [h.held.linked.txSize, h.view.tail]; exact h.held.linked.sound.tx_wf.tail_lt

/-- The ring has at least the room the daemon counts. -/
theorem Staged.room : getRbRoom a.tx ≤ getRbRoom p.tx.buf := by
  have hsize := h.held.linked.txSize
  have hle := h.view.le
  have hlocal := getRbRoom_add h.wf
  have hring := getRbRoom_add h.held.linked.sound.tx_wf
  omega

/-- A copy into the room. -/
theorem Staged.write {β : Type} {pos k : ℕ} {data : List UInt8} {f : Unit → Daemon β}
    {Q : β → Port → Prop} (hpos : pos = (a.tx.tail + k) % a.tx.size)
    (hroom : k + data.length ≤ getRbRoom a.tx) (hend : pos + data.length ≤ a.tx.size)
    (hf : ∀ q, Staged a (store cells pos data) unread q → wp driver (f ()) Q q) :
    wp driver (ask (.txWrite pos data) >>= f) Q p := by
  have hsize := h.held.linked.txSize
  have hmay : may p (.txWrite pos data) := by
    refine ⟨by rw [← hsize]; exact hend, k, ?_, hroom.trans h.room⟩
    rw [hpos, hsize, h.view.tail]
  refine wp_ask hmay fun r q _ hdrift => hf q (Staged.drift ?_ hdrift)
  have hl := h.held.linked
  refine ⟨⟨⟨⟨⟨hl.sound.after hmay r, hl.sk, hl.attrPtr, hl.rxSize, hl.txSize⟩, hl.clean,
    hl.pending⟩, hl.rx⟩, h.held.steady⟩, h.view, ?_, h.unread_eq⟩
  show store p.tx.cells pos data = store cells pos data
  rw [h.cells_eq]

end Stage

/-- Moving the tail publishes the data, which the server sent last. -/
theorem Staged.publish {cells : ℕ → UInt8} {unread data : List UInt8}
    (h : Staged a (copyIn a.tx cells data) unread p) (hroom : data.length ≤ getRbRoom a.tx)
    (hsuffix : data <:+ unread) :
    wp driver (do
      let _ ← ask (.iocSTxTail data.length)
      pure a) Held p := by
  have hsize := h.held.linked.txSize
  have hmay : may p (.iocSTxTail data.length) := by
    refine ⟨hroom.trans h.room, ?_⟩
    rw [h.cells_eq, ← hsize, ← h.view.tail, window_copyIn h.wf cells hroom, h.unread_eq]
    exact hsuffix
  refine wp_ask hmay fun r q _ hdrift => Held.drift ?_ hdrift
  have hl := h.held.linked
  exact ⟨⟨⟨⟨hl.sound.after hmay r, hl.sk, hl.attrPtr, hl.rxSize, hl.txSize⟩, hl.clean, hl.pending⟩,
    hl.rx⟩, h.held.steady⟩

/-- **The data of a packet goes to the terminal**, if there is room for it, in one copy or two. -/
theorem recvDataready_spec (h : Held a p) (hview : TxView a.tx p.tx.buf) (buf : ℕ → UInt8)
    (hdata : ∀ n, vcCheckRecv buf = some n → span buf hdrLen n <:+ p.unread) :
    wp driver (recvDataready a buf) Held p := by
  unfold recvDataready
  dsimp only
  split
  · next datalen hcheck =>
      split
      · exact excpInit_spec h.linked
      · next hroom =>
          have hstaged : Staged a p.tx.cells p.unread p := ⟨h, hview, rfl, rfl⟩
          have hlength : (span buf hdrLen datalen).length = datalen := length_span ..
          have hlroom := getRbLroom_eq_min a.tx
          have hsum := getRbRoom_add hstaged.wf
          have htail := hstaged.wf.tail_lt
          have hend : ∀ q, Staged a (copyIn a.tx p.tx.cells (span buf hdrLen datalen)) p.unread q →
              wp driver (do
                let _ ← ask (.iocSTxTail datalen)
                pure a) Held q := by
            intro q hq
            have hpublish := hq.publish (by omega) (hdata datalen hcheck)
            rw [hlength] at hpublish
            exact hpublish
          split
          · next hone =>
              refine hstaged.write (k := 0) ?_ ?_ ?_ fun q hq => ?_
              · rw [Nat.add_zero, Nat.mod_eq_of_lt htail]
              · omega
              · omega
              · refine hend q ?_
                unfold copyIn
                rw [if_pos (by omega)]
                exact hq
          · next htwo =>
              -- the data goes round the end of the page
              have hfirst : ((span buf hdrLen datalen).take (getRbLroom a.tx)).length =
                  a.tx.size - a.tx.tail := by
                rw [List.length_take]
                omega
              have hrest : ((span buf hdrLen datalen).drop (getRbLroom a.tx)).length =
                  datalen - getRbLroom a.tx := by
                rw [List.length_drop, hlength]
              refine hstaged.write (k := 0) ?_ ?_ ?_ fun q hq => ?_
              · rw [Nat.add_zero, Nat.mod_eq_of_lt htail]
              · omega
              · omega
              · refine hq.write (k := a.tx.size - a.tx.tail) ?_ ?_ ?_ fun u hu => ?_
                · rw [Nat.add_sub_cancel' htail.le, Nat.mod_self]
                · omega
                · omega
                · refine hend u ?_
                  unfold copyIn
                  rw [if_neg (by omega)]
                  exact hu
  · exact excpInit_spec h.linked

/-- What a packet has to be given to the current state with: for data, an up-to-date view of the
transmit ring, and the data last among what was received. -/
def Ready (a : VcAttr) (buf : ℕ → UInt8) (p : Port) : Prop :=
  be16At buf 8 = vcomCmdDataready → TxView a.tx p.tx.buf ∧
    ∀ n, vcCheckRecv buf = some n → span buf hdrLen n <:+ p.unread

theorem vcCommonRecv_spec (h : Held a p) (hstk : Upper a.stk) (hsk : a.sk.isSome)
    (hopen : a.eki.isOpen = 1) {buf : ℕ → UInt8} (hready : Ready a buf p) (len : ℕ) :
    wp driver (vcCommonRecv a buf len) Held p := by
  unfold vcCommonRecv
  dsimp only
  split
  · exact excpInit_spec h.linked
  · split
    · split
      · exact h
      · exact excpInit_spec h.linked
    · split
      · split
        · exact excpInit_spec h.linked
        · refine wp_seq (checkIoctlRet_spec h hstk hsk hopen buf) fun r q hr => ?_
          obtain ⟨ok, b⟩ := r
          cases ok with
          | false => exact excpInit_spec hr.linked
          | true => exact hr
      · split
        · next hcmd => exact recvDataready_spec h (hready hcmd).1 buf (hready hcmd).2
        · split
          · exact recvWrite_spec h hstk hsk hopen buf len
          · exact h

/-- **A packet is handled**, whatever it holds. -/
theorem curntRecv_spec (h : Held a p) {buf : ℕ → UInt8} (hready : Ready a buf p) (len : ℕ) :
    wp driver (curntRecv a buf len) Held p := by
  unfold curntRecv
  split
  · exact h
  · next hcurnt =>
      obtain ⟨hstk, hsk, hopen⟩ := upper_of_stkCurnt h.steady (Or.inl hcurnt)
      exact vcCommonRecv_spec h hstk hsk hopen hready len
  · next hcurnt =>
      obtain ⟨hstk, hsk, hopen⟩ := upper_of_stkCurnt h.steady (Or.inr hcurnt)
      exact vcCommonRecv_spec h hstk hsk hopen hready len
  · next hcurnt =>
      obtain ⟨below, hstk, hbelow, hsk, hopen⟩ := idle_of_stkCurnt h.steady hcurnt
      exact stkPopInit_spec h.linked hsk hopen hstk hbelow
  · next hcurnt => exact absurd hcurnt (stkCurnt_ne_sync h.steady)

end ModbusRTU.DaemonTransfers
