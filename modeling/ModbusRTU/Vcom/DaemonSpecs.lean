import ModbusRTU.Vcom.DaemonInvariant

/-!
# What the states of the daemon do

One lemma for each operation of a state, under the rules of the driver's world: what it needs and what
it leaves.  The operations called by the main loop take `Held` to `Held`; all their error paths end in
`stk_excp` and the `init` of the bottom, which lead to `Held` from anywhere (`excpInit_spec`).
-/

namespace ModbusRTU.DaemonSpecs

open CallProgram WorldLogic RingWindow PortBuffers WireWords Packets DaemonCalls DaemonStates
open DriverWorld DaemonInvariant

variable {keep : Prop} {a b : VcAttr} {p q : Port}

/-! ### The attributes -/

theorem attrP_spec {α : Type} {P : Port → Prop} (hP : Stable P) (hp : P p) (h : Linked keep a p)
    (field : AdvPortInfo → α) : wp driver (attrP a field) (fun _ q => P q) p := by
  unfold attrP
  exact wp_quiet hP hp h.attrPtr (fun _ => rfl) fun _ q _ hq => hq

theorem checkAttrStat_spec {P : Port → Prop} (hP : Stable P) (hp : P p) (h : Linked keep a p)
    (field : AdvPortInfo → UInt32) : wp driver (checkAttrStat a field) (fun _ q => P q) p := by
  unfold checkAttrStat
  exact wp_seq (attrP_spec hP hp h field) fun _ q hq => hq

/-! ### The ring buffers -/

/-- Reading the receive ring: the head moves only by the daemon, the tail can have moved on since it
was read. -/
theorem vcBufUpdate_rx_view {P : Port → Prop} (hP : Stable P) (hp : P p)
    (hwf : ∀ q, P q → q.rx.buf.WF) (hsize : ∀ q, P q → a.rx.size = q.rx.buf.size) :
    wp driver (vcBufUpdate a .rx)
      (fun b q => P q ∧ ∃ rx, b = { a with rx := rx } ∧ rx.size = a.rx.size ∧ RxView rx q.rx.buf)
      p := by
  unfold vcBufUpdate
  have hfirst : Stable fun u => P u ∧ u.rx.buf.head = p.rx.buf.head := by
    intro u v hu hdrift
    refine ⟨hP hu.1 hdrift, ?_⟩
    obtain ⟨_, _, _, _, -, -, -, rfl⟩ := hdrift
    exact hu.2
  refine wp_quiet hfirst ⟨hp, rfl⟩ trivial (fun _ => rfl) fun r u hr hu => ?_
  obtain rfl : r = some p.rx.buf.head := hr
  have hsecond : Stable fun v => P v ∧ RxView u.rx.buf v.rx.buf := by
    intro v w hv hdrift
    exact ⟨hP hv.1 hdrift, hv.2.drift (hwf v hv.1) hdrift⟩
  refine wp_quiet hsecond ⟨hu.1, rfl, (hwf u hu.1).tail_lt, le_rfl⟩ trivial (fun _ => rfl)
    fun r v hr hv => ?_
  obtain rfl : r = some u.rx.buf.tail := hr
  have hbuf : RingBuf.mk p.rx.buf.head u.rx.buf.tail a.rx.size = u.rx.buf := by
    rw [← hu.2, hsize u hu.1]
  exact ⟨hv.1, u.rx.buf, by rw [← hbuf], (hsize u hu.1).symm, hv.2⟩

theorem vcBufUpdate_rx_spec (h : Tied keep a p) :
    wp driver (vcBufUpdate a .rx) (fun b q => Same a b ∧ Linked keep b q) p := by
  refine wp_mono (vcBufUpdate_rx_view Tied.drift h (fun q hq => hq.sound.rx_wf)
    fun q hq => hq.rxSize) fun b q hb => ?_
  obtain ⟨hq, rx, rfl, hsize, hview⟩ := hb
  exact ⟨⟨rfl, rfl, rfl, rfl, rfl⟩,
    ⟨⟨hq.toBase.congr rfl rfl hsize rfl, hq.clean, hq.pending⟩, hview⟩⟩

/-- Reading the transmit ring: the tail moves only by the daemon, the head can have moved on since it
was read. -/
theorem vcBufUpdate_tx_view {P : Port → Prop} (hP : Stable P) (hp : P p)
    (hwf : ∀ q, P q → q.tx.buf.WF) (hsize : ∀ q, P q → a.tx.size = q.tx.buf.size) :
    wp driver (vcBufUpdate a .tx)
      (fun b q => P q ∧ ∃ tx, b = { a with tx := tx } ∧ tx.size = a.tx.size ∧ TxView tx q.tx.buf)
      p := by
  unfold vcBufUpdate
  have hstable : Stable fun u => P u ∧ TxView p.tx.buf u.tx.buf := by
    intro u v hu hdrift
    exact ⟨hP hu.1 hdrift, hu.2.drift (hwf u hu.1) hdrift⟩
  refine wp_quiet hstable ⟨hp, rfl, (hwf p hp).head_lt, le_rfl⟩ trivial (fun _ => rfl)
    fun r u hr hu => ?_
  obtain rfl : r = some p.tx.buf.head := hr
  refine wp_quiet hstable hu trivial (fun _ => rfl) fun r v hr hv => ?_
  obtain rfl : r = some u.tx.buf.tail := hr
  have hbuf : RingBuf.mk p.tx.buf.head u.tx.buf.tail a.tx.size = p.tx.buf := by
    rw [← hu.2.tail, hsize p hp]
  exact ⟨hv.1, p.tx.buf, by rw [← hbuf], (hsize p hp).symm, hv.2⟩

theorem vcBufUpdate_tx_spec (h : Linked keep a p) :
    wp driver (vcBufUpdate a .tx)
      (fun b q => Same a b ∧ Linked keep b q ∧ TxView b.tx q.tx.buf) p := by
  refine wp_mono (vcBufUpdate_tx_view Linked.drift h (fun q hq => hq.sound.tx_wf)
    fun q hq => hq.txSize) fun b q hb => ?_
  obtain ⟨hq, tx, rfl, hsize, hview⟩ := hb
  exact ⟨⟨rfl, rfl, rfl, rfl, rfl⟩, hq.congr rfl rfl rfl hsize rfl, hview⟩

theorem vcBufUpdate_attr_spec (h : Linked keep a p) :
    wp driver (vcBufUpdate a .attr)
      (fun b q => Same a b ∧ Linked keep b q) p := by
  unfold vcBufUpdate
  refine wp_ask trivial fun r q hr hdrift => ?_
  obtain rfl : r = some (flushAttrInfo p).usrPtr := hr
  refine ⟨⟨rfl, rfl, rfl, rfl, rfl⟩, ?_⟩
  refine Linked.drift ?_ hdrift
  exact ⟨⟨⟨⟨h.sound.rx_wf, h.sound.tx_wf, h.sound.written, h.sound.acked, h.sound.received⟩, h.sk,
    rfl, h.rxSize, h.txSize⟩, h.clean, h.pending⟩, h.rx⟩

/-! ### Sending -/

/-- What sending keeps. -/
theorem sendPacket_keeps {P : Port → Prop} {packet : List UInt8} (hP : Stable P) (hp : P p)
    (hmay : ∀ q, P q → may q (.send a.sk packet))
    (hsent : ∀ q r, P q → P (after q (.send a.sk packet) r)) :
    wp driver (sendPacket a packet) (fun _ q => P q) p := by
  unfold sendPacket
  split
  · exact hp
  · refine wp_quiet hP hp (hmay p hp) (fun _ => rfl) fun ready q _ hq => ?_
    split
    · exact wp_ask (hmay q hq) fun r u _ hdrift => hP (hsent q r hq) hdrift
    · exact hq

theorem sendPacket_spec (h : Linked keep a p) (hup : a.sk.isSome) (packet : List UInt8) :
    wp driver (sendPacket a packet) (fun _ q => Linked keep a q) p :=
  sendPacket_keeps Linked.drift h (fun _ hq => ⟨hq.sk, hup⟩) fun _ _ hq => hq.sent _

theorem sendPackets_spec (h : Linked keep a p) (hup : a.sk.isSome)
    (builds : List (UInt32 → List UInt8)) :
    wp driver (sendPackets a builds)
      (fun r q => Same a r.2 ∧ Linked keep r.2 q) p := by
  induction builds generalizing a p with
  | nil => exact ⟨⟨rfl, rfl, rfl, rfl, rfl⟩, h⟩
  | cons build builds ih =>
      unfold sendPackets
      refine wp_seq (sendPacket_spec h hup _) fun ok q hq => ?_
      split
      · have hnext : Linked keep { a with tid := a.tid + 1 } q := hq.congr rfl rfl rfl rfl rfl
        have hsame : Same a { a with tid := a.tid + 1 } := ⟨rfl, rfl, rfl, rfl, rfl⟩
        exact wp_mono (ih hnext hup) fun r u hr => ⟨hsame.trans hr.1, hr.2⟩
      · exact ⟨⟨rfl, rfl, rfl, rfl, rfl⟩, hq⟩

/-- A packet with data of the ring that is sent whole is the next one to be acknowledged. -/
theorem sendPacket_writes {data packet : List UInt8} (h : Linked keep a p) (hup : a.sk.isSome)
    (hdata : data <+: p.rx.bytes) (hpacket : writes packet = [data]) :
    wp driver (sendPacket a packet)
      (fun ok q => Linked keep a q ∧ data <+: q.rx.bytes ∧
        (ok = true → (q.acks ++ [data]).Sublist q.sent)) p := by
  unfold sendPacket
  split
  · exact ⟨h, hdata, fun hok => absurd hok (by decide)⟩
  · refine wp_quiet (Linked.drift_prefix data) ⟨h, hdata⟩ ⟨h.sk, hup⟩ (fun _ => rfl)
      fun ready q _ hq => ?_
    split
    · refine wp_ask ⟨hq.1.sk, hup⟩ fun r u _ hdrift => ?_
      have hbytes := bytes_of_drift hdrift
      refine ⟨(hq.1.sent _).drift hdrift, hq.2.trans hbytes, fun hok => ?_⟩
      have hr : r = (packet.length : ℤ) := of_decide_eq_true hok
      obtain ⟨_, _, _, _, -, -, -, rfl⟩ := hdrift
      show (q.acks ++ [data]).Sublist (q.sent ++ if r = (packet.length : ℤ) then writes packet else [])
      rw [if_pos hr, hpacket]
      exact hq.1.sound.acked.append_right _
    · exact ⟨hq.1, hq.2, fun hok => absurd hok (by decide)⟩

theorem closeSk_spec (h : Linked keep a p) (hup : a.sk.isSome) :
    wp driver (closeSk a) (fun b q => b = { a with sk := none } ∧ Linked keep b q) p := by
  unfold closeSk
  exact wp_ask ⟨h.sk, hup⟩ fun _ q _ hdrift => ⟨rfl, (h.socket none).drift hdrift⟩

/-! ### Going into a state -/

/-- At the bottom there is no connection. -/
theorem vcNetdownInit_down (h : Linked keep a p) (hstk : a.stk = []) :
    wp driver (vcNetdownInit a) (fun b q => Held b q ∧ b.stk = []) p := by
  have hdown : ∀ b q, b.stk = [] → b.sk = none → Linked keep b q →
      Held { b with tid := 0, xmitPending := 0,
                    eki := ⟨0, 0, advFlowUndef, 0, advPairUndef, advStopUndef, 0⟩ } q := by
    intro b q hstk hsk hq
    exact ⟨hq.nothingPending rfl rfl rfl rfl rfl, .down hstk hsk rfl rfl⟩
  unfold vcNetdownInit
  split
  · next hup =>
      refine wp_seq (closeSk_spec h hup) fun b q hb => ?_
      obtain ⟨rfl, hq⟩ := hb
      exact ⟨hdown _ q hstk rfl hq, hstk⟩
  · next hsk => exact ⟨hdown a p hstk (Option.not_isSome_iff_eq_none.mp hsk) h, hstk⟩

theorem vcNetdownInit_spec (h : Linked keep a p) (hstk : a.stk = []) :
    wp driver (vcNetdownInit a) Held p := wp_mono (vcNetdownInit_down h hstk) fun _ _ hb => hb.1

theorem stkExcp_spec (h : Linked keep a p) :
    wp driver (stkExcp a) (fun b q => b.stk = [] ∧ Linked keep b q) p := by
  unfold stkExcp
  split
  · next hstk => exact ⟨hstk, h⟩
  · refine wp_quiet Linked.drift h trivial (fun _ => rfl) fun now q _ hq => ?_
    split
    · exact wp_quiet Linked.drift hq trivial (fun _ => rfl) fun _ u _ hu =>
        ⟨rfl, hu.congr rfl rfl rfl rfl rfl⟩
    · exact ⟨rfl, hq.congr rfl rfl rfl rfl rfl⟩

/-- **An exception leads to the bottom**, whatever the daemon was doing. -/
theorem excpInit_down (h : Linked keep a p) :
    wp driver (excpInit a) (fun b q => Held b q ∧ b.stk = []) p := by
  unfold excpInit
  exact wp_seq (stkExcp_spec h) fun b q hb => vcNetdownInit_down hb.2 hb.1

theorem excpInit_spec (h : Linked keep a p) : wp driver (excpInit a) Held p :=
  wp_mono (excpInit_down h) fun _ _ hb => hb.1

theorem vcNetupInit_spec (h : Linked keep a p) :
    wp driver (vcNetupInit a) (fun b q => Same a b ∧ Linked keep b q) p := by
  unfold vcNetupInit
  refine wp_seq (vcBufUpdate_rx_spec h.toTied) fun b q hb => ?_
  exact wp_mono (vcBufUpdate_tx_spec hb.2) fun c u hc => ⟨hb.1.trans hc.1, hc.2.1⟩

/-- `netup` and `pause` are gone into in the same way. -/
theorem stkInit_upper_spec {stk : StkVc} (h : Linked True a p) (hsk : a.sk.isSome)
    (hopen : a.eki.isOpen = 1) (hstk : Upper stk) : wp driver (stkInit stk a) Held p := by
  have hinit : wp driver (vcNetupInit { a with stk := stk }) Held p := by
    have hnext : Linked True { a with stk := stk } p := h.congr rfl rfl rfl rfl rfl
    have hsteady : Steady { a with stk := stk } := .up hstk hsk hopen
    exact wp_mono (vcNetupInit_spec hnext) fun b q hb => ⟨hb.2, hsteady.same hb.1⟩
  rcases hstk with rfl | rfl
  · exact hinit
  · exact hinit

theorem vcIdleInit_spec {below : StkVc} (h : Linked True a p) (hsk : a.sk.isSome)
    (hopen : a.eki.isOpen = 1) (hstk : a.stk = .idle :: below) (hbelow : Upper below) :
    wp driver (vcIdleInit a) Held p := by
  unfold vcIdleInit
  dsimp only
  split
  · exact excpInit_spec h
  · refine wp_seq (sendPacket_spec h hsk _) fun ok q hq => ?_
    split
    · exact ⟨hq.congr rfl rfl rfl rfl rfl, .idle below hstk hbelow hsk hopen⟩
    · refine wp_seq (closeSk_spec hq hsk) fun b u hb => ?_
      obtain ⟨rfl, hu⟩ := hb
      exact excpInit_spec hu

/-- `sync` brings the server up to date, then the state below goes on, or there is an exception. -/
theorem vcSyncInit_spec {pop : VcAttr → Daemon VcAttr} (h : Linked True a p) (hsk : a.sk.isSome)
    (hpop : ∀ b q, Linked True b q → b.sk.isSome → b.eki.isOpen = a.eki.isOpen →
      wp driver (pop b) Held q) : wp driver (vcSyncInit pop a) Held p := by
  unfold vcSyncInit
  refine wp_seq (attrP_spec Linked.drift h h _) fun ms q hq => ?_
  refine wp_seq (sendPackets_spec hq hsk _) fun r q hr => ?_
  obtain ⟨ok, b⟩ := r
  have hbsk : b.sk.isSome := by rw [hr.1.sk]; exact hsk
  cases ok with
  | false => exact excpInit_spec hr.2
  | true =>
      have hms : Linked True { b with eki := { b.eki with ms := ms } } q :=
        hr.2.congr rfl rfl rfl rfl rfl
      refine wp_seq (sendPackets_spec hms hbsk _) fun r' q' hr' => ?_
      obtain ⟨ok, c⟩ := r'
      have hcsk : c.sk.isSome := by rw [hr'.1.sk]; exact hbsk
      cases ok with
      | false => exact excpInit_spec hr'.2
      | true =>
          refine wp_seq (sendPackets_spec hr'.2 hcsk _) fun r'' q'' hr'' => ?_
          obtain ⟨ok, d⟩ := r''
          cases ok with
          | false => exact excpInit_spec hr''.2
          | true =>
              refine hpop (stkPop d) q'' (hr''.2.stkOp .pop) (by rw [← hr''.1.sk] at hcsk; exact hcsk) ?_
              exact hr''.1.isOpen.trans (hr'.1.isOpen.trans hr.1.isOpen)

theorem stkInit_idle_spec {below : StkVc} (h : Linked True a p) (hsk : a.sk.isSome)
    (hopen : a.eki.isOpen = 1) (hbelow : Upper below) :
    wp driver (stkInit (.idle :: below) a) Held p :=
  vcIdleInit_spec (h.congr rfl rfl rfl rfl rfl) hsk hopen rfl hbelow

theorem stkInit_sync_spec {below : StkVc} (h : Linked True a p) (hsk : a.sk.isSome)
    (hopen : a.eki.isOpen = 1) (hbelow : Upper below) :
    wp driver (stkInit (.sync :: below) a) Held p := by
  have hnext : Linked True { a with stk := .sync :: below } p := h.congr rfl rfl rfl rfl rfl
  refine vcSyncInit_spec hnext hsk fun b q hb hbsk hbopen => ?_
  exact stkInit_upper_spec hb hbsk (hbopen.trans hopen) hbelow

/-- Above the bottom there is one state at most, so the stack is not full. -/
theorem stk_stkPush (a : VcAttr) (current : VcOps) (hstk : a.stk.length ≤ 1) :
    (stkPush a current).stk = current :: a.stk := if_neg (by unfold stackMax; omega)

theorem upper_length {stk : StkVc} (h : Upper stk) : stk.length = 1 := by
  rcases h with rfl | rfl
  · rfl
  · rfl

theorem stkPushInit_sync_spec (h : Linked True a p) (hsk : a.sk.isSome) (hopen : a.eki.isOpen = 1)
    (hstk : Upper a.stk) : wp driver (stkPushInit a .sync) Held p := by
  unfold stkPushInit curntInit
  rw [stk_stkPush a .sync (upper_length hstk).le]
  exact stkInit_sync_spec (h.stkOp _) hsk hopen hstk

theorem stkPushInit_idle_spec (h : Linked True a p) (hsk : a.sk.isSome) (hopen : a.eki.isOpen = 1)
    (hstk : Upper a.stk) : wp driver (stkPushInit a .idle) Held p := by
  unfold stkPushInit curntInit
  rw [stk_stkPush a .idle (upper_length hstk).le]
  exact stkInit_idle_spec (h.stkOp _) hsk hopen hstk

/-- Back to the state below. -/
theorem stkPopInit_spec {current : VcOps} {below : StkVc} (h : Linked True a p) (hsk : a.sk.isSome)
    (hopen : a.eki.isOpen = 1) (hstk : a.stk = current :: below) (hbelow : Upper below) :
    wp driver (stkPopInit a) Held p := by
  have hpop : (stkPop a).stk = below := congrArg List.tail hstk
  unfold stkPopInit
  rw [hstk]
  refine stkInit_upper_spec (h.stkOp .pop) hsk hopen ?_
  rw [← hpop] at hbelow
  exact hbelow

/-! ### Opening and closing -/

theorem vcCommonOpen_spec (h : Linked True a p) (hsk : a.sk.isSome) (hstk : Upper a.stk) :
    wp driver (vcCommonOpen a) Held p := by
  unfold vcCommonOpen
  refine wp_seq (sendPacket_spec h hsk _) fun ok q hq => ?_
  split
  · exact stkPushInit_sync_spec (hq.congr rfl rfl rfl rfl rfl) hsk rfl hstk
  · refine wp_seq (closeSk_spec hq hsk) fun b u hb => ?_
    obtain ⟨rfl, hu⟩ := hb
    exact excpInit_spec hu

theorem vcNetdownOpen_spec (h : Linked True a p) (hstk : a.stk = []) (hsk : a.sk = none)
    (hopen : a.eki.isOpen = 0) (hpending : a.xmitPending = 0) :
    wp driver (vcNetdownOpen a) Held p := by
  unfold vcNetdownOpen
  refine wp_ask (h.sk.symm.trans hsk) fun r q _ hdrift => ?_
  have hq := (h.socket r).drift hdrift
  cases r with
  | none => exact ⟨hq, .down hstk rfl hopen hpending⟩
  | some sk =>
      refine vcCommonOpen_spec (hq.congr rfl rfl rfl rfl rfl) rfl ?_
      rw [stk_stkPush _ _ (by rw [hstk]; decide), hstk]
      show Upper [if isRbEmpty a.tx = true then VcOps.netup else VcOps.pause]
      split
      · exact Or.inl rfl
      · exact Or.inr rfl

theorem stkOpen_upper_spec {stk : StkVc} (h : Linked True a p) (hsk : a.sk.isSome)
    (hstk : Upper stk) : wp driver (stkOpen stk a) Held p := by
  have hopen : wp driver (vcCommonOpen { a with stk := stk }) Held p :=
    vcCommonOpen_spec (h.congr rfl rfl rfl rfl rfl) hsk hstk
  rcases hstk with rfl | rfl
  · exact hopen
  · exact hopen

theorem stkOpen_spec (h : Held a p) : wp driver (stkOpen a.stk a) Held p := by
  cases h.steady with
  | down hstk hsk hopen hpending =>
      rw [hstk]
      exact vcNetdownOpen_spec (h.linked.congr rfl rfl rfl rfl rfl) rfl hsk hopen hpending
  | up hstk hsk hopen => exact stkOpen_upper_spec h.linked hsk hstk
  | idle below hstk hbelow hsk hopen =>
      rw [hstk]
      show wp driver (stkOpen below (stkPop a)) Held p
      exact stkOpen_upper_spec (h.linked.stkOp .pop) hsk hbelow

/-- Clearing the rings empties the receive ring of the driver, whatever was to be acknowledged. -/
theorem vcBufClear_spec (h : Linked keep a p) :
    wp driver (vcBufClear a (advClrRx ||| advClrTx)) (fun b q => Same a b ∧ Linked False b q) p := by
  unfold vcBufClear
  have hclear : Base a (advMainClear p (advClrRx ||| advClrTx)) ∧
      (advMainClear p (advClrRx ||| advClrTx)).rx.clean = true :=
    ⟨⟨h.sound.advMainClear _, h.sk, h.attrPtr, h.rxSize, h.txSize⟩, rfl⟩
  have hmarked : Stable fun u => Base a u ∧ u.rx.clean = true := by
    intro u v hu hdrift
    refine ⟨hu.1.drift hdrift, ?_⟩
    obtain ⟨_, _, _, _, -, -, -, rfl⟩ := hdrift
    exact hu.2
  refine wp_ask trivial fun r q hr hdrift => ?_
  obtain rfl : r = true := hr
  obtain ⟨hbase, hclean⟩ := hmarked hclear hdrift
  refine wp_ask (Or.inl hclean) fun r u hr hdrift => ?_
  have hdropped : Tied False a (dropRx q 0) := by
    refine ⟨⟨hbase.sound.dropRx (Or.inl hclean), hbase.sk, hbase.attrPtr, ?_, hbase.txSize⟩, ?_,
      False.elim⟩
    · rw [hbase.rxSize]
      simp [dropRx, Ring.moveHead, hclean]
    · simp [dropRx, Ring.moveHead, hclean]
  refine wp_seq (vcBufUpdate_rx_spec (hdropped.drift hdrift)) fun b v hb => ?_
  exact wp_mono (vcBufUpdate_rx_spec hb.2.toTied) fun c x hc => ⟨hb.1.trans hc.1, hc.2⟩

theorem vcCommonPurge_spec (h : Linked keep a p) (hsk : a.sk.isSome) (pflags : UInt32) :
    wp driver (vcCommonPurge a pflags) (fun b q => Same a b ∧ Linked keep b q) p := by
  unfold vcCommonPurge
  refine wp_seq (sendPacket_spec h hsk _) fun ok q hq => ?_
  split
  · exact ⟨⟨rfl, rfl, rfl, rfl, rfl⟩, hq.congr rfl rfl rfl rfl rfl⟩
  · exact ⟨⟨rfl, rfl, rfl, rfl, rfl⟩, hq⟩

theorem vcCommonClose_spec (h : Linked keep a p) (hsk : a.sk.isSome) :
    wp driver (vcCommonClose a) Held p := by
  have hclosed : ∀ eki, Linked keep { a with eki := eki } p :=
    fun _ => h.congr rfl rfl rfl rfl rfl
  unfold vcCommonClose
  refine wp_seq (sendPacket_spec (hclosed _) hsk _) fun ok q hq => ?_
  split
  · exact vcNetdownInit_spec (hq.congr rfl rfl rfl rfl rfl) rfl
  · exact excpInit_spec (hq.congr rfl rfl rfl rfl rfl)

theorem vcNetupClose_spec (h : Linked keep a p) (hsk : a.sk.isSome) :
    wp driver (vcNetupClose a) Held p := by
  unfold vcNetupClose
  refine wp_seq (vcBufClear_spec h) fun b q hb => ?_
  have hbsk : b.sk.isSome := by rw [hb.1.sk]; exact hsk
  refine wp_seq (vcCommonPurge_spec hb.2 hbsk _) fun c u hc => ?_
  exact vcCommonClose_spec hc.2 (by rw [hc.1.sk]; exact hbsk)

theorem vcNetdownClose_spec (h : Linked keep a p) (hstk : a.stk = []) (hsk : a.sk = none)
    (hopen : a.eki.isOpen = 0) (hpending : a.xmitPending = 0) :
    wp driver (vcNetdownClose a) Held p := by
  unfold vcNetdownClose
  refine wp_seq (vcBufClear_spec h) fun b q hb => ?_
  rw [hb.1.sk, hsk]
  have hsteady : Steady a := .down hstk hsk hopen hpending
  exact ⟨hb.2.nothingPending rfl rfl rfl rfl (hb.1.xmitPending.trans hpending),
    hsteady.same hb.1⟩

/-- **Each operation keeps what is held**, for one current state after the other. -/
theorem curntClose_spec (h : Held a p) : wp driver (curntClose a) Held p := by
  unfold curntClose stkCurnt
  cases h.steady with
  | down hstk hsk hopen hpending =>
      rw [hstk]
      exact vcNetdownClose_spec h.linked hstk hsk hopen hpending
  | up hstk hsk hopen =>
      rcases hstk with hstk | hstk
      · rw [hstk]
        exact vcNetupClose_spec h.linked hsk
      · rw [hstk]
        exact vcNetupClose_spec h.linked hsk
  | idle below hstk hbelow hsk hopen =>
      rw [hstk]
      exact vcNetupClose_spec h.linked hsk

theorem curntErr_spec (h : Held a p) : wp driver (curntErr a) Held p := by
  unfold curntErr
  split
  · exact h
  all_goals exact excpInit_spec h.linked

/-! ### The current state -/

theorem upper_of_stkCurnt (h : Steady a) (hcurnt : stkCurnt a = .netup ∨ stkCurnt a = .pause) :
    Upper a.stk ∧ a.sk.isSome ∧ a.eki.isOpen = 1 := by
  unfold stkCurnt at hcurnt
  cases h with
  | down hstk _ _ _ =>
      rw [hstk] at hcurnt
      exact absurd hcurnt (by decide)
  | up hstk hsk hopen => exact ⟨hstk, hsk, hopen⟩
  | idle below hstk _ _ _ =>
      rw [hstk] at hcurnt
      exact absurd hcurnt (by simp)

theorem idle_of_stkCurnt (h : Steady a) (hcurnt : stkCurnt a = .idle) :
    ∃ below, a.stk = .idle :: below ∧ Upper below ∧ a.sk.isSome ∧ a.eki.isOpen = 1 := by
  unfold stkCurnt at hcurnt
  cases h with
  | down hstk _ _ _ =>
      rw [hstk] at hcurnt
      exact absurd hcurnt (by decide)
  | up hstk _ _ =>
      rcases hstk with hstk | hstk
      · rw [hstk] at hcurnt
        exact absurd hcurnt (by decide)
      · rw [hstk] at hcurnt
        exact absurd hcurnt (by decide)
  | idle below hstk hbelow hsk hopen => exact ⟨below, hstk, hbelow, hsk, hopen⟩

theorem stkCurnt_ne_sync (h : Steady a) : stkCurnt a ≠ .sync := by
  unfold stkCurnt
  cases h with
  | down hstk _ _ _ =>
      rw [hstk]
      decide
  | up hstk _ _ =>
      rcases hstk with hstk | hstk
      · rw [hstk]
        decide
      · rw [hstk]
        decide
  | idle below hstk _ _ _ =>
      rw [hstk]
      simp

/-! ### Polling, pausing, resuming -/

theorem curntPoll_spec (h : Held a p) : wp driver (curntPoll a) Held p := by
  unfold curntPoll
  split
  · next hcurnt =>
      obtain ⟨hstk, hsk, hopen⟩ := upper_of_stkCurnt h.steady (Or.inl hcurnt)
      exact stkPushInit_idle_spec h.linked hsk hopen hstk
  · next hcurnt =>
      obtain ⟨hstk, hsk, hopen⟩ := upper_of_stkCurnt h.steady (Or.inr hcurnt)
      exact stkPushInit_idle_spec h.linked hsk hopen hstk
  · exact excpInit_spec h.linked
  all_goals exact h

/-- `netup` and `pause` take each other's place. -/
theorem stkRpls_spec {current : VcOps} (h : Linked True a p) (hstk : Upper a.stk)
    (hsk : a.sk.isSome) (hopen : a.eki.isOpen = 1) (hcurrent : Upper [current]) :
    wp driver (curntInit (stkRpls a current)) Held p := by
  have htail : a.stk.tail = [] := by
    apply List.eq_nil_of_length_eq_zero
    rw [List.length_tail, upper_length hstk]
  have hrpls : (stkRpls a current).stk = [current] := by
    show current :: a.stk.tail = [current]
    rw [htail]
  unfold curntInit
  rw [hrpls]
  exact stkInit_upper_spec (h.stkOp _) hsk hopen hcurrent

theorem curntPause_spec (h : Held a p) : wp driver (curntPause a) Held p := by
  unfold curntPause
  split
  · next hcurnt =>
      obtain ⟨hstk, hsk, hopen⟩ := upper_of_stkCurnt h.steady (Or.inl hcurnt)
      unfold vcNetupPause
      refine wp_seq (sendPackets_spec h.linked hsk _) fun r q hr => ?_
      obtain ⟨ok, b⟩ := r
      cases ok with
      | false => exact excpInit_spec hr.2
      | true =>
          refine stkRpls_spec hr.2 ?_ ?_ (hr.1.isOpen.trans hopen) (Or.inr rfl)
          · rw [hr.1.stk]
            exact hstk
          · rw [hr.1.sk]
            exact hsk
  all_goals exact h

theorem curntResume_spec (h : Held a p) : wp driver (curntResume a) Held p := by
  unfold curntResume
  split
  · next hcurnt =>
      obtain ⟨hstk, hsk, hopen⟩ := upper_of_stkCurnt h.steady (Or.inr hcurnt)
      unfold vcPauseResume
      refine wp_quiet Held.drift h ⟨h.linked.sk, hsk⟩ (fun _ => rfl) fun r q _ hq => ?_
      cases r with
      | none => exact excpInit_spec hq.linked
      | some unsent =>
          dsimp only
          split
          · exact hq
          · refine wp_seq (sendPackets_spec hq.linked hsk _) fun r u hr => ?_
            obtain ⟨ok, b⟩ := r
            cases ok with
            | false => exact excpInit_spec hr.2
            | true =>
                refine stkRpls_spec hr.2 ?_ ?_ (hr.1.isOpen.trans hopen) (Or.inl rfl)
                · rw [hr.1.stk]
                  exact hstk
                · rw [hr.1.sk]
                  exact hsk
  all_goals exact h

theorem curntEvent_spec (h : Held a p) :
    wp driver (curntEvent a) (fun r q => Held r.2 q) p := by
  unfold curntEvent
  split
  · exact h
  · next hcurnt =>
      obtain ⟨-, hsk, -⟩ := upper_of_stkCurnt h.steady (Or.inr hcurnt)
      unfold vcPauseEvent
      refine wp_quiet Held.drift h ⟨h.linked.sk, hsk⟩ (fun _ => rfl) fun r q _ hq => ?_
      cases r with
      | none => exact wp_seq (excpInit_spec hq.linked) fun b u hb => hb
      | some unread =>
          dsimp only
          split
          · exact hq
          · exact hq
  all_goals exact h

end ModbusRTU.DaemonSpecs
