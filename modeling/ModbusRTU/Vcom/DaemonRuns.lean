import ModbusRTU.Vcom.DaemonReceives
import ModbusRTU.Vcom.DaemonSettings

/-!
# Runs of the daemon

The daemon starts on a port in order (`AtRest`), as the driver leaves a new one, and makes any number of
passes, while the server answers anything and the terminal does anything between two calls.

* **`daemon_may`** — it only makes calls that it may make.  In particular `exit(0)` is not reached, neither
  in `vc_sync_open` and `vc_sync_close`, which were *designed never to be called*, nor in `stk_curnt` on an
  empty stack (`exit_not_reached`).
* **`held_of_reached`** — after each pass the stack of states has one of its five shapes.
* **`daemon_sound`** — the record is sound at each point.  So no byte of the terminal is lost or overtakes
  another one (`toServer_of_reached`), and what the terminal gets is what the server sent, in this order
  (`toTerminal_of_reached`).
-/

namespace ModbusRTU.DaemonRuns

open CallProgram WorldLogic RingWindow PortBuffers WireWords Packets DaemonCalls DaemonStates
open DaemonLoop DriverWorld DaemonInvariant DaemonSpecs DaemonSettings DaemonTransfers
open DaemonReceives

variable {a b : VcAttr} {p q : Port}

/-! ### The steps of a pass -/

theorem mainOpenClose_spec (h : Held a p) : wp driver (mainOpenClose a) Held p := by
  unfold mainOpenClose
  refine wp_seq (checkAttrStat_spec Held.drift h h.linked _) fun diff q hq => ?_
  split
  · refine wp_seq (attrP_spec Held.drift hq hq.linked _) fun isOpen q hq => ?_
    split
    · exact stkOpen_spec hq
    · exact curntClose_spec hq
  · exact hq

theorem mainXmit_spec (h : Held a p) : wp driver (mainXmit a) Held p := by
  unfold mainXmit
  split
  · exact curntXmit_spec h
  · exact h

theorem mainPause_spec (h : Held a p) : wp driver (mainPause a) Held p := by
  unfold mainPause
  split
  · exact curntPause_spec h
  · exact h

theorem held_lrecv (h : Held a p) (lrecv : UInt32) : Held { a with lrecv := lrecv } p :=
  ⟨h.linked.congr rfl rfl rfl rfl rfl, h.steady.congr rfl rfl rfl rfl⟩

theorem checkTimeout_spec (h : Held a p) : wp driver (checkTimeout a) Held p := by
  unfold checkTimeout
  split
  · exact wp_seq (curntErr_spec h) fun b q hb => held_lrecv hb 0
  · exact h

theorem mainSocket_spec (h : Held a p) (r : Selected) : wp driver (mainSocket a r) Held p := by
  unfold mainSocket
  split
  · exact vcRecvDesp_spec (held_lrecv h 0)
  · split
    · exact checkTimeout_spec (held_lrecv h _)
    · exact h

theorem mainReady_spec (h : Held a p) (r : Selected) : wp driver (mainReady a r) Held p := by
  unfold mainReady
  refine wp_seq (updateIf_spec h.linked _ _) fun b q hb => ?_
  refine wp_seq (mainSocket_spec ⟨hb.2.1, h.steady.same hb.1⟩ r) fun c u hc => ?_
  refine wp_seq (updateIf_spec hc.linked _ _) fun d v hd => ?_
  have hheld : Held d v := ⟨hd.2.1, hc.steady.same hd.1⟩
  split
  · refine wp_seq (vcBufUpdate_tx_spec hheld.linked) fun e x he => ?_
    exact curntResume_spec ⟨he.2.1, hheld.steady.same he.1⟩
  · exact hheld

theorem mainSelect_spec (h : Held a p) : wp driver (mainSelect a) Held p := by
  unfold mainSelect
  refine wp_seq (curntEvent_spec h) fun r q hr => ?_
  obtain ⟨wanted, b⟩ := r
  refine wp_quiet Held.drift hr trivial (fun _ => rfl) fun ok u _ hu => ?_
  split
  · refine wp_quiet Held.drift hu trivial (fun _ => rfl) fun found v _ hv => ?_
    split
    · exact curntPoll_spec hv
    · exact mainReady_spec hv found
  · exact wp_ask trivial fun stop _ _ _ => nomatch stop

/-- **A pass of the main loop keeps what is held.** -/
theorem mainPass_spec (h : Held a p) : wp driver (mainPass a) Held p := by
  unfold mainPass
  refine wp_seq (mainOpenClose_spec h) fun b q hb => ?_
  refine wp_seq (mainIoctl_settles hb) fun c u hc => ?_
  refine wp_seq (mainXmit_spec hc.1) fun d v hd => ?_
  exact wp_seq (mainPause_spec hd) fun e x he => mainSelect_spec he

/-! ### The start -/

/-- A port in order that no daemon serves. -/
structure AtRest (p : Port) : Prop where
  sound : Sound p
  sk : p.sk = none
  clean : p.rx.clean = false

/-- The driver leaves a new port so. -/
theorem atRest_advMainInit (rxPage txPage : ℕ → UInt8) : AtRest (advMainInit rxPage txPage) where
  sound := by
    have hwf : RingBuf.WF ⟨0, 0, pageSize⟩ := ⟨by decide, by decide⟩
    refine ⟨hwf, hwf, ?_, List.Sublist.refl _, ?_⟩
    · show [] = [] ++ queue ⟨0, 0, pageSize⟩ rxPage
      rfl
    · show ([] ++ queue ⟨0, 0, pageSize⟩ txPage ++ []).Sublist []
      exact List.Sublist.refl _
  sk := rfl
  clean := rfl

/-- The daemon knows the sizes of the rings. -/
structure Sized (txSize rxSize : ℕ) (p : Port) : Prop extends AtRest p where
  tx : p.tx.buf.size = txSize
  rx : p.rx.buf.size = rxSize

theorem Sized.drift {txSize rxSize : ℕ} : Stable (Sized txSize rxSize) := by
  intro p q h hdrift
  have hsound := h.sound.drift hdrift
  obtain ⟨_, _, _, _, -, -, -, rfl⟩ := hdrift
  exact ⟨⟨hsound, h.sk, h.clean⟩, h.tx, h.rx⟩

theorem vcBufSetup_tx_spec {txSize rxSize : ℕ} (h : Sized txSize rxSize p) :
    wp driver (vcBufSetup a .tx)
      (fun b q => Sized txSize rxSize q ∧ ∃ tx, b = { a with tx := tx } ∧ tx.size = txSize) p := by
  unfold vcBufSetup
  refine wp_quiet Sized.drift h trivial (fun _ => rfl) fun r q hr hq => ?_
  obtain rfl : r = some 0 := hr
  refine wp_quiet Sized.drift hq trivial (fun _ => rfl) fun r u hr hu => ?_
  obtain rfl : r = some q.tx.buf.size := hr
  refine wp_mono (vcBufUpdate_tx_view Sized.drift hu (fun v hv => hv.sound.tx_wf)
    fun v hv => hq.tx.trans hv.tx.symm) fun b v hb => ?_
  obtain ⟨hv, tx, rfl, hsize, -⟩ := hb
  exact ⟨hv, tx, rfl, hsize.trans hq.tx⟩

theorem vcBufSetup_rx_spec {txSize rxSize : ℕ} (h : Sized txSize rxSize p) :
    wp driver (vcBufSetup a .rx)
      (fun b q => Sized txSize rxSize q ∧
        ∃ rx, b = { a with rx := rx } ∧ rx.size = rxSize ∧ RxView rx q.rx.buf) p := by
  unfold vcBufSetup
  refine wp_quiet Sized.drift h trivial (fun _ => rfl) fun r q hr hq => ?_
  obtain rfl : r = some p.tx.buf.size := hr
  refine wp_quiet Sized.drift hq trivial (fun _ => rfl) fun r u hr hu => ?_
  obtain rfl : r = some q.rx.buf.size := hr
  refine wp_mono (vcBufUpdate_rx_view Sized.drift hu (fun v hv => hv.sound.rx_wf)
    fun v hv => hq.rx.trans hv.rx.symm) fun b v hb => ?_
  obtain ⟨hv, rx, rfl, hsize, hview⟩ := hb
  exact ⟨hv, rx, rfl, hsize.trans hq.rx, hview⟩

theorem vcBufSetup_attr_spec (h : AtRest p) (hsk : a.sk = none) (htx : a.tx.size = p.tx.buf.size)
    (hrx : a.rx.size = p.rx.buf.size) (hview : RxView a.rx p.rx.buf) :
    wp driver (vcBufSetup a .attr) (fun b q => b.stk = a.stk ∧ Linked False b q) p := by
  have hstable : Stable fun u => Sized p.tx.buf.size p.rx.buf.size u ∧ RxView a.rx u.rx.buf := by
    intro u v hu hdrift
    exact ⟨hu.1.drift hdrift, hu.2.drift hu.1.sound.rx_wf hdrift⟩
  unfold vcBufSetup
  refine wp_quiet hstable ⟨⟨h, rfl, rfl⟩, hview⟩ trivial (fun _ => rfl) fun r q hr hq => ?_
  obtain rfl : r = true := hr
  obtain ⟨hq, hview'⟩ := hq
  unfold vcBufUpdate
  refine wp_ask trivial fun r u hr hdrift => ?_
  obtain rfl : r = some (flushAttrInfo q).usrPtr := hr
  have hmay : may q .iocGAttrPtr := trivial
  refine ⟨rfl, Linked.drift ?_ hdrift⟩
  exact ⟨⟨⟨hq.sound.after hmay none, hsk.trans hq.sk.symm, rfl, hrx.trans hq.rx.symm,
    htx.trans hq.tx.symm⟩, hq.clean, False.elim⟩, hview'⟩

/-- **The start** leads to the bottom of the stack, whatever the memory holds before. -/
theorem mainStart_spec (h : AtRest p) : wp driver (mainStart a) Held p := by
  have hsized : Sized p.tx.buf.size p.rx.buf.size p := ⟨h, rfl, rfl⟩
  unfold mainStart
  refine wp_seq (vcBufSetup_tx_spec hsized) fun b q hb => ?_
  obtain ⟨hq, tx, rfl, htx⟩ := hb
  refine wp_seq (vcBufSetup_rx_spec hq) fun b u hb => ?_
  obtain ⟨hu, rx, rfl, hrx, hview⟩ := hb
  refine wp_seq (vcBufSetup_attr_spec hu.toAtRest rfl (htx.trans hu.tx.symm) (hrx.trans hu.rx.symm)
    hview) fun b v hb => ?_
  have hbottom : Linked False { b with stk := [] } v := hb.2.congr rfl rfl rfl rfl rfl
  exact wp_seq (vcNetdownInit_spec hbottom rfl) fun c x hc => held_lrecv hc 0

/-! ### Runs -/

/-- A daemon comes to a point of a run: what is left of the pass, and the port. -/
abbrev DaemonReached (a : VcAttr) (p₀ : Port) : Daemon VcAttr → Port → Prop :=
  Reached driver (mainStart a) mainPass p₀

section Runs

variable {p₀ : Port} (hrest : AtRest p₀)
include hrest

theorem held_of_reached (h : DaemonReached a p₀ (pure b) p) : Held b p :=
  wp_of_reached (mainStart_spec hrest) (fun _ _ => mainPass_spec) h

/-- **Every call may be made.** -/
theorem daemon_may {op : Op} {k : Ans op → Daemon VcAttr}
    (h : DaemonReached a p₀ (.call op k) p) : may p op :=
  may_of_reached (mainStart_spec hrest) (fun _ _ => mainPass_spec) h

/-- **The record is sound** at each point. -/
theorem daemon_sound {prog : Daemon VcAttr} (h : DaemonReached a p₀ prog p) : Sound p :=
  holds_of_reached (mainStart_spec hrest) (fun _ _ => mainPass_spec) hrest.sound
    (fun _ _ _ _ hsound hmay hstep => hsound.step hmay hstep) h

/-- **The stack of states is never used up**: `exit(0)` is not reached. -/
theorem exit_not_reached (k : Empty → Daemon VcAttr) : ¬ DaemonReached a p₀ (.call .exit k) p :=
  daemon_may hrest

/-- **To the server.**  As long as the ring was not cleared, what the terminal wrote is what was
acknowledged and what is still in the ring, and what was acknowledged was sent, in this order. -/
theorem toServer_of_reached {prog : Daemon VcAttr} (h : DaemonReached a p₀ prog p)
    (hleft : ∀ l ∈ p.left, l.ack.isSome) :
    p.written = p.acks.flatten ++ p.rx.bytes ∧ p.acks.Sublist p.sent := by
  have hsound := daemon_sound hrest h
  refine ⟨?_, hsound.acked⟩
  rw [hsound.written, flatMap_bytes_of_acks p hleft]

/-- **To the terminal.**  What the terminal took and what is in its ring was received from the server,
in this order. -/
theorem toTerminal_of_reached {prog : Daemon VcAttr} (h : DaemonReached a p₀ prog p) :
    (p.drained ++ p.tx.bytes).Sublist p.received :=
  (List.sublist_append_left ..).trans (daemon_sound hrest h).received

end Runs

end ModbusRTU.DaemonRuns
