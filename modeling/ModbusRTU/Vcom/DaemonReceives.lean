import ModbusRTU.Vcom.DaemonTransfers

/-!
# How the daemon receives a packet

A packet comes in pieces: the header, the data, and for either a second piece if the first was short.
`vcRecvDesp_spec` says that whatever the pieces are, what is held stays held.

For data to go to the terminal two things are needed when the packet is handed over (`Ready`).  The view of
the transmit ring is up to date, since it was read after the header.  And the data that stands in the
buffer is what was received last: also in the case that a second `recv` starts one byte early
(`recvMore_spec`).
-/

namespace ModbusRTU.DaemonReceives

open CallProgram WorldLogic RingWindow SpanCopies PortBuffers WireWords Packets DaemonCalls DaemonStates
open DaemonLoop DriverWorld DaemonInvariant DaemonSpecs DaemonTransfers

variable {a b : VcAttr} {p q : Port}

/-! ### Pieces of a packet -/

/-- What is held while a packet is received.  If it is one with data, the view of the transmit ring
is up to date. -/
structure Receiving (data : Prop) (a : VcAttr) (p : Port) : Prop where
  held : Held a p
  view : data → TxView a.tx p.tx.buf

section Receiving

variable {data : Prop}

theorem Receiving.drift : Stable (Receiving data a) := fun _ _ h hdrift =>
  ⟨h.held.drift hdrift, fun hdata => (h.view hdata).drift h.held.linked.sound.tx_wf hdrift⟩

theorem Receiving.buf (h : Receiving data a p) (buf : ℕ → UInt8) :
    Receiving data { a with buf := buf } p :=
  ⟨⟨h.held.linked.congr rfl rfl rfl rfl rfl, h.held.steady.congr rfl rfl rfl rfl⟩, h.view⟩

theorem unread_of_drift (h : Drift p q) : q.unread = p.unread := by
  obtain ⟨_, _, _, _, -, -, -, rfl⟩ := h
  rfl

/-- What a `recv` answers is received and unread. -/
theorem recv_spec (h : Receiving data a p) (len : ℕ) :
    wp driver (ask (.recv a.sk len))
      (fun r q => Receiving data a q ∧ q.unread = p.unread ++ r.getD []) p := by
  refine ⟨h.held.linked.sk, fun r q hstep => ⟨?_, unread_of_drift hstep.2⟩⟩
  refine Receiving.drift ?_ hstep.2
  exact ⟨⟨h.held.linked.received _, h.held.steady⟩, h.view⟩

theorem recvSecondChance_spec (h : Receiving data a p) (buflen : ℕ) :
    wp driver (recvSecondChance a.sk buflen)
      (fun r q => Receiving data a q ∧ q.unread = p.unread ++ r.getD []) p := by
  have hstable : Stable fun u => Receiving data a u ∧ u.unread = p.unread := by
    intro u v hu hdrift
    exact ⟨hu.1.drift hdrift, (unread_of_drift hdrift).trans hu.2⟩
  unfold recvSecondChance
  refine wp_quiet hstable ⟨h, rfl⟩ h.held.linked.sk (fun _ => rfl) fun ready q _ hq => ?_
  split
  · refine wp_mono (recv_spec hq.1 buflen) fun r u hu => ?_
    rw [← hq.2]
    exact hu
  · exact ⟨hq.1, hq.2.trans (List.append_nil _).symm⟩

theorem suffix_append {α : Type} {x u : List α} (h : x <:+ u) (more : List α) :
    x ++ more <:+ u ++ more := by
  obtain ⟨t, rfl⟩ := h
  exact ⟨t, by rw [List.append_assoc]⟩

/-- What a `recv` puts into the buffer is what was received last. -/
theorem recvAt_suffix (buf : ℕ → UInt8) (pos : ℕ) (r : Option (List UInt8)) (unread : List UInt8) :
    span (recvAt buf pos r) pos (recvLen r).toNat <:+ unread ++ r.getD [] := by
  cases r with
  | none => exact List.nil_suffix
  | some got =>
      show span (store buf pos got) pos (got.length : ℤ).toNat <:+ unread ++ got
      rw [Int.toNat_natCast, span_store]
      exact List.suffix_append ..

theorem recvMore_spec (h : Receiving data a p) {base want : ℕ} {len : ℤ} (hlen : -1 ≤ len)
    (hbase : 0 ≤ base + len) (hgot : span a.buf base len.toNat <:+ p.unread) :
    wp driver (recvMore a base len want)
      (fun r q => Receiving data r.2 q ∧ (∀ i, i + 1 < base → r.2.buf i = a.buf i) ∧
        (r.1 = true → span r.2.buf base want <:+ q.unread)) p := by
  unfold recvMore
  split
  · next hlt =>
      -- what follows the second `recv`
      have hend : ∀ more q, Receiving data a q → q.unread = p.unread ++ more.getD [] →
          Receiving data { a with buf := recvAt a.buf (base + len).toNat more } q ∧
            (∀ i, i + 1 < base → recvAt a.buf (base + len).toNat more i = a.buf i) ∧
            (decide (len + recvLen more = want) = true →
              span (recvAt a.buf (base + len).toNat more) base want <:+ q.unread) := by
        intro more q hq hunread
        refine ⟨hq.buf _, fun i hi => ?_, fun hall => ?_⟩
        · cases more with
          | none => rfl
          | some got => exact store_of_lt _ _ (by omega)
        · have hsum : len + recvLen more = want := of_decide_eq_true hall
          rw [hunread]
          cases more with
          | none =>
              simp only [recvLen] at hsum
              omega
          | some got =>
              simp only [recvLen] at hsum
              show span (store a.buf (base + len).toNat got) base want <:+ p.unread ++ got
              by_cases hneg : len = -1
              · -- the second `recv` starts one byte early
                subst hneg
                have hdrop := span_store_drop a.buf ((base : ℤ) + -1).toNat got
                  (show 1 ≤ got.length by omega)
                rw [show ((base : ℤ) + -1).toNat + 1 = base by omega,
                  show got.length - 1 = want by omega] at hdrop
                rw [hdrop]
                exact (List.drop_suffix ..).trans (List.suffix_append ..)
              · have hstore := span_store_end a.buf (show base ≤ ((base : ℤ) + len).toNat by omega) got
                rw [show ((base : ℤ) + len).toNat - base + got.length = want by omega,
                  show ((base : ℤ) + len).toNat - base = len.toNat by omega] at hstore
                rw [hstore]
                exact suffix_append hgot got
      exact wp_seq (recvSecondChance_spec h _) fun more q hq => hend more q hq.1 hq.2
  · exact ⟨h, fun _ _ => rfl, fun hbad => absurd hbad Bool.false_ne_true⟩

theorem neg_one_le_recvLen (r : Option (List UInt8)) : -1 ≤ recvLen r := by
  cases r with
  | none => exact le_rfl
  | some got =>
      show (-1 : ℤ) ≤ got.length
      omega

/-- If all of the data was received it stands behind the header, and is what was received last. -/
theorem recvPayload_spec (h : Receiving data a p) (packetLen : ℕ) :
    wp driver (recvPayload a packetLen)
      (fun r q => Receiving data r.2 q ∧ (∀ i, i < 19 → r.2.buf i = a.buf i) ∧
        (r.1 = true → span r.2.buf hdrLen packetLen <:+ q.unread)) p := by
  unfold recvPayload
  refine wp_seq (recv_spec h packetLen) fun first q hq => ?_
  have hrecv : Receiving data { a with buf := recvAt a.buf hdrLen first } q := hq.1.buf _
  have hgot : span (recvAt a.buf hdrLen first) hdrLen (recvLen first).toNat <:+ q.unread := by
    rw [hq.2]
    exact recvAt_suffix ..
  have hbefore : ∀ i, i < 19 → recvAt a.buf hdrLen first i = a.buf i := by
    intro i hi
    cases first with
    | none => rfl
    | some got => exact store_of_lt _ _ (show i < hdrLen by unfold hdrLen; omega)
  have hlen := neg_one_le_recvLen first
  dsimp only
  split
  · next hall =>
      refine ⟨hrecv, hbefore, fun _ => ?_⟩
      rw [hall, Int.toNat_natCast] at hgot
      exact hgot
  · refine wp_mono (recvMore_spec hrecv hlen (by unfold hdrLen; omega) hgot) fun r u hr => ?_
    obtain ⟨hrecv', hsame, hspan⟩ := hr
    refine ⟨hrecv', fun i hi => ?_, hspan⟩
    exact (hsame i (by unfold hdrLen; omega)).trans (hbefore i hi)

end Receiving

/-! ### Whole packets -/

theorem updateIf_spec (h : Linked True a p) (cond : Bool) (rb : RbId) :
    wp driver (updateIf cond a rb)
      (fun b q => Same a b ∧ Linked True b q ∧ (cond = true → rb = .tx → TxView b.tx q.tx.buf)) p := by
  unfold updateIf
  split
  · cases rb with
    | rx =>
        refine wp_mono (vcBufUpdate_rx_spec h.toTied) fun b q hb => ?_
        exact ⟨hb.1, hb.2, fun _ hrb => nomatch hrb⟩
    | tx => exact wp_mono (vcBufUpdate_tx_spec h) fun b q hb => ⟨hb.1, hb.2.1, fun _ _ => hb.2.2⟩
    | attr =>
        refine wp_mono (vcBufUpdate_attr_spec h) fun b q hb => ?_
        exact ⟨hb.1, hb.2, fun _ hrb => nomatch hrb⟩
  · next hcond => exact ⟨⟨rfl, rfl, rfl, rfl, rfl⟩, h, fun hbad => absurd hbad hcond⟩

theorem recvBody_spec (h : Held a p) : wp driver (recvBody a) Held p := by
  unfold recvBody
  refine wp_seq (updateIf_spec h.linked _ _) fun b q hb => ?_
  obtain ⟨hsame, hlinked, hview⟩ := hb
  have hheld : Held b q := ⟨hlinked, h.steady.same hsame⟩
  rw [← hsame.buf]
  have hrecv : Receiving (be16At b.buf 8 = vcomCmdDataready) b q := by
    refine ⟨hheld, fun hcmd => hview ?_ rfl⟩
    rw [← hsame.buf, hcmd]
    rfl
  dsimp only
  split
  · next hzero =>
      refine curntRecv_spec hheld (fun hcmd => ⟨hrecv.view hcmd, fun n hn => ?_⟩) _
      rw [vcCheckRecv_eq_some hn, hzero]
      exact List.nil_suffix
  · split
    · exact curntErr_spec hheld
    · refine wp_seq (recvPayload_spec hrecv _) fun r u hr => ?_
      obtain ⟨ok, c⟩ := r
      obtain ⟨hrecv', hbefore, hspan⟩ := hr
      cases ok with
      | false => exact curntErr_spec hrecv'.held
      | true =>
          have hcmd : be16At c.buf 8 = be16At b.buf 8 := by
            unfold be16At
            rw [hbefore 8 (by decide), hbefore 9 (by decide)]
          have hlen : be16At c.buf 10 = be16At b.buf 10 := by
            unfold be16At
            rw [hbefore 10 (by decide), hbefore 11 (by decide)]
          refine curntRecv_spec hrecv'.held (fun hready => ⟨?_, fun n hn => ?_⟩) _
          · exact hrecv'.view (hcmd.symm.trans hready)
          · rw [vcCheckRecv_eq_some hn, hlen]
            exact hspan rfl

theorem vcRecvDesp_spec (h : Held a p) : wp driver (vcRecvDesp a) Held p := by
  have hrecv : Receiving False a p := ⟨h, False.elim⟩
  unfold vcRecvDesp
  refine wp_seq (recv_spec hrecv hdrLen) fun first q hq => ?_
  have hnext : Receiving False { a with buf := recvAt a.buf 0 first } q := hq.1.buf _
  dsimp only
  split
  · exact excpInit_spec hnext.held.linked
  · next hpos =>
      split
      · exact recvBody_spec hnext.held
      · have hgot : span (recvAt a.buf 0 first) 0 (recvLen first).toNat <:+ q.unread := by
          rw [hq.2]
          exact recvAt_suffix ..
        refine wp_seq (recvMore_spec hnext (by omega) (by omega) hgot) fun r u hr => ?_
        obtain ⟨ok, b⟩ := r
        cases ok with
        | false => exact curntErr_spec hr.1.held
        | true => exact recvBody_spec hr.1.held

end ModbusRTU.DaemonReceives
