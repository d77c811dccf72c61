import ModbusRTU.Vcom.SessionReceives

/-!
# Runs on a connection

The daemon makes any number of passes, the server answers anything, and the driver publishes any
settings.  After each pass it is in tune with the server (`wire_tuned`), and on the way it keeps to
the conversation (`wire_may`).

The time without a packet is counted in two ways: a `select` that finds something else adds to `lrecv`,
and one that finds nothing changes the state.  So both have to go into the bound on what the daemon
waits (`Timely`).
-/

namespace ModbusRTU.SessionRuns

open CallProgram WorldLogic PortBuffers DaemonCalls DaemonStates DaemonLoop DaemonInvariant
open DaemonSettings ServerSession SessionWorld SessionSpecs SessionSettings SessionReceives

variable {dev : UInt16} {port lrecv : UInt32} {current : VcOps} {a b : VcAttr} {w u : Wire}

/-- Between two passes. -/
structure Tuned (dev : UInt16) (port : UInt32) (a : VcAttr) (w : Wire) : Prop where
  attuned : Attuned dev port a.lrecv a w
  lrecv : a.lrecv.toNat ≤ vcPullTime.toNat

theorem Attuned.tuned (h : Attuned dev port lrecv a w) (hle : lrecv.toNat ≤ vcPullTime.toNat) :
    Tuned dev port a w := by
  obtain rfl := h.joined.lrecv
  exact ⟨h, hle⟩

theorem Down.tuned (h : Down dev port lrecv a w) : Tuned dev port { a with lrecv := 0 } w :=
  ⟨(h.restart 0).attuned, Nat.zero_le _⟩

/-! ### The steps of a pass -/

theorem mainOpenClose_wire (h : Attuned dev port lrecv a w) :
    wp (wire dev port) (mainOpenClose a) (Attuned dev port lrecv) w := by
  unfold mainOpenClose
  refine wp_seq (checkAttrStat_reads (readsAs_wire w _) rfl _) fun diff u hdiff => ?_
  obtain ⟨hdiff, rfl⟩ := hdiff
  split
  · next hdiffer =>
      have hne := hdiff.mp hdiffer
      refine wp_seq (attrP_reads (readsAs_wire u _) rfl _) fun isOpen v hr => ?_
      obtain ⟨rfl, rfl⟩ := hr
      cases h.standing with
      | down hdown =>
          split
          · rw [hdown.stk]
            refine vcNetdownOpen_wire ⟨?_, rfl, hdown.none, hdown.tid, hdown.eki⟩
            exact hdown.toJoined.congr rfl rfl rfl rfl
          · exact curntClose_wire h
      | up current hserved hstk =>
          rw [if_neg (not_not.mpr (hserved.page.isOpen.resolve_right (hserved.isOpen ▸ hne)))]
          exact curntClose_wire h
      | idle current hserved hstk =>
          rw [if_neg (not_not.mpr (hserved.page.isOpen.resolve_right (hserved.isOpen ▸ hne)))]
          exact curntClose_wire h
  · exact h

theorem mainXmit_wire (h : Informed dev port lrecv a w) :
    wp (wire dev port) (mainXmit a) (Informed dev port lrecv) w := by
  unfold mainXmit
  split
  · exact curntXmit_wire h
  · exact h

theorem mainPause_wire (h : Informed dev port lrecv a w) :
    wp (wire dev port) (mainPause a) (Informed dev port lrecv) w := by
  unfold mainPause
  split
  · exact curntPause_wire h
  · exact h

/-! ### The time that `select` took -/

theorem one_le_vcPullTime : 1 ≤ vcPullTime.toNat := by
  unfold vcPullTime
  decide

theorem vcPullTime_twice : 2 * vcPullTime.toNat < 2 ^ 32 := by
  unfold vcPullTime
  decide

theorem took_le (r : Selected) : took r ≤ vcPullTime.toNat := by
  unfold took
  split <;> omega

/-- At least as much time as `select` took is counted, and no more than a whole `select`. -/
theorem timeUsed_spec {r : Selected} (hret : r.ret ≠ 0) (hleft : r.left ≤ vcPullTime) :
    took r ≤ (timeUsed r).toNat ∧ (timeUsed r).toNat ≤ vcPullTime.toNat := by
  have hone := one_le_vcPullTime
  have hsub : (vcPullTime - r.left).toNat = vcPullTime.toNat - r.left.toNat :=
    UInt32.toNat_sub_of_le _ _ hleft
  unfold took timeUsed
  rw [if_neg hret]
  dsimp only
  split
  · rw [hsub]
    omega
  · next hzero =>
      have hle : (vcPullTime - r.left).toNat ≤ 0 := by
        by_contra hpos
        exact hzero (UInt32.lt_iff_toNat_lt.mpr (Nat.not_le.mp hpos))
      rw [hsub] at hle
      have hresult : (1 : UInt32).toNat = 1 := rfl
      rw [hresult]
      omega

theorem toNat_add_timeUsed {r : Selected} (hlrecv : lrecv.toNat ≤ vcPullTime.toNat)
    (hused : (timeUsed r).toNat ≤ vcPullTime.toNat) :
    (lrecv + timeUsed r).toNat = lrecv.toNat + (timeUsed r).toNat := by
  have htwice := vcPullTime_twice
  rw [UInt32.toNat_add, Nat.mod_eq_of_lt (by omega)]

theorem checkTimeout_wire (h : Attuned dev port lrecv a w) :
    wp (wire dev port) (checkTimeout a) (Tuned dev port) w := by
  obtain rfl := h.joined.lrecv
  unfold checkTimeout
  split
  · exact wp_seq (curntErr_wire h) fun b u hb => Down.tuned hb
  · next hle => exact ⟨h, UInt32.le_iff_toNat_le.mp (UInt32.not_lt.mp hle)⟩

/-- What is known when `select` found something. -/
structure Found (dev : UInt16) (port lrecv : UInt32) (r : Selected) (a : VcAttr) (w : Wire) : Prop where
  standing : Standing dev port lrecv a w
  joined : Joined dev port lrecv a w
  waited : a.sk.isSome → w.waited ≤ lrecv.toNat + took r + vcPullTime.toNat * w.silent
  silent : a.sk.isSome → w.silent ≤ if stkCurnt a = .idle then 1 else 0

theorem found_of_attuned (h : Attuned dev port lrecv a w) {r : Selected} (hret : r.ret ≠ 0)
    (hkin : Kin a b) (hu : Published (w.select r) u) : Found dev port lrecv r b u := by
  have hselect : Standing dev port lrecv a (w.select r) := by
    cases h.standing with
    | down h =>
        exact .down ⟨⟨h.sk, h.devid, h.port, h.lrecv, h.page⟩, h.stk, h.none, h.tid, h.eki⟩
    | up current h hstk => exact .up current (h.select r) hstk
    | idle current h hstk => exact .idle current (h.select r) hstk
  have hstanding := (hselect.published hu).kin hkin
  have hcurnt := stkCurnt_congr hkin.stk
  have hsilent : (w.select r).silent = w.silent := if_neg hret
  have hwaited : (w.select r).waited = w.waited + took r := rfl
  refine ⟨hstanding, ?_, fun hup => ?_, fun hup => ?_⟩
  · cases hstanding with
    | down h => exact h.toJoined
    | up current h hstk => exact h.toJoined
    | idle current h hstk => exact h.toJoined
  · have htimely := (h.timely (hkin.sk ▸ hup)).waited
    rw [hu.times.1, hu.times.2, hsilent, hwaited]
    omega
  · rw [hu.times.2, hsilent, hcurnt]
    exact (h.timely (hkin.sk ▸ hup)).silent

theorem mainSocket_wire {r : Selected} (h : Found dev port lrecv r a w) (hret : r.ret ≠ 0)
    (hleft : r.left ≤ vcPullTime) (hlrecv : lrecv.toNat ≤ vcPullTime.toNat) :
    wp (wire dev port) (mainSocket a r) (Tuned dev port) w := by
  obtain ⟨htook, hused⟩ := timeUsed_spec hret hleft
  obtain rfl := h.joined.lrecv
  unfold mainSocket
  split
  · refine wp_mono (vcRecvDesp_wire (h.standing.restart 0) (h.joined.restart 0))
      fun b u hb => Attuned.tuned hb ?_
    rw [UInt32.toNat_zero]
    exact Nat.zero_le _
  · split
    · next hup =>
        have hadd := toNat_add_timeUsed hlrecv hused
        have hwaited := h.waited hup
        have hle : w.waited ≤ (a.lrecv + timeUsed r).toNat + vcPullTime.toNat * w.silent := by
          rw [hadd]
          omega
        have hattuned : Attuned dev port (a.lrecv + timeUsed r)
            { a with lrecv := a.lrecv + timeUsed r } w := by
          have hcurnt : stkCurnt { a with lrecv := a.lrecv + timeUsed r } = stkCurnt a :=
            stkCurnt_congr rfl
          refine ⟨h.standing.restart _, fun _ => ⟨hle, ?_⟩⟩
          rw [hcurnt]
          exact h.silent hup
        exact checkTimeout_wire hattuned
    · next hdown =>
        have hattuned : Attuned dev port a.lrecv a w := ⟨h.standing, fun hup => absurd hup hdown⟩
        exact Attuned.tuned hattuned hlrecv

theorem mainReady_wire (h : Attuned dev port lrecv a w) {r : Selected} (hret : r.ret ≠ 0)
    (hleft : r.left ≤ vcPullTime) (hlrecv : lrecv.toNat ≤ vcPullTime.toNat) :
    wp (wire dev port) (mainReady a r) (Tuned dev port) (w.select r) := by
  unfold mainReady
  refine wp_seq (updateIf_wire _ a _) fun b u hb => ?_
  refine wp_seq (mainSocket_wire (found_of_attuned h hret hb.1 hb.2) hret hleft hlrecv) fun c v hc => ?_
  refine wp_seq (updateIf_wire _ c _) fun d x hd => ?_
  have hattuned : Attuned dev port c.lrecv d x := (hc.attuned.published hd.2).kin hd.1
  split
  · refine wp_seq (vcBufUpdate_wire d (by decide)) fun e y he => ?_
    obtain ⟨hkin, rfl⟩ := he
    exact wp_mono (curntResume_wire (hattuned.kin hkin)) fun f z hf => Attuned.tuned hf hc.lrecv
  · exact Attuned.tuned hattuned hc.lrecv

theorem mainSelect_wire (h : Informed dev port lrecv a w) (hlrecv : lrecv.toNat ≤ vcPullTime.toNat) :
    wp (wire dev port) (mainSelect a) (Tuned dev port) w := by
  unfold mainSelect
  refine wp_seq (curntEvent_wire h) fun r u hr => ?_
  obtain ⟨wanted, b⟩ := r
  obtain ⟨hr, htold⟩ := hr
  refine wp_still trivial (fun _ _ hstep => hstep) fun ok _ => ?_
  split
  · have hmay : may dev port u (.select a.sk wanted.read wanted.write) := by
      refine ⟨fun hup => ?_, htold⟩
      have htimely := hr.timely (hr.joined.sk ▸ hup)
      have hwaited := htimely.waited
      have hsilent : u.silent ≤ 1 := htimely.silent.trans (by split <;> omega)
      have hmul : vcPullTime.toNat * u.silent ≤ vcPullTime.toNat * 1 := Nat.mul_le_mul_left _ hsilent
      exact ⟨by omega, hsilent⟩
    refine wp_call hmay fun found v hstep => ?_
    obtain ⟨hleft, rfl⟩ : found.left ≤ vcPullTime ∧ v = u.select found := hstep
    split
    · next hret => exact wp_mono (curntPoll_wire hr hret) fun c x hc => Attuned.tuned hc hlrecv
    · next hret => exact mainReady_wire hr hret hleft hlrecv
  · exact wp_call trivial fun stop _ _ => nomatch stop

/-- **A pass of the main loop.** -/
theorem mainPass_wire (h : Tuned dev port a w) : wp (wire dev port) (mainPass a) (Tuned dev port) w := by
  unfold mainPass
  refine wp_seq (mainOpenClose_wire h.attuned) fun b u hb => ?_
  refine wp_seq (mainIoctl_wire hb) fun c v hc => ?_
  refine wp_seq (mainXmit_wire hc) fun d x hd => ?_
  exact wp_seq (mainPause_wire hd) fun e y he => mainSelect_wire he h.lrecv

/-! ### The start -/

theorem vcBufSetup_wire (a : VcAttr) (rb : RbId) :
    wp (wire dev port) (vcBufSetup a rb) (fun b u => Kin a b ∧ Published w u) w := by
  have hring : ∀ b rb, Kin a b → rb ≠ .attr →
      wp (wire dev port) (vcBufUpdate b rb) (fun c u => Kin a c ∧ Published w u) w :=
    fun b rb hkin hrb => wp_mono (vcBufUpdate_wire b hrb) fun c u hc => ⟨hkin.trans hc.1, .inl hc.2⟩
  cases rb with
  | rx =>
      refine wp_still trivial (fun _ _ hstep => hstep) fun first _ => ?_
      cases first with
      | none => exact ⟨Kin.refl a, .inl rfl⟩
      | some first =>
          refine wp_still trivial (fun _ _ hstep => hstep) fun size _ => ?_
          cases size with
          | none => exact ⟨Kin.refl a, .inl rfl⟩
          | some size => exact hring _ _ ⟨⟨rfl, rfl, rfl, rfl, rfl, rfl⟩, rfl⟩ (by decide)
  | tx =>
      refine wp_still trivial (fun _ _ hstep => hstep) fun first _ => ?_
      cases first with
      | none => exact ⟨Kin.refl a, .inl rfl⟩
      | some first =>
          refine wp_still trivial (fun _ _ hstep => hstep) fun size _ => ?_
          cases size with
          | none => exact ⟨Kin.refl a, .inl rfl⟩
          | some size => exact hring _ _ ⟨⟨rfl, rfl, rfl, rfl, rfl, rfl⟩, rfl⟩ (by decide)
  | attr =>
      refine wp_still trivial (fun _ _ hstep => hstep) fun found _ => ?_
      split
      · exact vcBufUpdate_attr_wire a
      · exact ⟨Kin.refl a, .inl rfl⟩

/-- **The start** leads to the bottom of the stack. -/
theorem mainStart_wire (hsk : w.sk = none) (hpage : Known w.page) :
    wp (wire a.devid a.port) (mainStart a) (Tuned a.devid a.port) w := by
  have hjoined : Joined a.devid a.port a.lrecv
      { a with sk := none, stk := [], preExcpT := 0, ops := [] } w := ⟨hsk, rfl, rfl, rfl, hpage⟩
  unfold mainStart
  refine wp_seq (vcBufSetup_wire _ .tx) fun b u hb => ?_
  refine wp_seq (vcBufSetup_wire b .rx) fun c v hc => ?_
  refine wp_seq (vcBufSetup_wire c .attr) fun d x hd => ?_
  have hlast : Joined a.devid a.port a.lrecv { d with stk := [] } x :=
    ((((hjoined.published hb.1 hb.2).published hc.1 hc.2).published hd.1 hd.2)).congr rfl rfl rfl rfl
  exact wp_seq (vcNetdownInit_wire hlast rfl) fun e y he => Down.tuned he

/-! ### Runs -/

/-- The daemon comes to a point of a run on a connection. -/
abbrev WireReached (a : VcAttr) (w₀ : Wire) : Daemon VcAttr → Wire → Prop :=
  Reached (wire a.devid a.port) (mainStart a) mainPass w₀

section Runs

variable {w₀ : Wire} (hsk : w₀.sk = none) (hpage : Known w₀.page)
include hsk hpage

theorem wire_tuned (h : WireReached a w₀ (pure b) w) : Tuned a.devid a.port b w :=
  wp_of_reached (mainStart_wire hsk hpage) (fun _ _ => mainPass_wire) h

/-- **The daemon keeps to the conversation.** -/
theorem wire_may {op : Op} {k : Ans op → Daemon VcAttr} (h : WireReached a w₀ (.call op k) w) :
    may a.devid a.port w op :=
  may_of_reached (mainStart_wire hsk hpage) (fun _ _ => mainPass_wire) h

/-- Each `select` starts within twenty seconds, and takes at most ten. -/
theorem wire_waited {prog : Daemon VcAttr} (h : WireReached a w₀ prog w) (hup : w.sk.isSome) :
    w.waited ≤ 3 * vcPullTime.toNat := by
  have hkeep : ∀ w op r u, (w.sk.isSome → w.waited ≤ 3 * vcPullTime.toNat) →
      may a.devid a.port w op → step a.devid a.port w op r u →
      u.sk.isSome → u.waited ≤ 3 * vcPullTime.toNat := by
    intro w op r u hw hmay hstep hup
    cases op with
    | vcConnect =>
        obtain rfl : u = w.connect r := hstep
        exact Nat.zero_le _
    | send sk data =>
        obtain rfl : u = w.send a.devid a.port data r := hstep
        unfold Wire.send at hup ⊢
        split at hup <;> split <;> exact hw hup
    | recv sk len =>
        obtain rfl : u = w.recv (r.getD []) := hstep
        unfold Wire.recv at hup ⊢
        split
        · rw [if_pos ‹_›] at hup
          exact hw hup
        · exact Nat.zero_le _
    | close sk =>
        obtain rfl : u = { w with sk := none } := hstep
        exact absurd hup Bool.false_ne_true
    | select sk read write =>
        obtain ⟨-, rfl⟩ : r.left ≤ vcPullTime ∧ u = w.select r := hstep
        have hstart : w.waited ≤ 2 * vcPullTime.toNat := (hmay.1 hup).1
        have htook := took_le r
        show w.waited + took r ≤ 3 * vcPullTime.toNat
        omega
    | attr ptr =>
        obtain ⟨-, rfl⟩ : r = w.page ∧ u = w := hstep
        exact hw hup
    | rxRead pos n =>
        obtain ⟨-, rfl⟩ : r.length = n ∧ u = w := hstep
        exact hw hup
    | iocGAttrPtr =>
        obtain ⟨page, -, rfl⟩ : ∃ page, Known page ∧ u = { w with page := page } := hstep
        exact hw hup
    | exit => exact nomatch r
    | returnMain => exact nomatch r
    | _ =>
        obtain rfl : u = w := hstep
        exact hw hup
  have hfirst : w₀.sk.isSome → w₀.waited ≤ 3 * vcPullTime.toNat := by
    rw [hsk]
    exact fun hup => absurd hup (by decide)
  exact holds_of_reached (mainStart_wire hsk hpage) (fun _ _ => mainPass_wire) hfirst hkeep h hup

end Runs

end ModbusRTU.SessionRuns
