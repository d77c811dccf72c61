import ModbusRTU.Vcom.DaemonSpecs
import ModbusRTU.Vcom.SessionWorld

/-!
# What the states of the daemon say to the server

One lemma for each operation of a state, in the world of the connection: every packet that it sends
may come next, and where it ends the server knows again what the daemon remembers.

* **`excpInit_wire`** — an exception leads to the bottom from anywhere.
* **`sendPackets_wire`** — requests that the server accepts one after the other, or an exception.
* **`vcSyncInit_wire`** — the six packets after `CREATE` bring the server up to date.
* **`vcNetupClose_wire`** — the end of a connection, also if its `PURGE` was cut.
-/

namespace ModbusRTU.SessionSpecs

open CallProgram WorldLogic PortBuffers Packets DaemonCalls DaemonStates DaemonLoop DaemonSpecs
open DaemonSettings ServerRequests ServerSession SessionWorld

variable {dev : UInt16} {port lrecv : UInt32} {current : VcOps} {a b : VcAttr} {w u : Wire}

/-! ### Sending -/

/-- A packet that may come next is heard, or not sent at all, or cut. -/
theorem sendPacket_wire {packet : List UInt8} {t : Session} (h : Joined dev port lrecv a w)
    (hup : a.sk.isSome) (hhear : w.session.hear dev port packet = some t)
    (hdata : WritesData packet → w.session.Told w.page) :
    wp (wire dev port) (sendPacket a packet)
      (fun ok u => (ok = true → u = { w with session := t }) ∧ (ok = false → u = w ∨ u = w.cut)) w := by
  unfold sendPacket
  split
  · exact ⟨fun hok => absurd hok (by decide), fun _ => .inl rfl⟩
  · refine wp_still trivial (fun _ _ hstep => hstep) fun ready _ => ?_
    split
    · have hmay : may dev port w (.send a.sk packet) := by
        refine ⟨h.sk.symm, hup, ?_, hdata⟩
        rw [hhear]
        rfl
      refine wp_call hmay fun sent u hstep => ?_
      obtain rfl : u = w.send dev port packet sent := hstep
      unfold Wire.send
      refine ⟨fun hok => ?_, fun hok => .inr ?_⟩
      · rw [if_pos (of_decide_eq_true hok), hhear]
        rfl
      · exact if_neg (of_decide_eq_false hok)
    · exact ⟨fun hok => absurd hok (by decide), fun _ => .inl rfl⟩

/-- **Requests that the server accepts** one after the other. -/
theorem sendPackets_wire {asks : List Request} {t : Session} (h : Joined dev port lrecv a w)
    (hup : a.sk.isSome) (hstep : w.session.InStep a.tid) (hall : w.session.acceptAll asks = some t)
    (hplain : ∀ asked ∈ asks, asked.Plain) :
    wp (wire dev port) (sendPackets a (asks.map fun asked tid => asked.build 0 tid))
      (fun r u => Joined dev port lrecv r.2 u ∧ (r.1 = true → ∃ tid next, r.2 = { a with tid := tid } ∧
        u = { w with session := { t with next := next } } ∧ u.session.InStep tid)) w := by
  induction asks generalizing a w t with
  | nil =>
      obtain rfl : w.session = t := Option.some.inj hall
      exact ⟨h, fun _ => ⟨a.tid, w.session.next, rfl, rfl, hstep⟩⟩
  | cons asked more ih =>
      obtain ⟨t', ht', hmore⟩ := Option.bind_eq_some_iff.mp hall
      have hhear : w.session.hear dev port (asked.build 0 a.tid) = _ :=
        hear_build hstep (hplain asked List.mem_cons_self).fits ht'
      have hdata : ¬ WritesData (asked.build 0 a.tid) :=
        not_writesData_build (hplain asked List.mem_cons_self)
      rw [List.map_cons, sendPackets]
      refine wp_seq (sendPacket_wire h hup hhear fun hbad => absurd hbad hdata) fun ok u hok => ?_
      cases ok with
      | false => exact ⟨h.unsent (hok.2 rfl), fun hbad => absurd hbad Bool.false_ne_true⟩
      | true =>
          obtain rfl := hok.1 rfl
          have hnext := acceptAll_next t' (a.tid + 1) more
          rw [hmore, Option.map_some] at hnext
          have hjoined : Joined dev port lrecv { a with tid := a.tid + 1 }
              { w with session := { t' with next := a.tid + 1 } } :=
            ⟨h.sk, h.devid, h.port, h.lrecv, h.page⟩
          refine wp_mono (ih hjoined hup (.inl rfl) hnext
            fun x hx => hplain x (List.mem_cons_of_mem asked hx)) fun r v hr => ?_
          refine ⟨hr.1, fun hok => ?_⟩
          obtain ⟨tid, next, hb, hv, hstep⟩ := hr.2 hok
          exact ⟨tid, next, hb, hv, hstep⟩

/-! ### The bottom -/

theorem closeSk_wire (h : Joined dev port lrecv a w) (hup : a.sk.isSome) :
    wp (wire dev port) (closeSk a)
      (fun b u => b = { a with sk := none } ∧ Joined dev port lrecv b u) w := by
  unfold closeSk
  refine wp_call ⟨h.sk.symm, hup⟩ fun _ u hstep => ?_
  obtain rfl : u = { w with sk := none } := hstep
  exact ⟨rfl, rfl, h.devid, h.port, h.lrecv, h.page⟩

theorem vcNetdownInit_wire (h : Joined dev port lrecv a w) (hstk : a.stk = []) :
    wp (wire dev port) (vcNetdownInit a) (Down dev port lrecv) w := by
  unfold vcNetdownInit
  split
  · next hup =>
      refine wp_seq (closeSk_wire h hup) fun b u hb => ?_
      obtain ⟨rfl, hu⟩ := hb
      exact ⟨⟨hu.sk, hu.devid, hu.port, hu.lrecv, hu.page⟩, hstk, rfl, rfl, rfl⟩
  · next hsk =>
      exact ⟨⟨h.sk, h.devid, h.port, h.lrecv, h.page⟩, hstk, Option.not_isSome_iff_eq_none.mp hsk, rfl,
        rfl⟩

theorem stkExcp_wire (h : Joined dev port lrecv a w) :
    wp (wire dev port) (stkExcp a) (fun b u => b.stk = [] ∧ Joined dev port lrecv b u) w := by
  unfold stkExcp
  split
  · next hstk => exact ⟨hstk, h⟩
  · refine wp_still trivial (fun _ _ hstep => hstep) fun now _ => ?_
    split
    · exact wp_still trivial (fun _ _ hstep => hstep) fun _ _ => ⟨rfl, h.congr rfl rfl rfl rfl⟩
    · exact ⟨rfl, h.congr rfl rfl rfl rfl⟩

/-- **An exception leads to the bottom**, whatever was said to the server. -/
theorem excpInit_wire (h : Joined dev port lrecv a w) :
    wp (wire dev port) (excpInit a) (Down dev port lrecv) w := by
  unfold excpInit
  exact wp_seq (stkExcp_wire h) fun b u hb => vcNetdownInit_wire hb.2 hb.1

theorem excpInit_attuned (h : Joined dev port lrecv a w) :
    wp (wire dev port) (excpInit a) (Attuned dev port lrecv) w :=
  wp_mono (excpInit_wire h) fun _ _ hb => hb.attuned

/-! ### The ring buffers -/

/-- Reading the positions of a ring. -/
theorem vcBufUpdate_wire (a : VcAttr) {rb : RbId} (hrb : rb ≠ .attr) :
    wp (wire dev port) (vcBufUpdate a rb) (fun b u => Kin a b ∧ u = w) w := by
  cases rb with
  | attr => exact absurd rfl hrb
  | rx =>
      refine wp_still trivial (fun _ _ hstep => hstep) fun head _ => ?_
      cases head with
      | none => exact ⟨Kin.refl a, rfl⟩
      | some head =>
          refine wp_still trivial (fun _ _ hstep => hstep) fun tail _ => ?_
          cases tail with
          | none => exact ⟨Kin.refl a, rfl⟩
          | some tail => exact ⟨⟨⟨rfl, rfl, rfl, rfl, rfl, rfl⟩, rfl⟩, rfl⟩
  | tx =>
      refine wp_still trivial (fun _ _ hstep => hstep) fun head _ => ?_
      cases head with
      | none => exact ⟨Kin.refl a, rfl⟩
      | some head =>
          refine wp_still trivial (fun _ _ hstep => hstep) fun tail _ => ?_
          cases tail with
          | none => exact ⟨Kin.refl a, rfl⟩
          | some tail => exact ⟨⟨⟨rfl, rfl, rfl, rfl, rfl, rfl⟩, rfl⟩, rfl⟩

/-- Reading where the settings are makes the driver publish them. -/
theorem vcBufUpdate_attr_wire (a : VcAttr) :
    wp (wire dev port) (vcBufUpdate a .attr) (fun b u => Kin a b ∧ Published w u) w := by
  refine wp_call trivial fun ptr u hstep => ?_
  obtain ⟨page, hpage, rfl⟩ : ∃ page, Known page ∧ u = { w with page := page } := hstep
  cases ptr with
  | none => exact ⟨Kin.refl a, .inr ⟨page, hpage, rfl⟩⟩
  | some ptr => exact ⟨⟨⟨rfl, rfl, rfl, rfl, rfl, rfl⟩, rfl⟩, .inr ⟨page, hpage, rfl⟩⟩

theorem updateIf_wire (cond : Bool) (a : VcAttr) (rb : RbId) :
    wp (wire dev port) (updateIf cond a rb) (fun b u => Kin a b ∧ Published w u) w := by
  unfold updateIf
  split
  · by_cases hrb : rb = .attr
    · rw [hrb]
      exact vcBufUpdate_attr_wire a
    · exact wp_mono (vcBufUpdate_wire a hrb) fun b u hb => ⟨hb.1, .inl hb.2⟩
  · exact ⟨Kin.refl a, .inl rfl⟩

theorem vcBufClear_wire (a : VcAttr) (clrflags : UInt32) :
    wp (wire dev port) (vcBufClear a clrflags) (fun b u => Kin a b ∧ u = w) w := by
  have hlast : ∀ b, Kin a b → wp (wire dev port)
      (if clrflags &&& advClrTx ≠ 0 then vcBufUpdate b .rx else pure b)
      (fun c u => Kin a c ∧ u = w) w := by
    intro b hkin
    split
    · exact wp_mono (vcBufUpdate_wire b (by decide)) fun c u hc => ⟨hkin.trans hc.1, hc.2⟩
    · exact ⟨hkin, rfl⟩
  unfold vcBufClear
  refine wp_still trivial (fun _ _ hstep => hstep) fun done _ => ?_
  split
  · dsimp only
    split
    · refine wp_still trivial (fun _ _ hstep => hstep) fun _ _ => ?_
      refine wp_seq (vcBufUpdate_wire a (by decide)) fun b u hb => ?_
      obtain ⟨hkin, rfl⟩ := hb
      exact hlast b hkin
    · exact hlast a (Kin.refl a)
  · exact ⟨Kin.refl a, rfl⟩

theorem vcNetupInit_wire (a : VcAttr) :
    wp (wire dev port) (vcNetupInit a) (fun b u => Kin a b ∧ u = w) w := by
  unfold vcNetupInit
  refine wp_seq (vcBufUpdate_wire a (by decide)) fun b u hb => ?_
  obtain ⟨hkin, rfl⟩ := hb
  exact wp_mono (vcBufUpdate_wire b (by decide)) fun c v hc => ⟨hkin.trans hc.1, hc.2⟩

/-! ### Going into a state -/

/-- `netup` and `pause` are gone into without a word. -/
theorem stkInit_upper_wire (h : Served dev port lrecv current a w)
    (hwaited : w.waited ≤ lrecv.toNat) (hsilent : w.silent = 0) :
    wp (wire dev port) (stkInit [current] a) (fun b u => Attuned dev port lrecv b u ∧ u = w) w := by
  have hinit : wp (wire dev port) (vcNetupInit { a with stk := [current] })
      (fun b u => Attuned dev port lrecv b u ∧ u = w) w := by
    have hserved : Served dev port lrecv current { a with stk := [current] } w :=
      h.alike ⟨rfl, rfl, rfl, rfl, rfl, rfl⟩
    refine wp_mono (vcNetupInit_wire _) fun b u hb => ?_
    obtain ⟨hkin, rfl⟩ := hb
    exact ⟨(hserved.attuned rfl hwaited hsilent).kin hkin, rfl⟩
  rcases h.upper with rfl | rfl
  · exact hinit
  · exact hinit

/-- In `idle` the server is asked for an answer. -/
theorem vcIdleInit_wire (h : Served dev port lrecv current a w) (hstk : a.stk = [.idle, current])
    (hwaited : w.waited ≤ lrecv.toNat + vcPullTime.toNat * w.silent) (hsilent : w.silent ≤ 1) :
    wp (wire dev port) (vcIdleInit a) (Attuned dev port lrecv) w := by
  have hhear : w.session.hear dev port (Request.getWaitMask.build 0 a.tid) =
      some { w.session with next := a.tid + 1 } :=
    hear_build h.inStep trivial (accept_running h.running)
  have hdata : ¬ WritesData (Request.getWaitMask.build 0 a.tid) :=
    not_writesData_build trivial
  unfold vcIdleInit
  dsimp only
  split
  · exact excpInit_attuned h.toJoined
  · refine wp_seq (sendPacket_wire h.toJoined h.up hhear fun hbad => absurd hbad hdata) fun ok u hok => ?_
    cases ok with
    | true =>
        obtain rfl := hok.1 rfl
        exact h.counted.attuned_idle hstk hwaited hsilent
    | false =>
        refine wp_seq (closeSk_wire (h.toJoined.unsent (hok.2 rfl)) h.up) fun b v hb => ?_
        exact excpInit_attuned hb.2

/-! ### The packets after `CREATE` -/

theorem build_setRts (ms : UInt32) :
    (fun tid => if ms &&& advMsRts ≠ 0 then vcPackSetrts tid pbufLen else vcPackClrrts tid pbufLen) =
      fun tid => (Request.setRts (raised ms advMsRts)).build 0 tid := by
  funext tid
  simp only [Request.build, raised, bne_iff_ne]

theorem build_setDtr (ms : UInt32) :
    (fun tid => if ms &&& advMsDtr ≠ 0 then vcPackSetdtr tid pbufLen else vcPackClrdtr tid pbufLen) =
      fun tid => (Request.setDtr (raised ms advMsDtr)).build 0 tid := by
  funext tid
  simp only [Request.build, raised, bne_iff_ne]

theorem syncMs_eq (a : VcAttr) (ms : UInt32) :
    syncMs a ms = sendPackets a
      ([.setRts (raised ms advMsRts), .setDtr (raised ms advMsDtr)].map
        fun (asked : Request) tid => asked.build 0 tid) := by
  rw [syncMs, build_setRts, build_setDtr]
  rfl

/-- The server reads the settings that the driver published last. -/
theorem readsAs_wire (w : Wire) (ptr : ℕ) : ReadsAs (wire dev port) ptr w.page (· = w) := by
  rintro u rfl
  refine wp_still_last trivial (fun _ _ hstep => hstep.2) fun r hstep => ⟨hstep.1, rfl⟩

/-- **The server is brought up to date**, then the state below goes on, or there is an exception. -/
theorem vcSyncInit_wire {pop : VcAttr → Daemon VcAttr} (h : Live dev port lrecv a w)
    (hphase : w.session.phase = .created) (heki : a.eki = { unknownInfo with isOpen := 1 })
    (hcurrent : current = if isRbEmpty a.tx then .netup else .pause)
    (hpop : ∀ b u, Served dev port lrecv current b u → u.waited = w.waited → u.silent = w.silent →
      wp (wire dev port) (pop b) (Attuned dev port lrecv) u) :
    wp (wire dev port) (vcSyncInit pop a) (Attuned dev port lrecv) w := by
  unfold vcSyncInit
  refine wp_seq (attrP_reads (readsAs_wire w _) rfl _) fun ms u hr => ?_
  obtain ⟨rfl, rfl⟩ := hr
  have hfirst : u.session.acceptAll
      [.setRts (raised u.page.ms advMsRts), .setDtr (raised u.page.ms advMsDtr)] =
      some { u.session with phase := .dtr, rts := some (raised u.page.ms advMsRts),
                            dtr := some (raised u.page.ms advMsDtr) } := by
    rw [Session.acceptAll, accept_created hphase]
    rfl
  rw [syncMs_eq]
  refine wp_seq (sendPackets_wire h.toJoined h.up h.inStep hfirst (plain_pair trivial trivial))
    fun r v hr => ?_
  obtain ⟨ok, b⟩ := r
  cases ok with
  | false => exact excpInit_attuned hr.1
  | true =>
      obtain ⟨tid, next, rfl, rfl, hstep⟩ := hr.2 rfl
      have hsecond : Session.acceptAll { u.session with
            phase := .dtr, rts := some (raised u.page.ms advMsRts),
            dtr := some (raised u.page.ms advMsDtr), next := next }
          [.setWaitMask 0x38010000, .getModem] = some { u.session with
            phase := .modem, rts := some (raised u.page.ms advMsRts),
            dtr := some (raised u.page.ms advMsDtr), next := next } := rfl
      have hjoined : Joined dev port lrecv { a with
          tid := tid, eki := { a.eki with ms := u.page.ms } } _ := hr.1.congr rfl rfl rfl rfl
      refine wp_seq (sendPackets_wire hjoined h.up hstep hsecond (plain_pair trivial trivial))
        fun r v hr => ?_
      obtain ⟨ok, b⟩ := r
      cases ok with
      | false => exact excpInit_attuned hr.1
      | true =>
          obtain ⟨tid, next, rfl, rfl, hstep⟩ := hr.2 rfl
          have hthird : Session.acceptAll { u.session with
                phase := .modem, rts := some (raised u.page.ms advMsRts),
                dtr := some (raised u.page.ms advMsDtr), next := next }
              [.queueFree (if isRbEmpty a.tx then 1024 else 0)] = some { u.session with
                phase := .running, rts := some (raised u.page.ms advMsRts),
                dtr := some (raised u.page.ms advMsDtr), next := next,
                queue := some (if isRbEmpty a.tx then 1024 else 0) } := rfl
          refine wp_seq (sendPackets_wire hr.1 h.up hstep hthird
            (List.forall_mem_singleton.mpr trivial)) fun r v hr => ?_
          obtain ⟨ok, b⟩ := r
          cases ok with
          | false => exact excpInit_attuned hr.1
          | true =>
              obtain ⟨tid, next, rfl, rfl, hstep⟩ := hr.2 rfl
              refine hpop _ _ (Served.stkOp ⟨⟨hr.1, h.up, h.isOpen, hstep⟩, rfl, ?_, ?_, ?_⟩ .pop) rfl rfl
              · rw [heki]
                exact ⟨.inl rfl, .inl rfl, .inl rfl, rfl, rfl⟩
              · rw [hcurrent]
                split
                · exact .inl rfl
                · exact .inr rfl
              · rw [hcurrent]
                split <;> rfl

/-! ### Opening -/

/-- A new connection. -/
structure Fresh (a : VcAttr) (w : Wire) : Prop where
  session : w.session = .new
  waited : w.waited = 0
  silent : w.silent = 0
  tid : a.tid = 0
  eki : a.eki = unknownInfo

/-- `CREATE` and the packets that bring the server up to date. -/
theorem vcCommonOpen_wire (h : Joined dev port lrecv a w) (hup : a.sk.isSome) (hfresh : Fresh a w)
    (hstk : a.stk = [current]) (hcurrent : current = if isRbEmpty a.tx then .netup else .pause) :
    wp (wire dev port) (vcCommonOpen a) (Attuned dev port lrecv) w := by
  have hhear : w.session.hear dev port (vcPackOpen 0x001 a.devid a.port pbufLen) =
      some { Session.new with phase := .created, next := 1 } := by
    rw [hfresh.session, h.devid, h.port]
    exact hear_create
  have hdata : ¬ WritesData (vcPackOpen 0x001 a.devid a.port pbufLen) := by
    have hnot : ¬ WritesData ((Request.create a.devid a.port).build 0 1) :=
      not_writesData_build trivial
    rwa [Request.build] at hnot
  unfold vcCommonOpen
  refine wp_seq (sendPacket_wire h hup hhear fun hbad => absurd hbad hdata) fun ok u hok => ?_
  cases ok with
  | false =>
      refine wp_seq (closeSk_wire (h.unsent (hok.2 rfl)) hup) fun b v hb => ?_
      exact excpInit_attuned hb.2
  | true =>
      obtain rfl := hok.1 rfl
      show wp (wire dev port) (stkPushInit
        { a with tid := a.tid + 1, eki := { a.eki with isOpen := 1 } } .sync) _ _
      unfold stkPushInit curntInit
      rw [stk_stkPush _ .sync (by rw [hstk]; exact le_rfl)]
      show wp (wire dev port) (stkInit (.sync :: a.stk) _) _ _
      rw [hstk]
      have hlive : Live dev port lrecv
          { a.stkOp (.push .sync) with
            tid := a.tid + 1, eki := { a.eki with isOpen := 1 }, stk := .sync :: [current] }
          { w with session := { Session.new with phase := .created, next := 1 } } := by
        refine ⟨⟨h.sk, h.devid, h.port, h.lrecv, h.page⟩, hup, rfl, .inl ?_⟩
        show a.tid + 1 = 1
        rw [hfresh.tid]
        rfl
      have heki : ({ a.eki with isOpen := 1 } : AdvPortInfo) = { unknownInfo with isOpen := 1 } := by
        rw [hfresh.eki]
      refine vcSyncInit_wire hlive rfl heki hcurrent fun b v hb hwaited hsilent => ?_
      refine wp_mono (stkInit_upper_wire hb ?_ (hsilent.trans hfresh.silent)) fun _ _ hc => hc.1
      rw [hwaited]
      exact hfresh.waited.le.trans (Nat.zero_le _)

theorem vcNetdownOpen_wire (h : Down dev port lrecv a w) :
    wp (wire dev port) (vcNetdownOpen a) (Attuned dev port lrecv) w := by
  unfold vcNetdownOpen
  refine wp_call (h.sk.trans h.none) fun r u hstep => ?_
  obtain rfl : u = w.connect r := hstep
  have hjoined : Joined dev port lrecv { a with sk := r } (w.connect r) :=
    ⟨rfl, h.devid, h.port, h.lrecv, h.page⟩
  cases r with
  | none =>
      have hdown : Down dev port lrecv { a with sk := none } (w.connect none) :=
        ⟨hjoined, h.stk, rfl, h.tid, h.eki⟩
      exact hdown.attuned
  | some sk =>
      refine vcCommonOpen_wire (hjoined.congr rfl rfl rfl rfl) rfl ⟨rfl, rfl, rfl, h.tid, h.eki⟩ ?_ rfl
      rw [stk_stkPush _ _ (by rw [h.stk]; exact Nat.zero_le _), h.stk]
      rfl

/-! ### Closing -/

theorem vcCommonPurge_wire (h : Served dev port lrecv current a w) (pflags : UInt32) :
    wp (wire dev port) (vcCommonPurge a pflags)
      (fun b u => Live dev port lrecv b u ∧ (u.session.accept .close).isSome) w := by
  have hfits : (Request.purge pflags).Fits := trivial
  have haccept : w.session.accept (.purge pflags) = some { w.session with phase := .purged } :=
    accept_running h.running
  have hhear : w.session.hear dev port ((Request.purge pflags).build 0 a.tid) =
      some { w.session with phase := .purged, next := a.tid + 1 } :=
    hear_build h.inStep hfits haccept
  have hdata : ¬ WritesData ((Request.purge pflags).build 0 a.tid) :=
    not_writesData_build trivial
  unfold vcCommonPurge
  refine wp_seq (sendPacket_wire h.toJoined h.up hhear fun hbad => absurd hbad hdata) fun ok u hok => ?_
  cases ok with
  | true =>
      obtain rfl := hok.1 rfl
      exact ⟨⟨⟨h.sk, h.devid, h.port, h.lrecv, h.page⟩, h.up, h.isOpen, .inl rfl⟩, rfl⟩
  | false =>
      rcases hok.2 rfl with rfl | rfl
      · refine ⟨h.toLive, ?_⟩
        rw [accept_running h.running]
        rfl
      · exact ⟨⟨h.toJoined.cut, h.up, h.isOpen, h.inStep⟩, rfl⟩

theorem vcCommonClose_wire (h : Live dev port lrecv a w) (hclose : (w.session.accept .close).isSome) :
    wp (wire dev port) (vcCommonClose a) (Attuned dev port lrecv) w := by
  obtain ⟨t, ht⟩ := Option.isSome_iff_exists.mp hclose
  have hhear : w.session.hear dev port (Request.close.build 0 a.tid) =
      some { t with next := a.tid + 1 } := hear_build h.inStep (show Request.close.Fits from trivial) ht
  have hdata : ¬ WritesData (Request.close.build 0 a.tid) :=
    not_writesData_build trivial
  have hjoined : ∀ eki, Joined dev port lrecv { a with eki := eki } w :=
    fun _ => h.toJoined.congr rfl rfl rfl rfl
  unfold vcCommonClose
  refine wp_seq (sendPacket_wire (hjoined _) h.up hhear fun hbad => absurd hbad hdata) fun ok u hok => ?_
  cases ok with
  | true =>
      obtain rfl := hok.1 rfl
      have hend : Joined dev port lrecv (stkRestart { a with
          eki := { a.eki with isOpen := 0, stop := advStopUndef, flowctl := advFlowUndef,
                              pair := advPairUndef }, tid := a.tid + 1 })
          { w with session := { t with next := a.tid + 1 } } := ⟨h.sk, h.devid, h.port, h.lrecv, h.page⟩
      exact wp_mono (vcNetdownInit_wire hend rfl) fun b v hb => hb.attuned
  | false => exact excpInit_attuned ((hjoined _).unsent (hok.2 rfl))

/-- **The end of a connection.**  A `PURGE` that was not sent, or not whole, does not keep the daemon
from sending `CLOSE`. -/
theorem vcNetupClose_wire (h : Served dev port lrecv current a w) :
    wp (wire dev port) (vcNetupClose a) (Attuned dev port lrecv) w := by
  unfold vcNetupClose
  refine wp_seq (vcBufClear_wire a _) fun b u hb => ?_
  obtain ⟨hkin, rfl⟩ := hb
  refine wp_seq (vcCommonPurge_wire (h.alike hkin.toAlike) _) fun c v hc => ?_
  exact vcCommonClose_wire hc.1 hc.2

theorem curntClose_wire (h : Attuned dev port lrecv a w) :
    wp (wire dev port) (curntClose a) (Attuned dev port lrecv) w := by
  unfold curntClose stkCurnt
  cases h.standing with
  | down hdown =>
      rw [hdown.stk]
      show wp (wire dev port) (vcNetdownClose a) _ w
      unfold vcNetdownClose
      refine wp_seq (vcBufClear_wire a _) fun b u hb => ?_
      obtain ⟨hkin, rfl⟩ := hb
      rw [hkin.sk, hdown.none]
      exact h.kin hkin
  | up current hserved hstk =>
      rw [hstk]
      rcases hserved.upper with rfl | rfl
      · exact vcNetupClose_wire hserved
      · exact vcNetupClose_wire hserved
  | idle current hserved hstk =>
      rw [hstk]
      exact vcNetupClose_wire hserved

theorem curntErr_wire (h : Attuned dev port lrecv a w) :
    wp (wire dev port) (curntErr a) (Down dev port lrecv) w := by
  unfold curntErr
  split
  · next hcurnt =>
      cases h.standing with
      | down hdown => exact hdown
      | up current hserved hstk =>
          rw [stkCurnt_of_stk hstk] at hcurnt
          rcases hserved.upper with rfl | rfl
          · exact absurd hcurnt (by decide)
          · exact absurd hcurnt (by decide)
      | idle current hserved hstk =>
          rw [stkCurnt_of_stk hstk] at hcurnt
          exact absurd hcurnt (by decide)
  all_goals exact excpInit_wire h.joined

/-! ### Polling, pausing, resuming -/

/-- A `select` found nothing: the server is asked for an answer, or it was asked before and the
connection ends. -/
theorem curntPoll_wire (h : Attuned dev port lrecv a w) {r : Selected} (hret : r.ret = 0) :
    wp (wire dev port) (curntPoll a) (Attuned dev port lrecv) (w.select r) := by
  have hwaited' : (w.select r).waited = w.waited + vcPullTime.toNat := by
    unfold Wire.select took
    rw [if_pos hret]
  have hsilent' : (w.select r).silent = w.silent + 1 := by
    unfold Wire.select
    exact if_pos hret
  unfold curntPoll stkCurnt
  cases h.standing with
  | down hdown =>
      rw [hdown.stk]
      have hjoined : Joined dev port lrecv a (w.select r) :=
        ⟨hdown.sk, hdown.devid, hdown.port, hdown.lrecv, hdown.page⟩
      exact (Down.attuned ⟨hjoined, hdown.stk, hdown.none, hdown.tid, hdown.eki⟩ : Attuned ..)
  | up current hserved hstk =>
      obtain ⟨hwaited, hsilent⟩ := h.unhurried hserved hstk
      rw [hsilent, Nat.zero_add] at hsilent'
      have hidle : wp (wire dev port) (stkPushInit a .idle) (Attuned dev port lrecv) (w.select r) := by
        unfold stkPushInit curntInit
        rw [stk_stkPush _ .idle (by rw [hstk]; exact le_rfl), hstk]
        refine vcIdleInit_wire ((hserved.select r).alike ⟨rfl, rfl, rfl, rfl, rfl, rfl⟩) rfl ?_
          hsilent'.le
        rw [hwaited', hsilent', Nat.mul_one]
        exact Nat.add_le_add_right hwaited _
      rw [hstk]
      rcases hserved.upper with rfl | rfl
      · exact hidle
      · exact hidle
  | idle current hserved hstk =>
      rw [hstk]
      exact excpInit_attuned (hserved.select r).toJoined

/-- The server is told the free space of another state, which can be gone into then. -/
theorem sendQueue_wire {next : VcOps} (h : Served dev port lrecv current a w)
    (hstk : a.stk = [current]) (hwaited : w.waited ≤ lrecv.toNat) (hsilent : w.silent = 0)
    (hnext : next = .netup ∨ next = .pause) :
    wp (wire dev port) (sendPackets a [fun tid => vcPackQfsize tid (queueOf next) pbufLen])
      (fun r u => Joined dev port lrecv r.2 u ∧ (r.1 = true →
        wp (wire dev port) (curntInit (stkRpls r.2 next))
          (fun b v => Attuned dev port lrecv b v ∧ (w.session.Told w.page → v.session.Told v.page)) u))
      w := by
  have hall : w.session.acceptAll [.queueFree (queueOf next)] =
      some { w.session with queue := some (queueOf next) } := by
    rw [Session.acceptAll, accept_running h.running]
    rfl
  refine wp_mono (sendPackets_wire h.toJoined h.up h.inStep hall
    (List.forall_mem_singleton.mpr trivial)) fun r u hr => ⟨hr.1, fun hok => ?_⟩
  obtain ⟨ok, b⟩ := r
  obtain ⟨tid, n, rfl, rfl, hstep⟩ := hr.2 hok
  have htail : a.stk.tail = [] := by
    rw [hstk]
    rfl
  show wp (wire dev port) (stkInit (next :: a.stk.tail) _) _ _
  rw [htail]
  have hknows : Knows a.eki { w.session with queue := some (queueOf next), next := n } :=
    ⟨h.knows.baud, h.knows.line, h.knows.flow, h.knows.rts, h.knows.dtr⟩
  have hserved : Served dev port lrecv next { a with tid := tid } _ :=
    ⟨⟨hr.1, h.up, h.isOpen, hstep⟩, h.running, hknows, hnext, rfl⟩
  refine wp_mono (stkInit_upper_wire (hserved.stkOp _) hwaited hsilent)
    fun b v hb => ⟨hb.1, fun htold => ?_⟩
  obtain rfl := hb.2
  exact ⟨htold.baud, htold.line, htold.flow, htold.rts, htold.dtr⟩

theorem pauseQueue_eq (a : VcAttr) :
    pauseQueue a = sendPackets a [fun tid => vcPackQfsize tid (queueOf .pause) pbufLen] := rfl

theorem resumeQueue_eq (a : VcAttr) :
    resumeQueue a = sendPackets a [fun tid => vcPackQfsize tid (queueOf .netup) pbufLen] := rfl

theorem excpInit_informed (h : Joined dev port lrecv a w) :
    wp (wire dev port) (excpInit a) (Informed dev port lrecv) w :=
  wp_mono (excpInit_wire h) fun _ _ hb => Down.informed hb

theorem curntPause_wire (h : Informed dev port lrecv a w) :
    wp (wire dev port) (curntPause a) (Informed dev port lrecv) w := by
  unfold curntPause stkCurnt
  cases h.standing with
  | down hdown =>
      rw [hdown.stk]
      exact h
  | up current hserved hstk =>
      obtain ⟨hwaited, hsilent⟩ := h.unhurried hserved hstk
      have htold := h.told (Served.isUpper hserved hstk)
      rw [hstk]
      rcases hserved.upper with rfl | rfl
      · show wp (wire dev port) (vcNetupPause a) _ w
        unfold vcNetupPause
        rw [pauseQueue_eq]
        refine wp_seq (sendQueue_wire hserved hstk hwaited hsilent (.inr rfl)) fun r u hr => ?_
        obtain ⟨ok, b⟩ := r
        cases ok with
        | false => exact excpInit_informed hr.1
        | true => exact wp_mono (hr.2 rfl) fun c v hc => ⟨hc.1, fun _ => hc.2 htold⟩
      · exact h
  | idle current hserved hstk =>
      rw [hstk]
      exact h

theorem curntResume_wire (h : Attuned dev port lrecv a w) :
    wp (wire dev port) (curntResume a) (Attuned dev port lrecv) w := by
  unfold curntResume stkCurnt
  cases h.standing with
  | down hdown =>
      rw [hdown.stk]
      exact h
  | up current hserved hstk =>
      obtain ⟨hwaited, hsilent⟩ := h.unhurried hserved hstk
      rw [hstk]
      rcases hserved.upper with rfl | rfl
      · exact h
      · show wp (wire dev port) (vcPauseResume a) _ w
        unfold vcPauseResume
        refine wp_still trivial (fun _ _ hstep => hstep) fun r _ => ?_
        cases r with
        | none => exact excpInit_attuned h.joined
        | some unsent =>
            dsimp only
            split
            · exact h
            · rw [resumeQueue_eq]
              refine wp_seq (sendQueue_wire hserved hstk hwaited hsilent (.inl rfl)) fun r u hr => ?_
              obtain ⟨ok, b⟩ := r
              cases ok with
              | false => exact excpInit_attuned hr.1
              | true => exact wp_mono (hr.2 rfl) fun c v hc => hc.1
  | idle current hserved hstk =>
      rw [hstk]
      exact h

/-- Data of the terminal is waited for only in `netup` and `pause`. -/
theorem curntEvent_wire (h : Informed dev port lrecv a w) :
    wp (wire dev port) (curntEvent a)
      (fun r u => Attuned dev port lrecv r.2 u ∧ (r.1.read = true → u.session.Told u.page)) w := by
  have hidle : ∀ b, Attuned dev port lrecv b w →
      Attuned dev port lrecv b w ∧ (false = true → w.session.Told w.page) :=
    fun b hb => ⟨hb, fun hbad => absurd hbad Bool.false_ne_true⟩
  have hupper : stkCurnt a = .netup ∨ stkCurnt a = .pause → w.session.Told w.page := by
    intro hcurnt
    cases h.standing with
    | down hdown =>
        unfold stkCurnt at hcurnt
        rw [hdown.stk] at hcurnt
        exact absurd hcurnt (by decide)
    | up current hserved hstk => exact h.told (Served.isUpper hserved hstk)
    | idle current hserved hstk =>
        rw [stkCurnt_of_stk hstk] at hcurnt
        exact absurd hcurnt (by decide)
  unfold curntEvent
  split
  · next hcurnt => exact ⟨h.toAttuned, fun _ => hupper (.inl hcurnt)⟩
  · next hcurnt =>
      unfold vcPauseEvent
      refine wp_still trivial (fun _ _ hstep => hstep) fun r _ => ?_
      cases r with
      | none =>
          exact wp_seq (excpInit_attuned h.joined) fun b u hb =>
            ⟨hb, fun hbad => absurd hbad Bool.false_ne_true⟩
      | some unread =>
          dsimp only
          split
          · exact hidle a h.toAttuned
          · exact ⟨h.toAttuned, fun _ => hupper (.inr hcurnt)⟩
  all_goals exact hidle a h.toAttuned

end ModbusRTU.SessionSpecs
