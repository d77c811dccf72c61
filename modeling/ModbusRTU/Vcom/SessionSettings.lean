import ModbusRTU.Vcom.DaemonTransfers
import ModbusRTU.Vcom.SessionSpecs

/-!
# Settings and data on the wire

* **`exists_tells`** — a round of `vc_common_ioctl` tells the server the first kind of settings that
  differs, in one packet or, for the outputs, in one `send` of two.
* **`ioctlRounds_wire`** — so after the rounds the server was told what the driver published last.
* **`vcCommonXmit_wire`** — data may be sent then.
-/

namespace ModbusRTU.SessionSettings

open CallProgram WorldLogic PortBuffers Packets DaemonCalls DaemonStates DaemonLoop DaemonInvariant
open DaemonSettings ServerRequests ServerSession SessionWorld SessionSpecs

variable {dev : UInt16} {port lrecv : UInt32} {current : VcOps} {a b : VcAttr} {w u : Wire}

/-! ### The outputs -/

theorem packIoctlParam_eq (tid subcmd : UInt32) {buflen : ℕ} (hbuf : hdrLen ≤ buflen) :
    packIoctlParam tid subcmd buflen = packIoctlParam tid subcmd pbufLen := by
  have hpbuf : hdrLen ≤ pbufLen := by decide
  unfold packIoctlParam pack
  rw [if_neg (by rw [List.length_nil]; omega), if_neg (by rw [List.length_nil]; omega)]

theorem length_packIoctlParam (tid subcmd : UInt32) :
    (packIoctlParam tid subcmd pbufLen).length = hdrLen := by
  have hpbuf : ¬ hdrLen + ([] : List UInt8).length > pbufLen := by decide
  rw [packIoctlParam, pack, if_neg hpbuf]
  rfl

theorem rts_packet (stale tid ms : UInt32) {buflen : ℕ} (hbuf : hdrLen ≤ buflen) :
    (if ms &&& advMsRts ≠ 0 then vcPackSetrts tid buflen else vcPackClrrts tid buflen) =
      (Request.setRts (raised ms advMsRts)).build stale tid := by
  simp only [vcPackSetrts, vcPackClrrts, packIoctlParam_eq tid _ hbuf, Request.build, raised,
    bne_iff_ne]

theorem dtr_packet (stale tid ms : UInt32) {buflen : ℕ} (hbuf : hdrLen ≤ buflen) :
    (if ms &&& advMsDtr ≠ 0 then vcPackSetdtr tid buflen else vcPackClrdtr tid buflen) =
      (Request.setDtr (raised ms advMsDtr)).build stale tid := by
  simp only [vcPackSetdtr, vcPackClrdtr, packIoctlParam_eq tid _ hbuf, Request.build, raised,
    bne_iff_ne]

theorem length_setRts (stale tid : UInt32) (on : Bool) :
    ((Request.setRts on).build stale tid).length = hdrLen := by
  cases on with
  | false => exact length_packIoctlParam tid _
  | true => exact length_packIoctlParam tid _

theorem length_setDtr (stale tid : UInt32) (on : Bool) :
    ((Request.setDtr on).build stale tid).length = hdrLen := by
  cases on with
  | false => exact length_packIoctlParam tid _
  | true => exact length_packIoctlParam tid _

theorem ne_nil_of_length {packet : List UInt8} (h : packet.length = hdrLen) : packet ≠ [] := by
  rintro rfl
  exact absurd h (by decide)

/-- The outputs that change. -/
def msAsks (old new : UInt32) : List Request :=
  (if old &&& advMsRts = new &&& advMsRts then [] else [.setRts (raised new advMsRts)]) ++
    if old &&& advMsDtr = new &&& advMsDtr then [] else [.setDtr (raised new advMsDtr)]

/-- **`_set_ms`** asks for these, under numbers that count up. -/
theorem setMs_eq (stale : UInt32) (a : VcAttr) (ms : UInt32) :
    setMs a pbufLen ms =
      (buildAll stale a.tid (msAsks a.eki.ms ms), numberAfter a.tid (msAsks a.eki.ms ms)) := by
  have hrts := length_setRts stale a.tid (raised ms advMsRts)
  have hfirst : hdrLen ≤ pbufLen := by decide
  have hsecond : hdrLen ≤ pbufLen - hdrLen := by decide
  have hdtr : ∀ tid, (Request.setDtr (raised ms advMsDtr)).build stale tid ≠ [] :=
    fun tid => ne_nil_of_length (length_setDtr stale tid _)
  unfold setMs msAsks
  simp only [rts_packet stale a.tid ms hfirst]
  by_cases hr : a.eki.ms &&& advMsRts = ms &&& advMsRts
  · simp only [if_pos hr, if_true, List.nil_append, List.length_nil, Nat.sub_zero,
      dtr_packet stale _ ms hfirst]
    by_cases hd : a.eki.ms &&& advMsDtr = ms &&& advMsDtr
    · simp only [if_pos hd, if_true]
      rfl
    · simp only [if_neg hd, if_neg (hdtr _), buildAll_singleton]
      rfl
  · simp only [if_neg hr, if_neg (ne_nil_of_length hrts), hrts, dtr_packet stale _ ms hsecond]
    by_cases hd : a.eki.ms &&& advMsDtr = ms &&& advMsDtr
    · simp only [if_pos hd, if_true, List.append_nil, buildAll_singleton]
      rfl
    · simp only [if_neg hd, if_neg (hdtr _)]
      rw [List.singleton_append, buildAll, numbered, numbered, numbered, List.flatMap_cons,
        List.flatMap_cons, List.flatMap_nil, List.append_nil]
      rfl

/-! ### The rounds -/

/-- What a round says to a server that is up to date, and what the server makes of it. -/
structure Tells (stale : UInt32) (info : AdvPortInfo) (a : VcAttr) (s : Session) (asks : List Request)
    (t : Session) : Prop where
  packet : (ioctlRound stale info a).1 = buildAll stale a.tid asks
  number : asks = [] → (ioctlRound stale info a).2.tid = a.tid
  inStep : asks ≠ [] → Session.InStep { t with next := numberAfter a.tid asks }
    ((ioctlRound stale info a).2.tid + 1)
  plain : ∀ asked ∈ asks, asked.Plain
  accepted : s.acceptAll asks = some t
  running : t.phase = .running
  queue : t.queue = s.queue
  knows : Knows (settle info a.eki) t

section Round

variable {stale : UInt32} {info : AdvPortInfo} {s t : Session}

/-- A kind of settings that is told in one packet. -/
theorem tells_singleton {asked : Request} {eki : AdvPortInfo} (hrunning : s.phase = .running)
    (hround : ioctlRound stale info a = (asked.build stale a.tid, { a with eki := settle info a.eki }))
    (hplain : asked.Plain) (hrun : s.run asked = some t)
    (ht : t.phase = .running) (hqueue : t.queue = s.queue) (heki : settle info a.eki = eki)
    (hknows : Knows eki t) : Tells stale info a s [asked] t where
  packet := by rw [hround, buildAll_singleton]
  number := fun hbad => absurd hbad (by simp)
  inStep := by
    intro _
    rw [hround]
    exact .inl rfl
  plain := fun x hx => List.mem_singleton.mp hx ▸ hplain
  accepted := by
    rw [Session.acceptAll, accept_running hrunning, hrun]
    rfl
  running := ht
  queue := hqueue
  knows := heki ▸ hknows

/-- The server knows the outputs that do not change. -/
theorem acceptAll_msAsks {old new : UInt32} (hrunning : s.phase = .running)
    (hrts : s.rts = some (raised old advMsRts)) (hdtr : s.dtr = some (raised old advMsDtr)) :
    s.acceptAll (msAsks old new) =
      some { s with rts := some (raised new advMsRts), dtr := some (raised new advMsDtr) } := by
  obtain ⟨phase, next, queue, baud, line, flow, rts, dtr⟩ := s
  obtain rfl : phase = .running := hrunning
  obtain rfl : rts = some (raised old advMsRts) := hrts
  obtain rfl : dtr = some (raised old advMsDtr) := hdtr
  unfold msAsks
  by_cases hr : old &&& advMsRts = new &&& advMsRts
  · have hsame : raised old advMsRts = raised new advMsRts := by rw [raised, raised, hr]
    by_cases hd : old &&& advMsDtr = new &&& advMsDtr
    · have hsame' : raised old advMsDtr = raised new advMsDtr := by rw [raised, raised, hd]
      rw [if_pos hr, if_pos hd, hsame, hsame']
      rfl
    · rw [if_pos hr, if_neg hd, hsame]
      rfl
  · by_cases hd : old &&& advMsDtr = new &&& advMsDtr
    · have hsame' : raised old advMsDtr = raised new advMsDtr := by rw [raised, raised, hd]
      rw [if_neg hr, if_pos hd, hsame']
      rfl
    · rw [if_neg hr, if_neg hd]
      rfl

theorem plain_msAsks (old new : UInt32) : ∀ asked ∈ msAsks old new, asked.Plain := by
  intro asked hasked
  unfold msAsks at hasked
  split at hasked <;> split at hasked <;> simp at hasked
  · subst hasked
    trivial
  · subst hasked
    trivial
  · rcases hasked with rfl | rfl <;> trivial

theorem tells_ms (hrunning : s.phase = .running) (hknows : Knows a.eki s)
    (hround : ioctlRound stale info a = ((setMs a pbufLen info.ms).1,
      { a with tid := (setMs a pbufLen info.ms).2, eki := settle info a.eki }))
    (heki : settle info a.eki = { a.eki with ms := info.ms }) :
    Tells stale info a s (msAsks a.eki.ms info.ms)
      { s with rts := some (raised info.ms advMsRts), dtr := some (raised info.ms advMsDtr) } where
  packet := by rw [hround, setMs_eq stale]
  number := by
    intro hnil
    rw [hround, setMs_eq stale, hnil]
    rfl
  inStep := by
    intro _
    rw [hround, setMs_eq stale]
    exact .inr rfl
  plain := plain_msAsks _ _
  accepted := acceptAll_msAsks hrunning hknows.rts hknows.dtr
  running := hrunning
  queue := rfl
  knows := by
    rw [heki]
    exact ⟨hknows.baud, hknows.line, hknows.flow, rfl, rfl⟩

/-- **A round** tells the first kind that differs. -/
theorem exists_tells (stale : UInt32) (info : AdvPortInfo) (hrunning : s.phase = .running)
    (hknows : Knows a.eki s) : ∃ asks t, Tells stale info a s asks t := by
  by_cases hbaud : info.baud ≠ a.eki.baud
  · have hround : ioctlRound stale info a =
        ((Request.setBaud info.baud).build stale a.tid, { a with eki := settle info a.eki }) := if_pos hbaud
    have heki : settle info a.eki = { a.eki with baud := info.baud } := if_pos hbaud
    exact ⟨_, _, tells_singleton hrunning hround trivial rfl hrunning rfl heki
      ⟨.inr rfl, hknows.line, hknows.flow, hknows.rts, hknows.dtr⟩⟩
  · by_cases hcomset : comset info ≠ comset a.eki
    · have hround : ioctlRound stale info a =
          ((Request.setLine info.stop.toUInt8 info.pair.toUInt8 info.byte.toUInt8).build stale a.tid,
            { a with eki := settle info a.eki }) := by
        rw [ioctlRound, if_neg hbaud, if_pos hcomset]
        rfl
      have heki : settle info a.eki =
          { a.eki with pair := info.pair, stop := info.stop, byte := info.byte } := by
        rw [settle, if_neg hbaud, if_pos hcomset]
      exact ⟨_, _, tells_singleton hrunning hround trivial rfl hrunning rfl
        heki ⟨hknows.baud, .inr rfl, hknows.flow, hknows.rts, hknows.dtr⟩⟩
    · by_cases hflowctl : info.flowctl ≠ a.eki.flowctl
      · have hround : ioctlRound stale info a =
            ((Request.setFlow (hflowOf info.flowctl).1 (hflowOf info.flowctl).2 512).build stale a.tid,
              { a with eki := settle info a.eki }) := by
          rw [ioctlRound, if_neg hbaud, if_neg hcomset, if_pos hflowctl]
          rfl
        have heki : settle info a.eki = { a.eki with flowctl := info.flowctl } := by
          rw [settle, if_neg hbaud, if_neg hcomset, if_pos hflowctl]
        exact ⟨_, _, tells_singleton hrunning hround rfl rfl hrunning rfl
          heki ⟨hknows.baud, hknows.line, .inr rfl, hknows.rts, hknows.dtr⟩⟩
      · by_cases hms : info.ms ≠ a.eki.ms
        · have hround : ioctlRound stale info a = ((setMs a pbufLen info.ms).1,
              { a with tid := (setMs a pbufLen info.ms).2, eki := settle info a.eki }) := by
            rw [ioctlRound, if_neg hbaud, if_neg hcomset, if_neg hflowctl, if_pos hms]
          have heki : settle info a.eki = { a.eki with ms := info.ms } := by
            rw [settle, if_neg hbaud, if_neg hcomset, if_neg hflowctl, if_pos hms]
          exact ⟨_, _, tells_ms hrunning hknows hround heki⟩
        · have hround : ioctlRound stale info a = ([], a) := by
            rw [ioctlRound, if_neg hbaud, if_neg hcomset, if_neg hflowctl, if_neg hms]
          have heki : settle info a.eki = a.eki := by
            rw [settle, if_neg hbaud, if_neg hcomset, if_neg hflowctl, if_neg hms]
          refine ⟨[], s, ?_, fun _ => ?_, fun hbad => absurd rfl hbad, by simp, rfl, hrunning,
            rfl, ?_⟩
          · rw [hround]
            rfl
          · rw [hround]
          · rw [heki]
            exact hknows

/-- Without a packet there is nothing that the server was asked. -/
theorem Tells.silent {asks : List Request} (h : Tells stale info a s asks t)
    (hnil : (ioctlRound stale info a).1 = []) : asks = [] := by
  have hheard : heard (buildAll stale a.tid asks) = some (numbered a.tid asks) :=
    heard_buildAll fun asked hasked => (h.plain asked hasked).fits
  rw [← h.packet, hnil, heard_nil] at hheard
  cases asks with
  | nil => rfl
  | cons asked more => exact absurd (Option.some.inj hheard) (by simp [numbered])

end Round

/-- **The server was told the settings** if it knows what the daemon remembers, and this is they. -/
theorem Knows.told {eki info : AdvPortInfo} {s : Session} (h : Knows eki s) (hagrees : Agrees info eki)
    (hinfo : Known info) : s.Told info where
  baud := by
    rw [hagrees.baud]
    exact h.baud
  line := by
    rw [hagrees.stop, hagrees.pair, hagrees.byte]
    exact h.line.resolve_left (hagrees.pair ▸ hinfo.pair)
  flow := by
    rw [hagrees.flowctl]
    exact h.flow.resolve_left (hagrees.flowctl ▸ hinfo.flowctl)
  rts := by
    rw [hagrees.ms]
    exact h.rts
  dtr := by
    rw [hagrees.ms]
    exact h.dtr

/-- What holds when the settings are told: the server knows them, or there is no connection. -/
def Settled (dev : UInt16) (port lrecv : UInt32) (b : VcAttr) (u : Wire) : Prop :=
  Attuned dev port lrecv b u ∧ (b.stk ≠ [] → u.session.Told u.page)

theorem ioctlRounds_wire {rounds : ℕ} (h : Served dev port lrecv current a w) (hstk : a.stk = [current])
    (hwaited : w.waited ≤ lrecv.toNat) (hsilent : w.silent = 0)
    (hrounds : unsettled w.page a.eki ≤ rounds) :
    wp (wire dev port) (ioctlRounds rounds a) (Settled dev port lrecv) w := by
  induction rounds generalizing a w with
  | zero =>
      have hagrees := (unsettled_eq_zero_iff _ _).mp (Nat.le_zero.mp hrounds)
      exact ⟨h.attuned hstk hwaited hsilent, fun _ => Knows.told h.knows hagrees h.page⟩
  | succ rounds ih =>
      unfold ioctlRounds
      refine wp_seq (ioctlPacket_reads (readsAs_wire w _) rfl fun u hu => ?_) fun r u hr => ?_
      · obtain rfl := hu
        exact wp_still_last trivial (fun _ _ hstep => hstep) fun _ _ => rfl
      · obtain ⟨rfl, stale, rfl⟩ := hr
        obtain ⟨asks, t, ht⟩ := exists_tells stale u.page h.running h.knows
        obtain ⟨tid, hround⟩ := ioctlRound_eq stale u.page a
        have hagrees := agrees_of_ioctlRound stale u.page a
        have hfewer : unsettled u.page (settle u.page a.eki) ≤ rounds := by
          rw [unsettled_settle]
          omega
        have hnumber := ht.number
        have hinStep := ht.inStep
        have hsilence := ht.silent
        have hpacket := ht.packet
        generalize ioctlRound stale u.page a = r at *
        obtain ⟨packet, b⟩ := r
        obtain rfl : b = { a with tid := tid, eki := settle u.page a.eki } := hround
        dsimp only at hagrees hnumber hinStep hsilence hpacket ⊢
        have hopen : (settle u.page a.eki).isOpen = 1 := (settle_isOpen _ _).trans h.isOpen
        split
        · next hnil =>
            -- nothing was sent
            obtain rfl := hsilence hnil
            obtain rfl := hnumber rfl
            obtain rfl : u.session = t := Option.some.inj ht.accepted
            have hserved : Served dev port lrecv current
                { a with eki := settle u.page a.eki } u :=
              ⟨⟨h.toJoined.congr rfl rfl rfl rfl, h.up, hopen, h.inStep⟩, h.running, ht.knows, h.upper,
                h.queue⟩
            exact ⟨hserved.attuned hstk hwaited hsilent,
              fun _ => Knows.told ht.knows (hagrees hnil) h.page⟩
        · next hne =>
            have hasks : asks ≠ [] := by
              rintro rfl
              exact hne hpacket
            have hhear : u.session.hear dev port packet =
                some { t with next := numberAfter a.tid asks } := by
              rw [hpacket]
              exact hear_buildAll h.inStep (fun x hx => (ht.plain x hx).fits) ht.accepted hasks
            have hdata : ¬ WritesData packet := by
              rw [hpacket]
              exact not_writesData_buildAll ht.plain
            have hjoined : Joined dev port lrecv { a with tid := tid, eki := settle u.page a.eki } u :=
              h.toJoined.congr rfl rfl rfl rfl
            refine wp_seq (sendPacket_wire hjoined h.up hhear fun hbad => absurd hbad hdata)
              fun ok v hok => ?_
            cases ok with
            | false =>
                refine wp_mono (excpInit_wire (hjoined.unsent (hok.2 rfl))) fun b v hb => ?_
                exact ⟨hb.attuned, fun hbad => absurd hb.stk hbad⟩
            | true =>
                obtain rfl := hok.1 rfl
                have hserved : Served dev port lrecv current
                    { a with tid := tid + 1, eki := settle u.page a.eki }
                    { u with session := { t with next := numberAfter a.tid asks } } :=
                  ⟨⟨⟨h.sk, h.devid, h.port, h.lrecv, h.page⟩, h.up, hopen, hinStep hasks⟩, ht.running,
                    ht.knows.next _, h.upper, ht.queue.trans h.queue⟩
                exact ih hserved hstk hwaited hsilent hfewer

/-! ### The step of the main loop -/

theorem vcCommonIoctl_wire (h : Served dev port lrecv current a w) (hstk : a.stk = [current])
    (hwaited : w.waited ≤ lrecv.toNat) (hsilent : w.silent = 0) :
    wp (wire dev port) (vcCommonIoctl a) (Settled dev port lrecv) w := by
  have hle := unsettled_le w.page a.eki
  exact ioctlRounds_wire h hstk hwaited hsilent (by omega)

/-- In `netup` and `pause` the server is told all settings. -/
theorem mainIoctl_wire (h : Attuned dev port lrecv a w) :
    wp (wire dev port) (mainIoctl a) (Informed dev port lrecv) w := by
  unfold mainIoctl
  refine wp_seq (anyDiff_reads (readsAs_wire w _) rfl _) fun diff u hdiff => ?_
  obtain ⟨hsame, rfl⟩ := hdiff
  have hother : ∀ diff : Bool, ¬ Upper a.stk → curntIoctl a = pure a →
      wp (wire dev port) (if diff then curntIoctl a else pure a) (Informed dev port lrecv) u := by
    intro diff hupper hcurnt
    rw [hcurnt, ite_self]
    exact ⟨h, fun hbad => absurd hbad hupper⟩
  cases h.standing with
  | down hdown =>
      refine hother diff ?_ ?_
      · rw [hdown.stk]
        simp [Upper]
      · unfold curntIoctl stkCurnt
        rw [hdown.stk]
        rfl
  | up current hserved hstk =>
      obtain ⟨hwaited, hsilent⟩ := h.unhurried hserved hstk
      split
      · have hcurnt : curntIoctl a = vcCommonIoctl a := by
          unfold curntIoctl
          rw [stkCurnt_of_stk hstk]
          rcases hserved.upper with rfl | rfl <;> rfl
        rw [hcurnt]
        refine wp_mono (vcCommonIoctl_wire hserved hstk hwaited hsilent) fun b v hb => ⟨hb.1, fun hupper => ?_⟩
        refine hb.2 ?_
        rintro hnil
        rw [hnil] at hupper
        exact absurd hupper (by simp [Upper])
      · next hno =>
          have hall := hsame (Bool.eq_false_iff.mpr hno)
          refine ⟨h, fun _ => Knows.told hserved.knows ?_ hserved.page⟩
          exact ⟨hall (·.baud) (by simp), hall (·.pair) (by simp), hall (·.stop) (by simp),
            hall (·.byte) (by simp), hall (·.flowctl) (by simp), hall (·.ms) (by simp)⟩
  | idle current hserved hstk =>
      refine hother diff ?_ ?_
      · rw [hstk]
        simp [Upper]
      · unfold curntIoctl
        rw [stkCurnt_of_stk hstk]

end ModbusRTU.SessionSettings
