import ModbusRTU.Vcom.DaemonLoop
import ModbusRTU.Vcom.DaemonSpecs

/-!
# The line settings

The daemon remembers in `eki` the settings that it told the server, and in each pass compares them with
the ones that the driver published last.  `vc_common_ioctl` tells the server one kind of them in a round
and makes fifteen rounds at most.

* **`unsettled_settle`** — a round settles one of the four kinds that differ.
* **`ioctlRounds_settles`** — so as many rounds as kinds differ are enough, unless the connection is lost.
* **`mainIoctl_settles`** — in each pass the server knows the settings before data is sent to it.
-/

namespace ModbusRTU.DaemonSettings

open CallProgram WorldLogic PortBuffers WireWords Packets DaemonCalls DaemonStates DaemonLoop
open DriverWorld DaemonInvariant DaemonSpecs

/-- The server was told these settings. -/
structure Agrees (info eki : AdvPortInfo) : Prop where
  baud : info.baud = eki.baud
  pair : info.pair = eki.pair
  stop : info.stop = eki.stop
  byte : info.byte = eki.byte
  flowctl : info.flowctl = eki.flowctl
  ms : info.ms = eki.ms

/-- The settings that one packet tells together. -/
def comset (info : AdvPortInfo) : UInt32 × UInt32 × UInt32 := (info.pair, info.stop, info.byte)

/-- The kinds of settings that differ. -/
def unsettled (info eki : AdvPortInfo) : ℕ :=
  (if info.baud ≠ eki.baud then 1 else 0) + (if comset info ≠ comset eki then 1 else 0) +
    (if info.flowctl ≠ eki.flowctl then 1 else 0) + (if info.ms ≠ eki.ms then 1 else 0)

/-- What a round makes of `eki`. -/
def settle (info eki : AdvPortInfo) : AdvPortInfo :=
  if info.baud ≠ eki.baud then { eki with baud := info.baud }
  else if comset info ≠ comset eki then
    { eki with pair := info.pair, stop := info.stop, byte := info.byte }
  else if info.flowctl ≠ eki.flowctl then { eki with flowctl := info.flowctl }
  else if info.ms ≠ eki.ms then { eki with ms := info.ms }
  else eki

theorem comset_eq_iff (info eki : AdvPortInfo) :
    comset info = comset eki ↔ info.pair = eki.pair ∧ info.stop = eki.stop ∧ info.byte = eki.byte := by
  rw [comset, comset, Prod.mk.injEq, Prod.mk.injEq]

theorem unsettled_eq_zero_iff (info eki : AdvPortInfo) : unsettled info eki = 0 ↔ Agrees info eki := by
  unfold unsettled
  constructor
  · intro h
    have hbaud : info.baud = eki.baud := by
      by_contra hne
      rw [if_pos hne] at h
      omega
    have hcomset : comset info = comset eki := by
      by_contra hne
      rw [if_pos hne] at h
      omega
    have hflowctl : info.flowctl = eki.flowctl := by
      by_contra hne
      rw [if_pos hne] at h
      omega
    have hms : info.ms = eki.ms := by
      by_contra hne
      rw [if_pos hne] at h
      omega
    obtain ⟨hpair, hstop, hbyte⟩ := (comset_eq_iff info eki).mp hcomset
    exact ⟨hbaud, hpair, hstop, hbyte, hflowctl, hms⟩
  · intro h
    have hcomset := (comset_eq_iff info eki).mpr ⟨h.pair, h.stop, h.byte⟩
    rw [if_neg (not_not.mpr h.baud), if_neg (not_not.mpr hcomset), if_neg (not_not.mpr h.flowctl),
      if_neg (not_not.mpr h.ms)]

/-- **A round settles a kind**, if one differs. -/
theorem unsettled_settle (info eki : AdvPortInfo) :
    unsettled info (settle info eki) = unsettled info eki - 1 := by
  unfold settle
  split
  · next hbaud => simp [unsettled, comset, hbaud, Nat.add_assoc]
  · next hbaud =>
      split
      · next hcomset =>
          have hnext : comset { eki with pair := info.pair, stop := info.stop, byte := info.byte } =
              comset info := rfl
          simp only [unsettled, hnext, if_pos hcomset, if_neg hbaud]
          simp [Nat.add_assoc]
      · next hcomset =>
          have hkeep : ∀ flowctl ms, comset { eki with flowctl := flowctl, ms := ms } = comset eki :=
            fun _ _ => rfl
          split
          · next hflowctl =>
              have hnext := hkeep info.flowctl eki.ms
              simp only [unsettled, hnext, if_pos hflowctl, if_neg hbaud, if_neg hcomset]
              simp
          · next hflowctl =>
              split
              · next hms =>
                  have hnext := hkeep eki.flowctl info.ms
                  simp only [unsettled, hnext, if_pos hms, if_neg hbaud, if_neg hcomset, if_neg hflowctl]
                  simp
              · next hms =>
                  simp only [unsettled, if_neg hms, if_neg hbaud, if_neg hcomset, if_neg hflowctl]

/-! ### Reading the settings -/

section Reading

variable {W : Type} {world : World Op Ans W} {a : VcAttr} {info : AdvPortInfo} {P : W → Prop} {w : W}

/-- As long as `P` holds the daemon reads `info`. -/
def ReadsAs (world : World Op Ans W) (ptr : ℕ) (info : AdvPortInfo) (P : W → Prop) : Prop :=
  ∀ w, P w → wp world (ask (.attr ptr)) (fun r u => r = info ∧ P u) w

variable (hread : ReadsAs world a.attrPtr info P) (hw : P w)
include hread hw

theorem attrP_reads {α : Type} (field : AdvPortInfo → α) :
    wp world (attrP a field) (fun r u => r = field info ∧ P u) w := by
  unfold attrP
  refine wp_seq (hread w hw) fun r u hr => ?_
  obtain ⟨rfl, hu⟩ := hr
  exact ⟨rfl, hu⟩

omit hread hw in
/-- What is not found to differ agrees. -/
theorem eq_of_not_diff {α : Type} {x y : α} {r : Bool} (h : r = true ↔ x ≠ y) (hr : ¬ r = true) :
    x = y := by
  by_contra hne
  exact hr (h.mpr hne)

theorem checkAttrStat_reads (field : AdvPortInfo → UInt32) :
    wp world (checkAttrStat a field)
      (fun r u => (r = true ↔ field info ≠ field a.eki) ∧ P u) w := by
  unfold checkAttrStat
  refine wp_seq (attrP_reads hread hw field) fun r u hr => ?_
  obtain ⟨rfl, hu⟩ := hr
  exact ⟨bne_iff_ne, hu⟩

theorem vcCheckComset_reads :
    wp world (vcCheckComset a) (fun r u => (r = true ↔ comset info ≠ comset a.eki) ∧ P u) w := by
  unfold vcCheckComset
  refine wp_seq (checkAttrStat_reads hread hw _) fun pair u hpair => ?_
  split
  · next hdiff =>
      refine ⟨⟨fun _ heq => ?_, fun _ => rfl⟩, hpair.2⟩
      exact hpair.1.mp hdiff ((comset_eq_iff _ _).mp heq).1
  · next hsame =>
      have hpair' : info.pair = a.eki.pair := eq_of_not_diff hpair.1 hsame
      refine wp_seq (checkAttrStat_reads hread hpair.2 _) fun stop u hstop => ?_
      split
      · next hdiff =>
          refine ⟨⟨fun _ heq => ?_, fun _ => rfl⟩, hstop.2⟩
          exact hstop.1.mp hdiff ((comset_eq_iff _ _).mp heq).2.1
      · next hsame =>
          have hstop' : info.stop = a.eki.stop := eq_of_not_diff hstop.1 hsame
          refine wp_mono (checkAttrStat_reads hread hstop.2 _) fun byte u hbyte => ⟨?_, hbyte.2⟩
          rw [hbyte.1, ne_eq, ne_eq, comset_eq_iff]
          simp only [hpair', hstop', true_and]

theorem anyDiff_reads (fields : List (AdvPortInfo → UInt32)) :
    wp world (anyDiff a fields)
      (fun r u => (r = false → ∀ field ∈ fields, field info = field a.eki) ∧ P u) w := by
  induction fields generalizing w with
  | nil => exact ⟨fun _ field hfield => absurd hfield List.not_mem_nil, hw⟩
  | cons field fields ih =>
      unfold anyDiff
      refine wp_seq (checkAttrStat_reads hread hw _) fun diff u hdiff => ?_
      split
      · exact ⟨fun hr => absurd hr (by decide), hdiff.2⟩
      · next hsame =>
          refine wp_mono (ih hdiff.2) fun r v hr => ⟨fun hnone other hother => ?_, hr.2⟩
          rcases List.mem_cons.mp hother with rfl | hrest
          · exact eq_of_not_diff hdiff.1 hsame
          · exact hr.1 hnone other hrest

omit hread hw in
/-- A round, if the settings do not change meanwhile. -/
def ioctlRound (stale : UInt32) (info : AdvPortInfo) (a : VcAttr) : List UInt8 × VcAttr :=
  if info.baud ≠ a.eki.baud then
    (vcPackSbaud a.tid info.baud pbufLen, { a with eki := settle info a.eki })
  else if comset info ≠ comset a.eki then
    (vcPackSetlctl a.tid info.pair.toUInt8 info.byte.toUInt8 info.stop.toUInt8 pbufLen,
      { a with eki := settle info a.eki })
  else if info.flowctl ≠ a.eki.flowctl then
    (vcPackHflow a.tid (hflowOf info.flowctl).1 (hflowOf info.flowctl).2 stale pbufLen,
      { a with eki := settle info a.eki })
  else if info.ms ≠ a.eki.ms then
    ((setMs a pbufLen info.ms).1,
      { a with tid := (setMs a pbufLen info.ms).2, eki := settle info a.eki })
  else ([], a)

/-- A round tells the first kind that differs. -/
theorem ioctlPacket_reads (huninit : ∀ w, P w → wp world (ask .uninit) (fun _ u => P u) w) :
    wp world (ioctlPacket a) (fun r u => P u ∧ ∃ stale, r = ioctlRound stale info a) w := by
  unfold ioctlPacket ioctlRound settle
  refine wp_seq (checkAttrStat_reads hread hw _) fun diff u hdiff => ?_
  split
  · next hbaud =>
      refine wp_seq (attrP_reads hread hdiff.2 _) fun r u hr => ?_
      obtain ⟨rfl, hu⟩ := hr
      simp only [if_pos (hdiff.1.mp hbaud)]
      exact ⟨hu, 0, rfl⟩
  · next hbaud =>
      simp only [if_neg (not_not.mpr (eq_of_not_diff hdiff.1 hbaud))]
      refine wp_seq (vcCheckComset_reads hread hdiff.2) fun diff u hdiff => ?_
      split
      · next hcomset =>
          refine wp_seq (attrP_reads hread hdiff.2 _) fun pair u hpair => ?_
          obtain ⟨rfl, hu⟩ := hpair
          refine wp_seq (attrP_reads hread hu _) fun stop u hstop => ?_
          obtain ⟨rfl, hu⟩ := hstop
          refine wp_seq (attrP_reads hread hu _) fun byte u hbyte => ?_
          obtain ⟨rfl, hu⟩ := hbyte
          simp only [if_pos (hdiff.1.mp hcomset)]
          exact ⟨hu, 0, rfl⟩
      · next hcomset =>
          simp only [if_neg (not_not.mpr (eq_of_not_diff hdiff.1 hcomset))]
          refine wp_seq (checkAttrStat_reads hread hdiff.2 _) fun diff u hdiff => ?_
          split
          · next hflowctl =>
              refine wp_seq (attrP_reads hread hdiff.2 _) fun flowctl u hr => ?_
              obtain ⟨rfl, hu⟩ := hr
              refine wp_seq (huninit u hu) fun stale u hu => ?_
              simp only [if_pos (hdiff.1.mp hflowctl)]
              exact ⟨hu, stale, rfl⟩
          · next hflowctl =>
              simp only [if_neg (not_not.mpr (eq_of_not_diff hdiff.1 hflowctl))]
              refine wp_seq (checkAttrStat_reads hread hdiff.2 _) fun diff u hdiff => ?_
              split
              · next hms =>
                  refine wp_seq (attrP_reads hread hdiff.2 _) fun ms u hr => ?_
                  obtain ⟨rfl, hu⟩ := hr
                  simp only [if_pos (hdiff.1.mp hms)]
                  exact ⟨hu, 0, rfl⟩
              · next hms =>
                  simp only [if_neg (not_not.mpr (eq_of_not_diff hdiff.1 hms))]
                  exact ⟨hdiff.2, 0, rfl⟩

end Reading

/-! ### What a round does -/

section Round

variable (stale : UInt32) (info : AdvPortInfo) (a : VcAttr)

/-- Only the transaction number and `eki` are others. -/
theorem ioctlRound_eq : ∃ tid, (ioctlRound stale info a).2 =
    { a with tid := tid, eki := settle info a.eki } := by
  unfold ioctlRound
  by_cases hbaud : info.baud ≠ a.eki.baud
  · rw [if_pos hbaud]
    exact ⟨a.tid, rfl⟩
  · rw [if_neg hbaud]
    by_cases hcomset : comset info ≠ comset a.eki
    · rw [if_pos hcomset]
      exact ⟨a.tid, rfl⟩
    · rw [if_neg hcomset]
      by_cases hflowctl : info.flowctl ≠ a.eki.flowctl
      · rw [if_pos hflowctl]
        exact ⟨a.tid, rfl⟩
      · rw [if_neg hflowctl]
        by_cases hms : info.ms ≠ a.eki.ms
        · rw [if_pos hms]
          exact ⟨_, rfl⟩
        · rw [if_neg hms]
          refine ⟨a.tid, ?_⟩
          unfold settle
          rw [if_neg hbaud, if_neg hcomset, if_neg hflowctl, if_neg hms]

theorem settle_isOpen (eki : AdvPortInfo) : (settle info eki).isOpen = eki.isOpen := by
  unfold settle
  split_ifs <;> rfl

theorem same_ioctlRound : Same a (ioctlRound stale info a).2 := by
  obtain ⟨tid, heq⟩ := ioctlRound_eq stale info a
  rw [heq]
  exact ⟨rfl, rfl, settle_isOpen info a.eki, rfl, rfl⟩

theorem eki_ioctlRound : (ioctlRound stale info a).2.eki = settle info a.eki := by
  obtain ⟨tid, heq⟩ := ioctlRound_eq stale info a
  rw [heq]

/-- A packet that fits the buffer is not empty. -/
theorem pack_ne_nil {tid : UInt32} {cmd len : UInt16} {p1 p2 : UInt32} {ext : List UInt8} {buflen : ℕ}
    (hbuf : hdrLen + ext.length ≤ buflen) : pack tid cmd len p1 p2 ext buflen ≠ [] := by
  rw [pack, if_neg (by omega)]
  intro hnil
  have hlength := congrArg List.length hnil
  simp only [List.length_append, length_vcInitHdr, List.length_nil] at hlength
  omega

theorem vcPackSbaud_ne_nil (tid baud : UInt32) : vcPackSbaud tid baud pbufLen ≠ [] := by
  refine pack_ne_nil ?_
  rw [length_le32]
  decide

theorem vcPackSetlctl_ne_nil (tid : UInt32) (pair dbit sbit : UInt8) :
    vcPackSetlctl tid pair dbit sbit pbufLen ≠ [] := by
  refine pack_ne_nil ?_
  show hdrLen + 3 ≤ pbufLen
  decide

theorem vcPackHflow_ne_nil (tid chflow flowrep stale : UInt32) :
    vcPackHflow tid chflow flowrep stale pbufLen ≠ [] := by
  refine pack_ne_nil ?_
  simp only [List.length_append, length_be32]
  decide

/-- If a round tells nothing, there is nothing to tell. -/
theorem agrees_of_ioctlRound (h : (ioctlRound stale info a).1 = []) :
    Agrees info (ioctlRound stale info a).2.eki := by
  rw [eki_ioctlRound]
  revert h
  unfold ioctlRound settle
  by_cases hbaud : info.baud ≠ a.eki.baud
  · rw [if_pos hbaud]
    exact fun hnil => absurd hnil (vcPackSbaud_ne_nil _ _)
  · rw [if_neg hbaud, if_neg hbaud]
    by_cases hcomset : comset info ≠ comset a.eki
    · rw [if_pos hcomset]
      exact fun hnil => absurd hnil (vcPackSetlctl_ne_nil _ _ _ _)
    · rw [if_neg hcomset, if_neg hcomset]
      obtain ⟨hpair, hstop, hbyte⟩ := (comset_eq_iff _ _).mp (not_not.mp hcomset)
      by_cases hflowctl : info.flowctl ≠ a.eki.flowctl
      · rw [if_pos hflowctl]
        exact fun hnil => absurd hnil (vcPackHflow_ne_nil _ _ _ _)
      · rw [if_neg hflowctl, if_neg hflowctl]
        rw [not_not] at hbaud hflowctl
        by_cases hms : info.ms ≠ a.eki.ms
        · rw [if_pos hms, if_pos hms]
          exact fun _ => ⟨hbaud, hpair, hstop, hbyte, hflowctl, rfl⟩
        · rw [if_neg hms, if_neg hms]
          exact fun _ => ⟨hbaud, hpair, hstop, hbyte, hflowctl, not_not.mp hms⟩

end Round

/-! ### The rounds -/

variable {keep : Prop} {a b : VcAttr} {p q : Port} {info : AdvPortInfo}

/-- The daemon reads `info`.  The page changes only when the daemon asks for it. -/
structure Reads (keep : Prop) (info : AdvPortInfo) (a : VcAttr) (p : Port) : Prop
    extends Linked keep a p where
  page : p.attrs a.attrPtr = info

theorem Reads.drift : Stable (Reads keep info a) := by
  intro p q h hdrift
  have hlinked := h.toLinked.drift hdrift
  obtain ⟨_, _, _, _, -, -, -, rfl⟩ := hdrift
  exact ⟨hlinked, h.page⟩

/-- Only the transaction number and `eki` are others. -/
theorem Reads.told (h : Reads keep info a p) (tid : UInt32) (eki : AdvPortInfo) :
    Reads keep info { a with tid := tid, eki := eki } p :=
  ⟨h.toLinked.congr rfl rfl rfl rfl rfl, h.page⟩

theorem readsAs_reads : ReadsAs driver a.attrPtr info (Reads keep info a) := by
  intro p h
  refine wp_quiet_last Reads.drift h h.attrPtr (fun _ => rfl) fun r q hr hq => ?_
  obtain rfl : r = p.attrs a.attrPtr := hr
  exact ⟨h.page, hq⟩

theorem ioctlPacket_settles (h : Reads keep info a p) :
    wp driver (ioctlPacket a)
      (fun r q => Same a r.2 ∧ Reads keep info r.2 q ∧ r.2.eki = settle info a.eki ∧
        (r.1 = [] → Agrees info r.2.eki)) p := by
  refine wp_mono (ioctlPacket_reads readsAs_reads h fun q hq => ?_) fun r q hr => ?_
  · exact wp_quiet_last Reads.drift hq trivial (fun _ => rfl) fun _ _ _ hu => hu
  · obtain ⟨hq, stale, rfl⟩ := hr
    refine ⟨same_ioctlRound stale info a, ?_, eki_ioctlRound stale info a,
      agrees_of_ioctlRound stale info a⟩
    obtain ⟨tid, heq⟩ := ioctlRound_eq stale info a
    rw [heq]
    exact hq.told _ _

theorem sendPacket_reads (h : Reads keep info a p) (hup : a.sk.isSome) (packet : List UInt8) :
    wp driver (sendPacket a packet) (fun _ q => Reads keep info a q) p :=
  sendPacket_keeps Reads.drift h (fun _ hq => ⟨hq.sk, hup⟩) fun _ _ hq =>
    ⟨hq.toLinked.sent _, hq.page⟩

/-- **As many rounds as kinds differ** are enough, unless the connection is lost. -/
theorem ioctlRounds_settles {rounds : ℕ} (h : Reads True info a p) (hsteady : Steady a)
    (hsk : a.sk.isSome) (hrounds : unsettled info a.eki ≤ rounds) :
    wp driver (ioctlRounds rounds a)
      (fun b q => Held b q ∧ (b.stk = [] ∨ Agrees (q.attrs b.attrPtr) b.eki)) p := by
  induction rounds generalizing a p with
  | zero =>
      have hzero : unsettled info a.eki = 0 := by omega
      refine ⟨⟨h.toLinked, hsteady⟩, Or.inr ?_⟩
      rw [h.page]
      exact (unsettled_eq_zero_iff _ _).mp hzero
  | succ rounds ih =>
      unfold ioctlRounds
      refine wp_seq (ioctlPacket_settles h) fun r q hr => ?_
      obtain ⟨packet, b⟩ := r
      obtain ⟨hsame, hreads, heki, hnone⟩ := hr
      have hbsk : b.sk.isSome := by rw [hsame.sk]; exact hsk
      have hfewer : unsettled info b.eki ≤ rounds := by
        rw [heki, unsettled_settle]
        omega
      show wp driver (if packet = [] then pure b else _) _ q
      split
      · next hnil =>
          refine ⟨⟨hreads.toLinked, hsteady.same hsame⟩, Or.inr ?_⟩
          rw [hreads.page]
          exact hnone hnil
      · refine wp_seq (sendPacket_reads hreads hbsk _) fun ok u hu => ?_
        split
        · have htid : Same b { b with tid := b.tid + 1 } := ⟨rfl, rfl, rfl, rfl, rfl⟩
          exact ih (hu.told _ _) ((hsteady.same hsame).same htid) hbsk hfewer
        · exact wp_mono (excpInit_down hu.toLinked) fun c v hc => ⟨hc.1, Or.inl hc.2⟩

/-! ### The step of the main loop -/

theorem unsettled_le (info eki : AdvPortInfo) : unsettled info eki ≤ 4 := by
  unfold unsettled
  split_ifs <;> omega

theorem curntIoctl_settles (h : Held a p) :
    wp driver (curntIoctl a)
      (fun b q => Held b q ∧ (Upper b.stk → Agrees (q.attrs b.attrPtr) b.eki)) p := by
  have hrounds : stkCurnt a = .netup ∨ stkCurnt a = .pause → wp driver (vcCommonIoctl a)
      (fun b q => Held b q ∧ (Upper b.stk → Agrees (q.attrs b.attrPtr) b.eki)) p := by
    intro hcurnt
    have hreads : Reads True (p.attrs a.attrPtr) a p := ⟨h.linked, rfl⟩
    have hle := unsettled_le (p.attrs a.attrPtr) a.eki
    refine wp_mono (ioctlRounds_settles hreads h.steady (upper_of_stkCurnt h.steady hcurnt).2.1
      (by omega)) fun b q hb => ⟨hb.1, fun hupper => hb.2.resolve_left ?_⟩
    intro hnil
    have hlength := upper_length hupper
    rw [hnil] at hlength
    exact absurd hlength (by decide)
  have hother : ∀ current, stkCurnt a = current → current ≠ .netup → current ≠ .pause →
      Held a p ∧ (Upper a.stk → Agrees (p.attrs a.attrPtr) a.eki) := by
    intro current hcurnt hnetup hpause
    refine ⟨h, fun hupper => ?_⟩
    rcases hupper with hstk | hstk
    · rw [stkCurnt, hstk] at hcurnt
      exact absurd hcurnt.symm hnetup
    · rw [stkCurnt, hstk] at hcurnt
      exact absurd hcurnt.symm hpause
  unfold curntIoctl
  split
  · next hcurnt => exact hrounds (Or.inl hcurnt)
  · next hcurnt => exact hrounds (Or.inr hcurnt)
  · next hcurnt => exact hother _ hcurnt (by decide) (by decide)
  · next hcurnt => exact hother _ hcurnt (by decide) (by decide)
  · next hcurnt => exact hother _ hcurnt (by decide) (by decide)

/-- **The server knows the settings** when the step is done, in the states in which data is sent. -/
theorem mainIoctl_settles (h : Held a p) :
    wp driver (mainIoctl a)
      (fun b q => Held b q ∧ (Upper b.stk → Agrees (q.attrs b.attrPtr) b.eki)) p := by
  have hreads : Reads True (p.attrs a.attrPtr) a p := ⟨h.linked, rfl⟩
  unfold mainIoctl
  refine wp_seq (anyDiff_reads readsAs_reads hreads _) fun diff q hdiff => ?_
  have hq : Held a q := ⟨hdiff.2.toLinked, h.steady⟩
  split
  · exact curntIoctl_settles hq
  · next hsame =>
      have hall := hdiff.1 (Bool.eq_false_iff.mpr hsame)
      refine ⟨hq, fun _ => ?_⟩
      rw [hdiff.2.page]
      exact ⟨hall (·.baud) (by simp), hall (·.pair) (by simp), hall (·.stop) (by simp),
        hall (·.byte) (by simp), hall (·.flowctl) (by simp), hall (·.ms) (by simp)⟩

end ModbusRTU.DaemonSettings
