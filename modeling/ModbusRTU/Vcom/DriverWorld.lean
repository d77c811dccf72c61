import ModbusRTU.Interaction.WorldLogic
import ModbusRTU.Vcom.DaemonCalls
import ModbusRTU.Vcom.PortBuffers
import ModbusRTU.Vcom.Packets

/-!
# The driver as the daemon's world

A `Port` is a port of the driver (`struct adv_vcom` in `advvcom.h`) and the daemon's connection, with a
record of what passed through them.  `answers` and `after` are what a call of the daemon is answered and
does: the driver's part is `adv_proc_ioctl` of `adv_main.c`.  Between two calls the terminal goes on
(`Drift`): it appends to the receive ring, takes from the transmit ring and changes the settings.

`may` is what the daemon has to keep to:

* it uses the connection that is open, opens one only if none is, and never comes to `exit(0)`;
* it reads inside the page, writes only where no byte is queued, and publishes only what it received
  since it last did;
* unless the ring was cleared it removes only bytes that it sent, in the order of the ring.

**`Sound.step`** says what that is good for: the record stays sound (`Sound`).
-/

namespace ModbusRTU.DriverWorld

open CallProgram WorldLogic RingWindow SpanCopies PortBuffers Packets DaemonCalls

/-- A ring of the driver with its page, and whether `ADV_RING_BUF_CLEAN` is set. -/
structure Ring where
  buf : RingBuf
  clean : Bool
  cells : ℕ → UInt8

def Ring.bytes (r : Ring) : List UInt8 := queue r.buf r.cells

/-- `move_rb_head`. -/
def Ring.moveHead (r : Ring) (length : ℕ) : Ring :=
  if r.clean then { r with clean := false, buf := { r.buf with head := r.buf.tail } }
  else { r with buf := moveRbHead r.buf length }

def Ring.moveTail (r : Ring) (length : ℕ) : Ring := { r with buf := moveRbTail r.buf length }

/-- How bytes left the receive ring. -/
inductive Left where
  | acked (data : List UInt8)
  | cleared (data : List UInt8)

def Left.bytes : Left → List UInt8
  | .acked data => data
  | .cleared data => data

def Left.ack : Left → Option (List UInt8)
  | .acked data => some data
  | .cleared _ => none

/-- The port, the connection and the record.  `attrs` are the two entries of the attribute page and
`info` the settings as the terminal left them.  `written` and `drained` are the bytes of the terminal,
`sent` the data of the `WRITE` packets, `received` the bytes of the server, and `unread` those of
them that came after the tail of the transmit ring was last moved. -/
structure Port where
  sk : Sock
  attrs : ℕ → AdvPortInfo
  usrPtr : ℕ
  newbie : Bool
  info : AdvPortInfo
  rx : Ring
  tx : Ring
  written : List UInt8
  left : List Left
  sent : List (List UInt8)
  received : List UInt8
  unread : List UInt8
  drained : List UInt8

def pageSize : ℕ := 4096

/-- A new port (`adv_main_init`), with the pages as they are allocated. -/
def advMainInit (rxPage txPage : ℕ → UInt8) : Port where
  sk := none
  attrs := fun _ => ⟨0, 0, 0, 0, 0, 0, 0⟩
  usrPtr := 0
  newbie := true
  info := ⟨0, 0, 0, 0, 0, 0, 0⟩
  rx := ⟨⟨0, 0, pageSize⟩, false, rxPage⟩
  tx := ⟨⟨0, 0, pageSize⟩, false, txPage⟩
  written := []
  left := []
  sent := []
  received := []
  unread := []
  drained := []

def Port.acks (p : Port) : List (List UInt8) := p.left.filterMap Left.ack

/-! ### What the calls do -/

def reg (p : Port) : Reg → ℕ
  | .txBegin => 0
  | .txSize => p.tx.buf.size
  | .txHead => p.tx.buf.head
  | .txTail => p.tx.buf.tail
  | .rxBegin => p.tx.buf.size
  | .rxSize => p.rx.buf.size
  | .rxHead => p.rx.buf.head
  | .rxTail => p.rx.buf.tail

/-- `flush_attr_info`: the settings go to the other entry, the first time to the same one. -/
def flushAttrInfo (p : Port) : Port :=
  let ptr := if p.newbie then p.usrPtr else (p.usrPtr + 1) % 2
  { p with newbie := false, usrPtr := ptr, attrs := fun i => if i = ptr then p.info else p.attrs i }

/-- `adv_main_clear`. -/
def advMainClear (p : Port) (mask : UInt32) : Port :=
  let p := if mask &&& advClrRx ≠ 0 then { p with rx := { p.rx with clean := true } } else p
  if mask &&& advClrTx ≠ 0 then { p with tx := { p.tx with clean := true }.moveHead 0 } else p

/-- The removal of bytes from the receive ring. -/
def dropRx (p : Port) (length : ℕ) : Port :=
  { p with
    rx := p.rx.moveHead length
    left :=
      if p.rx.clean then p.left ++ [.cleared p.rx.bytes]
      else if length = 0 then p.left
      else p.left ++ [.acked (p.rx.bytes.take length)] }

/-- The data of the `WRITE` packets in a stream. -/
def writes (stream : List UInt8) : List (List UInt8) :=
  (decodeAll stream.length stream).filterMap fun p => if p.cmd = vcomCmdWrite then some p.ext else none

/-- The packet of `vc_common_xmit` carries its data. -/
theorem writes_vcPackXmit (tid : UInt32) {data : List UInt8} {buflen : ℕ}
    (hdata : data.length < 65536) (hbuf : hdrLen + data.length ≤ buflen) :
    writes (vcPackXmit tid data buflen) = [data] := by
  have hlen : (UInt16.ofNat data.length).toNat = data.length := by
    rw [UInt16.toNat_ofNat', Nat.mod_eq_of_lt hdata]
  unfold writes vcPackXmit
  rw [pack_eq_encode _ _ _ _ _ _ _ hlen hbuf, decodeAll_single]
  rfl

/-- What a call can be answered. -/
def answers (p : Port) : (op : Op) → Ans op → Prop
  | .attr ptr, r => r = p.attrs ptr
  | .rxRead pos n, r => r = span p.rx.cells pos n
  | .iocG reg', r => r = some (reg p reg')
  | .iocGAttrBegin, r => r = true
  | .iocGAttrPtr, r => r = some (flushAttrInfo p).usrPtr
  | .iocSTxTail _, r => r = true
  | .iocSRxHead _, r => r = true
  | .iocSClr _, r => r = true
  | .recv _ len, r => ∀ data, r = some data → data.length ≤ len
  | _, _ => True

/-- What a call does. -/
def after (p : Port) : (op : Op) → Ans op → Port
  | .txWrite pos data, _ => { p with tx := { p.tx with cells := store p.tx.cells pos data } }
  | .iocGAttrPtr, _ => flushAttrInfo p
  | .iocSTxTail length, _ => { p with tx := p.tx.moveTail length, unread := [] }
  | .iocSRxHead length, _ => dropRx p length
  | .iocSClr mask, _ => advMainClear p mask
  | .vcConnect, r => { p with sk := r }
  | .send _ data, r =>
      { p with sent := p.sent ++ if r = (data.length : ℤ) then writes data else [] }
  | .recv _ _, r =>
      { p with received := p.received ++ r.getD [], unread := p.unread ++ r.getD [] }
  | .close _, _ => { p with sk := none }
  | _, _ => p

/-- What the terminal does between two calls: it appends bytes to the receive ring, takes bytes from
the transmit ring and changes the settings. -/
def Drift (p q : Port) : Prop :=
  ∃ (data : List UInt8) (cells : ℕ → UInt8) (n : ℕ) (info : AdvPortInfo),
    data.length ≤ getRbRoom p.rx.buf ∧
    queue (moveRbTail p.rx.buf data.length) cells = p.rx.bytes ++ data ∧
    n ≤ getRbLength p.tx.buf ∧
    q = { p with
      rx := { p.rx with buf := moveRbTail p.rx.buf data.length, cells := cells }
      written := p.written ++ data
      tx := { p.tx with buf := moveRbHead p.tx.buf n }
      drained := p.drained ++ p.tx.bytes.take n
      info := info }

/-! ### What the daemon may do -/

def may (p : Port) : Op → Prop
  | .attr ptr => ptr = p.usrPtr
  | .rxRead pos n => pos + n ≤ p.rx.buf.size
  | .txWrite pos data => pos + data.length ≤ p.tx.buf.size ∧
      ∃ k, pos = (p.tx.buf.tail + k) % p.tx.buf.size ∧ k + data.length ≤ getRbRoom p.tx.buf
  | .iocSTxTail n => n ≤ getRbRoom p.tx.buf ∧
      window p.tx.buf.size p.tx.cells p.tx.buf.tail n <:+ p.unread
  | .iocSRxHead n => p.rx.clean = true ∨ n = 0 ∨
      n ≤ getRbLength p.rx.buf ∧ (p.acks ++ [p.rx.bytes.take n]).Sublist p.sent
  | .vcConnect => p.sk = none
  | .fdcheck sk | .send sk _ | .siocinq sk | .siocoutq sk | .close sk => sk = p.sk ∧ sk.isSome
  | .recv sk _ | .selectRead sk => sk = p.sk
  | .exit => False
  | _ => True

def driver : World Op Ans Port where
  may := may
  step := fun p op r q => answers p op r ∧ Drift (after p op r) q

/-! ### The record -/

/-- The record is sound: the bytes the terminal wrote have left the ring or are in it; what left it as
acknowledged was sent, in this order; what the terminal took, has in its ring or is still to come
was received, in this order. -/
structure Sound (p : Port) : Prop where
  rx_wf : p.rx.buf.WF
  tx_wf : p.tx.buf.WF
  written : p.written = p.left.flatMap Left.bytes ++ p.rx.bytes
  acked : p.acks.Sublist p.sent
  received : (p.drained ++ p.tx.bytes ++ p.unread).Sublist p.received

/-- If nothing was cleared, all that left was acknowledged. -/
theorem flatMap_bytes_of_acks (p : Port) (h : ∀ l ∈ p.left, l.ack.isSome) :
    p.left.flatMap Left.bytes = p.acks.flatten := by
  unfold Port.acks
  generalize p.left = left at h
  induction left with
  | nil => rfl
  | cons l left ih =>
      have hrest := ih fun l' hl' => h l' (List.mem_cons_of_mem l hl')
      cases l with
      | acked data =>
          rw [List.flatMap_cons, hrest]
          rfl
      | cleared data =>
          have hack := h (.cleared data) (List.mem_cons_self ..)
          exact absurd hack Bool.false_ne_true

@[simp] theorem length_bytes (r : Ring) : r.bytes.length = getRbLength r.buf := length_queue ..

theorem Sound.drift {p q : Port} (h : Sound p) (hdrift : Drift p q) : Sound q := by
  obtain ⟨data, cells, n, info, hroom, hqueue, hn, rfl⟩ := hdrift
  have htake : queue (moveRbHead p.tx.buf n) p.tx.cells = p.tx.bytes.drop n :=
    queue_moveRbHead h.tx_wf p.tx.cells hn
  refine ⟨moveRbTail_wf h.rx_wf _, moveRbHead_wf h.tx_wf _, ?_, h.acked, ?_⟩
  · show p.written ++ data = p.left.flatMap Left.bytes ++ queue (moveRbTail p.rx.buf data.length) cells
    rw [hqueue, h.written, List.append_assoc]
  · show (p.drained ++ p.tx.bytes.take n ++ queue (moveRbHead p.tx.buf n) p.tx.cells ++
      p.unread).Sublist p.received
    rw [htake, List.append_assoc p.drained, List.take_append_drop]
    exact h.received

/-- The terminal may do nothing but change the settings. -/
theorem Drift.settings {p : Port} (hrx : p.rx.buf.WF) (htx : p.tx.buf.WF) (info : AdvPortInfo) :
    Drift p { p with info := info } := by
  refine ⟨[], p.rx.cells, 0, info, Nat.zero_le _, ?_, Nat.zero_le _, ?_⟩
  · rw [List.append_nil, List.length_nil, moveRbTail_zero hrx]
    rfl
  · rw [List.append_nil, List.take_zero, List.append_nil, List.length_nil, moveRbTail_zero hrx,
      moveRbHead_zero htx]

theorem Drift.refl {p : Port} (hrx : p.rx.buf.WF) (htx : p.tx.buf.WF) : Drift p p :=
  Drift.settings hrx htx p.info

/-- What it does twice it could do at once. -/
theorem Drift.trans {p q r : Port} (hrx : p.rx.buf.WF) (htx : p.tx.buf.WF) (hpq : Drift p q)
    (hqr : Drift q r) : Drift p r := by
  obtain ⟨data, cells, n, info, hroom, hqueue, hn, rfl⟩ := hpq
  obtain ⟨data', cells', n', info', hroom', hqueue', hn', rfl⟩ := hqr
  have htotal := getRbRoom_add hrx
  have htotal' := getRbRoom_add (moveRbTail_wf hrx data.length)
  have hlength := getRbLength_moveRbTail hrx hroom
  have hlength' := getRbLength_moveRbHead htx hn
  have hsize : (moveRbTail p.rx.buf data.length).size = p.rx.buf.size := rfl
  refine ⟨data ++ data', cells', n + n', info', ?_, ?_, ?_, ?_⟩
  · rw [List.length_append]
    dsimp only at hroom'
    omega
  · dsimp only [Ring.bytes] at hqueue'
    rw [List.length_append, ← moveRbTail_moveRbTail, hqueue', hqueue, List.append_assoc]
  · dsimp only at hn'
    omega
  · have htake : queue (moveRbHead p.tx.buf n) p.tx.cells = p.tx.bytes.drop n :=
      queue_moveRbHead htx p.tx.cells hn
    simp only [Ring.bytes] at htake ⊢
    rw [List.length_append, moveRbTail_moveRbTail, moveRbHead_moveRbHead, htake, List.append_assoc,
      List.append_assoc, List.take_add]

/-- An empty ring. -/
theorem bytes_of_head_eq_tail {r : Ring} (h : r.buf.head = r.buf.tail) : r.bytes = [] := by
  apply List.eq_nil_of_length_eq_zero
  rw [length_bytes, getRbLength, if_pos (by omega), h, Nat.sub_self]

theorem Sound.dropRx {p : Port} (h : Sound p) {n : ℕ} (hmay : may p (.iocSRxHead n)) :
    Sound (dropRx p n) := by
  unfold DriverWorld.dropRx Ring.moveHead
  by_cases hclean : p.rx.clean = true
  · -- the ring was cleared: all its bytes go
    simp only [hclean, if_true]
    have hempty : Ring.bytes ⟨{ p.rx.buf with head := p.rx.buf.tail }, false, p.rx.cells⟩ = [] :=
      bytes_of_head_eq_tail rfl
    refine ⟨⟨h.rx_wf.tail_lt, h.rx_wf.tail_lt⟩, h.tx_wf, ?_, ?_, h.received⟩
    · rw [hempty, List.append_nil, List.flatMap_append]
      show p.written = p.left.flatMap Left.bytes ++ (p.rx.bytes ++ [])
      rw [List.append_nil]
      exact h.written
    · show (List.filterMap Left.ack (p.left ++ [Left.cleared p.rx.bytes])).Sublist p.sent
      rw [List.filterMap_append]
      show (p.acks ++ []).Sublist p.sent
      rw [List.append_nil]
      exact h.acked
  · rw [Bool.not_eq_true] at hclean
    simp only [hclean, Bool.false_eq_true, if_false]
    by_cases hn : n = 0
    · subst hn
      simp only [if_true]
      have hbytes : queue (moveRbHead p.rx.buf 0) p.rx.cells = p.rx.bytes :=
        queue_moveRbHead h.rx_wf p.rx.cells (Nat.zero_le _)
      refine ⟨moveRbHead_wf h.rx_wf 0, h.tx_wf, ?_, h.acked, h.received⟩
      show p.written = p.left.flatMap Left.bytes ++ queue (moveRbHead p.rx.buf 0) p.rx.cells
      rw [hbytes]
      exact h.written
    · rcases hmay with hbad | hzero | ⟨hle, hsent⟩
      · rw [hclean] at hbad
        exact absurd hbad (by decide)
      · exact absurd hzero hn
      · simp only [hn, if_false]
        have hbytes : queue (moveRbHead p.rx.buf n) p.rx.cells = p.rx.bytes.drop n :=
          queue_moveRbHead h.rx_wf p.rx.cells hle
        refine ⟨moveRbHead_wf h.rx_wf n, h.tx_wf, ?_, ?_, h.received⟩
        · show p.written = (p.left ++ [Left.acked (p.rx.bytes.take n)]).flatMap Left.bytes ++
            queue (moveRbHead p.rx.buf n) p.rx.cells
          rw [hbytes, List.flatMap_append, List.append_assoc]
          show p.written = _ ++ ((p.rx.bytes.take n ++ []) ++ p.rx.bytes.drop n)
          rw [List.append_nil, List.take_append_drop]
          exact h.written
        · show (List.filterMap Left.ack (p.left ++ [Left.acked (p.rx.bytes.take n)])).Sublist p.sent
          rw [List.filterMap_append]
          exact hsent

theorem Sound.advMainClear {p : Port} (h : Sound p) (mask : UInt32) :
    Sound (advMainClear p mask) := by
  have hrx : ∀ r : Ring, r.buf = p.rx.buf → r.cells = p.rx.cells → Sound { p with rx := r } := by
    intro r hbuf hcells
    have hbytes : r.bytes = p.rx.bytes := by rw [Ring.bytes, hbuf, hcells, Ring.bytes]
    refine ⟨hbuf ▸ h.rx_wf, h.tx_wf, ?_, h.acked, h.received⟩
    show p.written = p.left.flatMap Left.bytes ++ r.bytes
    rw [hbytes]
    exact h.written
  have htx : ∀ q : Port, Sound q →
      Sound { q with tx := Ring.moveHead { q.tx with clean := true } 0 } := by
    intro q hq
    refine ⟨hq.rx_wf, ⟨hq.tx_wf.tail_lt, hq.tx_wf.tail_lt⟩, hq.written, hq.acked, ?_⟩
    show (q.drained ++ Ring.bytes ⟨{ q.tx.buf with head := q.tx.buf.tail }, false, q.tx.cells⟩ ++
      q.unread).Sublist q.received
    rw [bytes_of_head_eq_tail rfl, List.append_nil]
    refine List.Sublist.trans ?_ hq.received
    exact (List.sublist_append_left ..).append_right _
  unfold DriverWorld.advMainClear
  by_cases hmask : mask &&& advClrRx ≠ 0
  · rw [if_pos hmask]
    split
    · exact htx _ (hrx { p.rx with clean := true } rfl rfl)
    · exact hrx { p.rx with clean := true } rfl rfl
  · rw [if_neg hmask]
    split
    · exact htx _ h
    · exact h

/-- A call that may be made keeps the record sound. -/
theorem Sound.after {p : Port} (h : Sound p) {op : Op} (hmay : may p op) (r : Ans op) :
    Sound (after p op r) := by
  cases op with
  | txWrite pos data =>
      obtain ⟨-, k, rfl, hroom⟩ := hmay
      have hlength := getRbRoom_add h.tx_wf
      have hpos : (p.tx.buf.tail + k) % p.tx.buf.size =
          (p.tx.buf.head + (getRbLength p.tx.buf + k)) % p.tx.buf.size := by
        rw [tail_eq h.tx_wf, Nat.mod_add_mod, Nat.add_assoc]
      have hbytes : queue p.tx.buf (store p.tx.cells ((p.tx.buf.tail + k) % p.tx.buf.size) data) =
          p.tx.bytes := by
        rw [hpos]
        exact window_store_of_free p.tx.cells (Nat.le_add_right ..) (by omega)
      refine ⟨h.rx_wf, h.tx_wf, h.written, h.acked, ?_⟩
      show (p.drained ++ queue p.tx.buf
        (store p.tx.cells ((p.tx.buf.tail + k) % p.tx.buf.size) data) ++ p.unread).Sublist p.received
      rw [hbytes]
      exact h.received
  | iocSTxTail n =>
      obtain ⟨hroom, hsuffix⟩ := hmay
      refine ⟨h.rx_wf, moveRbTail_wf h.tx_wf n, h.written, h.acked, ?_⟩
      show (p.drained ++ queue (moveRbTail p.tx.buf n) p.tx.cells ++ []).Sublist p.received
      rw [queue_moveRbTail h.tx_wf p.tx.cells hroom, List.append_nil, ← List.append_assoc]
      exact (hsuffix.sublist.append_left _).trans h.received
  | iocSRxHead n => exact h.dropRx hmay
  | iocSClr mask => exact h.advMainClear mask
  | send sk data =>
      exact ⟨h.rx_wf, h.tx_wf, h.written, h.acked.trans (List.sublist_append_left ..), h.received⟩
  | recv sk len =>
      refine ⟨h.rx_wf, h.tx_wf, h.written, h.acked, ?_⟩
      show (p.drained ++ p.tx.bytes ++ (p.unread ++ r.getD [])).Sublist (p.received ++ r.getD [])
      rw [← List.append_assoc]
      exact h.received.append_right _
  | iocGAttrPtr | vcConnect | close sk =>
      exact ⟨h.rx_wf, h.tx_wf, h.written, h.acked, h.received⟩
  | _ => exact h

/-- **The record stays sound** as long as the daemon does what it may. -/
theorem Sound.step {p q : Port} {op : Op} {r : Ans op} (h : Sound p) (hmay : driver.may p op)
    (hstep : driver.step p op r q) : Sound q := (h.after hmay r).drift hstep.2

end ModbusRTU.DriverWorld
